import Taxon.Config.Environment
import Taxon.Proofs.Text.ByteOrder
import Taxon.Proofs.Text.Decimal

/-!
The variables that configure the predicate. The depth is read by one grammar: white space, at most
one plus sign, decimal digits, white space. Whatever else stands in the variable leaves the default,
and the debug variable counts by being set alone.
-/

set_option autoImplicit false

namespace Taxon

namespace Config

/-- The texts that spell a number: any white space around at most one plus sign and one or more of
the digits from `0` to `9`. -/
inductive Spells : List Char → Nat → Prop where
  | number {lead sign digits trail : List Char}
      (leading : ∀ c ∈ lead, c.toNat ∈ whiteSpace) (signed : sign = [] ∨ sign = ['+'])
      (nonempty : digits ≠ []) (decimal : ∀ c ∈ digits, 48 ≤ c.toNat ∧ c.toNat ≤ 57)
      (trailing : ∀ c ∈ trail, c.toNat ∈ whiteSpace) :
      Spells (lead ++ (sign ++ digits) ++ trail) (Digits.placeValue digits)

theorem without_plus_split (text : List Char) :
    ∃ sign, (sign = [] ∨ sign = ['+']) ∧ text = sign ++ withoutPlus text := by
  unfold withoutPlus
  split
  · exact ⟨['+'], .inr rfl, rfl⟩
  · exact ⟨[], .inl rfl, rfl⟩

theorem without_plus_digits {sign digits : List Char} (signed : sign = [] ∨ sign = ['+'])
    (decimal : ∀ c ∈ digits, Digits.isDecimal c = true) :
    withoutPlus (sign ++ digits) = digits := by
  obtain rfl | rfl := signed
  · rw [List.nil_append]
    unfold withoutPlus
    split
    · exact absurd (decimal '+' List.mem_cons_self) (by decide)
    · rfl
  · rfl

theorem number_solid {sign digits : List Char} (signed : sign = [] ∨ sign = ['+'])
    (decimal : ∀ c ∈ digits, 48 ≤ c.toNat ∧ c.toNat ≤ 57) :
    ∀ c ∈ sign ++ digits, ¬isBlank c = true := by
  have ofSign : ∀ c ∈ sign, ¬isBlank c = true := by
    obtain rfl | rfl := signed
    · exact fun _ member => absurd member List.not_mem_nil
    · exact List.forall_mem_singleton.mpr (by decide)
  have ofDigits : ∀ c ∈ digits, ¬isBlank c = true := by
    intro c member
    obtain ⟨first, last⟩ := decimal c member
    simp only [is_blank_iff, whiteSpace, List.mem_cons, List.not_mem_nil, or_false]
    omega
  exact List.forall_mem_append.mpr ⟨ofSign, ofDigits⟩

theorem spells_iff (text : List Char) (number : Nat) :
    Spells text number ↔ withoutPlus (trimBlanks text) ≠ [] ∧
      (∀ c ∈ withoutPlus (trimBlanks text), Digits.isDecimal c = true) ∧
      Digits.value 10 (withoutPlus (trimBlanks text)) = number := by
  constructor
  · intro spells
    cases spells with
    | @number lead sign digits trail leading signed nonempty decimal trailing =>
        have digital : ∀ c ∈ digits, Digits.isDecimal c = true :=
          fun c member => (Digits.is_decimal_iff c).mpr (decimal c member)
        have trimmed : trimBlanks (lead ++ (sign ++ digits) ++ trail) = sign ++ digits :=
          trim_solid (fun c member => (is_blank_iff c).mpr (leading c member))
            (number_solid signed decimal) (List.append_ne_nil_of_right_ne_nil sign nonempty)
            fun c member => (is_blank_iff c).mpr (trailing c member)
        rw [trimmed, without_plus_digits signed digital]
        exact ⟨nonempty, digital, Digits.value_eq_place_value digits digital⟩
  · rintro ⟨nonempty, digital, rfl⟩
    obtain ⟨lead, trail, trimmed, leading, trailing⟩ := trim_split text
    obtain ⟨sign, signed, signless⟩ := without_plus_split (trimBlanks text)
    rw [Digits.value_eq_place_value _ digital]
    have spells := Spells.number (fun c member => (is_blank_iff c).mp (leading c member)) signed
      nonempty (fun c member => (Digits.is_decimal_iff c).mp (digital c member))
      fun c member => (is_blank_iff c).mp (trailing c member)
    rwa [← signless, ← trimmed] at spells

theorem depth_iff (text : String) (depth : Nat) :
    depthOf? text = some depth ↔ Spells text.toList depth ∧ depth ≤ 4096 := by
  rw [spells_iff, depthOf?]
  simp only [Option.ite_none_right_eq_some, Option.some.injEq, List.all_eq_true]
  constructor
  · rintro ⟨⟨nonempty, digital, within⟩, rfl⟩
    exact ⟨⟨nonempty, digital, rfl⟩, within⟩
  · rintro ⟨⟨nonempty, digital, rfl⟩, within⟩
    exact ⟨⟨nonempty, digital, within⟩, rfl⟩

example : depthOf? "\u3000+0004096\x09" = some 4096 := by decide

-- Words of 64 bits that wrap around would read a one.
example : depthOf? "18446744073709551617" = none := by decide

def wordDepth? (text : String) : Option UInt64 :=
  let digits := withoutPlus (trimBlanks text.toList)
  if digits ≠ [] ∧ digits.all Digits.isDecimal then
    (Digits.word? digits).filter (·.toNat ≤ proxyDepthCeiling)
  else none

/-- Numbers out of the range of words are above the ceiling as well. -/
theorem word_depth_to_nat (text : String) : (wordDepth? text).map UInt64.toNat = depthOf? text := by
  unfold wordDepth? depthOf?
  generalize withoutPlus (trimBlanks text.toList) = digits
  dsimp only
  by_cases formed : digits ≠ [] ∧ digits.all Digits.isDecimal = true
  · have read := Digits.word_to_nat digits
    rw [if_pos formed]
    by_cases within : Digits.value 10 digits ≤ proxyDepthCeiling
    · have fits : Digits.value 10 digits < 2 ^ 64 := by
        unfold proxyDepthCeiling at within
        omega
      rw [if_pos fits] at read
      obtain ⟨word, found, same⟩ := Option.map_eq_some_iff.mp read
      rw [if_pos ⟨formed.1, formed.2, within⟩, found, Option.filter_some, same,
        if_pos (decide_eq_true within), Option.map_some, same]
    · have above : (Digits.word? digits).filter (·.toNat ≤ proxyDepthCeiling) = none := by
        apply Option.filter_eq_none_iff.mpr
        intro word found
        rw [found, Option.map_some] at read
        split at read
        · rw [Option.some.inj read]
          exact fun low => within (of_decide_eq_true low)
        · cases read
      rw [above, if_neg fun all => within all.2.2]
      rfl
  · rw [if_neg formed, if_neg fun all => formed ⟨all.1, all.2.1⟩]
    rfl

theorem decoded_iff (content : ByteArray) (text : String) :
    Setting.ofBytes content = .text text ↔ content = text.toUTF8 := by
  rw [← from_utf8_iff, Setting.ofBytes]
  cases String.fromUTF8? content with
  | none => simp
  | some decoded => simp

theorem undecoded_iff (content : ByteArray) :
    Setting.ofBytes content = .bytes ↔ ∀ text : String, content ≠ text.toUTF8 := by
  simp only [ne_eq, ← from_utf8_iff, Setting.ofBytes]
  cases String.fromUTF8? content with
  | none => simp
  | some decoded => simp

theorem setting_text_iff (setting : Setting) (text : String) :
    setting.text? = some text ↔ setting = .text text := by
  cases setting <;> simp [Setting.text?]

theorem depth_given {environment : Environment} {text : String} {depth : Nat}
    (given : environment.depth = .text text) (read : depthOf? text = some depth) :
    (ofEnvironment environment).maxProxyDepth = depth := by
  rw [ofEnvironment, given]
  exact congrArg (Option.getD · defaultProxyDepth) read

theorem depth_ignored {environment : Environment}
    (unread : ∀ text depth, environment.depth = .text text → depthOf? text ≠ some depth) :
    (ofEnvironment environment).maxProxyDepth = 64 := by
  have nothing : environment.depth.text?.bind depthOf? = none := by
    apply Option.bind_eq_none_iff.mpr
    intro text given
    apply Option.eq_none_iff_forall_ne_some.mpr
    exact fun depth => unread text depth ((setting_text_iff _ _).mp given)
  rw [ofEnvironment, nothing]
  rfl

theorem debug_iff (environment : Environment) :
    (ofEnvironment environment).debug = true ↔ ∃ text, environment.debug = .text text := by
  rw [ofEnvironment, Option.isSome_iff_exists]
  exact exists_congr fun text => setting_text_iff _ text

/-- How the variables configure the predicate, and what bytes set them to. -/
structure VariableLaw : Prop where
  read : ∀ text depth, depthOf? text = some depth ↔ Spells text.toList depth ∧ depth ≤ 4096
  words : ∀ text, (wordDepth? text).map UInt64.toNat = depthOf? text
  depth : ∀ environment text depth, environment.depth = .text text → Spells text.toList depth →
    depth ≤ 4096 → (ofEnvironment environment).maxProxyDepth = depth
  depthIgnored : ∀ environment, (∀ text depth, environment.depth = .text text →
    Spells text.toList depth → ¬depth ≤ 4096) → (ofEnvironment environment).maxProxyDepth = 64
  debug : ∀ environment, (ofEnvironment environment).debug = true ↔
    ∃ text, environment.debug = .text text
  text : ∀ content text, Setting.ofBytes content = .text text ↔ content = text.toUTF8
  bytes : ∀ content, Setting.ofBytes content = .bytes ↔ ∀ text : String, content ≠ text.toUTF8

theorem variable_law : VariableLaw where
  read := depth_iff
  words := word_depth_to_nat
  depth := by
    intro environment text depth given spells within
    exact depth_given given ((depth_iff text depth).mpr ⟨spells, within⟩)
  depthIgnored := by
    intro environment unread
    apply depth_ignored
    intro text depth given read
    obtain ⟨spells, within⟩ := (depth_iff text depth).mp read
    exact unread text depth given spells within
  debug := debug_iff
  text := decoded_iff
  bytes := undecoded_iff

end Config

end Taxon
