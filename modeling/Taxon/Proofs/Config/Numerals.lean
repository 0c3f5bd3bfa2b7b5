import Taxon.Proofs.Config.Answers
import Taxon.Proofs.Config.Variables
import Taxon.Proofs.Toml.Integer
import Taxon.Proofs.Toml.Printed

/-!
One number given in two ways: as the text of the depth variable, and in a document of one line. Up
to the ceiling both give the number. Above it the variable is ignored, and the document is refused:
for its range as long as the number is one of 64 bits, and for what stands under the key beyond
them. A float is refused in the words in which it was given.
-/

set_option autoImplicit false

namespace Taxon

namespace Config

def depthLine (n : Nat) : String := "max_proxy_depth = " ++ toString n

theorem to_string_digits (n : Nat) : (toString n).toList = Nat.toDigits 10 n := by
  rw [Nat.toString_eq_ofList_toDigits, String.toList_ofList]

theorem numeral_iff (text : String) (n : Nat) :
    Digits.Canonical text.toList ∧ Digits.placeValue text.toList = n ↔ text = toString n := by
  rw [← String.toList_inj, to_string_digits, ← Digits.canonical_iff]
  refine and_congr_right fun canonical => ?_
  rw [Digits.value_eq_place_value _ canonical.decimal]

theorem numeral_spells (n : Nat) : Spells (toString n).toList n := by
  obtain ⟨canonical, same⟩ := (numeral_iff (toString n) n).mpr rfl
  have spells := Spells.number (List.forall_mem_nil _) (.inl rfl) canonical.nonempty
    (fun c member => (Digits.is_decimal_iff c).mp (canonical.decimal c member))
    (List.forall_mem_nil _)
  rwa [same, List.nil_append, List.nil_append, List.append_nil] at spells

theorem depth_of_numeral (n : Nat) : depthOf? (toString n) = some n ↔ n ≤ 4096 := by
  rw [depth_iff]
  exact and_iff_right (numeral_spells n)

theorem no_depth_of_numeral {n : Nat} (above : 4096 < n) : depthOf? (toString n) = none := by
  apply Option.eq_none_iff_forall_ne_some.mpr
  intro depth read
  obtain ⟨spells, within⟩ := (depth_iff _ _).mp read
  -- A text spells one number at most, and this one spells a number above the ceiling.
  have same : depth = n :=
    ((spells_iff _ _).mp spells).2.2.symm.trans ((spells_iff _ _).mp (numeral_spells n)).2.2
  omega

theorem environment_of_no_depth {environment : Environment} {text : String}
    (given : environment.depth = .text text) (unread : depthOf? text = none) :
    ofEnvironment environment = ofEnvironment { environment with depth := .unset } := by
  simp only [ofEnvironment, given, Setting.text?, Option.bind_some, unread, Option.bind_none]

theorem depth_key_split (text : String) :
    ("max_proxy_depth = " ++ text).toList =
      "max_proxy_depth".toList ++ ' ' :: '=' :: ' ' :: text.toList := by
  have front : "max_proxy_depth = ".toList = "max_proxy_depth".toList ++ [' ', '=', ' '] := by
    decide
  rw [String.toList_append, front, List.append_assoc]
  rfl

theorem depth_key_bare : ∀ c ∈ "max_proxy_depth".toList, Toml.isKeyChar c = true :=
  each_of_all (by decide)

theorem depth_line_entries (n : Nat) :
    Toml.document? (depthLine n) = some [("max_proxy_depth", .scalar (.ofInteger n))] := by
  obtain ⟨canonical, same⟩ := (numeral_iff (toString n) n).mpr rfl
  have named : "max_proxy_depth".toList ≠ [] := by decide
  have read := Toml.document_of_token named depth_key_bare (Toml.token_of_digits canonical)
    (depth_key_split (toString n))
  rwa [Digits.value_eq_place_value _ canonical.decimal, same, String.ofList_toList] at read

section Answer

variable {reader : Toml.Reader} {text : String} {node : Toml.Node}

theorem entries_of_depth (node : Toml.Node) :
    ofEntries [("max_proxy_depth", node)] =
      (depthOfNode node).map default.withMaxProxyDepth := by
  rw [ofEntries, sorted, List.mergeSort_singleton, List.foldlM_cons, visit_depth]
  cases depthOfNode node with
  | error cause => rfl
  | ok depth => rfl

theorem text_of_depth (read : reader text = some [("max_proxy_depth", node)]) :
    ofText reader text =
      match depthOfNode node with
      | .error cause => .error (.configSchema cause)
      | .ok depth => validate ⟨depth, false⟩ := by
  rw [ofText, read]
  simp only [entries_of_depth]
  cases depthOfNode node with
  | error cause => rfl
  | ok depth => rfl

end Answer

theorem integer_of_fitting {n : Nat} (fits : n < 2 ^ 127) :
    Toml.Scalar.ofInteger n = .integer n := by
  rw [Toml.Scalar.ofInteger, if_pos]
  rw [Bool.and_eq_true, decide_eq_true_eq, decide_eq_true_eq]
  change -(2 : Int) ^ 127 ≤ n ∧ (n : Int) < 2 ^ 127
  omega

theorem unreadable_of_beyond {n : Nat} (beyond : 2 ^ 127 ≤ n) :
    Toml.Scalar.ofInteger n = .unreadable := by
  rw [Toml.Scalar.ofInteger, if_neg]
  rw [Bool.and_eq_true, decide_eq_true_eq, decide_eq_true_eq]
  change ¬(-(2 : Int) ^ 127 ≤ n ∧ (n : Int) < 2 ^ 127)
  omega

/-- A reader that reads the number of a depth line as it is. -/
def ReadsNumerals (reader : Toml.Reader) : Prop :=
  ∀ n : Nat, reader (depthLine n) = some [("max_proxy_depth", .scalar (.ofInteger n))]

section Reader

variable {reader : Toml.Reader} (reads : ReadsNumerals reader) {n : Nat}
include reads

theorem text_of_word (fits : n < 2 ^ 64) : ofText reader (depthLine n) = validate ⟨n, false⟩ := by
  rw [text_of_depth (reads n), integer_of_fitting (by omega), depth_of_fitting fits]

theorem text_of_wide (wide : 2 ^ 64 ≤ n) (fits : n < 2 ^ 127) :
    ofText reader (depthLine n) =
      .error (.configSchema (.wrongType s!"integer `{n}` as i128" "usize")) := by
  have misfit : ∀ value : Int, -2 ^ 63 ≤ value → value < 2 ^ 64 →
      Toml.Node.scalar (.integer n) ≠ .scalar (.integer value) := by
    intro value _ below same
    have equal : (n : Int) = value := Toml.Scalar.integer.inj (Toml.Node.scalar.inj same)
    omega
  have described : (Toml.Node.scalar (.integer n)).description? =
      some s!"integer `{n}` as i128" := by
    rw [Toml.Node.description?, if_neg]
    · rfl
    · rw [Bool.and_eq_true, decide_eq_true_eq, decide_eq_true_eq]
      change ¬(-(2 : Int) ^ 63 ≤ n ∧ (n : Int) < 2 ^ 64)
      omega
  rw [text_of_depth (reads n), integer_of_fitting fits, depth_of_misfit misfit, Toml.Node.misfit,
    described]

theorem text_of_beyond (beyond : 2 ^ 127 ≤ n) :
    ofText reader (depthLine n) = .error (.configSchema .unreadableNumber) := by
  rw [text_of_depth (reads n), unreadable_of_beyond beyond, depth_of_misfit]
  · rfl
  · intro value _ _ same
    cases same

theorem text_of_numeral (n : Nat) :
    ofText reader (depthLine n) = .ok ⟨n, false⟩ ↔ n ≤ 4096 := by
  constructor
  · exact text_within
  · intro within
    rw [text_of_word reads (by omega)]
    exact validate_within within

end Reader

/-- How the two ways to give a number compare, for numbers of any size. -/
structure NumeralLaw (reader : Toml.Reader) : Prop where
  -- The text of a number is its digits from 0 to 9, with no needless zero in front.
  text : ∀ (text : String) n,
    Digits.Canonical text.toList ∧ Digits.placeValue text.toList = n ↔ text = toString n
  fromVariable : ∀ n, depthOf? (toString n) = some n ↔ n ≤ 4096
  fromDocument : ∀ n, ofText reader (depthLine n) = .ok ⟨n, false⟩ ↔ n ≤ 4096
  ignored : ∀ n, 4096 < n → depthOf? (toString n) = none ∧
    ∀ environment, environment.depth = .text (toString n) →
      (ofEnvironment environment).maxProxyDepth = 64 ∧
        ofEnvironment environment = ofEnvironment { environment with depth := .unset }
  range : ∀ n, 4096 < n → n < 2 ^ 64 → ofText reader (depthLine n) = .error (.invalidConfig
    s!"max_proxy_depth {n} exceeds the ceiling of {proxyDepthCeiling}")
  -- Past 64 bits the document fails to parse, and no range is looked at. A number that 128 bits
  -- with a sign cannot hold is well formed and has no value.
  wide : ∀ n, 2 ^ 64 ≤ n → n < 2 ^ 127 → ofText reader (depthLine n) =
    .error (.configSchema (.wrongType s!"integer `{n}` as i128" "usize"))
  beyond : ∀ n, 2 ^ 127 ≤ n →
    ofText reader (depthLine n) = .error (.configSchema .unreadableNumber)

theorem numeral_law {reader : Toml.Reader} (reads : ReadsNumerals reader) : NumeralLaw reader where
  text := numeral_iff
  fromVariable := depth_of_numeral
  fromDocument := text_of_numeral reads
  ignored := by
    intro n above
    have unread := no_depth_of_numeral above
    refine ⟨unread, fun environment given => ⟨?_, environment_of_no_depth given unread⟩⟩
    rw [environment_of_no_depth given unread]
    rfl
  range := by
    intro n above fits
    rw [text_of_word reads fits]
    exact validate_above (Nat.not_le.mpr above)
  wide := fun _ wide fits => text_of_wide reads wide fits
  beyond := fun _ beyond => text_of_beyond reads beyond

/-- The law of the reader at hand, which is the one of `ofDocument`. -/
theorem document_numeral_law : ReadsNumerals Toml.document? ∧ NumeralLaw Toml.document? :=
  ⟨depth_line_entries, numeral_law depth_line_entries⟩

/-- A float that is given as it is printed is named so when it is refused. -/
theorem float_depth_refused {x : Binary64} (isFinite : x.isFinite = true) :
    ofDocument ("max_proxy_depth = " ++ x.pointedText) =
      .error (.configSchema (.wrongType s!"floating point `{x.pointedText}`" "usize")) := by
  have named : "max_proxy_depth".toList ≠ [] := by decide
  have read := Toml.document_of_pointed named depth_key_bare isFinite
  rw [← depth_key_split, String.ofList_toList, String.ofList_toList] at read
  rw [ofDocument, text_of_depth read, depth_of_misfit]
  · rfl
  · intro value _ _ same
    cases same

end Config

end Taxon
