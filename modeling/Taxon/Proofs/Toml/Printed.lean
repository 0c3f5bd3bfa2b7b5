import Taxon.Proofs.Toml.Float

/-!
Printed doubles in documents. A finite double that is printed with a point is a float of a document,
and reading the document gives the double back.
-/

set_option autoImplicit false

namespace Taxon

open Digits (Canonical isDecimal)
open Toml (Sign)

theorem place_value_zero {digits : List Char} (decimal : ∀ c ∈ digits, isDecimal c = true) :
    Digits.placeValue (digits ++ ['0']) = Digits.placeValue digits * 10 := by
  have every : ∀ c ∈ digits ++ ['0'], isDecimal c = true :=
    List.forall_mem_append.mpr ⟨decimal, each_of_all (by decide)⟩
  rw [← Digits.value_eq_place_value _ every, Digits.value_append_one,
    Digits.value_eq_place_value _ decimal]
  rfl

theorem Decimal.chars_parts (d : Decimal) (nonzero : d.coefficient ≠ 0) :
    ∃ front, Canonical front ∧ (d.chars = front ∨ ∃ places, places ≠ [] ∧
      (∀ c ∈ places, isDecimal c = true) ∧ d.chars = front ++ '.' :: places) := by
  obtain ⟨coefficient, exponent⟩ := d
  cases exponent with
  | ofNat zeros =>
      have leading := Digits.to_digits_canonical coefficient
      refine ⟨Nat.toDigits 10 coefficient ++ List.replicate zeros '0', ⟨?_, ?_, ?_⟩, .inl rfl⟩
      · exact List.append_ne_nil_of_left_ne_nil leading.nonempty _
      · refine List.forall_mem_append.mpr ⟨leading.decimal, fun c mem => ?_⟩
        rw [(List.mem_replicate.mp mem).2]
        decide
      · intro rest same
        obtain ⟨c, digits, whole⟩ := List.exists_cons_of_ne_nil leading.nonempty
        rw [whole, List.cons_append] at same
        obtain ⟨rfl, -⟩ := List.cons.inj same
        -- A lone zero in front would be the whole coefficient.
        have lone := leading.minimal digits whole
        have value := Digits.value_to_digits coefficient
        rw [whole, lone] at value
        exact absurd value.symm nonzero
  | negSucc n =>
      refine ⟨_, Digits.to_digits_canonical _, .inr ⟨_, ?_, Decimal.last_digits_decimal _ _, rfl⟩⟩
      rw [← List.length_pos_iff, Decimal.last_digits_length]
      exact Nat.succ_pos n

namespace Binary64

variable {x : Binary64}

theorem magnitude_chars_parts (isFinite : x.isFinite = true) :
    ∃ front, Canonical front ∧ (x.magnitudeChars = front ∨ ∃ places, places ≠ [] ∧
      (∀ c ∈ places, isDecimal c = true) ∧ x.magnitudeChars = front ++ '.' :: places) := by
  obtain ⟨notNaN, notInfinite⟩ := x.is_finite_iff.mp isFinite
  rw [magnitudeChars, notNaN, notInfinite, if_neg Bool.false_ne_true, if_neg Bool.false_ne_true]
  split_ifs with zero
  · exact ⟨['0'], Digits.to_digits_canonical 0, .inl rfl⟩
  · refine x.shortest.chars_parts fun nothing => zero ?_
    have rounds := shortest_rounds isFinite (Bool.eq_false_iff.mpr zero)
    have vanishes : x.shortest.toRat = 0 := by rw [Decimal.toRat, nothing, Nat.cast_zero, zero_mul]
    rw [vanishes, rounds_vanishing le_rfl (by linarith [least_magnitude_pos])] at rounds
    exact beq_iff_eq.mpr rounds

/-- What is printed of a finite double where a point is asked for. -/
structure Pointed (x : Binary64) (front places : List Char) : Prop where
  canonical : Canonical front
  filled : places ≠ []
  decimal : ∀ c ∈ places, isDecimal c = true
  rounds : Rounds (Digits.placeValue (front ++ places) / 10 ^ places.length) x

def signOf (x : Binary64) : Sign := if x.isNegative then .minus else .absent

theorem sign_of_eq (x : Binary64) : x.isNegative = (signOf x == .minus) := by
  rw [signOf]
  cases x.isNegative <;> rfl

theorem chars_of_finite (isFinite : x.isFinite = true) :
    x.chars = (signOf x).chars ++ x.magnitudeChars := by
  rw [chars, (x.is_finite_iff.mp isFinite).1, signOf, Bool.not_false, Bool.and_true]
  split_ifs <;> rfl

theorem magnitude_chars_round (isFinite : x.isFinite = true) :
    ∃ q, Positional x.magnitudeChars q ∧ Rounds q x := by
  obtain ⟨notNaN, notInfinite⟩ := x.is_finite_iff.mp isFinite
  have reads := magnitude_chars_read notNaN
  generalize x.magnitudeChars = text at reads
  cases reads with
  | infinity infinite =>
      rw [notInfinite] at infinite
      cases infinite
  | number positional rounds => exact ⟨_, positional, rounds⟩

theorem pointed_text_of_finite (isFinite : x.isFinite = true) : x.pointedText.toList =
    if '.' ∈ x.chars then x.chars else x.chars ++ ['.', '0'] := by
  rw [pointedText, isFinite, Bool.true_and, text]
  by_cases point : '.' ∈ x.chars
  · rw [if_pos point, List.contains_iff_mem.mpr point]
    exact String.toList_ofList
  · rw [if_neg point, if_pos (by simp [point]), String.toList_append, String.toList_ofList]
    rfl

theorem pointed_text_parts (isFinite : x.isFinite = true) : ∃ front places, Pointed x front places ∧
    x.pointedText.toList = (signOf x).chars ++ (front ++ '.' :: places) := by
  obtain ⟨front, canonical, parts⟩ := magnitude_chars_parts isFinite
  obtain ⟨q, positional, rounds⟩ := magnitude_chars_round isFinite
  rw [pointed_text_of_finite isFinite, chars_of_finite isFinite]
  rcases parts with whole | ⟨places, filled, decimal, pointed⟩
  · rw [whole] at positional
    rw [positional.unique (.whole canonical.nonempty canonical.decimal)] at rounds
    refine ⟨front, ['0'], ⟨canonical, List.cons_ne_nil _ _, each_of_all (by decide), ?_⟩, ?_⟩
    · rwa [place_value_zero canonical.decimal, List.length_singleton, pow_one, Nat.cast_mul,
        Nat.cast_ofNat, mul_div_cancel_right₀ _ (by norm_num)]
    · have unsigned : '.' ∉ (signOf x).chars := by
        rw [signOf]
        split_ifs <;> decide
      have pointless : '.' ∉ (signOf x).chars ++ front := by
        rw [List.mem_append, not_or]
        exact ⟨unsigned, Positional.point_not_mem canonical.decimal⟩
      rw [whole, if_neg pointless, List.append_assoc]
  · have every := List.forall_mem_append.mpr ⟨canonical.decimal, decimal⟩
    rw [pointed] at positional
    rw [positional.unique (.pointed canonical.nonempty every)] at rounds
    have point : '.' ∈ (signOf x).chars ++ (front ++ '.' :: places) := by simp
    refine ⟨front, places, ⟨canonical, filled, decimal, rounds⟩, ?_⟩
    rw [pointed, if_pos point]

section Reread

variable {front places : List Char} (pointed : Pointed x front places)

include pointed

theorem Pointed.positional : Positional (front ++ '.' :: places)
    (Digits.placeValue (front ++ places) / 10 ^ places.length) :=
  .pointed pointed.canonical.nonempty
    (List.forall_mem_append.mpr ⟨pointed.canonical.decimal, pointed.decimal⟩)

theorem Pointed.without_underscore : '_' ∉ front ++ '.' :: places := by
  intro member
  rcases pointed.positional.characters _ member with digit | point
  · cases digit
  · cases point

theorem Pointed.closed : (front ++ '.' :: places).getLast? ≠ some '.' := by
  intro last
  rw [List.getLast?_append_of_ne_nil _ (List.cons_ne_nil _ _),
    List.getLast?_cons_of_ne_nil pointed.filled] at last
  cases pointed.decimal '.' (List.mem_of_getLast? last)

theorem Pointed.without_needless_zero :
    Toml.hasNeedlessZero (front ++ '.' :: places) = false := by
  obtain ⟨c, rest, rfl⟩ := List.exists_cons_of_ne_nil pointed.canonical.nonempty
  rw [List.cons_append]
  by_cases zero : c = '0'
  · obtain rfl := zero
    rw [pointed.canonical.minimal rest rfl]
    rfl
  · unfold Toml.hasNeedlessZero
    split
    · rename_i same
      exact absurd (List.cons.inj same).1 zero
    · rfl

end Reread

end Binary64

namespace Toml

/-- A document that gives a finite double as it is printed with a point gives that double back. -/
theorem document_of_pointed {key : List Char} (named : key ≠ [])
    (bare : ∀ c ∈ key, isKeyChar c = true) {x : Binary64} (isFinite : x.isFinite = true) :
    document? (String.ofList (key ++ ' ' :: '=' :: ' ' :: x.pointedText.toList)) =
      some [(String.ofList key, .scalar (.float x))] := by
  obtain ⟨front, places, pointed, printed⟩ := Binary64.pointed_text_parts isFinite
  have marked : (front ++ '.' :: places).any isFloatMark = true :=
    List.any_eq_true.mpr ⟨'.', by simp, rfl⟩
  have kept : withoutUnderscores (front ++ '.' :: places) = front ++ '.' :: places :=
    List.filter_eq_self.mpr fun c member => bne_iff_ne.mpr
      fun underscore => pointed.without_underscore (underscore ▸ member)
  have floats := Floats.scaled pointed.positional pointed.closed .none
  rw [List.append_nil, zpow_zero, mul_one] at floats
  rw [printed]
  exact document_of_float named bare pointed.without_needless_zero marked
    (separated_plain _ pointed.without_underscore) (kept.symm ▸ floats)
    (.finite x.sign_of_eq isFinite pointed.rounds)

end Toml

end Taxon
