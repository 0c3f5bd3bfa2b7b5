import Taxon.Proofs.Text.Numeral
import Taxon.Proofs.Toml.Line

/-!
Numerals in documents. A sign shows where no sign is behind it, and digits show none. The digits of
a number without a needless zero are read as the number, whatever its size.
-/

set_option autoImplicit false

namespace Taxon.Toml

open Digits (Canonical)

def Sign.chars : Sign → List Char
  | .absent => []
  | .plus => ['+']
  | .minus => ['-']

theorem run_iff {p : Char → Bool} {text digits : List Char} :
    run? p text = some digits ↔ text = digits ∧ digits ≠ [] ∧ ∀ c ∈ digits, p c = true := by
  rw [run?, Option.ite_none_right_eq_some, Option.some.injEq, Bool.and_eq_true, decide_eq_true_eq,
    List.all_eq_true]
  constructor
  · rintro ⟨⟨nonempty, every⟩, rfl⟩
    exact ⟨rfl, nonempty, every⟩
  · rintro ⟨rfl, nonempty, every⟩
    exact ⟨⟨nonempty, every⟩, rfl⟩

theorem sign_split {text : List Char} (sign : Sign)
    (unsigned : ∀ c ∈ text.head?, c ≠ '+' ∧ c ≠ '-') :
    Sign.split (sign.chars ++ text) = (sign, text) := by
  cases sign with
  | plus => rfl
  | minus => rfl
  | absent =>
      rw [Sign.chars, List.nil_append]
      unfold Sign.split
      split
      · exact absurd rfl (unsigned '+' rfl).1
      · exact absurd rfl (unsigned '-' rfl).2
      · rfl

theorem unsigned_of_decimal {digits : List Char}
    (decimal : ∀ c ∈ digits, Digits.isDecimal c = true) :
    ∀ c ∈ digits.head?, c ≠ '+' ∧ c ≠ '-' := by
  intro c starts
  have digit := decimal c (List.mem_of_mem_head? starts)
  constructor <;> rintro rfl <;> cases digit

theorem not_mark_of_decimal {c : Char} (decimal : Digits.isDecimal c = true) :
    isExponentMark c = false := by
  rw [isExponentMark, Bool.or_eq_false_iff, beq_eq_false_iff_ne, beq_eq_false_iff_ne]
  constructor <;> rintro rfl <;> cases decimal

theorem not_point_of_decimal {c : Char} (decimal : Digits.isDecimal c = true) :
    (c != '.') = true := by
  rw [bne_iff_ne]
  rintro rfl
  cases decimal

theorem starts_with_digit {c : Char} {rest : List Char} (canonical : Canonical (c :: rest))
    (foreign : Digits.isDecimal c = false) : False := by
  rw [canonical.decimal c List.mem_cons_self] at foreign
  cases foreign

section Numerals

variable {digits : List Char} (canonical : Canonical digits)

include canonical

theorem decimal_integer_of_digits :
    decimalInteger? .absent digits = some (.ofInteger (Digits.value 10 digits)) := by
  have whole : digits.dropWhile Digits.isDecimal = [] :=
    List.dropWhile_eq_nil_iff.mpr canonical.decimal
  have run := run_iff.mpr ⟨rfl, canonical.nonempty, canonical.decimal⟩
  obtain ⟨c, rest, rfl⟩ := List.exists_cons_of_ne_nil canonical.nonempty
  simp only [decimalInteger?, whole, signedInteger, run]
  rfl

theorem digits_without_marks : digits.any isFloatMark = false := by
  rw [List.any_eq_false]
  intro c member
  have decimal := canonical.decimal c member
  have pointless := not_point_of_decimal decimal
  rw [isFloatMark, not_mark_of_decimal decimal, Bool.or_false, beq_iff_eq]
  exact bne_iff_ne.mp pointless

theorem digits_without_needless_zero : hasNeedlessZero digits = false := by
  unfold hasNeedlessZero
  split
  · cases canonical.minimal _ rfl
  · rfl

theorem sign_of_digits : Sign.split digits = (.absent, digits) :=
  sign_split .absent (unsigned_of_decimal canonical.decimal)

theorem unnamed_digits : namedFloat? .absent digits = none := by
  rw [namedFloat?, if_neg, if_neg]
  · rintro rfl
    exact starts_with_digit canonical (by decide)
  · rintro rfl
    exact starts_with_digit canonical (by decide)

theorem number_of_digits : number? digits = some (.ofInteger (Digits.value 10 digits)) := by
  unfold number?
  split
  · cases canonical.minimal _ rfl
  · cases canonical.minimal _ rfl
  · cases canonical.minimal _ rfl
  · simp only [sign_of_digits canonical, digits_without_needless_zero canonical,
      digits_without_marks canonical, unnamed_digits canonical, decimal_integer_of_digits canonical]
    rfl

theorem scalar_of_digits : scalar? digits = some (.ofInteger (Digits.value 10 digits)) := by
  rw [scalar?, if_neg, if_neg, number_of_digits canonical]
  · rfl
  · rintro rfl
    exact starts_with_digit canonical (by decide)
  · rintro rfl
    exact starts_with_digit canonical (by decide)

theorem token_of_digits : Token digits (.ofInteger (Digits.value 10 digits)) where
  solid := fun c member => (solid_of_decimal (canonical.decimal c member)).1
  unquoted := fun c member => (solid_of_decimal (canonical.decimal c member)).2
  read := scalar_of_digits canonical

end Numerals

end Taxon.Toml
