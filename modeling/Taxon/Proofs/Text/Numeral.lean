import Mathlib.Tactic.Ring
import Taxon.Proofs.Text.Decimal

/-!
Numerals: the decimal digits of a number without a zero that says nothing in front. Every number has
exactly one, and reading it gives the number back.
-/

set_option autoImplicit false

namespace Taxon.Digits

/-- Decimal digits of which the first is a zero only if it is the last as well. -/
structure Canonical (digits : List Char) : Prop where
  nonempty : digits ≠ []
  decimal : ∀ c ∈ digits, isDecimal c = true
  minimal : ∀ rest, digits = '0' :: rest → rest = []

theorem value_append (front back : List Char) :
    value 10 (front ++ back) = value 10 front * 10 ^ back.length + value 10 back := by
  induction back using List.reverseRecOn with
  | nil =>
      rw [List.append_nil, List.length_nil, pow_zero, Nat.mul_one]
      rfl
  | append_singleton back c induction =>
      rw [← List.append_assoc, value_append_one, value_append_one, induction, List.length_append,
        List.length_singleton, pow_succ]
      ring

theorem digit_char_decimal {digit : Nat} (small : digit < 10) :
    isDecimal (Nat.digitChar digit) = true := by
  rw [is_decimal_iff, Nat.toNat_digitChar_of_lt_ten small]
  omega

theorem value_of_digit_char {digit : Nat} (small : digit < 10) :
    valueOf (Nat.digitChar digit) = digit := by
  rw [value_of_decimal (digit_char_decimal small), Nat.toNat_digitChar_of_lt_ten small]
  omega

theorem digit_char_of_decimal {c : Char} (decimal : isDecimal c = true) :
    Nat.digitChar (valueOf c) = c := by
  have bounds := (is_decimal_iff c).mp decimal
  apply Char.toNat_inj.mp
  rw [value_of_decimal decimal, Nat.toNat_digitChar_of_lt_ten (by omega)]
  omega

theorem value_to_digits (n : Nat) : value 10 (Nat.toDigits 10 n) = n := by
  induction n using Nat.strongRecOn with
  | ind n induction =>
      by_cases small : n < 10
      · rw [Nat.toDigits_of_lt_base small]
        change 0 * 10 + valueOf (Nat.digitChar n) = n
        rw [value_of_digit_char small, Nat.zero_mul, Nat.zero_add]
      · rw [Nat.toDigits_of_base_le (by decide) (Nat.not_lt.mp small), value_append_one,
          induction (n / 10) (by omega), value_of_digit_char (Nat.mod_lt _ (by decide))]
        omega

theorem to_digits_canonical (n : Nat) : Canonical (Nat.toDigits 10 n) where
  nonempty := Nat.toDigits_ne_nil
  decimal := by
    intro c member
    rw [is_decimal_iff]
    exact Char.isDigit_iff_toNat.mp (Nat.isDigit_of_mem_toDigits (by decide) (by decide) member)
  minimal := by
    induction n using Nat.strongRecOn with
    | ind n induction =>
        intro rest leading
        by_cases small : n < 10
        · rw [Nat.toDigits_of_lt_base small] at leading
          exact (List.cons.inj leading).2.symm
        · -- The digits in front of the last one would be a lone zero.
          rw [Nat.toDigits_of_base_le (by decide) (Nat.not_lt.mp small)] at leading
          have nonempty : Nat.toDigits 10 (n / 10) ≠ [] := Nat.toDigits_ne_nil
          obtain ⟨c, front, whole⟩ := List.exists_cons_of_ne_nil nonempty
          rw [whole, List.cons_append] at leading
          obtain ⟨rfl, behind⟩ := List.cons.inj leading
          have lone := induction (n / 10) (by omega) front whole
          rw [lone] at whole
          have zero := value_to_digits (n / 10)
          rw [whole] at zero
          change 0 = n / 10 at zero
          omega

/-- Digits without a needless zero are those of their value. The induction takes the last one
off. -/
theorem canonical_eq {digits : List Char} (canonical : Canonical digits) :
    digits = Nat.toDigits 10 (value 10 digits) := by
  induction digits using List.reverseRecOn with
  | nil => exact absurd rfl canonical.nonempty
  | append_singleton digits c induction =>
      obtain ⟨front, last⟩ := List.forall_mem_append.mp canonical.decimal
      have decimal := last c (List.mem_singleton_self c)
      have small : valueOf c < 10 := by
        have bounds := (is_decimal_iff c).mp decimal
        rw [value_of_decimal decimal]
        omega
      rw [value_append_one]
      cases digits with
      | nil =>
          change [c] = Nat.toDigits 10 (0 * 10 + valueOf c)
          rw [Nat.zero_mul, Nat.zero_add, Nat.toDigits_of_lt_base small,
            digit_char_of_decimal decimal]
      | cons d rest =>
          have unforced : ∀ tail, d :: rest = '0' :: tail → False := by
            intro tail leading
            have impossible := canonical.minimal (tail ++ [c]) (by rw [leading]; rfl)
            exact List.cons_ne_nil c [] (List.append_eq_nil_iff.mp impossible).2
          have shorter : Canonical (d :: rest) :=
            ⟨List.cons_ne_nil d rest, front, fun tail leading => (unforced tail leading).elim⟩
          have same := induction shorter
          have positive : 0 < value 10 (d :: rest) := by
            by_contra zero
            rw [Nat.eq_zero_of_not_pos zero] at same
            exact unforced [] same
          rw [Nat.mul_comm, ← Nat.toDigits_append_toDigits (by decide) positive small, ← same,
            Nat.toDigits_of_lt_base small, digit_char_of_decimal decimal]

theorem canonical_iff (digits : List Char) (n : Nat) :
    Canonical digits ∧ value 10 digits = n ↔ digits = Nat.toDigits 10 n := by
  constructor
  · rintro ⟨canonical, rfl⟩
    exact canonical_eq canonical
  · rintro rfl
    exact ⟨to_digits_canonical n, value_to_digits n⟩

end Taxon.Digits
