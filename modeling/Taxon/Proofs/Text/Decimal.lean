import Mathlib.Data.List.Induction
import Mathlib.Data.List.TakeWhile
import Mathlib.Data.Nat.Digits.Defs
import Taxon.Text.Blank
import Taxon.Text.Digits

/-!
Decimal numbers between white space. A run of digits stands for the sum of its digits, each times
the power of ten of its place; reading with words of 64 bits that refuses to leave their range finds
the same number or none.
-/

set_option autoImplicit false

namespace Taxon

/-- The code points with the property `White_Space`. -/
def whiteSpace : List Nat :=
  [0x9, 0xA, 0xB, 0xC, 0xD, 0x20, 0x85, 0xA0, 0x1680, 0x2000, 0x2001, 0x2002, 0x2003, 0x2004,
    0x2005, 0x2006, 0x2007, 0x2008, 0x2009, 0x200A, 0x2028, 0x2029, 0x202F, 0x205F, 0x3000]

/-- A check of every character of a text, as one that can be run. -/
theorem each_of_all {text : List Char} {p : Char → Prop} [DecidablePred p]
    (all : (text.all fun c => decide (p c)) = true) : ∀ c ∈ text, p c :=
  fun c member => of_decide_eq_true (List.all_eq_true.mp all c member)

theorem is_blank_iff (c : Char) : isBlank c = true ↔ c.toNat ∈ whiteSpace := by
  simp only [isBlank, blankRuns, whiteSpace, List.any_cons, List.any_nil, Bool.or_false,
    Bool.or_eq_true, Bool.and_eq_true, decide_eq_true_eq, List.mem_cons, List.not_mem_nil, or_false]
  omega

theorem trim_split (text : List Char) : ∃ lead trail, text = lead ++ trimBlanks text ++ trail ∧
    (∀ c ∈ lead, isBlank c = true) ∧ ∀ c ∈ trail, isBlank c = true := by
  let rest := text.dropWhile isBlank
  refine ⟨text.takeWhile isBlank, (rest.reverse.takeWhile isBlank).reverse, ?_, ?_, ?_⟩
  · have back : rest = trimBlanks text ++ (rest.reverse.takeWhile isBlank).reverse := by
      rw [trimBlanks, ← List.reverse_append, List.takeWhile_append_dropWhile, List.reverse_reverse]
    rw [List.append_assoc, ← back, List.takeWhile_append_dropWhile]
  · exact fun c member => List.mem_takeWhile_imp member
  · intro c member
    exact List.mem_takeWhile_imp (List.mem_reverse.mp member)

theorem trim_solid {lead text trail : List Char} (leading : ∀ c ∈ lead, isBlank c = true)
    (solid : ∀ c ∈ text, ¬isBlank c = true) (nonempty : text ≠ [])
    (trailing : ∀ c ∈ trail, isBlank c = true) : trimBlanks (lead ++ text ++ trail) = text := by
  have front : (text ++ trail).dropWhile isBlank = text ++ trail := by
    obtain ⟨c, rest, rfl⟩ := List.exists_cons_of_ne_nil nonempty
    exact List.dropWhile_cons_of_neg (solid c List.mem_cons_self)
  have back : text.reverse.dropWhile isBlank = text.reverse := by
    apply List.dropWhile_eq_self_iff.mpr
    intro inside
    exact solid _ (List.mem_reverse.mp (List.getElem_mem inside))
  rw [trimBlanks, List.append_assoc, List.dropWhile_append_of_pos leading, front,
    List.reverse_append, List.dropWhile_append_of_pos, back, List.reverse_reverse]
  exact fun c member => trailing c (List.mem_reverse.mp member)

namespace Digits

theorem is_decimal_iff (c : Char) : isDecimal c = true ↔ 48 ≤ c.toNat ∧ c.toNat ≤ 57 := by
  rw [isDecimal, Bool.and_eq_true, decide_eq_true_eq, decide_eq_true_eq, Char.le_def, Char.le_def,
    UInt32.le_iff_toNat_le, UInt32.le_iff_toNat_le]
  rfl

theorem value_of_decimal {c : Char} (decimal : isDecimal c = true) : valueOf c = c.toNat - 48 :=
  if_pos decimal

theorem value_append_one (digits : List Char) (c : Char) :
    value 10 (digits ++ [c]) = value 10 digits * 10 + valueOf c := by
  rw [value, List.foldl_append]
  rfl

/-- The number that decimal digits stand for by their places, the last one for ones. -/
def placeValue (digits : List Char) : Nat :=
  Nat.ofDigits 10 (digits.reverse.map fun c => c.toNat - 48)

theorem value_eq_place_value (digits : List Char) (decimal : ∀ c ∈ digits, isDecimal c = true) :
    value 10 digits = placeValue digits := by
  induction digits using List.reverseRecOn with
  | nil => rfl
  | append_singleton digits c induction =>
      obtain ⟨front, last⟩ := List.forall_mem_append.mp decimal
      have ones : valueOf c = c.toNat - 48 := value_of_decimal (last c (List.mem_singleton_self c))
      rw [value_append_one, induction front, ones, placeValue, placeValue, List.reverse_append,
        List.reverse_singleton, List.singleton_append, List.map_cons, Nat.ofDigits_cons]
      omega

def wordStep (total : UInt64) (c : Char) : Option UInt64 :=
  if total.toNat * 10 + valueOf c < 2 ^ 64 then some (total * 10 + .ofNat (valueOf c)) else none

def word? (digits : List Char) : Option UInt64 := digits.foldlM wordStep 0

theorem word_step_to_nat {total : UInt64} {c : Char}
    (fits : total.toNat * 10 + valueOf c < 2 ^ 64) :
    (total * 10 + .ofNat (valueOf c)).toNat = total.toNat * 10 + valueOf c := by
  have product : (total * 10).toNat = total.toNat * 10 := by
    rw [UInt64.toNat_mul]
    exact Nat.mod_eq_of_lt (by change total.toNat * 10 < 2 ^ 64; omega)
  have digit : (UInt64.ofNat (valueOf c)).toNat = valueOf c := by
    rw [UInt64.toNat_ofNat']
    exact Nat.mod_eq_of_lt (by omega)
  rw [UInt64.toNat_add, product, digit]
  exact Nat.mod_eq_of_lt fits

theorem le_fold (total : Nat) (digits : List Char) :
    total ≤ digits.foldl (fun total c => total * 10 + valueOf c) total := by
  induction digits generalizing total with
  | nil => exact Nat.le_refl _
  | cons c rest induction =>
      have grown := induction (total * 10 + valueOf c)
      rw [List.foldl_cons]
      omega

theorem fold_words (total : UInt64) (digits : List Char) :
    (digits.foldlM wordStep total).map UInt64.toNat =
      let number := digits.foldl (fun total c => total * 10 + valueOf c) total.toNat
      if number < 2 ^ 64 then some number else none := by
  induction digits generalizing total with
  | nil => exact (if_pos total.toNat_lt).symm
  | cons c rest induction =>
      rw [List.foldlM_cons, List.foldl_cons]
      by_cases fits : total.toNat * 10 + valueOf c < 2 ^ 64
      · rw [wordStep, if_pos fits, ← word_step_to_nat fits]
        exact induction _
      · -- A prefix out of range keeps the whole number out of range.
        have whole := le_fold (total.toNat * 10 + valueOf c) rest
        rw [wordStep, if_neg fits]
        exact (if_neg (by omega)).symm

theorem word_to_nat (digits : List Char) :
    (word? digits).map UInt64.toNat =
      if value 10 digits < 2 ^ 64 then some (value 10 digits) else none :=
  fold_words 0 digits

end Digits

end Taxon
