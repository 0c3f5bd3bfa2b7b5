import Mathlib.Data.List.Basic
import Taxon.Proofs.Binary64.Rounding
import Taxon.Proofs.Text.Numeral

/-!
Reading doubles back. A text in positional notation stands for one number, and the number rounds to
one double under its sign. What is printed of a double reads back as that double and no other.
-/

set_option autoImplicit false

namespace Taxon

/-- Positional notation: digits, and places if there is a point. -/
inductive Positional : List Char → ℚ → Prop where
  | whole {digits : List Char} (nonempty : digits ≠ [])
      (decimal : ∀ c ∈ digits, Digits.isDecimal c = true) :
      Positional digits (Digits.placeValue digits)
  | pointed {digits places : List Char} (nonempty : digits ≠ [])
      (decimal : ∀ c ∈ digits ++ places, Digits.isDecimal c = true) :
      Positional (digits ++ '.' :: places)
        (Digits.placeValue (digits ++ places) / 10 ^ places.length)

namespace Positional

variable {text : List Char} {q r : ℚ}

theorem characters (positional : Positional text q) :
    ∀ c ∈ text, Digits.isDecimal c = true ∨ c = '.' := by
  cases positional with
  | whole _ decimal => exact fun c mem => .inl (decimal c mem)
  | pointed _ decimal =>
      intro c mem
      rcases List.mem_append.mp mem with front | behind
      · exact .inl (decimal c (List.mem_append_left _ front))
      · rcases List.mem_cons.mp behind with point | back
        · exact .inr point
        · exact .inl (decimal c (List.mem_append_right _ back))

theorem point_not_mem {digits : List Char} (decimal : ∀ c ∈ digits, Digits.isDecimal c = true) :
    '.' ∉ digits := by
  intro mem
  have impossible := decimal '.' mem
  revert impossible
  decide

theorem unique (first : Positional text q) (second : Positional text r) : q = r := by
  cases first with
  | whole _ decimal =>
      generalize same : text = other at second
      cases second with
      | whole _ _ => rfl
      | pointed _ _ =>
          refine absurd ?_ (point_not_mem decimal)
          rw [same]
          exact List.mem_append_right _ List.mem_cons_self
  | @pointed digits places _ decimal =>
      generalize same : digits ++ '.' :: places = other at second
      cases second with
      | whole _ decimal' =>
          refine absurd ?_ (point_not_mem decimal')
          rw [← same]
          exact List.mem_append_right _ List.mem_cons_self
      | pointed _ _ =>
          have pointless := point_not_mem decimal
          rw [List.mem_append, not_or] at pointless
          obtain ⟨rfl, _, rfl⟩ :=
            (List.append_cons_inj_of_notMem pointless.1 pointless.2).mp same
          rfl

end Positional

namespace Digits

theorem value_zeros (count : Nat) : value 10 (List.replicate count '0') = 0 := by
  induction count with
  | zero => rfl
  | succ count induction =>
      rw [List.replicate_succ', value_append_one, induction]
      rfl

end Digits

namespace Decimal

open Digits

theorem last_digits_length (count n : Nat) : (lastDigits count n).length = count := by
  induction count generalizing n with
  | zero => rfl
  | succ count induction => rw [lastDigits, List.length_append, induction, List.length_singleton]

theorem last_digits_decimal (count n : Nat) : ∀ c ∈ lastDigits count n, isDecimal c = true := by
  induction count generalizing n with
  | zero => nofun
  | succ count induction =>
      refine List.forall_mem_append.mpr ⟨induction (n / 10), ?_⟩
      exact List.forall_mem_singleton.mpr (digit_char_decimal (Nat.mod_lt _ (by decide)))

theorem value_last_digits (count n : Nat) : value 10 (lastDigits count n) = n % 10 ^ count := by
  induction count generalizing n with
  | zero => exact (Nat.mod_one n).symm
  | succ count induction =>
      rw [lastDigits, value_append_one, induction, value_of_digit_char (Nat.mod_lt _ (by decide)),
        pow_succ', Nat.mod_mul]
      omega

theorem positional (d : Decimal) : Positional d.chars d.toRat := by
  obtain ⟨coefficient, exponent⟩ := d
  cases exponent with
  | ofNat zeros =>
      have leading := to_digits_canonical coefficient
      have decimal : ∀ c ∈ Nat.toDigits 10 coefficient ++ List.replicate zeros '0',
          isDecimal c = true := by
        refine List.forall_mem_append.mpr ⟨leading.decimal, fun c mem => ?_⟩
        rw [(List.mem_replicate.mp mem).2]
        decide
      have same : toRat ⟨coefficient, .ofNat zeros⟩ =
          placeValue (Nat.toDigits 10 coefficient ++ List.replicate zeros '0') := by
        rw [← value_eq_place_value _ decimal, value_append, value_to_digits, value_zeros,
          List.length_replicate, Nat.add_zero, Nat.cast_mul, Nat.cast_pow, Nat.cast_ofNat]
        exact congrArg (_ * ·) (zpow_natCast 10 zeros)
      rw [same]
      refine .whole ?_ decimal
      exact List.append_ne_nil_of_left_ne_nil leading.nonempty _
  | negSucc n =>
      have leading := to_digits_canonical (coefficient / Nat.pow 10 (n + 1))
      have decimal : ∀ c ∈ Nat.toDigits 10 (coefficient / Nat.pow 10 (n + 1)) ++
          lastDigits (n + 1) coefficient, isDecimal c = true :=
        List.forall_mem_append.mpr ⟨leading.decimal, last_digits_decimal (n + 1) coefficient⟩
      have same : toRat ⟨coefficient, .negSucc n⟩ =
          placeValue (Nat.toDigits 10 (coefficient / Nat.pow 10 (n + 1)) ++
            lastDigits (n + 1) coefficient) / 10 ^ (lastDigits (n + 1) coefficient).length := by
        rw [← value_eq_place_value _ decimal, value_append, value_to_digits, value_last_digits,
          last_digits_length, Nat.pow_eq, Nat.mul_comm, Nat.div_add_mod, toRat, zpow_negSucc,
          div_eq_mul_inv]
      rw [same]
      exact .pointed leading.nonempty decimal

end Decimal

namespace Binary64

inductive Signs : List Char → Bool → Prop where
  | none : Signs [] false
  | plus : Signs ['+'] false
  | minus : Signs ['-'] true

/-- A text without sign, and the doubles that it is read as apart from their sign. -/
inductive ReadsUnsigned : List Char → Binary64 → Prop where
  | infinity {x : Binary64} (isInfinite : x.isInfinite = true) : ReadsUnsigned ['i', 'n', 'f'] x
  | number {text : List Char} {q : ℚ} {x : Binary64} (positional : Positional text q)
      (rounds : Rounds q x) : ReadsUnsigned text x

inductive Reads : List Char → Binary64 → Prop where
  | signed {sign text : List Char} {x : Binary64} (signs : Signs sign x.isNegative)
      (unsigned : ReadsUnsigned text x) : Reads (sign ++ text) x

section Read

variable {text : List Char} {x y : Binary64}

theorem ReadsUnsigned.characters (reads : ReadsUnsigned text x) :
    ∀ c ∈ text, c ≠ '+' ∧ c ≠ '-' ∧ c ≠ 'e' ∧ c ≠ 'E' := by
  cases reads with
  | infinity _ => exact each_of_all (by decide)
  | number positional _ =>
      intro c mem
      rcases positional.characters c mem with decimal | rfl
      · refine ⟨?_, ?_, ?_, ?_⟩ <;> rintro rfl <;> cases decimal
      · decide

theorem Reads.characters (reads : Reads text x) : ∀ c ∈ text, c ≠ 'e' ∧ c ≠ 'E' := by
  obtain ⟨signs, unsigned⟩ := reads
  refine List.forall_mem_append.mpr ⟨?_, fun c mem => (unsigned.characters c mem).2.2⟩
  generalize x.isNegative = negative at signs
  cases signs <;> exact each_of_all (by decide)

theorem ReadsUnsigned.word_unique (first : ReadsUnsigned text x) (second : ReadsUnsigned text y) :
    x.magnitudeWord = y.magnitudeWord := by
  have letters {q : ℚ} (positional : Positional ['i', 'n', 'f'] q) : False := by
    have impossible := positional.characters 'i' List.mem_cons_self
    revert impossible
    decide
  cases first with
  | infinity left =>
      cases second with
      | infinity right => rw [x.infinite_iff_word.mp left, y.infinite_iff_word.mp right]
      | number positional _ => exact (letters positional).elim
  | number positional rounds =>
      cases second with
      | infinity _ => exact (letters positional).elim
      | number positional' rounds' =>
          rw [positional'.unique positional] at rounds'
          exact rounds.magnitude_word_unique rounds'

theorem eq_of_word (sign : x.isNegative = y.isNegative)
    (word : x.magnitudeWord = y.magnitudeWord) : x = y := by
  apply fields_injective sign
  · rw [exponent_of_word, exponent_of_word, word]
  · rw [fraction_of_word, fraction_of_word, word]

/-- The sign of a text shows where the text behind it has none. -/
theorem Signs.unique {sign other text rest : List Char} {negative negative' : Bool}
    (first : Signs sign negative) (second : Signs other negative')
    (textPlain : ∀ c ∈ text, c ≠ '+' ∧ c ≠ '-') (restPlain : ∀ c ∈ rest, c ≠ '+' ∧ c ≠ '-')
    (same : sign ++ text = other ++ rest) : negative = negative' ∧ text = rest := by
  cases first with
  | none =>
      rw [List.nil_append] at same
      subst same
      cases second with
      | none => exact ⟨rfl, rfl⟩
      | plus => exact absurd rfl (textPlain '+' List.mem_cons_self).1
      | minus => exact absurd rfl (textPlain '-' List.mem_cons_self).2
  | plus =>
      cases second with
      | none =>
          rw [List.nil_append] at same
          subst same
          exact absurd rfl (restPlain '+' List.mem_cons_self).1
      | plus => exact ⟨rfl, (List.cons.inj same).2⟩
      | minus => cases (List.cons.inj same).1
  | minus =>
      cases second with
      | none =>
          rw [List.nil_append] at same
          subst same
          exact absurd rfl (restPlain '-' List.mem_cons_self).2
      | plus => cases (List.cons.inj same).1
      | minus => exact ⟨rfl, (List.cons.inj same).2⟩

/-- A text reads as one double at most, sign included. -/
theorem Reads.unique (first : Reads text x) (second : Reads text y) : x = y := by
  obtain @⟨sign, rest, _, signs, unsigned⟩ := first
  generalize whole : sign ++ rest = text at second
  obtain ⟨signs', unsigned'⟩ := second
  have plain {rest : List Char} {z : Binary64} (reads : ReadsUnsigned rest z) :
      ∀ c ∈ rest, c ≠ '+' ∧ c ≠ '-' :=
    fun c mem => ⟨(reads.characters c mem).1, (reads.characters c mem).2.1⟩
  obtain ⟨negative, rfl⟩ := signs.unique signs' (plain unsigned) (plain unsigned') whole
  exact eq_of_word negative (unsigned.word_unique unsigned')

end Read

theorem magnitude_chars_read {x : Binary64} (isNumber : x.isNaN = false) :
    ReadsUnsigned x.magnitudeChars x := by
  rw [magnitudeChars, isNumber, if_neg Bool.false_ne_true]
  split_ifs with infinite zero
  · exact .infinity infinite
  · have finite := x.is_finite_iff.mpr ⟨isNumber, Bool.eq_false_iff.mpr infinite⟩
    have nothing : x.magnitude = 0 := by
      rw [magnitude_of_word, magnitudeAt, ← units_of_word, x.units_eq_zero_iff.mpr zero,
        Nat.cast_zero, zero_mul]
    have digit : Positional ['0'] 0 := .whole (List.cons_ne_nil _ _) (each_of_all (by decide))
    exact .number digit (nothing ▸ rounds_exactly finite)
  · have finite := x.is_finite_iff.mpr ⟨isNumber, Bool.eq_false_iff.mpr infinite⟩
    exact .number x.shortest.positional (shortest_rounds finite (Bool.eq_false_iff.mpr zero))

/-- What is printed of a double reads as that double. -/
theorem chars_read {x : Binary64} (isNumber : x.isNaN = false) : Reads x.chars x := by
  have unsigned := magnitude_chars_read isNumber
  rw [chars, isNumber, Bool.not_false, Bool.and_true]
  cases negative : x.isNegative with
  | true => exact @Reads.signed ['-'] _ x (negative ▸ .minus) unsigned
  | false => exact @Reads.signed [] _ x (negative ▸ .none) unsigned

end Binary64

end Taxon
