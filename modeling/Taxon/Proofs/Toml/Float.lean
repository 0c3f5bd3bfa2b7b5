import Taxon.Proofs.Binary64.Nearest
import Taxon.Proofs.Toml.Integer

/-!
Floats in documents. A float spells a number, of any size and with any number of digits, and is read
as the double that the number rounds to, or without a value where that is infinite. Exponents far
outside the range are pulled in before, which leaves the double as it is.
-/

set_option autoImplicit false

namespace Taxon

namespace Binary64

variable {q : ℚ} {x : Binary64}

theorem Rounds.in_range (rounds : Rounds q x) (isFinite : x.isFinite = true) : q < overflow := by
  cases rounds with
  | finite _ inRange _ _ => exact inRange
  | infinite infinite _ =>
      rw [(x.is_finite_iff.mp isFinite).2] at infinite
      cases infinite

theorem rounds_beyond (outOfRange : overflow ≤ q) : Rounds q x ↔ x.isInfinite = true := by
  refine ⟨fun rounds => ?_, fun infinite => .infinite infinite outOfRange⟩
  cases rounds with
  | infinite infinite _ => exact infinite
  | finite _ inRange _ _ => exact absurd inRange (not_lt.mpr outOfRange)

/-- Up to half of the least magnitude a number rounds to zero. -/
theorem rounds_vanishing (nonnegative : 0 ≤ q) (small : 2 * q ≤ leastMagnitude) :
    Rounds q x ↔ x.magnitudeWord = 0 := by
  have least : magnitudeAt 1 = leastMagnitude := by
    rw [magnitudeAt, show unitsAt 1 = 1 by decide, Nat.cast_one, one_mul]
  have nothing : magnitudeAt 0 = 0 := by
    rw [magnitudeAt, show unitsAt 0 = 0 by decide, Nat.cast_zero, zero_mul]
  have between : Between q 0 := by
    refine ⟨?_, ?_, fun odd => absurd odd (by decide)⟩
    · rw [nothing]
      linarith
    · rw [nothing, least]
      linarith
  have toZero {y : Binary64} (zero : y.magnitudeWord = 0) : Rounds q y :=
    Between.rounds (zero ▸ between) (y.finite_iff_word.mpr (zero ▸ by decide))
  refine ⟨fun rounds => ?_, toZero⟩
  have zero : (ofWord 0).magnitudeWord = 0 := by decide
  rw [← zero]
  exact rounds.magnitude_word_unique (toZero zero)

theorem overflow_le_ten_pow : overflow ≤ 10 ^ (400 : ℤ) := by
  have power : (2 : ℚ) ^ 1024 ≤ 10 ^ 400 := by
    exact_mod_cast (by decide +kernel : 2 ^ 1024 ≤ 10 ^ 400)
  calc overflow ≤ 2 ^ 1024 := sub_le_self _ (pow_nonneg two_pos.le _)
    _ ≤ 10 ^ 400 := power
    _ = 10 ^ (400 : ℤ) := (zpow_natCast 10 400).symm

theorem ten_pow_le_least : 2 * 10 ^ (-400 : ℤ) ≤ leastMagnitude := by
  have power : (2 : ℚ) * 2 ^ 1074 ≤ 10 ^ 400 := by
    exact_mod_cast (by decide +kernel : 2 * 2 ^ 1074 ≤ 10 ^ 400)
  have ten : (10 : ℚ) ^ (-400 : ℤ) = (10 ^ 400)⁻¹ := zpow_neg_coe_of_pos 10 (by decide)
  have two : leastMagnitude = (2 ^ 1074)⁻¹ := zpow_neg_coe_of_pos 2 (by decide)
  have positive : (0 : ℚ) < 10 ^ 400 ∧ (0 : ℚ) < 2 ^ 1074 :=
    ⟨pow_pos (by norm_num) _, pow_pos two_pos _⟩
  rw [ten, two]
  generalize (10 : ℚ) ^ 400 = tens at *
  generalize (2 : ℚ) ^ 1074 = twos at *
  rw [← div_eq_mul_inv, div_le_iff₀ positive.1, inv_mul_eq_div, le_div_iff₀ positive.2]
  exact power

end Binary64

namespace Toml

open Binary64

theorem far_above {d : Decimal} (positive : 0 < d.coefficient) (far : 400 ≤ d.exponent) :
    overflow ≤ d.toRat := by
  have one : (1 : ℚ) ≤ d.coefficient := by exact_mod_cast positive
  calc overflow ≤ 10 ^ (400 : ℤ) := overflow_le_ten_pow
    _ ≤ 10 ^ d.exponent := zpow_le_zpow_right₀ (by norm_num) far
    _ ≤ d.coefficient * 10 ^ d.exponent :=
        le_mul_of_one_le_left (zpow_pos (by norm_num) _).le one

theorem far_below {d : Decimal}
    (far : d.exponent ≤ -400 - (Nat.toDigits 10 d.coefficient).length) :
    2 * d.toRat ≤ leastMagnitude := by
  have coefficient : (d.coefficient : ℚ) ≤ 10 ^ ((Nat.toDigits 10 d.coefficient).length : ℤ) := by
    rw [zpow_natCast]
    exact_mod_cast ((Nat.length_toDigits_le_iff (by decide) Nat.length_toDigits_pos).mp le_rfl).le
  have nonzero : (10 : ℚ) ≠ 0 := by norm_num
  generalize ((Nat.toDigits 10 d.coefficient).length : ℤ) = length at *
  have small : d.toRat ≤ 10 ^ (-400 : ℤ) :=
    calc d.coefficient * 10 ^ d.exponent ≤ 10 ^ length * (10 : ℚ) ^ d.exponent :=
          mul_le_mul_of_nonneg_right coefficient (zpow_pos (by norm_num) _).le
      _ = 10 ^ (length + d.exponent) := (zpow_add₀ nonzero _ _).symm
      _ ≤ 10 ^ (-400 : ℤ) := zpow_le_zpow_right₀ (by norm_num) (by omega)
  linarith [ten_pow_le_least]

/-- Pulling an exponent in leaves the doubles that a decimal rounds to as they are. -/
theorem clamped_rounds (d : Decimal) (x : Binary64) :
    Rounds (clamped d).toRat x ↔ Rounds d.toRat x := by
  have pulled : (clamped d).exponent =
    max (-400 - ((Nat.toDigits 10 d.coefficient).length : ℤ)) (min 400 d.exponent) := rfl
  rcases Nat.eq_zero_or_pos d.coefficient with zero | positive
  · have before : d.toRat = 0 := by rw [Decimal.toRat, zero, Nat.cast_zero, zero_mul]
    have after : (clamped d).toRat = 0 := by
      rw [Decimal.toRat, clamped, zero, Nat.cast_zero, zero_mul]
    rw [before, after]
  · rcases le_total 400 d.exponent with above | low
    · have before : overflow ≤ d.toRat := far_above positive above
      have after : overflow ≤ (clamped d).toRat := far_above positive (by omega)
      rw [rounds_beyond before, rounds_beyond after]
    · rcases le_total d.exponent (-400 - (Nat.toDigits 10 d.coefficient).length) with below | high
      · have before : 2 * d.toRat ≤ leastMagnitude := far_below below
        have edge : (clamped d).exponent ≤ -400 - (Nat.toDigits 10 d.coefficient).length := by
          omega
        have after : 2 * (clamped d).toRat ≤ leastMagnitude := far_below edge
        rw [rounds_vanishing d.to_rat_nonneg before,
          rounds_vanishing (clamped d).to_rat_nonneg after]
      · have kept : clamped d = d :=
          congrArg (Decimal.mk d.coefficient) (pulled.trans (by omega))
        rw [kept]

/-- The float that a number is read as under a sign, and none where it rounds to infinity. -/
inductive Rounded (sign : Sign) (q : ℚ) : Scalar → Prop where
  | finite {x : Binary64} (signed : x.isNegative = (sign == .minus)) (isFinite : x.isFinite = true)
      (rounds : Rounds q x) : Rounded sign q (.float x)
  | beyond (outOfRange : overflow ≤ q) : Rounded sign q .unreadable

theorem Rounded.unique {sign : Sign} {q : ℚ} {s t : Scalar} (first : Rounded sign q s)
    (second : Rounded sign q t) : s = t := by
  cases first with
  | finite signed isFinite rounds =>
      cases second with
      | finite signed' _ rounds' =>
          rw [eq_of_word (signed.trans signed'.symm) (rounds.magnitude_word_unique rounds')]
      | beyond outOfRange => exact absurd (rounds.in_range isFinite) (not_lt.mpr outOfRange)
  | beyond outOfRange =>
      cases second with
      | finite _ isFinite rounds => exact absurd (rounds.in_range isFinite) (not_lt.mpr outOfRange)
      | beyond _ => rfl

theorem decimal_rounded (sign : Sign) (d : Decimal) : Rounded sign d.toRat (.ofDecimal sign d) := by
  have rounds := (clamped_rounds d _).mp (nearest_rounds (sign == .minus) (clamped d))
  have signed := (nearest_fields (sign == .minus) (clamped d)).1
  rw [Scalar.ofDecimal]
  generalize nearest (sign == .minus) (clamped d) = x at *
  by_cases finite : x.isFinite = true
  · rw [if_pos finite]
    exact .finite signed finite rounds
  · rw [if_neg finite]
    cases rounds with
    | finite isFinite _ _ _ => exact absurd isFinite finite
    | infinite _ outOfRange => exact .beyond outOfRange

/-- The power of ten that an exponent behind its mark stands for, and the one without a mark. -/
inductive Power : List Char → ℤ → Prop where
  | none : Power [] 0
  | marked {mark : Char} {digits : List Char} (isMark : isExponentMark mark = true) (sign : Sign)
      (nonempty : digits ≠ []) (decimal : ∀ c ∈ digits, Digits.isDecimal c = true) :
      Power (mark :: (sign.chars ++ digits)) (sign.apply (Digits.placeValue digits))

/-- Floats without a sign, and the numbers they spell. A point has digits on both sides. -/
inductive Floats : List Char → ℚ → Prop where
  | scaled {mantissa power : List Char} {q : ℚ} {exponent : ℤ} (positional : Positional mantissa q)
      (closed : mantissa.getLast? ≠ some '.') (raised : Power power exponent) :
      Floats (mantissa ++ power) (q * 10 ^ exponent)

theorem cut_iff {p : Char → Bool} {text front back : List Char} :
    text.takeWhile p = front ∧ text.dropWhile p = back ↔
      text = front ++ back ∧ (∀ c ∈ front, p c = true) ∧ ∀ c ∈ back.head?, p c = false := by
  constructor
  · rintro ⟨rfl, rfl⟩
    refine ⟨List.takeWhile_append_dropWhile.symm, fun c => List.mem_takeWhile_imp, ?_⟩
    intro c starts
    have outside := List.head?_dropWhile_not p text
    rw [Option.mem_def.mp starts] at outside
    exact outside
  · rintro ⟨rfl, inside, outside⟩
    rw [List.takeWhile_append_of_pos inside, List.dropWhile_append_of_pos inside]
    cases back with
    | nil => exact ⟨List.append_nil front, rfl⟩
    | cons c rest =>
        have foreign : ¬p c = true := Bool.eq_false_iff.mp (outside c rfl)
        rw [List.takeWhile_cons_of_neg foreign, List.dropWhile_cons_of_neg foreign]
        exact ⟨List.append_nil front, rfl⟩

theorem chars_of_split (text : List Char) :
    (Sign.split text).1.chars ++ (Sign.split text).2 = text := by
  unfold Sign.split
  split <;> rfl

theorem exponent_iff {text : List Char} {exponent : ℤ}
    (starts : ∀ c ∈ text.head?, isExponentMark c = true) :
    exponent? text = some exponent ↔ Power text exponent := by
  constructor
  · intro read
    cases text with
    | nil =>
        obtain rfl := Option.some.inj read
        exact .none
    | cons mark power =>
        have whole : exponent? (mark :: power) =
          (run? Digits.isDecimal (Sign.split power).2).map fun digits =>
            (Sign.split power).1.apply (Digits.value 10 digits) := rfl
        rw [whole] at read
        obtain ⟨digits, run, rfl⟩ := Option.map_eq_some_iff.mp read
        obtain ⟨same, nonempty, decimal⟩ := run_iff.mp run
        have marked := Power.marked (starts mark rfl) (Sign.split power).1 nonempty decimal
        rwa [← same, chars_of_split, same, ← Digits.value_eq_place_value _ decimal] at marked
  · intro power
    cases power with
    | none => rfl
    | marked _ sign nonempty decimal =>
        rw [exponent?, sign_split sign (unsigned_of_decimal decimal)]
        simp only [run_iff.mpr ⟨rfl, nonempty, decimal⟩, Option.map_some,
          Digits.value_eq_place_value _ decimal]

theorem Power.head_mark {text : List Char} {exponent : ℤ} (power : Power text exponent) :
    ∀ c ∈ text.head?, isExponentMark c = true := by
  cases power with
  | none => nofun
  | marked isMark _ _ _ =>
      intro c starts
      obtain rfl := Option.some.inj starts
      exact isMark

section Mantissa

variable {mantissa : List Char}

/-- The two runs of a mantissa spell one number together. -/
theorem positional_of_runs {whole places : List Char}
    (front : run? Digits.isDecimal (mantissa.takeWhile (· != '.')) = some whole)
    (back : places? (mantissa.dropWhile (· != '.')) = some places) :
    Positional mantissa (Digits.value 10 (whole ++ places) / 10 ^ places.length) ∧
      mantissa.getLast? ≠ some '.' := by
  obtain ⟨taken, nonempty, decimal⟩ := run_iff.mp front
  generalize dropped : mantissa.dropWhile (· != '.') = tail at back
  obtain ⟨rfl, -, pointed⟩ := cut_iff.mp ⟨taken, dropped⟩
  cases tail with
  | nil =>
      obtain rfl := Option.some.inj back
      rw [List.append_nil, List.length_nil, pow_zero, div_one,
        Digits.value_eq_place_value _ decimal]
      refine ⟨.whole nonempty decimal, fun last => ?_⟩
      cases decimal '.' (List.mem_of_getLast? last)
  | cons c rest =>
      obtain rfl : c = '.' := by simpa using pointed c rfl
      obtain ⟨rfl, filled, decimal'⟩ := run_iff.mp back
      have every := List.forall_mem_append.mpr ⟨decimal, decimal'⟩
      rw [Digits.value_eq_place_value _ every]
      refine ⟨.pointed nonempty every, fun last => ?_⟩
      rw [List.getLast?_append_of_ne_nil _ (List.cons_ne_nil _ _),
        List.getLast?_cons_of_ne_nil filled] at last
      cases decimal' '.' (List.mem_of_getLast? last)

theorem runs_of_positional {q : ℚ} (positional : Positional mantissa q)
    (closed : mantissa.getLast? ≠ some '.') :
    ∃ whole places, run? Digits.isDecimal (mantissa.takeWhile (· != '.')) = some whole ∧
      places? (mantissa.dropWhile (· != '.')) = some places ∧
      q = Digits.value 10 (whole ++ places) / 10 ^ places.length := by
  cases positional with
  | whole nonempty decimal =>
      have pointless : ∀ c ∈ mantissa, (c != '.') = true :=
        fun c member => not_point_of_decimal (decimal c member)
      obtain ⟨taken, dropped⟩ := cut_iff.mpr ⟨(List.append_nil mantissa).symm, pointless, nofun⟩
      refine ⟨mantissa, [], ?_, ?_, ?_⟩
      · rw [taken]
        exact run_iff.mpr ⟨rfl, nonempty, decimal⟩
      · rw [dropped]
        rfl
      · rw [List.append_nil, List.length_nil, pow_zero, div_one,
          Digits.value_eq_place_value _ decimal]
  | @pointed digits places nonempty every =>
      obtain ⟨decimal, decimal'⟩ := List.forall_mem_append.mp every
      have pointless : ∀ c ∈ digits, (c != '.') = true :=
        fun c member => not_point_of_decimal (decimal c member)
      have filled : places ≠ [] := by
        rintro rfl
        exact closed List.getLast?_concat
      have point : ∀ c ∈ ('.' :: places).head?, (c != '.') = false := by simp
      obtain ⟨taken, dropped⟩ := cut_iff.mpr ⟨rfl, pointless, point⟩
      refine ⟨digits, places, ?_, ?_, ?_⟩
      · rw [taken]
        exact run_iff.mpr ⟨rfl, nonempty, decimal⟩
      · rw [dropped]
        exact run_iff.mpr ⟨rfl, filled, decimal'⟩
      · rw [Digits.value_eq_place_value _ every]

end Mantissa

/-- The decimal that a text is read as has the number that the text spells. -/
theorem decimal_iff {text : List Char} {q : ℚ} :
    (∃ d, decimal? text = some d ∧ d.toRat = q) ↔ Floats text q := by
  have number (whole places : List Char) (exponent : ℤ) :
      Decimal.toRat ⟨Digits.value 10 (whole ++ places), exponent - (places.length : ℤ)⟩ =
        Digits.value 10 (whole ++ places) / 10 ^ places.length * 10 ^ exponent := by
    rw [Decimal.toRat, zpow_sub₀ (by norm_num), zpow_natCast]
    ring
  constructor
  · rintro ⟨d, read, rfl⟩
    simp only [decimal?, Option.bind_eq_bind, Option.bind_eq_some_iff] at read
    obtain ⟨whole, front, places, back, exponent, raised, same⟩ := read
    generalize taken : text.takeWhile (fun c => !isExponentMark c) = mantissa at front back
    generalize dropped : text.dropWhile (fun c => !isExponentMark c) = power at raised
    obtain ⟨rfl, -, marked⟩ := cut_iff.mp ⟨taken, dropped⟩
    obtain ⟨positional, closed⟩ := positional_of_runs front back
    obtain rfl := Option.some.inj same
    rw [number]
    have starts : ∀ c ∈ power.head?, isExponentMark c = true := by simpa using marked
    exact .scaled positional closed ((exponent_iff starts).mp raised)
  · rintro ⟨positional, closed, raised⟩
    rename_i mantissa power q exponent
    have markless : ∀ c ∈ mantissa, (!isExponentMark c) = true := by
      intro c member
      rw [Bool.not_eq_true']
      rcases positional.characters c member with decimal | rfl
      · exact not_mark_of_decimal decimal
      · rfl
    have marked : ∀ c ∈ power.head?, (!isExponentMark c) = false := by
      simpa using raised.head_mark
    obtain ⟨taken, dropped⟩ := cut_iff.mpr ⟨rfl, markless, marked⟩
    obtain ⟨whole, places, front, back, rfl⟩ := runs_of_positional positional closed
    refine ⟨_, ?_, number whole places exponent⟩
    rw [decimal?, taken, dropped, front, back, (exponent_iff raised.head_mark).mpr raised]
    rfl

theorem separated_plain {isDigit : Char → Bool} {text : List Char} (before : Bool)
    (plain : '_' ∉ text) : separated isDigit before text = true := by
  induction text generalizing before with
  | nil => rfl
  | cons c rest induction =>
      rw [List.mem_cons, not_or] at plain
      rw [separated.eq_3 _ _ _ _ fun same => plain.1 same.symm]
      exact induction _ plain.2

/-- A text is a float where its underscores are in place and it spells a number without them; it is
read as what the number rounds to. -/
theorem float_iff {sign : Sign} {text : List Char} {scalar : Scalar} :
    float? sign text = some scalar ↔
      separated Digits.isDecimal (sign != .absent) text = true ∧
        ∃ q, Floats (withoutUnderscores text) q ∧ Rounded sign q scalar := by
  rw [float?, Option.ite_none_right_eq_some, Option.map_eq_some_iff]
  refine and_congr_right fun _ => ?_
  constructor
  · rintro ⟨d, read, rfl⟩
    exact ⟨d.toRat, decimal_iff.mp ⟨d, read, rfl⟩, decimal_rounded sign d⟩
  · rintro ⟨_, floats, rounded⟩
    obtain ⟨d, read, rfl⟩ := decimal_iff.mpr floats
    exact ⟨d, read, (decimal_rounded sign d).unique rounded⟩

abbrev IsFloatChar (c : Char) : Prop :=
  Digits.isDecimal c = true ∨ c ∈ ['.', 'e', 'E', '+', '-', '_']

theorem Sign.characters (sign : Sign) : ∀ c ∈ sign.chars, IsFloatChar c := by
  cases sign <;> exact each_of_all (by decide)

theorem Power.characters {text : List Char} {exponent : ℤ} (power : Power text exponent) :
    ∀ c ∈ text, IsFloatChar c := by
  cases power with
  | none => nofun
  | @marked mark digits isMark sign _ decimal =>
      have marks : IsFloatChar mark := by
        rw [isExponentMark, Bool.or_eq_true, beq_iff_eq, beq_iff_eq] at isMark
        rcases isMark with rfl | rfl <;> exact .inr (by decide)
      have digit : ∀ c ∈ digits, IsFloatChar c := fun c member => .inl (decimal c member)
      exact List.forall_mem_cons.mpr ⟨marks, List.forall_mem_append.mpr ⟨sign.characters, digit⟩⟩

theorem Floats.characters {text : List Char} {q : ℚ} (floats : Floats text q) :
    ∀ c ∈ text, IsFloatChar c := by
  obtain ⟨positional, _, raised⟩ := floats
  refine List.forall_mem_append.mpr ⟨fun c member => ?_, raised.characters⟩
  exact (positional.characters c member).imp id fun point => by simp [point]

theorem Floats.head_decimal {text : List Char} {q : ℚ} (floats : Floats text q) :
    ∀ c ∈ text.head?, Digits.isDecimal c = true := by
  obtain ⟨positional, _, _⟩ := floats
  intro c starts
  cases positional with
  | whole nonempty decimal =>
      rw [List.head?_append_of_ne_nil _ nonempty] at starts
      exact decimal c (List.mem_of_mem_head? starts)
  | pointed nonempty every =>
      rw [List.append_assoc, List.head?_append_of_ne_nil _ nonempty] at starts
      exact every c (List.mem_append_left _ (List.mem_of_mem_head? starts))

section Spelled

variable {sign : Sign} {text : List Char} {q : ℚ}
  (floats : Floats (withoutUnderscores text) q)

include floats

theorem float_characters : ∀ c ∈ sign.chars ++ text, IsFloatChar c := by
  refine List.forall_mem_append.mpr ⟨sign.characters, fun c member => ?_⟩
  by_cases underscore : c = '_'
  · exact .inr (by simp [underscore])
  · exact floats.characters c (List.mem_filter.mpr ⟨member, bne_iff_ne.mpr underscore⟩)

theorem float_unsigned : ∀ c ∈ text.head?, c ≠ '+' ∧ c ≠ '-' := by
  intro c starts
  obtain ⟨rest, rfl⟩ := List.head?_eq_some_iff.mp starts
  by_cases underscore : c = '_'
  · rw [underscore]
    decide
  · have kept : withoutUnderscores (c :: rest) = c :: withoutUnderscores rest :=
      List.filter_cons_of_pos (bne_iff_ne.mpr underscore)
    rw [kept] at floats
    have decimal := floats.head_decimal c rfl
    exact unsigned_of_decimal (List.forall_mem_singleton.mpr decimal) c rfl

end Spelled

section Numbers

variable {sign : Sign} {text : List Char} {scalar : Scalar}
  (canonical : hasNeedlessZero text = false) (marked : text.any isFloatMark = true)
  (read : float? sign text = some scalar)

include canonical marked read

theorem number_of_float : number? (sign.chars ++ text) = some scalar := by
  obtain ⟨-, q, floats, -⟩ := float_iff.mp read
  have characters : ∀ c ∈ sign.chars ++ text, IsFloatChar c := float_characters floats
  have split := sign_split sign (float_unsigned floats)
  generalize sign.chars ++ text = token at *
  have foreign {c : Char} (member : c ∈ token) (other : ¬IsFloatChar c) : False :=
    other (characters c member)
  unfold number?
  split
  · exact (foreign (by simp : 'x' ∈ _) (by decide)).elim
  · exact (foreign (by simp : 'o' ∈ _) (by decide)).elim
  · exact (foreign (by simp : 'b' ∈ _) (by decide)).elim
  · simp only [split, canonical, marked, read]
    rfl

theorem token_of_float : Token (sign.chars ++ text) scalar := by
  obtain ⟨-, q, floats, -⟩ := float_iff.mp read
  have characters : ∀ c ∈ sign.chars ++ text, IsFloatChar c := float_characters floats
  have solid : ∀ c ∈ sign.chars ++ text, isTokenChar c = true ∧ c ≠ '"' ∧ c ≠ '\'' := by
    have others : ∀ c ∈ ['.', 'e', 'E', '+', '-', '_'],
        isTokenChar c = true ∧ c ≠ '"' ∧ c ≠ '\'' := each_of_all (by decide)
    exact fun c member => (characters c member).elim solid_of_decimal (others c)
  refine ⟨fun c member => (solid c member).1, fun c member => (solid c member).2, ?_⟩
  · rw [scalar?, if_neg, if_neg, number_of_float canonical marked read]
    · rfl
    · intro same
      exact absurd (characters 'f' (by simp [same])) (by decide)
    · intro same
      exact absurd (characters 't' (by simp [same])) (by decide)

end Numbers

/-- A float in a document is read as the double that its number rounds to. -/
theorem document_of_float {key : List Char} (named : key ≠ [])
    (bare : ∀ c ∈ key, isKeyChar c = true) {sign : Sign} {text : List Char} {q : ℚ}
    {scalar : Scalar} (canonical : hasNeedlessZero text = false)
    (marked : text.any isFloatMark = true)
    (placed : separated Digits.isDecimal (sign != .absent) text = true)
    (floats : Floats (withoutUnderscores text) q) (rounded : Rounded sign q scalar) :
    document? (String.ofList (key ++ ' ' :: '=' :: ' ' :: (sign.chars ++ text))) =
      some [(String.ofList key, .scalar scalar)] := by
  have read := float_iff.mpr ⟨placed, q, floats, rounded⟩
  exact document_of_token named bare (token_of_float canonical marked read) String.toList_ofList

end Toml

end Taxon
