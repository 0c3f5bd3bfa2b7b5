import Mathlib.Order.Monotone.Basic
import Mathlib.Tactic.Linarith
import Taxon.Proofs.Binary64.Number

/-!
Correct rounding. In the order of their bits the magnitudes of doubles grow by steps, each a power
of two, so a number lies between the midpoints around one double, and that is the double it rounds
to. On a midpoint the even neighbour is meant. The interval that printing keeps to is the one
between the midpoints.
-/

set_option autoImplicit false

namespace Taxon

namespace Binary64

def magnitude (x : Binary64) : ℚ := x.significand * 2 ^ x.scale

/-- From here on a number rounds to infinity: halfway from the greatest finite double to the number
that would be next. -/
def overflow : ℚ := 2 ^ 1024 - 2 ^ 970

/-- The doubles that a number without sign is correctly rounded to: no finite double is nearer, and
if another one is as near, the significand is even. -/
inductive Rounds (q : ℚ) (x : Binary64) : Prop where
  | finite (isFinite : x.isFinite = true) (inRange : q < overflow)
      (nearest : ∀ y : Binary64, y.isFinite = true → |q - x.magnitude| ≤ |q - y.magnitude|)
      (even : ∀ y : Binary64, y.isFinite = true → y.magnitude ≠ x.magnitude →
        |q - x.magnitude| = |q - y.magnitude| → x.significand % 2 = 0) : Rounds q x
  | infinite (isInfinite : x.isInfinite = true) (outOfRange : overflow ≤ q) : Rounds q x

def magnitudeWord (x : Binary64) : Nat := x.word % 2 ^ 63

/-- The units that magnitude bits count. -/
def unitsAt (word : Nat) : Nat :=
  (if word / 2 ^ 52 = 0 then word % 2 ^ 52 else 2 ^ 52 + word % 2 ^ 52) * 2 ^ (word / 2 ^ 52 - 1)

def magnitudeAt (word : Nat) : ℚ := unitsAt word * leastMagnitude

def infinityBits : Nat := 2047 * 2 ^ 52

theorem exponent_of_word (x : Binary64) : x.exponentField = x.magnitudeWord / 2 ^ 52 := by
  have bound := x.word_lt
  simp only [exponentField, magnitudeWord, Nat.pow_eq]
  omega

theorem fraction_of_word (x : Binary64) : x.fraction = x.magnitudeWord % 2 ^ 52 := by
  simp only [fraction, magnitudeWord, Nat.pow_eq]
  omega

theorem magnitude_word_lt (x : Binary64) : x.magnitudeWord < 2 ^ 63 := Nat.mod_lt _ (by decide)

theorem finite_iff_word (x : Binary64) : x.isFinite = true ↔ x.magnitudeWord < infinityBits := by
  rw [isFinite, decide_eq_true_eq, exponent_of_word, infinityBits]
  omega

theorem infinite_iff_word (x : Binary64) :
    x.isInfinite = true ↔ x.magnitudeWord = infinityBits := by
  have bound := x.magnitude_word_lt
  rw [isInfinite, Bool.and_eq_true, beq_iff_eq, beq_iff_eq, exponent_of_word, fraction_of_word,
    infinityBits]
  omega

theorem exists_of_word (word : Nat) (below : word < infinityBits) :
    ∃ x : Binary64, x.isFinite = true ∧ x.magnitudeWord = word := by
  have same : (ofWord word).magnitudeWord = word := by
    rw [infinityBits] at below
    rw [magnitudeWord, Binary64.word, ofWord, UInt64.toNat_ofNat']
    omega
  refine ⟨ofWord word, ?_, same⟩
  rw [finite_iff_word, same]
  exact below

theorem units_of_word (x : Binary64) : x.units = unitsAt x.magnitudeWord := by
  rw [units, significand, unitsAt, exponent_of_word, fraction_of_word]
  rfl

theorem magnitude_of_word (x : Binary64) : x.magnitude = magnitudeAt x.magnitudeWord := by
  rw [magnitude, two_pow_scale, magnitudeAt, ← units_of_word, units]
  push_cast
  ring

theorem significand_parity (x : Binary64) : x.significand % 2 = x.magnitudeWord % 2 := by
  rw [significand, exponent_of_word, fraction_of_word, Nat.pow_eq]
  split_ifs <;> omega

/-- One more in the bits is one step more, of a size that the exponent bits say. -/
theorem units_step (word : Nat) : unitsAt (word + 1) = unitsAt word + 2 ^ (word / 2 ^ 52 - 1) := by
  by_cases carry : (word + 1) % 2 ^ 52 = 0
  · have exponent : (word + 1) / 2 ^ 52 = word / 2 ^ 52 + 1 := by omega
    have fraction : word % 2 ^ 52 = 2 ^ 52 - 1 := by omega
    rw [unitsAt, unitsAt, exponent, carry, fraction, if_neg (Nat.succ_ne_zero _),
      Nat.add_sub_cancel, Nat.add_zero]
    split_ifs with subnormal
    · rw [subnormal]
      decide
    · obtain ⟨power, same⟩ := Nat.exists_eq_succ_of_ne_zero subnormal
      rw [same, Nat.succ_eq_add_one, Nat.add_sub_cancel, pow_succ]
      omega
  · have exponent : (word + 1) / 2 ^ 52 = word / 2 ^ 52 := by omega
    have fraction : (word + 1) % 2 ^ 52 = word % 2 ^ 52 + 1 := by omega
    rw [unitsAt, unitsAt, exponent, fraction]
    split_ifs <;> ring

theorem least_magnitude_pos : 0 < leastMagnitude := zpow_pos two_pos _

theorem magnitude_strict_mono : StrictMono magnitudeAt := by
  apply strictMono_nat_of_lt_succ
  intro word
  have more : unitsAt word < unitsAt (word + 1) := by
    rw [units_step]
    exact Nat.lt_add_of_pos_right (Nat.two_pow_pos _)
  exact mul_lt_mul_of_pos_right (Nat.cast_lt.mpr more) least_magnitude_pos

theorem two_pow_least (exponent : Nat) :
    (2 : ℚ) ^ (exponent + 1074) * leastMagnitude = 2 ^ exponent := by
  rw [leastMagnitude, pow_add, mul_assoc, ← zpow_natCast 2 1074, ← zpow_add₀ two_ne_zero]
  exact mul_one _

/-- Infinity rounds like the double that would be next. -/
theorem overflow_eq :
    2 * overflow = magnitudeAt (infinityBits - 1) + magnitudeAt infinityBits := by
  have next : unitsAt infinityBits = 2 ^ (1024 + 1074) := by
    have exponent : infinityBits / 2 ^ 52 = 2047 := by decide
    have fraction : infinityBits % 2 ^ 52 = 0 := by decide
    rw [unitsAt, exponent, fraction, if_neg (by decide), Nat.add_zero, ← pow_add]
  have step : unitsAt infinityBits = unitsAt (infinityBits - 1) + 2 ^ (971 + 1074) := by
    have after : infinityBits - 1 + 1 = infinityBits := by decide
    have exponent : (infinityBits - 1) / 2 ^ 52 - 1 = 971 + 1074 := by decide
    rw [← exponent, ← units_step, after]
  have last : (unitsAt (infinityBits - 1) : ℚ) = 2 ^ (1024 + 1074) - 2 ^ (971 + 1074) := by
    rw [next] at step
    have cast := congrArg (Nat.cast : ℕ → ℚ) step
    rw [Nat.cast_pow, Nat.cast_add, Nat.cast_pow, Nat.cast_two] at cast
    rw [cast, add_sub_cancel_right]
  have nextMagnitude : magnitudeAt infinityBits = 2 ^ 1024 := by
    rw [magnitudeAt, next, Nat.cast_pow, Nat.cast_two, two_pow_least]
  have lastMagnitude : magnitudeAt (infinityBits - 1) = 2 ^ 1024 - 2 ^ 971 := by
    rw [magnitudeAt, last, sub_mul, two_pow_least, two_pow_least]
  rw [lastMagnitude, nextMagnitude, overflow, pow_succ 2 970]
  generalize (2 : ℚ) ^ 1024 = next
  generalize (2 : ℚ) ^ 970 = half
  ring

section Unique

variable {q : ℚ} {x y : Binary64}

theorem magnitude_lt_iff (x y : Binary64) :
    x.magnitude < y.magnitude ↔ x.magnitudeWord < y.magnitudeWord := by
  rw [magnitude_of_word, magnitude_of_word, magnitude_strict_mono.lt_iff_lt]

/-- Between two doubles with even significands there is another one. So a number halfway between
them is nearer to that. -/
theorem not_nearest_twice (less : x.magnitude < y.magnitude) (left : x.magnitudeWord % 2 = 0)
    (right : y.magnitudeWord % 2 = 0) (isFinite : y.isFinite = true)
    (equal : |q - x.magnitude| = |q - y.magnitude|) :
    ∃ z : Binary64, z.isFinite = true ∧ |q - z.magnitude| < |q - x.magnitude| := by
  have words := (magnitude_lt_iff x y).mp less
  have bound := y.finite_iff_word.mp isFinite
  obtain ⟨z, finite, word⟩ := exists_of_word (x.magnitudeWord + 1) (by omega)
  have above := (magnitude_lt_iff x z).mpr (by omega)
  have below := (magnitude_lt_iff z y).mpr (by omega)
  have halfway : q - x.magnitude = y.magnitude - q := by
    rcases abs_eq_abs.mp equal with same | opposite
    · linarith
    · linarith
  refine ⟨z, finite, ?_⟩
  rw [abs_of_pos (show 0 < q - x.magnitude by linarith), abs_lt]
  exact ⟨by linarith, by linarith⟩

/-- Rounding leaves no choice but the sign. -/
theorem Rounds.magnitude_word_unique (first : Rounds q x) (second : Rounds q y) :
    x.magnitudeWord = y.magnitudeWord := by
  cases first with
  | infinite left outOfRange =>
      cases second with
      | infinite right _ =>
          rw [x.infinite_iff_word.mp left, y.infinite_iff_word.mp right]
      | finite _ inRange _ _ => exact absurd inRange (not_lt.mpr outOfRange)
  | finite left inRange nearest even =>
      cases second with
      | infinite _ outOfRange => exact absurd inRange (not_lt.mpr outOfRange)
      | finite right _ nearest' even' =>
          have equal := le_antisymm (nearest y right) (nearest' x left)
          by_contra differ
          have apart : y.magnitude ≠ x.magnitude := by
            rw [magnitude_of_word, magnitude_of_word]
            exact fun same => differ (magnitude_strict_mono.injective same).symm
          have evenLeft := even y right apart equal
          have evenRight := even' x left apart.symm equal.symm
          rw [significand_parity] at evenLeft evenRight
          rcases lt_or_gt_of_ne apart with less | less
          · obtain ⟨z, finite, nearer⟩ :=
              not_nearest_twice less evenRight evenLeft left equal.symm
            exact absurd (nearest' z finite) (not_le.mpr nearer)
          · obtain ⟨z, finite, nearer⟩ := not_nearest_twice less evenLeft evenRight right equal
            exact absurd (nearest z finite) (not_le.mpr nearer)

end Unique

/-- The numbers between the midpoints around a magnitude, the midpoints included when its bits are
even. -/
structure Between (q : ℚ) (word : Nat) : Prop where
  above : magnitudeAt (word - 1) + magnitudeAt word ≤ 2 * q
  below : 2 * q ≤ magnitudeAt word + magnitudeAt (word + 1)
  inside : word % 2 = 1 → magnitudeAt (word - 1) + magnitudeAt word < 2 * q ∧
    2 * q < magnitudeAt word + magnitudeAt (word + 1)

section Interval

variable {q : ℚ} {word other : Nat}

theorem Between.nearer_than_above (between : Between q word) (more : word < other) :
    |q - magnitudeAt word| ≤ |q - magnitudeAt other| ∧
      (word % 2 = 1 → |q - magnitudeAt word| < |q - magnitudeAt other|) := by
  have next : magnitudeAt (word + 1) ≤ magnitudeAt other :=
    magnitude_strict_mono.monotone (by omega)
  have greater : magnitudeAt word < magnitudeAt (word + 1) := magnitude_strict_mono (by omega)
  have below := between.below
  have far : -(q - magnitudeAt other) ≤ |q - magnitudeAt other| := neg_le_abs _
  refine ⟨abs_le.mpr ⟨by linarith, by linarith⟩, fun odd => ?_⟩
  have strictly := (between.inside odd).2
  exact abs_lt.mpr ⟨by linarith, by linarith⟩

theorem Between.nearer_than_below (between : Between q word) (less : other < word) :
    |q - magnitudeAt word| ≤ |q - magnitudeAt other| ∧
      (word % 2 = 1 → |q - magnitudeAt word| < |q - magnitudeAt other|) := by
  have previous : magnitudeAt other ≤ magnitudeAt (word - 1) :=
    magnitude_strict_mono.monotone (by omega)
  have smaller : magnitudeAt (word - 1) < magnitudeAt word := magnitude_strict_mono (by omega)
  have above := between.above
  have far : q - magnitudeAt other ≤ |q - magnitudeAt other| := le_abs_self _
  refine ⟨abs_le.mpr ⟨by linarith, by linarith⟩, fun odd => ?_⟩
  have strictly := (between.inside odd).1
  exact abs_lt.mpr ⟨by linarith, by linarith⟩

theorem Between.nearer (between : Between q word) (differ : other ≠ word) :
    |q - magnitudeAt word| ≤ |q - magnitudeAt other| ∧
      (word % 2 = 1 → |q - magnitudeAt word| < |q - magnitudeAt other|) := by
  rcases Nat.lt_or_gt_of_ne differ with less | more
  · exact between.nearer_than_below less
  · exact between.nearer_than_above more

theorem Between.in_range (between : Between q word) (isFinite : word < infinityBits) :
    q < overflow := by
  have boundary := overflow_eq
  have last : magnitudeAt (infinityBits - 1) < magnitudeAt infinityBits :=
    magnitude_strict_mono (by decide)
  by_cases odd : word % 2 = 1
  · have strictly := (between.inside odd).2
    have here : magnitudeAt word ≤ magnitudeAt (infinityBits - 1) :=
      magnitude_strict_mono.monotone (by omega)
    have next : magnitudeAt (word + 1) ≤ magnitudeAt infinityBits :=
      magnitude_strict_mono.monotone isFinite
    linarith
  · -- The greatest finite double is odd.
    have lower : word + 1 ≤ infinityBits - 1 := by
      rw [infinityBits] at isFinite ⊢
      omega
    have below := between.below
    have grows : magnitudeAt word < magnitudeAt (word + 1) := magnitude_strict_mono (by omega)
    have next : magnitudeAt (word + 1) ≤ magnitudeAt (infinityBits - 1) :=
      magnitude_strict_mono.monotone lower
    linarith

end Interval

theorem Between.rounds {q : ℚ} {x : Binary64} (between : Between q x.magnitudeWord)
    (isFinite : x.isFinite = true) : Rounds q x := by
  refine .finite isFinite (between.in_range (x.finite_iff_word.mp isFinite)) ?_ ?_
  · intro y _
    rw [magnitude_of_word, magnitude_of_word]
    by_cases same : y.magnitudeWord = x.magnitudeWord
    · rw [same]
    · exact (between.nearer same).1
  · intro y _ differ equal
    rw [magnitude_of_word, magnitude_of_word] at differ equal
    have apart : y.magnitudeWord ≠ x.magnitudeWord := fun same => differ (congrArg _ same)
    rw [significand_parity]
    by_contra odd
    exact absurd equal ((between.nearer apart).2 (by omega)).ne

theorem between_exactly (word : Nat) : Between (magnitudeAt word) word := by
  have less : magnitudeAt (word - 1) ≤ magnitudeAt word :=
    magnitude_strict_mono.monotone (Nat.sub_le word 1)
  have more : magnitudeAt word < magnitudeAt (word + 1) := magnitude_strict_mono (by omega)
  refine ⟨by linarith, by linarith, fun odd => ⟨?_, by linarith⟩⟩
  have strictly : magnitudeAt (word - 1) < magnitudeAt word := magnitude_strict_mono (by omega)
  linarith

theorem rounds_exactly {x : Binary64} (isFinite : x.isFinite = true) : Rounds x.magnitude x := by
  rw [magnitude_of_word]
  exact (between_exactly x.magnitudeWord).rounds isFinite

/-- The ends of the rounding interval are the midpoints, in quarters of a step. -/
theorem upper_quarters_eq (x : Binary64) :
    x.upperQuarters * 2 ^ (x.exponentField - 1) =
      2 * (unitsAt x.magnitudeWord + unitsAt (x.magnitudeWord + 1)) := by
  rw [units_step, ← units_of_word, units, upperQuarters, ← exponent_of_word]
  ring

theorem lower_quarters_eq {x : Binary64} (nonzero : x.isZero = false) :
    x.lowerQuarters * 2 ^ (x.exponentField - 1) =
      2 * (unitsAt (x.magnitudeWord - 1) + unitsAt x.magnitudeWord) := by
  have positive : x.magnitudeWord ≠ 0 := by
    rw [← Bool.not_eq_true, is_zero_iff, exponent_of_word, fraction_of_word] at nonzero
    omega
  obtain ⟨word, same⟩ := Nat.exists_eq_succ_of_ne_zero positive
  have step := units_step word
  have exponent := x.exponent_of_word
  have fraction := x.fraction_of_word
  have here := x.units_of_word
  rw [same, Nat.succ_eq_add_one] at exponent fraction here ⊢
  rw [Nat.add_sub_cancel, ← here]
  rw [← here] at step
  rw [units] at step ⊢
  rw [lowerQuarters]
  split_ifs with narrow
  · -- Below a power of two the step is half of the one above.
    rw [Bool.and_eq_true, decide_eq_true_eq, decide_eq_true_eq] at narrow
    have half : 2 ^ (x.exponentField - 1) = 2 * 2 ^ (word / 2 ^ 52 - 1) := by
      rw [← Nat.pow_succ']
      congr 1
      omega
    rw [Nat.sub_mul, Nat.mul_assoc]
    omega
  · rw [Bool.and_eq_true, decide_eq_true_eq, decide_eq_true_eq] at narrow
    have whole : word / 2 ^ 52 - 1 = x.exponentField - 1 := by omega
    rw [whole] at step
    rw [Nat.sub_mul, Nat.mul_assoc]
    omega

theorem quarter_eq (x : Binary64) :
    (2 : ℚ) ^ (x.scale - 2) = 2 ^ (x.exponentField - 1) * leastMagnitude / 4 := by
  rw [zpow_sub₀ two_ne_zero, two_pow_scale]
  norm_num

theorem upper_midpoint (x : Binary64) : x.upperQuarters * (2 : ℚ) ^ (x.scale - 2) =
    (magnitudeAt x.magnitudeWord + magnitudeAt (x.magnitudeWord + 1)) / 2 := by
  have quarters := congrArg (Nat.cast : ℕ → ℚ) x.upper_quarters_eq
  push_cast at quarters
  rw [quarter_eq, magnitudeAt, magnitudeAt, ← mul_div_assoc, ← mul_assoc, quarters]
  ring

theorem lower_midpoint {x : Binary64} (nonzero : x.isZero = false) :
    x.lowerQuarters * (2 : ℚ) ^ (x.scale - 2) =
      (magnitudeAt (x.magnitudeWord - 1) + magnitudeAt x.magnitudeWord) / 2 := by
  have quarters := congrArg (Nat.cast : ℕ → ℚ) (lower_quarters_eq nonzero)
  push_cast at quarters
  rw [quarter_eq, magnitudeAt, magnitudeAt, ← mul_div_assoc, ← mul_assoc, quarters]
  ring

end Binary64

namespace Decimal

def toRat (d : Decimal) : ℚ := d.coefficient * 10 ^ d.exponent

theorem zpow_split (base : ℚ) (nonzero : base ≠ 0) (exponent : ℤ) :
    base ^ exponent * base ^ (-exponent).toNat = base ^ exponent.toNat := by
  rw [← zpow_natCast, ← zpow_natCast, ← zpow_add₀ nonzero]
  congr 1
  omega

theorem denominator_pos (d : Decimal) : 0 < d.denominator := Nat.pow_pos (by decide)

theorem to_rat_mul_denominator (d : Decimal) : d.toRat * d.denominator = d.numerator := by
  have split := zpow_split 10 (by norm_num) d.exponent
  rw [toRat, denominator, numerator, Nat.pow_eq, Nat.pow_eq]
  push_cast
  rw [mul_assoc, split]

/-- What printing compares, as numbers: how many of a power of two the decimal is. -/
theorem point_eq (d : Decimal) (scale : ℤ) : ((d.numerator * Nat.pow 2 (-scale).toNat : ℕ) : ℚ) =
    d.toRat / 2 ^ scale * (d.denominator * Nat.pow 2 scale.toNat : ℕ) := by
  have split := zpow_split 2 two_ne_zero scale
  have nonzero : (2 : ℚ) ^ scale ≠ 0 := zpow_ne_zero _ two_ne_zero
  rw [Nat.pow_eq, Nat.pow_eq]
  push_cast
  rw [← to_rat_mul_denominator, ← split, div_mul_eq_mul_div, eq_div_iff nonzero]
  ring

end Decimal

namespace Binary64

theorem Between.of_covers {x : Binary64} {d : Decimal} (nonzero : x.isZero = false)
    (covered : x.covers d = true) : Between d.toRat x.magnitudeWord := by
  have unit : (0 : ℚ) < (d.denominator * Nat.pow 2 (x.scale - 2).toNat : ℕ) :=
    Nat.cast_pos.mpr (Nat.mul_pos d.denominator_pos (Nat.two_pow_pos _))
  have power : (0 : ℚ) < 2 ^ (x.scale - 2) := zpow_pos two_pos _
  have lower := lower_midpoint nonzero
  have upper := x.upper_midpoint
  rw [covers] at covered
  split_ifs at covered with even
  · simp only [Bool.and_eq_true, decide_eq_true_eq] at covered
    obtain ⟨above, below⟩ := covered
    rw [← Nat.cast_le (α := ℚ), Decimal.point_eq, Nat.cast_mul x.lowerQuarters,
      mul_le_mul_iff_left₀ unit, le_div_iff₀ power, lower] at above
    rw [← Nat.cast_le (α := ℚ), Decimal.point_eq, Nat.cast_mul x.upperQuarters,
      mul_le_mul_iff_left₀ unit, div_le_iff₀ power, upper] at below
    refine ⟨by linarith, by linarith, fun odd => ?_⟩
    rw [significand_parity] at even
    omega
  · simp only [Bool.and_eq_true, decide_eq_true_eq] at covered
    obtain ⟨above, below⟩ := covered
    rw [← Nat.cast_lt (α := ℚ), Decimal.point_eq, Nat.cast_mul x.lowerQuarters,
      mul_lt_mul_iff_left₀ unit, lt_div_iff₀ power, lower] at above
    rw [← Nat.cast_lt (α := ℚ), Decimal.point_eq, Nat.cast_mul x.upperQuarters,
      mul_lt_mul_iff_left₀ unit, div_lt_iff₀ power, upper] at below
    exact ⟨by linarith, by linarith, fun _ => ⟨by linarith, by linarith⟩⟩

theorem covers_of_candidate {x : Binary64} {place : Int} {d : Decimal}
    (found : x.candidate? place = some d) : x.covers d = true := by
  simp only [candidate?] at found
  split at found
  · split_ifs at found <;> cases found <;> assumption
  · cases found
    assumption
  · cases found
    assumption
  · cases found

theorem expansion_exact (x : Binary64) : x.expansion.toRat = x.magnitude := by
  rw [expansion, magnitude]
  split
  · rename_i up scale
    rw [scale, Decimal.toRat, zpow_zero, mul_one, Nat.pow_eq, Nat.cast_mul, Nat.cast_pow,
      Nat.cast_two]
    rfl
  · rename_i down scale
    have ten : (10 : ℚ) ^ (down + 1) = 2 ^ (down + 1) * 5 ^ (down + 1) := by
      rw [← mul_pow]
      norm_num
    have five : (5 : ℚ) ^ (down + 1) ≠ 0 := pow_ne_zero _ (by norm_num)
    rw [scale, Decimal.toRat, zpow_negSucc, zpow_negSucc, ten, Nat.pow_eq, Nat.cast_mul,
      Nat.cast_pow, Nat.cast_ofNat, mul_inv_rev, mul_assoc, mul_inv_cancel_left₀ five]

/-- What is printed of a finite double that is not zero rounds to it. -/
theorem shortest_rounds {x : Binary64} (isFinite : x.isFinite = true) (nonzero : x.isZero = false) :
    Rounds x.shortest.toRat x := by
  have search (tries : Nat) (place : Int) : Rounds (x.searchPlaces tries place).toRat x := by
    induction tries generalizing place with
    | zero =>
        rw [searchPlaces, expansion_exact]
        exact rounds_exactly isFinite
    | succ tries induction =>
        rw [searchPlaces]
        cases found : x.candidate? place with
        | none => exact induction (place - 1)
        | some d => exact (Between.of_covers nonzero (covers_of_candidate found)).rounds isFinite
  exact search 20 x.coarsestPlace

end Binary64

end Taxon
