import Taxon.Proofs.Binary64.Reading

/-!
The reader of decimals rounds correctly. It takes the scale at which a number has a significand of
fifty-three bits, or the least scale there is, and rounds the number in units of that scale. The
bits put together from the two have the number between the midpoints around them, also where the
significand carries into the exponent and where the bits pass those of infinity.
-/

set_option autoImplicit false

namespace Taxon

namespace Binary64

/-- The whole numbers a number is rounded to: none is nearer, and an odd one is the only nearest. -/
structure Nearest (m : ℚ) (whole : Nat) : Prop where
  above : 2 * (whole : ℚ) - 1 ≤ 2 * m
  below : 2 * m ≤ 2 * whole + 1
  inside : whole % 2 = 1 → 2 * (whole : ℚ) - 1 < 2 * m ∧ 2 * m < 2 * whole + 1

/-- The number that a quotient leaves over decides, and its parity where it is half. -/
theorem round_half_even_bounds (numerator : Nat) {denominator : Nat} (positive : 0 < denominator) :
    let whole := roundHalfEven numerator denominator
    2 * (whole * denominator) ≤ 2 * numerator + denominator ∧
      2 * numerator ≤ 2 * (whole * denominator) + denominator ∧
      (whole % 2 = 1 → 2 * (whole * denominator) < 2 * numerator + denominator ∧
        2 * numerator < 2 * (whole * denominator) + denominator) := by
  intro whole
  have split := Nat.div_add_mod' numerator denominator
  have left := Nat.mod_lt numerator positive
  have rounded : whole = roundHalfEven numerator denominator := rfl
  rw [roundHalfEven] at rounded
  generalize numerator / denominator = quotient at *
  generalize numerator % denominator = remainder at *
  have next : (quotient + 1) * denominator = quotient * denominator + denominator :=
    Nat.succ_mul _ _
  split_ifs at rounded with less more
  · rw [rounded]
    omega
  · rw [rounded, next]
    omega
  · rcases Nat.mod_two_eq_zero_or_one quotient with even | odd
    · rw [rounded, even, Nat.add_zero]
      omega
    · rw [rounded, odd, next]
      omega

theorem nearest_of_quotient {m : ℚ} {numerator denominator : Nat} (positive : 0 < denominator)
    (quotient : (numerator : ℚ) = m * denominator) :
    Nearest m (roundHalfEven numerator denominator) := by
  obtain ⟨above, below, inside⟩ := round_half_even_bounds numerator positive
  have unit : (0 : ℚ) < denominator := Nat.cast_pos.mpr positive
  generalize roundHalfEven numerator denominator = whole at *
  rw [← Nat.cast_le (α := ℚ)] at above below
  rw [← Nat.cast_lt (α := ℚ), ← Nat.cast_lt (α := ℚ)] at inside
  push_cast at above below inside
  rw [quotient] at above below inside
  refine ⟨?_, ?_, fun odd => ⟨?_, ?_⟩⟩
  · exact le_of_mul_le_mul_right (by linarith) unit
  · exact le_of_mul_le_mul_right (by linarith) unit
  · exact lt_of_mul_lt_mul_right (by linarith [(inside odd).1]) unit.le
  · exact lt_of_mul_lt_mul_right (by linarith [(inside odd).2]) unit.le

theorem Nearest.in_units {q unit : ℚ} {whole : Nat} (nearest : Nearest (q / unit) whole)
    (positive : 0 < unit) :
    (2 * whole - 1) * unit ≤ 2 * q ∧ 2 * q ≤ (2 * whole + 1) * unit ∧
      (whole % 2 = 1 → (2 * whole - 1) * unit < 2 * q ∧ 2 * q < (2 * whole + 1) * unit) := by
  obtain ⟨above, below, inside⟩ := nearest
  rw [← mul_div_assoc, le_div_iff₀ positive] at above
  rw [← mul_div_assoc, div_le_iff₀ positive] at below
  rw [← mul_div_assoc, lt_div_iff₀ positive, div_lt_iff₀ positive] at inside
  exact ⟨above, below, inside⟩

/-- A scale fits a number that has at most fifty-three bits before the point in its units, and as
many unless the scale is the least. -/
structure Fits (q : ℚ) (scale : ℤ) : Prop where
  least : -1074 ≤ scale
  narrow : q < 2 ^ (scale + 53)
  wide : scale = -1074 ∨ 2 ^ (scale + 52) ≤ q

end Binary64

namespace Decimal

theorem to_rat_nonneg (d : Decimal) : 0 ≤ d.toRat :=
  mul_nonneg (Nat.cast_nonneg _) (zpow_nonneg (by norm_num) _)

/-- The logarithms place a number within a factor of four. -/
theorem within_logarithms (d : Decimal) (nonzero : d.numerator ≠ 0) :
    2 ^ ((d.numerator.log2 : ℤ) - d.denominator.log2 - 1) ≤ d.toRat ∧
      d.toRat < 2 ^ ((d.numerator.log2 : ℤ) - d.denominator.log2 + 1) := by
  have product := d.to_rat_mul_denominator
  have unit : (0 : ℚ) < d.denominator := Nat.cast_pos.mpr d.denominator_pos
  have numeratorLow : (2 : ℚ) ^ (d.numerator.log2 : ℤ) ≤ d.numerator := by
    exact_mod_cast Nat.log2_self_le nonzero
  have numeratorHigh : (d.numerator : ℚ) < 2 ^ ((d.numerator.log2 : ℤ) + 1) := by
    exact_mod_cast Nat.lt_log2_self (n := d.numerator)
  have denominatorLow : (2 : ℚ) ^ (d.denominator.log2 : ℤ) ≤ d.denominator := by
    exact_mod_cast Nat.log2_self_le d.denominator_pos.ne'
  have denominatorHigh : (d.denominator : ℚ) < 2 ^ ((d.denominator.log2 : ℤ) + 1) := by
    exact_mod_cast Nat.lt_log2_self (n := d.denominator)
  generalize (d.numerator.log2 : ℤ) = above at *
  generalize (d.denominator.log2 : ℤ) = under at *
  constructor
  · refine le_of_mul_le_mul_right ?_ unit
    calc (2 : ℚ) ^ (above - under - 1) * d.denominator
        ≤ 2 ^ (above - under - 1) * 2 ^ (under + 1) :=
          mul_le_mul_of_nonneg_left denominatorHigh.le (zpow_pos two_pos _).le
      _ = 2 ^ above := by
          rw [← zpow_add₀ two_ne_zero]
          congr 1
          omega
      _ ≤ d.toRat * d.denominator := numeratorLow.trans product.ge
  · refine lt_of_mul_lt_mul_right ?_ unit.le
    calc d.toRat * d.denominator < 2 ^ (above + 1) := product.trans_lt numeratorHigh
      _ = 2 ^ (above - under + 1) * 2 ^ under := by
          rw [← zpow_add₀ two_ne_zero]
          congr 1
          omega
      _ ≤ 2 ^ (above - under + 1) * d.denominator :=
          mul_le_mul_of_nonneg_left denominatorLow (zpow_pos two_pos _).le

theorem too_wide_iff (d : Decimal) (scale : ℤ) :
    Nat.pow 2 53 * d.denominator * Nat.pow 2 scale.toNat ≤
      d.numerator * Nat.pow 2 (-scale).toNat ↔ 2 ^ (scale + 53) ≤ d.toRat := by
  have unit : (0 : ℚ) < (d.denominator * Nat.pow 2 scale.toNat : ℕ) :=
    Nat.cast_pos.mpr (Nat.mul_pos d.denominator_pos (Nat.two_pow_pos _))
  have power : (0 : ℚ) < 2 ^ scale := zpow_pos two_pos _
  have bits : ((Nat.pow 2 53 : ℕ) : ℚ) * 2 ^ scale = 2 ^ (scale + 53) := by
    rw [zpow_add₀ two_ne_zero, mul_comm, Nat.pow_eq, Nat.cast_pow, Nat.cast_two]
    rfl
  rw [← Nat.cast_le (α := ℚ), point_eq, Nat.mul_assoc, Nat.cast_mul (Nat.pow 2 53),
    mul_le_mul_iff_left₀ unit, le_div_iff₀ power, bits]

end Decimal

namespace Binary64

theorem scale_fits (d : Decimal) (nonzero : d.numerator ≠ 0) :
    Fits d.toRat (scaleOf d.numerator d.denominator) := by
  obtain ⟨low, high⟩ := d.within_logarithms nonzero
  have monotone {a b : ℤ} (le : a ≤ b) : (2 : ℚ) ^ a ≤ 2 ^ b := zpow_le_zpow_right₀ one_le_two le
  rw [scaleOf]
  simp only [Decimal.too_wide_iff]
  generalize (d.numerator.log2 : ℤ) - d.denominator.log2 = difference at *
  split_ifs with tooWide
  · refine ⟨by omega, ?_, .inr ?_⟩
    · exact high.trans_le (monotone (by omega))
    · exact (monotone (by omega)).trans tooWide
  · refine ⟨by omega, not_le.mp tooWide, ?_⟩
    rcases le_total (difference - 53) (-1074) with subnormal | normal
    · exact .inl (by omega)
    · exact .inr ((monotone (by omega)).trans low)

section Bits

variable {place significand : Nat}

/-- What bits count that are put together from a place and a significand. Only a significand of
fifty-three bits says that a place is taken, and one bit more says that it is the next one. -/
theorem units_of_parts (bound : significand ≤ 2 ^ 53) (full : place = 0 ∨ 2 ^ 52 ≤ significand) :
    unitsAt (place * 2 ^ 52 + significand) = significand * 2 ^ place := by
  rw [unitsAt]
  rcases Nat.lt_or_ge significand (2 ^ 52) with subnormal | normal
  · obtain rfl : place = 0 := full.resolve_right (by omega)
    rw [Nat.zero_mul, Nat.zero_add, if_pos (Nat.div_eq_of_lt subnormal), Nat.mod_eq_of_lt subnormal,
      Nat.div_eq_of_lt subnormal]
  · rcases Nat.lt_or_ge significand (2 ^ 53) with fits | carries
    · have exponent : (place * 2 ^ 52 + significand) / 2 ^ 52 = place + 1 := by omega
      have fraction : 2 ^ 52 + (place * 2 ^ 52 + significand) % 2 ^ 52 = significand := by omega
      rw [exponent, if_neg (Nat.succ_ne_zero _), fraction, Nat.add_sub_cancel]
    · have exponent : (place * 2 ^ 52 + significand) / 2 ^ 52 = place + 2 := by omega
      have fraction : (place * 2 ^ 52 + significand) % 2 ^ 52 = 0 := by omega
      have carried : significand = 2 ^ 52 * 2 := by omega
      rw [exponent, if_neg (Nat.succ_ne_zero _), fraction, Nat.add_zero, carried, Nat.mul_assoc,
        ← pow_succ']
      rfl

theorem units_above_parts (bound : significand ≤ 2 ^ 53) (full : place = 0 ∨ 2 ^ 52 ≤ significand) :
    (significand + 1) * 2 ^ place ≤ unitsAt (place * 2 ^ 52 + significand + 1) := by
  rw [units_step, units_of_parts bound full, Nat.succ_mul]
  exact Nat.add_le_add_left (Nat.pow_le_pow_right two_pos (by omega)) _

end Bits

theorem two_pow_place {scale : ℤ} (least : -1074 ≤ scale) :
    (2 : ℚ) ^ (scale + 1074).toNat * leastMagnitude = 2 ^ scale := by
  rw [leastMagnitude, ← zpow_natCast, ← zpow_add₀ two_ne_zero]
  congr 1
  omega

section Assemble

variable {q : ℚ} {scale : ℤ} {significand : Nat}

theorem Fits.significand_bounds (fits : Fits q scale)
    (nearest : Nearest (q / 2 ^ scale) significand) :
    significand ≤ 2 ^ 53 ∧ ((scale + 1074).toNat = 0 ∨ 2 ^ 52 ≤ significand) := by
  have unit : (0 : ℚ) < 2 ^ scale := zpow_pos two_pos _
  have bits (count : ℕ) : (2 : ℚ) ^ (scale + count) = 2 ^ count * 2 ^ scale := by
    rw [zpow_add₀ two_ne_zero, zpow_natCast, mul_comm]
  have narrow : q / 2 ^ scale < 2 ^ 53 := by
    rw [div_lt_iff₀ unit, ← bits 53]
    exact fits.narrow
  constructor
  · have twice : (2 * significand : ℚ) < 2 * 2 ^ 53 + 1 := by linarith [nearest.above]
    have counted : 2 * significand < 2 * 2 ^ 53 + 1 := by exact_mod_cast twice
    omega
  · refine fits.wide.imp (fun isLeast => by omega) fun wide => ?_
    have enough : (2 : ℚ) ^ 52 ≤ q / 2 ^ scale := by
      rw [le_div_iff₀ unit, ← bits 52]
      exact wide
    have twice : (2 * 2 ^ 52 : ℚ) ≤ 2 * significand + 1 := by linarith [nearest.below]
    have counted : 2 * 2 ^ 52 ≤ 2 * significand + 1 := by exact_mod_cast twice
    omega

theorem magnitude_of_parts (least : -1074 ≤ scale) (bound : significand ≤ 2 ^ 53)
    (full : (scale + 1074).toNat = 0 ∨ 2 ^ 52 ≤ significand) :
    magnitudeAt ((scale + 1074).toNat * 2 ^ 52 + significand) = significand * 2 ^ scale := by
  rw [magnitudeAt, units_of_parts bound full, Nat.cast_mul, Nat.cast_pow, Nat.cast_two, mul_assoc,
    two_pow_place least]

theorem magnitude_above_parts (least : -1074 ≤ scale) (bound : significand ≤ 2 ^ 53)
    (full : (scale + 1074).toNat = 0 ∨ 2 ^ 52 ≤ significand) :
    (significand + 1) * 2 ^ scale ≤
      magnitudeAt ((scale + 1074).toNat * 2 ^ 52 + significand + 1) := by
  have counted := Nat.cast_le (α := ℚ).mpr (units_above_parts bound full)
  push_cast at counted
  rw [magnitudeAt, ← two_pow_place least, ← mul_assoc]
  exact mul_le_mul_of_nonneg_right counted least_magnitude_pos.le

/-- Where the step below is narrower than the one above, the number is not below at all. -/
theorem Fits.from_below (fits : Fits q scale) (nonnegative : 0 ≤ q)
    (nearest : Nearest (q / 2 ^ scale) significand) (narrower : significand = 0 ∨
      significand = 2 ^ 52 ∧ (scale + 1074).toNat ≠ 0) : significand * 2 ^ scale ≤ q := by
  rcases narrower with rfl | ⟨rfl, taken⟩
  · rw [Nat.cast_zero, zero_mul]
    exact nonnegative
  · have wide := fits.wide.resolve_left (by omega)
    rw [zpow_add₀ two_ne_zero, mul_comm] at wide
    exact_mod_cast wide

/-- A number lies between the midpoints around the bits of its rounded significand. -/
theorem Fits.between (fits : Fits q scale) (nonnegative : 0 ≤ q)
    (nearest : Nearest (q / 2 ^ scale) significand) :
    Between q ((scale + 1074).toNat * 2 ^ 52 + significand) := by
  obtain ⟨bound, full⟩ := fits.significand_bounds nearest
  have here := magnitude_of_parts fits.least bound full
  have next := magnitude_above_parts fits.least bound full
  obtain ⟨above, below, inside⟩ := nearest.in_units (zpow_pos two_pos scale)
  by_cases narrower : significand = 0 ∨ significand = 2 ^ 52 ∧ (scale + 1074).toNat ≠ 0
  · have reached := fits.from_below nonnegative nearest narrower
    have previous := magnitude_strict_mono.monotone
      (Nat.sub_le ((scale + 1074).toNat * 2 ^ 52 + significand) 1)
    refine ⟨by linarith, by linarith, fun odd => ?_⟩
    omega
  · obtain ⟨lower, rfl⟩ : ∃ lower, significand = lower + 1 := ⟨significand - 1, by omega⟩
    have previous : magnitudeAt ((scale + 1074).toNat * 2 ^ 52 + lower) = lower * 2 ^ scale :=
      magnitude_of_parts fits.least (by omega) (by omega)
    rw [Nat.cast_succ] at here next above below inside
    rw [← Nat.add_assoc] at here next ⊢
    refine ⟨?_, by linarith, fun odd => ?_⟩
    · rw [Nat.add_sub_cancel]
      linarith
    · obtain ⟨strictlyAbove, strictlyBelow⟩ := inside (by omega)
      rw [Nat.add_sub_cancel]
      exact ⟨by linarith, by linarith⟩

end Assemble

/-- The bits a decimal is read as are the last up to those of infinity that it passes. -/
theorem nearest_word_between (d : Decimal) : ∃ word, Between d.toRat word ∧
    nearestWord d.numerator d.denominator = min word infinityBits := by
  by_cases zero : d.numerator = 0
  · refine ⟨0, ?_, ?_⟩
    · have nothing : d.toRat = magnitudeAt 0 := by
        have product := d.to_rat_mul_denominator
        rw [zero, Nat.cast_zero] at product
        have unit : (d.denominator : ℚ) ≠ 0 := Nat.cast_ne_zero.mpr d.denominator_pos.ne'
        rw [(mul_eq_zero.mp product).resolve_right unit, magnitudeAt]
        exact (zero_mul _).symm
      rw [nothing]
      exact between_exactly 0
    · rw [nearestWord, if_pos zero]
      rfl
  · have fits := scale_fits d zero
    have positive := Nat.mul_pos d.denominator_pos
      (Nat.two_pow_pos (scaleOf d.numerator d.denominator).toNat)
    have nearest := nearest_of_quotient positive (d.point_eq (scaleOf d.numerator d.denominator))
    refine ⟨_, fits.between d.to_rat_nonneg nearest, ?_⟩
    rw [nearestWord, if_neg zero]
    rfl

theorem nearest_fields (negative : Bool) (d : Decimal) :
    (nearest negative d).isNegative = negative ∧
      (nearest negative d).magnitudeWord = nearestWord d.numerator d.denominator := by
  obtain ⟨word, -, same⟩ := nearest_word_between d
  have bound : nearestWord d.numerator d.denominator ≤ infinityBits := same ▸ Nat.min_le_right _ _
  rw [infinityBits] at bound
  have whole : (nearest negative d).word =
      (if negative then 2 ^ 63 else 0) + nearestWord d.numerator d.denominator := by
    rw [nearest, Binary64.word, ofWord, UInt64.toNat_ofNat', Nat.pow_eq]
    apply Nat.mod_eq_of_lt
    split_ifs <;> omega
  rw [isNegative, magnitudeWord, whole, Nat.pow_eq]
  cases negative
  · rw [if_neg Bool.false_ne_true]
    exact ⟨decide_eq_false (by omega), by omega⟩
  · rw [if_pos rfl]
    exact ⟨decide_eq_true (by omega), by omega⟩

/-- Reading a decimal rounds it correctly. -/
theorem nearest_rounds (negative : Bool) (d : Decimal) : Rounds d.toRat (nearest negative d) := by
  obtain ⟨word, between, same⟩ := nearest_word_between d
  rw [← (nearest_fields negative d).2] at same
  rcases Nat.lt_or_ge word infinityBits with finite | infinite
  · rw [Nat.min_eq_left finite.le] at same
    rw [← same] at between finite
    exact between.rounds ((finite_iff_word _).mpr finite)
  · rw [Nat.min_eq_right infinite] at same
    refine .infinite ((infinite_iff_word _).mpr same) ?_
    have boundary := overflow_eq
    have here := magnitude_strict_mono.monotone infinite
    have previous := magnitude_strict_mono.monotone (Nat.sub_le_sub_right infinite 1)
    have above := between.above
    linarith

example : nearest true ⟨1, -1⟩ = ⟨0xBFB999999999999A⟩ := by decide +kernel

end Binary64

end Taxon
