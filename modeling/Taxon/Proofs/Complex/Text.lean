import Taxon.Proofs.Binary64.Reading

/-!
Texts of complex numbers. The last sign of a text separates the two parts and is the sign of the
imaginary one, so the parts can be read back, each as the double it was printed from.
-/

set_option autoImplicit false

namespace Taxon

namespace Binary64

/-- Missing by the fields: all exponent bits, and the mark in the low half. -/
theorem missing_iff (x : Binary64) :
    x.isMissing = true ↔ x.exponentField = 2047 ∧ x.word % 2 ^ 32 = 1954 := by
  simp only [isMissing, isNaN, Bool.and_eq_true, beq_iff_eq, bne_iff_ne, fraction, missingMark,
    Nat.pow_eq]
  omega

theorem negate_word (x : Binary64) : x.negate.magnitudeWord = x.magnitudeWord := by
  have bound := x.word_lt
  have word : x.negate.word = (x.word + 2 ^ 63) % 2 ^ 64 := UInt64.toNat_add _ _
  rw [magnitudeWord, magnitudeWord, word]
  omega

theorem negate_sign (x : Binary64) : x.negate.isNegative = !x.isNegative := by
  have bound := x.word_lt
  have word : x.negate.word = (x.word + 2 ^ 63) % 2 ^ 64 := UInt64.toNat_add _ _
  rw [Bool.eq_iff_iff, isNegative, isNegative, word, Nat.pow_eq]
  simp only [decide_eq_true_eq, Bool.not_eq_eq_eq_not, Bool.not_true, decide_eq_false_iff_not]
  omega

section Unsigned

variable {x y : Binary64}

theorem shortest_of_fields (exponent : x.exponentField = y.exponentField)
    (fraction : x.fraction = y.fraction) : x.shortest = y.shortest := by
  have significand : x.significand = y.significand := by
    rw [Binary64.significand, Binary64.significand, exponent, fraction]
  have scale : x.scale = y.scale := by rw [Binary64.scale, Binary64.scale, exponent]
  have covers : x.covers = y.covers := by
    funext d
    rw [Binary64.covers, Binary64.covers, lowerQuarters, lowerQuarters, upperQuarters,
      upperQuarters, exponent, fraction, significand, scale]
  have candidate : x.candidate? = y.candidate? := by
    funext place
    rw [candidate?, candidate?, inPlaces, inPlaces, covers, significand, scale]
  have search (tries : Nat) (place : Int) :
      x.searchPlaces tries place = y.searchPlaces tries place := by
    induction tries generalizing place with
    | zero => rw [searchPlaces, searchPlaces, expansion, expansion, significand, scale]
    | succ tries induction => rw [searchPlaces, searchPlaces, candidate, induction]
  rw [shortest, shortest, coarsestPlace, coarsestPlace, significand, scale, search]

theorem magnitude_chars_of_word (same : x.magnitudeWord = y.magnitudeWord) :
    x.magnitudeChars = y.magnitudeChars := by
  have exponent : x.exponentField = y.exponentField := by
    rw [exponent_of_word, exponent_of_word, same]
  have fraction : x.fraction = y.fraction := by rw [fraction_of_word, fraction_of_word, same]
  have zero : x.isZero = y.isZero := congrArg (· == 0) same
  rw [magnitudeChars, magnitudeChars, isNaN, isNaN, isInfinite, isInfinite, exponent, fraction,
    zero, shortest_of_fields exponent fraction]

end Unsigned

theorem negate_magnitude_chars (x : Binary64) : x.negate.magnitudeChars = x.magnitudeChars :=
  magnitude_chars_of_word x.negate_word

theorem chars_of_positive {x : Binary64} (positive : x.isNegative = false) :
    x.chars = x.magnitudeChars := by
  rw [chars, positive, Bool.false_and, if_neg Bool.false_ne_true]

theorem magnitude_chars_unsigned (x : Binary64) : ∀ c ∈ x.magnitudeChars, c ≠ '+' ∧ c ≠ '-' := by
  cases isNumber : x.isNaN with
  | true =>
      rw [magnitudeChars, isNumber, if_pos rfl]
      exact each_of_all (by decide)
  | false =>
      intro c mem
      have plain := (magnitude_chars_read isNumber).characters c mem
      exact ⟨plain.1, plain.2.1⟩

end Binary64

/-- A text cut in two at the last sign in it. -/
structure Cut (text front : List Char) (sign : Char) (back : List Char) : Prop where
  whole : text = front ++ sign :: back
  isSign : sign = '+' ∨ sign = '-'
  last : ∀ c ∈ back, c ≠ '+' ∧ c ≠ '-'

namespace Cut

variable {text front front' back back' : List Char} {sign sign' : Char}

theorem no_later {between : List Char} (cut : Cut text front sign back)
    (other : Cut text front' sign' back') (split : sign :: back = between ++ sign' :: back') :
    between = [] := by
  cases between with
  | nil => rfl
  | cons c between =>
      have behind := (List.cons.inj split).2
      have unsigned := cut.last sign' (behind ▸ List.mem_append_right _ List.mem_cons_self)
      rcases other.isSign with plus | minus
      · exact absurd plus unsigned.1
      · exact absurd minus unsigned.2

theorem unique (cut : Cut text front sign back) (other : Cut text front' sign' back') :
    front = front' ∧ sign = sign' ∧ back = back' := by
  rcases List.append_eq_append_iff.mp (cut.whole.symm.trans other.whole) with
    ⟨between, rfl, split⟩ | ⟨between, rfl, split⟩
  · obtain rfl := cut.no_later other split
    rw [List.append_nil]
    exact ⟨rfl, List.cons.inj split⟩
  · obtain rfl := other.no_later cut split
    rw [List.append_nil]
    exact ⟨rfl, List.cons.inj split.symm⟩

end Cut

namespace Complex

theorem chars_of_present {z : Complex} (present : z.isMissing = false) :
    z.chars = z.re.chars ++
      (if z.im.isNegative then '-' else '+') :: (z.im.magnitudeChars ++ ['i']) := by
  rw [chars, present, if_neg Bool.false_ne_true]
  cases negative : z.im.isNegative with
  | true =>
      have positive : z.im.negate.isNegative = false := by rw [Binary64.negate_sign, negative]; rfl
      rw [Binary64.chars_of_positive positive, Binary64.negate_magnitude_chars, if_pos rfl,
        if_pos rfl, List.append_assoc]
      rfl
  | false =>
      rw [Binary64.chars_of_positive negative, if_neg Bool.false_ne_true, if_neg Bool.false_ne_true,
        List.append_assoc]
      rfl

theorem cut_of_present {z : Complex} (present : z.isMissing = false) :
    Cut z.text.toList z.re.chars (if z.im.isNegative then '-' else '+')
      (z.im.magnitudeChars ++ ['i']) where
  whole := by rw [text, String.toList_ofList, chars_of_present present]
  isSign := by split_ifs <;> simp only [true_or, or_true]
  last := List.forall_mem_append.mpr ⟨z.im.magnitude_chars_unsigned, each_of_all (by decide)⟩

theorem text_eq_missing_iff (z : Complex) : z.text = "NA" ↔ z.isMissing = true := by
  constructor
  · intro same
    by_contra present
    rw [Bool.not_eq_true] at present
    have split := (cut_of_present present).whole
    rw [same] at split
    have last := congrArg List.getLast? split
    rw [← List.cons_append, ← List.append_assoc, List.getLast?_append] at last
    cases last
  · intro missing
    rw [text, chars, missing, if_pos rfl]

theorem present_of_number {z : Complex} (isNumber : z.isNaN = false) :
    z.re.isNaN = false ∧ z.im.isNaN = false ∧ z.isMissing = false := by
  rw [isNaN, Bool.or_eq_false_iff] at isNumber
  obtain ⟨left, right⟩ := isNumber
  refine ⟨left, right, ?_⟩
  rw [isMissing, Binary64.isMissing, Binary64.isMissing, left, right, Bool.false_and,
    Bool.false_and, Bool.or_false]

/-- The imaginary part reads under the sign that separates it. -/
theorem imaginary_reads {z : Complex} (isNumber : z.im.isNaN = false) :
    Binary64.Reads ((if z.im.isNegative then '-' else '+') :: z.im.magnitudeChars) z.im := by
  have unsigned := Binary64.magnitude_chars_read isNumber
  cases negative : z.im.isNegative with
  | true => exact @Binary64.Reads.signed ['-'] _ z.im (negative ▸ .minus) unsigned
  | false => exact @Binary64.Reads.signed ['+'] _ z.im (negative ▸ .plus) unsigned

theorem reads_iff {text : List Char} {x : Binary64} (reads : Binary64.Reads text x)
    (y : Binary64) : Binary64.Reads text y ↔ y = x :=
  ⟨fun other => other.unique reads, fun same => same ▸ reads⟩

/-- Nothing is lost in a text but the bits of a not-a-number. -/
structure TextLaw : Prop where
  missing (z : Complex) : z.text = "NA" ↔
    ∃ part ∈ [z.re, z.im], part.exponentField = 2047 ∧ part.word % 2 ^ 32 = 1954
  separated (z : Complex) : z.text ≠ "NA" → ∃ real sign imaginary,
    Cut z.text.toList real sign (imaginary ++ ['i']) ∧ (sign = '-' ↔ z.im.isNegative = true)
  read (z : Complex) : z.isNaN = false → ∃ real sign imaginary,
    Cut z.text.toList real sign (imaginary ++ ['i']) ∧
      (∀ x, Binary64.Reads real x ↔ x = z.re) ∧
      (∀ y, Binary64.Reads (sign :: imaginary) y ↔ y = z.im)
  positional (z : Complex) : z.isNaN = false → ∀ c ∈ z.text.toList, c ≠ 'e' ∧ c ≠ 'E'
  faithful (z w : Complex) : z.isNaN = false → w.isNaN = false → (z.text = w.text ↔ z = w)

theorem text_law : TextLaw where
  missing z := by
    simp only [text_eq_missing_iff, isMissing, Bool.or_eq_true, Binary64.missing_iff,
      List.mem_cons, List.not_mem_nil, or_false, exists_eq_or_imp, exists_eq_left]
  separated z present := by
    rw [Ne, text_eq_missing_iff, Bool.not_eq_true] at present
    refine ⟨_, _, _, cut_of_present present, ?_⟩
    cases z.im.isNegative <;> decide
  read z isNumber := by
    obtain ⟨left, right, present⟩ := present_of_number isNumber
    exact ⟨_, _, _, cut_of_present present, reads_iff (Binary64.chars_read left),
      reads_iff (imaginary_reads right)⟩
  positional z isNumber := by
    obtain ⟨left, right, present⟩ := present_of_number isNumber
    rw [(cut_of_present present).whole, ← List.cons_append]
    have real := (Binary64.chars_read left).characters
    have imaginary := (imaginary_reads right).characters
    have last : ∀ c ∈ ['i'], c ≠ 'e' ∧ c ≠ 'E' := each_of_all (by decide)
    exact List.forall_mem_append.mpr ⟨real, List.forall_mem_append.mpr ⟨imaginary, last⟩⟩
  faithful z w left right := by
    refine ⟨fun same => ?_, congrArg text⟩
    obtain ⟨zReal, zImaginary, zPresent⟩ := present_of_number left
    obtain ⟨wReal, wImaginary, wPresent⟩ := present_of_number right
    have cut := cut_of_present zPresent
    rw [same] at cut
    obtain ⟨real, sign, tail⟩ := cut.unique (cut_of_present wPresent)
    have re : z.re = w.re := by
      have reads := Binary64.chars_read zReal
      rw [real] at reads
      exact reads.unique (Binary64.chars_read wReal)
    have im : z.im = w.im := by
      have reads := imaginary_reads zImaginary
      rw [sign, List.append_cancel_right tail] at reads
      exact reads.unique (imaginary_reads wImaginary)
    cases z
    cases w
    exact congrArg₂ Complex.mk re im

example : text ⟨⟨0x3FF8000000000000⟩, ⟨0x8000000000000000⟩⟩ = "1.5-0i" := by decide +kernel

end Complex

end Taxon
