import Taxon.Binary64.Basic

/-!
Decimals beside doubles. `Binary64.nearest` reads a decimal as the closest double, a tie going to
the even significand; `Binary64.shortest` writes a double as the decimal with the fewest digits
that lies in its rounding interval, the nearer of two, the larger on a tie. Both work in exact
integer arithmetic. `Decimal.chars` is positional: every zero is written out and there is never an
exponent.
-/

set_option autoImplicit false

namespace Taxon

/-- The number `coefficient * 10 ^ exponent`. -/
structure Decimal where
  coefficient : Nat
  exponent : Int
deriving DecidableEq, Repr

namespace Decimal

/-- The last `count` decimal digits of `n`, zeros in front kept. -/
def lastDigits : Nat → Nat → List Char
  | 0, _ => []
  | count + 1, n => lastDigits count (n / 10) ++ [Nat.digitChar (n % 10)]

/-- Positional notation, with a point only where there are places behind it. -/
def chars (d : Decimal) : List Char :=
  match d.exponent with
  | .ofNat zeros => Nat.toDigits 10 d.coefficient ++ List.replicate zeros '0'
  | .negSucc n =>
      Nat.toDigits 10 (d.coefficient / Nat.pow 10 (n + 1)) ++
        '.' :: lastDigits (n + 1) d.coefficient

def numerator (d : Decimal) : Nat := d.coefficient * Nat.pow 10 d.exponent.toNat

def denominator (d : Decimal) : Nat := Nat.pow 10 (-d.exponent).toNat

end Decimal

namespace Binary64

/-- The integer nearest to a quotient, a half going to the even one. -/
def roundHalfEven (numerator denominator : Nat) : Nat :=
  let quotient := numerator / denominator
  let remainder := numerator % denominator
  if 2 * remainder < denominator then quotient
  else if denominator < 2 * remainder then quotient + 1
  else quotient + quotient % 2

/-- The exponent at which a quotient has a significand of fifty-three bits, or the least exponent
there is. The logarithms place the quotient within a factor of four, hence the one correction. -/
def scaleOf (numerator denominator : Nat) : Int :=
  let estimate := max ((numerator.log2 : Int) - denominator.log2 - 53) (-1074)
  if Nat.pow 2 53 * denominator * Nat.pow 2 estimate.toNat ≤
      numerator * Nat.pow 2 (-estimate).toNat then
    estimate + 1
  else estimate

/-- The magnitude bits of the double nearest to a quotient. A significand that rounds up to the
next power of two carries into the exponent bits, which is the right double. -/
def nearestWord (numerator denominator : Nat) : Nat :=
  if numerator = 0 then 0
  else
    let scale := scaleOf numerator denominator
    let significand :=
      roundHalfEven (numerator * Nat.pow 2 (-scale).toNat) (denominator * Nat.pow 2 scale.toNat)
    min ((scale + 1074).toNat * Nat.pow 2 52 + significand) infinityWord

def nearest (negative : Bool) (d : Decimal) : Binary64 :=
  ofWord ((if negative then Nat.pow 2 63 else 0) + nearestWord d.numerator d.denominator)

/-- The lower end of the rounding interval, in quarters of a unit of the last place. Below a power
of two the spacing halves. -/
def lowerQuarters (x : Binary64) : Nat :=
  if x.fraction = 0 && 1 < x.exponentField then 4 * x.significand - 1 else 4 * x.significand - 2

def upperQuarters (x : Binary64) : Nat := 4 * x.significand + 2

/-- Whether a decimal rounds to the magnitude of a finite `x`: it lies between the two midpoints,
which belong to the interval exactly when the significand is even. -/
def covers (x : Binary64) (d : Decimal) : Bool :=
  let quarter := x.scale - 2
  let point := d.numerator * Nat.pow 2 (-quarter).toNat
  let unit := d.denominator * Nat.pow 2 quarter.toNat
  if x.significand % 2 = 0 then
    x.lowerQuarters * unit ≤ point && point ≤ x.upperQuarters * unit
  else x.lowerQuarters * unit < point && point < x.upperQuarters * unit

def inPlaces (x : Binary64) (place : Int) : Nat × Nat :=
  (x.significand * Nat.pow 2 x.scale.toNat * Nat.pow 10 (-place).toNat,
    Nat.pow 2 (-x.scale).toNat * Nat.pow 10 place.toNat)

/-- The best decimal at one place that rounds to `x`. Only the two neighbours of `x` on the grid
need a look: if any point of the grid is in the interval, so is one of them. -/
def candidate? (x : Binary64) (place : Int) : Option Decimal :=
  let (numerator, denominator) := x.inPlaces place
  let below : Decimal := ⟨numerator / denominator, place⟩
  let above : Decimal := ⟨numerator / denominator + 1, place⟩
  match x.covers below, x.covers above with
  | true, true => if 2 * (numerator % denominator) < denominator then some below else some above
  | true, false => some below
  | false, true => some above
  | false, false => none

/-- All digits of the magnitude: a power of two times a power of five is a power of ten. -/
def expansion (x : Binary64) : Decimal :=
  match x.scale with
  | .ofNat up => ⟨x.significand * Nat.pow 2 up, 0⟩
  | .negSucc down => ⟨x.significand * Nat.pow 5 (down + 1), .negSucc down⟩

/-- Tries places from the coarsest on; a coarser place means fewer digits. -/
def searchPlaces (x : Binary64) : Nat → Int → Decimal
  | 0, _ => x.expansion
  | tries + 1, place => (x.candidate? place).getD (searchPlaces x tries (place - 1))

/-- A power of ten above the magnitude: 30103 / 100000 is the logarithm of two, rounded. -/
def coarsestPlace (x : Binary64) : Int :=
  ((x.significand.log2 : Int) + 1 + x.scale) * 30103 / 100000 + 1

/-- The fewest digits that read back as the magnitude of a finite, nonzero `x`. Seventeen always
do, and the coarsest place may leave three tries without any. -/
def shortest (x : Binary64) : Decimal := searchPlaces x 20 x.coarsestPlace

def magnitudeChars (x : Binary64) : List Char :=
  if x.isNaN then ['N', 'a', 'N']
  else if x.isInfinite then ['i', 'n', 'f']
  else if x.isZero then ['0']
  else x.shortest.chars

/-- The sign is written for zeros and infinities too, and never for a not-a-number. -/
def chars (x : Binary64) : List Char :=
  if x.isNegative && !x.isNaN then '-' :: x.magnitudeChars else x.magnitudeChars

def text (x : Binary64) : String := String.ofList x.chars

def pointedText (x : Binary64) : String :=
  if x.isFinite && !x.chars.contains '.' then x.text ++ ".0" else x.text

end Binary64

end Taxon
