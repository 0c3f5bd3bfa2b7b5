/-!
Doubles kept as their sixty-four bits. Storing, copying and passing a double never touches its
bits, so every pattern survives, the payload of a not-a-number included; only comparison and
printing read the fields. Field access is stated on natural numbers.
-/

set_option autoImplicit false

namespace Taxon

structure Binary64 where
  bits : UInt64
deriving DecidableEq, Inhabited

namespace Binary64

def word (x : Binary64) : Nat := x.bits.toNat

def ofWord (word : Nat) : Binary64 := ⟨UInt64.ofNat word⟩

def isNegative (x : Binary64) : Bool := Nat.pow 2 63 ≤ x.word

def exponentField (x : Binary64) : Nat := x.word / Nat.pow 2 52 % Nat.pow 2 11

def fraction (x : Binary64) : Nat := x.word % Nat.pow 2 52

def isFinite (x : Binary64) : Bool := x.exponentField < 2047

def isNaN (x : Binary64) : Bool := x.exponentField == 2047 && x.fraction != 0

def isInfinite (x : Binary64) : Bool := x.exponentField == 2047 && x.fraction == 0

def isZero (x : Binary64) : Bool := x.word % Nat.pow 2 63 == 0

/-- Adding half of `2 ^ 64` flips the sign bit and no other. -/
def negate (x : Binary64) : Binary64 := ⟨x.bits + 0x8000000000000000⟩

/-- A finite double is `significand * 2 ^ scale`, up to its sign. -/
def significand (x : Binary64) : Nat :=
  if x.exponentField = 0 then x.fraction else Nat.pow 2 52 + x.fraction

def scale (x : Binary64) : Int := (max x.exponentField 1 : Nat) - (1075 : Int)

def infinityWord : Nat := 2047 * Nat.pow 2 52

/-- Equality of numbers: a not-a-number equals nothing, and the two zeros are equal. -/
def equal (x y : Binary64) : Bool :=
  !x.isNaN && !y.isNaN && (x.word == y.word || (x.isZero && y.isZero))

def missingMark : Nat := 1954

/-- The missing double: a quiet not-a-number that carries `missingMark`. -/
def missing : Binary64 := ⟨0x7FF80000000007A2⟩

/-- Missing is any not-a-number whose low half is the mark; the sign and the other bits are free.
-/
def isMissing (x : Binary64) : Bool := x.isNaN && x.word % Nat.pow 2 32 == missingMark

theorem missing_is_missing : missing.isMissing = true := by decide

end Binary64

end Taxon
