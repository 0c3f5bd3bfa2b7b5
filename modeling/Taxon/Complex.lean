import Taxon.Binary64.Decimal

/-!
Complex numbers as pairs of doubles. A complex number is missing when either part is. Its text puts
the sign bit of the imaginary part between the two parts and the magnitude behind it.
-/

set_option autoImplicit false

namespace Taxon

structure Complex where
  re : Binary64
  im : Binary64
deriving DecidableEq, Inhabited

namespace Complex

def missing : Complex := ⟨.missing, .missing⟩

def isMissing (z : Complex) : Bool := z.re.isMissing || z.im.isMissing

def isNaN (z : Complex) : Bool := z.re.isNaN || z.im.isNaN

def equal (z w : Complex) : Bool := z.re.equal w.re && z.im.equal w.im

/-- The separator is the sign bit of the imaginary part, which is then printed without it. -/
def chars (z : Complex) : List Char :=
  if z.isMissing then ['N', 'A']
  else if z.im.isNegative then z.re.chars ++ '-' :: z.im.negate.chars ++ ['i']
  else z.re.chars ++ '+' :: z.im.chars ++ ['i']

def text (z : Complex) : String := String.ofList z.chars

end Complex

end Taxon
