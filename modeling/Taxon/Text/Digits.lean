/-!
Runs of digits and the numbers they stand for. Values are natural numbers of any size, so a run is
never cut short or wrapped, however long it is.
-/

set_option autoImplicit false

namespace Taxon.Digits

def isDecimal (c : Char) : Bool := '0' ≤ c && c ≤ '9'

def isOctal (c : Char) : Bool := '0' ≤ c && c ≤ '7'

def isBinary (c : Char) : Bool := c == '0' || c == '1'

def isHexadecimal (c : Char) : Bool :=
  isDecimal c || ('a' ≤ c && c ≤ 'f') || ('A' ≤ c && c ≤ 'F')

def valueOf (c : Char) : Nat :=
  if isDecimal c then c.toNat - '0'.toNat
  else if 'a' ≤ c then c.toNat - 'a'.toNat + 10
  else c.toNat - 'A'.toNat + 10

def value (radix : Nat) (digits : List Char) : Nat :=
  digits.foldl (fun total c => total * radix + valueOf c) 0

end Taxon.Digits
