import Taxon.Binary64.Decimal
import Taxon.Text.Digits
import Taxon.Toml.Node

/-!
Numbers: integers in four radices, and floats. Underscores are checked where they stand and then
left out. Some spellings belong to well-formed documents and still have no value: a radix without
digits, a decimal integer with other text behind its first underscore, and numbers out of range.
-/

set_option autoImplicit false

namespace Taxon.Toml

inductive Sign where
  | absent
  | plus
  | minus
deriving DecidableEq, Repr

namespace Sign

def split : List Char → Sign × List Char
  | '+' :: rest => (.plus, rest)
  | '-' :: rest => (.minus, rest)
  | rest => (.absent, rest)

def apply : Sign → Nat → Int
  | .minus, n => -(n : Int)
  | _, n => n

end Sign

/-- Whether every underscore stands between two digits; `before` says whether the place in front
of the text counts as a digit. -/
def separated (isDigit : Char → Bool) : (before : Bool) → List Char → Bool
  | _, [] => true
  | before, '_' :: rest => before && rest.head?.any isDigit && separated isDigit false rest
  | _, c :: rest => separated isDigit (isDigit c) rest

def withoutUnderscores (text : List Char) : List Char := text.filter (· != '_')

def run? (isDigit : Char → Bool) (text : List Char) : Option (List Char) :=
  if text ≠ [] && text.all isDigit then some text else none

/-- An integer, which has to fit into 128 bits with its sign to have a value. -/
def Scalar.ofInteger (n : Int) : Scalar :=
  if -Int.pow 2 127 ≤ n && n < Int.pow 2 127 then .integer n else .unreadable

def radixInteger? (radix : Nat) (isDigit : Char → Bool) (text : List Char) : Option Scalar :=
  let digits := withoutUnderscores text
  if separated isDigit false text && digits.all isDigit then
    match run? isDigit digits with
    | some digits => some (.ofInteger (Digits.value radix digits))
    | none => some .unreadable
  else none

/-- The decimal integer that digits spell, without a value if there is anything but digits. -/
def signedInteger (sign : Sign) (digits : List Char) : Scalar :=
  match run? Digits.isDecimal digits with
  | some digits => .ofInteger (sign.apply (Digits.value 10 digits))
  | none => .unreadable

/-- A decimal integer behind its sign. Digits alone are one, and so are digits with any text behind
them that starts with an underscore. Underscores stand between hexadecimal digits in every radix,
and a sign will do for the first of them. -/
def decimalInteger? (sign : Sign) (text : List Char) : Option Scalar :=
  match text, text.dropWhile Digits.isDecimal with
  | _ :: _, [] => some (signedInteger sign text)
  | _, '_' :: _ =>
      if separated Digits.isHexadecimal (sign != .absent) text then
        some (signedInteger sign (withoutUnderscores text))
      else none
  | _, _ => none

def isExponentMark (c : Char) : Bool := c == 'e' || c == 'E'

def isFloatMark (c : Char) : Bool := c == '.' || isExponentMark c

def places? : List Char → Option (List Char)
  | [] => some []
  | _ :: places => run? Digits.isDecimal places

def exponent? : List Char → Option Int
  | [] => some 0
  | _ :: power =>
      let (sign, digits) := Sign.split power
      (run? Digits.isDecimal digits).map fun digits => sign.apply (Digits.value 10 digits)

/-- The decimal of an unsigned float: digits, then places behind a point, an exponent, or both. -/
def decimal? (text : List Char) : Option Decimal := do
  let mantissa := text.takeWhile fun c => !isExponentMark c
  let whole ← run? Digits.isDecimal (mantissa.takeWhile (· != '.'))
  let places ← places? (mantissa.dropWhile (· != '.'))
  let power ← exponent? (text.dropWhile fun c => !isExponentMark c)
  pure ⟨Digits.value 10 (whole ++ places), power - (places.length : Int)⟩

/-- A decimal with an exponent far outside the range of doubles is pulled to the edge of a range
that still decides: infinite above, zero below. -/
def clamped (d : Decimal) : Decimal :=
  let length : Int := (Nat.toDigits 10 d.coefficient).length
  ⟨d.coefficient, max (-400 - length) (min 400 d.exponent)⟩

/-- The float nearest to a decimal, which has to be finite to have a value. -/
def Scalar.ofDecimal (sign : Sign) (d : Decimal) : Scalar :=
  let x := Binary64.nearest (sign == .minus) (clamped d)
  if x.isFinite then .float x else .unreadable

/-- A float behind its sign. Underscores stand between decimal digits, and a sign will do for the
first of them. -/
def float? (sign : Sign) (text : List Char) : Option Scalar :=
  if separated Digits.isDecimal (sign != .absent) text then
    (decimal? (withoutUnderscores text)).map (.ofDecimal sign)
  else none

def quietNaNWord : Nat := 0x7FF8000000000000

def namedFloat? (sign : Sign) (text : List Char) : Option Scalar :=
  let high := if sign = .minus then Nat.pow 2 63 else 0
  if text = ['i', 'n', 'f'] then some (.float (.ofWord (high + Binary64.infinityWord)))
  else if text = ['n', 'a', 'n'] then some (.float (.ofWord (high + quietNaNWord)))
  else none

/-- Whether a decimal number starts with a zero that says nothing. -/
def hasNeedlessZero : List Char → Bool
  | '0' :: c :: _ => Digits.isDecimal c || c == '_'
  | _ => false

/-- The number that a token spells. Only decimal numbers take a sign. -/
def number? (token : List Char) : Option Scalar :=
  match token with
  | '0' :: 'x' :: text => radixInteger? 16 Digits.isHexadecimal text
  | '0' :: 'o' :: text => radixInteger? 8 Digits.isOctal text
  | '0' :: 'b' :: text => radixInteger? 2 Digits.isBinary text
  | _ =>
      let (sign, text) := Sign.split token
      if hasNeedlessZero text then none
      else if text.any isFloatMark then float? sign text
      else (namedFloat? sign text).or (decimalInteger? sign text)

end Taxon.Toml
