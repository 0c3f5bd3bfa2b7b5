import Taxon.Toml.Moment
import Taxon.Toml.Number

/-!
Scalars without quotes: truth values, numbers, dates and times. A token reaches as far as nothing
ends it, and is read as a whole or refused.
-/

set_option autoImplicit false

namespace Taxon.Toml

def scalar? (token : List Char) : Option Scalar :=
  if token = ['t', 'r', 'u', 'e'] then some (.boolean true)
  else if token = ['f', 'a', 'l', 's', 'e'] then some (.boolean false)
  else (number? token).or (if isMoment token then some .moment else none)

/-- Blanks, line breaks, comments and punctuation end a token. -/
def isTokenChar (c : Char) : Bool :=
  !([' ', '\t', '\n', '\r', '#', ',', '=', '[', ']', '\x7b', '\x7d'] : List Char).contains c

def startsTime : List Char → Bool
  | a :: b :: ':' :: _ => Digits.isDecimal a && Digits.isDecimal b
  | _ => false

/-- Splits a token off. One blank may stand inside, between a date and a time. -/
def splitToken (text : List Char) : List Char × List Char :=
  let token := text.takeWhile isTokenChar
  match text.dropWhile isTokenChar with
  | ' ' :: rest =>
      if afterDate? token = some [] && startsTime rest then
        (token ++ ' ' :: rest.takeWhile isTokenChar, rest.dropWhile isTokenChar)
      else (token, ' ' :: rest)
  | rest => (token, rest)

end Taxon.Toml
