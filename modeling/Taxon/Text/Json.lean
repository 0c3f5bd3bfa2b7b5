/-!
Strings of JSON texts, and the texts that can name something. A character below the blank has to be
escaped, and a surrogate escape is read only as the pair of a leading and a trailing one.
-/

set_option autoImplicit false

namespace Taxon.Json

def isBlank (c : Char) : Bool := c == ' ' || c == '\t' || c == '\n' || c == '\r'

def skipBlanks (text : List Char) : List Char := text.dropWhile isBlank

def hexDigit? (c : Char) : Option Nat :=
  if '0' ≤ c && c ≤ '9' then some (c.toNat - '0'.toNat)
  else if 'a' ≤ c && c ≤ 'f' then some (c.toNat - 'a'.toNat + 10)
  else if 'A' ≤ c && c ≤ 'F' then some (c.toNat - 'A'.toNat + 10)
  else none

/-- The code unit of four hexadecimal digits. -/
def codeUnit? (a b c d : Char) : Option Nat := do
  let a ← hexDigit? a
  let b ← hexDigit? b
  let c ← hexDigit? c
  let d ← hexDigit? d
  return ((a * 16 + b) * 16 + c) * 16 + d

def isLeading (unit : Nat) : Bool := 0xD800 ≤ unit && unit < 0xDC00

def isTrailing (unit : Nat) : Bool := 0xDC00 ≤ unit && unit < 0xE000

def joined (leading trailing : Nat) : Char :=
  Char.ofNat (0x10000 + (leading - 0xD800) * 0x400 + (trailing - 0xDC00))

def simpleEscape? : Char → Option Char
  | '"' => some '"'
  | '\\' => some '\\'
  | '/' => some '/'
  | 'b' => some '\x08'
  | 'f' => some '\x0c'
  | 'n' => some '\n'
  | 'r' => some '\r'
  | 't' => some '\t'
  | _ => none

/-- Reads what follows an opening quote, up to the closing one: the characters that are meant, and
the text behind. -/
def stringTail : List Char → Option (List Char × List Char)
  | [] => none
  | '"' :: rest => some ([], rest)
  | '\\' :: 'u' :: a :: b :: c :: d :: rest =>
      match codeUnit? a b c d with
      | none => none
      | some unit =>
          if isTrailing unit then none
          else if isLeading unit then
            match rest with
            | '\\' :: 'u' :: a :: b :: c :: d :: rest =>
                match codeUnit? a b c d with
                | none => none
                | some second =>
                    if isTrailing second then
                      (stringTail rest).map fun (cs, after) => (joined unit second :: cs, after)
                    else none
            | _ => none
          else (stringTail rest).map fun (cs, after) => (Char.ofNat unit :: cs, after)
  | '\\' :: letter :: rest =>
      match simpleEscape? letter with
      | none => none
      | some c => (stringTail rest).map fun (cs, after) => (c :: cs, after)
  | c :: rest =>
      if c.toNat < 0x20 then none
      else (stringTail rest).map fun (cs, after) => (c :: cs, after)

def behind? (mark text : List Char) : Option (List Char) := mark.isPrefixOf? (skipBlanks text)

def string? (text : List Char) : Option (List Char × List Char) :=
  (behind? ['"'] text).bind stringTail

/-- What a text holds that can name something: a string, or an object with one key and null under
it. -/
inductive Form where
  | string (content : String)
  | keyed (key : String)
deriving DecidableEq, Repr

abbrev Reader := String → Option Form

def form? : Reader := fun text =>
  match behind? ['\x7b'] text.toList with
  | some object => do
      let (key, rest) ← string? object
      let value ← behind? [':'] rest
      let rest ← behind? ['n', 'u', 'l', 'l'] value
      let rest ← behind? ['\x7d'] rest
      if rest.all isBlank then some (.keyed (String.ofList key)) else none
  | none => do
      let (content, rest) ← string? text.toList
      if rest.all isBlank then some (.string (String.ofList content)) else none

end Taxon.Json
