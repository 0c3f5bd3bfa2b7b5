import Taxon.Text.Json

/-!
Quoted strings of documents, read from behind the opening quotes: basic strings with escapes,
literal strings without, and both over several lines.
-/

set_option autoImplicit false

namespace Taxon.Toml

/-- The characters of comments and literal strings: no control except the tab. -/
def isPlain (c : Char) : Bool := c == '\t' || (0x20 ≤ c.toNat && c.toNat != 0x7F)

def ofCodePoint? (code : Nat) : Option Char :=
  if code.isValidChar then some (Char.ofNat code) else none

def hexadecimal? (digits : List Char) : Option Nat :=
  digits.foldlM (fun total c => (Json.hexDigit? c).map fun digit => total * 16 + digit) 0

def escape? : Char → Option Char
  | '"' => some '"'
  | '\\' => some '\\'
  | 'b' => some '\x08'
  | 'e' => some '\x1b'
  | 'f' => some '\x0c'
  | 'n' => some '\n'
  | 'r' => some '\r'
  | 't' => some '\t'
  | _ => none

def before (c : Char) : Option (List Char × List Char) → Option (List Char × List Char) :=
  Option.map fun (cs, rest) => (c :: cs, rest)

def coded (digits : List Char) (read : Option (List Char × List Char)) :
    Option (List Char × List Char) :=
  match (hexadecimal? digits).bind ofCodePoint? with
  | some c => before c read
  | none => none

def basicTail : List Char → Option (List Char × List Char)
  | [] => none
  | '"' :: rest => some ([], rest)
  | '\\' :: 'x' :: a :: b :: rest => coded [a, b] (basicTail rest)
  | '\\' :: 'u' :: a :: b :: c :: d :: rest => coded [a, b, c, d] (basicTail rest)
  | '\\' :: 'U' :: a :: b :: c :: d :: e :: f :: g :: h :: rest =>
      coded [a, b, c, d, e, f, g, h] (basicTail rest)
  | '\\' :: letter :: rest =>
      match escape? letter with
      | some c => before c (basicTail rest)
      | none => none
  | c :: rest => if isPlain c then before c (basicTail rest) else none

def literalTail : List Char → Option (List Char × List Char)
  | [] => none
  | '\'' :: rest => some ([], rest)
  | c :: rest => if isPlain c then before c (literalTail rest) else none

def blankToLineEnd (text : List Char) : Bool :=
  match text.dropWhile fun c => c == ' ' || c == '\t' with
  | '\n' :: _ => true
  | '\r' :: '\n' :: _ => true
  | _ => false

/-- A basic string over several lines. A backslash at the end of a line takes out all white space
up to the next character; while that lasts, `trimming` holds. Up to two quotes may stand before the
closing three. -/
def basicLines (trimming : Bool) : List Char → Option (List Char × List Char)
  | [] => none
  | '"' :: '"' :: '"' :: '"' :: '"' :: rest => some (['"', '"'], rest)
  | '"' :: '"' :: '"' :: '"' :: rest => some (['"'], rest)
  | '"' :: '"' :: '"' :: rest => some ([], rest)
  | '\\' :: 'x' :: a :: b :: rest => coded [a, b] (basicLines false rest)
  | '\\' :: 'u' :: a :: b :: c :: d :: rest => coded [a, b, c, d] (basicLines false rest)
  | '\\' :: 'U' :: a :: b :: c :: d :: e :: f :: g :: h :: rest =>
      coded [a, b, c, d, e, f, g, h] (basicLines false rest)
  | '\\' :: letter :: rest =>
      match escape? letter with
      | some c => before c (basicLines false rest)
      | none => if blankToLineEnd (letter :: rest) then basicLines true (letter :: rest) else none
  | '\r' :: '\n' :: rest =>
      if trimming then basicLines true rest
      else before '\r' (before '\n' (basicLines false rest))
  | c :: rest =>
      if trimming && (c == ' ' || c == '\t' || c == '\n') then basicLines true rest
      else if isPlain c || c == '\n' then before c (basicLines false rest)
      else none

def literalLines : List Char → Option (List Char × List Char)
  | [] => none
  | '\'' :: '\'' :: '\'' :: '\'' :: '\'' :: rest => some (['\'', '\''], rest)
  | '\'' :: '\'' :: '\'' :: '\'' :: rest => some (['\''], rest)
  | '\'' :: '\'' :: '\'' :: rest => some ([], rest)
  | '\r' :: '\n' :: rest => before '\r' (before '\n' (literalLines rest))
  | c :: rest => if isPlain c || c == '\n' then before c (literalLines rest) else none

/-- A line break right behind the opening quotes is no part of the string. -/
def withoutFirstBreak : List Char → List Char
  | '\n' :: rest => rest
  | '\r' :: '\n' :: rest => rest
  | text => text

end Taxon.Toml
