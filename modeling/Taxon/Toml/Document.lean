import Taxon.Toml.Quoted
import Taxon.Toml.Token

/-!
Reading documents. A document is a list of lines: blank ones, headers, and keys with values.
Reading gives the table of the top level, or nothing when the text is not well formed; a key that
is defined twice makes it ill formed. Values nest at most `nestingLimit` deep. Between brackets and
braces lines may break, except inside a key. The readers consume text at every step, and the fuel
they carry is more than there is text.
-/

set_option autoImplicit false

namespace Taxon.Toml

def nestingLimit : Nat := 80

def isKeyChar (c : Char) : Bool :=
  Digits.isDecimal c || ('a' ≤ c && c ≤ 'z') || ('A' ≤ c && c ≤ 'Z') || c == '_' || c == '-'

def skipBlanks (text : List Char) : List Char := text.dropWhile fun c => c == ' ' || c == '\t'

mutual

def skipLines : List Char → Option (List Char)
  | [] => some []
  | ' ' :: rest => skipLines rest
  | '\t' :: rest => skipLines rest
  | '\n' :: rest => skipLines rest
  | '\r' :: '\n' :: rest => skipLines rest
  | '#' :: rest => skipComment rest
  | text => some text

def skipComment : List Char → Option (List Char)
  | [] => some []
  | '\n' :: rest => skipLines rest
  | '\r' :: '\n' :: rest => skipLines rest
  | c :: rest => if isPlain c then skipComment rest else none

end

/-- Takes the end of a line, a comment before it included. -/
def lineEnd (text : List Char) : Option (List Char) :=
  let afterComment :=
    match skipBlanks text with
    | '#' :: comment => comment.dropWhile isPlain
    | rest => rest
  match afterComment with
  | [] => some []
  | '\n' :: rest => some rest
  | '\r' :: '\n' :: rest => some rest
  | _ => none

def keyPart (text : List Char) : Option (String × List Char) :=
  match text with
  | '"' :: rest => (basicTail rest).map fun (cs, after) => (String.ofList cs, after)
  | '\'' :: rest => (literalTail rest).map fun (cs, after) => (String.ofList cs, after)
  | _ =>
      match text.takeWhile isKeyChar with
      | [] => none
      | bare => some (String.ofList bare, text.dropWhile isKeyChar)

def keyPath : Nat → List Char → Option (List String × List Char)
  | 0, _ => none
  | fuel + 1, text =>
      match keyPart text with
      | none => none
      | some (part, after) =>
          match skipBlanks after with
          | '.' :: more =>
              (keyPath fuel (skipBlanks more)).map fun (parts, rest) => (part :: parts, rest)
          | _ => some ([part], after)

/-- Takes the equals sign behind a key off, with what `skip` passes over on both sides of it. -/
def afterEquals (skip : List Char → Option (List Char)) (text : List Char) :
    Option (List Char) :=
  match skip text with
  | some ('=' :: rest) => skip rest
  | _ => none

def textNode (read : List Char × List Char) : Node × List Char :=
  (.scalar (.text (String.ofList read.1)), read.2)

mutual

/-- A value, with `depth` levels of nesting left. -/
def value : (fuel depth : Nat) → List Char → Option (Node × List Char)
  | 0, _, _ => none
  | fuel + 1, depth, text =>
      match text with
      | '"' :: '"' :: '"' :: rest => (basicLines false (withoutFirstBreak rest)).map textNode
      | '"' :: rest => (basicTail rest).map textNode
      | '\'' :: '\'' :: '\'' :: rest => (literalLines (withoutFirstBreak rest)).map textNode
      | '\'' :: rest => (literalTail rest).map textNode
      | '[' :: rest =>
          match depth with
          | 0 => none
          | depth + 1 => (items fuel depth rest).map fun (nodes, after) => (.array nodes, after)
      | '\x7b' :: rest =>
          match depth with
          | 0 => none
          | depth + 1 =>
              (pairs fuel depth [] rest).map fun (entries, after) => (.table .inline entries, after)
      | text =>
          let (token, after) := splitToken text
          (scalar? token).map fun scalar => (.scalar scalar, after)

/-- The rest of an array, from where a value or the closing bracket may stand. -/
def items : (fuel depth : Nat) → List Char → Option (List Node × List Char)
  | 0, _, _ => none
  | fuel + 1, depth, text =>
      match skipLines text with
      | some (']' :: rest) => some ([], rest)
      | some start =>
          match value fuel depth start with
          | none => none
          | some (node, after) =>
              match skipLines after with
              | some (',' :: more) =>
                  (items fuel depth more).map fun (nodes, rest) => (node :: nodes, rest)
              | some (']' :: rest) => some ([node], rest)
              | _ => none
      | none => none

def pairs : (fuel depth : Nat) → Entries → List Char → Option (Entries × List Char)
  | 0, _, _, _ => none
  | fuel + 1, depth, entries, text =>
      match skipLines text with
      | some ('\x7d' :: rest) => some (entries, rest)
      | some start =>
          match keyPath fuel start with
          | none => none
          | some (key, afterKey) =>
              match afterEquals skipLines afterKey with
              | none => none
              | some start =>
                  match value fuel depth start with
                  | none => none
                  | some (node, after) =>
                      match Entries.assign node key entries with
                      | none => none
                      | some entries =>
                          match skipLines after with
                          | some (',' :: more) => pairs fuel depth entries more
                          | some ('\x7d' :: rest) => some (entries, rest)
                          | _ => none
      | none => none

end

/-- A document as far as it has been read: the top level, and the header that keys belong to. -/
structure Reading where
  root : Entries
  header : List String

namespace Reading

def start : Reading := ⟨[], []⟩

def openTable (r : Reading) (path : List String) : Option Reading :=
  (r.root.openTable path).map fun root => ⟨root, path⟩

def addTable (r : Reading) (path : List String) : Option Reading :=
  (r.root.addTable path).map fun root => ⟨root, path⟩

def define (r : Reading) (key : List String) (node : Node) : Option Reading :=
  (Entries.within r.header (Entries.assign node key) r.root).map fun root => ⟨root, r.header⟩

/-- The rest of a line that starts with something else than a blank. -/
def line (fuel : Nat) (r : Reading) (text : List Char) : Option (Reading × List Char) :=
  match text with
  | '[' :: '[' :: rest =>
      match keyPath fuel (skipBlanks rest) with
      | none => none
      | some (path, after) =>
          match skipBlanks after with
          | ']' :: ']' :: rest => (r.addTable path).map fun r => (r, rest)
          | _ => none
  | '[' :: rest =>
      match keyPath fuel (skipBlanks rest) with
      | none => none
      | some (path, after) =>
          match skipBlanks after with
          | ']' :: rest => (r.openTable path).map fun r => (r, rest)
          | _ => none
  | text =>
      match keyPath fuel text with
      | none => none
      | some (key, afterKey) =>
          match afterEquals (fun text => some (skipBlanks text)) afterKey with
          | none => none
          | some start =>
              match value fuel nestingLimit start with
              | none => none
              | some (node, rest) => (r.define key node).map fun r => (r, rest)

def lines (r : Reading) : Nat → List Char → Option Reading
  | 0, _ => none
  | fuel + 1, text =>
      match skipLines text with
      | none => none
      | some [] => some r
      | some start =>
          match r.line fuel start with
          | none => none
          | some (r, after) =>
              match lineEnd after with
              | none => none
              | some rest => lines r fuel rest

end Reading

/-- A byte-order mark may stand in front of a document. -/
def withoutMark : List Char → List Char
  | '\uFEFF' :: rest => rest
  | text => text

def document? : Reader := fun text =>
  let chars := withoutMark text.toList
  (Reading.start.lines (4 * chars.length + 4) chars).map Reading.root

end Taxon.Toml
