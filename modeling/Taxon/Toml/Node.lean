import Taxon.Binary64.Basic

/-!
Documents as trees of tables, and the rules by which headers and dotted keys extend them. A table
remembers how it came to be: a table that a header named is closed to a second header and to
dotted keys, one that was only passed on the way to a deeper header may still be named, one made
by a dotted key is open to further dotted keys alone, and an inline table is closed.
-/

set_option autoImplicit false

namespace Taxon.Toml

inductive Scalar where
  | text (content : String)
  | integer (value : Int)
  | float (value : Binary64)
  | boolean (value : Bool)
  | moment
  -- A number that has no value, which is a fault only where the number is needed.
  | unreadable
deriving DecidableEq, Inhabited

inductive Origin where
  | header
  | implied
  | dotted
  | inline
deriving DecidableEq, Repr, Inhabited

inductive Node where
  | scalar (value : Scalar)
  | array (items : List Node)
  -- The tables of one repeated header, in order.
  | tables (items : List (List (String × Node)))
  | table (origin : Origin) (entries : List (String × Node))
deriving Inhabited

abbrev Entries := List (String × Node)

abbrev Reader := String → Option Entries

namespace Entries

/-- Changes what stands under a key; a key that is missing is added at the end. -/
def alter (key : String) (change : Option Node → Option Node) : Entries → Option Entries
  | [] => (change none).map fun node => [(key, node)]
  | (name, node) :: rest =>
      if name = key then (change (some node)).map fun changed => (name, changed) :: rest
      else (alter key change rest).map fun altered => (name, node) :: altered

def alterLast (change : Entries → Option Entries) : List Entries → Option (List Entries)
  | [] => none
  | [last] => (change last).map fun changed => [changed]
  | first :: rest => (alterLast change rest).map fun altered => first :: altered

/-- A step of a header's path: into a table that is not inline, into the latest of repeated tables,
or into a table that the path itself implies. -/
def enter (change : Entries → Option Entries) : Option Node → Option Node
  | none => (change []).map (.table .implied)
  | some (.table .inline _) => none
  | some (.table origin entries) => (change entries).map (.table origin)
  | some (.tables items) => (alterLast change items).map .tables
  | some _ => none

/-- Performs a change in the table that a header's path names. -/
def within : List String → (Entries → Option Entries) → Entries → Option Entries
  | [], change => change
  | key :: path, change => alter key (enter (within path change))

/-- The node that a header leaves under the last key of its path. -/
def opened : Option Node → Option Node
  | none => some (.table .header [])
  | some (.table .implied entries) => some (.table .header entries)
  | some _ => none

def repeated : Option Node → Option Node
  | none => some (.tables [[]])
  | some (.tables items) => some (.tables (items ++ [[]]))
  | some _ => none

def atEnd (change : Option Node → Option Node) : List String → Entries → Option Entries
  | [] => fun _ => none
  | [key] => alter key change
  | key :: path => alter key (enter (atEnd change path))

def openTable (path : List String) (root : Entries) : Option Entries := atEnd opened path root

def addTable (path : List String) (root : Entries) : Option Entries := atEnd repeated path root

/-- Gives a dotted key a value. All keys but the last lead through tables of dotted keys, and the
last of them has to be such a table; no key gets a second value. -/
def assign (node : Node) : List String → Entries → Option Entries
  | [], _ => none
  | [key], entries =>
      alter key (fun
        | none => some node
        | some _ => none) entries
  | key :: path, entries =>
      alter key (fun
        | none => (assign node path []).map (.table .dotted)
        | some (.table .dotted inner) => (assign node path inner).map (.table .dotted)
        | some (.table .implied inner) =>
            if path.length = 1 then none else (assign node path inner).map (.table .implied)
        | some (.tables items) =>
            if path.length = 1 then none else (alterLast (assign node path) items).map .tables
        | some _ => none) entries

end Entries

end Taxon.Toml
