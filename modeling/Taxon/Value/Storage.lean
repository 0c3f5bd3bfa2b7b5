import Taxon.Value.Basic

/-!
Storage under values. `storages` lists the storage of every vector inside a value, and `overwrite`
is what a write in place does: every vector that lives in the storage, at any depth, shows the new
elements.
-/

set_option autoImplicit false

namespace Taxon

/-- The elements of a vector of any type; a list has elements of type `α`. -/
inductive ContentsOf (α : Type) where
  | atoms (elements : Atoms)
  | values (elements : List α)
deriving Inhabited

abbrev Contents := ContentsOf Value

namespace ContentsOf

def under (header : Header) : Contents → Value
  | .atoms elements => .atoms elements header
  | .values elements => .list elements header

def emptied {α : Type} : ContentsOf α → ContentsOf α
  | .atoms elements => .atoms elements.emptied
  | .values _ => .values []

def map {α β : Type} (f : α → β) : ContentsOf α → ContentsOf β
  | .atoms elements => .atoms elements
  | .values elements => .values (elements.map f)

end ContentsOf

namespace Value

def vector? : Value → Option (Contents × Header)
  | .atoms elements header => some (.atoms elements, header)
  | .list elements header => some (.values elements, header)
  | _ => none

mutual

/-- The storages of a value's vectors, outermost first; one that occurs twice is listed twice. -/
def storages : Value → List Nat
  | .atoms _ header => [header.storage]
  | .list elements header => header.storage :: storagesOfAll elements
  | _ => []

def storagesOfAll : List Value → List Nat
  | [] => []
  | x :: xs => storages x ++ storagesOfAll xs

end

def holders (storage : Nat) (x : Value) : Nat := x.storages.count storage

mutual

/-- Puts new contents into a storage, as seen from one value. -/
def overwrite (storage : Nat) (contents : Contents) : Value → Value
  | .atoms elements header =>
      if header.storage = storage then contents.under header else .atoms elements header
  | .list elements header =>
      if header.storage = storage then contents.under header
      else .list (overwriteAll storage contents elements) header
  | .null => .null
  | .function name arity cls => .function name arity cls
  | .environment name cls => .environment name cls
  | .symbol name => .symbol name
  | .foreign pointer => .foreign pointer

def overwriteAll (storage : Nat) (contents : Contents) : List Value → List Value
  | [] => []
  | x :: xs => overwrite storage contents x :: overwriteAll storage contents xs

end

end Value

end Taxon
