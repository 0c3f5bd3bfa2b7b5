import Taxon.Value.Storage

/-!
Edits of a vector's elements. An edit is described once for every element type; applying it to the
elements of a vector first reads the edit as one of that vector's type.
-/

set_option autoImplicit false

namespace Taxon

inductive Edit (α : Type) where
  | set (index : Nat) (element : α)
  | push (element : α)
  | pop
  | clear
  | reverse
  | insert (index : Nat) (element : α)
  | touch

namespace Edit

variable {α β : Type}

/-- The edited elements. A place that is not there is refused, for an insertion the place behind
the last element is there. A vector has no answer to an insertion beyond that place, it aborts once
it has write access; here the insertion is refused like any place out of bounds. -/
def apply : Edit α → List α → Except Value.Fault (List α)
  | .set index element, xs =>
      if index < xs.length then .ok (xs.set index element) else .error (.bounds index xs.length)
  | .push element, xs => .ok (xs ++ [element])
  | .pop, xs => .ok xs.dropLast
  | .clear, _ => .ok []
  | .reverse, xs => .ok xs.reverse
  | .insert index element, xs =>
      if index ≤ xs.length then .ok (xs.insertIdx index element)
      else .error (.bounds index xs.length)
  | .touch, xs => .ok xs

def element? : Edit α → Option α
  | .set _ element => some element
  | .push element => some element
  | .insert _ element => some element
  | .pop | .clear | .reverse | .touch => none

/-- The same edit with another element, if the element has one. -/
def mapElement? (f : α → Option β) : Edit α → Option (Edit β)
  | .set index element => (f element).map (.set index)
  | .push element => (f element).map .push
  | .pop => some .pop
  | .clear => some .clear
  | .reverse => some .reverse
  | .insert index element => (f element).map (.insert index)
  | .touch => some .touch

end Edit

/-- An element, tagged with the type of vector it may stand in; a list has elements of type `α`. -/
inductive ElementOf (α : Type) where
  | logical (element : Option Bool)
  | integer (element : Option Int32)
  | double (element : Binary64)
  | complex (element : Complex)
  | character (element : Option String)
  | raw (element : UInt8)
  | value (element : α)
deriving Inhabited

abbrev Element := ElementOf Value

namespace ElementOf

variable {α β : Type}

def logical? : ElementOf α → Option (Option Bool)
  | .logical element => some element
  | _ => none

def integer? : ElementOf α → Option (Option Int32)
  | .integer element => some element
  | _ => none

def double? : ElementOf α → Option Binary64
  | .double element => some element
  | _ => none

def complex? : ElementOf α → Option Complex
  | .complex element => some element
  | _ => none

def character? : ElementOf α → Option (Option String)
  | .character element => some element
  | _ => none

def raw? : ElementOf α → Option UInt8
  | .raw element => some element
  | _ => none

def value? : ElementOf α → Option α
  | .value element => some element
  | _ => none

def map (f : α → β) : ElementOf α → ElementOf β
  | .logical element => .logical element
  | .integer element => .integer element
  | .double element => .double element
  | .complex element => .complex element
  | .character element => .character element
  | .raw element => .raw element
  | .value element => .value (f element)

/-- How many vectors inside an element live in a storage. -/
def holders (storage : Nat) : Element → Nat
  | .value x => x.holders storage
  | _ => 0

end ElementOf

inductive EditFault where
  | refused (fault : Value.Fault)
  | elementType
deriving DecidableEq, Repr

/-- Applies an edit whose element has to be of the elements' type. -/
def Edit.applyAs {α β : Type} (read : ElementOf α → Option β) (edit : Edit (ElementOf α))
    (xs : List β) : Except EditFault (List β) :=
  match edit.mapElement? read with
  | none => .error .elementType
  | some typed => (typed.apply xs).mapError .refused

def ContentsOf.edit {α : Type} (edit : Edit (ElementOf α)) :
    ContentsOf α → Except EditFault (ContentsOf α)
  | .atoms (.logical xs) => (edit.applyAs ElementOf.logical? xs).map fun ys => .atoms (.logical ys)
  | .atoms (.integer xs) => (edit.applyAs ElementOf.integer? xs).map fun ys => .atoms (.integer ys)
  | .atoms (.double xs) => (edit.applyAs ElementOf.double? xs).map fun ys => .atoms (.double ys)
  | .atoms (.complex xs) => (edit.applyAs ElementOf.complex? xs).map fun ys => .atoms (.complex ys)
  | .atoms (.character xs) =>
      (edit.applyAs ElementOf.character? xs).map fun ys => .atoms (.character ys)
  | .atoms (.raw xs) => (edit.applyAs ElementOf.raw? xs).map fun ys => .atoms (.raw ys)
  | .values xs => (edit.applyAs ElementOf.value? xs).map fun ys => .values ys

namespace Value

def element? (x : Value) (index : Nat) : Option Element :=
  match x with
  | .atoms (.logical xs) _ => xs[index]?.map .logical
  | .atoms (.integer xs) _ => xs[index]?.map .integer
  | .atoms (.double xs) _ => xs[index]?.map .double
  | .atoms (.complex xs) _ => xs[index]?.map .complex
  | .atoms (.character xs) _ => xs[index]?.map .character
  | .atoms (.raw xs) _ => xs[index]?.map .raw
  | .list xs _ => xs[index]?.map .value
  | _ => none

end Value

end Taxon
