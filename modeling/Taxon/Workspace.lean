import Taxon.Pool
import Taxon.Value.Blueprint
import Taxon.Value.Edit

/-!
A workspace holds values under names, beside the constant pool. Cloning a value shares its
storage. A write happens in place when the vector is mutable and nothing else lives in its
storage, and it is then seen by every holder of the storage; otherwise the written vector moves to
a fresh storage first. An action that fails leaves the workspace as it was.
-/

set_option autoImplicit false

namespace Taxon

/-- Values under names, each name at most once. -/
abbrev Bindings := List (String × Value)

namespace Bindings

def lookup? (bindings : Bindings) (name : String) : Option Value :=
  (bindings.find? fun entry => entry.1 = name).map Prod.snd

def drop (bindings : Bindings) (name : String) : Bindings :=
  bindings.filter fun entry => entry.1 ≠ name

def bind (bindings : Bindings) (name : String) (x : Value) : Bindings :=
  (name, x) :: bindings.drop name

end Bindings

structure Workspace where
  pool : Pool
  bindings : Bindings
  supply : Supply
deriving Inhabited

inductive Ingredient where
  | element (element : ElementOf Empty)
  | construct (source : Blueprint)
  | clone (name : String)
deriving Inhabited

inductive Action where
  | create (name : String) (source : Blueprint)
  | clone (name source : String)
  | drop (name : String)
  | pooledEmpty (name : String) (kind : Kind)
  | pooledLogical (name : String) (truth : Bool)
  | takeElement (name source : String) (index : Nat)
  | edit (name : String) (edit : Edit Ingredient)
  | reset (name : String)
  | setVectorClass (name : String) (cls : Option Class)
  | setClass (name : String) (cls : Option Class)
  | freeze (name : String)
deriving Inhabited

def Action.classVector (name : String) (cls : Class) : Action := .setVectorClass name (some cls)

inductive AnswerOf (α : Type) where
  | value (x : α)
  | nothing
  | dropped (existed : Bool)
deriving Inhabited

abbrev Answer := AnswerOf Value

namespace Workspace

inductive Fault where
  | unbound (name : String)
  | notVector (name : String)
  | elementType (name : String)
  | refused (fault : Value.Fault)
deriving DecidableEq, Repr

def empty : Workspace := ⟨Pool.shared, [], ⟨Pool.span, 0⟩⟩

def lookup? (w : Workspace) (name : String) : Option Value := w.bindings.lookup? name

def bind (w : Workspace) (name : String) (x : Value) : Workspace :=
  { w with bindings := w.bindings.bind name x }

/-- Every value of the workspace: the bound ones and the pooled ones. -/
def values (w : Workspace) : List Value := w.bindings.map Prod.snd ++ w.pool.entries

/-- How many vectors of the workspace live in a storage. -/
def holders (w : Workspace) (storage : Nat) : Nat :=
  (w.values.flatMap Value.storages).count storage

/-- A write in place, seen by every holder of the storage. -/
def overwrite (w : Workspace) (storage : Nat) (contents : Contents) : Workspace :=
  { w with
    pool := w.pool.mapEntries (Value.overwrite storage contents)
    bindings := w.bindings.map fun entry => (entry.1, entry.2.overwrite storage contents) }

/-- Gives the vector under a name new contents, and says what stands there now. `incoming` counts
the holders of its storage inside the new element: they keep the storage alive as much as a bound
value does. -/
def write (w : Workspace) (name : String) (header : Header) (contents : Contents)
    (incoming : Nat) : Value × Workspace :=
  if header.isMutable && w.holders header.storage + incoming == 1 then
    (contents.under header, w.overwrite header.storage contents)
  else
    let moved := contents.under { header with storage := w.supply.storage, isMutable := true }
    (moved, { w.bind name moved with supply := w.supply.storageTaken })

/-- Builds or fetches a new element, and says what the supply is afterwards. -/
def prepare (w : Workspace) : Ingredient → Except Fault (Element × Supply)
  | .element element => .ok (element.map Empty.elim, w.supply)
  | .construct source =>
      match source.build w.supply with
      | .error fault => .error (.refused fault)
      | .ok (x, supply) => .ok (.value x, supply)
  | .clone name =>
      match w.lookup? name with
      | none => .error (.unbound name)
      | some x => .ok (.value x, w.supply)

def prepareEdit (w : Workspace) : Edit Ingredient → Except Fault (Edit Element × Supply)
  | .set index ingredient =>
      (w.prepare ingredient).map fun (element, supply) => (.set index element, supply)
  | .push ingredient => (w.prepare ingredient).map fun (element, supply) => (.push element, supply)
  | .insert index ingredient =>
      (w.prepare ingredient).map fun (element, supply) => (.insert index element, supply)
  | .pop => .ok (.pop, w.supply)
  | .clear => .ok (.clear, w.supply)
  | .reverse => .ok (.reverse, w.supply)
  | .touch => .ok (.touch, w.supply)

def store (w : Workspace) (name : String) (x : Value) : Except Fault Answer × Workspace :=
  (.ok (.value x), w.bind name x)

def editVector (w : Workspace) (name : String) (contents : Contents) (header : Header)
    (edit : Edit Ingredient) : Except Fault Answer × Workspace :=
  match w.prepareEdit edit with
  | .error fault => (.error fault, w)
  | .ok (edit, supply) =>
      match contents.edit edit with
      | .error .elementType => (.error (.elementType name), w)
      | .error (.refused fault) => (.error (.refused fault), w)
      | .ok contents =>
          let incoming := (edit.element?.map (ElementOf.holders header.storage)).getD 0
          let (x, written) := { w with supply := supply }.write name header contents incoming
          (.ok (.value x), written)

/-- Performs an action: what it answers, and the workspace afterwards. -/
def perform (w : Workspace) : Action → Except Fault Answer × Workspace
  | .create name source =>
      match source.build w.supply with
      | .error fault => (.error (.refused fault), w)
      | .ok (x, supply) => { w with supply := supply }.store name x
  | .clone name source =>
      match w.lookup? source with
      | none => (.error (.unbound source), w)
      | some x => w.store name x
  | .drop name =>
      (.ok (.dropped (w.lookup? name).isSome), { w with bindings := w.bindings.drop name })
  | .pooledEmpty name kind =>
      match w.pool.empty? kind with
      | none => (.ok .nothing, w)
      | some x => w.store name x
  | .pooledLogical name truth => w.store name (w.pool.logical truth)
  | .takeElement name source index =>
      match w.lookup? source with
      | none => (.error (.unbound source), w)
      | some x =>
          match x.asList?.bind fun xs => xs[index]? with
          | none => (.ok .nothing, w)
          | some y => w.store name y
  | .edit name edit =>
      match w.lookup? name with
      | none => (.error (.unbound name), w)
      | some x =>
          match x.vector? with
          | none => (.error (.notVector name), w)
          | some (contents, header) => w.editVector name contents header edit
  | .reset name =>
      match w.lookup? name with
      | none => (.error (.unbound name), w)
      | some x =>
          match x.vector? with
          | none => (.error (.notVector name), w)
          | some (contents, _) =>
              { w with supply := w.supply.storageTaken }.store name
                (contents.emptied.under w.supply.header)
  | .setVectorClass name cls =>
      match w.lookup? name with
      | none => (.error (.unbound name), w)
      | some x =>
          match x.vector? with
          | none => (.error (.notVector name), w)
          | some (contents, header) =>
              w.store name (contents.under (header.setClass cls))
  | .setClass name cls =>
      match w.lookup? name with
      | none => (.error (.unbound name), w)
      | some x =>
          match x.setClass cls with
          | .error fault => (.error (.refused fault), w)
          | .ok y => w.store name y
  | .freeze name =>
      match w.lookup? name with
      | none => (.error (.unbound name), w)
      | some x => w.store name x.freeze

def run (w : Workspace) (actions : List Action) : Workspace :=
  actions.foldl (fun w action => (w.perform action).2) w

end Workspace

end Taxon
