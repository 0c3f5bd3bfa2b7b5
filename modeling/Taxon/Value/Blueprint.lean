import Taxon.Value.Basic

/-!
Construction of values. A blueprint says which constructors to apply; building it draws a name for
every new storage and every new pointer, so separate constructions never coincide, not even when
both are empty.
-/

set_option autoImplicit false

namespace Taxon

/-- The first names that have never been given out. Storages and pointers are counted apart: how
many storages a run takes depends on what it shares, how many pointers does not. -/
structure Supply where
  storage : Nat
  identity : Nat
deriving DecidableEq, Inhabited

namespace Supply

def storageTaken (supply : Supply) : Supply := { supply with storage := supply.storage + 1 }

def identityTaken (supply : Supply) : Supply := { supply with identity := supply.identity + 1 }

def header (supply : Supply) : Header := ⟨supply.storage, none, true⟩

end Supply

inductive Blueprint where
  | null
  | atoms (elements : Atoms)
  | list (elements : List Blueprint)
  | function (name : String) (arity : Nat)
  | environment (name : String)
  | symbol (name : String)
  | foreign (tag : String) (payload : Payload)
  | classed (base : Blueprint) (cls : Class)
  | frozen (base : Blueprint)
deriving Inhabited

namespace Blueprint

def logical (x : Bool) : Blueprint := .atoms (.logical [some x])

def integer (x : Int32) : Blueprint := .atoms (.integer [some x])

def double (x : Binary64) : Blueprint := .atoms (.double [x])

def character (x : String) : Blueprint := .atoms (.character [some x])

mutual

/-- Builds a value with names from a supply, and says what the supply is afterwards. -/
def build : Blueprint → Supply → Except Value.Fault (Value × Supply)
  | .null, supply => .ok (.null, supply)
  | .atoms elements, supply => .ok (.atoms elements supply.header, supply.storageTaken)
  | .list elements, supply =>
      match buildAll elements supply with
      | .error fault => .error fault
      | .ok (values, supply) => .ok (.list values supply.header, supply.storageTaken)
  | .function name arity, supply => .ok (.function name arity none, supply)
  | .environment name, supply => .ok (.environment name none, supply)
  | .symbol name, supply => .ok (.symbol name, supply)
  | .foreign tag payload, supply =>
      .ok (.foreign ⟨tag, supply.identity, payload⟩, supply.identityTaken)
  | .classed base cls, supply =>
      match build base supply with
      | .error fault => .error fault
      | .ok (x, supply) => (x.setClass (some cls)).map fun y => (y, supply)
  | .frozen base, supply =>
      match build base supply with
      | .error fault => .error fault
      | .ok (x, supply) => .ok (x.freeze, supply)

/-- Builds from left to right; the first refusal is the refusal of the whole. -/
def buildAll : List Blueprint → Supply → Except Value.Fault (List Value × Supply)
  | [], supply => .ok ([], supply)
  | first :: rest, supply =>
      match build first supply with
      | .error fault => .error fault
      | .ok (x, supply) =>
          match buildAll rest supply with
          | .error fault => .error fault
          | .ok (xs, supply) => .ok (x :: xs, supply)

end

end Blueprint

end Taxon
