import Taxon.Kind.Basic
import Taxon.Value.Basic

/-!
The pool of shared constants: an empty vector for each primitive kind, the two logical scalars and
the missing complex number. Every pooled vector refuses writes in place, so whoever writes to a
copy of one writes into storage of their own.
-/

set_option autoImplicit false

namespace Taxon

structure Pool where
  emptyLogical : Value
  emptyInteger : Value
  emptyDouble : Value
  emptyComplex : Value
  emptyCharacter : Value
  emptyRaw : Value
  emptyList : Value
  trueScalar : Value
  falseScalar : Value
  missingComplex : Complex
deriving Inhabited

namespace Pool

/-- A pool whose vectors take the nine storage names from `first` on. -/
def build (first : Nat) : Pool :=
  let header (place : Nat) : Header := ⟨first + place, none, true⟩
  { emptyLogical := (Value.atoms (.logical []) (header 0)).freeze
    emptyInteger := (Value.atoms (.integer []) (header 1)).freeze
    emptyDouble := (Value.atoms (.double []) (header 2)).freeze
    emptyComplex := (Value.atoms (.complex []) (header 3)).freeze
    emptyCharacter := (Value.atoms (.character []) (header 4)).freeze
    emptyRaw := (Value.atoms (.raw []) (header 5)).freeze
    emptyList := (Value.list [] (header 6)).freeze
    trueScalar := (Value.atoms (.logical [some true]) (header 7)).freeze
    falseScalar := (Value.atoms (.logical [some false]) (header 8)).freeze
    missingComplex := .missing }

def span : Nat := 9

/-- The shared pool takes the first names of all. -/
def shared : Pool := build 0

def empty? (pool : Pool) : Kind → Option Value
  | .logical => some pool.emptyLogical
  | .integer => some pool.emptyInteger
  | .double => some pool.emptyDouble
  | .complex => some pool.emptyComplex
  | .character => some pool.emptyCharacter
  | .raw => some pool.emptyRaw
  | .list => some pool.emptyList
  | .null | .dataFrame | .s3 | .scalar => none

def logical (pool : Pool) (truth : Bool) : Value :=
  if truth then pool.trueScalar else pool.falseScalar

def entries (pool : Pool) : List Value :=
  [pool.emptyLogical, pool.emptyInteger, pool.emptyDouble, pool.emptyComplex, pool.emptyCharacter,
    pool.emptyRaw, pool.emptyList, pool.trueScalar, pool.falseScalar]

def mapEntries (f : Value → Value) (pool : Pool) : Pool :=
  { emptyLogical := f pool.emptyLogical
    emptyInteger := f pool.emptyInteger
    emptyDouble := f pool.emptyDouble
    emptyComplex := f pool.emptyComplex
    emptyCharacter := f pool.emptyCharacter
    emptyRaw := f pool.emptyRaw
    emptyList := f pool.emptyList
    trueScalar := f pool.trueScalar
    falseScalar := f pool.falseScalar
    missingComplex := pool.missingComplex }

end Pool

end Taxon
