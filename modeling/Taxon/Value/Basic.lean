import Taxon.Class
import Taxon.Complex

/-!
Values of a dynamically typed host. A vector is its elements under a header: the name of the
storage that holds the elements, the class attribute, and the flag that allows writes in place.
Copying a value copies its headers, so two vectors share storage exactly when their headers name
the same one.
-/

set_option autoImplicit false

namespace Taxon

structure Header where
  -- Names the storage; a copy of the vector keeps the name, a private copy gets a new one.
  storage : Nat
  cls : Option Class
  -- Cleared for good on a shared constant; a write then copies first and sets it again.
  isMutable : Bool
deriving DecidableEq, Inhabited

def Header.setClass (header : Header) (requested : Option Class) : Header :=
  { header with cls := Class.carried requested }

/-- The elements of a vector of one atomic type; `none` is the missing element. -/
inductive Atoms where
  | logical (elements : List (Option Bool))
  | integer (elements : List (Option Int32))
  | double (elements : List Binary64)
  | complex (elements : List Complex)
  | character (elements : List (Option String))
  | raw (elements : List UInt8)
deriving DecidableEq, Inhabited

inductive Payload where
  | nothing
  | text (content : String)
  | number (content : Nat)
deriving DecidableEq, Inhabited

/-- A pointer owned by foreign code; `identity` is what it is compared by. -/
structure ForeignPointer where
  tag : String
  identity : Nat
  payload : Payload
deriving DecidableEq, Inhabited

inductive Value where
  | null
  | atoms (elements : Atoms) (header : Header)
  | list (elements : List Value) (header : Header)
  | function (name : String) (arity : Nat) (cls : Option Class)
  | environment (name : String) (cls : Option Class)
  | symbol (name : String)
  | foreign (pointer : ForeignPointer)
deriving Inhabited

/-- How a value is stored; everything that is neither a vector nor null is `other`. -/
inductive Representation where
  | null
  | logical
  | integer
  | double
  | complex
  | character
  | raw
  | list
  | other
deriving DecidableEq, Repr

namespace Atoms

def length : Atoms → Nat
  | .logical xs => xs.length
  | .integer xs => xs.length
  | .double xs => xs.length
  | .complex xs => xs.length
  | .character xs => xs.length
  | .raw xs => xs.length

def typeName : Atoms → String
  | .logical _ => "logical"
  | .integer _ => "integer"
  | .double _ => "double"
  | .complex _ => "complex"
  | .character _ => "character"
  | .raw _ => "raw"

def representation : Atoms → Representation
  | .logical _ => .logical
  | .integer _ => .integer
  | .double _ => .double
  | .complex _ => .complex
  | .character _ => .character
  | .raw _ => .raw

def emptied : Atoms → Atoms
  | .logical _ => .logical []
  | .integer _ => .integer []
  | .double _ => .double []
  | .complex _ => .complex []
  | .character _ => .character []
  | .raw _ => .raw []

end Atoms

namespace Value

inductive Fault where
  | bounds (index length : Nat)
  | typeMismatch (message : String)
deriving DecidableEq, Repr

def Fault.message : Fault → String
  | .bounds index length =>
      s!"BoundsError: attempt to access index {index} of vector with length {length}"
  | .typeMismatch message => "TypeError: " ++ message

def representation : Value → Representation
  | .null => .null
  | .atoms elements _ => elements.representation
  | .list _ _ => .list
  | _ => .other

def typeName : Value → String
  | .null => "NULL"
  | .atoms elements _ => elements.typeName
  | .list _ _ => "list"
  | .function _ _ _ => "closure"
  | .environment _ _ => "environment"
  | .symbol _ => "symbol"
  | .foreign _ => "externalptr"

def header? : Value → Option Header
  | .atoms _ header => some header
  | .list _ header => some header
  | _ => none

/-- The class attribute. Functions and environments carry one besides the vectors. -/
def cls? : Value → Option Class
  | .atoms _ header => header.cls
  | .list _ header => header.cls
  | .function _ _ cls => cls
  | .environment _ cls => cls
  | _ => none

def isObject (x : Value) : Bool := x.cls?.isSome

def isNull : Value → Bool
  | .null => true
  | _ => false

/-- Null has no elements; whatever is no vector counts as one. -/
def length : Value → Nat
  | .null => 0
  | .atoms elements _ => elements.length
  | .list elements _ => elements.length
  | _ => 1

def isEmpty (x : Value) : Bool := x.length == 0

def isMutable (x : Value) : Bool := x.header?.any Header.isMutable

/-- Refuses writes in place from now on; what is no vector cannot be written anyway. -/
def freeze : Value → Value
  | .atoms elements header => .atoms elements { header with isMutable := false }
  | .list elements header => .list elements { header with isMutable := false }
  | x => x

/-- Sets or clears the class attribute. Null, symbols and foreign pointers have no place for one.
-/
def setClass (x : Value) (requested : Option Class) : Except Fault Value :=
  let cls := Class.carried requested
  match x with
  | .atoms elements header => .ok (.atoms elements (header.setClass cls))
  | .list elements header => .ok (.list elements (header.setClass cls))
  | .function name arity _ => .ok (.function name arity cls)
  | .environment name _ => .ok (.environment name cls)
  | .null | .symbol _ | .foreign _ =>
      .error (.typeMismatch ("cannot set a class attribute on " ++ x.typeName))

def asLogical? : Value → Option (List (Option Bool))
  | .atoms (.logical xs) _ => some xs
  | _ => none

def asInteger? : Value → Option (List (Option Int32))
  | .atoms (.integer xs) _ => some xs
  | _ => none

def asDouble? : Value → Option (List Binary64)
  | .atoms (.double xs) _ => some xs
  | _ => none

def asComplex? : Value → Option (List Complex)
  | .atoms (.complex xs) _ => some xs
  | _ => none

def asCharacter? : Value → Option (List (Option String))
  | .atoms (.character xs) _ => some xs
  | _ => none

def asList? : Value → Option (List Value)
  | .list xs _ => some xs
  | _ => none

def firstLogical? (x : Value) : Option Bool := (x.asLogical?.bind List.head?).join

def isDataFrame (x : Value) : Bool := x.cls?.any fun c => c.inherits Class.dataFrame

def isRecord (x : Value) : Bool := x.cls?.any fun c => Class.records.any c.inherits

/-- Vectors show type, length and class; nothing shows elements. -/
def text (x : Value) : String :=
  match x with
  | .null => "NULL"
  | .function name arity _ => s!"<function {name}/{arity}>"
  | .environment name _ => s!"<environment {name}>"
  | .symbol name => s!"`{name}`"
  | .foreign pointer => s!"<pointer {pointer.tag}>"
  | .atoms _ header | .list _ header =>
      let shape := s!"{x.typeName}[{x.length}]"
      match header.cls with
      | none => s!"<{shape}>"
      | some cls => s!"<{shape} {cls.text}>"

def sharesStorage : Value → Value → Bool
  | .atoms xs g, .atoms ys h => xs.representation == ys.representation && g.storage == h.storage
  | .list _ g, .list _ h => g.storage == h.storage
  | _, _ => false

end Value

end Taxon
