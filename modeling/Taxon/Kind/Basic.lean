/-!
The eleven kinds a value can have and the names they go by. A name is written off one table and read
by another, letter for letter.
-/

set_option autoImplicit false

namespace Taxon

/-- What a value counts as: a storage kind, a data frame, an object that has to be unwrapped first,
or no vector at all. -/
inductive Kind where
  | null
  | logical
  | integer
  | double
  | complex
  | character
  | raw
  | list
  | dataFrame
  | s3
  | scalar
deriving DecidableEq, Repr, Inhabited

namespace Kind

def all : List Kind :=
  [.null, .logical, .integer, .double, .complex, .character, .raw, .list, .dataFrame, .s3, .scalar]

def name : Kind → String
  | .null => "null"
  | .logical => "logical"
  | .integer => "integer"
  | .double => "double"
  | .complex => "complex"
  | .character => "character"
  | .raw => "raw"
  | .list => "list"
  | .dataFrame => "dataframe"
  | .s3 => "s3"
  | .scalar => "scalar"

/-- The kind of exactly this name; there is no folding of case and no trimming. -/
def ofName? : String → Option Kind
  | "null" => some .null
  | "logical" => some .logical
  | "integer" => some .integer
  | "double" => some .double
  | "complex" => some .complex
  | "character" => some .character
  | "raw" => some .raw
  | "list" => some .list
  | "dataframe" => some .dataFrame
  | "s3" => some .s3
  | "scalar" => some .scalar
  | _ => none

def index (kind : Kind) : Nat := all.idxOf kind

def primitives : List Kind :=
  [.logical, .integer, .double, .complex, .character, .raw, .list]

def isPrimitive (kind : Kind) : Bool := primitives.contains kind

def isAtomic (kind : Kind) : Bool := kind.isPrimitive && kind != .list

def isVectorShaped (kind : Kind) : Bool := kind.isPrimitive || kind == .dataFrame

theorem mem_all (kind : Kind) : kind ∈ all := by cases kind <;> decide

end Kind

end Taxon
