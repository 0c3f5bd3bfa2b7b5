import Taxon.Kind.Basic
import Taxon.Value.Basic

/-!
Resolution: the kind of a value, read off its representation and its class attribute alone. A
classed atomic vector falls back to its storage kind when dispatch is off; a classed list does
not, it is a scalar then unless it is a data frame.
-/

set_option autoImplicit false

namespace Taxon

/-- Whether a class attribute is honoured. -/
inductive Mode where
  | dispatch
  | bare
deriving DecidableEq, Repr, Inhabited

namespace Mode

def isEnabled : Mode → Bool
  | .dispatch => true
  | .bare => false

def ofBool (enabled : Bool) : Mode := if enabled then .dispatch else .bare

end Mode

def Atoms.kind : Atoms → Kind
  | .logical _ => .logical
  | .integer _ => .integer
  | .double _ => .double
  | .complex _ => .complex
  | .character _ => .character
  | .raw _ => .raw

namespace Value

def resolve (x : Value) (mode : Mode) : Kind :=
  match x with
  | .null => .null
  | .atoms elements _ => if x.isObject && mode.isEnabled then .s3 else elements.kind
  | .list _ _ =>
      if !x.isObject then .list
      else if x.isDataFrame then .dataFrame
      else if mode.isEnabled then .s3
      else .scalar
  | .function _ _ _ | .environment _ _ | .symbol _ | .foreign _ => .scalar

def kind (x : Value) : Kind := x.resolve .dispatch

end Value

end Taxon
