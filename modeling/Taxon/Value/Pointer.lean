import Taxon.Text.Quoted
import Taxon.Value.Basic

/-!
Foreign pointers: reading the payload as the type it has, and the text that shows a pointer.
-/

set_option autoImplicit false

namespace Taxon.ForeignPointer

def number? (pointer : ForeignPointer) : Option Nat :=
  match pointer.payload with
  | .number content => some content
  | _ => none

def text? (pointer : ForeignPointer) : Option String :=
  match pointer.payload with
  | .text content => some content
  | _ => none

/-- The text that shows a pointer: its tag, and not what it points to. -/
def listing (pointer : ForeignPointer) : String :=
  "ExternalPtr \x7b tag: " ++ quoted pointer.tag ++ ", .. \x7d"

end Taxon.ForeignPointer
