import Taxon.Config.Basic
import Taxon.Text.Blank
import Taxon.Text.Digits

/-!
Configuration from the environment. The depth variable overrides the default when it reads as an
allowed number of hops and is ignored otherwise; the debug variable turns tracing on by being set
at all. A variable that is not Unicode counts as unset.
-/

set_option autoImplicit false

namespace Taxon

inductive Setting where
  | unset
  | text (content : String)
  -- Set to bytes that are no Unicode text.
  | bytes
deriving DecidableEq, Repr, Inhabited

namespace Setting

def ofBytes (content : ByteArray) : Setting :=
  match String.fromUTF8? content with
  | some decoded => .text decoded
  | none => .bytes

def text? : Setting → Option String
  | .text content => some content
  | _ => none

end Setting

structure Environment where
  depth : Setting
  debug : Setting
deriving DecidableEq, Repr, Inhabited

namespace Config

def withoutPlus : List Char → List Char
  | '+' :: rest => rest
  | text => text

/-- The depth a variable's text asks for: white space around a number of decimal digits, however
many, whose value is within the ceiling. -/
def depthOf? (text : String) : Option Nat :=
  let digits := withoutPlus (trimBlanks text.toList)
  if digits ≠ [] ∧ digits.all Digits.isDecimal ∧ Digits.value 10 digits ≤ proxyDepthCeiling then
    some (Digits.value 10 digits)
  else none

def ofEnvironment (environment : Environment) : Config where
  maxProxyDepth := (environment.depth.text?.bind depthOf?).getD defaultProxyDepth
  debug := environment.debug.text?.isSome

end Config

end Taxon
