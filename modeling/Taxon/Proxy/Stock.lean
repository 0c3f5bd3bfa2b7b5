import Taxon.Kind.Resolve
import Taxon.Proxy.Basic

/-!
Stock methods, described by data: methods that hand out a fixed value, change the class, take an
element out, or fail in a chosen way.
-/

set_option autoImplicit false

namespace Taxon

inductive StockMethod where
  | identity
  | unclass
  | constant (value : Value)
  | reclass (cls : Class)
  | element (index : Nat)
  | failing (cls message : String)
  -- Refuses the kind of whatever comes.
  | unsupported (operation : String)
  | kindName (name : String) (storage : Nat)
deriving Inhabited

namespace StockMethod

def asProxyFault (cls : String) : Except Value.Fault Value → Except Fault Value
  | .ok x => .ok x
  | .error fault => .error (.proxy cls fault.message)

def method : StockMethod → Method
  | .identity => Method.identity
  | .unclass => fun x => asProxyFault "unclass" (x.setClass none)
  | .constant value => fun _ => .ok value
  | .reclass cls => fun x => asProxyFault "set_class" (x.setClass (some cls))
  | .element index => fun x =>
      match x.asList?.bind fun xs => xs[index]? with
      | some y => .ok y
      | none => .error (.proxy x.typeName s!"no element {index}")
  | .failing cls message => fun _ => .error (.proxy cls message)
  | .unsupported operation => fun x => .error (.unsupportedKind x.kind operation)
  | .kindName name storage => fun _ =>
      (Kind.parse name).map fun kind =>
        .atoms (.character [some kind.name]) ⟨storage, none, true⟩

end StockMethod

end Taxon
