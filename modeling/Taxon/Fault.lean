import Taxon.Kind.Basic
import Taxon.Value.Basic

/-!
Why classification or its configuration fails. Resolution itself never does: faults come from
proxies, from flags that arrive as values, and from configuration texts.
-/

set_option autoImplicit false

namespace Taxon

/-- What a configuration document gets wrong although it is well formed. -/
inductive SchemaFault where
  | unknownField (name : String)
  | wrongType (found expected : String)
  | negative (found : Int)
  | unreadableNumber
deriving DecidableEq, Repr

/-- The wording of a cause. A number without a value has none, as if it were not well formed. -/
def SchemaFault.message? : SchemaFault → Option String
  | .unknownField name => some s!"unknown field `{name}`, expected `max_proxy_depth` or `debug`"
  | .wrongType found expected => some s!"invalid type: {found}, expected {expected}"
  | .negative found => some s!"invalid value: integer `{found}`, expected usize"
  | .unreadableNumber => none

inductive ReadFault where
  | missing
  | directory
  | notText
  | system (reason : String)
deriving DecidableEq, Repr

def ReadFault.message : ReadFault → String
  | .missing => "No such file or directory (os error 2)"
  | .directory => "Is a directory (os error 21)"
  | .notText => "stream did not contain valid UTF-8"
  | .system reason => reason

inductive Fault where
  | proxyCycle (cls : String) (depth limit : Nat)
  | proxy (cls message : String)
  | unsupportedKind (kind : Kind) (operation : String)
  | unknownKindName (name : String)
  | invalidDispatchFlag (found : String)
  | invalidConfig (message : String)
  | configSyntax
  | configSchema (cause : SchemaFault)
  | configRead (path : String) (cause : ReadFault)
deriving DecidableEq, Repr

namespace Fault

/-- The wording of a fault. A document that is not well formed has none of its own, and a document
that breaks the schema is reported by its bare cause. -/
def message? : Fault → Option String
  | .proxyCycle cls depth limit =>
      let hops := s!"after {depth} hops (limit {limit})"
      some s!"ProxyCycle: proxy of class `{cls}` still unresolved {hops}"
  | .proxy cls message => some s!"ProxyError: proxy of class `{cls}` failed: {message}"
  | .unsupportedKind kind operation =>
      some s!"unsupported vector kind `{kind.name}` in `{operation}`"
  | .unknownKindName name => some s!"unknown vector kind name `{name}`"
  | .invalidDispatchFlag found =>
      some s!"ArgumentError: `dispatch` must be a non-missing logical, got {found}"
  | .invalidConfig message => some s!"ConfigError: {message}"
  | .configSyntax => none
  | .configSchema cause => cause.message?
  | .configRead path cause => some s!"ConfigError: cannot read {path}: {cause.message}"

end Fault

def Kind.parse (name : String) : Except Fault Kind :=
  match Kind.ofName? name with
  | some kind => .ok kind
  | none => .error (.unknownKindName name)

end Taxon
