import Taxon.Fault

/-!
Configuration of the vector predicate: how many hops through proxies are allowed, and whether the
hops are traced. The ceiling is checked by `validate`, not by the builders.
-/

set_option autoImplicit false

namespace Taxon

structure Config where
  maxProxyDepth : Nat
  debug : Bool
deriving DecidableEq, Repr

namespace Config

def defaultProxyDepth : Nat := 64

def proxyDepthCeiling : Nat := 4096

def default : Config := ⟨defaultProxyDepth, false⟩

instance : Inhabited Config := ⟨default⟩

def withMaxProxyDepth (config : Config) (depth : Nat) : Config :=
  { config with maxProxyDepth := depth }

def withDebug (config : Config) (debug : Bool) : Config := { config with debug := debug }

def validate (config : Config) : Except Fault Config :=
  if proxyDepthCeiling < config.maxProxyDepth then
    .error (.invalidConfig
      s!"max_proxy_depth {config.maxProxyDepth} exceeds the ceiling of {proxyDepthCeiling}")
  else .ok config

end Config

end Taxon
