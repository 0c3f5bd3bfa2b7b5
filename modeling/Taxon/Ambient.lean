import Taxon.Classifier
import Taxon.Config.Environment

/-!
What the free functions share without being handed it: the environment, the configuration read
from it the first time it is asked for, and the debug variable read the first time a trace depends
on it. Both answers are kept, so that a later change of the environment reaches neither.
-/

set_option autoImplicit false

namespace Taxon

structure Ambient where
  environment : Environment
  config? : Option Config
  traces? : Option Bool
deriving Inhabited

namespace Ambient

def start (environment : Environment) : Ambient := ⟨environment, none, none⟩

def withEnvironment (a : Ambient) (environment : Environment) : Ambient :=
  { a with environment := environment }

def environmentConfig (a : Ambient) : Config := Config.ofEnvironment a.environment

def readConfig (a : Ambient) : Config × Ambient :=
  let config := a.config?.getD a.environmentConfig
  (config, { a with config? := some config })

def readTraces (a : Ambient) : Bool × Ambient :=
  let traces := a.traces?.getD a.environment.debug.text?.isSome
  (traces, { a with traces? := some traces })

/-- Whether a value is a vector by a classifier. The debug variable is read only when an object is
met and the classifier does not trace anyway. -/
def classify {P : Type} [Proxy P] (a : Ambient) (c : Classifier P) (x : Value) (mode : Mode) :
    Traced Bool × Ambient :=
  if x.resolve mode = .s3 && !c.config.debug then
    let (traces, a) := a.readTraces
    (c.vectorhood traces x mode, a)
  else (c.vectorhood false x mode, a)

def vectorhood {P : Type} [Proxy P] (a : Ambient) (proxy : P) (x : Value) (mode : Mode) :
    Traced Bool × Ambient :=
  let (config, a) := a.readConfig
  a.classify ⟨proxy, config⟩ x mode

end Ambient

end Taxon
