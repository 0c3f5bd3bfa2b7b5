import Taxon.Vectorhood

/-!
Classifiers: a proxy bundled with a configuration. A classifier never holds a configuration that
validation rejects, because `withConfig` is the only way to give it one.
-/

set_option autoImplicit false

namespace Taxon

structure Classifier (P : Type) where
  proxy : P
  config : Config
deriving Inhabited

namespace Classifier

variable {P : Type}

def new (proxy : P) : Classifier P := ⟨proxy, .default⟩

def withConfig (c : Classifier P) (config : Config) : Except Fault (Classifier P) :=
  config.validate.map fun valid => { c with config := valid }

def editProxy (c : Classifier P) (edit : P → P) : Classifier P := { c with proxy := edit c.proxy }

def resolve (_ : Classifier P) (x : Value) (mode : Mode) : Kind := x.resolve mode

def vectorhood [Proxy P] (c : Classifier P) (ambientTraces : Bool) (x : Value) (mode : Mode) :
    Traced Bool :=
  Taxon.vectorhood c.proxy c.config ambientTraces x mode

end Classifier

end Taxon
