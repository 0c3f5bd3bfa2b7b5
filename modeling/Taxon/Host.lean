import Taxon.Ambient
import Taxon.Pool

/-!
Entry points for callers that live among the values: the dispatch flag arrives as a logical
vector, and the answer leaves as a value.
-/

set_option autoImplicit false

namespace Taxon.Host

/-- The mode that a flag asks for. Only the first element counts; it has to be there and not
missing. -/
def dispatchFlag (flag : Value) : Except Fault Mode :=
  match flag.firstLogical? with
  | some enabled => .ok (.ofBool enabled)
  | none => .error (.invalidDispatchFlag flag.text)

def typeofValue (storage : Nat) (x flag : Value) : Except Fault Value :=
  (dispatchFlag flag).map fun mode =>
    .atoms (.character [some (x.resolve mode).name]) ⟨storage, none, true⟩

/-- Whether a value is a vector, as the pooled scalar. A bad flag comes first: no proxy is asked.
-/
def vectorhoodValue {P : Type} [Proxy P] (ambient : Ambient) (pool : Pool) (proxy : P)
    (x flag : Value) : Traced Value × Ambient :=
  match dispatchFlag flag with
  | .error fault => (.silent (.error fault), ambient)
  | .ok mode =>
      let (answer, ambient) := ambient.vectorhood proxy x mode
      (answer.map pool.logical, ambient)

end Taxon.Host
