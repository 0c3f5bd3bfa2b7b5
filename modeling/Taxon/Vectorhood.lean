import Taxon.Config.Basic
import Taxon.Kind.Resolve
import Taxon.Traced

/-!
Whether a value is a vector. Vector-shaped kinds are vectors, null and scalars are not, and an
object is what its proxy says: the answer of the proxy is looked at again, with dispatch off. Each
look at a proxy costs one of the hops that the configuration allows; without a hop left the object
is cyclic.
-/

set_option autoImplicit false

namespace Taxon

/-- The class a fault names; a value without one is named by its type. -/
def Value.classLabel (x : Value) : String := (x.cls?.map Class.text).getD x.typeName

/-- One step of the decision, at `depth` hops behind the start and with `hops` left. -/
def vectorhoodAfter {P : Type} [Proxy P] (proxy : P) (limit : Nat) (tracing : Bool) :
    (hops depth : Nat) → Value → Mode → Traced Bool
  | hops, depth, x, mode =>
      match x.resolve mode with
      | .logical | .integer | .double | .complex | .character | .raw | .list | .dataFrame =>
          .silent (.ok true)
      | .null | .scalar => .silent (.ok false)
      | .s3 =>
          match hops with
          | 0 =>
              ⟨.error (.proxyCycle x.classLabel depth limit), [],
                if tracing then [.cycle x.classLabel depth] else []⟩
          | hops + 1 =>
              let reply := Proxy.reply proxy x
              match reply.answer with
              | .error fault => ⟨.error fault, reply.calls, []⟩
              | .ok y =>
                  let rest := vectorhoodAfter proxy limit tracing hops (depth + 1) y .bare
                  ⟨rest.outcome, reply.calls ++ rest.calls,
                    (if tracing then [.hop (depth + 1) x.text y.text] else []) ++ rest.trace⟩

/-- Whether a value is a vector, from a given mode on. A hop is traced when the configuration or
the surroundings ask for it. -/
def vectorhood {P : Type} [Proxy P] (proxy : P) (config : Config) (ambientTraces : Bool)
    (x : Value) (mode : Mode) : Traced Bool :=
  vectorhoodAfter proxy config.maxProxyDepth (config.debug || ambientTraces)
    config.maxProxyDepth 0 x mode

end Taxon
