import Taxon.Fault

/-!
Proxies: what unwraps an object into the value that holds its data. A proxy answers with a value
or a fault, and its reply lists the method calls made on the way, so that callers can be compared
by what they asked for as well as by what they got.
-/

set_option autoImplicit false

namespace Taxon

abbrev Method := Value → Except Fault Value

/-- One call of a method, under the label the method goes by. -/
structure Call where
  label : String
  subject : Value
deriving Inhabited

structure Reply where
  answer : Except Fault Value
  calls : List Call

class Proxy (P : Type) where
  reply : P → Value → Reply

/-- A single method asked about every object. -/
structure Universal where
  method : Method

def Universal.label : String := "*"

instance : Proxy Universal where
  reply proxy x := ⟨proxy.method x, [⟨Universal.label, x⟩]⟩

/-- The default method: a value is its own proxy. -/
def Method.identity : Method := fun x => .ok x

end Taxon
