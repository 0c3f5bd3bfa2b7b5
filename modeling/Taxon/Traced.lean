import Taxon.Proxy.Basic

/-!
Outcomes with what happened on the way: the method calls that were made and the trace that was
written. Both are part of the result, so that two ways to the same answer can be told apart.
-/

set_option autoImplicit false

namespace Taxon

inductive Notice where
  | hop (number : Nat) (source target : String)
  -- No hop is left for an object of this class.
  | cycle (cls : String) (hops : Nat)
deriving DecidableEq, Repr

def Notice.line (notice : Notice) : String :=
  let body :=
    match notice with
    | .hop number source target => s!"proxy hop {number}: {source} -> {target}"
    | .cycle cls hops => s!"proxy cycle: `{cls}` unresolved after {hops} hops"
  "[vector_kind] " ++ body ++ "\n"

structure Traced (α : Type) where
  outcome : Except Fault α
  calls : List Call
  trace : List Notice

namespace Traced

variable {α β : Type}

def silent (outcome : Except Fault α) : Traced α := ⟨outcome, [], []⟩

def map (f : α → β) (t : Traced α) : Traced β := ⟨t.outcome.map f, t.calls, t.trace⟩

def ofReply (reply : Reply) : Traced Value := ⟨reply.answer, reply.calls, []⟩

def traceText (t : Traced α) : String := "".intercalate (t.trace.map Notice.line)

end Traced

end Taxon
