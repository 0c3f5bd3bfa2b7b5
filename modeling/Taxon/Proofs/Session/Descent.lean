import Taxon.Host
import Taxon.Proofs.Workspace.Invariant
import Taxon.Proofs.Workspace.Lineage

/-!
Sessions: actions on a workspace mixed with predicate calls and with the entry points for callers
among the values, whose answers are bound like any other value. To the workspace every request is
an action or nothing, so lineage and the invariant of workspaces reach over whole sessions.
-/

set_option autoImplicit false

namespace Taxon

structure Session where
  workspace : Workspace
  ambient : Ambient

inductive Request (P : Type) where
  | act (action : Action)
  | vectorhood (proxy : P) (x : Value) (mode : Mode)
  | classify (classifier : Classifier P) (x : Value) (mode : Mode)
  | typeofValue (name : String) (x flag : Value)
  | vectorhoodValue (name : String) (proxy : P) (x flag : Value)

namespace Session

def start (environment : Environment) : Session := ⟨.empty, .start environment⟩

variable {P : Type} [Proxy P]

/-- The session after a request. A request that fails binds nothing. -/
def serve (s : Session) : Request P → Session
  | .act action => { s with workspace := (s.workspace.perform action).2 }
  | .vectorhood proxy x mode => { s with ambient := (s.ambient.vectorhood proxy x mode).2 }
  | .classify classifier x mode => { s with ambient := (s.ambient.classify classifier x mode).2 }
  | .typeofValue name x flag =>
      match Host.typeofValue s.workspace.supply.storage x flag with
      | .error _ => s
      | .ok y =>
          { s with
            workspace :=
              { s.workspace.bind name y with supply := s.workspace.supply.storageTaken } }
  | .vectorhoodValue name proxy x flag =>
      let (answer, ambient) := Host.vectorhoodValue s.ambient s.workspace.pool proxy x flag
      match answer.outcome with
      | .error _ => { s with ambient := ambient }
      | .ok y => { workspace := s.workspace.bind name y, ambient := ambient }

def run (s : Session) (requests : List (Request P)) : Session := requests.foldl serve s

/-- The action that a request amounts to, for the workspace. -/
def implied? (s : Session) : Request P → Option Action
  | .act action => some action
  | .vectorhood _ _ _ | .classify _ _ _ => none
  | .typeofValue name x flag =>
      match Host.dispatchFlag flag with
      | .error _ => none
      | .ok mode => some (.create name (.character (x.resolve mode).name))
  | .vectorhoodValue name proxy x flag =>
      match Host.dispatchFlag flag with
      | .error _ => none
      | .ok mode =>
          match (s.ambient.vectorhood proxy x mode).1.outcome with
          | .error _ => none
          | .ok truth => some (.pooledLogical name truth)

theorem vectorhood_answer (ambient : Ambient) (pool : Pool) (proxy : P) (x flag : Value) :
    (Host.vectorhoodValue ambient pool proxy x flag).1.outcome =
      match Host.dispatchFlag flag with
      | .error fault => .error fault
      | .ok mode => (ambient.vectorhood proxy x mode).1.outcome.map pool.logical := by
  unfold Host.vectorhoodValue
  cases Host.dispatchFlag flag <;> rfl

theorem serve_workspace (s : Session) (request : Request P) :
    (s.serve request).workspace =
      match s.implied? request with
      | none => s.workspace
      | some action => (s.workspace.perform action).2 := by
  cases request with
  | typeofValue name x flag =>
      rw [serve, implied?, Host.typeofValue]
      cases Host.dispatchFlag flag <;> rfl
  | vectorhoodValue name proxy x flag =>
      have answer := vectorhood_answer s.ambient s.workspace.pool proxy x flag
      rw [serve, implied?]
      simp only [answer]
      cases Host.dispatchFlag flag with
      | error fault => rfl
      | ok mode =>
          simp only
          cases (s.ambient.vectorhood proxy x mode).1.outcome <;> rfl
  | _ => rfl

theorem serve_sound {s : Session} (sound : s.workspace.Sound) (request : Request P) :
    (s.serve request).workspace.Sound := by
  rw [serve_workspace]
  cases s.implied? request with
  | none => exact sound
  | some action => exact Workspace.perform_sound sound action

theorem run_sound {s : Session} (sound : s.workspace.Sound) (requests : List (Request P)) :
    (s.run requests).workspace.Sound := by
  induction requests generalizing s with
  | nil => exact sound
  | cons request rest induction => exact induction (serve_sound sound request)

end Session

end Taxon
