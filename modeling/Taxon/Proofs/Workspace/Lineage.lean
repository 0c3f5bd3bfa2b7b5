import Taxon.Proofs.Workspace.Step

/-!
Lineage. An action carries vectors from locations to locations: what it does not touch stays where
it is, a clone starts a second line of descent, and an element that an edit leaves in its list only
changes its place. Beside what is carried there is only the written vector itself and what the
action constructs.
-/

set_option autoImplicit false

namespace Taxon

theorem Action.source_of_restyles {action : Action} (restyles : action.restyles = true) :
    action.source? = none := by
  cases action with
  | setVectorClass | setClass | freeze => rfl
  | _ => cases restyles

namespace Workspace

def cell? (w : Workspace) (l : Location) : Option (Contents × Nat) := (w.at? l).bind Value.cell?

def Binds (w : Workspace) (action : Action) : Prop := ∃ x, (w.perform action).1 = .ok (.value x)

/-- The action is refused, or finds nothing to bind. -/
def Idle (w : Workspace) (action : Action) : Prop :=
  (∃ fault, (w.perform action).1 = .error fault) ∨ (w.perform action).1 = .ok .nothing

/-- What stands at the first location stands at the second one after the action. -/
inductive Carried (w : Workspace) (action : Action) : Location → Location → Prop where
  | idle {l : Location} (idle : w.Idle action) : Carried w action l l
  | beside {l : Location} (other : l.root ≠ .handle action.target) : Carried w action l l
  | restyled (path : List Nat) (restyles : action.restyles = true) :
      Carried w action ⟨.handle action.target, path⟩ ⟨.handle action.target, path⟩
  | cloned {l : Location} (path : List Nat) (binds : w.Binds action)
      (source : action.source? = some l) :
      Carried w action ⟨l.root, l.path ++ path⟩ ⟨.handle action.target, path⟩
  -- A clone of a bound value that became an element.
  | brought {name source : String} {edit : Edit Ingredient} {x : Value} {place : Nat}
      (path : List Nat) (edits : action = .edit name edit) (binds : w.Binds action)
      (bound : w.lookup? name = some x) (clones : edit.element? = some (.clone source))
      (arrives : edit.arrival? x.length = some place) :
      Carried w action ⟨.handle source, path⟩ ⟨.handle name, place :: path⟩
  | kept {name : String} {edit : Edit Ingredient} {x : Value} {place moved : Nat}
      (path : List Nat) (edits : action = .edit name edit) (binds : w.Binds action)
      (bound : w.lookup? name = some x) (there : place < x.length)
      (stays : edit.place? x.length place = some moved) :
      Carried w action ⟨.handle name, place :: path⟩ ⟨.handle name, moved :: path⟩

theorem origin_of_binds {w : Workspace} {action : Action} (binds : w.Binds action) :
    ∃ x supply, (w.perform action).2.supply = supply ∧ w.Origin action x supply ∧
      w.Rebinds (w.perform action).2 action.target x := by
  rcases binds with ⟨x, answer⟩
  have step := perform_step w action
  rw [answer] at step
  exact ⟨x, _, rfl, step.origin_of_value⟩

theorem eq_of_idle {w : Workspace} {action : Action} (idle : w.Idle action) :
    (w.perform action).2 = w := by
  have step := perform_step w action
  rcases idle with ⟨fault, refused⟩ | nothing
  · rw [refused] at step
    exact step.eq_of_refused
  · rw [nothing] at step
    exact step.eq_of_nothing

theorem at_append (w : Workspace) (l : Location) (path : List Nat) :
    w.at? ⟨l.root, l.path ++ path⟩ = (w.at? l).bind fun x => x.at? path := by
  simp only [at?, Value.at_append, Option.bind_assoc]

theorem at_handle {w : Workspace} {name : String} {x : Value} (bound : w.lookup? name = some x)
    (path : List Nat) : w.at? ⟨.handle name, path⟩ = x.at? path := by
  simp [at?, root?, bound]

theorem rel_same {o p : Option Value} (same : p = o) : Option.Rel Value.Restyled o p := by
  rw [same]
  cases o with
  | none => exact .none
  | some x => exact .some (.refl x)

namespace Write

variable {w : Workspace} {name : String} {edit : Edit Ingredient} {x y : Value} {after : Supply}

theorem eq_of_bound (write : w.Write name edit x after) (bound : w.lookup? name = some y) :
    y = write.contents.under write.header := by
  have same := write.bound
  rw [bound] at same
  exact Option.some.inj same

theorem at_eq (write : w.Write name edit x after) (path : List Nat) :
    x.at? path = (write.written.under
      { write.header with storage := write.storage, isMutable := true }).at? path :=
  congrArg (Value.at? · path) write.shape

theorem at_kept (write : w.Write name edit x after) (bound : w.lookup? name = some y)
    {place moved : Nat} (there : place < y.length)
    (stays : edit.place? y.length place = some moved) (path : List Nat) :
    x.at? (moved :: path) = y.at? (place :: path) := by
  have same := write.eq_of_bound bound
  have places := (prepare_edit_prepared write.prepares).2.1
  rw [same] at there stays ⊢
  rw [← places] at stays
  rw [write.at_eq]
  exact ContentsOf.at_edit write.edited there stays path

theorem at_arrived (write : w.Write name edit x after) (bound : w.lookup? name = some y)
    {place : Nat} {z : Value} (brings : write.prepared.element? = some (.value z))
    (arrives : edit.arrival? y.length = some place) (path : List Nat) :
    x.at? (place :: path) = z.at? path := by
  have same := write.eq_of_bound bound
  have arrivals := (prepare_edit_prepared write.prepares).2.2
  rw [same, ← arrivals] at arrives
  rw [write.at_eq]
  exact ContentsOf.at_arrival write.edited brings arrives path

theorem prepared_of_element (write : w.Write name edit x after) {ingredient : Ingredient}
    (isElement : edit.element? = some ingredient) :
    ∃ element, write.prepared.element? = some element ∧
      w.Prepared ingredient element write.supply := by
  rcases (prepare_edit_prepared write.prepares).1 with
    ⟨absent, _⟩ | ⟨other, element, same, brings, prepared⟩
  · rw [absent] at isElement
    cases isElement
  · rw [isElement, Option.some.injEq] at same
    rw [same]
    exact ⟨element, brings, prepared⟩

theorem clone_of_element (write : w.Write name edit x after) {source : String}
    (clones : edit.element? = some (.clone source)) :
    ∃ z, write.prepared.element? = some (.value z) ∧ w.lookup? source = some z := by
  rcases write.prepared_of_element clones with ⟨element, brings, prepared⟩
  rcases prepared_clone prepared with ⟨z, isValue, bound⟩
  rw [isValue] at brings
  exact ⟨z, brings, bound⟩

end Write

section Carrying

variable {w : Workspace} {action : Action}

/-- A clone is bound as it was found. -/
theorem at_cloned {l : Location} (binds : w.Binds action) (source : action.source? = some l)
    (path : List Nat) :
    (w.perform action).2.at? ⟨.handle action.target, path⟩ = w.at? ⟨l.root, l.path ++ path⟩ := by
  rcases origin_of_binds binds with ⟨x, supply, _, origin, rebinds⟩
  rw [rebinds.at_target, at_append]
  cases origin with
  | copied sameSource found =>
      rw [source, Option.some.injEq] at sameSource
      rw [sameSource, found, Option.bind_some]
  | restyled restyles =>
      rw [Action.source_of_restyles restyles] at source
      cases source
  | _ => cases source

theorem at_restyled (restyles : action.restyles = true) (path : List Nat) :
    Option.Rel Value.Restyled (w.at? ⟨.handle action.target, path⟩)
      ((w.perform action).2.at? ⟨.handle action.target, path⟩) := by
  have step := perform_step w action
  generalize (w.perform action).1 = answer at step
  generalize (w.perform action).2 = after at step ⊢
  cases step with
  | refused fault => exact rel_same rfl
  | nothing => exact rel_same rfl
  | dropped existed drops =>
      rw [drops] at restyles
      cases restyles
  | @bound x after origin rebinds =>
      generalize after.supply = supply at origin
      rw [rebinds.at_target]
      cases origin with
      | restyled _ bound restyled =>
          rw [at_handle bound]
          cases path with
          | nil => exact .some restyled
          | cons place path => exact rel_same (restyled.at_inner place path)
      | copied source found =>
          rw [Action.source_of_restyles restyles] at source
          cases source
      | _ => cases restyles

theorem write_of_binds {name : String} {edit : Edit Ingredient}
    (binds : w.Binds (.edit name edit)) :
    ∃ x supply, (w.perform (.edit name edit)).2.supply = supply ∧
      Nonempty (w.Write name edit x supply) ∧
      w.Rebinds (w.perform (.edit name edit)).2 name x := by
  rcases origin_of_binds binds with ⟨x, supply, same, origin, rebinds⟩
  cases origin with
  | copied source found => cases source
  | restyled restyles => cases restyles
  | written write => exact ⟨x, supply, same, ⟨write⟩, rebinds⟩

/-- What is carried keeps its elements and its storage, and gets no more than a new class or a
lower flag. -/
theorem carried_restyled {l m : Location} (carried : w.Carried action l m) :
    Option.Rel Value.Restyled (w.at? l) ((w.perform action).2.at? m) := by
  cases carried with
  | idle idle =>
      apply rel_same
      rw [eq_of_idle idle]
  | beside other => exact rel_same ((perform_step w action).at_other other)
  | restyled path restyles => exact at_restyled restyles path
  | cloned path binds source => exact rel_same (at_cloned binds source path)
  | brought path edits binds bound clones arrives =>
      subst edits
      rcases write_of_binds binds with ⟨x, supply, _, ⟨write⟩, rebinds⟩
      rcases write.clone_of_element clones with ⟨z, brings, sourceBound⟩
      apply rel_same
      rw [rebinds.at_target, at_handle sourceBound]
      exact write.at_arrived bound brings arrives path
  | kept path edits binds bound there stays =>
      subst edits
      rcases write_of_binds binds with ⟨x, supply, _, ⟨write⟩, rebinds⟩
      apply rel_same
      rw [rebinds.at_target, at_handle bound]
      exact write.at_kept bound there stays path

theorem carried_cell {l m : Location} (carried : w.Carried action l m) :
    (w.perform action).2.cell? m = w.cell? l := by
  have related := carried_restyled carried
  unfold cell?
  generalize w.at? l = before at related ⊢
  generalize (w.perform action).2.at? m = after at related ⊢
  cases related with
  | none => rfl
  | some restyled => exact restyled.cell

end Carrying

end Workspace

end Taxon
