import Taxon.Proofs.Value.Classed
import Taxon.Proofs.Workspace.Sharing

/-!
Classes along a run. No value that a workspace ever holds carries an empty class, at any depth. An
action that changes a class changes that one attribute: the value keeps all else, and every other
location keeps its value.
-/

set_option autoImplicit false

namespace Taxon

def Action.requested? : Action → Option (Option Class)
  | .setClass _ cls => some cls
  | .setVectorClass _ cls => some cls
  | _ => none

theorem Action.restyles_of_requested {action : Action} {requested : Option Class}
    (asks : action.requested? = some requested) : action.restyles = true := by
  cases action with
  | setVectorClass | setClass => rfl
  | _ => cases asks

namespace Workspace

def WellClassed (w : Workspace) : Prop := ∀ root x, w.root? root = some x → x.WellClassed

section Step

variable {w : Workspace} {action : Action}

theorem WellClassed.at (classed : w.WellClassed) {l : Location} {x : Value}
    (found : w.at? l = some x) : x.WellClassed := by
  obtain ⟨y, isRoot, below⟩ := Option.bind_eq_some_iff.mp found
  exact (classed l.root y isRoot).at below

theorem perform_class_vector {name : String} {contents : Contents} {header : Header}
    (bound : w.lookup? name = some (contents.under header)) (requested : Option Class) :
    w.perform (.setVectorClass name requested) = w.perform (.setClass name requested) := by
  simp only [perform, bound, ContentsOf.vector_under, Value.set_class_under]

theorem perform_class_empty (w : Workspace) (name : String) :
    w.perform (.setClass name (some ⟨[]⟩)) = w.perform (.setClass name none) := by
  simp only [perform, Value.set_class_empty]

/-- An action that changes a class sets it on the value under its name and binds the result. -/
theorem class_change {requested : Option Class} {y : Value} {after : Workspace}
    (asks : action.requested? = some requested)
    (performs : w.perform action = (.ok (.value y), after)) :
    ∃ x, w.lookup? action.target = some x ∧ x.setClass requested = .ok y ∧
      after = w.bind action.target y := by
  have setting {name : String} {requested : Option Class}
      (performs : w.perform (.setClass name requested) = (.ok (.value y), after)) :
      ∃ x, w.lookup? name = some x ∧ x.setClass requested = .ok y ∧ after = w.bind name y := by
    rw [perform] at performs
    split at performs
    · cases performs
    · rename_i x bound
      split at performs
      · cases performs
      · rename_i z set
        cases performs
        exact ⟨x, bound, set, rfl⟩
  cases action with
  | setClass name cls =>
      cases asks
      exact setting performs
  | setVectorClass name cls =>
      cases asks
      cases bound : w.lookup? name with
      | none =>
          simp only [perform, bound] at performs
          cases performs
      | some x =>
          cases vector : x.vector? with
          | none =>
              simp only [perform, bound, vector] at performs
              cases performs
          | some v =>
              rw [Value.eq_under_of_vector vector] at bound
              rw [perform_class_vector bound] at performs
              exact setting performs
  | _ => cases asks

theorem at_elsewhere {requested : Option Class} (asks : action.requested? = some requested)
    {l : Location} (other : l ≠ ⟨.handle action.target, []⟩) :
    (w.perform action).2.at? l = w.at? l := by
  have step := perform_step w action
  by_cases onTarget : l.root = .handle action.target
  · obtain ⟨root, path⟩ := l
    subst onTarget
    cases path with
    | nil => exact absurd rfl other
    | cons place path =>
        rcases performs : w.perform action with ⟨answer, after⟩
        rw [performs] at step
        cases step with
        | refused | nothing => rfl
        | dropped existed drops =>
            subst drops
            cases asks
        | bound _ rebinds =>
            obtain ⟨x, bound, set, _⟩ := class_change asks performs
            rw [rebinds.at_target, at_handle bound]
            exact (Value.set_class_same set).below place path
  · exact step.at_other onTarget

theorem restyled_classed {y : Value} {after : Workspace} (classed : w.WellClassed)
    (restyles : action.restyles = true)
    (performs : w.perform action = (.ok (.value y), after)) : y.WellClassed := by
  have changed {requested : Option Class} (asks : action.requested? = some requested) :
      y.WellClassed := by
    obtain ⟨x, bound, set, _⟩ := class_change asks performs
    exact (classed (.handle action.target) x bound).set_class set
  cases action with
  | setClass name cls => exact changed rfl
  | setVectorClass name cls => exact changed rfl
  | freeze name =>
      rw [perform] at performs
      split at performs
      · cases performs
      · rename_i x bound
        cases performs
        exact (classed (.handle name) x bound).freeze
  | _ => cases restyles

theorem Prepared.classed {ingredient : Ingredient} {y : Value} {supply : Supply}
    (classed : w.WellClassed) (prepared : w.Prepared ingredient (.value y) supply) :
    y.WellClassed := by
  cases ingredient with
  | element given => exact absurd rfl (prepared_element prepared y)
  | construct source =>
      obtain ⟨x, ⟨rfl⟩, built⟩ := prepared_construct prepared
      exact Blueprint.build_classed source built
  | clone name =>
      obtain ⟨x, ⟨rfl⟩, bound⟩ := prepared_clone prepared
      exact classed (.handle name) _ bound

theorem Write.classed {name : String} {edit : Edit Ingredient} {x : Value} {after : Supply}
    (classed : w.WellClassed) (write : w.Write name edit x after) : x.WellClassed := by
  have before := classed (.handle name) _ write.bound
  have brings : ∀ y, write.prepared.element? = some (.value y) → y.WellClassed := by
    intro y isElement
    rcases (prepare_edit_prepared write.prepares).1 with
      ⟨_, absent, _⟩ | ⟨ingredient, element, _, same, prepared⟩
    · rw [absent] at isElement
      cases isElement
    · rw [isElement, Option.some.injEq] at same
      rw [← same] at prepared
      exact prepared.classed classed
  rw [write.shape]
  exact (before.edit brings write.edited).under rfl

theorem origin_classed {x : Value} {after : Workspace} (classed : w.WellClassed)
    (performs : w.perform action = (.ok (.value x), after))
    (origin : w.Origin action x after.supply) : x.WellClassed := by
  generalize after.supply = supply at origin
  cases origin with
  | built built => exact Blueprint.build_classed _ built
  | copied source found => exact classed.at found
  | restyled restyles _ _ => exact restyled_classed classed restyles performs
  | emptied _ => exact .emptied _ rfl
  | written write => exact write.classed classed

theorem perform_classed (classed : w.WellClassed) (action : Action) :
    (w.perform action).2.WellClassed := by
  have step := perform_step w action
  rcases performs : w.perform action with ⟨answer, after⟩
  rw [performs] at step
  intro root y found
  cases step with
  | refused | nothing => exact classed root y found
  | @dropped name _ _ =>
      cases root with
      | handle other =>
          by_cases same : other = name
          · rw [root?, lookup?, same, Bindings.lookup_drop_same] at found
            cases found
          · rw [root?, lookup?, Bindings.lookup_drop_other _ same] at found
            exact classed (.handle other) y found
      | pooledEmpty kind => exact classed (.pooledEmpty kind) y found
      | pooledLogical truth => exact classed (.pooledLogical truth) y found
  | @bound x _ origin rebinds =>
      by_cases onTarget : root = .handle action.target
      · rw [onTarget, rebinds.root_target] at found
        cases found
        exact origin_classed classed performs origin
      · rw [rebinds.root_other onTarget] at found
        exact classed root y found

end Step

theorem empty_classed : WellClassed empty := by
  intro root x found
  have pooled : ∀ x ∈ Pool.shared.entries, x.WellClassed := by
    intro x member
    simp only [Pool.entries, List.mem_cons, List.not_mem_nil, or_false] at member
    rcases member with rfl | rfl | rfl | rfl | rfl | rfl | rfl | rfl | rfl
    case inr.inr.inr.inr.inr.inr.inl => exact .emptied (.values []) rfl
    all_goals exact Value.well_classed_of_bare rfl rfl
  cases root with
  | handle name => cases found
  | pooledEmpty kind => exact pooled x (Pool.empty_mem_entries found)
  | pooledLogical truth =>
      cases found
      exact pooled _ (Pool.logical_mem_entries Pool.shared truth)

theorem run_classed {w : Workspace} (classed : w.WellClassed) (actions : List Action) :
    (w.run actions).WellClassed := by
  induction actions generalizing w with
  | nil => exact classed
  | cons action rest induction => exact induction (perform_classed classed action)

/-- The class attributes in a workspace, and what a change of one does. -/
structure ClassLaw (w : Workspace) : Prop where
  stored : ∀ l x c, w.at? l = some x → x.cls? = some c → c.names ≠ []
  object : ∀ l x, w.at? l = some x →
    (x.isObject = true ↔ ∃ name, x.cls?.bind Class.first? = some name)
  built : ∀ (source : Blueprint) supply x after, source.build supply = .ok (x, after) →
    x.WellClassed
  emptied : ∀ x : Value, x.setClass (some ⟨[]⟩) = x.setClass none
  emptiedHere : ∀ name, w.perform (.setClass name (some ⟨[]⟩)) = w.perform (.setClass name none)
  vector : ∀ (contents : Contents) header requested,
    (contents.under header).setClass requested = .ok (contents.under (header.setClass requested))
  vectorHere : ∀ name (contents : Contents) header requested,
    w.lookup? name = some (contents.under header) →
      w.perform (.setVectorClass name requested) = w.perform (.setClass name requested)
  kept : ∀ (x y : Value) requested, x.setClass requested = .ok y → x.SameButClass y ∧
    ∀ c, y.cls? = some c ↔ requested = some c ∧ c.names ≠ []
  changed : ∀ action requested y after, action.requested? = some requested →
    w.perform action = (.ok (.value y), after) → ∃ x, w.lookup? action.target = some x ∧
      x.setClass requested = .ok y ∧ after.lookup? action.target = some y
  shared : ∀ action requested, action.requested? = some requested →
    ∀ l m, (w.perform action).2.shares l m = w.shares l m
  elsewhere : ∀ action requested, action.requested? = some requested →
    ∀ l, l ≠ ⟨.handle action.target, []⟩ → (w.perform action).2.at? l = w.at? l

theorem class_law_of_run (actions : List Action) : ClassLaw (Workspace.empty.run actions) := by
  have sound := run_sound empty_sound actions
  have classed := run_classed empty_classed actions
  constructor
  · intro l x c found
    exact classed.at found [] x c rfl
  · intro l x found
    exact (classed.at found).object_iff
  · intro source supply x after built
    exact source.build_classed built
  · exact Value.set_class_empty
  · intro name
    exact perform_class_empty _ name
  · exact Value.set_class_under
  · intro name contents header requested bound
    exact perform_class_vector bound requested
  · intro x y requested set
    refine ⟨Value.set_class_same set, fun c => ?_⟩
    rw [Value.cls_set_class set, Class.carried_iff]
  · intro action requested y after asks performs
    obtain ⟨x, bound, set, rfl⟩ := class_change asks performs
    exact ⟨x, bound, set, Bindings.lookup_bind_same _ action.target y⟩
  · intro action requested asks l m
    have restyles := Action.restyles_of_requested asks
    exact carried_shares sound (carried_of_restyles restyles l) (carried_of_restyles restyles m)
  · intro action requested asks l other
    exact at_elsewhere asks other

end Workspace

end Taxon
