import Taxon.Proofs.Value.Likeness
import Taxon.Proofs.Workspace.Step

/-!
Comparing the values of a workspace. A value can be blurred, so that neither the names of its
storages nor its flags are left at any depth, and comparison does not notice. A clone, a frozen
value and one that was asked for write access differ from their source in no more than that.
-/

set_option autoImplicit false

namespace Taxon

theorem equal_elements_map {α : Type} {equal : α → α → Bool} {f : α → α} {xs : List α}
    (each : ∀ x ∈ xs, ∀ y, equal (f x) (f y) = equal x y) (ys : List α) :
    equalElements equal (xs.map f) (ys.map f) = equalElements equal xs ys := by
  induction xs generalizing ys with
  | nil => cases ys <;> rfl
  | cons x xs induction =>
      cases ys with
      | nil => rfl
      | cons y ys =>
          simp only [List.map_cons, equalElements]
          rw [each x List.mem_cons_self,
            induction fun z member => each z (List.mem_cons_of_mem x member)]

namespace Value

mutual

/-- The value without the names of its storages and without its flags. -/
def blurred : Value → Value
  | .atoms elements header => .atoms elements ⟨0, header.cls, false⟩
  | .list elements header => .list (blurredAll elements) ⟨0, header.cls, false⟩
  | x => x

def blurredAll : List Value → List Value
  | [] => []
  | x :: xs => blurred x :: blurredAll xs

end

theorem blurred_all (xs : List Value) : blurredAll xs = xs.map blurred := by
  induction xs with
  | nil => rfl
  | cons x xs induction => rw [blurredAll, induction, List.map_cons]

theorem equal_blurred (x y : Value) : x.blurred.equal y.blurred = x.equal y := by
  induction x using induct generalizing y with
  | list xs g induction =>
      cases y with
      | list ys h =>
          simp only [blurred, blurred_all, equal, equal_all]
          rw [equal_elements_map induction]
      | _ => rfl
  | _ => cases y <;> rfl

theorem equal_of_blurred {x y : Value} (same : x.blurred = y.blurred) (z : Value) :
    x.equal z = y.equal z ∧ z.equal x = z.equal y := by
  rw [← equal_blurred x, ← equal_blurred y, ← equal_blurred z x, ← equal_blurred z y, same]
  exact ⟨rfl, rfl⟩

theorem blurred_freeze (x : Value) : x.freeze.blurred = x.blurred := by
  cases x <;> rfl

end Value

theorem ContentsOf.blurred_under (contents : Contents) {g h : Header} (cls : g.cls = h.cls) :
    (contents.under g).blurred = (contents.under h).blurred := by
  cases contents <;> simp [under, Value.blurred, cls]

namespace Workspace

/-- Actions that bind a value anew without an edit: a clone, a frozen value, and a vector that was
asked for write access. The second argument names the value they start from. -/
inductive Renews (x : Value) : Action → String → Prop where
  | clone (name source : String) : Renews x (.clone name source) source
  | freeze (name : String) : Renews x (.freeze name) name
  | touch (name : String) (vector : x.vector?.isSome = true) : Renews x (.edit name .touch) name

theorem edit_vector_touch {w : Workspace} {name : String} {contents : Contents} {header : Header}
    (bound : w.lookup? name = some (contents.under header)) :
    ∃ renewed, (w.editVector name contents header .touch).1 = .ok (.value renewed) ∧
      renewed.blurred = (contents.under header).blurred := by
  obtain ⟨storage, after, renewed, writes, shape, _⟩ := write_housed bound contents 0
  have edited : contents.edit .touch = .ok contents := by
    cases contents with
    | values elements => rfl
    | atoms elements => cases elements <;> rfl
  refine ⟨renewed, ?_, ?_⟩
  · simp only [editVector, prepareEdit, edited, Edit.element?, Option.map_none, Option.getD_none,
      writes]
  · rw [shape]
    exact contents.blurred_under rfl

theorem perform_renewed {w : Workspace} {x : Value} {action : Action} {source : String}
    (renews : Renews x action source) (bound : w.lookup? source = some x) :
    ∃ renewed, (w.perform action).1 = .ok (.value renewed) ∧
      (w.perform action).2.lookup? action.target = some renewed ∧
      renewed.blurred = x.blurred := by
  have answered : ∃ renewed, (w.perform action).1 = .ok (.value renewed) ∧
      renewed.blurred = x.blurred := by
    cases renews with
    | clone name =>
        rw [perform, bound]
        exact ⟨x, rfl, rfl⟩
    | freeze =>
        rw [perform, bound]
        exact ⟨x.freeze, rfl, x.blurred_freeze⟩
    | touch _ vector =>
        obtain ⟨⟨contents, header⟩, isVector⟩ := Option.isSome_iff_exists.mp vector
        rw [perform, bound]
        simp only [isVector]
        rw [Value.eq_under_of_vector isVector] at bound ⊢
        exact edit_vector_touch bound
  obtain ⟨renewed, answer, blurred⟩ := answered
  have step := perform_step w action
  rw [answer] at step
  exact ⟨renewed, answer, step.origin_of_value.2.target, blurred⟩

end Workspace

/-- What equality of values is, and what it is blind to. -/
structure EqualityLaw : Prop where
  structural : ∀ x y : Value, x.equal y = true ↔ x.Alike y
  blind : ∀ x x' y y' : Value, x.blurred = x'.blurred → y.blurred = y'.blurred →
    x.equal y = x'.equal y'
  -- A clone, a frozen value and a vector after write access without a write stand in for their
  -- source on either side of every comparison.
  renewed : ∀ (w : Workspace) action source x, Workspace.Renews x action source →
    w.lookup? source = some x → ∃ renewed, (w.perform action).1 = .ok (.value renewed) ∧
      (w.perform action).2.lookup? action.target = some renewed ∧
      ∀ z, renewed.equal z = x.equal z ∧ z.equal renewed = z.equal x
  symmetric : ∀ x y : Value, x.equal y = y.equal x
  transitive : ∀ x y z : Value, x.equal y = true → y.equal z = true → x.equal z = true
  -- The two sides of this comparison share all their storages.
  reflexive : ∀ x : Value, x.equal x = true ↔ ¬x.HoldsNaN
  length : ∀ x y : Value, x.equal y = true → x.length = y.length
  kind : ∀ x y : Value, x.equal y = true → ∀ mode, x.resolve mode = y.resolve mode

theorem equality_law : EqualityLaw where
  structural := Value.equal_iff_alike
  blind := by
    intro x x' y y' same same'
    rw [(Value.equal_of_blurred same y).1, (Value.equal_of_blurred same' x').2]
  renewed := by
    intro w action source x renews bound
    obtain ⟨renewed, answer, standing, blurred⟩ := Workspace.perform_renewed renews bound
    exact ⟨renewed, answer, standing, Value.equal_of_blurred blurred⟩
  symmetric := by
    intro x y
    rw [Bool.eq_iff_iff, Value.equal_iff_alike, Value.equal_iff_alike]
    exact ⟨.symm, .symm⟩
  transitive := by
    intro x y z first second
    rw [Value.equal_iff_alike] at *
    exact first.trans second
  reflexive := fun x => (x.equal_iff_alike x).trans x.alike_self_iff
  length := fun x y equals => ((x.equal_iff_alike y).mp equals).length
  kind := by
    intro x y equals mode
    rw [Value.resolve_eq_table, Value.resolve_eq_table, ((x.equal_iff_alike y).mp equals).traits]

end Taxon
