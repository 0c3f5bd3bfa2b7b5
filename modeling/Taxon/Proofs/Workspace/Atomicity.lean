import Taxon.Proofs.Value.Elements
import Taxon.Proofs.Workspace.Access

/-!
Failure atomicity. An action that fails leaves the workspace as it was: every handle with its
elements, class and flag, and who shares storage with whom. For an element that is put in a place
of a vector, and for a class, it is said when the action fails and with which fault.
-/

set_option autoImplicit false

namespace Taxon

namespace Value

def admits (x : Value) (element : Element) : Bool := x.vector?.any fun v => v.1.admits element

/-- The values that have no place for a class. -/
inductive Classless : Value → Prop where
  | null : Classless .null
  | symbol (name : String) : Classless (.symbol name)
  | foreign (pointer : ForeignPointer) : Classless (.foreign pointer)

def classFault (x : Value) : Fault :=
  .typeMismatch ("cannot set a class attribute on " ++ x.typeName)

theorem set_class_fails_iff (x : Value) (requested : Option Class) (fault : Fault) :
    x.setClass requested = .error fault ↔ x.Classless ∧ fault = x.classFault := by
  constructor
  · intro fails
    cases x <;> simp only [setClass, reduceCtorEq, Except.error.injEq] at fails
    case null => exact ⟨.null, fails.symm⟩
    case symbol name => exact ⟨.symbol name, fails.symm⟩
    case foreign pointer => exact ⟨.foreign pointer, fails.symm⟩
  · rintro ⟨classless, rfl⟩
    cases classless <;> rfl

theorem build_classed_fails_iff {base : Blueprint} {x : Value} {supply after : Supply}
    (built : base.build supply = .ok (x, after)) (cls : Class) (fault : Fault) :
    (Blueprint.classed base cls).build supply = .error fault ↔
      x.Classless ∧ fault = x.classFault := by
  rw [← set_class_fails_iff x (some cls), Blueprint.build, built]
  constructor
  · exact Outcome.error_of_map
  · intro fails
    simp only [fails]
    rfl

structure Replaced (x y : Value) (index : Nat) (element : Element) : Prop where
  length : y.length = x.length
  cls : y.cls? = x.cls?
  there : y.element? index = some element
  elsewhere : ∀ place, place ≠ index → y.element? place = x.element? place

theorem replaced_under {contents written : Contents} {index : Nat} {element : Element}
    (inside : index < contents.elements.length)
    (replaced : written.elements = contents.elements.set index element) {header own : Header}
    (same : own.cls = header.cls) :
    Replaced (contents.under header) (written.under own) index element where
  length := by simp [ContentsOf.length_under, replaced]
  cls := by rw [ContentsOf.cls_under, ContentsOf.cls_under, same]
  there := by rw [ContentsOf.element_under, replaced, List.getElem?_set_self inside]
  elsewhere := fun place other => by
    rw [ContentsOf.element_under, ContentsOf.element_under, replaced,
      List.getElem?_set_ne (Ne.symm other)]

end Value

namespace Workspace

/-- A handle, what is bound to it, and a new element that is at hand and of its type. -/
structure Fits (w : Workspace) (name : String) (ingredient : Ingredient) (x : Value)
    (element : Element) : Prop where
  bound : w.lookup? name = some x
  prepared : ∃ supply, w.prepare ingredient = .ok (element, supply)
  admitted : x.admits element = true

structure AtomicityLaw (w : Workspace) : Prop where
  refused : ∀ action fault after, w.perform action = (.error fault, after) → after = w
  -- Nothing is hidden in how an edit is performed: its steps, with what they did before a refusal
  -- kept, answer the same and leave the same at every location.
  inSteps : ∀ name edit prepared supply, w.prepareEdit edit = .ok (prepared, supply) →
    let stepped := (editInSteps name prepared).runFrom { w with supply := supply }
    stepped.1 = (w.perform (.edit name edit)).1 ∧
      ∀ l, stepped.2.at? l = (w.perform (.edit name edit)).2.at? l
  setRefused : ∀ name ingredient x element, w.Fits name ingredient x element →
    ∀ index fault after, w.perform (.edit name (.set index ingredient)) = (.error fault, after) ↔
      x.length ≤ index ∧ fault = .refused (.bounds index x.length) ∧ after = w
  setDone : ∀ name ingredient x element, w.Fits name ingredient x element →
    ∀ index, index < x.length → ∃ y after,
      w.perform (.edit name (.set index ingredient)) = (.ok (.value y), after) ∧
        after.lookup? name = some y ∧ x.Replaced y index element
  classless : ∀ (x : Value) requested fault,
    x.setClass requested = .error fault ↔ x.Classless ∧ fault = x.classFault
  classRefused : ∀ name x, w.lookup? name = some x → ∀ requested fault after,
    w.perform (.setClass name requested) = (.error fault, after) ↔
      x.Classless ∧ fault = .refused x.classFault ∧ after = w
  buildRefused : ∀ base x supply after, base.build supply = .ok (x, after) → ∀ cls fault,
    (Blueprint.classed base cls).build supply = .error fault ↔
      x.Classless ∧ fault = x.classFault

section Performed

variable {w : Workspace} {name : String} {x : Value}

theorem perform_refused {action : Action} {fault : Fault} {after : Workspace}
    (fails : w.perform action = (.error fault, after)) : after = w := by
  have step := perform_step w action
  rw [fails] at step
  exact step.eq_of_refused

namespace Fits

variable {ingredient : Ingredient} {element : Element} {index : Nat}

/-- Where an element fits, putting it in a place comes down to the edit of the elements. -/
theorem perform_set (fits : w.Fits name ingredient x element) (index : Nat) :
    ∃ contents header, x = contents.under header ∧ contents.admits element = true ∧
      w.perform (.edit name (.set index ingredient)) =
        w.editVector name contents header (.set index ingredient) := by
  have admitted := fits.admitted
  cases vector : x.vector? with
  | none =>
      rw [Value.admits, vector] at admitted
      cases admitted
  | some v =>
      rw [Value.admits, vector] at admitted
      refine ⟨v.1, v.2, Value.eq_under_of_vector vector, admitted, ?_⟩
      simp only [perform, fits.bound, vector]

theorem set_outside (fits : w.Fits name ingredient x element) (outside : x.length ≤ index) :
    w.perform (.edit name (.set index ingredient)) =
      (.error (.refused (.bounds index x.length)), w) := by
  rcases fits.perform_set index with ⟨contents, header, rfl, admitted, performs⟩
  rcases fits.prepared with ⟨supply, prepares⟩
  rw [ContentsOf.length_under] at outside
  rw [performs, ContentsOf.length_under]
  simp only [editVector, prepareEdit, prepares, Except.map,
    ContentsOf.edit_set_outside admitted outside]

theorem set_inside (fits : w.Fits name ingredient x element) (inside : index < x.length) :
    ∃ y after, w.perform (.edit name (.set index ingredient)) = (.ok (.value y), after) ∧
      after.lookup? name = some y ∧ x.Replaced y index element := by
  rcases fits.perform_set index with ⟨contents, header, rfl, admitted, performs⟩
  rcases fits.prepared with ⟨supply, prepares⟩
  rw [ContentsOf.length_under] at inside
  rcases ContentsOf.edit_set_inside admitted inside with ⟨written, edited, replaced⟩
  have bound : ({ w with supply := supply } : Workspace).lookup? name =
      some (contents.under header) := fits.bound
  rcases write_housed bound written (element.holders header.storage) with
    ⟨storage, after, y, writes, shape, rebinds, _⟩
  refine ⟨y, after, ?_, rebinds.target, ?_⟩
  · rw [performs]
    simp only [editVector, prepareEdit, prepares, Except.map, edited, Edit.element?,
      Option.map_some, Option.getD_some, writes]
  · rw [shape]
    exact Value.replaced_under inside replaced rfl

end Fits

theorem perform_set_class (bound : w.lookup? name = some x) (requested : Option Class)
    (fault : Fault) (after : Workspace) :
    w.perform (.setClass name requested) = (.error fault, after) ↔
      x.Classless ∧ fault = .refused x.classFault ∧ after = w := by
  cases set : x.setClass requested with
  | error refusal =>
      have known := (x.set_class_fails_iff requested refusal).mp set
      simp only [perform, bound, set, Prod.mk.injEq, Except.error.injEq, known.2]
      constructor
      · exact fun same => ⟨known.1, same.1.symm, same.2.symm⟩
      · exact fun same => ⟨same.2.1.symm, same.2.2.symm⟩
  | ok y =>
      simp only [perform, bound, set, store, Prod.mk.injEq, reduceCtorEq, false_and, false_iff]
      rintro ⟨classless, _⟩
      have fails := (x.set_class_fails_iff requested x.classFault).mpr ⟨classless, rfl⟩
      rw [set] at fails
      cases fails

theorem atomicity_of_sound (sound : w.Sound) : AtomicityLaw w where
  refused := fun _ _ _ => perform_refused
  inSteps := fun _ _ _ _ prepares => edit_in_steps sound prepares
  setRefused := by
    intro name ingredient x element fits index fault after
    by_cases inside : index < x.length
    · rcases fits.set_inside inside with ⟨y, final, performs, _⟩
      simp only [performs, Prod.mk.injEq, reduceCtorEq, false_and, false_iff]
      exact fun fails => absurd fails.1 (Nat.not_le.mpr inside)
    · have outside := Nat.not_lt.mp inside
      rw [fits.set_outside outside]
      simp only [Prod.mk.injEq, Except.error.injEq, outside, true_and]
      exact and_congr eq_comm eq_comm
  setDone := fun _ _ _ _ fits _ inside => fits.set_inside inside
  classless := Value.set_class_fails_iff
  classRefused := fun _ _ bound => perform_set_class bound
  buildRefused := fun _ _ _ _ built => Value.build_classed_fails_iff built

end Performed

theorem atomicity_law_of_run (actions : List Action) :
    AtomicityLaw (Workspace.empty.run actions) :=
  atomicity_of_sound (run_sound empty_sound actions)

end Workspace

end Taxon
