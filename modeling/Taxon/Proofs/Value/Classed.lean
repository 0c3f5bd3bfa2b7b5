import Taxon.Proofs.Value.Elements
import Taxon.Value.Blueprint

/-!
Class attributes inside a value. An attribute is either absent or some names: every constructor
leaves it out, and every change of it drops an empty one. A change of class touches nothing else.
-/

set_option autoImplicit false

namespace Taxon

namespace Value

/-- Every class attribute in a value is some names, at the top and at every element below. -/
def WellClassed (x : Value) : Prop :=
  ∀ path y c, x.at? path = some y → y.cls? = some c → c.names ≠ []

/-- What a change of class leaves as it is. -/
structure SameButClass (x y : Value) : Prop where
  representation : y.representation = x.representation
  length : y.length = x.length
  elements : ∀ index, y.element? index = x.element? index
  below : ∀ place path, y.at? (place :: path) = x.at? (place :: path)
  flag : y.isMutable = x.isMutable
  shares : ∀ z, y.sharesStorage z = x.sharesStorage z ∧ z.sharesStorage y = z.sharesStorage x

theorem well_classed_iff (x : Value) : x.WellClassed ↔
    (∀ c, x.cls? = some c → c.names ≠ []) ∧
      ∀ elements, x.asList? = some elements → ∀ y ∈ elements, y.WellClassed := by
  constructor
  · intro classed
    refine ⟨fun c => classed [] x c rfl, ?_⟩
    intro elements isList y member path z c found
    obtain ⟨place, standing⟩ := List.mem_iff_getElem?.mp member
    refine classed (place :: path) z c ?_
    rw [at?, isList, Option.bind_some, standing, Option.bind_some, found]
  · rintro ⟨top, inner⟩ path y c found
    cases path with
    | nil =>
        cases found
        exact top c
    | cons place path =>
        obtain ⟨elements, header, element, rfl, standing, rest⟩ := at_cons found
        exact inner elements rfl element (List.mem_of_getElem? standing) path y c rest

theorem WellClassed.at {x y : Value} {path : List Nat} (classed : x.WellClassed)
    (found : x.at? path = some y) : y.WellClassed := by
  intro rest z c below
  refine classed (path ++ rest) z c ?_
  rw [at_append, found, Option.bind_some, below]

theorem WellClassed.of_elements {x y : Value} (classed : x.WellClassed)
    (sameList : y.asList? = x.asList?) (top : ∀ c, y.cls? = some c → c.names ≠ []) :
    y.WellClassed := by
  refine y.well_classed_iff.mpr ⟨top, ?_⟩
  rw [sameList]
  exact (x.well_classed_iff.mp classed).2

theorem well_classed_of_bare {x : Value} (noList : x.asList? = none) (noClass : x.cls? = none) :
    x.WellClassed := by
  refine x.well_classed_iff.mpr ⟨?_, ?_⟩
  · rw [noClass]
    exact nofun
  · rw [noList]
    exact nofun

section SetClass

variable {x y : Value} {requested : Option Class}

theorem cls_set_class (set : x.setClass requested = .ok y) : y.cls? = Class.carried requested := by
  cases x with
  | atoms | list =>
      cases set
      exact Class.carried_carried requested
  | function | environment =>
      cases set
      rfl
  | _ => cases set

theorem as_list_set_class (set : x.setClass requested = .ok y) : y.asList? = x.asList? := by
  cases x with
  | atoms | list | function | environment =>
      cases set
      rfl
  | _ => cases set

theorem SameButClass.under (contents : Contents) {header styled : Header}
    (storage : styled.storage = header.storage) (flag : styled.isMutable = header.isMutable) :
    SameButClass (contents.under header) (contents.under styled) where
  representation := by cases contents <;> rfl
  length := by rw [ContentsOf.length_under, ContentsOf.length_under]
  elements index := by rw [ContentsOf.element_under, ContentsOf.element_under]
  below place path := by cases contents <;> rfl
  flag := by rw [ContentsOf.mutable_under, ContentsOf.mutable_under, flag]
  shares z := by
    cases contents <;> cases z <;>
      simp only [ContentsOf.under, sharesStorage, storage, and_self]

theorem set_class_same (set : x.setClass requested = .ok y) : SameButClass x y := by
  cases x with
  | atoms elements header =>
      cases set
      exact .under (.atoms elements) rfl rfl
  | list elements header =>
      cases set
      exact .under (.values elements) rfl rfl
  | function | environment =>
      cases set
      exact ⟨rfl, rfl, fun _ => rfl, fun _ _ => rfl, rfl, fun z => by cases z <;> exact ⟨rfl, rfl⟩⟩
  | _ => cases set

theorem set_class_empty (x : Value) : x.setClass (some ⟨[]⟩) = x.setClass none := by
  cases x <;> rfl

/-- A vector takes a class the same way by itself and as a value. -/
theorem set_class_under (contents : Contents) (header : Header) (requested : Option Class) :
    (contents.under header).setClass requested =
      .ok (contents.under (header.setClass requested)) := by
  cases contents <;> simp only [ContentsOf.under, setClass, Header.setClass, Class.carried_carried]

end SetClass

namespace WellClassed

variable {x y : Value}

theorem set_class {requested : Option Class} (classed : x.WellClassed)
    (set : x.setClass requested = .ok y) : y.WellClassed := by
  apply classed.of_elements (as_list_set_class set)
  rw [cls_set_class set]
  exact fun c => Class.carried_nonempty

theorem freeze (classed : x.WellClassed) : x.freeze.WellClassed := by
  have top := (x.well_classed_iff.mp classed).1
  cases x with
  | atoms | list => exact classed.of_elements rfl top
  | _ => exact classed

theorem under {contents : Contents} {header own : Header}
    (classed : (contents.under header).WellClassed) (same : own.cls = header.cls) :
    (contents.under own).WellClassed := by
  have top := ((contents.under header).well_classed_iff.mp classed).1
  rw [ContentsOf.cls_under, ← same, ← contents.cls_under own] at top
  cases contents with
  | atoms | values => exact classed.of_elements rfl top

theorem edit {edit : Edit Element} {contents written : Contents} {header : Header}
    (classed : (contents.under header).WellClassed)
    (brings : ∀ y, edit.element? = some (.value y) → y.WellClassed)
    (edited : contents.edit edit = .ok written) : (written.under header).WellClassed := by
  obtain ⟨top, inner⟩ := (contents.under header).well_classed_iff.mp classed
  rw [ContentsOf.cls_under] at top
  refine (written.under header).well_classed_iff.mpr ⟨by rwa [ContentsOf.cls_under], ?_⟩
  cases contents with
  | atoms elements =>
      obtain ⟨rewritten, rfl⟩ := ContentsOf.edit_atoms edited
      exact nofun
  | values xs =>
      obtain ⟨ys, rfl, origin⟩ := ContentsOf.mem_edit edited
      rintro _ ⟨rfl⟩ y member
      rcases origin y member with old | brought
      · exact inner xs rfl y old
      · exact brings y brought

theorem emptied (contents : Contents) {header : Header} (unclassed : header.cls = none) :
    (contents.emptied.under header).WellClassed := by
  refine (contents.emptied.under header).well_classed_iff.mpr ⟨?_, ?_⟩
  · rw [ContentsOf.cls_under, unclassed]
    exact nofun
  · cases contents with
    | atoms elements => exact nofun
    | values elements =>
        rintro _ ⟨rfl⟩
        exact nofun

/-- A well classed value is an object exactly when its class has a first name. -/
theorem object_iff (classed : x.WellClassed) :
    x.isObject = true ↔ ∃ name, x.cls?.bind Class.first? = some name := by
  rw [isObject, Option.isSome_iff_exists]
  constructor
  · rintro ⟨c, carries⟩
    obtain ⟨name, rest, names⟩ := List.exists_cons_of_ne_nil (classed [] x c rfl carries)
    refine ⟨name, ?_⟩
    rw [carries, Option.bind_some, Class.first?, names]
    rfl
  · rintro ⟨name, first⟩
    obtain ⟨c, carries, _⟩ := Option.bind_eq_some_iff.mp first
    exact ⟨c, carries⟩

end WellClassed

end Value

namespace Blueprint

open Value

mutual

theorem build_classed (source : Blueprint) {supply after : Supply} {x : Value}
    (built : source.build supply = .ok (x, after)) : x.WellClassed := by
  cases source with
  | list elements =>
      rw [build] at built
      split at built
      · cases built
      · rename_i values middle inner
        rw [Except.ok.injEq, Prod.mk.injEq] at built
        obtain ⟨rfl, rfl⟩ := built
        refine (well_classed_iff _).mpr ⟨nofun, ?_⟩
        rintro _ ⟨rfl⟩
        exact build_all_classed elements inner
  | classed base cls =>
      rw [build] at built
      split at built
      · cases built
      · rename_i y middle inner
        obtain ⟨z, set, same⟩ := Outcome.ok_of_map built
        rw [Prod.mk.injEq] at same
        obtain ⟨rfl, rfl⟩ := same
        exact (build_classed base inner).set_class set
  | frozen base =>
      rw [build] at built
      split at built
      · cases built
      · rename_i y middle inner
        rw [Except.ok.injEq, Prod.mk.injEq] at built
        obtain ⟨rfl, rfl⟩ := built
        exact (build_classed base inner).freeze
  | _ =>
      rw [build, Except.ok.injEq, Prod.mk.injEq] at built
      obtain ⟨rfl, rfl⟩ := built
      exact well_classed_of_bare rfl rfl

theorem build_all_classed (sources : List Blueprint) {supply after : Supply} {xs : List Value}
    (built : buildAll sources supply = .ok (xs, after)) : ∀ x ∈ xs, x.WellClassed := by
  cases sources with
  | nil =>
      rw [buildAll, Except.ok.injEq, Prod.mk.injEq] at built
      obtain ⟨rfl, rfl⟩ := built
      exact nofun
  | cons first rest =>
      rw [buildAll] at built
      split at built
      · cases built
      · rename_i x middle head
        split at built
        · cases built
        · rename_i ys last tail
          rw [Except.ok.injEq, Prod.mk.injEq] at built
          obtain ⟨rfl, rfl⟩ := built
          exact List.forall_mem_cons.mpr ⟨build_classed first head, build_all_classed rest tail⟩

end

end Blueprint

end Taxon
