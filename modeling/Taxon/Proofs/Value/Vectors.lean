import Mathlib.Data.List.Nodup
import Taxon.Value.Edit

/-!
The vectors inside a value. A value shows its vectors twice: as one list, outermost first, and by
path through the elements of lists. What a storage is and who lives in it is read off the list;
what a reader can point at is named by a path.
-/

set_option autoImplicit false

namespace Taxon

namespace Value

/-- Induction over a value, with the hypothesis for every element of a list. -/
theorem induct {motive : Value → Prop} (null : motive .null)
    (atoms : ∀ elements header, motive (.atoms elements header))
    (list : ∀ elements header, (∀ x ∈ elements, motive x) → motive (.list elements header))
    (function : ∀ name arity cls, motive (.function name arity cls))
    (environment : ∀ name cls, motive (.environment name cls))
    (symbol : ∀ name, motive (.symbol name)) (foreign : ∀ pointer, motive (.foreign pointer))
    (x : Value) : motive x := by
  refine Value.rec (motive_1 := motive) (motive_2 := fun xs => ∀ x ∈ xs, motive x) null atoms list
    function environment symbol foreign ?_ ?_ x
  · intro x member
    cases member
  · intro head tail headHolds tailHold x member
    rcases List.mem_cons.mp member with same | inTail
    · rw [same]
      exact headHolds
    · exact tailHold x inTail

mutual

/-- The vectors inside a value, the value itself first if it is one. -/
def vectors : Value → List (Contents × Header)
  | .atoms elements header => [(.atoms elements, header)]
  | .list elements header => (.values elements, header) :: vectorsOfAll elements
  | _ => []

def vectorsOfAll : List Value → List (Contents × Header)
  | [] => []
  | x :: xs => vectors x ++ vectorsOfAll xs

end

/-- The value that a path leads to: each step goes to an element of a list. -/
def at? (x : Value) : List Nat → Option Value
  | [] => some x
  | place :: path => (x.asList?.bind fun xs => xs[place]?).bind fun y => y.at? path

theorem vectors_of_all (xs : List Value) : vectorsOfAll xs = xs.flatMap vectors := by
  induction xs with
  | nil => rfl
  | cons x xs induction => simp [vectorsOfAll, induction]

theorem storages_of_all (xs : List Value) : storagesOfAll xs = xs.flatMap storages := by
  induction xs with
  | nil => rfl
  | cons x xs induction => simp [storagesOfAll, induction]

theorem overwrite_all (storage : Nat) (contents : Contents) (xs : List Value) :
    overwriteAll storage contents xs = xs.map (overwrite storage contents) := by
  induction xs with
  | nil => rfl
  | cons x xs induction => simp [overwriteAll, induction]

theorem storages_eq_vectors (x : Value) : x.storages = x.vectors.map fun v => v.2.storage := by
  induction x using induct with
  | list elements header induction =>
      simp only [storages, vectors, storages_of_all, vectors_of_all, List.map_cons,
        List.map_flatMap]
      exact congrArg _ (List.flatMap_congr induction)
  | _ => simp [storages, vectors]

theorem mem_storages_of_vectors {x : Value} {v : Contents × Header} (inside : v ∈ x.vectors) :
    v.2.storage ∈ x.storages := by
  rw [storages_eq_vectors]
  exact List.mem_map_of_mem inside

theorem exists_vector_of_storage {x : Value} {storage : Nat} (lives : storage ∈ x.storages) :
    ∃ v ∈ x.vectors, v.2.storage = storage := by
  rw [storages_eq_vectors] at lives
  exact List.mem_map.mp lives

/-- A write in place passes by every value that does not live in the storage. -/
theorem overwrite_elsewhere {storage : Nat} {contents : Contents} (x : Value)
    (elsewhere : storage ∉ x.storages) : x.overwrite storage contents = x := by
  induction x using induct with
  | atoms elements header =>
      have other : header.storage ≠ storage := by
        intro same
        exact elsewhere (by simp [storages, same])
      simp [overwrite, other]
  | list elements header induction =>
      simp only [storages, storages_of_all, List.mem_cons, List.mem_flatMap, not_or,
        not_exists, not_and] at elsewhere
      obtain ⟨other, inner⟩ := elsewhere
      have kept : elements.map (overwrite storage contents) = elements := by
        conv_rhs => rw [← List.map_id elements]
        exact List.map_congr_left fun x member => induction x member (inner x member)
      simp [overwrite, Ne.symm other, overwrite_all, kept]
  | _ => simp [overwrite]

theorem overwrite_under (header : Header) (contents written : Contents) :
    (contents.under header).overwrite header.storage written = written.under header := by
  cases contents <;> simp [ContentsOf.under, overwrite]

end Value

namespace ContentsOf

def inner : Contents → List (Contents × Header)
  | .atoms _ => []
  | .values elements => elements.flatMap Value.vectors

theorem vectors_under (header : Header) (contents : Contents) :
    (contents.under header).vectors = (contents, header) :: contents.inner := by
  cases contents <;> simp [under, inner, Value.vectors, Value.vectors_of_all]

theorem vector_under (header : Header) (contents : Contents) :
    (contents.under header).vector? = some (contents, header) := by
  cases contents <;> rfl

theorem mutable_under (header : Header) (contents : Contents) :
    (contents.under header).isMutable = header.isMutable := by
  cases contents <;> simp [under, Value.isMutable, Value.header?]

end ContentsOf

namespace Value

theorem eq_under_of_vector {x : Value} {contents : Contents} {header : Header}
    (vector : x.vector? = some (contents, header)) : x = contents.under header := by
  cases x <;> simp only [vector?, Option.some.injEq, Prod.mk.injEq, reduceCtorEq] at vector
  all_goals
    obtain ⟨rfl, rfl⟩ := vector
    rfl

theorem vectors_of_no_vector {x : Value} (absent : x.vector? = none) : x.vectors = [] := by
  cases x <;> simp_all [vector?, vectors]

theorem vector_mem_vectors {x : Value} {v : Contents × Header} (vector : x.vector? = some v) :
    v ∈ x.vectors := by
  rw [eq_under_of_vector vector, ContentsOf.vectors_under]
  exact List.mem_cons_self

theorem at_cons {x y : Value} {place : Nat} {path : List Nat}
    (found : x.at? (place :: path) = some y) :
    ∃ elements header element, x = .list elements header ∧ elements[place]? = some element ∧
      element.at? path = some y := by
  simp only [at?, Option.bind_eq_some_iff] at found
  obtain ⟨element, ⟨elements, isList, standing⟩, rest⟩ := found
  cases x <;> simp only [asList?, reduceCtorEq, Option.some.injEq] at isList
  subst isList
  exact ⟨_, _, element, rfl, standing, rest⟩

theorem vectors_at {x y : Value} {path : List Nat} (found : x.at? path = some y) :
    ∀ v ∈ y.vectors, v ∈ x.vectors := by
  induction path generalizing x with
  | nil =>
      intro v inside
      rw [at?, Option.some.injEq] at found
      rw [found]
      exact inside
  | cons place path induction =>
      obtain ⟨elements, header, element, rfl, standing, rest⟩ := at_cons found
      intro v inside
      simp only [vectors, vectors_of_all, List.mem_cons, List.mem_flatMap]
      exact .inr ⟨element, List.mem_of_getElem? standing, induction rest v inside⟩

theorem at_append (x : Value) (path rest : List Nat) :
    x.at? (path ++ rest) = (x.at? path).bind fun y => y.at? rest := by
  induction path generalizing x with
  | nil => rfl
  | cons place path induction =>
      simp only [List.cons_append, at?, induction, Option.bind_assoc]

def cell? (x : Value) : Option (Contents × Nat) := x.vector?.map fun v => (v.1, v.2.storage)

end Value

end Taxon
