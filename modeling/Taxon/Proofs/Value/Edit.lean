import Mathlib.Data.List.InsertIdx
import Taxon.Proofs.Outcome
import Taxon.Proofs.Value.Vectors

/-!
What an edit does to the elements. An element that stays keeps what it is and only changes its
place, an edit brings in one element at most, and it reads neither the old elements nor the new
one: it commutes with every function on elements.
-/

set_option autoImplicit false

namespace Taxon

namespace Edit

variable {α β : Type}

def map (f : α → β) : Edit α → Edit β
  | .set index element => .set index (f element)
  | .push element => .push (f element)
  | .pop => .pop
  | .clear => .clear
  | .reverse => .reverse
  | .insert index element => .insert index (f element)
  | .touch => .touch

/-- Where an element stands after the edit, unless it is replaced or taken out. -/
def place? (length place : Nat) : Edit α → Option Nat
  | .set index _ => if place = index then none else some place
  | .push _ => some place
  | .pop => if place + 1 < length then some place else none
  | .clear => none
  | .reverse => some (length - 1 - place)
  | .insert index _ => some (if place < index then place else place + 1)
  | .touch => some place

/-- Where the element that an edit brings stands afterwards. -/
def arrival? (length : Nat) : Edit α → Option Nat
  | .set index _ => some index
  | .push _ => some length
  | .insert index _ => some index
  | .pop | .clear | .reverse | .touch => none

theorem place_map_element (read : α → Option β) {edit : Edit α} {typed : Edit β}
    (readable : edit.mapElement? read = some typed) (length place : Nat) :
    typed.place? length place = edit.place? length place := by
  cases edit <;> simp only [mapElement?, Option.map_eq_some_iff, Option.some.injEq] at readable
  case set | push | insert =>
    obtain ⟨element, _, rfl⟩ := readable
    rfl
  all_goals
    rw [← readable]
    rfl

theorem arrival_map_element (read : α → Option β) {edit : Edit α} {typed : Edit β}
    (readable : edit.mapElement? read = some typed) (length : Nat) :
    typed.arrival? length = edit.arrival? length ∧
      edit.element?.bind read = typed.element? := by
  cases edit <;> simp only [mapElement?, Option.map_eq_some_iff, Option.some.injEq] at readable
  case set | push | insert =>
    obtain ⟨element, isRead, rfl⟩ := readable
    exact ⟨rfl, isRead⟩
  all_goals
    rw [← readable]
    exact ⟨rfl, rfl⟩

theorem mem_apply {edit : Edit α} {xs ys : List α} (applied : edit.apply xs = .ok ys) :
    ∀ y ∈ ys, y ∈ xs ∨ edit.element? = some y := by
  intro y member
  cases edit with
  | set index element =>
      simp only [apply] at applied
      split_ifs at applied
      rw [Except.ok.injEq] at applied
      rw [← applied] at member
      rcases List.mem_or_eq_of_mem_set member with old | rfl
      · exact .inl old
      · exact .inr rfl
  | insert index element =>
      simp only [apply] at applied
      split_ifs at applied with inside
      rw [Except.ok.injEq] at applied
      rw [← applied, List.mem_insertIdx inside] at member
      rcases member with rfl | old
      · exact .inr rfl
      · exact .inl old
  | push element =>
      rw [apply, Except.ok.injEq] at applied
      rw [← applied, List.mem_append, List.mem_singleton] at member
      rcases member with old | rfl
      · exact .inl old
      · exact .inr rfl
  | pop =>
      rw [apply, Except.ok.injEq] at applied
      rw [← applied] at member
      exact .inl (List.dropLast_subset xs member)
  | clear =>
      rw [apply, Except.ok.injEq] at applied
      rw [← applied] at member
      cases member
  | reverse =>
      rw [apply, Except.ok.injEq] at applied
      rw [← applied] at member
      exact .inl (List.mem_reverse.mp member)
  | touch =>
      rw [apply, Except.ok.injEq] at applied
      rw [← applied] at member
      exact .inl member

theorem apply_place {edit : Edit α} {xs ys : List α} (applied : edit.apply xs = .ok ys)
    {place moved : Nat} (there : place < xs.length)
    (stays : edit.place? xs.length place = some moved) : ys[moved]? = xs[place]? := by
  cases edit with
  | set index element =>
      simp only [apply] at applied
      simp only [place?] at stays
      split_ifs at applied stays with inside other
      rw [Except.ok.injEq] at applied
      rw [Option.some.injEq] at stays
      rw [← applied, ← stays, List.getElem?_set_ne (Ne.symm other)]
  | insert index element =>
      simp only [apply] at applied
      split_ifs at applied with inside
      rw [Except.ok.injEq] at applied
      rw [place?, Option.some.injEq] at stays
      rw [← applied, ← stays]
      split_ifs with before
      · rw [List.getElem?_insertIdx_of_lt before]
      · rw [List.getElem?_insertIdx_of_gt (by omega), Nat.add_sub_cancel]
  | push element =>
      rw [apply, Except.ok.injEq] at applied
      rw [place?, Option.some.injEq] at stays
      rw [← applied, ← stays, List.getElem?_append_left there]
  | pop =>
      rw [apply, Except.ok.injEq] at applied
      simp only [place?] at stays
      split_ifs at stays with before
      rw [Option.some.injEq] at stays
      rw [← applied, ← stays, List.getElem?_dropLast, if_pos (by omega)]
  | clear => simp [place?] at stays
  | reverse =>
      rw [apply, Except.ok.injEq] at applied
      rw [place?, Option.some.injEq] at stays
      rw [← applied, ← stays, List.getElem?_reverse (by omega)]
      congr 1
      omega
  | touch =>
      rw [apply, Except.ok.injEq] at applied
      rw [place?, Option.some.injEq] at stays
      rw [← applied, ← stays]

theorem apply_arrival {edit : Edit α} {xs ys : List α} (applied : edit.apply xs = .ok ys)
    {place : Nat} (arrives : edit.arrival? xs.length = some place) :
    ys[place]? = edit.element? := by
  cases edit with
  | set index element =>
      simp only [apply] at applied
      split_ifs at applied with inside
      rw [Except.ok.injEq] at applied
      rw [arrival?, Option.some.injEq] at arrives
      rw [← applied, ← arrives, List.getElem?_set_self inside]
      rfl
  | insert index element =>
      simp only [apply] at applied
      split_ifs at applied with inside
      rw [Except.ok.injEq] at applied
      rw [arrival?, Option.some.injEq] at arrives
      rw [← applied, ← arrives, List.getElem?_insertIdx_self, if_pos inside]
      rfl
  | push element =>
      rw [apply, Except.ok.injEq] at applied
      rw [arrival?, Option.some.injEq] at arrives
      rw [← applied, ← arrives, List.getElem?_concat_length]
      rfl
  | _ => simp [arrival?] at arrives

theorem apply_map (f : α → β) (edit : Edit α) (xs : List α) :
    (edit.map f).apply (xs.map f) = (edit.apply xs).map (List.map f) := by
  cases edit with
  | set index element =>
      simp only [map, apply, List.length_map]
      split_ifs <;> simp [Except.map, List.map_set]
  | insert index element =>
      simp only [map, apply, List.length_map]
      split_ifs <;> simp [Except.map, List.map_insertIdx]
  | _ => simp [map, apply, Except.map]

theorem map_element_map {γ : Type} (f : α → β) (read : β → Option γ) (edit : Edit α) :
    (edit.map f).mapElement? read = edit.mapElement? fun element => read (f element) := by
  cases edit <;> rfl

theorem map_element_of_map {γ : Type} (read : α → Option β) (f : β → γ) (edit : Edit α) :
    (edit.mapElement? fun element => (read element).map f) =
      (edit.mapElement? read).map (Edit.map f) := by
  cases edit <;> simp only [mapElement?, Option.map_map, Option.map_some] <;> rfl

end Edit

theorem ElementOf.eq_of_value {α : Type} {element : ElementOf α} {x : α}
    (isValue : element.value? = some x) : element = .value x := by
  cases element <;> simp only [value?, reduceCtorEq, Option.some.injEq] at isValue
  rw [isValue]

namespace ContentsOf

theorem edit_values {α : Type} {edit : Edit (ElementOf α)} {xs : List α}
    {written : ContentsOf α} (edited : (values xs).edit edit = .ok written) :
    ∃ typed ys, edit.mapElement? ElementOf.value? = some typed ∧ typed.apply xs = .ok ys ∧
      written = .values ys := by
  obtain ⟨ys, applied, rfl⟩ := Outcome.ok_of_map edited
  simp only [Edit.applyAs] at applied
  cases readable : edit.mapElement? ElementOf.value? with
  | none => simp [readable] at applied
  | some typed =>
      rw [readable] at applied
      exact ⟨typed, ys, rfl, Outcome.ok_of_map_error applied, rfl⟩

theorem edit_atoms {α : Type} {edit : Edit (ElementOf α)} {elements : Atoms}
    {written : ContentsOf α} (edited : (atoms elements).edit edit = .ok written) :
    ∃ rewritten, written = .atoms rewritten := by
  cases elements
  all_goals
    obtain ⟨_, _, same⟩ := Outcome.ok_of_map edited
    exact ⟨_, same.symm⟩

variable {edit : Edit Element} {contents written : Contents}

theorem mem_edit {xs : List Value} (edited : (values xs).edit edit = .ok written) :
    ∃ ys, written = .values ys ∧ ∀ y ∈ ys, y ∈ xs ∨ edit.element? = some (.value y) := by
  obtain ⟨typed, ys, readable, applied, rfl⟩ := edit_values edited
  refine ⟨ys, rfl, fun y member => ?_⟩
  rcases Edit.mem_apply applied y member with old | brought
  · exact .inl old
  · have arrives := (Edit.arrival_map_element _ readable 0).2
    rw [brought, Option.bind_eq_some_iff] at arrives
    rcases arrives with ⟨element, isElement, isValue⟩
    rw [isElement, ElementOf.eq_of_value isValue]
    exact .inr rfl

theorem inner_edit (edited : contents.edit edit = .ok written) :
    ∀ v ∈ written.inner, v ∈ contents.inner ∨
      ∃ x, edit.element? = some (.value x) ∧ v ∈ x.vectors := by
  intro v inside
  cases contents with
  | atoms elements =>
      obtain ⟨rewritten, rfl⟩ := edit_atoms edited
      cases inside
  | values xs =>
      obtain ⟨ys, rfl, origin⟩ := mem_edit edited
      simp only [inner, List.mem_flatMap] at inside ⊢
      obtain ⟨y, member, inY⟩ := inside
      rcases origin y member with old | brought
      · exact .inl ⟨y, old, inY⟩
      · exact .inr ⟨y, brought, inY⟩

theorem at_atoms (elements : Atoms) (header : Header) (place : Nat) (path : List Nat) :
    ((atoms elements).under header).at? (place :: path) = none := rfl

/-- What stood behind an element that stays is found behind its new place. -/
theorem at_edit (edited : contents.edit edit = .ok written) {header styled : Header}
    {place moved : Nat} (there : place < (contents.under header).length)
    (stays : edit.place? (contents.under header).length place = some moved) (path : List Nat) :
    (written.under styled).at? (moved :: path) = (contents.under header).at? (place :: path) := by
  cases contents with
  | atoms elements =>
      rcases edit_atoms edited with ⟨rewritten, rfl⟩
      rw [at_atoms, at_atoms]
  | values xs =>
      rcases edit_values edited with ⟨typed, ys, readable, applied, rfl⟩
      rw [under, Value.length, ← Edit.place_map_element _ readable] at stays
      have again := Edit.apply_place applied there stays
      simp [under, Value.at?, Value.asList?, again]

theorem at_arrival (edited : contents.edit edit = .ok written) {header styled : Header}
    {place : Nat} {x : Value} (brings : edit.element? = some (.value x))
    (arrives : edit.arrival? (contents.under header).length = some place) (path : List Nat) :
    (written.under styled).at? (place :: path) = x.at? path := by
  cases contents with
  | atoms elements =>
      cases elements
      all_goals
        cases edit <;> simp only [Edit.element?, Option.some.injEq, reduceCtorEq] at brings
        all_goals
          subst brings
          simp [ContentsOf.edit, Edit.applyAs, Edit.mapElement?, ElementOf.logical?,
            ElementOf.integer?, ElementOf.double?, ElementOf.complex?, ElementOf.character?,
            ElementOf.raw?, Except.map] at edited
  | values xs =>
      obtain ⟨typed, ys, readable, applied, rfl⟩ := edit_values edited
      obtain ⟨sameArrival, sameElement⟩ := Edit.arrival_map_element _ readable xs.length
      rw [brings] at sameElement
      rw [under, Value.length, ← sameArrival] at arrives
      have found := Edit.apply_arrival applied arrives
      rw [← sameElement] at found
      simp [under, Value.at?, Value.asList?, found, ElementOf.value?]

/-- Edits see the elements of a list only as they are: an edit commutes with a function on them. -/
theorem edit_map {α β : Type} (f : α → β) (edit : Edit (ElementOf α)) (contents : ContentsOf α) :
    (contents.map f).edit (edit.map (ElementOf.map f)) =
      (contents.edit edit).map (ContentsOf.map f) := by
  -- An atomic vector of any type: its elements are read before and after the function alike.
  have atomic {γ : Type} (shape : List γ → Atoms) (read : ElementOf α → Option γ)
      (again : ElementOf β → Option γ) (agree : ∀ element, again (element.map f) = read element)
      (xs : List γ) :
      ((edit.map (ElementOf.map f)).applyAs again xs).map (fun ys => atoms (shape ys)) =
        ((edit.applyAs read xs).map fun ys => atoms (shape ys)).map (ContentsOf.map f) := by
    have same : (edit.map (ElementOf.map f)).applyAs again xs = edit.applyAs read xs := by
      simp only [Edit.applyAs, Edit.map_element_map, agree]
    rw [same]
    cases edit.applyAs read xs <;> rfl
  have readsValue : (edit.map (ElementOf.map f)).mapElement? ElementOf.value? =
      (edit.mapElement? ElementOf.value?).map (Edit.map f) := by
    rw [Edit.map_element_map, ← Edit.map_element_of_map]
    congr 1
    funext element
    cases element <;> rfl
  cases contents with
  | values xs =>
      simp only [ContentsOf.map, ContentsOf.edit, Edit.applyAs, readsValue]
      cases edit.mapElement? ElementOf.value? with
      | none => rfl
      | some typed =>
          simp only [Option.map_some, Edit.apply_map]
          cases typed.apply xs <;> rfl
  | atoms elements =>
      cases elements with
      | logical xs => exact atomic .logical _ _ (fun element => by cases element <;> rfl) xs
      | integer xs => exact atomic .integer _ _ (fun element => by cases element <;> rfl) xs
      | double xs => exact atomic .double _ _ (fun element => by cases element <;> rfl) xs
      | complex xs => exact atomic .complex _ _ (fun element => by cases element <;> rfl) xs
      | character xs => exact atomic .character _ _ (fun element => by cases element <;> rfl) xs
      | raw xs => exact atomic .raw _ _ (fun element => by cases element <;> rfl) xs

end ContentsOf

end Taxon
