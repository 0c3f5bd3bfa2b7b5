import Taxon.Proofs.Value.Edit

/-!
Vectors of every type as lists of tagged elements. An edit whose element is of the vector's type
does to the tagged elements what it does to a list; every other edit is refused for its element.
-/

set_option autoImplicit false

namespace Taxon

namespace Edit

variable {α β : Type}

theorem eq_map_of_readable {read : α → Option β} {wrap : β → α}
    (tagged : ∀ element x, read element = some x ↔ element = wrap x) {edit : Edit α}
    {typed : Edit β} (readable : edit.mapElement? read = some typed) : edit = typed.map wrap := by
  cases edit <;> simp only [mapElement?, Option.map_eq_some_iff, Option.some.injEq] at readable
  case set | push | insert =>
    obtain ⟨x, isRead, rfl⟩ := readable
    rw [(tagged _ x).mp isRead]
    rfl
  all_goals
    rw [← readable]
    rfl

theorem map_element_is_some (read : α → Option β) (edit : Edit α) :
    (edit.mapElement? read).isSome = edit.element?.all fun element => (read element).isSome := by
  cases edit with
  | set | push | insert => simp only [mapElement?, element?, Option.isSome_map, Option.all_some]
  | _ => rfl

end Edit

namespace ContentsOf

variable {α : Type}

def elements : ContentsOf α → List (ElementOf α)
  | .atoms (.logical xs) => xs.map .logical
  | .atoms (.integer xs) => xs.map .integer
  | .atoms (.double xs) => xs.map .double
  | .atoms (.complex xs) => xs.map .complex
  | .atoms (.character xs) => xs.map .character
  | .atoms (.raw xs) => xs.map .raw
  | .values xs => xs.map .value

def admits (element : ElementOf α) : ContentsOf α → Bool
  | .atoms (.logical _) => element.logical?.isSome
  | .atoms (.integer _) => element.integer?.isSome
  | .atoms (.double _) => element.double?.isSome
  | .atoms (.complex _) => element.complex?.isSome
  | .atoms (.character _) => element.character?.isSome
  | .atoms (.raw _) => element.raw?.isSome
  | .values _ => element.value?.isSome

/-- Contents of the same type with other elements; an element of another type is left out. -/
def refilled (elements : List (ElementOf α)) : ContentsOf α → ContentsOf α
  | .atoms (.logical _) => .atoms (.logical (elements.filterMap ElementOf.logical?))
  | .atoms (.integer _) => .atoms (.integer (elements.filterMap ElementOf.integer?))
  | .atoms (.double _) => .atoms (.double (elements.filterMap ElementOf.double?))
  | .atoms (.complex _) => .atoms (.complex (elements.filterMap ElementOf.complex?))
  | .atoms (.character _) => .atoms (.character (elements.filterMap ElementOf.character?))
  | .atoms (.raw _) => .atoms (.raw (elements.filterMap ElementOf.raw?))
  | .values _ => .values (elements.filterMap ElementOf.value?)

/-- A type of elements: how a tagged element is read as one and tagged again, and the contents of
such elements. -/
structure Typing (α : Type) where
  Untagged : Type
  read : ElementOf α → Option Untagged
  wrap : Untagged → ElementOf α
  shape : List Untagged → ContentsOf α
  tagged : ∀ element x, read element = some x ↔ element = wrap x
  elements_shape : ∀ xs, (shape xs).elements = xs.map wrap := by intros; rfl
  admits_shape : ∀ xs element, (shape xs).admits element = (read element).isSome := by intros; rfl
  edit_shape : ∀ xs edit, (shape xs).edit edit = (edit.applyAs read xs).map shape := by intros; rfl
  refilled_shape : ∀ xs elements, (shape xs).refilled elements = shape (elements.filterMap read) :=
    by intros; rfl

/-- Elements are of one of seven types, and nothing below depends on which. -/
theorem exists_typing (contents : ContentsOf α) :
    ∃ (typing : Typing α) (xs : List typing.Untagged), contents = typing.shape xs := by
  cases contents with
  | values xs =>
      exact ⟨{ Untagged := α, read := ElementOf.value?, wrap := .value, shape := .values,
               tagged := fun e x => by cases e <;> simp [ElementOf.value?] }, xs, rfl⟩
  | atoms elements =>
      cases elements with
      | logical xs =>
          exact ⟨{ Untagged := Option Bool, read := ElementOf.logical?, wrap := .logical,
                   shape := fun xs => .atoms (.logical xs),
                   tagged := fun e x => by cases e <;> simp [ElementOf.logical?] }, xs, rfl⟩
      | integer xs =>
          exact ⟨{ Untagged := Option Int32, read := ElementOf.integer?, wrap := .integer,
                   shape := fun xs => .atoms (.integer xs),
                   tagged := fun e x => by cases e <;> simp [ElementOf.integer?] }, xs, rfl⟩
      | double xs =>
          exact ⟨{ Untagged := Binary64, read := ElementOf.double?, wrap := .double,
                   shape := fun xs => .atoms (.double xs),
                   tagged := fun e x => by cases e <;> simp [ElementOf.double?] }, xs, rfl⟩
      | complex xs =>
          exact ⟨{ Untagged := Complex, read := ElementOf.complex?, wrap := .complex,
                   shape := fun xs => .atoms (.complex xs),
                   tagged := fun e x => by cases e <;> simp [ElementOf.complex?] }, xs, rfl⟩
      | character xs =>
          exact ⟨{ Untagged := Option String, read := ElementOf.character?, wrap := .character,
                   shape := fun xs => .atoms (.character xs),
                   tagged := fun e x => by cases e <;> simp [ElementOf.character?] }, xs, rfl⟩
      | raw xs =>
          exact ⟨{ Untagged := UInt8, read := ElementOf.raw?, wrap := .raw,
                   shape := fun xs => .atoms (.raw xs),
                   tagged := fun e x => by cases e <;> simp [ElementOf.raw?] }, xs, rfl⟩

namespace Typing

variable (typing : Typing α) (xs : List typing.Untagged)

theorem refilled_tagged (ys : List typing.Untagged) :
    (typing.shape xs).refilled (ys.map typing.wrap) = typing.shape ys := by
  have same : typing.read ∘ typing.wrap = some :=
    funext fun x => (typing.tagged (typing.wrap x) x).mpr rfl
  rw [refilled_shape, List.filterMap_map, same, List.filterMap_some]

theorem edit_readable {edit : Edit (ElementOf α)} {typed : Edit typing.Untagged}
    (readable : edit.mapElement? typing.read = some typed) :
    (typing.shape xs).edit edit = ((typed.apply xs).map typing.shape).mapError .refused := by
  simp only [edit_shape, Edit.applyAs, readable]
  cases typed.apply xs <;> rfl

end Typing

theorem elements_edit {edit : Edit (ElementOf α)} {contents : ContentsOf α}
    (admitted : ∀ element, edit.element? = some element → contents.admits element = true) :
    (contents.edit edit).map elements = (edit.apply contents.elements).mapError .refused := by
  obtain ⟨typing, xs, rfl⟩ := contents.exists_typing
  simp only [typing.admits_shape] at admitted
  have isSome : (edit.mapElement? typing.read).isSome = true := by
    rw [Edit.map_element_is_some, Option.all_eq_true]
    exact admitted
  obtain ⟨typed, readable⟩ := Option.isSome_iff_exists.mp isSome
  obtain rfl := Edit.eq_map_of_readable typing.tagged readable
  rw [typing.edit_readable xs readable, typing.elements_shape, Edit.apply_map]
  cases typed.apply xs with
  | error fault => rfl
  | ok ys => exact congrArg Except.ok (typing.elements_shape ys)

section Set

variable {contents : ContentsOf α} {element : ElementOf α} {index : Nat}

theorem elements_set (admitted : contents.admits element = true) (index : Nat) :
    (contents.edit (.set index element)).map elements =
      (Edit.apply (.set index element) contents.elements).mapError .refused := by
  apply elements_edit
  intro brought isElement
  rw [← Option.some.inj isElement]
  exact admitted

theorem edit_set_outside (admitted : contents.admits element = true)
    (outside : contents.elements.length ≤ index) :
    contents.edit (.set index element) =
      .error (.refused (.bounds index contents.elements.length)) := by
  have applied := elements_set admitted index
  rw [Edit.apply, if_neg (Nat.not_lt.mpr outside)] at applied
  exact Outcome.error_of_map applied

/-- Within the bounds one element is replaced and every other one stays at its place. -/
theorem edit_set_inside (admitted : contents.admits element = true)
    (inside : index < contents.elements.length) :
    ∃ written, contents.edit (.set index element) = .ok written ∧
      written.elements = contents.elements.set index element := by
  have applied := elements_set admitted index
  rw [Edit.apply, if_pos inside] at applied
  exact Outcome.ok_of_map applied

end Set

theorem element_under (contents : Contents) (header : Header) (place : Nat) :
    (contents.under header).element? place = contents.elements[place]? := by
  cases contents with
  | values xs => simp [under, Value.element?, elements]
  | atoms elements =>
      cases elements <;> simp [under, Value.element?, ContentsOf.elements]

theorem length_under (contents : Contents) (header : Header) :
    (contents.under header).length = contents.elements.length := by
  cases contents with
  | values xs => simp [under, Value.length, elements]
  | atoms elements =>
      cases elements <;> simp [under, Value.length, Atoms.length, ContentsOf.elements]

theorem cls_under (contents : Contents) (header : Header) :
    (contents.under header).cls? = header.cls := by
  cases contents <;> rfl

end ContentsOf

end Taxon
