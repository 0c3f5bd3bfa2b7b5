import Taxon.Proofs.Value.Elements
import Taxon.Value.Blueprint

/-!
Plain values: values without storage. Nothing is shared between two plain values, so a copy of one
is independent of it from the start. Every operation on values has a plain counterpart that is
defined by itself, and reading a value as a plain one commutes with all of them.
-/

set_option autoImplicit false

namespace Taxon

/-- What a vector carries besides its elements and their storage. -/
structure Marks where
  cls : Option Class
  isMutable : Bool
deriving DecidableEq, Inhabited

inductive Plain where
  | null
  | atoms (elements : Atoms) (marks : Marks)
  | list (elements : List Plain) (marks : Marks)
  | function (name : String) (arity : Nat) (cls : Option Class)
  | environment (name : String) (cls : Option Class)
  | symbol (name : String)
  | foreign (pointer : ForeignPointer)
deriving Inhabited

def Header.marks (header : Header) : Marks := ⟨header.cls, header.isMutable⟩

/-- What an edit leaves of a list, put together from what stands in front of a place and behind it.
-/
def Edit.splice {α : Type} : Edit α → List α → Except Value.Fault (List α)
  | .set index element, xs =>
      match xs.drop index with
      | [] => .error (.bounds index xs.length)
      | _ :: behind => .ok (xs.take index ++ element :: behind)
  | .push element, xs => .ok (xs ++ [element])
  | .pop, xs => .ok (xs.take (xs.length - 1))
  | .clear, _ => .ok []
  | .reverse, xs => .ok (xs.foldl (fun behind x => x :: behind) [])
  | .insert index element, xs =>
      if xs.length < index then .error (.bounds index xs.length)
      else .ok (xs.take index ++ element :: xs.drop index)
  | .touch, xs => .ok xs

namespace ContentsOf

variable {α : Type}

/-- An edit of tagged elements. The type of the new element is looked at first. -/
def spliced (contents : ContentsOf α) (edit : Edit (ElementOf α)) :
    Except EditFault (ContentsOf α) :=
  if edit.element?.all fun element => contents.admits element then
    match edit.splice contents.elements with
    | .error fault => .error (.refused fault)
    | .ok elements => .ok (contents.refilled elements)
  else .error .elementType

end ContentsOf

def ContentsOf.marked (marks : Marks) : ContentsOf Plain → Plain
  | .atoms elements => .atoms elements marks
  | .values elements => .list elements marks

namespace Plain

def vector? : Plain → Option (ContentsOf Plain × Marks)
  | .atoms elements marks => some (.atoms elements, marks)
  | .list elements marks => some (.values elements, marks)
  | _ => none

def asList? : Plain → Option (List Plain)
  | .list elements _ => some elements
  | _ => none

def typeName : Plain → String
  | .null => "NULL"
  | .atoms elements _ => elements.typeName
  | .list _ _ => "list"
  | .function _ _ _ => "closure"
  | .environment _ _ => "environment"
  | .symbol _ => "symbol"
  | .foreign _ => "externalptr"

def freeze : Plain → Plain
  | .atoms elements marks => .atoms elements { marks with isMutable := false }
  | .list elements marks => .list elements { marks with isMutable := false }
  | x => x

def named? : Option Class → Option Class
  | some ⟨first :: rest⟩ => some ⟨first :: rest⟩
  | some ⟨[]⟩ | none => none

def setClass (x : Plain) (requested : Option Class) : Except Value.Fault Plain :=
  let cls := named? requested
  match x with
  | .atoms elements marks => .ok (.atoms elements { marks with cls := cls })
  | .list elements marks => .ok (.list elements { marks with cls := cls })
  | .function name arity _ => .ok (.function name arity cls)
  | .environment name _ => .ok (.environment name cls)
  | .null | .symbol _ | .foreign _ =>
      .error (.typeMismatch ("cannot set a class attribute on " ++ x.typeName))

theorem named_eq_carried (requested : Option Class) :
    named? requested = Class.carried requested := by
  rcases requested with _ | ⟨_ | ⟨first, rest⟩⟩ <;> rfl

end Plain

theorem insert_idx_eq_split {α : Type} (element : α) {xs : List α} {index : Nat}
    (inside : index ≤ xs.length) :
    xs.insertIdx index element = xs.take index ++ element :: xs.drop index := by
  induction xs generalizing index with
  | nil =>
      obtain rfl := Nat.le_zero.mp inside
      rfl
  | cons x xs induction =>
      cases index with
      | zero => rfl
      | succ index =>
          rw [List.insertIdx_succ_cons, induction (Nat.le_of_succ_le_succ inside),
            List.take_succ_cons, List.drop_succ_cons, List.cons_append]

theorem Edit.splice_eq_apply {α : Type} (edit : Edit α) (xs : List α) :
    edit.splice xs = edit.apply xs := by
  cases edit with
  | set index element =>
      rw [splice, apply]
      split_ifs with inside
      · rw [List.drop_eq_getElem_cons inside, List.set_eq_take_append_cons_drop, if_pos inside]
      · rw [List.drop_eq_nil_of_le (Nat.not_lt.mp inside)]
  | insert index element =>
      rw [splice, apply]
      split_ifs with outside inside inside
      · omega
      · rfl
      · rw [insert_idx_eq_split element inside]
      · omega
  | pop => rw [splice, apply, List.dropLast_eq_take]
  | reverse => rw [splice, apply, List.foldl_flip_cons_eq_append', List.append_nil]
  | _ => rfl

namespace Value

mutual

/-- The value as a reader sees it. -/
def plain : Value → Plain
  | .null => .null
  | .atoms elements header => .atoms elements header.marks
  | .list elements header => .list (plainOfAll elements) header.marks
  | .function name arity cls => .function name arity cls
  | .environment name cls => .environment name cls
  | .symbol name => .symbol name
  | .foreign pointer => .foreign pointer

def plainOfAll : List Value → List Plain
  | [] => []
  | x :: xs => plain x :: plainOfAll xs

end

theorem plain_of_all (xs : List Value) : plainOfAll xs = xs.map plain := by
  induction xs with
  | nil => rfl
  | cons x xs induction => rw [plainOfAll, induction, List.map_cons]

theorem plain_list (elements : List Value) (header : Header) :
    (list elements header).plain = .list (elements.map plain) header.marks := by
  rw [plain, plain_of_all]

theorem plain_under (contents : Contents) (header : Header) :
    (contents.under header).plain = (contents.map plain).marked header.marks := by
  cases contents with
  | atoms elements => rfl
  | values elements => exact plain_list elements header

theorem vector_plain (x : Value) :
    x.plain.vector? = x.vector?.map fun v => (v.1.map plain, v.2.marks) := by
  cases x with
  | list elements header =>
      rw [plain_list]
      rfl
  | _ => rfl

theorem as_list_plain (x : Value) : x.plain.asList? = x.asList?.map (List.map plain) := by
  cases x with
  | list elements header =>
      rw [plain_list]
      rfl
  | _ => rfl

theorem freeze_plain (x : Value) : x.freeze.plain = x.plain.freeze := by
  cases x with
  | list elements header =>
      rw [freeze, plain_list, plain_list]
      rfl
  | _ => rfl

theorem set_class_plain (x : Value) (requested : Option Class) :
    (x.setClass requested).map plain = x.plain.setClass requested := by
  have named := Plain.named_eq_carried requested
  cases x with
  | list elements header =>
      rw [setClass, Except.map, plain_list, plain_list, Header.setClass, Class.carried_carried,
        ← named]
      rfl
  | atoms elements header =>
      rw [setClass, Header.setClass, Class.carried_carried, ← named]
      rfl
  | function | environment =>
      rw [setClass, ← named]
      rfl
  | _ => rfl

end Value

namespace ContentsOf

variable {α β : Type}

theorem emptied_map (f : α → β) (contents : ContentsOf α) :
    (contents.map f).emptied = contents.emptied.map f := by
  cases contents <;> rfl

theorem refilled_nil (contents : ContentsOf α) : contents.refilled [] = contents.emptied := by
  cases contents with
  | values xs => rfl
  | atoms elements => cases elements <;> rfl

theorem spliced_eq_edit (contents : ContentsOf α) (edit : Edit (ElementOf α)) :
    contents.spliced edit = contents.edit edit := by
  obtain ⟨typing, xs, rfl⟩ := contents.exists_typing
  have admitted : (edit.element?.all fun element => (typing.shape xs).admits element) =
      (edit.mapElement? typing.read).isSome := by
    rw [Edit.map_element_is_some]
    simp only [typing.admits_shape]
  rw [spliced, admitted]
  cases readable : edit.mapElement? typing.read with
  | none => simp only [typing.edit_shape, Edit.applyAs, readable, Except.map, Option.isSome_none,
      Bool.false_eq_true, if_false]
  | some typed =>
      have tagged := Edit.eq_map_of_readable typing.tagged readable
      rw [typing.edit_readable xs readable, tagged, Edit.splice_eq_apply, typing.elements_shape,
        Edit.apply_map, if_pos Option.isSome_some]
      cases typed.apply xs with
      | error fault => rfl
      | ok ys => exact congrArg Except.ok (typing.refilled_tagged xs ys)

end ContentsOf

namespace Blueprint

mutual

/-- Builds a plain value; pointers take their names from `next` on. -/
def plain : Blueprint → Nat → Except Value.Fault (Plain × Nat)
  | .null, next => .ok (.null, next)
  | .atoms elements, next => .ok (.atoms elements ⟨none, true⟩, next)
  | .list elements, next =>
      match plainOfAll elements next with
      | .error fault => .error fault
      | .ok (xs, next) => .ok (.list xs ⟨none, true⟩, next)
  | .function name arity, next => .ok (.function name arity none, next)
  | .environment name, next => .ok (.environment name none, next)
  | .symbol name, next => .ok (.symbol name, next)
  | .foreign tag payload, next => .ok (.foreign ⟨tag, next, payload⟩, next + 1)
  | .classed base cls, next =>
      match plain base next with
      | .error fault => .error fault
      | .ok (x, next) => (x.setClass (some cls)).map fun y => (y, next)
  | .frozen base, next =>
      match plain base next with
      | .error fault => .error fault
      | .ok (x, next) => .ok (x.freeze, next)

def plainOfAll : List Blueprint → Nat → Except Value.Fault (List Plain × Nat)
  | [], next => .ok ([], next)
  | first :: rest, next =>
      match plain first next with
      | .error fault => .error fault
      | .ok (x, next) =>
          match plainOfAll rest next with
          | .error fault => .error fault
          | .ok (xs, next) => .ok (x :: xs, next)

end

mutual

/-- Building needs storage for nothing that a reader sees. -/
theorem build_plain (source : Blueprint) (supply : Supply) :
    (source.build supply).map (fun built => (built.1.plain, built.2.identity)) =
      source.plain supply.identity := by
  cases source with
  | list elements =>
      have inner := build_all_plain elements supply
      rw [build, plain, ← inner]
      cases buildAll elements supply with
      | error fault => rfl
      | ok built =>
          simp only [Except.map, Value.plain_list]
          rfl
  | classed base cls =>
      have inner := build_plain base supply
      rw [build, plain, ← inner]
      cases build base supply with
      | error fault => rfl
      | ok built =>
          simp only [Except.map, ← Value.set_class_plain]
          cases built.1.setClass (some cls) <;> rfl
  | frozen base =>
      have inner := build_plain base supply
      rw [build, plain, ← inner]
      cases build base supply with
      | error fault => rfl
      | ok built => simp only [Except.map, Value.freeze_plain]
  | _ => rfl

theorem build_all_plain (sources : List Blueprint) (supply : Supply) :
    (buildAll sources supply).map (fun built => (built.1.map Value.plain, built.2.identity)) =
      plainOfAll sources supply.identity := by
  cases sources with
  | nil => rfl
  | cons first rest =>
      have head := build_plain first supply
      rw [buildAll, plainOfAll, ← head]
      cases build first supply with
      | error fault => rfl
      | ok built =>
          have tail := build_all_plain rest built.2
          simp only [Except.map]
          rw [← tail]
          cases buildAll rest built.2 <;> rfl

end

end Blueprint

end Taxon
