import Taxon.Kind.Resolve

/-!
What resolution sees of a value: how it is stored, whether it carries a class, and whether the class
names a data frame. The kind is a table over these three and the mode, and every law about kinds is
read off the table. Values that agree in the three cannot be told apart by their kinds.
-/

set_option autoImplicit false

namespace Taxon

/-- The kind of plain storage. What is stored in no vector is a scalar. -/
def Representation.kind : Representation → Kind
  | .null => .null
  | .logical => .logical
  | .integer => .integer
  | .double => .double
  | .complex => .complex
  | .character => .character
  | .raw => .raw
  | .list => .list
  | .other => .scalar

def Representation.isAtomic (representation : Representation) : Bool :=
  [.logical, .integer, .double, .complex, .character, .raw].contains representation

/-- All that a kind depends on besides the mode. -/
structure Traits where
  representation : Representation
  classed : Bool
  tabular : Bool
deriving DecidableEq

def Traits.kind : Traits → Mode → Kind
  | ⟨.null, _, _⟩, _ => .null
  | ⟨.other, _, _⟩, _ => .scalar
  | ⟨.list, true, true⟩, _ => .dataFrame
  | ⟨.list, true, false⟩, .bare => .scalar
  | ⟨_, true, _⟩, .dispatch => .s3
  | ⟨representation, _, _⟩, _ => representation.kind

namespace Traits

theorem bare_ne_object (t : Traits) : t.kind .bare ≠ .s3 := by
  rcases t with ⟨representation, classed, tabular⟩
  cases representation <;> cases classed <;> cases tabular <;> decide

theorem object_iff (t : Traits) : t.kind .dispatch = .s3 ↔ t.classed = true ∧
    (t.representation.isAtomic = true ∨ t.representation = .list ∧ ¬t.tabular = true) := by
  rcases t with ⟨representation, classed, tabular⟩
  cases representation <;> cases classed <;> cases tabular <;> decide

theorem steady (t : Traits) : t.kind .dispatch = .s3 ∨ t.kind .bare = t.kind .dispatch := by
  rcases t with ⟨representation, classed, tabular⟩
  cases representation <;> cases classed <;> cases tabular <;> decide

theorem bare_atomic {t : Traits} (atomic : t.representation.isAtomic = true) :
    t.kind .bare = t.representation.kind := by
  rcases t with ⟨representation, classed, tabular⟩
  cases representation <;> cases atomic <;> cases classed <;> rfl

theorem bare_list {t : Traits} (isList : t.representation = .list)
    (object : t.kind .dispatch = .s3) : t.kind .bare = .scalar := by
  rcases t with ⟨representation, classed, tabular⟩
  cases isList
  cases classed <;> cases tabular <;> first | rfl | cases object

theorem unclassed {t : Traits} (unclassed : t.classed = false) (mode : Mode) :
    t.kind mode = t.representation.kind := by
  rcases t with ⟨representation, classed, tabular⟩
  cases unclassed
  cases representation <;> cases mode <;> rfl

theorem frame {t : Traits} (isList : t.representation = .list) (classed : t.classed = true)
    (tabular : t.tabular = true) (mode : Mode) : t.kind mode = .dataFrame := by
  rcases t with ⟨representation, _, _⟩
  cases isList
  cases classed
  cases tabular
  rfl

end Traits

namespace Value

def traits (x : Value) : Traits := ⟨x.representation, x.isObject, x.isDataFrame⟩

def Inherits (x : Value) (name : String) : Prop := ∃ cls, x.cls? = some cls ∧ name ∈ cls.names

theorem is_data_frame_iff (x : Value) : x.isDataFrame = true ↔ x.Inherits "data.frame" := by
  simp [isDataFrame, Inherits, Option.any_eq_true, Class.inherits, Class.dataFrame]

theorem is_object_iff (x : Value) : x.isObject = true ↔ ∃ cls, x.cls? = some cls :=
  Option.isSome_iff_exists

theorem resolve_eq_table (x : Value) (mode : Mode) : x.resolve mode = x.traits.kind mode := by
  cases x with
  | atoms elements header =>
      simp only [resolve, traits, representation]
      cases (atoms elements header).isObject <;> cases elements <;> cases mode <;> rfl
  | list elements header =>
      simp only [resolve, traits, representation]
      cases (list elements header).isObject <;> cases (list elements header).isDataFrame <;>
        cases mode <;> rfl
  | _ => rfl

theorem kind_of_storage {x : Value}
    (vector : x.representation.isAtomic = true ∨ x.representation = .list) :
    Kind.ofName? x.typeName = some x.representation.kind := by
  cases x with
  | atoms elements header => cases elements <;> rfl
  | list elements header => rfl
  | _ => simp [representation, Representation.isAtomic] at vector

theorem is_object_of_inherits {x : Value} {name : String} (inherits : x.Inherits name) :
    x.isObject = true := by
  rcases inherits with ⟨cls, carried, _⟩
  exact x.is_object_iff.mpr ⟨cls, carried⟩

theorem resolve_bare_ne_object (x : Value) : x.resolve .bare ≠ .s3 := by
  rw [resolve_eq_table]
  exact x.traits.bare_ne_object

theorem resolve_object_iff (x : Value) : x.resolve .dispatch = .s3 ↔ x.isObject = true ∧
    (x.representation.isAtomic = true ∨
      x.representation = .list ∧ ¬x.Inherits "data.frame") := by
  rw [resolve_eq_table, ← is_data_frame_iff]
  exact x.traits.object_iff

theorem object_has_class {x : Value} {mode : Mode} (object : x.resolve mode = .s3) :
    ∃ cls, x.cls? = some cls := by
  cases mode with
  | dispatch => exact x.is_object_iff.mp (x.resolve_object_iff.mp object).1
  | bare => exact absurd object x.resolve_bare_ne_object

end Value

/-- Which kind a value has in which mode, and what the kind does not depend on. -/
structure ResolutionLaw (x : Value) : Prop where
  bare : x.resolve .bare ≠ .s3
  object : x.resolve .dispatch = .s3 ↔ x.isObject = true ∧
    (x.representation.isAtomic = true ∨ x.representation = .list ∧ ¬x.Inherits "data.frame")
  settled : x.resolve .dispatch ≠ .s3 → x.resolve .bare = x.resolve .dispatch
  null : x.representation = .null → ∀ mode, x.resolve mode = .null
  plain : x.representation.isAtomic = true ∨ x.representation = .list → x.isObject = false →
    ∀ mode, Kind.ofName? x.typeName = some (x.resolve mode)
  frame : x.representation = .list → x.Inherits "data.frame" → ∀ mode, x.resolve mode = .dataFrame
  scalar : x.representation = .other → ∀ mode, x.resolve mode = .scalar
  unwrappedAtoms : x.resolve .dispatch = .s3 → x.representation.isAtomic = true →
    Kind.ofName? x.typeName = some (x.resolve .bare)
  unwrappedList : x.resolve .dispatch = .s3 → x.representation = .list →
    x.resolve .bare = .scalar
  -- Nothing else is looked at.
  twin : ∀ y : Value, y.representation = x.representation → y.isObject = x.isObject →
    (y.Inherits "data.frame" ↔ x.Inherits "data.frame") → ∀ mode, y.resolve mode = x.resolve mode

theorem resolution_law (x : Value) : ResolutionLaw x where
  bare := x.resolve_bare_ne_object
  object := x.resolve_object_iff
  settled := by
    intro settled
    rw [Value.resolve_eq_table] at settled
    rw [Value.resolve_eq_table, Value.resolve_eq_table]
    exact x.traits.steady.resolve_left settled
  null := by
    intro isNull mode
    rw [Value.resolve_eq_table, Value.traits, isNull]
    rfl
  plain := by
    intro vector unclassed mode
    rw [Value.kind_of_storage vector, Value.resolve_eq_table, Traits.unclassed unclassed]
    rfl
  frame := by
    intro isList inherits mode
    rw [Value.resolve_eq_table]
    exact Traits.frame isList (Value.is_object_of_inherits inherits)
      (x.is_data_frame_iff.mpr inherits) mode
  scalar := by
    intro other mode
    rw [Value.resolve_eq_table, Value.traits, other]
    rfl
  unwrappedAtoms := by
    intro object atomic
    rw [Value.kind_of_storage (.inl atomic), Value.resolve_eq_table, Traits.bare_atomic atomic]
    rfl
  unwrappedList := by
    intro object isList
    rw [Value.resolve_eq_table] at object ⊢
    exact Traits.bare_list isList object
  twin := by
    intro y representation classed tabular mode
    have sameFrame : y.isDataFrame = x.isDataFrame := by
      rw [Bool.eq_iff_iff, y.is_data_frame_iff, x.is_data_frame_iff, tabular]
    rw [y.resolve_eq_table, x.resolve_eq_table, Value.traits, Value.traits, representation, classed,
      sameFrame]

end Taxon
