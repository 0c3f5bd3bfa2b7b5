import Mathlib.Data.List.Forall2
import Taxon.Proofs.Binary64.Number
import Taxon.Proofs.Kind.Resolution
import Taxon.Proofs.Value.Vectors
import Taxon.Value.Equality

/-!
Equality of values as a relation. Likeness compares representation, class and elements, and doubles
as numbers, so it is symmetric and transitive, but a value that holds a not-a-number is not even
like itself. Where the elements live and who may write to them plays no part in it.
-/

set_option autoImplicit false

namespace Taxon

section Elements

variable {α : Type} {R S : α → α → Prop} {xs ys zs : List α}

theorem equal_elements_iff {equal : α → α → Bool}
    (each : ∀ x ∈ xs, ∀ y, equal x y = true ↔ R x y) :
    equalElements equal xs ys = true ↔ List.Forall₂ R xs ys := by
  induction xs generalizing ys with
  | nil => cases ys <;> simp [equalElements]
  | cons x xs induction =>
      cases ys with
      | nil => simp [equalElements]
      | cons y ys =>
          rw [equalElements, Bool.and_eq_true, List.forall₂_cons, each x List.mem_cons_self,
            induction fun z member => each z (List.mem_cons_of_mem x member)]

theorem forall_two_flip (related : List.Forall₂ R xs ys)
    (flips : ∀ x ∈ xs, ∀ y, R x y → S y x) : List.Forall₂ S ys xs := by
  induction related with
  | nil => exact .nil
  | cons head _ induction =>
      refine .cons (flips _ List.mem_cons_self _ head) (induction ?_)
      intro x member
      exact flips x (List.mem_cons_of_mem _ member)

theorem forall_two_through (first : List.Forall₂ R xs ys) (second : List.Forall₂ R ys zs)
    (through : ∀ x ∈ xs, ∀ y z, R x y → R y z → R x z) : List.Forall₂ R xs zs := by
  induction first generalizing zs with
  | nil =>
      cases second
      exact .nil
  | cons head _ induction =>
      cases second with
      | cons next rest =>
          refine .cons (through _ List.mem_cons_self _ _ head next) (induction rest ?_)
          intro x member
          exact through x (List.mem_cons_of_mem _ member)

end Elements

namespace Atoms

/-- Elements of one type that are the same, place by place; doubles and complex numbers are compared
as numbers. -/
inductive Alike : Atoms → Atoms → Prop where
  | logical (xs : List (Option Bool)) : Alike (.logical xs) (.logical xs)
  | integer (xs : List (Option Int32)) : Alike (.integer xs) (.integer xs)
  | double {xs ys : List Binary64} (each : List.Forall₂ Binary64.SameNumber xs ys) :
      Alike (.double xs) (.double ys)
  | complex {xs ys : List Complex} (each : List.Forall₂ Complex.SameNumber xs ys) :
      Alike (.complex xs) (.complex ys)
  | character (xs : List (Option String)) : Alike (.character xs) (.character xs)
  | raw (xs : List UInt8) : Alike (.raw xs) (.raw xs)

def HasNaN : Atoms → Prop
  | .double xs => ∃ x ∈ xs, x.isNaN = true
  | .complex xs => ∃ z ∈ xs, z.re.isNaN = true ∨ z.im.isNaN = true
  | _ => False

variable {xs ys zs : Atoms}

theorem equal_iff_alike (xs ys : Atoms) : xs.equal ys = true ↔ Alike xs ys := by
  constructor
  · intro equals
    cases xs <;> cases ys <;> simp only [equal, beq_iff_eq, Bool.false_eq_true] at equals
    case double.double xs ys =>
      exact .double ((equal_elements_iff fun x _ => x.equal_iff).mp equals)
    case complex.complex xs ys =>
      exact .complex ((equal_elements_iff fun z _ => Complex.SameNumber.equal_iff z).mp equals)
    all_goals
      subst equals
      constructor
  · intro alike
    cases alike with
    | double each => exact (equal_elements_iff fun x _ => x.equal_iff).mpr each
    | complex each =>
        exact (equal_elements_iff fun z _ => Complex.SameNumber.equal_iff z).mpr each
    | _ => simp [equal]

theorem Alike.symm (alike : Alike xs ys) : Alike ys xs := by
  cases alike with
  | double each => exact .double (forall_two_flip each fun _ _ _ => .symm)
  | complex each => exact .complex (forall_two_flip each fun _ _ _ => .symm)
  | _ => constructor

theorem Alike.trans (first : Alike xs ys) (second : Alike ys zs) : Alike xs zs := by
  cases first with
  | double each =>
      cases second with
      | double each' => exact .double (forall_two_through each each' fun _ _ _ _ => .trans)
  | complex each =>
      cases second with
      | complex each' => exact .complex (forall_two_through each each' fun _ _ _ _ => .trans)
  | _ => exact second

theorem alike_self_iff (xs : Atoms) : Alike xs xs ↔ ¬xs.HasNaN := by
  cases xs with
  | double xs =>
      have same : Alike (.double xs) (.double xs) ↔ ∀ x ∈ xs, Binary64.SameNumber x x := by
        rw [← List.forall₂_same]
        exact ⟨fun | .double each => each, .double⟩
      simp [same, HasNaN, Binary64.SameNumber.self_iff]
  | complex xs =>
      have same : Alike (.complex xs) (.complex xs) ↔ ∀ z ∈ xs, Complex.SameNumber z z := by
        rw [← List.forall₂_same]
        exact ⟨fun | .complex each => each, .complex⟩
      simp [same, HasNaN, Complex.SameNumber.self_iff]
  | _ =>
      simp only [HasNaN, not_false_iff, iff_true]
      constructor

theorem Alike.length (alike : Alike xs ys) : xs.length = ys.length := by
  cases alike with
  | double each => exact each.length_eq
  | complex each => exact each.length_eq
  | _ => rfl

theorem Alike.representation (alike : Alike xs ys) : xs.representation = ys.representation := by
  cases alike <;> rfl

end Atoms

namespace Value

/-- Two values of one representation and one class with elements alike. Foreign pointers are alike
when they point to one thing, whatever their tags. -/
inductive Alike : Value → Value → Prop where
  | null : Alike .null .null
  | atoms {xs ys : Atoms} {g h : Header} (cls : g.cls = h.cls) (each : xs.Alike ys) :
      Alike (.atoms xs g) (.atoms ys h)
  | list {xs ys : List Value} {g h : Header} (cls : g.cls = h.cls)
      (each : List.Forall₂ Alike xs ys) : Alike (.list xs g) (.list ys h)
  | function (name : String) (arity : Nat) (cls : Option Class) :
      Alike (.function name arity cls) (.function name arity cls)
  | environment (name : String) (cls : Option Class) :
      Alike (.environment name cls) (.environment name cls)
  | symbol (name : String) : Alike (.symbol name) (.symbol name)
  | foreign {p q : ForeignPointer} (same : p.identity = q.identity) :
      Alike (.foreign p) (.foreign q)

variable {x y z : Value}

theorem equal_all (xs ys : List Value) : equalAll xs ys = equalElements equal xs ys := by
  induction xs generalizing ys with
  | nil => cases ys <;> rfl
  | cons x xs induction =>
      cases ys with
      | nil => rfl
      | cons y ys => rw [equalAll, equalElements, induction]

theorem equal_iff_alike (x y : Value) : x.equal y = true ↔ x.Alike y := by
  induction x using induct generalizing y with
  | null =>
      cases y with
      | null => exact ⟨fun _ => .null, fun _ => rfl⟩
      | _ => exact ⟨nofun, nofun⟩
  | atoms xs g =>
      cases y with
      | atoms ys h =>
          rw [equal, Bool.and_eq_true, beq_iff_eq, Atoms.equal_iff_alike]
          exact ⟨fun both => .atoms both.1 both.2, fun | .atoms cls each => ⟨cls, each⟩⟩
      | _ => exact ⟨nofun, nofun⟩
  | list xs g induction =>
      cases y with
      | list ys h =>
          rw [equal, Bool.and_eq_true, beq_iff_eq, equal_all, equal_elements_iff induction]
          exact ⟨fun both => .list both.1 both.2, fun | .list cls each => ⟨cls, each⟩⟩
      | _ => exact ⟨nofun, nofun⟩
  | function name arity cls =>
      cases y with
      | function name' arity' cls' =>
          simp only [equal, Bool.and_eq_true, beq_iff_eq]
          constructor
          · rintro ⟨⟨rfl, rfl⟩, rfl⟩
            exact .function name arity cls
          · rintro ⟨⟩
            exact ⟨⟨rfl, rfl⟩, rfl⟩
      | _ => exact ⟨nofun, nofun⟩
  | environment name cls =>
      cases y with
      | environment name' cls' =>
          simp only [equal, Bool.and_eq_true, beq_iff_eq]
          constructor
          · rintro ⟨rfl, rfl⟩
            exact .environment name cls
          · rintro ⟨⟩
            exact ⟨rfl, rfl⟩
      | _ => exact ⟨nofun, nofun⟩
  | symbol name =>
      cases y with
      | symbol name' =>
          simp only [equal, beq_iff_eq]
          constructor
          · rintro rfl
            exact .symbol name
          · rintro ⟨⟩
            rfl
      | _ => exact ⟨nofun, nofun⟩
  | foreign p =>
      cases y with
      | foreign q =>
          rw [equal, beq_iff_eq]
          exact ⟨.foreign, fun | .foreign same => same⟩
      | _ => exact ⟨nofun, nofun⟩

theorem Alike.symm (alike : Alike x y) : Alike y x := by
  induction x using induct generalizing y with
  | list xs g induction =>
      cases alike with
      | list cls each =>
          exact .list cls.symm (forall_two_flip each fun x member y => induction x member)
  | atoms xs g =>
      cases alike with
      | atoms cls each => exact .atoms cls.symm each.symm
  | foreign p =>
      cases alike with
      | foreign same => exact .foreign same.symm
  | _ =>
      cases alike
      constructor

theorem Alike.trans (first : Alike x y) (second : Alike y z) : Alike x z := by
  induction x using induct generalizing y z with
  | list xs g induction =>
      cases first with
      | list cls each =>
          cases second with
          | list cls' each' =>
              exact .list (cls.trans cls')
                (forall_two_through each each' fun x member y z => induction x member)
  | atoms xs g =>
      cases first with
      | atoms cls each =>
          cases second with
          | atoms cls' each' => exact .atoms (cls.trans cls') (each.trans each')
  | foreign p =>
      cases first with
      | foreign same =>
          cases second with
          | foreign same' => exact .foreign (same.trans same')
  | _ =>
      cases first
      exact second

/-- A vector somewhere inside, reached through lists, has a not-a-number among its elements. -/
def HoldsNaN (x : Value) : Prop :=
  ∃ path elements header, x.at? path = some (.atoms elements header) ∧ elements.HasNaN

theorem holds_nan_atoms (xs : Atoms) (g : Header) : (atoms xs g).HoldsNaN ↔ xs.HasNaN := by
  constructor
  · rintro ⟨path, elements, header, found, isNaN⟩
    cases path with
    | nil =>
        rw [at?, Option.some.injEq, atoms.injEq] at found
        rw [found.1]
        exact isNaN
    | cons place path =>
        obtain ⟨_, _, _, isList, _⟩ := at_cons found
        cases isList
  · intro isNaN
    exact ⟨[], xs, g, rfl, isNaN⟩

theorem holds_nan_list (xs : List Value) (g : Header) :
    (list xs g).HoldsNaN ↔ ∃ x ∈ xs, x.HoldsNaN := by
  constructor
  · rintro ⟨path, elements, header, found, isNaN⟩
    cases path with
    | nil => cases found
    | cons place path =>
        obtain ⟨_, _, x, isList, standing, rest⟩ := at_cons found
        cases isList
        exact ⟨x, List.mem_of_getElem? standing, path, elements, header, rest, isNaN⟩
  · rintro ⟨x, member, path, elements, header, found, isNaN⟩
    obtain ⟨place, standing⟩ := List.getElem?_of_mem member
    refine ⟨place :: path, elements, header, ?_, isNaN⟩
    simp only [at?, asList?, Option.bind_some, standing]
    exact found

theorem not_holds_nan {x : Value} (unvectored : x.vector? = none) : ¬x.HoldsNaN := by
  rintro ⟨path, elements, header, found, _⟩
  cases path with
  | nil =>
      rw [at?, Option.some.injEq] at found
      rw [found] at unvectored
      cases unvectored
  | cons place path =>
      obtain ⟨_, _, _, isList, _⟩ := at_cons found
      rw [isList] at unvectored
      cases unvectored

/-- A value is like itself exactly when every number in it is one. -/
theorem alike_self_iff (x : Value) : x.Alike x ↔ ¬x.HoldsNaN := by
  induction x using induct with
  | atoms xs g =>
      rw [holds_nan_atoms, ← Atoms.alike_self_iff]
      exact ⟨fun | .atoms _ each => each, .atoms rfl⟩
  | list xs g induction =>
      rw [holds_nan_list, not_exists]
      simp only [not_and]
      constructor
      · intro alike x member
        cases alike with
        | list _ each => exact (induction x member).mp (List.forall₂_same.mp each x member)
      · intro each
        apply Alike.list rfl
        exact List.forall₂_same.mpr fun x member => (induction x member).mpr (each x member)
  | foreign p => exact iff_of_true (.foreign rfl) (not_holds_nan rfl)
  | _ => exact iff_of_true (by constructor) (not_holds_nan rfl)

theorem Alike.length (alike : Alike x y) : x.length = y.length := by
  cases alike with
  | atoms _ each => exact each.length
  | list _ each => exact each.length_eq
  | _ => rfl

theorem Alike.traits (alike : Alike x y) : x.traits = y.traits := by
  cases alike with
  | atoms cls each =>
      simp only [Value.traits, representation, isObject, isDataFrame, cls?, cls,
        each.representation]
  | list cls each => simp only [Value.traits, representation, isObject, isDataFrame, cls?, cls]
  | _ => rfl

end Value

end Taxon
