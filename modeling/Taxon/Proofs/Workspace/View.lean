import Mathlib.Tactic.SplitIfs
import Taxon.Proofs.Value.Vectors
import Taxon.Workspace

/-!
What can be seen of a workspace. A root is a name or a pooled constant, a location goes from a
root down through the elements of lists, and a vector is held when it stands at some location.
Binding a name changes what is seen under that name and nothing else.
-/

set_option autoImplicit false

namespace Taxon

/-- Where a value is found without going through a list. -/
inductive Root where
  | handle (name : String)
  | pooledEmpty (kind : Kind)
  | pooledLogical (truth : Bool)
deriving DecidableEq

def Root.pooled : Root → Bool
  | .handle _ => false
  | .pooledEmpty _ | .pooledLogical _ => true

structure Location where
  root : Root
  path : List Nat
deriving DecidableEq

namespace Bindings

theorem lookup_bind_same (bindings : Bindings) (name : String) (x : Value) :
    (bindings.bind name x).lookup? name = some x := by
  simp [lookup?, bind]

theorem lookup_drop_same (bindings : Bindings) (name : String) :
    (bindings.drop name).lookup? name = none := by
  simp [lookup?, drop, List.find?_eq_none]

theorem lookup_drop_other (bindings : Bindings) {name other : String} (different : other ≠ name) :
    (bindings.drop name).lookup? other = bindings.lookup? other := by
  unfold lookup? drop
  rw [List.find?_filter]
  congr 2
  funext entry
  by_cases found : entry.1 = other
  · simp [found, different]
  · simp [found]

theorem lookup_bind_other (bindings : Bindings) {name other : String} (x : Value)
    (different : other ≠ name) : (bindings.bind name x).lookup? other = bindings.lookup? other := by
  rw [← lookup_drop_other bindings different]
  simp [lookup?, bind, Ne.symm different]

theorem split_at_lookup {bindings : Bindings} {name : String} {x : Value}
    (bound : bindings.lookup? name = some x) :
    ∃ before after, bindings = before ++ (name, x) :: after ∧ ∀ entry ∈ before, entry.1 ≠ name := by
  rw [lookup?, Option.map_eq_some_iff] at bound
  rcases bound with ⟨⟨found, y⟩, isFound, rfl⟩
  rcases List.find?_eq_some_iff_append.mp isFound with ⟨named, before, after, split, earlier⟩
  refine ⟨before, after, ?_, fun entry member => by simpa using earlier entry member⟩
  have same : found = name := of_decide_eq_true named
  rw [split, same]

theorem mem_of_lookup {bindings : Bindings} {name : String} {x : Value}
    (bound : bindings.lookup? name = some x) : (name, x) ∈ bindings := by
  rcases split_at_lookup bound with ⟨before, after, split, _⟩
  rw [split]
  simp

theorem lookup_map (f : Value → Value) (bindings : Bindings) (name : String) :
    Bindings.lookup? (bindings.map fun entry => (entry.1, f entry.2)) name =
      (bindings.lookup? name).map f := by
  unfold lookup?
  rw [List.find?_map, Option.map_map, Option.map_map]
  rfl

end Bindings

namespace Pool

theorem empty_mem_entries {pool : Pool} {kind : Kind} {x : Value}
    (found : pool.empty? kind = some x) : x ∈ pool.entries := by
  cases kind <;> simp only [empty?, reduceCtorEq, Option.some.injEq] at found
  all_goals
    rw [← found]
    simp [entries]

theorem logical_mem_entries (pool : Pool) (truth : Bool) : pool.logical truth ∈ pool.entries := by
  cases truth <;> simp [logical, entries]

theorem map_entries_fixed {f : Value → Value} {pool : Pool} (fixed : ∀ x ∈ pool.entries, f x = x) :
    pool.mapEntries f = pool := by
  cases pool
  simp only [entries, List.mem_cons, List.not_mem_nil, or_false, forall_eq_or_imp,
    forall_eq] at fixed
  simp only [mapEntries, mk.injEq]
  tauto

end Pool

namespace Workspace

def root? (w : Workspace) : Root → Option Value
  | .handle name => w.lookup? name
  | .pooledEmpty kind => w.pool.empty? kind
  | .pooledLogical truth => some (w.pool.logical truth)

def at? (w : Workspace) (l : Location) : Option Value := (w.root? l.root).bind fun x => x.at? l.path

/-- Whether two locations hold vectors that share storage. -/
def shares (w : Workspace) (l m : Location) : Bool :=
  match w.at? l, w.at? m with
  | some x, some y => x.sharesStorage y
  | _, _ => false

/-- A vector that stands somewhere in the workspace. -/
def Holds (w : Workspace) (v : Contents × Header) : Prop :=
  ∃ root x, w.root? root = some x ∧ v ∈ x.vectors

theorem holds_at {w : Workspace} {l : Location} {x : Value} (found : w.at? l = some x) :
    ∀ v ∈ x.vectors, w.Holds v := by
  intro v inside
  rw [at?, Option.bind_eq_some_iff] at found
  rcases found with ⟨y, isRoot, path⟩
  exact ⟨l.root, y, isRoot, Value.vectors_at path v inside⟩

/-- One workspace becomes another by binding a name: the pool and the other names stay. -/
structure Rebinds (w after : Workspace) (name : String) (x : Value) : Prop where
  pool : after.pool = w.pool
  target : after.lookup? name = some x
  others : ∀ other, other ≠ name → after.lookup? other = w.lookup? other

theorem rebinds_bind (w : Workspace) (supply : Supply) (name : String) (x : Value) :
    Rebinds w { w.bind name x with supply := supply } name x where
  pool := rfl
  target := Bindings.lookup_bind_same w.bindings name x
  others := fun _ different => Bindings.lookup_bind_other w.bindings x different

namespace Rebinds

variable {w after : Workspace} {name : String} {x : Value}

theorem root_target (rebinds : Rebinds w after name x) : after.root? (.handle name) = some x :=
  rebinds.target

theorem root_other (rebinds : Rebinds w after name x) {root : Root}
    (different : root ≠ .handle name) : after.root? root = w.root? root := by
  cases root with
  | handle other => exact rebinds.others other fun same => different (congrArg _ same)
  | pooledEmpty kind => rw [root?, root?, rebinds.pool]
  | pooledLogical truth => rw [root?, root?, rebinds.pool]

theorem at_target (rebinds : Rebinds w after name x) (path : List Nat) :
    after.at? ⟨.handle name, path⟩ = x.at? path := by
  simp [at?, rebinds.root_target]

theorem at_other (rebinds : Rebinds w after name x) {l : Location}
    (different : l.root ≠ .handle name) : after.at? l = w.at? l := by
  rw [at?, at?, rebinds.root_other different]

theorem trans {final : Workspace} {y : Value} (rebinds : Rebinds w after name x)
    (again : Rebinds after final name y) : Rebinds w final name y where
  pool := again.pool.trans rebinds.pool
  target := again.target
  others := fun other different =>
    (again.others other different).trans (rebinds.others other different)

/-- Where a name is bound to one value from one workspace, nothing else tells the results apart. -/
theorem at_unique {other : Workspace} (rebinds : Rebinds w after name x)
    (again : Rebinds w other name x) (l : Location) : after.at? l = other.at? l := by
  by_cases same : l.root = .handle name
  · rw [at?, at?, same, rebinds.root_target, again.root_target]
  · rw [rebinds.at_other same, again.at_other same]

theorem holds (rebinds : Rebinds w after name x) {v : Contents × Header} (held : after.Holds v) :
    v ∈ x.vectors ∨ ∃ root y, root ≠ .handle name ∧ w.root? root = some y ∧ v ∈ y.vectors := by
  rcases held with ⟨root, y, found, inside⟩
  by_cases same : root = .handle name
  · rw [same, rebinds.root_target, Option.some.injEq] at found
    rw [found]
    exact .inl inside
  · rw [rebinds.root_other same] at found
    exact .inr ⟨root, y, same, found, inside⟩

end Rebinds

end Workspace

end Taxon
