import Taxon.Proofs.Value.Edit
import Taxon.Proofs.Value.Restyle
import Taxon.Proofs.Workspace.View

/-!
What one action can do. An action leaves the workspace alone, takes a name out, or binds its
target, and the value it binds is built, copied from a location, restyled, emptied or written.
Everything that holds along a run is derived from this one case analysis.
-/

set_option autoImplicit false

namespace Taxon

namespace Action

def target : Action → String
  | .create name _ => name
  | .clone name _ => name
  | .drop name => name
  | .pooledEmpty name _ => name
  | .pooledLogical name _ => name
  | .takeElement name _ _ => name
  | .edit name _ => name
  | .reset name => name
  | .setVectorClass name _ => name
  | .setClass name _ => name
  | .freeze name => name

/-- The location that an action clones. -/
def source? : Action → Option Location
  | .clone _ source => some ⟨.handle source, []⟩
  | .pooledEmpty _ kind => some ⟨.pooledEmpty kind, []⟩
  | .pooledLogical _ truth => some ⟨.pooledLogical truth, []⟩
  | .takeElement _ source index => some ⟨.handle source, [index]⟩
  | _ => none

def restyles : Action → Bool
  | .setVectorClass _ _ | .setClass _ _ | .freeze _ => true
  | _ => false

end Action

namespace Workspace

/-- Besides the vector under a name, nothing that the workspace holds lives in the storage. -/
structure OnlyUnder (w : Workspace) (name : String) (contents : Contents) (storage : Nat) :
    Prop where
  inside : ∀ v ∈ contents.inner, v.2.storage ≠ storage
  beside : ∀ root y, root ≠ .handle name → w.root? root = some y → storage ∉ y.storages

/-- The storage that a write ends up in: the old one, where nothing else lives, or the next one. -/
def Housed (w : Workspace) (name : String) (contents : Contents) (header : Header)
    (prepared : Edit Element) (storage : Nat) (supply after : Supply) : Prop :=
  (storage = header.storage ∧ after = supply ∧ header.isMutable = true ∧
    w.OnlyUnder name contents storage ∧
    ∀ y, prepared.element? = some (.value y) → storage ∉ y.storages) ∨
  (storage = supply.storage ∧ after = supply.storageTaken)

/-- How a new element comes about. -/
inductive Prepared (w : Workspace) : Ingredient → Element → Supply → Prop where
  | element (element : ElementOf Empty) :
      Prepared w (.element element) (element.map Empty.elim) w.supply
  | construct {source : Blueprint} {x : Value} {supply : Supply}
      (built : source.build w.supply = .ok (x, supply)) :
      Prepared w (.construct source) (.value x) supply
  | clone {name : String} {x : Value} (bound : w.lookup? name = some x) :
      Prepared w (.clone name) (.value x) w.supply

/-- A successful edit: its new element, the elements before and after, and the storage that they end
up in. `after` is the supply afterwards. -/
structure Write (w : Workspace) (name : String) (edit : Edit Ingredient) (x : Value)
    (after : Supply) where
  prepared : Edit Element
  contents : Contents
  written : Contents
  header : Header
  storage : Nat
  supply : Supply
  bound : w.lookup? name = some (contents.under header)
  prepares : w.prepareEdit edit = .ok (prepared, supply)
  edited : contents.edit prepared = .ok written
  housed : w.Housed name contents header prepared storage supply after
  shape : x = written.under { header with storage := storage, isMutable := true }

/-- Where the value comes from that an action binds. The last argument is the supply afterwards. -/
inductive Origin (w : Workspace) : Action → Value → Supply → Prop where
  | built {name : String} {source : Blueprint} {x : Value} {supply : Supply}
      (built : source.build w.supply = .ok (x, supply)) : Origin w (.create name source) x supply
  | copied {action : Action} {l : Location} {x : Value} (source : action.source? = some l)
      (found : w.at? l = some x) : Origin w action x w.supply
  | restyled {action : Action} {x y : Value} (restyles : action.restyles = true)
      (bound : w.lookup? action.target = some x) (restyled : x.Restyled y) :
      Origin w action y w.supply
  | emptied {name : String} {contents : Contents} {header : Header}
      (bound : w.lookup? name = some (contents.under header)) :
      Origin w (.reset name) (contents.emptied.under w.supply.header) w.supply.storageTaken
  | written {name : String} {edit : Edit Ingredient} {x : Value} {supply : Supply}
      (write : w.Write name edit x supply) : Origin w (.edit name edit) x supply

/-- What an action answers and leaves behind. -/
inductive Step (w : Workspace) (action : Action) : Except Fault Answer → Workspace → Prop where
  | refused (fault : Fault) : Step w action (.error fault) w
  | nothing : Step w action (.ok .nothing) w
  | dropped {name : String} (existed : Bool) (drops : action = .drop name) :
      Step w action (.ok (.dropped existed)) { w with bindings := w.bindings.drop name }
  | bound {x : Value} {after : Workspace} (origin : w.Origin action x after.supply)
      (rebinds : w.Rebinds after action.target x) : Step w action (.ok (.value x)) after

theorem not_mem_storages_of_holders {storage : Nat} {x : Value} (absent : x.holders storage = 0) :
    storage ∉ x.storages :=
  List.count_eq_zero.mp absent

/-- A storage with one holder, that holder standing under a name, is found nowhere else. -/
theorem only_under_of_holders {w : Workspace} {name : String} {contents : Contents}
    {header : Header} (bound : w.lookup? name = some (contents.under header)) {incoming : Nat}
    (single : w.holders header.storage + incoming = 1) :
    incoming = 0 ∧ w.OnlyUnder name contents header.storage ∧
      ∀ x ∈ w.pool.entries, header.storage ∉ x.storages := by
  rcases Bindings.split_at_lookup bound with ⟨before, after, split, _⟩
  have own : (contents.under header).storages.count header.storage =
      (contents.inner.map fun v => v.2.storage).count header.storage + 1 := by
    rw [Value.storages_eq_vectors, ContentsOf.vectors_under]
    simp
  have total : w.holders header.storage =
      (before.flatMap fun entry => entry.2.storages).count header.storage +
        ((contents.under header).storages.count header.storage +
          (after.flatMap fun entry => entry.2.storages).count header.storage) +
        (w.pool.entries.flatMap Value.storages).count header.storage := by
    rw [holders, values, split]
    simp [List.flatMap_map, Nat.add_assoc]
  have nothingIn (xs : List (String × Value))
      (zero : (xs.flatMap fun entry => entry.2.storages).count header.storage = 0) :
      ∀ entry ∈ xs, header.storage ∉ entry.2.storages := by
    intro entry member lives
    exact List.count_eq_zero.mp zero (List.mem_flatMap.mpr ⟨entry, member, lives⟩)
  have earlier := nothingIn before (by omega)
  have later := nothingIn after (by omega)
  have pooled : ∀ x ∈ w.pool.entries, header.storage ∉ x.storages := by
    intro x member lives
    have zero : (w.pool.entries.flatMap Value.storages).count header.storage = 0 := by omega
    exact List.count_eq_zero.mp zero (List.mem_flatMap.mpr ⟨x, member, lives⟩)
  refine ⟨by omega, ⟨?_, ?_⟩, pooled⟩
  · intro v inner same
    have absent : (contents.inner.map fun v => v.2.storage).count header.storage = 0 := by omega
    rw [List.count_eq_zero] at absent
    exact absent (same ▸ List.mem_map_of_mem inner)
  · intro root y different found
    cases root with
    | handle other =>
        have member := Bindings.mem_of_lookup found
        rw [split, List.mem_append, List.mem_cons] at member
        rcases member with front | same | back
        · exact earlier _ front
        · exact absurd (congrArg (fun entry => Root.handle entry.1) same) different
        · exact later _ back
    | pooledEmpty kind => exact pooled y (Pool.empty_mem_entries found)
    | pooledLogical truth =>
        rw [root?, Option.some.injEq] at found
        rw [← found]
        exact pooled _ (Pool.logical_mem_entries w.pool truth)

/-- A write in place of a storage with one holder rebinds the holder's name and nothing else. -/
theorem rebinds_overwrite {w : Workspace} {name : String} {contents written : Contents}
    {header : Header} (bound : w.lookup? name = some (contents.under header))
    (alone : w.OnlyUnder name contents header.storage)
    (pooled : ∀ x ∈ w.pool.entries, header.storage ∉ x.storages) :
    Rebinds w (w.overwrite header.storage written) name (written.under header) where
  pool := Pool.map_entries_fixed fun x member => Value.overwrite_elsewhere x (pooled x member)
  target := by
    have seen := Bindings.lookup_map (Value.overwrite header.storage written) w.bindings name
    have bindings : w.bindings.lookup? name = some (contents.under header) := bound
    rw [bindings, Option.map_some, Value.overwrite_under] at seen
    exact seen
  others := by
    intro other different
    have seen := Bindings.lookup_map (Value.overwrite header.storage written) w.bindings other
    refine seen.trans ?_
    cases found : w.bindings.lookup? other with
    | none => exact found.symm
    | some y =>
        have elsewhere := alone.beside (.handle other) y (by simpa using different) found
        rw [Option.map_some, Value.overwrite_elsewhere y elsewhere]
        exact found.symm

/-- A write puts the new contents under the name, in a storage where nothing else lives: its old
one if that had no other holder, else the next one of the supply. -/
theorem write_housed {w : Workspace} {name : String} {contents : Contents} {header : Header}
    (bound : w.lookup? name = some (contents.under header)) (written : Contents)
    (incoming : Nat) :
    ∃ storage after x, w.write name header written incoming = (x, after) ∧
      x = written.under { header with storage := storage, isMutable := true } ∧
      Rebinds w after name x ∧
      ((storage = header.storage ∧ after.supply = w.supply ∧ header.isMutable = true ∧
          incoming = 0 ∧ w.OnlyUnder name contents storage) ∨
        (storage = w.supply.storage ∧ after.supply = w.supply.storageTaken)) := by
  unfold write
  split_ifs with inPlace
  · rw [Bool.and_eq_true, beq_iff_eq] at inPlace
    rcases only_under_of_holders bound inPlace.2 with ⟨none, alone, pooled⟩
    have raised : { header with storage := header.storage, isMutable := true } = header := by
      rw [← inPlace.1]
    refine ⟨header.storage, _, _, rfl, by rw [raised], ?_, .inl ⟨rfl, rfl, inPlace.1, none, alone⟩⟩
    exact rebinds_overwrite bound alone pooled
  · exact ⟨w.supply.storage, _, _, rfl, rfl, rebinds_bind w _ name _, .inr ⟨rfl, rfl⟩⟩

theorem prepare_prepared {w : Workspace} {ingredient : Ingredient} {element : Element}
    {supply : Supply} (prepares : w.prepare ingredient = .ok (element, supply)) :
    w.Prepared ingredient element supply := by
  cases ingredient with
  | element given =>
      rw [prepare, Except.ok.injEq, Prod.mk.injEq] at prepares
      rw [← prepares.1, ← prepares.2]
      exact .element given
  | construct source =>
      rw [prepare] at prepares
      split at prepares
      · cases prepares
      · rename_i x middle built
        rw [Except.ok.injEq, Prod.mk.injEq] at prepares
        rw [← prepares.1, ← prepares.2]
        exact .construct built
  | clone name =>
      rw [prepare] at prepares
      split at prepares
      · cases prepares
      · rename_i x bound
        rw [Except.ok.injEq, Prod.mk.injEq] at prepares
        rw [← prepares.1, ← prepares.2]
        exact .clone bound

theorem prepared_clone {w : Workspace} {name : String} {element : Element} {supply : Supply}
    (prepared : w.Prepared (.clone name) element supply) :
    ∃ x, element = .value x ∧ w.lookup? name = some x := by
  cases prepared with
  | clone bound => exact ⟨_, rfl, bound⟩

theorem prepared_construct {w : Workspace} {source : Blueprint} {element : Element}
    {supply : Supply} (prepared : w.Prepared (.construct source) element supply) :
    ∃ x, element = .value x ∧ source.build w.supply = .ok (x, supply) := by
  cases prepared with
  | construct built => exact ⟨_, rfl, built⟩

theorem prepared_element {w : Workspace} {given : ElementOf Empty} {element : Element}
    {supply : Supply} (prepared : w.Prepared (.element given) element supply) (x : Value) :
    element ≠ .value x := by
  cases prepared with
  | element given =>
      intro isValue
      cases given with
      | value impossible => exact impossible.elim
      | _ => cases isValue

theorem prepared_of_map {w : Workspace} {ingredient : Ingredient} {shape : Element → Edit Element}
    {prepared : Edit Element} {supply : Supply}
    (prepares : (w.prepare ingredient).map (fun made => (shape made.1, made.2)) =
      .ok (prepared, supply)) :
    ∃ element, prepared = shape element ∧ w.Prepared ingredient element supply := by
  rcases Outcome.ok_of_map prepares with ⟨⟨element, middle⟩, prepare, same⟩
  rw [Prod.mk.injEq] at same
  have made := prepare_prepared prepare
  rw [← same.1, ← same.2]
  exact ⟨element, rfl, made⟩

theorem prepare_edit_prepared {w : Workspace} {edit : Edit Ingredient} {prepared : Edit Element}
    {supply : Supply} (prepares : w.prepareEdit edit = .ok (prepared, supply)) :
    (edit.element? = none ∧ prepared.element? = none ∧ supply = w.supply ∨
      ∃ ingredient element, edit.element? = some ingredient ∧ prepared.element? = some element ∧
        w.Prepared ingredient element supply) ∧
    (∀ length place, prepared.place? length place = edit.place? length place) ∧
    (∀ length, prepared.arrival? length = edit.arrival? length) := by
  cases edit with
  | set index ingredient =>
      rcases prepared_of_map prepares with ⟨element, rfl, made⟩
      exact ⟨.inr ⟨ingredient, element, rfl, rfl, made⟩, fun _ _ => rfl, fun _ => rfl⟩
  | push ingredient =>
      rcases prepared_of_map prepares with ⟨element, rfl, made⟩
      exact ⟨.inr ⟨ingredient, element, rfl, rfl, made⟩, fun _ _ => rfl, fun _ => rfl⟩
  | insert index ingredient =>
      rcases prepared_of_map prepares with ⟨element, rfl, made⟩
      exact ⟨.inr ⟨ingredient, element, rfl, rfl, made⟩, fun _ _ => rfl, fun _ => rfl⟩
  | _ =>
      rw [prepareEdit, Except.ok.injEq, Prod.mk.injEq] at prepares
      rw [← prepares.1, ← prepares.2]
      exact ⟨.inl ⟨rfl, rfl, rfl⟩, fun _ _ => rfl, fun _ => rfl⟩

theorem edit_vector_step {w : Workspace} {name : String} {contents : Contents} {header : Header}
    (bound : w.lookup? name = some (contents.under header)) (edit : Edit Ingredient) :
    w.Step (.edit name edit) (w.editVector name contents header edit).1
      (w.editVector name contents header edit).2 := by
  unfold editVector
  split
  · exact .refused _
  · rename_i prepared supply prepares
    split
    · exact .refused _
    · exact .refused _
    · rename_i written edited
      have sameBound : ({ w with supply := supply } : Workspace).lookup? name =
          some (contents.under header) := bound
      rcases write_housed sameBound written
        ((prepared.element?.map (ElementOf.holders header.storage)).getD 0) with
        ⟨storage, after, x, result, shape, rebinds, housed⟩
      simp only [result]
      have housedHere : w.Housed name contents header prepared storage supply after.supply := by
        rcases housed with ⟨same, supplySame, mutable, none, alone⟩ | ⟨fresh, taken⟩
        · refine .inl ⟨same, supplySame, mutable, ⟨alone.inside, alone.beside⟩, ?_⟩
          intro y brings
          rw [brings] at none
          rw [same]
          exact not_mem_storages_of_holders none
        · exact .inr ⟨fresh, taken⟩
      have write : w.Write name edit x after.supply := ⟨prepared, contents, written, header,
        storage, supply, bound, prepares, edited, housedHere, shape⟩
      exact .bound (.written write) ⟨rebinds.pool, rebinds.target, rebinds.others⟩

theorem store_step {w : Workspace} {action : Action} {x : Value} (supply : Supply)
    (origin : w.Origin action x supply) :
    w.Step action (({ w with supply := supply } : Workspace).store action.target x).1
      (({ w with supply := supply } : Workspace).store action.target x).2 :=
  .bound origin (rebinds_bind w supply action.target x)

/-- The case analysis of an action. -/
theorem perform_step (w : Workspace) (action : Action) :
    w.Step action (w.perform action).1 (w.perform action).2 := by
  cases action with
  | create name source =>
      rw [perform]
      split
      · exact .refused _
      · rename_i x supply built
        exact store_step supply (.built built)
  | clone name source =>
      rw [perform]
      split
      · exact .refused _
      · rename_i x bound
        exact store_step w.supply (.copied rfl (by simp [at?, root?, bound, Value.at?]))
  | drop name => exact .dropped _ rfl
  | pooledEmpty name kind =>
      rw [perform]
      split
      · exact .nothing
      · rename_i x pooled
        exact store_step w.supply (.copied rfl (by simp [at?, root?, pooled, Value.at?]))
  | pooledLogical name truth =>
      exact store_step w.supply (.copied rfl (by simp [at?, root?, Value.at?]))
  | takeElement name source index =>
      rw [perform]
      split
      · exact .refused _
      · rename_i x bound
        split
        · exact .nothing
        · rename_i y found
          exact store_step w.supply
            (.copied rfl (by simp [at?, root?, bound, Value.at?, found]))
  | edit name edit =>
      rw [perform]
      split
      · exact .refused _
      · rename_i x bound
        split
        · exact .refused _
        · rename_i contents header vector
          rw [Value.eq_under_of_vector vector] at bound
          exact edit_vector_step bound edit
  | reset name =>
      rw [perform]
      split
      · exact .refused _
      · rename_i x bound
        split
        · exact .refused _
        · rename_i contents header vector
          rw [Value.eq_under_of_vector vector] at bound
          exact store_step w.supply.storageTaken (.emptied bound)
  | setVectorClass name cls =>
      rw [perform]
      split
      · exact .refused _
      · rename_i x bound
        split
        · exact .refused _
        · rename_i contents header vector
          rw [Value.eq_under_of_vector vector] at bound
          exact store_step w.supply (.restyled rfl bound (.vector contents rfl id))
  | setClass name cls =>
      rw [perform]
      split
      · exact .refused _
      · rename_i x bound
        split
        · exact .refused _
        · rename_i y set
          exact store_step w.supply (.restyled rfl bound (Value.restyled_set_class set))
  | freeze name =>
      rw [perform]
      split
      · exact .refused _
      · rename_i x bound
        exact store_step w.supply (.restyled rfl bound x.restyled_freeze)

namespace Step

variable {w after : Workspace} {action : Action} {answer : Except Fault Answer}

theorem pool (step : w.Step action answer after) : after.pool = w.pool := by
  cases step with
  | bound origin rebinds => exact rebinds.pool
  | _ => rfl

/-- Only the target of an action can change. -/
theorem lookup_other (step : w.Step action answer after) {other : String}
    (different : other ≠ action.target) : after.lookup? other = w.lookup? other := by
  cases step with
  | dropped existed drops =>
      rw [drops] at different
      exact Bindings.lookup_drop_other w.bindings different
  | bound origin rebinds => exact rebinds.others other different
  | _ => rfl

theorem at_other (step : w.Step action answer after) {l : Location}
    (different : l.root ≠ .handle action.target) : after.at? l = w.at? l := by
  have root : after.root? l.root = w.root? l.root := by
    cases standing : l.root with
    | handle other =>
        rw [standing] at different
        exact step.lookup_other fun same => different (congrArg _ same)
    | pooledEmpty kind => rw [root?, root?, step.pool]
    | pooledLogical truth => rw [root?, root?, step.pool]
  rw [at?, at?, root]

theorem eq_of_refused {fault : Fault} (step : w.Step action (.error fault) after) : after = w := by
  cases step
  rfl

theorem eq_of_nothing (step : w.Step action (.ok .nothing) after) : after = w := by
  cases step
  rfl

theorem origin_of_value {x : Value} (step : w.Step action (.ok (.value x)) after) :
    w.Origin action x after.supply ∧ w.Rebinds after action.target x := by
  cases step with
  | bound origin rebinds => exact ⟨origin, rebinds⟩

end Step

end Workspace

end Taxon
