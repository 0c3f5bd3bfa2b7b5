import Taxon.Proofs.Value.Plain
import Taxon.Proofs.Workspace.Step

/-!
The reference semantics: plain values under names, where a clone is a copy and nothing is shared.
Its edits, its empty vectors and its classes are its own as well. A workspace reads as a reference,
and every action reads as the reference's own action, although it shares storage and writes in place
where it can.
-/

set_option autoImplicit false

namespace Taxon

def AnswerOf.map {α β : Type} (f : α → β) : AnswerOf α → AnswerOf β
  | .value x => .value (f x)
  | .nothing => .nothing
  | .dropped existed => .dropped existed

structure Reference where
  values : String → Option Plain
  -- The first pointer name that has never been given out.
  identity : Nat

namespace Reference

def start : Reference := ⟨fun _ => none, 0⟩

def bind (r : Reference) (name : String) (x : Plain) : Reference :=
  { r with values := fun other => if other = name then some x else r.values other }

def drop (r : Reference) (name : String) : Reference :=
  { r with values := fun other => if other = name then none else r.values other }

/-- A constant: no class, and not to be written in place. -/
def constant (elements : ContentsOf Plain) : Plain := elements.marked ⟨none, false⟩

def pooledEmpty? : Kind → Option Plain
  | .logical => some (constant (.atoms (.logical [])))
  | .integer => some (constant (.atoms (.integer [])))
  | .double => some (constant (.atoms (.double [])))
  | .complex => some (constant (.atoms (.complex [])))
  | .character => some (constant (.atoms (.character [])))
  | .raw => some (constant (.atoms (.raw [])))
  | .list => some (constant (.values []))
  | .null | .dataFrame | .s3 | .scalar => none

def pooledLogical (truth : Bool) : Plain := constant (.atoms (.logical [some truth]))

def prepare (r : Reference) : Ingredient → Except Workspace.Fault (ElementOf Plain × Nat)
  | .element element => .ok (element.map Empty.elim, r.identity)
  | .construct source =>
      match source.plain r.identity with
      | .error fault => .error (.refused fault)
      | .ok (x, next) => .ok (.value x, next)
  | .clone name =>
      match r.values name with
      | none => .error (.unbound name)
      | some x => .ok (.value x, r.identity)

def prepareEdit (r : Reference) :
    Edit Ingredient → Except Workspace.Fault (Edit (ElementOf Plain) × Nat)
  | .set index ingredient =>
      (r.prepare ingredient).map fun (element, next) => (.set index element, next)
  | .push ingredient => (r.prepare ingredient).map fun (element, next) => (.push element, next)
  | .insert index ingredient =>
      (r.prepare ingredient).map fun (element, next) => (.insert index element, next)
  | .pop => .ok (.pop, r.identity)
  | .clear => .ok (.clear, r.identity)
  | .reverse => .ok (.reverse, r.identity)
  | .touch => .ok (.touch, r.identity)

def store (r : Reference) (name : String) (x : Plain) :
    Except Workspace.Fault (AnswerOf Plain) × Reference :=
  (.ok (.value x), r.bind name x)

/-- A successful edit changes the named value and raises its flag. -/
def editVector (r : Reference) (name : String) (contents : ContentsOf Plain) (marks : Marks)
    (edit : Edit Ingredient) : Except Workspace.Fault (AnswerOf Plain) × Reference :=
  match r.prepareEdit edit with
  | .error fault => (.error fault, r)
  | .ok (edit, next) =>
      match contents.spliced edit with
      | .error .elementType => (.error (.elementType name), r)
      | .error (.refused fault) => (.error (.refused fault), r)
      | .ok written =>
          { r with identity := next }.store name (written.marked { marks with isMutable := true })

def perform (r : Reference) : Action → Except Workspace.Fault (AnswerOf Plain) × Reference
  | .create name source =>
      match source.plain r.identity with
      | .error fault => (.error (.refused fault), r)
      | .ok (x, next) => { r with identity := next }.store name x
  | .clone name source =>
      match r.values source with
      | none => (.error (.unbound source), r)
      | some x => r.store name x
  | .drop name => (.ok (.dropped (r.values name).isSome), r.drop name)
  | .pooledEmpty name kind =>
      match pooledEmpty? kind with
      | none => (.ok .nothing, r)
      | some x => r.store name x
  | .pooledLogical name truth => r.store name (pooledLogical truth)
  | .takeElement name source index =>
      match r.values source with
      | none => (.error (.unbound source), r)
      | some x =>
          match x.asList?.bind fun xs => xs[index]? with
          | none => (.ok .nothing, r)
          | some y => r.store name y
  | .edit name edit =>
      match r.values name with
      | none => (.error (.unbound name), r)
      | some x =>
          match x.vector? with
          | none => (.error (.notVector name), r)
          | some (contents, marks) => r.editVector name contents marks edit
  | .reset name =>
      match r.values name with
      | none => (.error (.unbound name), r)
      | some x =>
          match x.vector? with
          | none => (.error (.notVector name), r)
          | some (contents, _) => r.store name ((contents.refilled []).marked ⟨none, true⟩)
  | .setVectorClass name cls =>
      match r.values name with
      | none => (.error (.unbound name), r)
      | some x =>
          match x.vector? with
          | none => (.error (.notVector name), r)
          | some (contents, marks) =>
              r.store name (contents.marked { marks with cls := Plain.named? cls })
  | .setClass name cls =>
      match r.values name with
      | none => (.error (.unbound name), r)
      | some x =>
          match x.setClass cls with
          | .error fault => (.error (.refused fault), r)
          | .ok y => r.store name y
  | .freeze name =>
      match r.values name with
      | none => (.error (.unbound name), r)
      | some x => r.store name x.freeze

def run (r : Reference) (actions : List Action) : Reference :=
  actions.foldl (fun r action => (r.perform action).2) r

end Reference

namespace Workspace

def reference (w : Workspace) : Reference :=
  ⟨fun name => (w.lookup? name).map Value.plain, w.supply.identity⟩

/-- What can be read off an answer and the workspace that it leaves. -/
def readOff (result : Except Fault Answer × Workspace) :
    Except Fault (AnswerOf Plain) × Reference :=
  (result.1.map (AnswerOf.map Value.plain), result.2.reference)

theorem reference_rebinds {w after : Workspace} {name : String} {x : Value}
    (rebinds : Rebinds w after name x) :
    after.reference = { w.reference with identity := after.supply.identity }.bind name x.plain := by
  unfold reference Reference.bind
  congr 1
  funext other
  by_cases same : other = name
  · rw [if_pos same, same, rebinds.target, Option.map_some]
  · rw [if_neg same, rebinds.others other same]

theorem reference_drop (w : Workspace) (name : String) :
    ({ w with bindings := w.bindings.drop name } : Workspace).reference =
      w.reference.drop name := by
  unfold reference Reference.drop
  congr 1
  funext other
  by_cases same : other = name
  · rw [if_pos same, same, lookup?, Bindings.lookup_drop_same, Option.map_none]
  · rw [if_neg same, lookup?, Bindings.lookup_drop_other _ same]
    rfl

theorem read_store (w : Workspace) (supply : Supply) (name : String) (x : Value) :
    readOff (({ w with supply := supply } : Workspace).store name x) =
      { w.reference with identity := supply.identity }.store name x.plain :=
  Prod.ext rfl (reference_rebinds (rebinds_bind w supply name x))

theorem prepare_reference (w : Workspace) (ingredient : Ingredient) :
    (w.prepare ingredient).map (fun p => (p.1.map Value.plain, p.2.identity)) =
      w.reference.prepare ingredient := by
  cases ingredient with
  | element given =>
      cases given with
      | value impossible => exact impossible.elim
      | _ => rfl
  | construct source =>
      have built := source.build_plain w.supply
      rw [prepare, Reference.prepare, reference, ← built]
      cases source.build w.supply <;> rfl
  | clone name =>
      simp only [prepare, Reference.prepare, reference]
      cases w.lookup? name <;> rfl

theorem prepare_edit_reference (w : Workspace) (edit : Edit Ingredient) :
    (w.prepareEdit edit).map (fun p => (p.1.map (ElementOf.map Value.plain), p.2.identity)) =
      w.reference.prepareEdit edit := by
  cases edit with
  | set index ingredient =>
      rw [prepareEdit, Reference.prepareEdit, ← prepare_reference]
      cases w.prepare ingredient <;> rfl
  | push ingredient =>
      rw [prepareEdit, Reference.prepareEdit, ← prepare_reference]
      cases w.prepare ingredient <;> rfl
  | insert index ingredient =>
      rw [prepareEdit, Reference.prepareEdit, ← prepare_reference]
      cases w.prepare ingredient <;> rfl
  | _ => rfl

/-- An edit reads as an edit of a copy, whether it wrote in place or moved to a new storage. -/
theorem edit_vector_reference {w : Workspace} {name : String} {contents : Contents}
    {header : Header} (bound : w.lookup? name = some (contents.under header))
    (edit : Edit Ingredient) :
    readOff (w.editVector name contents header edit) =
      w.reference.editVector name (contents.map Value.plain) header.marks edit := by
  unfold editVector Reference.editVector
  rw [← prepare_edit_reference]
  cases w.prepareEdit edit with
  | error fault => rfl
  | ok made =>
      rcases made with ⟨prepared, supply⟩
      simp only [Except.map]
      rw [ContentsOf.spliced_eq_edit, ContentsOf.edit_map]
      cases contents.edit prepared with
      | error fault => cases fault <;> rfl
      | ok written =>
          have sameBound : ({ w with supply := supply } : Workspace).lookup? name =
              some (contents.under header) := bound
          rcases write_housed sameBound written
            ((prepared.element?.map (ElementOf.holders header.storage)).getD 0) with
            ⟨storage, after, x, result, shape, rebinds, housed⟩
          have identity : after.supply.identity = supply.identity := by
            rcases housed with ⟨_, same, _⟩ | ⟨_, taken⟩
            · rw [same]
            · rw [taken]
              rfl
          have seen : x.plain =
              (written.map Value.plain).marked { header.marks with isMutable := true } := by
            rw [shape, Value.plain_under]
            rfl
          have left := reference_rebinds rebinds
          rw [identity, seen] at left
          simp only [result]
          rw [readOff, Except.map, AnswerOf.map, seen, left]
          rfl

theorem pooled_empty_plain (kind : Kind) :
    (Pool.shared.empty? kind).map Value.plain = Reference.pooledEmpty? kind := by
  cases kind <;> rfl

theorem pooled_logical_plain (truth : Bool) :
    (Pool.shared.logical truth).plain = Reference.pooledLogical truth := by
  cases truth <;> rfl

/-- One action reads as the reference's own. -/
theorem perform_reference {w : Workspace} (pool : w.pool = Pool.shared) (action : Action) :
    readOff (w.perform action) = w.reference.perform action := by
  have values (name : String) : w.reference.values name = (w.lookup? name).map Value.plain := rfl
  cases action with
  | create name source =>
      have built := source.build_plain w.supply
      rw [perform, Reference.perform, show w.reference.identity = w.supply.identity from rfl,
        ← built]
      cases source.build w.supply with
      | error fault => rfl
      | ok made => exact read_store w made.2 name made.1
  | clone name source =>
      rw [perform, Reference.perform, values]
      cases w.lookup? source with
      | none => rfl
      | some x => exact read_store w w.supply name x
  | drop name =>
      rw [perform, Reference.perform, values, Option.isSome_map, ← reference_drop]
      rfl
  | pooledEmpty name kind =>
      rw [perform, Reference.perform, pool, ← pooled_empty_plain]
      cases Pool.shared.empty? kind with
      | none => rfl
      | some x => exact read_store w w.supply name x
  | pooledLogical name truth =>
      rw [perform, Reference.perform, pool, ← pooled_logical_plain]
      exact read_store w w.supply name _
  | takeElement name source index =>
      rw [perform, Reference.perform, values]
      cases w.lookup? source with
      | none => rfl
      | some x =>
          have element : (x.plain.asList?.bind fun xs => xs[index]?) =
              (x.asList?.bind fun xs => xs[index]?).map Value.plain := by
            rw [Value.as_list_plain]
            cases x.asList? <;> simp
          simp only [Option.map_some]
          rw [element]
          cases x.asList?.bind fun xs => xs[index]? with
          | none => rfl
          | some y => exact read_store w w.supply name y
  | edit name edit =>
      rw [perform, Reference.perform, values]
      cases bound : w.lookup? name with
      | none => rfl
      | some x =>
          simp only [Option.map_some]
          rw [Value.vector_plain]
          cases vector : x.vector? with
          | none => rfl
          | some v =>
              rw [Value.eq_under_of_vector vector] at bound
              exact edit_vector_reference bound edit
  | reset name =>
      rw [perform, Reference.perform, values]
      cases w.lookup? name with
      | none => rfl
      | some x =>
          simp only [Option.map_some]
          rw [Value.vector_plain]
          cases x.vector? with
          | none => rfl
          | some v =>
              have seen := Value.plain_under v.1.emptied w.supply.header
              rw [← ContentsOf.emptied_map, ← ContentsOf.refilled_nil (v.1.map Value.plain)] at seen
              have stored := read_store w w.supply.storageTaken name
                (v.1.emptied.under w.supply.header)
              rw [seen] at stored
              exact stored
  | setVectorClass name cls =>
      rw [perform, Reference.perform, values]
      cases w.lookup? name with
      | none => rfl
      | some x =>
          simp only [Option.map_some]
          rw [Value.vector_plain]
          cases x.vector? with
          | none => rfl
          | some v =>
              have stored := read_store w w.supply name
                (v.1.under { v.2 with cls := Class.carried cls })
              rw [Value.plain_under] at stored
              rw [Plain.named_eq_carried]
              exact stored
  | setClass name cls =>
      rw [perform, Reference.perform, values]
      cases w.lookup? name with
      | none => rfl
      | some x =>
          simp only [Option.map_some]
          rw [← Value.set_class_plain]
          cases x.setClass cls with
          | error fault => rfl
          | ok y => exact read_store w w.supply name y
  | freeze name =>
      rw [perform, Reference.perform, values]
      cases w.lookup? name with
      | none => rfl
      | some x =>
          simp only [Option.map_some]
          rw [← Value.freeze_plain]
          exact read_store w w.supply name x.freeze

theorem run_reference {w : Workspace} (pool : w.pool = Pool.shared) (actions : List Action) :
    (w.run actions).pool = Pool.shared ∧ (w.run actions).reference = w.reference.run actions := by
  induction actions generalizing w with
  | nil => exact ⟨pool, rfl⟩
  | cons action rest induction =>
      have samePool : (w.perform action).2.pool = Pool.shared :=
        (perform_step w action).pool.trans pool
      rcases induction samePool with ⟨poolAfter, readAfter⟩
      refine ⟨poolAfter, readAfter.trans ?_⟩
      have step := congrArg Prod.snd (perform_reference pool action)
      exact congrArg (Reference.run · rest) step

/-- Sharing is never seen: after every run, what the names read as and what the next action answers
and leaves are those of the reference, where each clone is a copy of its own. The next action
changes no value but its target's, and nothing at all when it is refused. -/
theorem sharing_reads_as_copying (actions : List Action) :
    (Workspace.empty.run actions).reference = Reference.start.run actions ∧
    ∀ action, readOff ((Workspace.empty.run actions).perform action) =
        (Reference.start.run actions).perform action ∧
      (∀ other, other ≠ action.target →
        ((Workspace.empty.run actions).perform action).2.lookup? other =
          (Workspace.empty.run actions).lookup? other) ∧
      ∀ fault, ((Workspace.empty.run actions).perform action).1 = .error fault →
        ((Workspace.empty.run actions).perform action).2 = Workspace.empty.run actions := by
  rcases run_reference (w := Workspace.empty) rfl actions with ⟨pool, read⟩
  refine ⟨read, fun action => ⟨?_, ?_, ?_⟩⟩
  · have step := perform_reference pool action
    rw [read] at step
    exact step
  · intro other different
    exact (perform_step _ action).lookup_other different
  · intro fault refused
    have step := perform_step (Workspace.empty.run actions) action
    rw [refused] at step
    exact step.eq_of_refused

end Workspace

end Taxon
