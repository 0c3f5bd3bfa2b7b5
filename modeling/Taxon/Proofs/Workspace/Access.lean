import Taxon.Proofs.Workspace.Invariant

/-!
An edit in the order of its steps: find the vector, check the edit, make the vector the one holder
of its storage, then write. A program keeps what it did before it failed, so a check that came after
write access would leave a copy and a raised flag behind. The steps in their order end where the
edit as a whole ends.
-/

set_option autoImplicit false

namespace Taxon.Workspace

variable {α β : Type}

/-- A computation that may fail halfway. What it did to the workspace until then stays done. -/
abbrev Program (α : Type) := ExceptT Fault (StateM Workspace) α

namespace Program

def runFrom (program : Program α) (w : Workspace) : Except Fault α × Workspace :=
  (StateT.run program.run w).run

theorem run_get (w : Workspace) : (get : Program Workspace).runFrom w = (.ok w, w) := rfl

theorem run_bind (program : Program α) (next : α → Program β) (w : Workspace) :
    (program >>= next).runFrom w =
      match program.runFrom w with
      | (.error fault, after) => (.error fault, after)
      | (.ok a, after) => (next a).runFrom after := by
  have unfolded : (program >>= next).runFrom w =
      runFrom (.mk (ExceptT.bindCont next (program.runFrom w).1)) (program.runFrom w).2 := rfl
  rw [unfolded]
  rcases program.runFrom w with ⟨outcome, after⟩
  cases outcome <;> rfl

end Program

def vectorUnder (name : String) : Program (Contents × Header) := do
  let some x := (← get).lookup? name | throw (.unbound name)
  let some v := x.vector? | throw (.notVector name)
  return v

def demand (name : String) (edit : Edit Element) (contents : Contents) : Program Contents :=
  match contents.edit edit with
  | .error .elementType => throw (.elementType name)
  | .error (.refused fault) => throw (.refused fault)
  | .ok written => return written

/-- Write access to the vector under a name: the header under which it may be written in place. A
vector that is shared or refuses writes is copied for it. -/
def access (name : String) (contents : Contents) (header : Header) (incoming : Nat) :
    Program Header := do
  let w ← get
  if header.isMutable && w.holders header.storage + incoming == 1 then
    return header
  else
    let own := { header with storage := w.supply.storage, isMutable := true }
    set { w.bind name (contents.under own) with supply := w.supply.storageTaken }
    return own

def fill (own : Header) (written : Contents) : Program Answer := do
  modify fun w => w.overwrite own.storage written
  return .value (written.under own)

def editInSteps (name : String) (edit : Edit Element) : Program Answer := do
  let (contents, header) ← vectorUnder name
  let written ← demand name edit contents
  let own ← access name contents header
    ((edit.element?.map (ElementOf.holders header.storage)).getD 0)
  fill own written

section Steps

variable {w : Workspace} {name : String} {contents : Contents} {header : Header}

theorem vector_under_run (name : String) (w : Workspace) :
    (vectorUnder name).runFrom w =
      match w.lookup? name with
      | none => (.error (.unbound name), w)
      | some x =>
          match x.vector? with
          | none => (.error (.notVector name), w)
          | some v => (.ok v, w) := by
  simp only [vectorUnder, Program.run_bind, Program.run_get]
  cases w.lookup? name with
  | none => rfl
  | some x => cases vector : x.vector? <;> simp only [vector] <;> rfl

theorem demand_run (name : String) (edit : Edit Element) (contents : Contents) (w : Workspace) :
    (demand name edit contents).runFrom w =
      match contents.edit edit with
      | .error .elementType => (.error (.elementType name), w)
      | .error (.refused fault) => (.error (.refused fault), w)
      | .ok written => (.ok written, w) := by
  rw [demand]
  cases contents.edit edit with
  | error fault => cases fault <;> rfl
  | ok written => rfl

theorem alone_of_copied (sound : w.Sound) {copied : Workspace} {own : Header}
    (bound : w.lookup? name = some (contents.under header))
    (copies : Rebinds w copied name (contents.under own))
    (ahead : w.supply.storage ≤ own.storage) :
    copied.OnlyUnder name contents own.storage ∧
      ∀ x ∈ copied.pool.entries, own.storage ∉ x.storages := by
  have unused {y : Value} (behind : ∀ storage ∈ y.storages, storage < w.supply.storage) :
      own.storage ∉ y.storages :=
    fun lives => absurd (behind own.storage lives) (Nat.not_lt.mpr ahead)
  refine ⟨⟨?_, ?_⟩, ?_⟩
  · intro v inside same
    have standing : w.root? (.handle name) = some (contents.under header) := bound
    have absent := unused (sound.behind standing)
    rw [Value.storages_eq_vectors, ContentsOf.vectors_under, ← same] at absent
    exact absent (List.mem_map_of_mem (List.mem_cons_of_mem _ inside))
  · intro root y different found
    rw [copies.root_other different] at found
    exact unused (sound.behind found)
  · intro x pooled
    rw [copies.pool] at pooled
    exact unused (sound.pool_behind pooled)

/-- Write access and a write after it come to what a write comes to. -/
theorem access_fill (sound : w.Sound) {supply : Supply}
    (grows : w.supply.storage ≤ supply.storage)
    (bound : w.lookup? name = some (contents.under header)) (written : Contents) (incoming : Nat) :
    let made : Workspace := { w with supply := supply }
    let stepped :=
      (access name contents header incoming >>= fun own => fill own written).runFrom made
    stepped.1 = .ok (.value (made.write name header written incoming).1) ∧
      ∀ l, stepped.2.at? l = (made.write name header written incoming).2.at? l := by
  intro made stepped
  by_cases alone : (header.isMutable && made.holders header.storage + incoming == 1) = true
  · have inPlace : stepped =
        (.ok (.value (written.under header)), made.overwrite header.storage written) := by
      simp only [stepped, access, Program.run_bind, Program.run_get, if_pos alone]
      rfl
    rw [inPlace, write, if_pos alone]
    exact ⟨rfl, fun _ => rfl⟩
  · let own : Header := { header with storage := supply.storage, isMutable := true }
    let copied : Workspace :=
      { made.bind name (contents.under own) with supply := supply.storageTaken }
    have moved : stepped =
        (.ok (.value (written.under own)), copied.overwrite own.storage written) := by
      simp only [stepped, access, Program.run_bind, Program.run_get, if_neg alone]
      rfl
    rw [moved, write, if_neg alone]
    refine ⟨rfl, ?_⟩
    have copies : Rebinds w copied name (contents.under own) := rebinds_bind w _ name _
    rcases alone_of_copied sound bound copies grows with ⟨only, pooled⟩
    have fills : Rebinds copied (copied.overwrite own.storage written) name (written.under own) :=
      rebinds_overwrite copies.target only pooled
    exact (copies.trans fills).at_unique (rebinds_bind w _ name _)

theorem edit_in_steps_found {x : Value} (bound : w.lookup? name = some x)
    (vector : x.vector? = some (contents, header)) (edit : Edit Element) :
    (editInSteps name edit).runFrom w =
      (demand name edit contents >>= fun written =>
        access name contents header
          ((edit.element?.map (ElementOf.holders header.storage)).getD 0) >>= fun own =>
            fill own written).runFrom w := by
  rw [editInSteps, Program.run_bind, vector_under_run, bound]
  simp only [vector]

/-- Whatever the edit and whether it is refused, its steps end where it ends. -/
theorem edit_in_steps (sound : w.Sound) {edit : Edit Ingredient} {prepared : Edit Element}
    {supply : Supply} (prepares : w.prepareEdit edit = .ok (prepared, supply)) :
    let stepped := (editInSteps name prepared).runFrom { w with supply := supply }
    stepped.1 = (w.perform (.edit name edit)).1 ∧
      ∀ l, stepped.2.at? l = (w.perform (.edit name edit)).2.at? l := by
  have sameBound : ({ w with supply := supply } : Workspace).lookup? name = w.lookup? name := rfl
  intro stepped
  cases bound : w.lookup? name with
  | none =>
      simp only [stepped, editInSteps, Program.run_bind, vector_under_run, sameBound, bound,
        perform]
      exact ⟨trivial, fun _ => rfl⟩
  | some x =>
      cases vector : x.vector? with
      | none =>
          simp only [stepped, editInSteps, Program.run_bind, vector_under_run, sameBound, bound,
            vector, perform]
          exact ⟨trivial, fun _ => rfl⟩
      | some v =>
          rcases v with ⟨contents, header⟩
          simp only [stepped, edit_in_steps_found (sameBound.trans bound) vector, perform, bound,
            vector, editVector, prepares]
          rw [Program.run_bind, demand_run]
          cases edited : contents.edit prepared with
          | error fault => cases fault <;> exact ⟨rfl, fun _ => rfl⟩
          | ok written =>
              rw [Value.eq_under_of_vector vector] at bound
              exact access_fill sound (prepare_edit_brings prepares).1 bound written _

end Steps

end Taxon.Workspace
