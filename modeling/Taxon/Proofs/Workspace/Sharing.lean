import Taxon.Proofs.Workspace.Invariant
import Taxon.Proofs.Workspace.Lineage

/-!
Who shares storage with whom. Vectors that share have the same elements, a vector that an action
carries keeps its companions, and a vector that an action wrote or constructed has none.
-/

set_option autoImplicit false

namespace Taxon

theorem Value.vectors_of_shares {x y : Value} (shared : x.sharesStorage y = true) :
    ∃ u v, x.vector? = some u ∧ y.vector? = some v ∧ u.2.storage = v.2.storage := by
  cases x <;> cases y <;>
    simp only [sharesStorage, Bool.and_eq_true, beq_iff_eq, Bool.false_eq_true] at shared
  case atoms.atoms elements header others other =>
    exact ⟨_, _, rfl, rfl, shared.2⟩
  case list.list elements header others other =>
    exact ⟨_, _, rfl, rfl, shared⟩

theorem ContentsOf.shares_under (contents : Contents) {header other : Header}
    (same : header.storage = other.storage) :
    (contents.under header).sharesStorage (contents.under other) = true := by
  cases contents <;> simp [under, Value.sharesStorage, same]

namespace Workspace

variable {w : Workspace} {action : Action}

theorem vector_of_cell {l : Location} {c : Contents × Nat} (cell : w.cell? l = some c) :
    ∃ x v, w.at? l = some x ∧ x.vector? = some v ∧ (v.1, v.2.storage) = c := by
  rw [cell?, Option.bind_eq_some_iff] at cell
  rcases cell with ⟨x, found, isCell⟩
  rw [Value.cell?, Option.map_eq_some_iff] at isCell
  rcases isCell with ⟨v, vector, same⟩
  exact ⟨x, v, found, vector, same⟩

theorem cell_of_vector {l : Location} {x : Value} {v : Contents × Header}
    (found : w.at? l = some x) (vector : x.vector? = some v) :
    w.cell? l = some (v.1, v.2.storage) := by
  rw [cell?, found, Option.bind_some, Value.cell?, vector, Option.map_some]

/-- Two vectors share storage exactly when they are the same elements in the same storage. -/
theorem shares_iff_cell (sound : w.Sound) (l m : Location) :
    w.shares l m = true ↔ ∃ c, w.cell? l = some c ∧ w.cell? m = some c := by
  constructor
  · intro shared
    rw [shares] at shared
    split at shared
    · rename_i x y xFound yFound
      rcases Value.vectors_of_shares shared with ⟨u, v, uVector, vVector, same⟩
      have uHeld := holds_at xFound u (Value.vector_mem_vectors uVector)
      have vHeld := holds_at yFound v (Value.vector_mem_vectors vVector)
      have elements : u.1 = v.1 := sound.coherent u v uHeld vHeld same
      refine ⟨(u.1, u.2.storage), cell_of_vector xFound uVector, ?_⟩
      rw [cell_of_vector yFound vVector, elements, same]
    · cases shared
  · rintro ⟨c, left, right⟩
    rcases vector_of_cell left with ⟨x, u, xFound, uVector, uSame⟩
    rcases vector_of_cell right with ⟨y, v, yFound, vVector, vSame⟩
    rw [← uSame, Prod.mk.injEq] at vSame
    rw [shares, xFound, yFound, Value.eq_under_of_vector uVector,
      Value.eq_under_of_vector vVector, vSame.1]
    exact ContentsOf.shares_under u.1 vSame.2.symm

theorem shares_of_cells {after : Workspace} {l l' m m' : Location} (sound : w.Sound)
    (afterSound : after.Sound) (left : after.cell? l' = w.cell? l)
    (right : after.cell? m' = w.cell? m) : after.shares l' m' = w.shares l m := by
  rw [Bool.eq_iff_iff, shares_iff_cell sound, shares_iff_cell afterSound, left, right]

theorem carried_shares (sound : w.Sound) {l l' m m' : Location} (left : w.Carried action l l')
    (right : w.Carried action m m') : (w.perform action).2.shares l' m' = w.shares l m :=
  shares_of_cells sound (perform_sound sound action) (carried_cell left) (carried_cell right)

theorem carried_of_restyles (restyles : action.restyles = true) (l : Location) :
    w.Carried action l l := by
  rcases l with ⟨root, path⟩
  by_cases onTarget : root = .handle action.target
  · rw [onTarget]
    exact .restyled path restyles
  · exact .beside onTarget

end Workspace

end Taxon
