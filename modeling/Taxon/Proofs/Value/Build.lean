import Taxon.Proofs.Outcome
import Taxon.Proofs.Value.Restyle
import Taxon.Value.Blueprint

/-!
What building a value does to the supply of names. Every vector that is built takes a storage name
of its own from the supply, so the names of one construction are pairwise different and different
from every name given out before.
-/

set_option autoImplicit false

namespace Taxon

/-- The storages were named between two states of the supply, each of them once. -/
structure Supply.Named (before after : Supply) (storages : List Nat) : Prop where
  grows : before.storage ≤ after.storage
  within : ∀ s ∈ storages, before.storage ≤ s ∧ s < after.storage
  distinct : storages.Nodup

namespace Supply.Named

variable {before middle after : Supply}

theorem none (supply : Supply) : Named supply supply [] :=
  ⟨Nat.le_refl _, by simp, List.nodup_nil⟩

theorem append {left right : List Nat} (first : Named before middle left)
    (second : Named middle after right) : Named before after (left ++ right) where
  grows := Nat.le_trans first.grows second.grows
  within := by
    intro s member
    rcases List.mem_append.mp member with early | late
    · have bounds := first.within s early
      exact ⟨bounds.1, Nat.lt_of_lt_of_le bounds.2 second.grows⟩
    · have bounds := second.within s late
      exact ⟨Nat.le_trans first.grows bounds.1, bounds.2⟩
  distinct := by
    refine List.nodup_append.mpr ⟨first.distinct, second.distinct, ?_⟩
    intro s early t late
    have upper := (first.within s early).2
    have lower := (second.within t late).1
    omega

theorem later {storages : List Nat} (named : Named before middle storages)
    (grows : middle.storage ≤ after.storage) : Named before after storages where
  grows := Nat.le_trans named.grows grows
  within := by
    intro s member
    have bounds := named.within s member
    exact ⟨bounds.1, Nat.lt_of_lt_of_le bounds.2 grows⟩
  distinct := named.distinct

theorem cons {storages : List Nat} (inner : Named before after storages) :
    Named before after.storageTaken (after.storage :: storages) where
  grows := Nat.le_succ_of_le inner.grows
  within := by
    intro s member
    rcases List.mem_cons.mp member with rfl | old
    · exact ⟨inner.grows, Nat.lt_succ_self _⟩
    · have bounds := inner.within s old
      exact ⟨bounds.1, Nat.lt_succ_of_lt bounds.2⟩
  distinct := by
    refine List.nodup_cons.mpr ⟨?_, inner.distinct⟩
    intro old
    exact Nat.lt_irrefl _ (inner.within _ old).2

end Supply.Named

namespace Blueprint

mutual

theorem build_named (source : Blueprint) {supply after : Supply} {x : Value}
    (built : source.build supply = .ok (x, after)) : supply.Named after x.storages := by
  cases source with
  | atoms elements =>
      rw [build, Except.ok.injEq, Prod.mk.injEq] at built
      obtain ⟨rfl, rfl⟩ := built
      exact (Supply.Named.none supply).cons
  | list elements =>
      rw [build] at built
      split at built
      · cases built
      · rename_i values middle inner
        rw [Except.ok.injEq, Prod.mk.injEq] at built
        obtain ⟨rfl, rfl⟩ := built
        exact (build_all_named elements inner).cons
  | classed base cls =>
      rw [build] at built
      split at built
      · cases built
      · rename_i y middle inner
        obtain ⟨z, set, same⟩ := Outcome.ok_of_map built
        rw [Prod.mk.injEq] at same
        obtain ⟨rfl, rfl⟩ := same
        rw [(Value.restyled_set_class set).storages]
        exact build_named base inner
  | frozen base =>
      rw [build] at built
      split at built
      · cases built
      · rename_i y middle inner
        rw [Except.ok.injEq, Prod.mk.injEq] at built
        obtain ⟨rfl, rfl⟩ := built
        rw [(Value.restyled_freeze y).storages]
        exact build_named base inner
  | foreign tag payload =>
      rw [build, Except.ok.injEq, Prod.mk.injEq] at built
      obtain ⟨rfl, rfl⟩ := built
      exact ⟨Nat.le_refl _, by simp [Value.storages], by simp [Value.storages]⟩
  | _ =>
      rw [build, Except.ok.injEq, Prod.mk.injEq] at built
      obtain ⟨rfl, rfl⟩ := built
      exact Supply.Named.none supply

theorem build_all_named (sources : List Blueprint) {supply after : Supply} {xs : List Value}
    (built : buildAll sources supply = .ok (xs, after)) :
    supply.Named after (Value.storagesOfAll xs) := by
  cases sources with
  | nil =>
      rw [buildAll, Except.ok.injEq, Prod.mk.injEq] at built
      obtain ⟨rfl, rfl⟩ := built
      exact Supply.Named.none supply
  | cons first rest =>
      rw [buildAll] at built
      split at built
      · cases built
      · rename_i x middle head
        split at built
        · cases built
        · rename_i ys last tail
          rw [Except.ok.injEq, Prod.mk.injEq] at built
          obtain ⟨rfl, rfl⟩ := built
          exact (build_named first head).append (build_all_named rest tail)

end

end Blueprint

end Taxon
