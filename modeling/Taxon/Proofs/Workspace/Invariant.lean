import Mathlib.Data.List.Nodup
import Taxon.Proofs.Value.Build
import Taxon.Proofs.Workspace.Step

/-!
The invariant of a workspace. Whoever lives in one storage shows the same elements, the supply is
ahead of every storage in use, and the storages of the pool stay with the pool: nothing that lives
there may be written in place. One lemma says when binding a name keeps all this; each kind of
origin is an instance of it, and a run follows by induction on its actions.
-/

set_option autoImplicit false

namespace Taxon

namespace Pool

theorem shared_storages :
    (Pool.shared.entries.flatMap Value.vectors).map (fun v => v.2.storage) = List.range Pool.span :=
  rfl

theorem shared_frozen : ∀ v ∈ Pool.shared.entries.flatMap Value.vectors, v.2.isMutable = false := by
  intro v member
  simp only [shared, build, entries, Value.freeze, List.flatMap_cons, List.flatMap_nil,
    Value.vectors, Value.vectorsOfAll, List.cons_append, List.nil_append, List.mem_cons,
    List.not_mem_nil, or_false] at member
  rcases member with rfl | rfl | rfl | rfl | rfl | rfl | rfl | rfl | rfl <;> rfl

end Pool

theorem Value.vectors_distinct {x : Value} (distinct : x.storages.Nodup)
    {u v : Contents × Header} (uInside : u ∈ x.vectors) (vInside : v ∈ x.vectors)
    (same : u.2.storage = v.2.storage) : u = v := by
  rw [Value.storages_eq_vectors] at distinct
  exact List.inj_on_of_nodup_map distinct uInside vInside same

namespace Workspace

structure Sound (w : Workspace) : Prop where
  pool : w.pool = Pool.shared
  coherent : ∀ u v, w.Holds u → w.Holds v → u.2.storage = v.2.storage → u.1 = v.1
  bounded : ∀ v, w.Holds v → v.2.storage < w.supply.storage
  constant : ∀ v, w.Holds v → v.2.storage < Pool.span → v.2.isMutable = false
  spanned : Pool.span ≤ w.supply.storage

theorem holds_bound {w : Workspace} {name : String} {x : Value} (bound : w.lookup? name = some x) :
    ∀ v ∈ x.vectors, w.Holds v :=
  fun _ inside => ⟨.handle name, x, bound, inside⟩

namespace Sound

variable {w : Workspace} {x : Value}

/-- The supply is ahead of every storage that is in use. -/
theorem behind (sound : w.Sound) {root : Root} (found : w.root? root = some x) :
    ∀ storage ∈ x.storages, storage < w.supply.storage := by
  intro storage lives
  rcases Value.exists_vector_of_storage lives with ⟨v, inside, same⟩
  rw [← same]
  exact sound.bounded v ⟨root, x, found, inside⟩

theorem pool_behind (sound : w.Sound) (pooled : x ∈ w.pool.entries) :
    ∀ storage ∈ x.storages, storage < w.supply.storage := by
  intro storage lives
  rw [sound.pool] at pooled
  rcases Value.exists_vector_of_storage lives with ⟨v, inside, same⟩
  have named : storage ∈ List.range Pool.span := by
    rw [← Pool.shared_storages, ← same]
    exact List.mem_map_of_mem (List.mem_flatMap.mpr ⟨x, pooled, inside⟩)
  exact Nat.lt_of_lt_of_le (List.mem_range.mp named) sound.spanned

end Sound

theorem empty_holds {v : Contents × Header} (held : Workspace.empty.Holds v) :
    v ∈ Pool.shared.entries.flatMap Value.vectors := by
  rcases held with ⟨root, x, found, inside⟩
  have pooled : x ∈ Pool.shared.entries := by
    cases root with
    | handle name => cases found
    | pooledEmpty kind => exact Pool.empty_mem_entries found
    | pooledLogical truth =>
        rw [root?, Option.some.injEq] at found
        rw [← found]
        exact Pool.logical_mem_entries Pool.shared truth
  exact List.mem_flatMap.mpr ⟨x, pooled, inside⟩

theorem empty_sound : Workspace.empty.Sound where
  pool := rfl
  coherent := by
    intro u v uHeld vHeld same
    have distinct : ((Pool.shared.entries.flatMap Value.vectors).map
        fun v => v.2.storage).Nodup := by
      rw [Pool.shared_storages]
      exact List.nodup_range
    have equal := List.inj_on_of_nodup_map distinct (empty_holds uHeld) (empty_holds vHeld) same
    rw [equal]
  bounded := by
    intro v held
    have named : v.2.storage ∈ List.range Pool.span := by
      rw [← Pool.shared_storages]
      exact List.mem_map_of_mem (empty_holds held)
    exact List.mem_range.mp named
  constant := fun v held _ => Pool.shared_frozen v (empty_holds held)
  spanned := Nat.le_refl _

/-- Binding a name keeps the invariant when the vectors of the new value fall into two parts: those
in storages that are fresh, which nothing else lives in, and those that were held before. -/
theorem sound_of_rebinds {w after : Workspace} {name : String} {x : Value} (sound : w.Sound)
    (rebinds : Rebinds w after name x) (grows : w.supply.storage ≤ after.supply.storage)
    (fresh : Nat → Prop)
    (old : ∀ v ∈ x.vectors, ¬fresh v.2.storage → ∃ u, w.Holds u ∧ u.1 = v.1 ∧
      u.2.storage = v.2.storage ∧ (v.2.isMutable = true → u.2.isMutable = true))
    (new : ∀ v ∈ x.vectors, fresh v.2.storage →
      Pool.span ≤ v.2.storage ∧ v.2.storage < after.supply.storage)
    (apart : ∀ u ∈ x.vectors, ∀ v ∈ x.vectors, fresh u.2.storage →
      u.2.storage = v.2.storage → u.1 = v.1)
    (away : ∀ root y, root ≠ .handle name → w.root? root = some y →
      ∀ v ∈ y.vectors, ¬fresh v.2.storage) : after.Sound := by
  have traced (v : Contents × Header) (held : after.Holds v) :
      (v ∈ x.vectors ∧ fresh v.2.storage) ∨ (¬fresh v.2.storage ∧ ∃ u, w.Holds u ∧ u.1 = v.1 ∧
        u.2.storage = v.2.storage ∧ (v.2.isMutable = true → u.2.isMutable = true)) := by
    rcases rebinds.holds held with inside | ⟨root, y, different, found, inside⟩
    · by_cases isFresh : fresh v.2.storage
      · exact .inl ⟨inside, isFresh⟩
      · exact .inr ⟨isFresh, old v inside isFresh⟩
    · exact .inr ⟨away root y different found v inside, v, ⟨root, y, found, inside⟩, rfl, rfl, id⟩
  refine ⟨rebinds.pool.trans sound.pool, ?_, ?_, ?_, Nat.le_trans sound.spanned grows⟩
  · intro u v uHeld vHeld same
    rcases traced u uHeld with ⟨uInside, uFresh⟩ | ⟨uOld, u', uBefore, uSame, uStorage, _⟩
    · rcases traced v vHeld with ⟨vInside, _⟩ | ⟨vOld, _⟩
      · exact apart u uInside v vInside uFresh same
      · exact absurd (same ▸ uFresh) vOld
    · rcases traced v vHeld with ⟨_, vFresh⟩ | ⟨_, v', vBefore, vSame, vStorage, _⟩
      · exact absurd (same ▸ vFresh) uOld
      · rw [← uSame, ← vSame]
        exact sound.coherent u' v' uBefore vBefore (by rw [uStorage, vStorage, same])
  · intro v held
    rcases traced v held with ⟨inside, isFresh⟩ | ⟨_, u, before, _, storage, _⟩
    · exact (new v inside isFresh).2
    · rw [← storage]
      exact Nat.lt_of_lt_of_le (sound.bounded u before) grows
  · intro v held pooled
    rcases traced v held with ⟨inside, isFresh⟩ | ⟨_, u, before, _, storage, flag⟩
    · exact absurd pooled (Nat.not_lt.mpr (new v inside isFresh).1)
    · have frozen := sound.constant u before (by rw [storage]; exact pooled)
      by_contra raised
      rw [Bool.not_eq_false] at raised
      rw [flag raised] at frozen
      cases frozen

/-- What an edit brings was held before, or was built from the supply. -/
theorem prepare_edit_brings {w : Workspace} {edit : Edit Ingredient} {prepared : Edit Element}
    {supply : Supply} (prepares : w.prepareEdit edit = .ok (prepared, supply)) :
    w.supply.storage ≤ supply.storage ∧ ∀ y, prepared.element? = some (.value y) →
      (∀ v ∈ y.vectors, w.Holds v) ∨ w.supply.Named supply y.storages := by
  rcases (prepare_edit_prepared prepares).1 with
    ⟨_, absent, same⟩ | ⟨ingredient, element, _, brings, preparedBy⟩
  · rw [absent, same]
    exact ⟨Nat.le_refl _, fun y impossible => by cases impossible⟩
  · rw [brings]
    cases preparedBy with
    | element given =>
        have again : w.Prepared (.element given) (given.map Empty.elim) w.supply := .element given
        refine ⟨Nat.le_refl _, fun y isValue => ?_⟩
        exact absurd (Option.some.inj isValue) (prepared_element again y)
    | construct built =>
        have named := Blueprint.build_named _ built
        refine ⟨named.grows, fun y isValue => ?_⟩
        rw [Option.some.injEq, ElementOf.value.injEq] at isValue
        rw [← isValue]
        exact .inr named
    | clone bound =>
        refine ⟨Nat.le_refl _, fun y isValue => ?_⟩
        rw [Option.some.injEq, ElementOf.value.injEq] at isValue
        rw [← isValue]
        exact .inl (holds_bound bound)

namespace Write

variable {w : Workspace} {name : String} {edit : Edit Ingredient} {x : Value} {after : Supply}

/-- Every vector among the written elements was held before or came fresh from the supply, and none
lives in the storage that is written. -/
theorem inner (write : w.Write name edit x after) (sound : w.Sound) :
    ∀ v ∈ write.written.inner, v.2.storage ≠ write.storage ∧ (w.Holds v ∨
      ∃ y, write.prepared.element? = some (.value y) ∧ v ∈ y.vectors ∧
        w.supply.Named write.supply y.storages) := by
  rcases prepare_edit_brings write.prepares with ⟨grows, brings⟩
  intro v inside
  have heldBefore (held : w.Holds v) (movedAway : write.storage = write.supply.storage) :
      v.2.storage ≠ write.storage := by
    have below := sound.bounded v held
    omega
  rcases ContentsOf.inner_edit write.edited v inside with kept | ⟨y, isElement, inY⟩
  · have held : w.Holds v := by
      refine holds_bound write.bound v ?_
      rw [ContentsOf.vectors_under]
      exact List.mem_cons_of_mem _ kept
    refine ⟨?_, .inl held⟩
    rcases write.housed with ⟨_, _, _, alone, _⟩ | ⟨moved, _⟩
    · exact alone.inside v kept
    · exact heldBefore held moved
  · have inStorages := Value.mem_storages_of_vectors inY
    rcases brings y isElement with held | named
    · refine ⟨?_, .inl (held v inY)⟩
      rcases write.housed with ⟨_, _, _, _, elsewhere⟩ | ⟨moved, _⟩
      · exact fun same => elsewhere y isElement (same ▸ inStorages)
      · exact heldBefore (held v inY) moved
    · refine ⟨?_, .inr ⟨y, isElement, inY, named⟩⟩
      rcases write.housed with ⟨_, _, _, _, elsewhere⟩ | ⟨moved, _⟩
      · exact fun same => elsewhere y isElement (same ▸ inStorages)
      · have below := (named.within _ inStorages).2
        omega

theorem grows (write : w.Write name edit x after) :
    w.supply.storage ≤ write.supply.storage ∧ write.supply.storage ≤ after.storage := by
  refine ⟨(prepare_edit_brings write.prepares).1, ?_⟩
  rcases write.housed with ⟨_, same, _⟩ | ⟨_, taken⟩
  · exact Nat.le_of_eq (congrArg Supply.storage same).symm
  · have next : after.storage = write.supply.storage + 1 := congrArg Supply.storage taken
    omega

/-- The written storage is taken by nothing else that stays, is none of the pool's, and is behind
the supply. -/
theorem beside (write : w.Write name edit x after) (sound : w.Sound) :
    (∀ root y, root ≠ .handle name → w.root? root = some y → write.storage ∉ y.storages) ∧
      Pool.span ≤ write.storage ∧ write.storage < after.storage := by
  rcases write.grows with ⟨grows, _⟩
  have held : w.Holds (write.contents, write.header) := by
    refine holds_bound write.bound _ ?_
    rw [ContentsOf.vectors_under]
    exact List.mem_cons_self
  rcases write.housed with ⟨stays, same, mutable, alone, _⟩ | ⟨moved, taken⟩
  · have below : write.header.storage < w.supply.storage := sound.bounded _ held
    refine ⟨alone.beside, ?_, ?_⟩
    · by_contra pooled
      have frozen := sound.constant _ held (by rw [← stays]; exact Nat.lt_of_not_le pooled)
      rw [mutable] at frozen
      cases frozen
    · have next : after.storage = write.supply.storage := congrArg Supply.storage same
      omega
  · refine ⟨?_, ?_, ?_⟩
    · intro root y _ found lives
      have below := sound.behind found write.storage lives
      omega
    · have spanned := sound.spanned
      omega
    · have next : after.storage = write.supply.storage + 1 := congrArg Supply.storage taken
      omega

theorem sound {final : Workspace} (write : w.Write name edit x final.supply) (sound : w.Sound)
    (rebinds : Rebinds w final name x) : final.Sound := by
  have inner := write.inner sound
  rcases write.beside sound with ⟨beside, unpooled, below⟩
  rcases write.grows with ⟨grows, supplied⟩
  have parts : ∀ v ∈ x.vectors,
      v.2.storage = write.storage ∧ v.1 = write.written ∨ v ∈ write.written.inner := by
    intro v inside
    rw [write.shape, ContentsOf.vectors_under, List.mem_cons] at inside
    rcases inside with rfl | inside
    · exact .inl ⟨rfl, rfl⟩
    · exact .inr inside
  apply sound_of_rebinds sound rebinds (Nat.le_trans grows supplied)
    (fun s => s = write.storage ∨ w.supply.storage ≤ s)
  · intro v inside stale
    rw [not_or, Nat.not_le] at stale
    rcases parts v inside with ⟨same, _⟩ | inside
    · exact absurd same stale.1
    · rcases (inner v inside).2 with held | ⟨y, _, inY, named⟩
      · exact ⟨v, held, rfl, rfl, id⟩
      · have lower := (named.within _ (Value.mem_storages_of_vectors inY)).1
        omega
  · intro v inside isFresh
    rcases parts v inside with ⟨same, _⟩ | inside
    · rw [same]
      exact ⟨unpooled, below⟩
    · rcases inner v inside with ⟨elsewhere, held | ⟨y, _, inY, named⟩⟩
      · have bounded := sound.bounded v held
        rcases isFresh with same | ahead
        · exact absurd same elsewhere
        · omega
      · have bounds := named.within _ (Value.mem_storages_of_vectors inY)
        exact ⟨Nat.le_trans sound.spanned bounds.1, Nat.lt_of_lt_of_le bounds.2 supplied⟩
  · intro u uInside v vInside isFresh same
    rcases parts u uInside with ⟨uSame, uContents⟩ | uInner
    · rcases parts v vInside with ⟨_, vContents⟩ | vInner
      · rw [uContents, vContents]
      · exact absurd (same.symm.trans uSame) (inner v vInner).1
    · rcases parts v vInside with ⟨vSame, _⟩ | vInner
      · exact absurd (same.trans vSame) (inner u uInner).1
      · rcases (inner u uInner).2 with uHeld | ⟨y, isElement, uIn, named⟩
        · rcases isFresh with written | ahead
          · exact absurd written (inner u uInner).1
          · exact absurd (sound.bounded u uHeld) (Nat.not_lt.mpr ahead)
        · have lower := (named.within _ (Value.mem_storages_of_vectors uIn)).1
          rcases (inner v vInner).2 with vHeld | ⟨z, isElement', vIn, _⟩
          · have bounded := sound.bounded v vHeld
            omega
          · rw [isElement, Option.some.injEq, ElementOf.value.injEq] at isElement'
            rw [← isElement'] at vIn
            rw [Value.vectors_distinct named.distinct uIn vIn same]
  · intro root y different found v inside isFresh
    rcases isFresh with same | ahead
    · exact beside root y different found (same ▸ Value.mem_storages_of_vectors inside)
    · exact absurd (sound.bounded v ⟨root, y, found, inside⟩) (Nat.not_lt.mpr ahead)

end Write

/-- Binding a value whose vectors were all held before keeps the invariant. -/
theorem sound_of_held {w after : Workspace} {name : String} {x : Value} (sound : w.Sound)
    (rebinds : Rebinds w after name x) (same : after.supply = w.supply)
    (held : ∀ v ∈ x.vectors, ∃ u, w.Holds u ∧ u.1 = v.1 ∧ u.2.storage = v.2.storage ∧
      (v.2.isMutable = true → u.2.isMutable = true)) : after.Sound := by
  have grows : w.supply.storage ≤ after.supply.storage :=
    Nat.le_of_eq (congrArg Supply.storage same).symm
  apply sound_of_rebinds sound rebinds grows (fun _ => False)
  · exact fun v inside _ => held v inside
  · exact fun v _ impossible => impossible.elim
  · exact fun u _ v _ impossible => impossible.elim
  · exact fun root y _ _ v _ impossible => impossible

theorem sound_of_named {w after : Workspace} {name : String} {x : Value} (sound : w.Sound)
    (rebinds : Rebinds w after name x) (named : w.supply.Named after.supply x.storages) :
    after.Sound := by
  have bounds (v : Contents × Header) (inside : v ∈ x.vectors) :=
    named.within _ (Value.mem_storages_of_vectors inside)
  apply sound_of_rebinds sound rebinds named.grows (fun s => w.supply.storage ≤ s)
  · exact fun v inside stale => absurd (bounds v inside).1 stale
  · exact fun v inside _ => ⟨Nat.le_trans sound.spanned (bounds v inside).1, (bounds v inside).2⟩
  · intro u uInside v vInside _ same
    rw [Value.vectors_distinct named.distinct uInside vInside same]
  · intro root y _ found v inside
    exact Nat.not_le.mpr (sound.bounded v ⟨root, y, found, inside⟩)

theorem emptied_named (supply : Supply) (contents : Contents) :
    supply.Named supply.storageTaken (contents.emptied.under supply.header).storages := by
  have only : (contents.emptied.under supply.header).storages = [supply.storage] := by
    cases contents <;> rfl
  rw [only]
  exact (Supply.Named.none supply).cons

theorem holds_of_drop {w : Workspace} {name : String} {v : Contents × Header}
    (held : ({ w with bindings := w.bindings.drop name } : Workspace).Holds v) : w.Holds v := by
  rcases held with ⟨root, x, found, inside⟩
  cases root with
  | handle other =>
      by_cases same : other = name
      · rw [root?, lookup?, same, Bindings.lookup_drop_same] at found
        cases found
      · rw [root?, lookup?, Bindings.lookup_drop_other _ same] at found
        exact ⟨.handle other, x, found, inside⟩
  | pooledEmpty kind => exact ⟨.pooledEmpty kind, x, found, inside⟩
  | pooledLogical truth => exact ⟨.pooledLogical truth, x, found, inside⟩

theorem step_sound {w after : Workspace} {action : Action} {answer : Except Fault Answer}
    (sound : w.Sound) (step : w.Step action answer after) : after.Sound := by
  cases step with
  | refused fault => exact sound
  | nothing => exact sound
  | dropped existed drops =>
      refine ⟨sound.pool, ?_, ?_, ?_, sound.spanned⟩
      · intro u v uHeld vHeld same
        exact sound.coherent u v (holds_of_drop uHeld) (holds_of_drop vHeld) same
      · exact fun v held => sound.bounded v (holds_of_drop held)
      · exact fun v held => sound.constant v (holds_of_drop held)
  | @bound x after origin rebinds =>
      generalize final : after.supply = supply at origin
      cases origin with
      | built built =>
          rw [← final] at built
          exact sound_of_named sound rebinds (Blueprint.build_named _ built)
      | copied source found =>
          exact sound_of_held sound rebinds final
            fun v inside => ⟨v, holds_at found v inside, rfl, rfl, id⟩
      | restyled restyles bound restyled =>
          apply sound_of_held sound rebinds final
          intro v inside
          rcases restyled.vectors v inside with ⟨u, before, same⟩
          exact ⟨u, holds_bound bound u before, same⟩
      | emptied bound =>
          apply sound_of_named sound rebinds
          rw [final]
          exact emptied_named w.supply _
      | written write =>
          rw [← final] at write
          exact write.sound sound rebinds

theorem perform_sound {w : Workspace} (sound : w.Sound) (action : Action) :
    (w.perform action).2.Sound :=
  step_sound sound (perform_step w action)

/-- The invariant holds in every state that a run goes through. -/
theorem run_sound {w : Workspace} (sound : w.Sound) (actions : List Action) :
    (w.run actions).Sound := by
  induction actions generalizing w with
  | nil => exact sound
  | cons action rest induction => exact induction (perform_sound sound action)

end Workspace

end Taxon
