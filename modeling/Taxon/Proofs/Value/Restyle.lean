import Taxon.Proofs.Value.Vectors

/-!
Changes of a value's class and flag. They touch the outermost header and nothing else: elements,
storage and whatever lives inside stay, and the flag is never raised.
-/

set_option autoImplicit false

namespace Taxon

/-- One value becomes another by a change of its class or by a fall of its flag. -/
inductive Value.Restyled : Value → Value → Prop where
  | vector (contents : Contents) {header styled : Header}
      (storage : styled.storage = header.storage)
      (flag : styled.isMutable = true → header.isMutable = true) :
      Restyled (contents.under header) (contents.under styled)
  | other {x y : Value} (before : x.vector? = none) (after : y.vector? = none) : Restyled x y

namespace Value

theorem restyled_set_class {x y : Value} {cls : Option Class} (set : x.setClass cls = .ok y) :
    Restyled x y := by
  cases x with
  | atoms elements header =>
      rw [setClass, Except.ok.injEq] at set
      rw [← set]
      exact .vector (.atoms elements) rfl id
  | list elements header =>
      rw [setClass, Except.ok.injEq] at set
      rw [← set]
      exact .vector (.values elements) rfl id
  | function name arity old =>
      rw [setClass, Except.ok.injEq] at set
      rw [← set]
      exact .other rfl rfl
  | environment name old =>
      rw [setClass, Except.ok.injEq] at set
      rw [← set]
      exact .other rfl rfl
  | _ => simp [setClass] at set

theorem restyled_freeze (x : Value) : Restyled x x.freeze := by
  cases x with
  | atoms elements header => exact .vector (.atoms elements) rfl (fun raised => by simp at raised)
  | list elements header => exact .vector (.values elements) rfl (fun raised => by simp at raised)
  | _ => exact .other rfl rfl

namespace Restyled

variable {x y : Value}

theorem refl (x : Value) : Restyled x x := by
  cases vector : x.vector? with
  | none => exact .other vector vector
  | some v =>
      rw [eq_under_of_vector vector]
      exact .vector v.1 rfl id

theorem cell (restyled : Restyled x y) : y.cell? = x.cell? := by
  cases restyled with
  | vector contents storage flag =>
      rw [cell?, cell?, ContentsOf.vector_under, ContentsOf.vector_under, Option.map_some,
        Option.map_some, storage]
  | other before after => rw [cell?, cell?, before, after]

theorem flag (restyled : Restyled x y) (raised : y.isMutable = true) : x.isMutable = true := by
  cases restyled with
  | vector contents storage flag =>
      rw [ContentsOf.mutable_under] at raised ⊢
      exact flag raised
  | other before after => cases y <;> simp_all [vector?, isMutable, header?]

theorem vectors (restyled : Restyled x y) : ∀ v ∈ y.vectors, ∃ u ∈ x.vectors,
    u.1 = v.1 ∧ u.2.storage = v.2.storage ∧ (v.2.isMutable = true → u.2.isMutable = true) := by
  intro v inside
  cases restyled with
  | @vector contents header styled storage flag =>
      simp only [ContentsOf.vectors_under, List.mem_cons] at inside ⊢
      rcases inside with rfl | inner
      · exact ⟨(contents, header), .inl rfl, rfl, storage.symm, flag⟩
      · exact ⟨v, .inr inner, rfl, rfl, id⟩
  | other before after =>
      rw [vectors_of_no_vector after] at inside
      cases inside

theorem storages (restyled : Restyled x y) : y.storages = x.storages := by
  rw [storages_eq_vectors, storages_eq_vectors]
  cases restyled with
  | vector contents storage flag => simp [ContentsOf.vectors_under, storage]
  | other before after => rw [vectors_of_no_vector after, vectors_of_no_vector before]

/-- What lies behind at least one step of a path is the same. -/
theorem at_inner (restyled : Restyled x y) (place : Nat) (path : List Nat) :
    y.at? (place :: path) = x.at? (place :: path) := by
  cases restyled with
  | vector contents storage flag => cases contents <;> rfl
  | other before after =>
      have listless {z : Value} (absent : z.vector? = none) : z.asList? = none := by
        cases z <;> simp_all [vector?, asList?]
      simp [at?, listless before, listless after]

end Restyled

end Value

end Taxon
