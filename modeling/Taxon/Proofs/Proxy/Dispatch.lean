import Taxon.Proofs.Proxy.Registry

/-!
Dispatch along the class vector. A value is handled by the method of the leftmost name that has one,
so two registries that agree on the names of a class vector treat the value alike. A change of the
registry is felt only where its class stands, and only if no other registered name stands before it.
-/

set_option autoImplicit false

namespace Taxon

def Value.classNames (x : Value) : List String := (x.cls?.map Class.names).getD []

theorem Value.shares_itself {x : Value} {header : Header} (vector : x.header? = some header) :
    x.sharesStorage x = true := by
  cases x with
  | atoms elements header => simp [sharesStorage]
  | list elements header => simp [sharesStorage]
  | _ => cases vector

namespace Registry

/-- The name has this method, and no name before it has any; `right` is what stands after it. -/
def Leftmost (r : Registry) (names : List String) (name : String) (method : Method)
    (right : List String) : Prop :=
  ∃ before, names = before ++ name :: right ∧ r.method? name = some method ∧
    ∀ other ∈ before, r.method? other = none

/-- The class is among the names, and no other name before it has a method. -/
def InFront (r : Registry) (names : List String) (cls : String) : Prop :=
  ∃ before right, names = before ++ cls :: right ∧
    ∀ other ∈ before, other ≠ cls → r.method? other = none

def Passes (r : Registry) (x : Value) : Prop := ∀ name ∈ x.classNames, r.contains name = false

section Names

variable {r : Registry} {names right : List String} {cls name : String} {method : Method}

theorem method_register (r : Registry) (cls : String) (method : Method) (other : String) :
    (r.register cls method).method? other = if cls = other then some method else r.method? other :=
  method_place r.methods cls method other

theorem method_unregister (r : Registry) (cls other : String) :
    (r.unregister cls).method? other = if cls = other then none else r.method? other :=
  method_filter r.methods cls other

theorem unregister_none_iff (r : Registry) (cls other : String) :
    (r.unregister cls).method? other = none ↔ (other ≠ cls → r.method? other = none) := by
  rw [method_unregister]
  by_cases same : cls = other
  · simp [same]
  · simp [same, Ne.symm same]

theorem unregister_some_iff (r : Registry) (cls other : String) :
    (r.unregister cls).method? other = some method ↔
      other ≠ cls ∧ r.method? other = some method := by
  rw [method_unregister]
  by_cases same : cls = other
  · simp [same]
  · simp [same, Ne.symm same]

theorem first_of_cons (r : Registry) (name : String) (rest : List String) :
    r.firstOf? (name :: rest) =
      match r.method? name with
      | some method => some (name, method)
      | none => r.firstOf? rest := by
  rw [firstOf?, List.findSome?_cons]
  cases r.method? name <;> rfl

theorem first_of_iff :
    r.firstOf? names = some (name, method) ↔ ∃ right, r.Leftmost names name method right := by
  rw [firstOf?, List.findSome?_eq_some_iff]
  constructor
  · rintro ⟨before, found, right, split, lookup, absent⟩
    obtain ⟨selected, registered, pair⟩ := Option.map_eq_some_iff.mp lookup
    obtain ⟨rfl, rfl⟩ := Prod.mk.inj pair
    exact ⟨right, before, split, registered,
      fun other member => Option.map_eq_none_iff.mp (absent other member)⟩
  · rintro ⟨right, before, split, registered, absent⟩
    refine ⟨before, name, right, split, by rw [registered]; rfl, ?_⟩
    intro other member
    rw [absent other member]
    rfl

theorem first_of_none_iff : r.firstOf? names = none ↔ ∀ name ∈ names, r.method? name = none := by
  simp [firstOf?, List.findSome?_eq_none_iff]

theorem first_of_congr {s : Registry} (agree : ∀ name ∈ names, r.method? name = s.method? name) :
    r.firstOf? names = s.firstOf? names := by
  induction names with
  | nil => rfl
  | cons name rest induction =>
      have later := induction fun other member => agree other (List.mem_cons_of_mem name member)
      rw [first_of_cons, first_of_cons, agree name List.mem_cons_self, later]

theorem in_front_cons (r : Registry) (cls name : String) (rest : List String) :
    r.InFront (name :: rest) cls ↔ name = cls ∨ r.method? name = none ∧ r.InFront rest cls := by
  constructor
  · rintro ⟨before, right, split, absent⟩
    cases before with
    | nil => exact .inl (List.cons.inj split).1
    | cons first before =>
        obtain ⟨rfl, tails⟩ := List.cons.inj split
        by_cases same : name = cls
        · exact .inl same
        · exact .inr ⟨absent name List.mem_cons_self same, before, right, tails,
            fun other member => absent other (List.mem_cons_of_mem name member)⟩
  · rintro (rfl | ⟨unregistered, before, right, rfl, absent⟩)
    · exact ⟨[], rest, rfl, by simp⟩
    · refine ⟨name :: before, right, rfl, ?_⟩
      intro other member different
      rcases List.mem_cons.mp member with rfl | inBefore
      · exact unregistered
      · exact absent other inBefore different

/-- A class that stands in front takes the names over when it is registered. -/
theorem first_of_register_front (method : Method) (front : r.InFront names cls) :
    (r.register cls method).firstOf? names = some (cls, method) := by
  obtain ⟨before, right, rfl, absent⟩ := front
  induction before with
  | nil => rw [List.nil_append, first_of_cons, method_register, if_pos rfl]
  | cons first before induction =>
      have later := induction fun other member => absent other (List.mem_cons_of_mem first member)
      rw [List.cons_append, first_of_cons, method_register]
      -- The class may be repeated, so it can turn up before the place where it was split off.
      by_cases same : cls = first
      · rw [if_pos same, same]
      · rw [if_neg same, absent first List.mem_cons_self (Ne.symm same)]
        exact later

theorem first_of_register_behind (method : Method) (behind : ¬r.InFront names cls) :
    (r.register cls method).firstOf? names = r.firstOf? names := by
  induction names with
  | nil => rfl
  | cons name rest induction =>
      rw [in_front_cons, not_or] at behind
      obtain ⟨different, behind⟩ := behind
      rw [first_of_cons, first_of_cons, method_register, if_neg (Ne.symm different)]
      cases registered : r.method? name with
      | some other => rfl
      | none => exact induction fun front => behind ⟨registered, front⟩

theorem first_of_unregister_other (other : ∀ method, r.firstOf? names ≠ some (cls, method)) :
    (r.unregister cls).firstOf? names = r.firstOf? names := by
  induction names with
  | nil => rfl
  | cons name rest induction =>
      rw [first_of_cons] at other
      rw [first_of_cons, first_of_cons, method_unregister]
      cases registered : r.method? name with
      | some method =>
          have different : cls ≠ name := by
            rintro rfl
            exact other method (by rw [registered])
          rw [if_neg different]
      | none =>
          rw [registered] at other
          rw [ite_self]
          exact induction other

theorem first_of_unregister_selected (selected : r.Leftmost names cls method right) :
    (r.unregister cls).firstOf? names = (r.unregister cls).firstOf? right := by
  obtain ⟨before, rfl, _, absent⟩ := selected
  have nothing : (r.unregister cls).firstOf? before = none := by
    rw [first_of_none_iff]
    intro other member
    rw [method_unregister, absent other member, ite_self]
  rw [firstOf?, List.findSome?_append, ← firstOf?, ← firstOf?, nothing, Option.none_or,
    first_of_cons, method_unregister, if_pos rfl]

end Names

section Values

variable {r : Registry} {x : Value} {name : String} {method : Method} {right : List String}

theorem select_eq (r : Registry) (x : Value) : r.select? x = r.firstOf? x.classNames := by
  rw [select?, Value.classNames]
  cases x.cls? <;> rfl

theorem select_none_iff : r.select? x = none ↔ r.Passes x := by
  rw [select_eq, first_of_none_iff, Passes]
  simp only [contains, Option.isSome_eq_false_iff, Option.isNone_iff_eq_none]

theorem select_iff :
    r.select? x = some (name, method) ↔ ∃ right, r.Leftmost x.classNames name method right := by
  rw [select_eq, first_of_iff]

theorem reply_of_leftmost (leftmost : r.Leftmost x.classNames name method right) :
    Proxy.reply r x = ⟨method x, [⟨name, x⟩]⟩ := by
  have selected : r.select? x = some (name, method) := select_iff.mpr ⟨right, leftmost⟩
  simp only [Proxy.reply, selected]

theorem reply_of_passes (passes : r.Passes x) : Proxy.reply r x = ⟨.ok x, []⟩ := by
  have unselected : r.select? x = none := select_none_iff.mpr passes
  simp only [Proxy.reply, unselected, Method.identity]

theorem reply_of_select {s : Registry} (same : r.select? x = s.select? x) :
    Proxy.reply r x = Proxy.reply s x := by
  simp only [Proxy.reply, same]

end Values

/-- How a registry treats a value, and which changes of the registry the value feels. -/
structure DispatchLaw (r : Registry) (x : Value) : Prop where
  selected : ∀ name method,
    r.select? x = some (name, method) ↔ ∃ right, r.Leftmost x.classNames name method right
  unselected : r.select? x = none ↔ r.Passes x
  handled : ∀ name method right, r.Leftmost x.classNames name method right →
    Proxy.reply r x = ⟨method x, [⟨name, x⟩]⟩
  passed : r.Passes x → Proxy.reply r x = ⟨.ok x, []⟩ ∧
    ∀ header, x.header? = some header → x.sharesStorage x = true
  atMostOnce : (Proxy.reply r x).calls.length ≤ 1
  alike : ∀ s : Registry, (∀ name ∈ x.classNames, r.method? name = s.method? name) →
    r.select? x = s.select? x ∧ Proxy.reply r x = Proxy.reply s x
  registered : ∀ cls method,
    ((r.register cls method).select? x ≠ r.select? x → r.InFront x.classNames cls) ∧
      (r.InFront x.classNames cls → (r.register cls method).select? x = some (cls, method))
  unregistered : ∀ cls,
    (r.unregister cls).select? x ≠ r.select? x → ∃ method, r.select? x = some (cls, method)
  -- Where the selected class was, the next registered name to the right is selected.
  succeeded : ∀ cls method right, r.Leftmost x.classNames cls method right →
    (∀ next heir, (r.unregister cls).select? x = some (next, heir) ↔
      ∃ between rest, right = between ++ next :: rest ∧ next ≠ cls ∧ r.method? next = some heir ∧
        ∀ other ∈ between, other ≠ cls → r.method? other = none) ∧
    ((r.unregister cls).select? x = none ↔ ∀ other ∈ right, other ≠ cls → r.method? other = none)
  commute : ∀ cls method other substitute, cls ≠ other →
    ((r.register cls method).register other substitute).select? x =
        ((r.register other substitute).register cls method).select? x ∧
      Proxy.reply ((r.register cls method).register other substitute) x =
        Proxy.reply ((r.register other substitute).register cls method) x

theorem dispatch_law (r : Registry) (x : Value) : DispatchLaw r x where
  selected := fun _ _ => select_iff
  unselected := select_none_iff
  handled := fun _ _ _ leftmost => reply_of_leftmost leftmost
  passed := fun passes => ⟨reply_of_passes passes, fun _ vector => Value.shares_itself vector⟩
  atMostOnce := by
    cases search : r.select? x with
    | none =>
        rw [reply_of_passes (select_none_iff.mp search)]
        exact Nat.zero_le 1
    | some entry =>
        obtain ⟨right, leftmost⟩ := select_iff.mp search
        rw [reply_of_leftmost leftmost]
        exact Nat.le_refl 1
  alike := by
    intro s agree
    have same : r.select? x = s.select? x := by
      rw [select_eq, select_eq]
      exact first_of_congr agree
    exact ⟨same, reply_of_select same⟩
  registered := by
    intro cls method
    rw [select_eq, select_eq]
    constructor
    · intro changed
      by_contra behind
      exact changed (first_of_register_behind method behind)
    · exact first_of_register_front method
  unregistered := by
    intro cls changed
    rw [select_eq, select_eq] at changed
    rw [select_eq]
    by_contra other
    exact changed (first_of_unregister_other (not_exists.mp other))
  succeeded := by
    intro cls method right selected
    have search : (r.unregister cls).select? x = (r.unregister cls).firstOf? right := by
      rw [select_eq]
      exact first_of_unregister_selected selected
    constructor
    · intro next heir
      rw [search, first_of_iff]
      simp only [Leftmost, unregister_none_iff, unregister_some_iff, and_assoc]
      exact exists_comm
    · rw [search, first_of_none_iff]
      simp only [unregister_none_iff]
  commute := by
    intro cls method other substitute different
    have same : ((r.register cls method).register other substitute).select? x =
        ((r.register other substitute).register cls method).select? x := by
      rw [select_eq, select_eq]
      apply first_of_congr
      intro name _
      simp only [method_register]
      by_cases isFirst : cls = name
      · rw [if_pos isFirst, if_neg (isFirst ▸ Ne.symm different), if_pos isFirst]
      · rw [if_neg isFirst, if_neg isFirst]
    exact ⟨same, reply_of_select same⟩

-- A name that is repeated leaves no way back to a method that was taken out.
example :
    let x : Value := .environment "e" (some ⟨["b", "a", "b"]⟩)
    let r := (empty.register "a" Method.identity).register "b" Method.identity
    (r.select? x).map Prod.fst = some "b" ∧
      ((r.unregister "b").select? x).map Prod.fst = some "a" := by decide

end Registry

end Taxon
