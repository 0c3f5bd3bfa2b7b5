import Mathlib.Data.Set.Card
import Mathlib.Tactic.SplitIfs
import Taxon.Proofs.Text.ByteOrder
import Taxon.Proxy.Registry

/-!
Registries as finite maps. The methods stand in strictly increasing order of their class names, so a
registry is determined by its lookups. Over a history of changes a lookup finds the last method
registered for a class, unless the class was taken out since.
-/

set_option autoImplicit false

namespace Taxon.Registry

section Entries

variable {entries : List (String × Method)} {cls : String} {method : Method}

theorem method_cons (entry : String × Method) (rest : List (String × Method)) (cls : String) :
    method? ⟨entry :: rest⟩ cls =
      if entry.1 = cls then some entry.2 else method? ⟨rest⟩ cls := by
  by_cases same : entry.1 = cls <;> simp [method?, same]

theorem method_place (entries : List (String × Method)) (cls : String) (method : Method)
    (other : String) :
    method? ⟨place cls method entries⟩ other =
      if cls = other then some method else method? ⟨entries⟩ other := by
  induction entries with
  | nil => exact method_cons (cls, method) [] other
  | cons entry rest induction =>
      rcases entry with ⟨name, old⟩
      rw [place]
      split
      · rw [method_cons]
      · split
        · rename_i same
          rw [method_cons, method_cons, same]
          split <;> rfl
        · rename_i different
          rw [method_cons, method_cons, induction]
          by_cases found : name = other
          · rw [if_pos found, if_pos found, if_neg (found ▸ different)]
          · rw [if_neg found, if_neg found]

theorem method_filter (entries : List (String × Method)) (cls other : String) :
    method? ⟨entries.filter fun entry => entry.1 ≠ cls⟩ other =
      if cls = other then none else method? ⟨entries⟩ other := by
  induction entries with
  | nil => simp [method?]
  | cons entry rest induction =>
      rw [method_cons]
      by_cases taken : entry.1 = cls
      · rw [List.filter_cons_of_neg (by simp [taken]), induction, taken]
        split <;> rfl
      · rw [List.filter_cons_of_pos (by simp [taken]), method_cons, induction]
        by_cases found : entry.1 = other
        · rw [if_pos found, if_pos found, if_neg (found ▸ Ne.symm taken)]
        · rw [if_neg found, if_neg found]

def Increasing (entries : List (String × Method)) : Prop :=
  entries.Pairwise fun left right => precedes left.1 right.1 = true

theorem mem_place {entry : String × Method} (member : entry ∈ place cls method entries) :
    entry = (cls, method) ∨ entry ∈ entries := by
  induction entries with
  | nil => exact .inl (List.mem_singleton.mp member)
  | cons first rest induction =>
      rw [place] at member
      split at member
      · exact List.mem_cons.mp member
      · split at member
        · rcases List.mem_cons.mp member with new | old
          · exact .inl new
          · exact .inr (List.mem_cons_of_mem _ old)
        · rcases List.mem_cons.mp member with head | placed
          · exact .inr (head ▸ List.mem_cons_self)
          · rcases induction placed with new | old
            · exact .inl new
            · exact .inr (List.mem_cons_of_mem _ old)

theorem increasing_place (increasing : Increasing entries) (cls : String) (method : Method) :
    Increasing (place cls method entries) := by
  induction entries with
  | nil => exact List.pairwise_singleton _ _
  | cons first rest induction =>
      rcases first with ⟨name, old⟩
      obtain ⟨first, later⟩ := List.pairwise_cons.mp increasing
      rw [place]
      split
      · rename_i ahead
        refine List.pairwise_cons.mpr ⟨?_, increasing⟩
        intro entry member
        rcases List.mem_cons.mp member with rfl | inRest
        · exact ahead
        · exact precedes_trans ahead (first entry inRest)
      · rename_i behind
        split
        · rename_i same
          refine List.pairwise_cons.mpr ⟨?_, later⟩
          rw [same]
          exact first
        · rename_i different
          refine List.pairwise_cons.mpr ⟨?_, induction later⟩
          intro entry member
          rcases mem_place member with rfl | old
          · exact precedes_of_ne different behind
          · exact first entry old

/-- Where the names increase, a lookup finds exactly the entries. -/
theorem method_eq_some_iff (increasing : Increasing entries) :
    method? ⟨entries⟩ cls = some method ↔ (cls, method) ∈ entries := by
  induction entries with
  | nil => simp [method?]
  | cons entry rest induction =>
      obtain ⟨first, later⟩ := List.pairwise_cons.mp increasing
      rw [method_cons, List.mem_cons]
      by_cases found : entry.1 = cls
      · have absent : (cls, method) ∉ rest := by
          intro inRest
          apply precedes_irrefl cls
          have ahead := first _ inRest
          rwa [found] at ahead
        rw [if_pos found, ← found, Option.some.injEq]
        rw [← found] at absent
        simp only [absent, or_false]
        exact ⟨fun same => Prod.ext rfl same.symm, fun same => (congrArg Prod.snd same).symm⟩
      · rw [if_neg found, induction later]
        constructor
        · exact .inr
        · rintro (here | inRest)
          · exact absurd (congrArg Prod.fst here).symm found
          · exact inRest

theorem increasing_nodup (increasing : Increasing entries) : (entries.map Prod.fst).Nodup := by
  rw [List.Nodup, List.pairwise_map]
  refine increasing.imp ?_
  intro left right before same
  rw [same] at before
  exact precedes_irrefl _ before

/-- Entries in increasing order are determined by their lookups. -/
theorem entries_eq_of_method {left right : List (String × Method)}
    (leftIncreasing : Increasing left) (rightIncreasing : Increasing right)
    (same : ∀ cls, method? ⟨left⟩ cls = method? ⟨right⟩ cls) : left = right := by
  have perm : left.Perm right := by
    rw [List.perm_ext_iff_of_nodup (increasing_nodup leftIncreasing).of_map
      (increasing_nodup rightIncreasing).of_map]
    rintro ⟨cls, method⟩
    rw [← method_eq_some_iff leftIncreasing, ← method_eq_some_iff rightIncreasing, same]
  refine perm.eq_of_pairwise ?_ leftIncreasing rightIncreasing
  intro a b _ _ before behind
  exact absurd behind (precedes_asymm before)

end Entries

inductive Change where
  | register (cls : String) (method : Method)
  | withdraw (cls : String)

namespace Change

def cls : Change → String
  | .register cls _ => cls
  | .withdraw cls => cls

def method? : Change → Option Method
  | .register _ method => some method
  | .withdraw _ => none

def perform (r : Registry) : Change → Registry
  | .register cls method => r.register cls method
  | .withdraw cls => (r.withdraw cls).2

end Change

def run (history : List Change) : Registry := history.foldl Change.perform empty

/-- The class was registered with the method, and nothing has changed for the class since. -/
def Live (history : List Change) (cls : String) (method : Method) : Prop :=
  ∃ earlier later, history = earlier ++ .register cls method :: later ∧
    ∀ change ∈ later, change.cls ≠ cls

def Registered (history : List Change) (cls : String) : Prop := ∃ method, Live history cls method

section History

variable {history : List Change} {change : Change} {cls : String} {method : Method}

theorem run_append (history : List Change) (change : Change) :
    run (history ++ [change]) = change.perform (run history) := by
  simp [run]

/-- The last change settles its own class and leaves every other class as it was. -/
theorem live_append : Live (history ++ [change]) cls method ↔
    change = .register cls method ∨ change.cls ≠ cls ∧ Live history cls method := by
  constructor
  · rintro ⟨earlier, later, split, untouched⟩
    rcases List.eq_nil_or_concat' later with rfl | ⟨before, last, rfl⟩
    · exact .inl (List.cons.inj (List.append_inj' split rfl).2).1
    · rw [← List.cons_append, ← List.append_assoc] at split
      obtain ⟨same, ends⟩ := List.append_inj' split rfl
      rw [(List.cons.inj ends).1]
      exact .inr ⟨untouched last (by simp), earlier, before, same,
        fun c member => untouched c (by simp [member])⟩
  · rintro (rfl | ⟨elsewhere, earlier, later, rfl, untouched⟩)
    · exact ⟨history, [], rfl, by simp⟩
    · refine ⟨earlier, later ++ [change], by simp, ?_⟩
      intro c member
      rcases List.mem_append.mp member with old | last
      · exact untouched c old
      · rw [List.mem_singleton.mp last]
        exact elsewhere

theorem method_perform (r : Registry) (change : Change) (cls : String) :
    (change.perform r).method? cls =
      if change.cls = cls then change.method? else r.method? cls := by
  cases change with
  | register name method => exact method_place r.methods name method cls
  | withdraw name => exact method_filter r.methods name cls

theorem increasing_perform {r : Registry} (increasing : Increasing r.methods) (change : Change) :
    Increasing (change.perform r).methods := by
  cases change with
  | register name method => exact increasing_place increasing name method
  | withdraw name => exact increasing.filter _

theorem run_increasing (history : List Change) : Increasing (run history).methods := by
  induction history using List.reverseRecOn with
  | nil => exact List.Pairwise.nil
  | append_singleton history change induction =>
      rw [run_append]
      exact increasing_perform induction change

theorem method_run_iff : (run history).method? cls = some method ↔ Live history cls method := by
  induction history using List.reverseRecOn with
  | nil =>
      constructor
      · intro found
        cases found
      · rintro ⟨earlier, later, split, _⟩
        simp at split
  | append_singleton history change induction =>
      rw [run_append, method_perform, live_append, ← induction]
      cases change with
      | register name new => by_cases same : name = cls <;> simp [Change.cls, Change.method?, same]
      | withdraw name => by_cases same : name = cls <;> simp [Change.cls, Change.method?, same]

theorem contains_run_iff : (run history).contains cls = true ↔ Registered history cls := by
  rw [contains, Option.isSome_iff_exists]
  exact exists_congr fun _ => method_run_iff

theorem mem_classes_run : cls ∈ (run history).classes ↔ Registered history cls := by
  rw [classes, List.mem_map, Registered]
  constructor
  · rintro ⟨⟨name, method⟩, member, rfl⟩
    exact ⟨method, method_run_iff.mp ((method_eq_some_iff (run_increasing history)).mpr member)⟩
  · rintro ⟨method, live⟩
    have found := (method_eq_some_iff (run_increasing history)).mp (method_run_iff.mpr live)
    exact ⟨(cls, method), found, rfl⟩

theorem classes_increasing (history : List Change) :
    (run history).classes.Pairwise fun c d => precedes c d = true :=
  List.pairwise_map.mpr (run_increasing history)

theorem classes_nodup (history : List Change) : (run history).classes.Nodup :=
  increasing_nodup (run_increasing history)

theorem size_run (history : List Change) :
    (run history).size = {cls | Registered history cls}.ncard := by
  have listed : {cls | Registered history cls} = ((run history).classes.toFinset : Set String) := by
    ext cls
    rw [List.coe_toFinset]
    exact mem_classes_run.symm
  rw [listed, Set.ncard_coe_finset, List.toFinset_card_of_nodup (classes_nodup history)]
  exact (List.length_map Prod.fst).symm

theorem sort_run {names : List String} (distinct : names.Nodup)
    (enumerated : ∀ cls, cls ∈ names ↔ Registered history cls) :
    names.mergeSort notAfter = (run history).classes := by
  refine sort_of_perm ?_ (classes_increasing history)
  rw [List.perm_ext_iff_of_nodup distinct (classes_nodup history)]
  exact fun cls => (enumerated cls).trans mem_classes_run.symm

theorem run_eq_of_live {other : List Change}
    (same : ∀ cls method, Live other cls method ↔ Live history cls method) :
    run other = run history := by
  have entries := entries_eq_of_method (run_increasing other) (run_increasing history) fun cls => by
    apply Option.ext
    intro method
    exact method_run_iff.trans ((same cls method).trans method_run_iff.symm)
  exact congrArg Registry.mk entries

end History

/-- What a registry is after a history of changes. -/
structure MapLaw (history : List Change) : Prop where
  method : ∀ cls method, (run history).method? cls = some method ↔ Live history cls method
  contains : ∀ cls, (run history).contains cls = true ↔ Registered history cls
  withdrawn : ∀ cls, ((run history).withdraw cls).1 = true ↔ Registered history cls
  gone : ∀ cls, ((run history).withdraw cls).2 = run (history ++ [.withdraw cls]) ∧
    ¬Registered (history ++ [.withdraw cls]) cls
  size : (run history).size = {cls | Registered history cls}.ncard
  isEmpty : (run history).isEmpty = true ↔ ∀ cls, ¬Registered history cls
  text : ∃ names : List String,
    (run history).text =
        "ProxyRegistry \x7b classes: [" ++ ", ".intercalate (names.map quoted) ++ "] \x7d" ∧
      names.Nodup ∧ names.Pairwise (fun c d => precedes c d = true) ∧
      ∀ cls, cls ∈ names ↔ Registered history cls
  -- It does not matter in which order a table keeps the live classes before they are sorted.
  scattered : ∀ names : List String, names.Nodup → (∀ cls, cls ∈ names ↔ Registered history cls) →
    (run history).text = "ProxyRegistry \x7b classes: [" ++
      ", ".intercalate ((names.mergeSort notAfter).map quoted) ++ "] \x7d"
  alike : ∀ other, (∀ cls method, Live other cls method ↔ Live history cls method) →
    (run other).text = (run history).text ∧
      ∀ x, (run other).select? x = (run history).select? x ∧
        Proxy.reply (run other) x = Proxy.reply (run history) x

theorem map_law_of_history (history : List Change) : MapLaw history where
  method := fun _ _ => method_run_iff
  contains := fun _ => contains_run_iff
  withdrawn := fun _ => contains_run_iff
  gone := by
    intro cls
    refine ⟨(run_append history (.withdraw cls)).symm, ?_⟩
    rintro ⟨method, live⟩
    rcases live_append.mp live with registers | ⟨elsewhere, _⟩
    · cases registers
    · exact elsewhere rfl
  size := size_run history
  isEmpty := by
    simp only [← mem_classes_run, ← List.eq_nil_iff_forall_not_mem, classes, List.map_eq_nil_iff,
      isEmpty, List.isEmpty_iff]
  text :=
    ⟨(run history).classes, rfl, classes_nodup history, classes_increasing history,
      fun _ => mem_classes_run⟩
  scattered := by
    intro names distinct enumerated
    rw [sort_run distinct enumerated]
    rfl
  alike := by
    intro other same
    rw [run_eq_of_live same]
    exact ⟨rfl, fun _ => ⟨rfl, rfl⟩⟩

end Taxon.Registry
