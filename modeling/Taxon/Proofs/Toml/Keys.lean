import Mathlib.Data.List.Nodup
import Taxon.Toml.Document

/-!
A document defines each key of its top level once. A change under a key leaves the keys that are
there and puts at most this one behind them, so the keys stay distinct from line to line.
-/

set_option autoImplicit false

namespace Taxon.Toml

namespace Entries

def Distinct (entries : Entries) : Prop := (entries.map Prod.fst).Nodup

/-- The change makes no key stand twice. -/
def Keeps (change : Entries → Option Entries) : Prop :=
  ∀ before after, change before = some after → before.Distinct → after.Distinct

theorem keys_alter {key : String} {change : Option Node → Option Node} {before after : Entries}
    (altered : alter key change before = some after) :
    after.map Prod.fst =
      if key ∈ before.map Prod.fst then before.map Prod.fst
      else before.map Prod.fst ++ [key] := by
  induction before generalizing after with
  | nil =>
      obtain ⟨node, _, rfl⟩ := Option.map_eq_some_iff.mp altered
      rfl
  | cons entry rest induction =>
      obtain ⟨name, node⟩ := entry
      rw [alter] at altered
      by_cases found : name = key
      · rw [if_pos found] at altered
        obtain ⟨changed, _, rfl⟩ := Option.map_eq_some_iff.mp altered
        simp [found]
      · rw [if_neg found] at altered
        obtain ⟨behind, below, rfl⟩ := Option.map_eq_some_iff.mp altered
        have elsewhere : ¬key = name := Ne.symm found
        simp only [List.map_cons, induction below, List.mem_cons, elsewhere, false_or]
        split
        · rfl
        · rfl

theorem keeps_alter (key : String) (change : Option Node → Option Node) :
    Keeps (alter key change) := by
  intro before after altered distinct
  unfold Distinct
  rw [keys_alter altered]
  split
  · exact distinct
  · rename_i absent
    rw [← List.concat_eq_append, List.nodup_concat]
    exact ⟨absent, distinct⟩

theorem keeps_assign (node : Node) (path : List String) : Keeps (assign node path) := by
  intro before after assigned
  unfold assign at assigned
  split at assigned
  · cases assigned
  · exact keeps_alter _ _ before after assigned
  · exact keeps_alter _ _ before after assigned

theorem keeps_at_end (change : Option Node → Option Node) (path : List String) :
    Keeps (atEnd change path) := by
  intro before after changed
  unfold atEnd at changed
  split at changed
  · cases changed
  · exact keeps_alter _ _ before after changed
  · exact keeps_alter _ _ before after changed

theorem keeps_within (path : List String) {change : Entries → Option Entries}
    (keeps : Keeps change) : Keeps (within path change) := by
  cases path with
  | nil => exact keeps
  | cons key path => exact keeps_alter key _

end Entries

namespace Reading

/-- All that a line can do to what has been read. -/
theorem line_changes {fuel : Nat} {r next : Reading} {text rest : List Char}
    (read : r.line fuel text = some (next, rest)) :
    (∃ path, r.addTable path = some next) ∨ (∃ path, r.openTable path = some next) ∨
      ∃ key node, r.define key node = some next := by
  unfold line at read
  split at read
  · split at read
    · cases read
    · rename_i path _ _
      split at read
      · obtain ⟨_, added, same⟩ := Option.map_eq_some_iff.mp read
        obtain ⟨rfl, rfl⟩ := Prod.mk.inj same
        exact .inl ⟨path, added⟩
      · cases read
  · split at read
    · cases read
    · rename_i path _ _
      split at read
      · obtain ⟨_, opened, same⟩ := Option.map_eq_some_iff.mp read
        obtain ⟨rfl, rfl⟩ := Prod.mk.inj same
        exact .inr (.inl ⟨path, opened⟩)
      · cases read
  · split at read
    · cases read
    · rename_i key _ _
      split at read
      · cases read
      · split at read
        · cases read
        · rename_i node _ _
          obtain ⟨_, defined, same⟩ := Option.map_eq_some_iff.mp read
          obtain ⟨rfl, rfl⟩ := Prod.mk.inj same
          exact .inr (.inr ⟨key, node, defined⟩)

theorem line_distinct {fuel : Nat} {r next : Reading} {text rest : List Char}
    (read : r.line fuel text = some (next, rest)) (distinct : r.root.Distinct) :
    next.root.Distinct := by
  obtain ⟨path, added⟩ | ⟨path, opened⟩ | ⟨key, node, defined⟩ := line_changes read
  · obtain ⟨root, changed, rfl⟩ := Option.map_eq_some_iff.mp added
    exact Entries.keeps_at_end _ _ _ _ changed distinct
  · obtain ⟨root, changed, rfl⟩ := Option.map_eq_some_iff.mp opened
    exact Entries.keeps_at_end _ _ _ _ changed distinct
  · obtain ⟨root, changed, rfl⟩ := Option.map_eq_some_iff.mp defined
    exact Entries.keeps_within _ (Entries.keeps_assign node key) _ _ changed distinct

theorem lines_distinct {fuel : Nat} {r last : Reading} {text : List Char}
    (read : r.lines fuel text = some last) (distinct : r.root.Distinct) : last.root.Distinct := by
  induction fuel generalizing r text with
  | zero => cases read
  | succ fuel induction =>
      rw [lines] at read
      split at read
      · cases read
      · obtain rfl := Option.some.inj read
        exact distinct
      · split at read
        · cases read
        · rename_i line
          split at read
          · cases read
          · exact induction read (line_distinct line distinct)

end Reading

def Reader.Distinct (reader : Reader) : Prop :=
  ∀ text entries, reader text = some entries → entries.Distinct

theorem document_distinct : Reader.Distinct document? := by
  intro text entries read
  obtain ⟨last, reached, rfl⟩ := Option.map_eq_some_iff.mp read
  exact Reading.lines_distinct reached List.nodup_nil

end Taxon.Toml
