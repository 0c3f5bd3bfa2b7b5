import Mathlib.Algebra.Ring.Int.Defs
import Mathlib.Algebra.Ring.Nat
import Mathlib.Data.List.Nodup
import Taxon.Proofs.Config.Ceiling
import Taxon.Proofs.Text.ByteOrder
import Taxon.Proofs.Toml.Keys

/-!
The schema of configuration documents. Visiting the entries of a document in the order of their keys
ends at the least key that has a fault; without faults it arrives at the configuration that the
entries give over the defaults, in whatever order they are written.
-/

set_option autoImplicit false

namespace Taxon

namespace Toml

theorem Node.described_unless_unreadable (node : Node) :
    (∃ found, node.description? = some found) ∨ node = .scalar .unreadable := by
  cases node with
  | scalar value =>
      cases value with
      | integer value =>
          apply Or.inl
          rw [description?]
          split
          · exact ⟨_, rfl⟩
          · exact ⟨_, rfl⟩
      | unreadable => exact .inr rfl
      | _ => exact .inl ⟨_, rfl⟩
  | _ => exact .inl ⟨_, rfl⟩

end Toml

namespace Config

open Toml (Entries Node)

theorem keys_differ : "max_proxy_depth" ≠ "debug" := by decide

/-- The entries that the schema takes: a depth of 64 bits without a sign, and a truth value. -/
inductive Sound : String × Node → Prop where
  | depth (depth : Nat) (fits : depth < 2 ^ 64) :
      Sound ("max_proxy_depth", .scalar (.integer depth))
  | debug (truth : Bool) : Sound ("debug", .scalar (.boolean truth))

/-- What is reported of an entry that the schema does not take. -/
inductive About : String × Node → SchemaFault → Prop where
  | unknown {key : String} {node : Node} (other : key ≠ "max_proxy_depth")
      (another : key ≠ "debug") : About (key, node) (.unknownField key)
  | negative {value : Int} (least : -2 ^ 63 ≤ value) (below : value < 0) :
      About ("max_proxy_depth", .scalar (.integer value)) (.negative value)
  | depth {node : Node} {found : String}
      (misfit : ∀ value : Int, -2 ^ 63 ≤ value → value < 2 ^ 64 → node ≠ .scalar (.integer value))
      (described : node.description? = some found) :
      About ("max_proxy_depth", node) (.wrongType found "usize")
  | debug {node : Node} {found : String} (misfit : ∀ truth, node ≠ .scalar (.boolean truth))
      (described : node.description? = some found) :
      About ("debug", node) (.wrongType found "a boolean")
  | unreadable {key : String} (known : key = "max_proxy_depth" ∨ key = "debug") :
      About (key, .scalar .unreadable) .unreadableNumber

theorem sound_or_about (entry : String × Node) : Sound entry ∨ ∃ cause, About entry cause := by
  obtain ⟨key, node⟩ := entry
  by_cases isDepth : key = "max_proxy_depth"
  · subst isDepth
    by_cases fitting : ∃ value : Int, -2 ^ 63 ≤ value ∧ value < 2 ^ 64 ∧
        node = .scalar (.integer value)
    · obtain ⟨value, least, most, rfl⟩ := fitting
      by_cases negative : value < 0
      · exact .inr ⟨_, .negative least negative⟩
      · obtain ⟨depth, rfl⟩ := Int.eq_ofNat_of_zero_le (Int.not_lt.mp negative)
        exact .inl (.depth depth (by omega))
    · push Not at fitting
      obtain ⟨found, described⟩ | rfl := node.described_unless_unreadable
      · exact .inr ⟨_, .depth fitting described⟩
      · exact .inr ⟨_, .unreadable (.inl rfl)⟩
  · by_cases isDebug : key = "debug"
    · subst isDebug
      by_cases fitting : ∃ truth, node = .scalar (.boolean truth)
      · obtain ⟨truth, rfl⟩ := fitting
        exact .inl (.debug truth)
      · push Not at fitting
        obtain ⟨found, described⟩ | rfl := node.described_unless_unreadable
        · exact .inr ⟨_, .debug fitting described⟩
        · exact .inr ⟨_, .unreadable (.inr rfl)⟩
    · exact .inr ⟨_, .unknown isDepth isDebug⟩

theorem unsigned_iff (value : Int) :
    (0 ≤ value && value < Int.pow 2 64) = true ↔ 0 ≤ value ∧ value < 2 ^ 64 := by
  rw [Bool.and_eq_true, decide_eq_true_eq, decide_eq_true_eq]
  exact Iff.rfl

theorem negative_iff (value : Int) :
    (-Int.pow 2 63 ≤ value && value < 0) = true ↔ -2 ^ 63 ≤ value ∧ value < 0 := by
  rw [Bool.and_eq_true, decide_eq_true_eq, decide_eq_true_eq]
  exact Iff.rfl

theorem depth_of_fitting {depth : Nat} (fits : depth < 2 ^ 64) :
    depthOfNode (.scalar (.integer depth)) = .ok depth := by
  have unsigned : 0 ≤ (depth : Int) ∧ (depth : Int) < 2 ^ 64 := by omega
  rw [depthOfNode, if_pos ((unsigned_iff depth).mpr unsigned), Int.toNat_natCast]

theorem depth_of_negative {value : Int} (least : -2 ^ 63 ≤ value) (below : value < 0) :
    depthOfNode (.scalar (.integer value)) = .error (.negative value) := by
  have signed : ¬(0 ≤ value ∧ value < 2 ^ 64) := by omega
  rw [depthOfNode, if_neg (mt (unsigned_iff value).mp signed),
    if_pos ((negative_iff value).mpr ⟨least, below⟩)]

theorem depth_of_misfit {node : Node}
    (misfit : ∀ value : Int, -2 ^ 63 ≤ value → value < 2 ^ 64 → node ≠ .scalar (.integer value)) :
    depthOfNode node = .error (node.misfit "usize") := by
  unfold depthOfNode
  split
  · rename_i value
    have outside : ¬(-2 ^ 63 ≤ value ∧ value < 2 ^ 64) :=
      fun inside => misfit value inside.1 inside.2 rfl
    rw [if_neg, if_neg]
    · rw [negative_iff]
      omega
    · rw [unsigned_iff]
      omega
  · rfl

theorem debug_of_misfit {node : Node} (misfit : ∀ truth, node ≠ .scalar (.boolean truth)) :
    debugOfNode node = .error (node.misfit "a boolean") := by
  unfold debugOfNode
  split
  · exact absurd rfl (misfit _)
  · rfl

theorem visit_depth (config : Config) (node : Node) :
    visit config ("max_proxy_depth", node) =
      (depthOfNode node).map config.withMaxProxyDepth := if_pos rfl

theorem visit_debug (config : Config) (node : Node) :
    visit config ("debug", node) = (debugOfNode node).map config.withDebug := by
  rw [visit]
  exact (if_neg keys_differ.symm).trans (if_pos rfl)

theorem visit_about (config : Config) {entry : String × Node} {cause : SchemaFault}
    (about : About entry cause) : visit config entry = .error cause := by
  cases about with
  | unknown other another =>
      rw [visit]
      exact (if_neg other).trans (if_neg another)
  | negative least below =>
      rw [visit_depth, depth_of_negative least below]
      rfl
  | depth misfit described =>
      rw [visit_depth, depth_of_misfit misfit, Node.misfit, described]
      rfl
  | debug misfit described =>
      rw [visit_debug, debug_of_misfit misfit, Node.misfit, described]
      rfl
  | unreadable known =>
      obtain rfl | rfl := known
      · rfl
      · rfl

theorem about_unique {entry : String × Node} {cause other : SchemaFault}
    (about : About entry cause) (again : About entry other) : cause = other := by
  have visited := visit_about default about
  rw [visit_about default again] at visited
  exact (Except.error.inj visited).symm

theorem not_sound_of_about {entry : String × Node} {cause : SchemaFault}
    (about : About entry cause) : ¬Sound entry := by
  intro sound
  have visited := visit_about default about
  cases sound with
  | depth depth fits =>
      rw [visit_depth, depth_of_fitting fits] at visited
      cases visited
  | debug truth => cases visited

/-- The entries choose a value: the one under the key, or the one from before. -/
structure Chosen {A : Type} (entries : Entries) (key : String) (form : A → Toml.Scalar)
    (before value : A) : Prop where
  given : ∀ a, (key, .scalar (form a)) ∈ entries → value = a
  absent : key ∉ entries.map Prod.fst → value = before

/-- The configuration has what the entries give, and keeps the rest of the one from before. -/
structure Gives (before : Config) (entries : Entries) (config : Config) : Prop where
  depth : Chosen entries "max_proxy_depth" (fun depth : Nat => .integer depth) before.maxProxyDepth
    config.maxProxyDepth
  debug : Chosen entries "debug" .boolean before.debug config.debug

section Chosen

variable {A : Type} {entries : Entries} {key : String} {form : A → Toml.Scalar} {before value : A}

theorem chosen_nil : Chosen [] key form before before where
  given := fun _ member => absurd member List.not_mem_nil
  absent := fun _ => rfl

theorem Chosen.here (injective : Function.Injective form) {own : A}
    (single : key ∉ entries.map Prod.fst) (chosen : Chosen entries key form own value) :
    Chosen ((key, .scalar (form own)) :: entries) key form before value where
  given := by
    intro a member
    obtain same | behind := List.mem_cons.mp member
    · rw [chosen.absent single]
      exact (injective (Node.scalar.inj (Prod.mk.inj same).2)).symm
    · exact absurd (List.mem_map_of_mem behind) single
  absent := fun absent => absurd List.mem_cons_self absent

theorem Chosen.past {other : String} (different : other ≠ key) (node : Node)
    (chosen : Chosen entries key form before value) :
    Chosen ((other, node) :: entries) key form before value where
  given := by
    intro a member
    obtain same | behind := List.mem_cons.mp member
    · exact absurd (Prod.mk.inj same).1.symm different
    · exact chosen.given a behind
  absent := fun absent => chosen.absent fun behind => absent (List.mem_cons_of_mem _ behind)

theorem Chosen.unique {other : A}
    (formed : ∀ node, (key, node) ∈ entries → ∃ a, node = .scalar (form a))
    (chosen : Chosen entries key form before value)
    (again : Chosen entries key form before other) : value = other := by
  by_cases present : key ∈ entries.map Prod.fst
  · obtain ⟨⟨_, node⟩, member, rfl⟩ := List.mem_map.mp present
    obtain ⟨a, rfl⟩ := formed node member
    rw [chosen.given a member, again.given a member]
  · rw [chosen.absent present, again.absent present]

end Chosen

theorem visit_sound (config : Config) {entry : String × Node} {rest : Entries}
    (sound : Sound entry) (single : entry.1 ∉ rest.map Prod.fst) :
    ∃ next, visit config entry = .ok next ∧
      ∀ final, Gives next rest final → Gives config (entry :: rest) final := by
  cases sound with
  | depth depth fits =>
      refine ⟨config.withMaxProxyDepth depth, ?_, ?_⟩
      · rw [visit_depth, depth_of_fitting fits]
        rfl
      · intro final gives
        have injective : Function.Injective fun depth : Nat => Toml.Scalar.integer depth :=
          fun _ _ same => Int.ofNat.inj (Toml.Scalar.integer.inj same)
        exact ⟨gives.depth.here injective single, gives.debug.past keys_differ _⟩
  | debug truth =>
      refine ⟨config.withDebug truth, visit_debug config _, ?_⟩
      intro final gives
      have injective : Function.Injective Toml.Scalar.boolean :=
        fun _ _ same => Toml.Scalar.boolean.inj same
      exact ⟨gives.depth.past keys_differ.symm _, gives.debug.here injective single⟩

/-- The entry with the least key, byte by byte, that the schema does not take. -/
structure LeastFaulty (entries : Entries) (entry : String × Node) : Prop where
  member : entry ∈ entries
  faulty : ¬Sound entry
  least : ∀ other ∈ entries, ¬Sound other → utf8Bytes entry.1 ≤ utf8Bytes other.1

/-- Visiting goes on behind sound entries and ends at the first one that is faulty. -/
theorem fold_entries (config : Config) {entries : Entries} (distinct : entries.Distinct)
    (ordered : entries.Pairwise fun a b => notAfter a.1 b.1) :
    ((∀ entry ∈ entries, Sound entry) ∧
        ∃ final, entries.foldlM visit config = .ok final ∧ Gives config entries final) ∨
      ∃ entry cause, LeastFaulty entries entry ∧ About entry cause ∧
        entries.foldlM visit config = .error cause := by
  induction entries generalizing config with
  | nil => exact .inl ⟨fun _ member => absurd member List.not_mem_nil, config, rfl,
      chosen_nil, chosen_nil⟩
  | cons entry rest induction =>
      obtain ⟨single, distinctRest⟩ := List.nodup_cons.mp distinct
      obtain ⟨first, orderedRest⟩ := List.pairwise_cons.mp ordered
      obtain sound | ⟨cause, about⟩ := sound_or_about entry
      · obtain ⟨next, visited, gives⟩ := visit_sound config sound single
        have step : (entry :: rest).foldlM visit config = rest.foldlM visit next := by
          rw [List.foldlM_cons, visited]
          rfl
        rw [step]
        obtain ⟨clean, final, reached, given⟩ | ⟨fault, cause, least, about, stopped⟩ :=
          induction next distinctRest orderedRest
        · exact .inl ⟨List.forall_mem_cons.mpr ⟨sound, clean⟩, final, reached, gives final given⟩
        · refine .inr ⟨fault, cause, ⟨List.mem_cons_of_mem _ least.member, least.faulty, ?_⟩,
            about, stopped⟩
          exact List.forall_mem_cons.mpr ⟨fun faulty => absurd sound faulty, least.least⟩
      · refine .inr ⟨entry, cause, ⟨List.mem_cons_self, not_sound_of_about about, ?_⟩, about, ?_⟩
        · refine List.forall_mem_cons.mpr ⟨fun _ => List.le_refl _, ?_⟩
          exact fun other member _ => (not_after_bytes _ _).mp (first other member)
        · rw [List.foldlM_cons, visit_about config about]
          rfl

theorem Sound.depth_of_key {entry : String × Node} (sound : Sound entry)
    (key : entry.1 = "max_proxy_depth") : ∃ depth : Nat, entry.2 = .scalar (.integer depth) := by
  cases sound with
  | depth depth => exact ⟨depth, rfl⟩
  | debug => exact absurd key.symm keys_differ

theorem Sound.truth_of_key {entry : String × Node} (sound : Sound entry)
    (key : entry.1 = "debug") : ∃ truth, entry.2 = .scalar (.boolean truth) := by
  cases sound with
  | depth => exact absurd key keys_differ
  | debug truth => exact ⟨truth, rfl⟩

theorem Gives.unique {entries : Entries} {before config other : Config}
    (clean : ∀ entry ∈ entries, Sound entry) (gives : Gives before entries config)
    (again : Gives before entries other) : config = other := by
  have depths := gives.depth.unique (fun _ member => (clean _ member).depth_of_key rfl) again.depth
  have flags := gives.debug.unique (fun _ member => (clean _ member).truth_of_key rfl) again.debug
  cases config
  cases other
  exact congr (congrArg Config.mk depths) flags

theorem Gives.given_of_above {entries : Entries} {config : Config}
    (clean : ∀ entry ∈ entries, Sound entry) (gives : Gives default entries config)
    (above : ¬config.Within) :
    ("max_proxy_depth", .scalar (.integer config.maxProxyDepth)) ∈ entries := by
  by_cases present : "max_proxy_depth" ∈ entries.map Prod.fst
  · obtain ⟨⟨_, node⟩, member, rfl⟩ := List.mem_map.mp present
    obtain ⟨depth, rfl⟩ := (clean _ member).depth_of_key rfl
    rw [gives.depth.given depth member]
    exact member
  · have kept := gives.depth.absent present
    unfold Within at above
    rw [kept] at above
    exact absurd default_within above

end Config

end Taxon
