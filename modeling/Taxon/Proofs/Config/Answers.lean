import Taxon.Proofs.Config.Ceiling
import Taxon.Proofs.Config.Schema

/-!
What a document answers: the failures of the layers in their order, and behind all of them the
configuration. The answer is settled by the entries alone, and a file answers as its text does.
-/

set_option autoImplicit false

namespace Taxon

namespace Toml

/-- What is told of a value when another type was expected. -/
inductive Shape where
  | scalar (value : Scalar)
  | sequence
  | map

def Node.shape : Node → Shape
  | .scalar value => .scalar value
  | .array _ => .sequence
  | .tables _ => .sequence
  | .table _ _ => .map

theorem Node.scalar_of_shape {node : Node} {value : Scalar} (same : node.shape = .scalar value) :
    node = .scalar value := by
  cases node with
  | scalar own => rw [Shape.scalar.inj same]
  | array => cases same
  | tables => cases same
  | table => cases same

theorem Node.description_of_sequence {node : Node} (same : node.shape = .sequence) :
    node.description? = some "sequence" := by
  cases node with
  | scalar => cases same
  | array => rfl
  | tables => rfl
  | table => cases same

theorem Node.description_of_map {node : Node} (same : node.shape = .map) :
    node.description? = some "map" := by
  cases node with
  | scalar => cases same
  | array => cases same
  | tables => cases same
  | table => rfl

theorem Node.description_of_shape {node other : Node} (same : node.shape = other.shape) :
    node.description? = other.description? := by
  cases shape : other.shape with
  | scalar value => rw [scalar_of_shape shape, scalar_of_shape (same.trans shape)]
  | sequence =>
      rw [description_of_sequence shape, description_of_sequence (same.trans shape)]
  | map => rw [description_of_map shape, description_of_map (same.trans shape)]

end Toml

namespace Config

open Toml (Entries Node)

/-- What the schema answers to a document, which is its entries if it is well formed. Only where no
entry is faulty does the range of the depth matter. -/
inductive Answer : Option Entries → Except Fault Config → Prop where
  | malformed : Answer none (.error .configSyntax)
  | schema {entries : Entries} {entry : String × Node} {cause : SchemaFault}
      (least : LeastFaulty entries entry) (about : About entry cause) :
      Answer (some entries) (.error (.configSchema cause))
  | range {entries : Entries} {depth : Nat} (clean : ∀ entry ∈ entries, Sound entry)
      (given : ("max_proxy_depth", .scalar (.integer depth)) ∈ entries) (above : 4096 < depth) :
      Answer (some entries) (.error (.invalidConfig
        s!"max_proxy_depth {depth} exceeds the ceiling of {proxyDepthCeiling}"))
  | accepted {entries : Entries} {config : Config} (clean : ∀ entry ∈ entries, Sound entry)
      (gives : Gives ⟨64, false⟩ entries config) (within : config.maxProxyDepth ≤ 4096) :
      Answer (some entries) (.ok config)

theorem Sound.of_shape {key : String} {node other : Node} (same : other.shape = node.shape)
    (sound : Sound (key, node)) : Sound (key, other) := by
  cases sound with
  | depth depth fits =>
      rw [Node.scalar_of_shape same]
      exact .depth depth fits
  | debug truth =>
      rw [Node.scalar_of_shape same]
      exact .debug truth

theorem About.of_shape {key : String} {node other : Node} {cause : SchemaFault}
    (same : other.shape = node.shape) (about : About (key, node) cause) :
    About (key, other) cause := by
  cases about with
  | unknown other another => exact .unknown other another
  | negative least below =>
      rw [Node.scalar_of_shape same]
      exact .negative least below
  | depth misfit described =>
      rw [← Node.description_of_shape same] at described
      refine .depth (fun value least most is => misfit value least most ?_) described
      exact Node.scalar_of_shape (same.symm.trans (congrArg Node.shape is))
  | debug misfit described =>
      rw [← Node.description_of_shape same] at described
      refine .debug (fun truth is => misfit truth ?_) described
      exact Node.scalar_of_shape (same.symm.trans (congrArg Node.shape is))
  | unreadable known =>
      rw [Node.scalar_of_shape same]
      exact .unreadable known

/-- The same keys, with values of the same shapes under them. Documents with the same entries
resemble each other, wherever the entries stand. -/
def Resembles (first second : Entries) : Prop :=
  ∀ key shape, (∃ node, (key, node) ∈ first ∧ node.shape = shape) ↔
    ∃ node, (key, node) ∈ second ∧ node.shape = shape

section Resembles

variable {first second : Entries}

theorem Resembles.of_perm (perm : first.Perm second) : Resembles first second := by
  intro key shape
  simp only [perm.mem_iff]

theorem Resembles.symm (resembles : Resembles first second) : Resembles second first :=
  fun key shape => (resembles key shape).symm

theorem Resembles.partner (resembles : Resembles first second) {key : String} {node : Node}
    (member : (key, node) ∈ first) : ∃ other, (key, other) ∈ second ∧ other.shape = node.shape :=
  (resembles key node.shape).mp ⟨node, member, rfl⟩

theorem Resembles.scalar (resembles : Resembles first second) {key : String}
    {value : Toml.Scalar} (member : (key, .scalar value) ∈ first) :
    (key, .scalar value) ∈ second := by
  obtain ⟨other, found, same⟩ := resembles.partner member
  rwa [Node.scalar_of_shape same] at found

theorem Resembles.clean (resembles : Resembles first second)
    (clean : ∀ entry ∈ first, Sound entry) : ∀ entry ∈ second, Sound entry := by
  rintro ⟨key, node⟩ member
  obtain ⟨other, found, same⟩ := resembles.symm.partner member
  exact (clean _ found).of_shape same.symm

theorem Resembles.least (resembles : Resembles first second) {key : String} {node other : Node}
    (member : (key, other) ∈ second) (same : other.shape = node.shape)
    (least : LeastFaulty first (key, node)) : LeastFaulty second (key, other) where
  member := member
  faulty := fun sound => least.faulty (sound.of_shape same.symm)
  least := by
    rintro ⟨name, value⟩ behind faulty
    obtain ⟨twin, found, alike⟩ := resembles.symm.partner behind
    exact least.least (name, twin) found fun sound => faulty (sound.of_shape alike.symm)

theorem Resembles.chosen {A : Type} {key : String} {form : A → Toml.Scalar} {before value : A}
    (resembles : Resembles first second) (chosen : Chosen first key form before value) :
    Chosen second key form before value where
  given := fun a member => chosen.given a (resembles.symm.scalar member)
  absent := by
    intro absent
    apply chosen.absent
    intro present
    obtain ⟨⟨_, node⟩, member, rfl⟩ := List.mem_map.mp present
    obtain ⟨other, found, _⟩ := resembles.partner member
    exact absent (List.mem_map.mpr ⟨_, found, rfl⟩)

theorem Resembles.answer (resembles : Resembles first second) {answer : Except Fault Config}
    (given : Answer (some first) answer) : Answer (some second) answer := by
  cases given with
  | @schema _ entry cause least about =>
      obtain ⟨key, node⟩ := entry
      obtain ⟨other, found, same⟩ := resembles.partner least.member
      exact .schema (resembles.least found same least) (about.of_shape same)
  | range clean given above => exact .range (resembles.clean clean) (resembles.scalar given) above
  | accepted clean gives within =>
      exact .accepted (resembles.clean clean)
        ⟨resembles.chosen gives.depth, resembles.chosen gives.debug⟩ within

end Resembles

theorem LeastFaulty.unique {entries : Entries} (distinct : entries.Distinct)
    {entry other : String × Node} (least : LeastFaulty entries entry)
    (again : LeastFaulty entries other) : entry = other := by
  have same : utf8Bytes entry.1 = utf8Bytes other.1 :=
    List.le_antisymm (least.least other again.member again.faulty)
      (again.least entry least.member least.faulty)
  exact List.inj_on_of_nodup_map distinct least.member again.member (utf8_bytes_injective same)

theorem depth_unique {entries : Entries} (distinct : entries.Distinct) {depth other : Nat}
    (given : ("max_proxy_depth", .scalar (.integer depth)) ∈ entries)
    (again : ("max_proxy_depth", .scalar (.integer other)) ∈ entries) : depth = other := by
  have same := List.inj_on_of_nodup_map distinct given again rfl
  simp only [Prod.mk.injEq, Node.scalar.injEq, Toml.Scalar.integer.injEq, true_and] at same
  exact Int.ofNat.inj same

theorem Gives.within_of_given {entries : Entries} {before config : Config} {depth : Nat}
    (gives : Gives before entries config)
    (given : ("max_proxy_depth", .scalar (.integer depth)) ∈ entries)
    (within : config.maxProxyDepth ≤ 4096) : ¬4096 < depth := by
  rw [gives.depth.given depth given] at within
  exact Nat.not_lt.mpr within

theorem answer_unique {entries : Entries} (distinct : entries.Distinct)
    {answer other : Except Fault Config} (first : Answer (some entries) answer)
    (second : Answer (some entries) other) : answer = other := by
  cases first with
  | schema least about =>
      cases second with
      | schema again reported =>
          obtain rfl := least.unique distinct again
          rw [about_unique about reported]
      | range clean => exact absurd (clean _ least.member) least.faulty
      | accepted clean => exact absurd (clean _ least.member) least.faulty
  | range clean given above =>
      cases second with
      | schema least => exact absurd (clean _ least.member) least.faulty
      | range _ again => rw [depth_unique distinct given again]
      | accepted _ gives within => exact absurd above (gives.within_of_given given within)
  | accepted clean gives within =>
      cases second with
      | schema least => exact absurd (clean _ least.member) least.faulty
      | range _ given above => exact absurd above (gives.within_of_given given within)
      | accepted _ again => rw [gives.unique clean again]

section Reader

variable {reader : Toml.Reader} (distinct : reader.Distinct)
include distinct

/-- The entries in the order of their keys make the same document as in the order of the text. -/
theorem answer_of_text (text : String) : Answer (reader text) (ofText reader text) := by
  rw [ofText]
  cases read : reader text with
  | none => exact .malformed
  | some entries =>
      have perm : (sorted entries).Perm entries := List.mergeSort_perm _ _
      have ordered : (sorted entries).Pairwise fun a b => notAfter a.1 b.1 :=
        List.pairwise_mergeSort (fun a b c => not_after_trans a.1 b.1 c.1)
          (fun a b => not_after_total a.1 b.1) entries
      have single : (sorted entries).Distinct :=
        (perm.map Prod.fst).nodup_iff.mpr (distinct text entries read)
      apply (Resembles.of_perm perm).answer
      simp only [ofEntries]
      obtain ⟨clean, config, reached, gives⟩ | ⟨entry, cause, least, about, stopped⟩ :=
        fold_entries default single ordered
      · rw [reached]
        by_cases within : config.Within
        · simp only [validate_within within]
          exact .accepted clean gives within
        · simp only [validate_above within]
          exact .range clean (gives.given_of_above clean within) (Nat.lt_of_not_le within)
      · rw [stopped]
        exact .schema least about

theorem text_answer_iff (text : String) (answer : Except Fault Config) :
    ofText reader text = answer ↔ Answer (reader text) answer := by
  have answered := answer_of_text distinct text
  constructor
  · rintro rfl
    exact answered
  · intro other
    cases read : reader text with
    | none =>
        rw [read] at other
        cases other
        rw [ofText, read]
    | some entries =>
        rw [read] at answered other
        exact answer_unique (distinct text entries read) answered other

end Reader

theorem read_text_iff (d : WorkingDirectory) (path text : String) :
    d.readText path = .ok text ↔ d.find path = .file text.toUTF8 := by
  unfold WorkingDirectory.readText
  cases d.find path with
  | missing =>
      dsimp only
      split
      · simp
      · simp
  | directory => simp
  | unreadable reason => simp
  | file content =>
      rw [FileEntry.file.injEq, ← from_utf8_iff]
      dsimp only
      cases String.fromUTF8? content with
      | none => simp
      | some decoded => simp

theorem load_of_text (reader : Toml.Reader) {d : WorkingDirectory} {path text : String}
    (read : d.readText path = .ok text) : loadText reader d path = ofText reader text := by
  rw [loadText, read]

/-- How texts are answered whose entries a reader gives, and files that hold them. -/
structure SchemaLaw (reader : Toml.Reader) : Prop where
  answer : ∀ text answer, ofText reader text = answer ↔ Answer (reader text) answer
  resembling : ∀ s t first second, reader s = some first → reader t = some second →
    Resembles first second → ofText reader s = ofText reader t
  loaded : ∀ (d : WorkingDirectory) path (text : String), d.find path = .file text.toUTF8 →
    loadText reader d path = ofText reader text
  unread : ∀ (d : WorkingDirectory) path,
    (∃ cause, loadText reader d path = .error (.configRead path cause)) ↔
      ∀ text : String, d.find path ≠ .file text.toUTF8

/-- Whoever reads the texts, only has to find the keys of a text different. -/
theorem schema_law {reader : Toml.Reader} (distinct : reader.Distinct) : SchemaLaw reader where
  answer := text_answer_iff distinct
  resembling := by
    intro s t first second readFirst readSecond resembles
    have answered := answer_of_text distinct s
    rw [readFirst] at answered
    symm
    rw [text_answer_iff distinct, readSecond]
    exact resembles.answer answered
  loaded := fun d path text found => load_of_text reader ((read_text_iff d path text).mpr found)
  unread := by
    intro d path
    constructor
    · rintro ⟨cause, failed⟩ text found
      rw [load_of_text reader ((read_text_iff d path text).mpr found),
        text_answer_iff distinct] at failed
      generalize reader text = document at failed
      cases failed
    · intro unread
      cases read : d.readText path with
      | ok text => exact absurd ((read_text_iff d path text).mp read) (unread text)
      | error cause => exact ⟨cause, by rw [loadText, read]⟩

/-- The law of the reader at hand, which is the one of `ofDocument` and `load`. -/
theorem document_schema_law : Toml.Reader.Distinct Toml.document? ∧ SchemaLaw Toml.document? :=
  ⟨Toml.document_distinct, schema_law Toml.document_distinct⟩

end Config

end Taxon
