import Taxon.Proofs.Proxy.Dispatch
import Taxon.Proofs.Vectorhood.Trace

/-!
Proxies that hand a value back. Asked about an object, such a proxy leads to the bare kind of the
very value, which is also what is looked at with dispatch off. So both modes agree: a classed atomic
vector is a vector, and a classed list is one only when it is a data frame.
-/

set_option autoImplicit false

namespace Taxon

theorem Traits.shapeless_iff (t : Traits) : (t.kind .bare).isVectorShaped = false ↔
    t.representation = .null ∨ t.representation = .other ∨
      t.representation = .list ∧ t.classed = true ∧ ¬t.tabular = true := by
  rcases t with ⟨representation, classed, tabular⟩
  cases representation <;> cases classed <;> cases tabular <;> decide

namespace Value

/-- What is no vector by its storage, and a classed list that is no data frame. -/
def Shapeless (x : Value) : Prop :=
  x.representation = .null ∨ x.representation = .other ∨
    x.representation = .list ∧ x.isObject = true ∧ ¬x.Inherits "data.frame"

theorem shapeless_iff (x : Value) : (x.resolve .bare).isVectorShaped = false ↔ x.Shapeless := by
  rw [resolve_eq_table, Traits.shapeless_iff, Shapeless, ← is_data_frame_iff]
  rfl

theorem resolve_steady {x : Value} {mode : Mode} (settled : x.resolve mode ≠ .s3) :
    x.resolve mode = x.resolve .bare := by
  cases mode with
  | bare => rfl
  | dispatch =>
      rw [resolve_eq_table] at settled
      rw [resolve_eq_table, resolve_eq_table]
      exact (x.traits.steady.resolve_left settled).symm

theorem settled_of_storage {x : Value}
    (storage : x.representation = .list ∧ x.Inherits "data.frame" ∨
      x.representation = .null ∨ x.representation = .other) (mode : Mode) :
    x.resolve mode ≠ .s3 := by
  cases mode with
  | bare => exact x.resolve_bare_ne_object
  | dispatch =>
      rw [Ne, resolve_object_iff]
      rintro ⟨_, atomic | ⟨isList, plain⟩⟩
      · rcases storage with ⟨same, _⟩ | same | same
        all_goals
          rw [same] at atomic
          cases atomic
      · rcases storage with ⟨_, inherits⟩ | same | same
        · exact plain inherits
        · rw [same] at isList
          cases isList
        · rw [same] at isList
          cases isList

end Value

section Entries

variable {P : Type} [Proxy P]

variable {proxy : P} {config : Config} {x : Value} {traced : Bool} {ask : Mode → Traced Bool}

/-- Where the proxy hands an object back, the bare kind decides in either mode. -/
theorem vectorhood_handed_back (handsBack : (Proxy.reply proxy x).answer = .ok x)
    (allowed : config.maxProxyDepth ≠ 0) (traces : Bool) (mode : Mode) :
    (vectorhood proxy config traces x mode).outcome = .ok (x.resolve .bare).isVectorShaped := by
  by_cases object : x.resolve mode = .s3
  · rw [vectorhood_hop proxy config traces object allowed, handsBack]
    rfl
  · rw [vectorhood_settled proxy config traces object, Value.resolve_steady object]
    rfl

/-- The two modes give one answer, and with dispatch off no proxy is asked for it. -/
structure Irrelevant (x : Value) (ask : Mode → Traced Bool) : Prop where
  unasked : (ask .bare).calls = []
  same : (ask .dispatch).outcome = (ask .bare).outcome
  answered : ∃ truth, (ask .dispatch).outcome = .ok truth ∧ (truth = false ↔ x.Shapeless)

theorem irrelevant_of_outcome {traces : Bool}
    (decided : ∀ mode, (vectorhood proxy config traces x mode).outcome =
      .ok (x.resolve .bare).isVectorShaped) :
    Irrelevant x (vectorhood proxy config traces x) where
  unasked := by
    rw [vectorhood_settled proxy config traces x.resolve_bare_ne_object]
    rfl
  same := (decided .dispatch).trans (decided .bare).symm
  answered := ⟨_, decided .dispatch, x.shapeless_iff⟩

theorem irrelevant_of_handed_back (handsBack : (Proxy.reply proxy x).answer = .ok x)
    (allowed : config.maxProxyDepth ≠ 0) (asks : Asks proxy config x traced ask) :
    Irrelevant x ask := by
  obtain ⟨traces, _, rfl⟩ := asks_eq asks
  exact irrelevant_of_outcome fun mode => vectorhood_handed_back handsBack allowed traces mode

theorem irrelevant_of_settled (settled : ∀ mode, x.resolve mode ≠ .s3)
    (asks : Asks proxy config x traced ask) : Irrelevant x ask ∧ (ask .dispatch).calls = [] := by
  obtain ⟨traces, _, rfl⟩ := asks_eq asks
  constructor
  · apply irrelevant_of_outcome
    intro mode
    rw [vectorhood_settled proxy config traces (settled mode), Value.resolve_steady (settled mode)]
    rfl
  · rw [vectorhood_settled proxy config traces (settled .dispatch)]
    rfl

end Entries

/-- Where dispatch makes no difference to the answer for a value. -/
structure TransparencyLaw (x : Value) (config : Config) : Prop where
  bare : ∀ {P : Type} [Proxy P] (proxy : P) traced ask, Asks proxy config x traced ask →
    (ask .bare).calls = []
  identity : config.maxProxyDepth ≠ 0 →
    ∀ traced ask, Asks (Universal.mk Method.identity) config x traced ask → Irrelevant x ask
  unregistered : config.maxProxyDepth ≠ 0 →
    ∀ (r : Registry) traced ask, r.Passes x → Asks r config x traced ask → Irrelevant x ask
  -- Here no method is asked even if it is registered for a class of the value.
  settled : x.representation = .list ∧ x.Inherits "data.frame" ∨
      x.representation = .null ∨ x.representation = .other →
    ∀ {P : Type} [Proxy P] (proxy : P) traced ask, Asks proxy config x traced ask →
      Irrelevant x ask ∧ (ask .dispatch).calls = []

theorem transparency_law (x : Value) (config : Config) : TransparencyLaw x config where
  bare := by
    intro P _ proxy traced ask asks
    obtain ⟨traces, _, rfl⟩ := asks_eq asks
    rw [vectorhood_settled proxy config traces x.resolve_bare_ne_object]
    rfl
  identity := fun allowed _ _ asks => irrelevant_of_handed_back rfl allowed asks
  unregistered := by
    intro allowed r traced ask passes asks
    have handsBack : (Proxy.reply r x).answer = .ok x := by rw [Registry.reply_of_passes passes]
    exact irrelevant_of_handed_back handsBack allowed asks
  settled := fun storage _ _ _ _ _ asks =>
    irrelevant_of_settled (Value.settled_of_storage storage) asks

-- A classed atomic vector is a vector in both modes, and a classed list is one in neither.
example (mode : Mode) :
    let factor : Value := .atoms (.integer [some 1]) ⟨0, some ⟨["factor"]⟩, true⟩
    let model : Value := .list [] ⟨1, some ⟨["lm"]⟩, true⟩
    let ask := fun x => (vectorhood (Universal.mk Method.identity) .default false x mode).outcome
    ask factor = .ok true ∧ ask model = .ok false := by
  cases mode <;> exact ⟨rfl, rfl⟩

end Taxon
