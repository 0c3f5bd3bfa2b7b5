import Taxon.Proofs.Vectorhood.Hop

/-!
What a decision leaves in the trace, and what a process adds to a classifier. A decision has at most
one notice. Whether the notice is written depends on the configuration and on the surroundings, but
outcome and calls depend on neither. So every way in to a decision comes down to one function.
-/

set_option autoImplicit false

namespace Taxon

section Decision

variable {P : Type} [Proxy P] (proxy : P)

/-- The notice of a decision, where it has one: the hop that was taken, or that none was left. -/
def notices (limit : Nat) (x : Value) (mode : Mode) : List Notice :=
  if x.resolve mode = .s3 then
    if limit = 0 then [.cycle x.classLabel 0]
    else
      match (Proxy.reply proxy x).answer with
      | .error _ => []
      | .ok y => [.hop 1 x.text y.text]
  else []

theorem vectorhood_settled (config : Config) (ambientTraces : Bool) {x : Value} {mode : Mode}
    (settled : x.resolve mode ≠ .s3) :
    vectorhood proxy config ambientTraces x mode =
      .silent (.ok (x.resolve mode).isVectorShaped) :=
  vectorhood_after_settled proxy _ _ _ _ settled

theorem vectorhood_spent (config : Config) (ambientTraces : Bool) {x : Value} {mode : Mode}
    (object : x.resolve mode = .s3) (spent : config.maxProxyDepth = 0) :
    vectorhood proxy config ambientTraces x mode =
      ⟨.error (.proxyCycle x.classLabel 0 0), [],
        if config.debug || ambientTraces then notices proxy config.maxProxyDepth x mode
        else []⟩ := by
  rw [vectorhood, notices, if_pos object, if_pos spent, spent]
  unfold vectorhoodAfter
  simp only [object]

theorem vectorhood_hop (config : Config) (ambientTraces : Bool) {x : Value} {mode : Mode}
    (object : x.resolve mode = .s3) (allowed : config.maxProxyDepth ≠ 0) :
    vectorhood proxy config ambientTraces x mode =
      ⟨(Proxy.reply proxy x).answer.map fun y => (y.resolve .bare).isVectorShaped,
        (Proxy.reply proxy x).calls,
        if config.debug || ambientTraces then notices proxy config.maxProxyDepth x mode
        else []⟩ := by
  obtain ⟨hops, limit⟩ := Nat.exists_eq_succ_of_ne_zero allowed
  rw [vectorhood, notices, if_pos object, if_neg allowed, limit]
  unfold vectorhoodAfter
  simp only [object]
  cases answer : (Proxy.reply proxy x).answer with
  | error fault => simp [Except.map]
  | ok y =>
      -- The answer is looked at with dispatch off, where no value is an object: all ends there.
      have rest := vectorhood_after_settled proxy (hops + 1) (config.debug || ambientTraces) hops 1
        y.resolve_bare_ne_object
      simp [rest, Traced.silent, Except.map]

theorem vectorhood_trace (config : Config) (ambientTraces : Bool) (x : Value) (mode : Mode) :
    (vectorhood proxy config ambientTraces x mode).trace =
      if config.debug || ambientTraces then notices proxy config.maxProxyDepth x mode else [] := by
  by_cases object : x.resolve mode = .s3
  · by_cases spent : config.maxProxyDepth = 0
    · rw [vectorhood_spent proxy config ambientTraces object spent]
    · rw [vectorhood_hop proxy config ambientTraces object spent]
  · rw [vectorhood_settled proxy config ambientTraces object, notices, if_neg object, ite_self]
    rfl

theorem vectorhood_untouched (config : Config) (traces traces' : Bool) (x : Value) (mode : Mode) :
    (vectorhood proxy config traces x mode).outcome =
        (vectorhood proxy config traces' x mode).outcome ∧
      (vectorhood proxy config traces x mode).calls =
        (vectorhood proxy config traces' x mode).calls := by
  by_cases object : x.resolve mode = .s3
  · by_cases spent : config.maxProxyDepth = 0
    · simp only [vectorhood_spent proxy config _ object spent, and_self]
    · simp only [vectorhood_hop proxy config _ object spent, and_self]
  · simp only [vectorhood_settled proxy config _ object, and_self]

end Decision

namespace Ambient

variable {P : Type} [Proxy P]

/-- In a process a classifier decides as if the debug variable had always been read: where it is
not read, the decision has no notice or is traced anyway. -/
theorem classify_answer (a : Ambient) (c : Classifier P) (x : Value) (mode : Mode) :
    (a.classify c x mode).1 = Taxon.vectorhood c.proxy c.config a.readTraces.1 x mode := by
  unfold classify
  by_cases object : x.resolve mode = .s3
  · cases debug : c.config.debug with
    | false => simp [object, Classifier.vectorhood]
    | true => simp [Classifier.vectorhood, Taxon.vectorhood, debug]
  · simp [object, Classifier.vectorhood, vectorhood_settled]

theorem vectorhood_answer (a : Ambient) (proxy : P) (x : Value) (mode : Mode) :
    (a.vectorhood proxy x mode).1 =
      Taxon.vectorhood proxy a.readConfig.1 a.readTraces.1 x mode :=
  a.readConfig.2.classify_answer ⟨proxy, a.readConfig.1⟩ x mode

end Ambient

section Entries

variable {P : Type} [Proxy P]

/-- The ways in to a decision by a proxy and a configuration, each with whether it is traced: a
classifier that is told what the debug variable says, a classifier in a process, and a process with
this configuration. -/
inductive Asks (proxy : P) (config : Config) (x : Value) : Bool → (Mode → Traced Bool) → Prop where
  | told (traces : Bool) :
      Asks proxy config x (config.debug || traces)
        fun mode => Classifier.vectorhood ⟨proxy, config⟩ traces x mode
  | classified (a : Ambient) :
      Asks proxy config x (config.debug || a.readTraces.1)
        fun mode => (a.classify (Classifier.mk proxy config) x mode).1
  | free (a : Ambient) (shared : a.readConfig.1 = config) :
      Asks proxy config x (config.debug || a.readTraces.1)
        fun mode => (a.vectorhood proxy x mode).1

theorem asks_eq {proxy : P} {config : Config} {x : Value} {traced : Bool}
    {ask : Mode → Traced Bool} (asks : Asks proxy config x traced ask) :
    ∃ traces, traced = (config.debug || traces) ∧ ask = vectorhood proxy config traces x := by
  cases asks with
  | told traces => exact ⟨traces, rfl, rfl⟩
  | classified a => exact ⟨_, rfl, funext fun mode => a.classify_answer ⟨proxy, config⟩ x mode⟩
  | free a shared =>
      refine ⟨a.readTraces.1, rfl, funext fun mode => ?_⟩
      rw [← shared]
      exact a.vectorhood_answer proxy x mode

end Entries

end Taxon
