import Mathlib.Tactic.SplitIfs
import Taxon.Ambient
import Taxon.Proofs.Kind.Resolution

/-!
How far the vector predicate goes. Its recursion may take as many hops as the configuration
allows, but the answer of a proxy is looked at with dispatch off, and no value is an object then.
So a proxy is asked once or not at all, and of the limit only its being zero is ever felt.
-/

set_option autoImplicit false

namespace Taxon

section Recursion

variable {P : Type} [Proxy P] (proxy : P) (limit : Nat)

theorem vectorhood_after_settled (tracing : Bool) (hops depth : Nat) {x : Value} {mode : Mode}
    (settled : x.resolve mode ≠ .s3) :
    vectorhoodAfter proxy limit tracing hops depth x mode =
      .silent (.ok (x.resolve mode).isVectorShaped) := by
  unfold vectorhoodAfter
  cases kind : x.resolve mode with
  | s3 => exact absurd kind settled
  | _ => rfl

/-- One hop decides an object: what the proxy hands back is settled by its bare kind, whatever
else may be left of the limit. -/
theorem vectorhood_after_hop (tracing : Bool) (hops depth : Nat) {x : Value} {mode : Mode}
    (object : x.resolve mode = .s3) :
    (vectorhoodAfter proxy limit tracing (hops + 1) depth x mode).outcome =
        (Proxy.reply proxy x).answer.map (fun y => (y.resolve .bare).isVectorShaped) ∧
      (vectorhoodAfter proxy limit tracing (hops + 1) depth x mode).calls =
        (Proxy.reply proxy x).calls := by
  unfold vectorhoodAfter
  simp only [object]
  cases answer : (Proxy.reply proxy x).answer with
  | error fault => simp [Except.map]
  | ok y =>
      have rest := vectorhood_after_settled proxy limit tracing hops (depth + 1)
        y.resolve_bare_ne_object
      simp [rest, Traced.silent, Except.map]

theorem vectorhood_after_spent (tracing : Bool) (depth : Nat) {x : Value} {mode : Mode}
    (object : x.resolve mode = .s3) :
    (vectorhoodAfter proxy limit tracing 0 depth x mode).outcome =
        .error (.proxyCycle x.classLabel depth limit) ∧
      (vectorhoodAfter proxy limit tracing 0 depth x mode).calls = [] := by
  unfold vectorhoodAfter
  simp [object]

/-- The decision as a derivation, with nothing that bounds its length but the comparison of the
depth with the limit. The last number counts the looks at a value. -/
inductive Settles : Nat → Value → Mode → Except Fault Bool → List Call → Nat → Prop where
  | vector {depth : Nat} {x : Value} {mode : Mode} :
      (x.resolve mode).isVectorShaped = true → Settles depth x mode (.ok true) [] 1
  | other {depth : Nat} {x : Value} {mode : Mode} :
      x.resolve mode = .null ∨ x.resolve mode = .scalar → Settles depth x mode (.ok false) [] 1
  | cycle {depth : Nat} {x : Value} {mode : Mode} :
      x.resolve mode = .s3 → limit ≤ depth →
        Settles depth x mode (.error (.proxyCycle x.classLabel depth limit)) [] 1
  | refusal {depth : Nat} {x : Value} {mode : Mode} {fault : Fault} :
      x.resolve mode = .s3 → depth < limit → (Proxy.reply proxy x).answer = .error fault →
        Settles depth x mode (.error fault) (Proxy.reply proxy x).calls 1
  | hop {depth looks : Nat} {x y : Value} {mode : Mode} {outcome : Except Fault Bool}
      {calls : List Call} :
      x.resolve mode = .s3 → depth < limit → (Proxy.reply proxy x).answer = .ok y →
        Settles (depth + 1) y .bare outcome calls looks →
        Settles depth x mode outcome ((Proxy.reply proxy x).calls ++ calls) (looks + 1)

theorem settles_by_kind (depth : Nat) {x : Value} {mode : Mode} (settled : x.resolve mode ≠ .s3) :
    Settles proxy limit depth x mode (.ok (x.resolve mode).isVectorShaped) [] 1 := by
  cases kind : x.resolve mode with
  | s3 => exact absurd kind settled
  | null => exact .other (.inl kind)
  | scalar => exact .other (.inr kind)
  | _ => exact .vector (by rw [kind]; rfl)

/-- The predicate computes a derivation, and the derivation has two looks at most. -/
theorem vectorhood_settles (config : Config) (ambientTraces : Bool) (x : Value) (mode : Mode) :
    ∃ looks ≤ 2, Settles proxy config.maxProxyDepth 0 x mode
      (vectorhood proxy config ambientTraces x mode).outcome
      (vectorhood proxy config ambientTraces x mode).calls looks := by
  unfold vectorhood
  by_cases object : x.resolve mode = .s3
  · cases depth : config.maxProxyDepth with
    | zero =>
        obtain ⟨outcome, calls⟩ := vectorhood_after_spent proxy 0
          (config.debug || ambientTraces) 0 object
        refine ⟨1, by omega, ?_⟩
        rw [outcome, calls]
        exact .cycle object (Nat.le_refl 0)
    | succ hops =>
        obtain ⟨outcome, calls⟩ := vectorhood_after_hop proxy (hops + 1)
          (config.debug || ambientTraces) hops 0 object
        rw [outcome, calls]
        cases answer : (Proxy.reply proxy x).answer with
        | error fault => exact ⟨1, by omega, .refusal object (Nat.succ_pos hops) answer⟩
        | ok y =>
            have last := settles_by_kind proxy (hops + 1) 1 y.resolve_bare_ne_object
            refine ⟨2, Nat.le_refl 2, ?_⟩
            simpa [Except.map] using Settles.hop object (Nat.succ_pos hops) answer last
  · rw [vectorhood_after_settled proxy _ _ _ _ object]
    exact ⟨1, by omega, settles_by_kind proxy _ 0 object⟩

end Recursion

/-- What comes of asking whether a value is a vector, for a method and a limit on the hops. -/
structure HopLaw (method : Method) (limit : Nat) (x : Value) (mode : Mode)
    (asked : Traced Bool) : Prop where
  settled : x.resolve mode ≠ .s3 →
    asked.outcome = .ok (x.resolve mode).isVectorShaped ∧ asked.calls = []
  spent : x.resolve mode = .s3 → limit = 0 →
    ∃ cls, x.cls? = some cls ∧ asked.outcome = .error (.proxyCycle cls.text 0 0) ∧
      asked.calls = []
  askedOnce : x.resolve mode = .s3 → limit ≠ 0 → asked.calls = [⟨Universal.label, x⟩]
  refused : x.resolve mode = .s3 → limit ≠ 0 →
    ∀ fault, method x = .error fault → asked.outcome = .error fault
  unwrapped : x.resolve mode = .s3 → limit ≠ 0 →
    ∀ y, method x = .ok y → asked.outcome = .ok (y.resolve .bare).isVectorShaped
  ends : ∃ looks ≤ 2, Settles (Universal.mk method) limit 0 x mode asked.outcome asked.calls looks

theorem vectorhood_hop_law (method : Method) (config : Config) (ambientTraces : Bool) (x : Value)
    (mode : Mode) :
    HopLaw method config.maxProxyDepth x mode
      (vectorhood (Universal.mk method) config ambientTraces x mode) where
  settled := by
    intro settled
    unfold vectorhood
    rw [vectorhood_after_settled _ _ _ _ _ settled]
    exact ⟨rfl, rfl⟩
  spent := by
    intro object zero
    obtain ⟨cls, carried⟩ := Value.object_has_class object
    obtain ⟨outcome, calls⟩ := vectorhood_after_spent (Universal.mk method) 0
      (config.debug || ambientTraces) 0 object
    refine ⟨cls, carried, ?_⟩
    unfold vectorhood
    rw [zero, outcome, calls]
    simp [Value.classLabel, carried]
  askedOnce := by
    intro object nonzero
    obtain ⟨hops, allowed⟩ := Nat.exists_eq_succ_of_ne_zero nonzero
    unfold vectorhood
    rw [allowed]
    exact (vectorhood_after_hop _ _ _ _ _ object).2
  refused := by
    intro object nonzero fault failed
    obtain ⟨hops, allowed⟩ := Nat.exists_eq_succ_of_ne_zero nonzero
    unfold vectorhood
    rw [allowed, (vectorhood_after_hop _ _ _ _ _ object).1]
    simp [Proxy.reply, failed, Except.map]
  unwrapped := by
    intro object nonzero y answered
    obtain ⟨hops, allowed⟩ := Nat.exists_eq_succ_of_ne_zero nonzero
    unfold vectorhood
    rw [allowed, (vectorhood_after_hop _ _ _ _ _ object).1]
    simp [Proxy.reply, answered, Except.map]
  ends := vectorhood_settles _ config ambientTraces x mode

/-- Two limits that are both zero or both not lead to the same outcome and the same calls. -/
theorem hop_law_unique {method : Method} {limit other : Nat} {x : Value} {mode : Mode}
    {asked again : Traced Bool} (same : limit = 0 ↔ other = 0)
    (law : HopLaw method limit x mode asked) (otherLaw : HopLaw method other x mode again) :
    asked.outcome = again.outcome ∧ asked.calls = again.calls := by
  by_cases object : x.resolve mode = .s3
  · by_cases zero : limit = 0
    · obtain ⟨cls, carried, outcome, calls⟩ := law.spent object zero
      obtain ⟨cls', carried', outcome', calls'⟩ := otherLaw.spent object (same.mp zero)
      rw [carried, Option.some.injEq] at carried'
      rw [outcome, outcome', calls, calls', carried']
      exact ⟨rfl, rfl⟩
    · have nonzero : other ≠ 0 := fun otherZero => zero (same.mpr otherZero)
      refine ⟨?_, (law.askedOnce object zero).trans (otherLaw.askedOnce object nonzero).symm⟩
      cases answer : method x with
      | error fault =>
          rw [law.refused object zero fault answer, otherLaw.refused object nonzero fault answer]
      | ok y =>
          rw [law.unwrapped object zero y answer, otherLaw.unwrapped object nonzero y answer]
  · obtain ⟨outcome, calls⟩ := law.settled object
    obtain ⟨outcome', calls'⟩ := otherLaw.settled object
    rw [outcome, outcome', calls, calls']
    exact ⟨rfl, rfl⟩

/-- With a hop to spend, a cycle is reported only when the proxy itself reports it. -/
theorem hop_law_cycle {method : Method} {limit : Nat} {x : Value} {mode : Mode}
    {asked : Traced Bool} (law : HopLaw method limit x mode asked) (nonzero : limit ≠ 0)
    {cls : String} {depth reported : Nat}
    (cycle : asked.outcome = .error (.proxyCycle cls depth reported)) :
    x.resolve mode = .s3 ∧ method x = .error (.proxyCycle cls depth reported) := by
  by_cases object : x.resolve mode = .s3
  · refine ⟨object, ?_⟩
    cases answer : method x with
    | error fault =>
        rw [law.refused object nonzero fault answer] at cycle
        rw [Except.error.injEq] at cycle
        rw [cycle]
    | ok y =>
        rw [law.unwrapped object nonzero y answer] at cycle
        exact absurd cycle (by simp)
  · rw [(law.settled object).1] at cycle
    exact absurd cycle (by simp)

/-- The predicate under a classifier, under a classifier in a process, and under the configuration
of the process takes one hop at most, and of the limit only its being zero is felt. -/
theorem vectorhood_takes_one_hop_at_most (method : Method) (config : Config) (ambient : Ambient)
    (x : Value) (mode : Mode) :
    let classifier : Classifier Universal := ⟨⟨method⟩, config⟩
    let shared := ambient.readConfig.1
    (∀ traces, HopLaw method config.maxProxyDepth x mode (classifier.vectorhood traces x mode)) ∧
    HopLaw method config.maxProxyDepth x mode (ambient.classify classifier x mode).1 ∧
    HopLaw method shared.maxProxyDepth x mode (ambient.vectorhood (Universal.mk method) x mode).1 ∧
    (∀ other : Config, (config.maxProxyDepth = 0 ↔ other.maxProxyDepth = 0) →
      ∀ traces traces',
        (classifier.vectorhood traces x mode).outcome =
            (Classifier.vectorhood ⟨Universal.mk method, other⟩ traces' x mode).outcome ∧
          (classifier.vectorhood traces x mode).calls =
            (Classifier.vectorhood ⟨Universal.mk method, other⟩ traces' x mode).calls) ∧
    (config.maxProxyDepth ≠ 0 → ∀ traces cls depth limit,
      (classifier.vectorhood traces x mode).outcome = .error (.proxyCycle cls depth limit) →
        x.resolve mode = .s3 ∧ method x = .error (.proxyCycle cls depth limit)) := by
  intro classifier shared
  have law (config : Config) (traces : Bool) :
      HopLaw method config.maxProxyDepth x mode
        (Classifier.vectorhood ⟨Universal.mk method, config⟩ traces x mode) :=
    vectorhood_hop_law method config traces x mode
  have inProcess (ambient : Ambient) (config : Config) :
      HopLaw method config.maxProxyDepth x mode
        (ambient.classify (Classifier.mk (Universal.mk method) config) x mode).1 := by
    unfold Ambient.classify
    split_ifs
    · exact law config _
    · exact law config false
  refine ⟨law config, inProcess ambient config, inProcess ambient.readConfig.2 shared, ?_, ?_⟩
  · intro other same traces traces'
    exact hop_law_unique same (law config traces) (law other traces')
  · intro nonzero traces cls depth limit cycle
    exact hop_law_cycle (law config traces) nonzero cycle

end Taxon
