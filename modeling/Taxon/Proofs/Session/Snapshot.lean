import Taxon.Proofs.Config.Ceiling
import Taxon.Proofs.Session.Descent
import Taxon.Proofs.Vectorhood.Trace

/-!
The surroundings over the life of a process. The shared configuration and the debug variable are
read when they are first needed and kept from then on, so variables that are set anew after that are
never felt: whatever happens, the process goes by the variables that it was started with.
-/

set_option autoImplicit false

namespace Taxon

namespace Ambient

def Settled (a : Ambient) : Prop := a.config?.isSome = true ∧ a.traces?.isSome = true

/-- The same answers are given in both surroundings. -/
structure Agrees (a b : Ambient) : Prop where
  config : b.readConfig.1 = a.readConfig.1
  traces : b.readTraces.1 = a.readTraces.1

theorem Agrees.refl (a : Ambient) : a.Agrees a := ⟨rfl, rfl⟩

theorem Agrees.trans {a b c : Ambient} (first : a.Agrees b) (second : b.Agrees c) : a.Agrees c :=
  ⟨second.config.trans first.config, second.traces.trans first.traces⟩

theorem read_config_agrees (a : Ambient) : a.Agrees a.readConfig.2 := ⟨rfl, rfl⟩

theorem read_traces_agrees (a : Ambient) : a.Agrees a.readTraces.2 := ⟨rfl, rfl⟩

/-- Once both answers have been read, the variables are not looked at. -/
theorem with_environment_agrees {a : Ambient} (settled : a.Settled) (environment : Environment) :
    a.Agrees (a.withEnvironment environment) := by
  obtain ⟨config, hasConfig⟩ := Option.isSome_iff_exists.mp settled.1
  obtain ⟨traces, hasTraces⟩ := Option.isSome_iff_exists.mp settled.2
  constructor
  · simp only [readConfig, withEnvironment, hasConfig, Option.getD_some]
  · simp only [readTraces, withEnvironment, hasTraces, Option.getD_some]

variable {P : Type} [Proxy P]

theorem classify_agrees (a : Ambient) (c : Classifier P) (x : Value) (mode : Mode) :
    a.Agrees (a.classify c x mode).2 := by
  unfold classify
  split
  · exact a.read_traces_agrees
  · exact .refl a

theorem vectorhood_agrees (a : Ambient) (proxy : P) (x : Value) (mode : Mode) :
    a.Agrees (a.vectorhood proxy x mode).2 :=
  a.read_config_agrees.trans (a.readConfig.2.classify_agrees _ x mode)

theorem vectorhood_value_agrees (a : Ambient) (pool : Pool) (proxy : P) (x flag : Value) :
    a.Agrees (Host.vectorhoodValue a pool proxy x flag).2 := by
  unfold Host.vectorhoodValue
  split
  · exact .refl a
  · exact a.vectorhood_agrees proxy x _

end Ambient

/-- What happens in a process. Its requests may come with proxies of any type. -/
inductive Event : Type 1 where
  | serve {P : Type} [Proxy P] (request : Request P)
  | readConfig
  | readTraces
  | readVariables
  | setVariables (environment : Environment)

namespace Session

def undergo (s : Session) : Event → Session
  | @Event.serve _ _ request => s.serve request
  | .readConfig => { s with ambient := s.ambient.readConfig.2 }
  | .readTraces => { s with ambient := s.ambient.readTraces.2 }
  | .readVariables => s
  | .setVariables environment => { s with ambient := s.ambient.withEnvironment environment }

def live (s : Session) (events : List Event) : Session := events.foldl undergo s

/-- The variables are set anew only after both answers have been read. -/
def Late : Session → List Event → Prop
  | _, [] => True
  | s, event :: rest =>
      (∀ environment, event = .setVariables environment → s.ambient.Settled) ∧
        Late (s.undergo event) rest

theorem serve_agrees {P : Type} [Proxy P] (s : Session) (request : Request P) :
    s.ambient.Agrees (s.serve request).ambient := by
  cases request with
  | act action => exact .refl _
  | vectorhood proxy x mode => exact s.ambient.vectorhood_agrees proxy x mode
  | classify classifier x mode => exact s.ambient.classify_agrees classifier x mode
  | typeofValue name x flag =>
      rw [serve]
      cases Host.typeofValue s.workspace.supply.storage x flag <;> exact .refl _
  | vectorhoodValue name proxy x flag =>
      have agrees := s.ambient.vectorhood_value_agrees s.workspace.pool proxy x flag
      rw [serve]
      dsimp only
      split
      · exact agrees
      · exact agrees

theorem undergo_agrees {s : Session} {event : Event}
    (late : ∀ environment, event = .setVariables environment → s.ambient.Settled) :
    s.ambient.Agrees (s.undergo event).ambient := by
  cases event with
  | serve request => exact s.serve_agrees request
  | readConfig => exact s.ambient.read_config_agrees
  | readTraces => exact s.ambient.read_traces_agrees
  | readVariables => exact .refl _
  | setVariables environment =>
      exact Ambient.with_environment_agrees (late environment rfl) environment

theorem late_of_append {s : Session} {earlier later : List Event}
    (late : s.Late (earlier ++ later)) : s.Late earlier := by
  induction earlier generalizing s with
  | nil => trivial
  | cons event rest induction => exact ⟨late.1, induction late.2⟩

theorem live_agrees {s : Session} {events : List Event} (late : s.Late events) :
    s.ambient.Agrees (s.live events).ambient := by
  induction events generalizing s with
  | nil => exact .refl _
  | cons event rest induction => exact (undergo_agrees late.1).trans (induction late.2)

end Session

def Environment.Traces (environment : Environment) : Prop :=
  ∃ content, environment.debug = .text content

theorem Environment.traces_iff (environment : Environment) :
    environment.debug.text?.isSome = true ↔ environment.Traces := by
  unfold Traces
  cases environment.debug <;> simp [Setting.text?]

/-- Surroundings that go by these variables, whatever the variables are now. -/
structure SnapshotLaw (start : Environment) (a : Ambient) : Prop where
  config : a.readConfig.1 = Config.ofEnvironment start
  traces : a.readTraces.1 = true ↔ start.Traces
  -- The free predicate is a classifier that was given the shared configuration.
  free : ∀ {P : Type} [Proxy P] (proxy : P) x mode, ∃ c,
    (Classifier.new proxy).withConfig a.readConfig.1 = .ok c ∧
      a.vectorhood proxy x mode = a.readConfig.2.classify c x mode
  steady : ∀ {P : Type} [Proxy P] (c : Classifier P) x mode,
    (a.vectorhood c.proxy x mode).1 = ((Ambient.start start).vectorhood c.proxy x mode).1 ∧
      (a.classify c x mode).1 = ((Ambient.start start).classify c x mode).1
  own : ∀ {P : Type} [Proxy P] (c : Classifier P) x mode,
    ∃ looks ≤ 2, Settles c.proxy c.config.maxProxyDepth 0 x mode
      (a.classify c x mode).1.outcome (a.classify c x mode).1.calls looks
  indifferent : ∀ {P : Type} [Proxy P] (c : Classifier P) x mode (other : Ambient),
    (other.classify c x mode).1.outcome = (a.classify c x mode).1.outcome ∧
      (other.classify c x mode).1.calls = (a.classify c x mode).1.calls
  traced : ∀ {P : Type} [Proxy P] (c : Classifier P) x mode,
    c.config.debug = true ∨ start.Traces →
      (a.classify c x mode).1.trace = notices c.proxy c.config.maxProxyDepth x mode
  untraced : ∀ {P : Type} [Proxy P] (c : Classifier P) x mode,
    c.config.debug = false → ¬start.Traces → (a.classify c x mode).1.trace = []

section Agreement

variable {start : Environment} {a : Ambient}

theorem traces_of_agrees (agrees : (Ambient.start start).Agrees a) :
    a.readTraces.1 = true ↔ start.Traces := by
  rw [agrees.traces, ← start.traces_iff]
  rfl

theorem snapshot_of_agrees (agrees : (Ambient.start start).Agrees a) : SnapshotLaw start a where
  config := agrees.config
  traces := traces_of_agrees agrees
  free := by
    intro P _ proxy x mode
    have within : a.readConfig.1.Within := agrees.config ▸ Config.environment_within start
    exact ⟨_, (Classifier.new proxy).with_config_within within, rfl⟩
  steady := by
    intro P _ c x mode
    simp only [Ambient.vectorhood_answer, Ambient.classify_answer, agrees.config, agrees.traces,
      and_self]
  own := by
    intro P _ c x mode
    rw [a.classify_answer]
    exact vectorhood_settles c.proxy c.config a.readTraces.1 x mode
  indifferent := by
    intro P _ c x mode other
    rw [a.classify_answer, other.classify_answer]
    exact vectorhood_untouched c.proxy c.config _ _ x mode
  traced := by
    intro P _ c x mode asked
    have on : (c.config.debug || a.readTraces.1) = true := by
      rw [Bool.or_eq_true, traces_of_agrees agrees]
      exact asked
    rw [a.classify_answer, vectorhood_trace, if_pos on]
  untraced := by
    intro P _ c x mode silent unasked
    have off : ¬(c.config.debug || a.readTraces.1) = true := by
      rw [Bool.or_eq_true, traces_of_agrees agrees, silent]
      simpa using unasked
    rw [a.classify_answer, vectorhood_trace, if_neg off]

end Agreement

/-- A process goes by the variables that it was started with, at every moment of its life. -/
theorem snapshot_law_of_life (start : Environment) (events : List Event)
    (late : (Session.start start).Late events) :
    ∀ earlier later, events = earlier ++ later →
      SnapshotLaw start ((Session.start start).live earlier).ambient := by
  intro earlier later split
  rw [split] at late
  exact snapshot_of_agrees (Session.live_agrees (Session.late_of_append late))

/-- A process started with a depth of nought and without a debug variable, in which both variables
are set anew once they have been read. -/
theorem snapshot_law_of_changed_variables :
    let start : Environment := ⟨.text "0", .unset⟩
    let events : List Event :=
      [.readConfig, .readTraces, .setVariables ⟨.text "9", .text "1"⟩, .readVariables,
        .serve (.vectorhood (Universal.mk Method.identity) .null .dispatch)]
    (Session.start start).Late events ∧
      (∀ earlier later, events = earlier ++ later →
        SnapshotLaw start ((Session.start start).live earlier).ambient) ∧
      ((Session.start start).live events).ambient.environmentConfig = ⟨9, true⟩ ∧
      ((Session.start start).live events).ambient.readConfig.1 = ⟨0, false⟩ := by
  intro start events
  have late : (Session.start start).Late events := by
    refine ⟨nofun, nofun, ?_, nofun, nofun, trivial⟩
    intro _ _
    exact ⟨rfl, rfl⟩
  have laws := snapshot_law_of_life start events late
  have last := laws events [] (List.append_nil events).symm
  exact ⟨late, laws, by decide, last.config.trans (by decide)⟩

end Taxon
