import Taxon.Proofs.Vectorhood.Trace

/-!
Tracing as an onlooker. A decision with tracing off is the decision with tracing on whose trace is
taken away, so no answer and no call depends on it. What is written is one line at most, and the
line is spelled out here to the last character.
-/

set_option autoImplicit false

namespace Taxon

namespace Notice

theorem cycle_line (cls : String) :
    (cycle cls 0).line = "[vector_kind] proxy cycle: `" ++ cls ++ "` unresolved after 0 hops\n" :=
  calc (cycle cls 0).line
      = "[vector_kind] " ++ ("proxy cycle: `" ++ cls ++ "` unresolved after " ++ "0" ++ " hops") ++
          "\n" := rfl
    _ = ("[vector_kind] " ++ "proxy cycle: `") ++ cls ++
          ("` unresolved after " ++ "0" ++ " hops" ++ "\n") := by simp only [String.append_assoc]
    _ = "[vector_kind] proxy cycle: `" ++ cls ++ "` unresolved after 0 hops\n" := rfl

theorem hop_line (source target : String) :
    (hop 1 source target).line =
      "[vector_kind] proxy hop 1: " ++ source ++ " -> " ++ target ++ "\n" :=
  calc (hop 1 source target).line
      = "[vector_kind] " ++ ("proxy hop " ++ "1" ++ ": " ++ source ++ " -> " ++ target) ++
          "\n" := rfl
    _ = ("[vector_kind] " ++ "proxy hop " ++ "1" ++ ": ") ++ source ++ " -> " ++ target ++
          "\n" := by simp only [String.append_assoc]
    _ = "[vector_kind] proxy hop 1: " ++ source ++ " -> " ++ target ++ "\n" := rfl

end Notice

namespace Traced

variable {α : Type}

def hushed (t : Traced α) : Traced α := { t with trace := [] }

/-- These lines are written, and the text of the trace is nothing else. -/
def Writes (t : Traced α) (lines : List String) : Prop :=
  t.trace.map Notice.line = lines ∧ t.traceText = String.join lines

theorem writes_nothing {t : Traced α} (empty : t.trace = []) : t.Writes [] := by
  rw [Writes, traceText, empty]
  exact ⟨rfl, rfl⟩

theorem writes_line {t : Traced α} {notice : Notice} (only : t.trace = [notice]) :
    t.Writes [notice.line] := by
  rw [Writes, traceText, only]
  refine ⟨rfl, ?_⟩
  simp [String.join]

end Traced

section Recursion

variable {P : Type} [Proxy P] (proxy : P)

/-- However many hops a decision takes, only its trace knows whether it was traced. -/
theorem vectorhood_after_hushed (limit hops depth : Nat) (x : Value) (mode : Mode) :
    vectorhoodAfter proxy limit false hops depth x mode =
      (vectorhoodAfter proxy limit true hops depth x mode).hushed := by
  induction hops generalizing depth x mode with
  | zero =>
      unfold vectorhoodAfter
      cases x.resolve mode <;> rfl
  | succ hops induction =>
      unfold vectorhoodAfter
      cases x.resolve mode with
      | s3 =>
          cases answer : (Proxy.reply proxy x).answer with
          | error fault => simp only [answer, Traced.hushed]
          | ok y =>
              simp only [answer, induction]
              rfl
      | _ => rfl

def watched (limit : Nat) (x : Value) (mode : Mode) : Traced Bool :=
  vectorhood proxy ⟨limit, true⟩ false x mode

theorem vectorhood_watched (config : Config) (ambientTraces : Bool) (x : Value) (mode : Mode) :
    vectorhood proxy config ambientTraces x mode =
      if config.debug || ambientTraces then watched proxy config.maxProxyDepth x mode
      else (watched proxy config.maxProxyDepth x mode).hushed := by
  unfold watched vectorhood
  cases config.debug || ambientTraces with
  | true => rfl
  | false => exact vectorhood_after_hushed proxy _ _ _ x mode

theorem watched_trace (limit : Nat) (x : Value) (mode : Mode) :
    (watched proxy limit x mode).trace = notices proxy limit x mode :=
  vectorhood_trace proxy ⟨limit, true⟩ false x mode

end Recursion

section Lines

variable {P : Type} [Proxy P] (proxy : P) {limit : Nat} {x : Value} {mode : Mode}

theorem watched_settled (settled : x.resolve mode ≠ .s3) :
    (watched proxy limit x mode).Writes [] := by
  apply Traced.writes_nothing
  rw [watched_trace, notices, if_neg settled]

theorem watched_spent (object : x.resolve mode = .s3) (spent : limit = 0) :
    ∃ cls, x.cls? = some cls ∧ (watched proxy limit x mode).Writes
      ["[vector_kind] proxy cycle: `" ++ cls.text ++ "` unresolved after 0 hops\n"] := by
  obtain ⟨cls, carried⟩ := Value.object_has_class object
  have label : x.classLabel = cls.text := by simp [Value.classLabel, carried]
  refine ⟨cls, carried, ?_⟩
  rw [← Notice.cycle_line]
  apply Traced.writes_line
  rw [watched_trace, notices, if_pos object, if_pos spent, label]

theorem watched_refused (object : x.resolve mode = .s3) (allowed : limit ≠ 0) {fault : Fault}
    (refused : (Proxy.reply proxy x).answer = .error fault) :
    (watched proxy limit x mode).Writes [] := by
  apply Traced.writes_nothing
  rw [watched_trace, notices, if_pos object, if_neg allowed, refused]

theorem watched_hop (object : x.resolve mode = .s3) (allowed : limit ≠ 0) {y : Value}
    (answered : (Proxy.reply proxy x).answer = .ok y) :
    (watched proxy limit x mode).Writes
      ["[vector_kind] proxy hop 1: " ++ x.text ++ " -> " ++ y.text ++ "\n"] := by
  rw [← Notice.hop_line]
  apply Traced.writes_line
  rw [watched_trace, notices, if_pos object, if_neg allowed, answered]

end Lines

section Entries

variable {P : Type} [Proxy P]

def Asked (proxy : P) (limit : Nat) (x : Value) (mode : Mode) (traced : Bool)
    (asked : Traced Bool) : Prop :=
  ∃ debug ask, Asks proxy ⟨limit, debug⟩ x traced ask ∧ ask mode = asked

variable {proxy : P} {limit : Nat} {x : Value} {mode : Mode} {traced : Bool} {asked : Traced Bool}

theorem asked_watched (entry : Asked proxy limit x mode traced asked) :
    asked = if traced then watched proxy limit x mode else (watched proxy limit x mode).hushed := by
  obtain ⟨debug, ask, asks, rfl⟩ := entry
  obtain ⟨traces, rfl, rfl⟩ := asks_eq asks
  exact vectorhood_watched proxy ⟨limit, debug⟩ traces x mode

theorem asked_agrees (entry : Asked proxy limit x mode traced asked) :
    asked.outcome = (watched proxy limit x mode).outcome ∧
      asked.calls = (watched proxy limit x mode).calls := by
  rw [asked_watched entry]
  cases traced <;> exact ⟨rfl, rfl⟩

theorem asked_untraced (entry : Asked proxy limit x mode false asked) : asked.Writes [] := by
  rw [asked_watched entry]
  exact Traced.writes_nothing rfl

theorem asked_traced {lines : List String} (entry : Asked proxy limit x mode true asked)
    (writes : (watched proxy limit x mode).Writes lines) : asked.Writes lines := by
  rw [asked_watched entry]
  exact writes

/-- Where nothing would be written, nothing is written in either case. -/
theorem asked_silent (entry : Asked proxy limit x mode traced asked)
    (silent : (watched proxy limit x mode).Writes []) : asked.Writes [] := by
  cases traced with
  | true => exact asked_traced entry silent
  | false => exact asked_untraced entry

end Entries

/-- What tracing does to a decision, and every line it writes. -/
structure TracingLaw {P : Type} [Proxy P] (proxy : P) (limit : Nat) (x : Value) (mode : Mode) :
    Prop where
  offered : ∀ traced, ∃ asked, Asked proxy limit x mode traced asked
  untouched : ∀ traced traced' asked asked', Asked proxy limit x mode traced asked →
    Asked proxy limit x mode traced' asked' →
      asked.outcome = asked'.outcome ∧ asked.calls = asked'.calls
  untraced : ∀ asked, Asked proxy limit x mode false asked → asked.Writes []
  settled : x.resolve mode ≠ .s3 →
    ∀ traced asked, Asked proxy limit x mode traced asked → asked.Writes []
  spent : x.resolve mode = .s3 → limit = 0 → ∃ cls, x.cls? = some cls ∧
    ∀ asked, Asked proxy limit x mode true asked → asked.Writes
      ["[vector_kind] proxy cycle: `" ++ cls.text ++ "` unresolved after 0 hops\n"]
  refused : x.resolve mode = .s3 → limit ≠ 0 →
    ∀ fault, (Proxy.reply proxy x).answer = .error fault →
      ∀ traced asked, Asked proxy limit x mode traced asked → asked.Writes []
  hop : x.resolve mode = .s3 → limit ≠ 0 → ∀ y, (Proxy.reply proxy x).answer = .ok y →
    ∀ asked, Asked proxy limit x mode true asked → asked.Writes
      ["[vector_kind] proxy hop 1: " ++ x.text ++ " -> " ++ y.text ++ "\n"]

theorem tracing_law {P : Type} [Proxy P] (proxy : P) (limit : Nat) (x : Value) (mode : Mode) :
    TracingLaw proxy limit x mode where
  offered := fun traced => ⟨_, false, _, .told traced, rfl⟩
  untouched := by
    intro traced traced' asked asked' entry entry'
    obtain ⟨outcome, calls⟩ := asked_agrees entry
    obtain ⟨outcome', calls'⟩ := asked_agrees entry'
    exact ⟨outcome.trans outcome'.symm, calls.trans calls'.symm⟩
  untraced := fun _ entry => asked_untraced entry
  settled := fun settled _ _ entry => asked_silent entry (watched_settled proxy settled)
  spent := by
    intro object spent
    obtain ⟨cls, carried, writes⟩ := watched_spent proxy object spent
    exact ⟨cls, carried, fun _ entry => asked_traced entry writes⟩
  refused := by
    intro object allowed fault refused traced asked entry
    exact asked_silent entry (watched_refused proxy object allowed refused)
  hop := by
    intro object allowed y answered asked entry
    exact asked_traced entry (watched_hop proxy object allowed answered)

end Taxon
