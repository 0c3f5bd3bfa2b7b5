import Taxon.Proofs.Kind.Names
import Taxon.Proofs.Session.Constants
import Taxon.Value.Equality

/-!
Entry points that take their flag as a value. A flag is read off the first element of a logical
vector; a bad flag is reported before anything else happens. With a good flag the answers are those
of the plain operations: the name of the kind, and the pooled scalar for the truth value.
-/

set_option autoImplicit false

namespace Taxon

/-- A logical vector that starts with this truth value, whatever follows and whatever it carries. -/
def Value.Flags (flag : Value) (enabled : Bool) : Prop :=
  ∃ rest header, flag = .atoms (.logical (some enabled :: rest)) header

theorem Value.first_logical_iff (flag : Value) (enabled : Bool) :
    flag.firstLogical? = some enabled ↔ flag.Flags enabled := by
  constructor
  · intro first
    cases flag with
    | atoms elements header =>
        cases elements with
        | logical elements =>
            cases elements with
            | nil => cases first
            | cons head rest =>
                simp only [firstLogical?, asLogical?, Option.bind_some, List.head?_cons,
                  Option.join_some] at first
                exact ⟨rest, header, by rw [first]⟩
        | _ => cases first
    | _ => cases first
  · rintro ⟨rest, header, rfl⟩
    rfl

namespace Pool

theorem logical_equal (truth : Bool) (storage : Nat) (isMutable : Bool) :
    (Pool.shared.logical truth).equal
      (.atoms (.logical [some truth]) ⟨storage, none, isMutable⟩) = true := by
  cases truth <;> rfl

theorem logical_shares_itself (truth : Bool) :
    (Pool.shared.logical truth).sharesStorage (Pool.shared.logical truth) = true := by
  cases truth <;> rfl

theorem logical_shares_only {truth : Bool} {entry : Value} (pooled : entry ∈ Pool.shared.entries)
    (shared : (Pool.shared.logical truth).sharesStorage entry = true) :
    entry = Pool.shared.logical truth := by
  simp only [entries, List.mem_cons, List.not_mem_nil, or_false] at pooled
  cases truth <;> rcases pooled with rfl | rfl | rfl | rfl | rfl | rfl | rfl | rfl | rfl
  all_goals first | rfl | cases shared

end Pool

namespace Host

theorem dispatch_flag_iff (flag : Value) (mode : Mode) :
    dispatchFlag flag = .ok mode ↔ ∃ enabled, flag.Flags enabled ∧ mode = .ofBool enabled := by
  simp only [← Value.first_logical_iff, dispatchFlag]
  cases flag.firstLogical? with
  | none => simp
  | some enabled => simp [eq_comm]

theorem dispatch_flag_refused {flag : Value} (unflagged : ∀ enabled, ¬flag.Flags enabled) :
    dispatchFlag flag = .error (.invalidDispatchFlag flag.text) := by
  simp only [← Value.first_logical_iff] at unflagged
  rw [dispatchFlag, Option.eq_none_iff_forall_ne_some.mpr unflagged]

variable {P : Type} [Proxy P]

/-- A bad flag ends the call at once: no proxy is asked, nothing is traced, and the surroundings are
not even read. -/
theorem vectorhood_value_refused (ambient : Ambient) (pool : Pool) (proxy : P) (x : Value)
    {flag : Value} {fault : Fault} (refused : dispatchFlag flag = .error fault) :
    vectorhoodValue ambient pool proxy x flag = (.silent (.error fault), ambient) := by
  rw [vectorhoodValue, refused]

theorem vectorhood_value_asked (ambient : Ambient) (pool : Pool) (proxy : P) (x : Value)
    {flag : Value} {mode : Mode} (flagged : dispatchFlag flag = .ok mode) :
    vectorhoodValue ambient pool proxy x flag =
      ((ambient.vectorhood proxy x mode).1.map pool.logical,
        (ambient.vectorhood proxy x mode).2) := by
  rw [vectorhoodValue, flagged]

/-- The value is the answer for a truth value: it equals the vector of this one element, and it
lives with one constant of the pool. -/
structure Scalar (pool : Pool) (truth : Bool) (y : Value) : Prop where
  unclassed : y.cls? = none
  frozen : y.isMutable = false
  equal : ∀ storage isMutable,
    y.equal (.atoms (.logical [some truth]) ⟨storage, none, isMutable⟩) = true
  shares : y.sharesStorage (pool.logical truth) = true
  apart : ∀ entry ∈ pool.entries, y.sharesStorage entry = true → entry = pool.logical truth

theorem scalar_logical (truth : Bool) :
    Scalar Pool.shared truth (Pool.shared.logical truth) where
  unclassed := by cases truth <;> rfl
  frozen := by cases truth <;> rfl
  equal := Pool.logical_equal truth
  shares := Pool.logical_shares_itself truth
  apart := fun _ => Pool.logical_shares_only

/-- How the entry points for callers among the values relate to the plain operations. -/
structure FlagLaw (P : Type) [Proxy P] (pool : Pool) : Prop where
  read : ∀ flag mode,
    dispatchFlag flag = .ok mode ↔ ∃ enabled, flag.Flags enabled ∧ mode = .ofBool enabled
  refused : ∀ flag : Value, (∀ enabled, ¬flag.Flags enabled) →
    dispatchFlag flag = .error (.invalidDispatchFlag flag.text)
  typeofRefused : ∀ storage x flag fault, dispatchFlag flag = .error fault →
    typeofValue storage x flag = .error fault
  typeofNamed : ∀ storage x flag mode, dispatchFlag flag = .ok mode →
    ∃ name header, typeofValue storage x flag = .ok (.atoms (.character [some name]) header) ∧
      header.cls = none ∧ Kind.parse name = .ok (x.resolve mode)
  askedRefused : ∀ ambient (proxy : P) x flag fault, dispatchFlag flag = .error fault →
    vectorhoodValue ambient pool proxy x flag = (⟨.error fault, [], []⟩, ambient)
  askedAlike : ∀ (ambient : Ambient) (proxy : P) x flag mode, dispatchFlag flag = .ok mode →
    (vectorhoodValue ambient pool proxy x flag).1.calls =
        (ambient.vectorhood proxy x mode).1.calls ∧
      (vectorhoodValue ambient pool proxy x flag).1.trace =
        (ambient.vectorhood proxy x mode).1.trace ∧
      (vectorhoodValue ambient pool proxy x flag).2 = (ambient.vectorhood proxy x mode).2
  askedFault : ∀ (ambient : Ambient) (proxy : P) x flag mode fault,
    dispatchFlag flag = .ok mode → ((ambient.vectorhood proxy x mode).1.outcome = .error fault ↔
      (vectorhoodValue ambient pool proxy x flag).1.outcome = .error fault)
  askedAnswer : ∀ (ambient : Ambient) (proxy : P) x flag mode truth,
    dispatchFlag flag = .ok mode → (ambient.vectorhood proxy x mode).1.outcome = .ok truth →
      ∃ y, (vectorhoodValue ambient pool proxy x flag).1.outcome = .ok y ∧ Scalar pool truth y

theorem flag_law_of_run (environment : Environment) (requests : List (Request P)) :
    FlagLaw P ((Session.start environment).run requests).workspace.pool := by
  have started : (Session.start environment).workspace.Sound := Workspace.empty_sound
  rw [(Session.run_sound started requests).pool]
  constructor
  · exact dispatch_flag_iff
  · exact fun flag => dispatch_flag_refused
  · intro storage x flag fault refused
    rw [typeofValue, refused]
    rfl
  · intro storage x flag mode flagged
    refine ⟨(x.resolve mode).name, ⟨storage, none, true⟩, ?_, rfl, Kind.parse_name _⟩
    rw [typeofValue, flagged]
    rfl
  · intro ambient proxy x flag fault refused
    exact vectorhood_value_refused ambient Pool.shared proxy x refused
  · intro ambient proxy x flag mode flagged
    rw [vectorhood_value_asked ambient Pool.shared proxy x flagged]
    exact ⟨rfl, rfl, rfl⟩
  · intro ambient proxy x flag mode fault flagged
    rw [vectorhood_value_asked ambient Pool.shared proxy x flagged, Traced.map]
    cases (ambient.vectorhood proxy x mode).1.outcome <;> simp [Except.map]
  · intro ambient proxy x flag mode truth flagged answered
    refine ⟨Pool.shared.logical truth, ?_, scalar_logical truth⟩
    rw [vectorhood_value_asked ambient Pool.shared proxy x flagged, Traced.map, answered]
    rfl

end Host

end Taxon
