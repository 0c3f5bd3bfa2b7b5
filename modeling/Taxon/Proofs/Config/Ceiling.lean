import Mathlib.Data.List.Induction
import Taxon.Classifier
import Taxon.Config.Document
import Taxon.Config.Environment
import Taxon.Proofs.Outcome

/-!
The ceiling of the proxy depth. The builders of configurations check nothing, so configurations
above the ceiling exist; but every route from the outside defaults, ignores or rejects, and a
classifier takes a configuration through validation only.
-/

set_option autoImplicit false

namespace Taxon

namespace Config

def Within (config : Config) : Prop := config.maxProxyDepth ≤ proxyDepthCeiling

theorem validate_within {config : Config} (within : config.Within) :
    config.validate = .ok config := by
  rw [validate, if_neg (Nat.not_lt.mpr within)]

theorem validate_above {config : Config} (above : ¬config.Within) :
    config.validate = .error (.invalidConfig
      s!"max_proxy_depth {config.maxProxyDepth} exceeds the ceiling of {proxyDepthCeiling}") := by
  rw [validate, if_pos (Nat.lt_of_not_le above)]

theorem validate_ok {config valid : Config} (accepted : config.validate = .ok valid) :
    valid = config ∧ config.Within := by
  by_cases within : config.Within
  · rw [validate_within within] at accepted
    exact ⟨(Except.ok.inj accepted).symm, within⟩
  · rw [validate_above within] at accepted
    cases accepted

theorem default_within : default.Within := by
  unfold Within
  decide

theorem depth_of_within {text : String} {depth : Nat} (read : depthOf? text = some depth) :
    depth ≤ proxyDepthCeiling := by
  unfold depthOf? at read
  simp only [Option.ite_none_right_eq_some, Option.some.injEq] at read
  obtain ⟨allowed, rfl⟩ := read
  exact allowed.2.2

theorem environment_within (environment : Environment) : (ofEnvironment environment).Within := by
  change (environment.depth.text?.bind depthOf?).getD defaultProxyDepth ≤ proxyDepthCeiling
  cases read : environment.depth.text?.bind depthOf? with
  | none => exact default_within
  | some depth =>
      obtain ⟨text, _, asked⟩ := Option.bind_eq_some_iff.mp read
      exact depth_of_within asked

theorem text_within {reader : Toml.Reader} {text : String} {config : Config}
    (read : ofText reader text = .ok config) : config.Within := by
  unfold ofText at read
  split at read
  · cases read
  · split at read
    · cases read
    · obtain ⟨rfl, within⟩ := validate_ok read
      exact within

theorem load_within {d : WorkingDirectory} {path : String} {config : Config}
    (read : load d path = .ok config) : config.Within := by
  unfold load loadText at read
  split at read
  · cases read
  · exact text_within read

/-- The configurations that come from somewhere else than the builders. -/
inductive Produced : Config → Prop where
  | default : Produced .default
  | environment (environment : Environment) : Produced (.ofEnvironment environment)
  | document {text : String} {config : Config} (read : ofDocument text = .ok config) :
      Produced config
  | file {d : WorkingDirectory} {path : String} {config : Config}
      (read : load d path = .ok config) : Produced config

theorem produced_within {config : Config} (produced : Produced config) : config.Within := by
  cases produced with
  | default => exact default_within
  | environment environment => exact environment_within environment
  | document read => exact text_within read
  | file read => exact load_within read

end Config

namespace Classifier

variable {P : Type}

theorem with_config_within (c : Classifier P) {config : Config} (within : config.Within) :
    c.withConfig config = .ok ⟨c.proxy, config⟩ := by
  rw [withConfig, Config.validate_within within]
  rfl

theorem with_config_above (c : Classifier P) {config : Config} (above : ¬config.Within) :
    c.withConfig config = .error (.invalidConfig
      s!"max_proxy_depth {config.maxProxyDepth} exceeds the ceiling of {Config.proxyDepthCeiling}")
    := by
  rw [withConfig, Config.validate_above above]
  rfl

theorem with_config_ok {c configured : Classifier P} {config : Config}
    (accepted : c.withConfig config = .ok configured) :
    configured = ⟨c.proxy, config⟩ ∧ config.Within := by
  obtain ⟨valid, validated, rfl⟩ := Outcome.ok_of_map accepted
  obtain ⟨rfl, within⟩ := Config.validate_ok validated
  exact ⟨rfl, within⟩

/-- What is done with the classifiers at hand, each of them called by its place. -/
inductive Handling (P : Type) where
  | new (proxy : P)
  | default
  | configure (place : Nat) (config : Config)
  | clone (place : Nat)
  | editProxy (place : Nat) (edit : P → P)

variable [Inhabited P]

/-- The classifiers at hand afterwards. A classifier that refuses a configuration is lost. -/
def Handling.perform (shelf : List (Classifier P)) : Handling P → List (Classifier P)
  | .new proxy => shelf ++ [Classifier.new proxy]
  | .default => shelf ++ [Inhabited.default]
  | .configure place config =>
      match shelf[place]? with
      | none => shelf
      | some c =>
          match c.withConfig config with
          | .error _ => shelf.eraseIdx place
          | .ok configured => shelf.set place configured
  | .clone place => shelf ++ shelf[place]?.toList
  | .editProxy place edit => shelf.modify place fun c => c.editProxy edit

def shelfAfter (handlings : List (Handling P)) : List (Classifier P) :=
  handlings.foldl Handling.perform []

def Bounded (shelf : List (Classifier P)) : Prop := ∀ c ∈ shelf, c.config.Within

theorem perform_bounded {shelf : List (Classifier P)} (bounded : Bounded shelf)
    (handling : Handling P) : Bounded (handling.perform shelf) := by
  cases handling with
  | new proxy =>
      have fresh : Bounded [Classifier.new proxy] :=
        List.forall_mem_singleton.mpr Config.default_within
      exact List.forall_mem_append.mpr ⟨bounded, fresh⟩
  | default =>
      have fresh : Bounded [(Inhabited.default : Classifier P)] :=
        List.forall_mem_singleton.mpr Config.default_within
      exact List.forall_mem_append.mpr ⟨bounded, fresh⟩
  | configure place config =>
      intro c member
      rw [Handling.perform] at member
      split at member
      · exact bounded c member
      · split at member
        · exact bounded c (List.mem_of_mem_eraseIdx member)
        · -- The one place where a configuration from outside gets onto the shelf.
          rename_i accepted
          obtain ⟨rfl, within⟩ := with_config_ok accepted
          rcases List.mem_or_eq_of_mem_set member with kept | rfl
          · exact bounded c kept
          · exact within
  | clone place =>
      have copy : Bounded shelf[place]?.toList := by
        intro c member
        exact bounded c (List.mem_of_getElem? (Option.mem_toList.mp member))
      exact List.forall_mem_append.mpr ⟨bounded, copy⟩
  | editProxy place edit =>
      intro c member
      obtain ⟨position, inside, rfl⟩ := List.mem_iff_getElem.mp member
      simp only [Handling.perform, List.length_modify] at inside
      have before := bounded _ (List.getElem_mem inside)
      simp only [Handling.perform, List.getElem_modify]
      split
      · exact before
      · exact before

theorem shelf_bounded (handlings : List (Handling P)) : Bounded (shelfAfter handlings) := by
  induction handlings using List.reverseRecOn with
  | nil =>
      intro c member
      cases member
  | append_singleton handlings handling induction =>
      rw [shelfAfter, List.foldl_append]
      exact perform_bounded induction handling

/-- Who keeps to the ceiling of the depth, and what happens above it. -/
structure CeilingLaw (P : Type) [Inhabited P] : Prop where
  produced : ∀ config, Config.Produced config → config.maxProxyDepth ≤ 4096
  held : ∀ (handlings : List (Handling P)), ∀ c ∈ shelfAfter handlings,
    c.config.maxProxyDepth ≤ 4096
  attained : ∀ c : Classifier P, c.config.maxProxyDepth ≤ 4096 →
    ∃ handlings, c ∈ shelfAfter handlings
  -- The builders check nothing.
  built : ∀ (base : Config) depth debug,
    (base.withMaxProxyDepth depth).withDebug debug = ⟨depth, debug⟩
  accepted : ∀ (c : Classifier P) config,
    (∃ configured, c.withConfig config = .ok configured) ↔ config.maxProxyDepth ≤ 4096
  configured : ∀ (c configured : Classifier P) config, c.withConfig config = .ok configured →
    configured.config = config ∧ configured.proxy = c.proxy
  refused : ∀ (c : Classifier P) config, ¬config.maxProxyDepth ≤ 4096 →
    c.withConfig config = .error (.invalidConfig
      s!"max_proxy_depth {config.maxProxyDepth} exceeds the ceiling of {Config.proxyDepthCeiling}")

theorem depth_ceiling_law (P : Type) [Inhabited P] : CeilingLaw P where
  produced := fun _ produced => Config.produced_within produced
  held := shelf_bounded
  attained := by
    intro c within
    refine ⟨[.new c.proxy, .configure 0 c.config], ?_⟩
    have accepted : (Classifier.new c.proxy).withConfig c.config = .ok c :=
      with_config_within _ within
    change c ∈ Handling.perform [Classifier.new c.proxy] (.configure 0 c.config)
    simp only [Handling.perform, List.getElem?_cons_zero, accepted]
    exact List.mem_cons_self
  built := fun _ _ _ => rfl
  accepted := by
    intro c config
    constructor
    · rintro ⟨configured, accepted⟩
      exact (with_config_ok accepted).2
    · intro within
      exact ⟨_, with_config_within c within⟩
  configured := by
    intro c configured config accepted
    obtain ⟨rfl, _⟩ := with_config_ok accepted
    exact ⟨rfl, rfl⟩
  refused := fun c _ above => with_config_above c above

end Classifier

end Taxon
