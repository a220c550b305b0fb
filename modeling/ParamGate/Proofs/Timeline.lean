import Mathlib.Data.List.Induction
import ParamGate.Proofs.Alike
import ParamGate.Proofs.Ending
import ParamGate.Session

/-!
The settings that the steps of a session come by. A step that is given none uses those of the first
build that succeeded since they were last dropped, whatever has become of the environment; a step
that is given some, or is refused before it needs any, has nothing to do with them.
-/

namespace ParamGate

open Run

variable {σ : Type} {host : Host σ} {w : World σ} {S : Settings}

namespace Environment

def afterStep (env : Environment) : Step → Environment
  | .setVariable name (some text) => env.set name text
  | .setVariable name none => env.unset name
  | _ => env

def after (env : Environment) (steps : List Step) : Environment := steps.foldl afterStep env

theorem after_snoc (env : Environment) (steps : List Step) (s : Step) :
    env.after (steps ++ [s]) = (env.after steps).afterStep s :=
  List.foldl_append

end Environment

namespace Step

def NeedsSettings : Step → Prop
  | .readSettings => True
  | .validateParams _ _ _ settings => settings = none
  | .validate _ _ trailing _ settings => settings = none ∧ ∀ v ∈ trailing, v.IsPredicate
  | .setVariable .. => False
  | .dropSettings => False

def Validates : Step → Prop
  | .validateParams .. => True
  | .validate .. => True
  | _ => False

def given (S : Settings) : Step → Step
  | .validateParams args spec called _ => .validateParams args spec called (some S)
  | .validate args spec trailing called _ => .validate args spec trailing called (some S)
  | s => s

/-- A step goes as if it had been given the settings; they are the ones read from the process, which
keeps them however the step ends. -/
structure Uses (host : Host σ) (s : Step) (w : World σ) (S : Settings) : Prop where
  read : World.settings none w = .ok S { w with cached := some S }
  perform : s.perform host w = (s.given S).perform host { w with cached := some S }
  kept : (s.after host w).cached = some S

end Step

/-- No build since the settings were last dropped has succeeded. -/
def Unbuilt (env : Environment) (steps : List Step) : Prop :=
  ∀ before s after, steps = before ++ s :: after → s.NeedsSettings → .dropSettings ∉ after →
    ∃ faults, Settings.build (env.after before) [] = .error faults

/-- The first build to succeed since the settings were last dropped has given these. -/
def FirstBuild (env : Environment) (steps : List Step) (S : Settings) : Prop :=
  ∃ before s after, steps = before ++ s :: after ∧ s.NeedsSettings ∧ .dropSettings ∉ after ∧
    Unbuilt env before ∧ Settings.build (env.after before) [] = .ok S

section Timeline

variable {env : Environment} {steps : List Step} {s : Step}

theorem snoc_eq_append_cons {α : Type} {xs before after : List α} {a x : α}
    (h : xs ++ [a] = before ++ x :: after) :
    (before = xs ∧ x = a ∧ after = []) ∨
      ∃ after', after = after' ++ [a] ∧ xs = before ++ x :: after' := by
  rcases List.eq_nil_or_concat after with rfl | ⟨after', b, rfl⟩
  · obtain ⟨hxs, hx⟩ := List.append_inj' h rfl
    cases hx
    exact .inl ⟨hxs.symm, rfl, rfl⟩
  · rw [List.concat_eq_append, ← List.cons_append, ← List.append_assoc] at h
    obtain ⟨hxs, hb⟩ := List.append_inj' h rfl
    cases hb
    exact .inr ⟨after', List.concat_eq_append .., hxs⟩

theorem Unbuilt.snoc (h : Unbuilt env steps)
    (hs : s.NeedsSettings → ∃ faults, Settings.build (env.after steps) [] = .error faults) :
    Unbuilt env (steps ++ [s]) := by
  intro before x after heq hx hdrop
  rcases snoc_eq_append_cons heq with ⟨rfl, rfl, -⟩ | ⟨after', rfl, rfl⟩
  · exact hs hx
  · exact h before x after' rfl hx fun hm => hdrop (List.mem_append_left _ hm)

theorem unbuilt_dropped : Unbuilt env (steps ++ [.dropSettings]) := by
  intro before x after heq hx hdrop
  rcases snoc_eq_append_cons heq with ⟨-, rfl, -⟩ | ⟨after', rfl, -⟩
  · cases hx
  · exact absurd (List.mem_append_right _ (List.mem_singleton.mpr rfl)) hdrop

theorem FirstBuild.snoc (h : FirstBuild env steps S) (hs : s ≠ .dropSettings) :
    FirstBuild env (steps ++ [s]) S := by
  obtain ⟨before, x, after, rfl, hx, hdrop, hun, hb⟩ := h
  refine ⟨before, x, after ++ [s], by simp, hx, fun hm => ?_, hun, hb⟩
  rcases List.mem_append.mp hm with hm | hm
  · exact hdrop hm
  · exact hs (List.mem_singleton.mp hm).symm

theorem Unbuilt.built (h : Unbuilt env steps) (hs : s.NeedsSettings)
    (hb : Settings.build (env.after steps) [] = .ok S) : FirstBuild env (steps ++ [s]) S :=
  ⟨steps, s, [], rfl, hs, List.not_mem_nil, h, hb⟩

theorem Unbuilt.not_firstBuild (h : Unbuilt env steps) : ¬ FirstBuild env steps S := by
  rintro ⟨before, x, after, heq, hx, hdrop, -, hb⟩
  obtain ⟨faults, he⟩ := h before x after heq hx hdrop
  rw [hb] at he
  cases he

theorem FirstBuild.unique {S' : Settings} (h : FirstBuild env steps S)
    (h' : FirstBuild env steps S') : S = S' := by
  obtain ⟨before, x, after, rfl, hx, hdrop, hun, hb⟩ := h
  obtain ⟨before', x', after', heq, hx', hdrop', hun', hb'⟩ := h'
  -- Of two places the earlier one has no build before it that succeeds, so they are the same.
  rcases List.append_eq_append_iff.mp heq with ⟨m, rfl, hm⟩ | ⟨m, rfl, hm⟩
  · cases m with
    | nil =>
      rw [List.append_nil, hb] at hb'
      cases hb'
      rfl
    | cons y m =>
      cases hm
      have hm : .dropSettings ∉ m := fun hd => hdrop (List.mem_append_left _ hd)
      obtain ⟨faults, he⟩ := hun' before x m rfl hx hm
      rw [hb] at he
      cases he
  · cases m with
    | nil =>
      rw [List.append_nil, hb'] at hb
      cases hb
      rfl
    | cons y m =>
      cases hm
      have hm : .dropSettings ∉ m := fun hd => hdrop' (List.mem_append_left _ hd)
      obtain ⟨faults, he⟩ := hun before' x' m rfl hx' hm
      rw [hb'] at he
      cases he

end Timeline

theorem World.settings_none_eq_ok {w' : World σ} :
    World.settings none w = .ok S w' ↔
      (w.cached = some S ∨ w.cached = none ∧ Settings.build w.environment [] = .ok S) ∧
        w' = { w with cached := some S } := by
  rcases w with ⟨env, cached, args, h, calls, records⟩
  unfold World.settings
  dsimp only
  constructor
  · intro h
    cases cached with
    | some S' =>
      cases h
      exact ⟨.inl rfl, rfl⟩
    | none =>
      cases hb : Settings.build env [] with
      | ok S' =>
        rw [hb] at h
        cases h
        exact ⟨.inr ⟨rfl, rfl⟩, rfl⟩
      | error faults =>
        rw [hb] at h
        cases h
  · rintro ⟨rfl | ⟨rfl, hb⟩, rfl⟩
    · rfl
    · rw [hb]

namespace Step

variable {s : Step}

theorem perform_of_settings {w' : World σ} (hs : s.NeedsSettings)
    (h : World.settings none w = .ok S w') : s.perform host w = (s.given S).perform host w' := by
  have hread : ∀ args,
      World.settings none { w with args := args } = .ok S { w' with args := args } :=
    World.settings_receive h
  have hgiven : ∀ args, World.settings (some S) { w' with args := args } =
      .ok S { w' with args := args } := fun _ => rfl
  cases s with
  | setVariable name text => cases hs
  | dropSettings => cases hs
  | readSettings =>
    obtain ⟨-, rfl⟩ := World.settings_none_eq_ok.mp h
    rw [perform, bind_of_ok h]
    rfl
  | validateParams args spec called settings =>
    cases hs
    exact bind_of_eq ((validateParams_of_settings (hread args)).trans
      (validateParams_of_settings (hgiven args)).symm)
  | validate args spec trailing called settings =>
    obtain ⟨rfl, hall⟩ := hs
    obtain ⟨predicates, hp⟩ := exists_readPredicates hall
    exact (validate_of_settings hp (hread args)).trans (validate_of_settings hp (hgiven args)).symm

theorem perform_of_unsettled {faults : List Fault} (hs : s.NeedsSettings) (hc : w.cached = none)
    (hb : Settings.build w.environment [] = .error faults) :
    ∃ t, s.perform host w = .error (.settings faults) t ∧ t.kept = w.kept ∧ t.calls = w.calls := by
  have hread : ∀ args, World.settings none { w with args := args } =
      .error (.settings faults) { w with args := args } :=
    fun _ => World.settings_eq_error.mpr ⟨rfl, hc, faults, hb, rfl, rfl⟩
  cases s with
  | setVariable name text => cases hs
  | dropSettings => cases hs
  | readSettings => exact ⟨w, bind_of_error (hread w.args), rfl, rfl⟩
  | validateParams args spec called settings =>
    cases hs
    refine ⟨{ w with args := args }, bind_of_error ?_, rfl, rfl⟩
    rw [ParamGate.validateParams, World.receive_bind, bind_of_error (hread args)]
  | validate args spec trailing called settings =>
    obtain ⟨rfl, hall⟩ := hs
    obtain ⟨predicates, hp⟩ := exists_readPredicates hall
    refine ⟨{ w with args := args }, ?_, rfl, rfl⟩
    rw [perform, validate_eq, World.receive_bind, hp]
    exact bind_of_error (hread args)

theorem perform_alike {k k' : Environment × Option Settings} (hv : s.Validates)
    (hn : ¬ s.NeedsSettings) : Alike (World.SameBut k k') (s.perform host) (s.perform host) := by
  cases s with
  | setVariable name text => cases hv
  | dropSettings => cases hv
  | readSettings => cases hv
  | validateParams args spec called settings =>
    cases settings with
    | none => exact absurd rfl hn
    | some S =>
      have hrun : Alike (World.SameBut k k')
          (ParamGate.validateParams host args spec called (some S))
          (ParamGate.validateParams host args spec called (some S)) := fun _ _ h =>
        validateParams_alike World.SameBut.seenAlike (.pure S) (h.receive args) host spec called
      exact hrun.bind fun _ => .pure _
  | validate args spec trailing called settings =>
    cases settings with
    | none =>
      intro w w' h
      have hp : readPredicates trailing = none := by
        refine readPredicates_eq_none.mpr ?_
        by_contra hall
        exact hn ⟨rfl, by simpa using hall⟩
      rw [perform, validate_eq, World.receive_bind, World.receive_bind, hp]
      exact ⟨rfl, h.receive args⟩
    | some S =>
      intro w w' h
      exact validate_alike World.SameBut.seenAlike (.pure S) (h.receive args) host spec trailing
        called

theorem after_eq_last (host : Host σ) (s : Step) (w : World σ) :
    s.after host w = last (s.perform host w) := by
  unfold after
  cases s.perform host w <;> rfl

theorem kept_after {w : World σ} (hv : s.Validates) (hn : ¬ s.NeedsSettings) :
    (s.after host w).kept = w.kept := by
  rw [after_eq_last]
  exact (perform_alike hv hn w w ⟨rfl, rfl, rfl, rfl, rfl, rfl⟩).2.left

theorem kept_after_given (hs : s.NeedsSettings) :
    ((s.given S).after host { w with cached := some S }).kept = (w.environment, some S) := by
  cases s with
  | setVariable name text => cases hs
  | dropSettings => cases hs
  | readSettings => rfl
  | validateParams args spec called settings => exact kept_after trivial (Option.some_ne_none S)
  | validate args spec trailing called settings =>
    exact kept_after trivial fun h => Option.some_ne_none S h.1

theorem kept_after_of_settings (hs : s.NeedsSettings)
    (h : World.settings none w = .ok S { w with cached := some S }) :
    (s.after host w).kept = (w.environment, some S) := by
  rw [after_eq_last, perform_of_settings hs h, ← after_eq_last]
  exact kept_after_given hs

end Step

/-- What the process keeps after some steps. -/
def KeptAfter (env : Environment) (steps : List Step) : Option Settings → Prop
  | none => Unbuilt env steps
  | some S => FirstBuild env steps S

section Run

variable {env : Environment} {steps : List Step}

theorem KeptAfter.snoc {cached : Option Settings} {s : Step} (h : KeptAfter env steps cached)
    (hn : ¬ s.NeedsSettings) (hd : s ≠ .dropSettings) : KeptAfter env (steps ++ [s]) cached := by
  cases cached with
  | none => exact Unbuilt.snoc h fun hs => absurd hs hn
  | some S => exact FirstBuild.snoc h hd

theorem KeptAfter.needed (henv : w.environment = env.after steps)
    (h : KeptAfter env steps w.cached) {s : Step} (hs : s.NeedsSettings) :
    (∃ S, World.settings none w = .ok S { w with cached := some S } ∧
        FirstBuild env (steps ++ [s]) S) ∨
      ∃ faults, w.cached = none ∧ Settings.build w.environment [] = .error faults ∧
        Unbuilt env (steps ++ [s]) := by
  have hd : s ≠ .dropSettings := by
    rintro rfl
    cases hs
  cases hc : w.cached with
  | some S =>
    rw [hc] at h
    exact .inl ⟨S, World.settings_none_eq_ok.mpr ⟨.inl hc, rfl⟩, FirstBuild.snoc h hd⟩
  | none =>
    rw [hc] at h
    cases hb : Settings.build w.environment [] with
    | ok S =>
      refine .inl ⟨S, World.settings_none_eq_ok.mpr ⟨.inr ⟨hc, hb⟩, rfl⟩, ?_⟩
      rw [henv] at hb
      exact Unbuilt.built h hs hb
    | error faults =>
      refine .inr ⟨faults, rfl, rfl, Unbuilt.snoc h fun _ => ⟨faults, ?_⟩⟩
      rw [← henv]
      exact hb

theorem keptAfter_step (henv : w.environment = env.after steps)
    (h : KeptAfter env steps w.cached) (s : Step) :
    (s.after host w).environment = env.after (steps ++ [s]) ∧
      KeptAfter env (steps ++ [s]) (s.after host w).cached := by
  rw [Environment.after_snoc, ← henv]
  -- Whatever validates or reads the settings leaves the environment.
  have hread : (s.NeedsSettings ∨ s.Validates) → w.environment.afterStep s = w.environment := by
    intro hs
    cases s with
    | setVariable name text => rcases hs with hs | hs <;> cases hs
    | _ => rfl
  by_cases hs : s.NeedsSettings
  · rw [hread (.inl hs)]
    rcases h.needed henv hs with ⟨S, hS, hfirst⟩ | ⟨faults, hc, hb, hun⟩
    · have hk : (s.after host w).kept = (w.environment, some S) :=
        Step.kept_after_of_settings hs hS
      have hcached : (s.after host w).cached = some S := congrArg Prod.snd hk
      rw [hcached]
      exact ⟨congrArg Prod.fst hk, hfirst⟩
    · obtain ⟨t, ht, hk, -⟩ := Step.perform_of_unsettled hs hc hb
      have hcached : t.cached = none := (congrArg Prod.snd hk).trans hc
      rw [Step.after_eq_last, ht]
      show t.environment = w.environment ∧ KeptAfter env _ t.cached
      rw [hcached]
      exact ⟨congrArg Prod.fst hk, hun⟩
  · by_cases hv : s.Validates
    · rw [hread (.inr hv)]
      have hd : s ≠ .dropSettings := by
        rintro rfl
        cases hv
      have hk : (s.after host w).kept = w.kept := Step.kept_after hv hs
      have hcached : (s.after host w).cached = w.cached := congrArg Prod.snd hk
      rw [hcached]
      exact ⟨congrArg Prod.fst hk, h.snoc hs hd⟩
    · cases s with
      | setVariable name text =>
        refine ⟨?_, h.snoc hs (by simp)⟩
        cases text <;> rfl
      | dropSettings => exact ⟨rfl, unbuilt_dropped⟩
      | readSettings => exact absurd trivial hs
      | validateParams args spec called settings => exact absurd trivial hv
      | validate args spec trailing called settings => exact absurd trivial hv

theorem keptAfter_run (host : Host σ) (env : Environment) (h : σ) (steps : List Step) :
    (Step.afterAll host { environment := env, host := h } steps).environment = env.after steps ∧
      KeptAfter env steps (Step.afterAll host { environment := env, host := h } steps).cached := by
  induction steps using List.reverseRecOn with
  | nil =>
    refine ⟨rfl, fun before s after heq => ?_⟩
    simp at heq
  | append_singleton steps s ih =>
    rw [Step.afterAll_append]
    exact keptAfter_step ih.1 ih.2 s

end Run

/-- In every session, a step that needs the settings of the process uses those of the first build to
succeed since they were last dropped, its own included; if there is none it fails with the faults of
the environment and nothing is kept. A validation that does not need them goes the same way whatever
the environment and the settings kept, and leaves these alone. -/
theorem settings_come_from_first_build (host : Host σ) (env : Environment) (h : σ)
    (steps : List Step) (s : Step) :
    let w := Step.afterAll host { environment := env, host := h } steps
    (s.NeedsSettings →
      (∀ S, FirstBuild env (steps ++ [s]) S → s.Uses host w S) ∧
      ((¬ ∃ S, FirstBuild env (steps ++ [s]) S) →
        ∃ faults t, Settings.build (env.after steps) [] = .error faults ∧
          s.perform host w = .error (.settings faults) t ∧ t.cached = none ∧
          t.calls = w.calls)) ∧
    (s.Validates → ¬ s.NeedsSettings →
      (s.after host w).cached = w.cached ∧
      ∀ env' cached,
        outcome (s.perform host { w with environment := env', cached := cached }) =
            outcome (s.perform host w) ∧
          s.after host { w with environment := env', cached := cached } =
            { s.after host w with environment := env', cached := cached }) := by
  intro w
  obtain ⟨henv, hkept⟩ := keptAfter_run host env h steps
  refine ⟨fun hs => ?_, fun hv hn => ?_⟩
  · rcases KeptAfter.needed henv hkept hs with ⟨S, hS, hfirst⟩ | ⟨faults, hc, hb, hun⟩
    · refine ⟨fun S' hS' => ?_, fun hnone => absurd ⟨S, hfirst⟩ hnone⟩
      obtain rfl := hfirst.unique hS'
      have hk : (s.after host w).kept = (w.environment, some S) :=
        Step.kept_after_of_settings hs hS
      exact ⟨hS, Step.perform_of_settings hs hS, congrArg Prod.snd hk⟩
    · refine ⟨fun S' hS' => absurd hS' hun.not_firstBuild, fun _ => ?_⟩
      obtain ⟨t, ht, hk, hcalls⟩ := Step.perform_of_unsettled hs hc hb
      have hnone : t.cached = none := (congrArg Prod.snd hk).trans hc
      rw [henv] at hb
      exact ⟨faults, t, hb, ht, hnone, hcalls⟩
  · refine ⟨congrArg Prod.snd (Step.kept_after hv hn), fun env' cached => ?_⟩
    have hsame : World.SameBut w.kept (env', cached) w
        { w with environment := env', cached := cached } := ⟨rfl, rfl, rfl, rfl, rfl, rfl⟩
    obtain ⟨hout, hlast⟩ := Step.perform_alike hv hn _ _ hsame
    rw [Step.after_eq_last, Step.after_eq_last]
    exact ⟨hout.symm, hlast.eq⟩

end ParamGate
