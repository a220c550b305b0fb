import ParamGate.Proofs.Frame

/-!
How a call of the gate goes: it is decided by the trailing arguments, by the settings, by the checks
of the parameters or by the predicates, in this order.
-/

namespace ParamGate

open Run

variable {σ : Type} {host : Host σ} {args spec called : Value} {trailing : List Value}
  {settings : Option Settings} {w : World σ}

theorem params_of_validateUnder {settings : Settings} {called : Value} {spec : Value}
    {w w' : World σ} {result : Entries}
    (h : validateUnder host settings called spec w = .ok result w') :
    ∃ params, Arguments.params w.args = .ok params := by
  obtain ⟨rules, t, hr, h⟩ := bind_eq_ok.mp h
  obtain ⟨-, rfl⟩ := orFail_eq_ok.mp hr
  obtain ⟨params, u, hp, -⟩ := bind_eq_ok.mp h
  exact ⟨params, (World.params_eq_ok.mp hp).1⟩

theorem validateUnder_eq_ok {S : Settings} {caller : Value} {w' : World σ} {result : Entries}
    (hn : S.noValidation = false) :
    validateUnder host S caller spec w = .ok result w' ↔
      ∃ rules params s, Spec.ofValue spec = .ok rules ∧ Arguments.params w.args = .ok params ∧
        rules.nameFault? S.allowExtra params = none ∧
        rules.checkValues host caller { w with params := params } = .ok () s ∧
        rules.fillDefaults s.params = result ∧ s.toWorld = w' := by
  constructor
  · intro h
    obtain ⟨rules, _, hr, h⟩ := bind_eq_ok.mp h
    obtain ⟨hrules, rfl⟩ := orFail_eq_ok.mp hr
    obtain ⟨params, _, hp, h⟩ := bind_eq_ok.mp h
    obtain ⟨hparams, rfl⟩ := World.params_eq_ok.mp hp
    rw [hn] at h
    dsimp only [Bool.false_eq_true, if_false] at h
    cases hf : rules.nameFault? S.allowExtra params with
    | some f =>
      rw [hf] at h
      cases h
    | none =>
      rw [hf] at h
      obtain ⟨⟨_, es⟩, t, hc, h⟩ := bind_eq_ok.mp h
      obtain ⟨s, hs, rfl, rfl⟩ := World.onStage_eq_ok.mp hc
      cases h
      exact ⟨rules, params, s, hrules, hparams, hf, hs, rfl, rfl⟩
  · rintro ⟨rules, params, s, hrules, hparams, hf, hs, rfl, rfl⟩
    have hstage := World.onStage_eq_ok.mpr ⟨s, hs, rfl, rfl⟩
    rw [validateUnder, bind_of_ok (orFail_eq_ok.mpr ⟨hrules, rfl⟩),
      bind_of_ok (World.params_eq_ok.mpr ⟨hparams, rfl⟩), hn, if_neg Bool.false_ne_true, hf]
    exact bind_of_ok hstage

/-- What a call ends with, by the rung that decides. The predicates start on a mapping of the
arguments in the world that the checks left. -/
inductive Goes (host : Host σ) (args spec : Value) (trailing : List Value) (called : Value)
    (settings : Option Settings) (w : World σ) : EStateM.Result Failure (World σ) Unit → Prop
  | refused (hp : readPredicates trailing = none) :
    Goes host args spec trailing called settings w (.error .trailing { w with args := args })
  | unset {predicates : List Condition} {e : Failure} {t : World σ}
    (hp : readPredicates trailing = some predicates)
    (hs : World.settings settings { w with args := args } = .error e t) :
    Goes host args spec trailing called settings w (.error e t)
  | unfit {predicates : List Condition} {S : Settings} {w₁ t : World σ} {e : Failure}
    (hp : readPredicates trailing = some predicates)
    (hs : World.settings settings { w with args := args } = .ok S w₁)
    (hv : validateUnder host S (Arguments.caller called S) spec w₁ = .error e t) :
    Goes host args spec trailing called settings w (.error e t)
  | asked {predicates : List Condition} {S : Settings} {w₁ w₂ : World σ} {result params : Entries}
    (hp : readPredicates trailing = some predicates)
    (hs : World.settings settings { w with args := args } = .ok S w₁)
    (hv : validateUnder host S (Arguments.caller called S) spec w₁ = .ok result w₂)
    (ha : Arguments.params args = .ok params) :
    Goes host args spec trailing called settings w
      (match checkPredicates host (Arguments.caller called S) 0 predicates
          { w₂ with params := params } with
        | .ok _ s => .ok () s.toWorld
        | .error e s => .error e s.toWorld)

theorem validate_goes (host : Host σ) (args spec : Value) (trailing : List Value) (called : Value)
    (settings : Option Settings) (w : World σ) :
    Goes host args spec trailing called settings w
      (validate host args spec trailing called settings w) := by
  rw [validate_eq, World.receive_bind]
  cases hp : readPredicates trailing with
  | none => exact .refused hp
  | some predicates =>
    dsimp only
    cases hs : World.settings settings { w with args := args } with
    | error e t =>
      rw [bind_of_error hs]
      exact .unset hp hs
    | ok S w₁ =>
      rw [bind_of_ok hs]
      cases hv : validateUnder host S (Arguments.caller called S) spec w₁ with
      | error e t =>
        rw [bind_of_error hv]
        exact .unfit hp hs hv
      | ok result w₂ =>
        obtain ⟨params, ha⟩ := params_of_validateUnder hv
        -- Neither settings nor checks touch the arguments, which can be read a second time.
        have h₁ : w₁.args = args :=
          ((World.settings_keeps (P := Call.IsCheck) settings).of_ok hs).args
        have h₂ : w₂.args = w₁.args :=
          ((validateUnder_keeps host S (Arguments.caller called S) spec).of_ok hv).args
        have hm : World.params (Arguments.caller called S) w₂ = .ok params w₂ :=
          World.params_eq_ok.mpr ⟨by rw [h₂, ha], rfl⟩
        rw [h₁] at ha
        rw [bind_of_ok hv, bind_of_ok hm]
        have hg := Goes.asked hp hs hv ha
        cases hc : checkPredicates host (Arguments.caller called S) 0 predicates
            { w₂ with params := params } with
        | error e s =>
          rw [hc] at hg
          rw [bind_of_error (World.onStage_of_error hc)]
          exact hg
        | ok u s =>
          rw [hc] at hg
          rw [bind_of_ok (World.onStage_eq_ok.mpr ⟨s, hc, rfl, rfl⟩)]
          exact hg

theorem validate_of_validateUnder {predicates : List Condition} {S : Settings} {w₁ w₂ : World σ}
    {result params : Entries} (hp : readPredicates trailing = some predicates)
    (hs : World.settings settings { w with args := args } = .ok S w₁)
    (hv : validateUnder host S (Arguments.caller called S) spec w₁ = .ok result w₂)
    (ha : Arguments.params args = .ok params) :
    validate host args spec trailing called settings w =
      match checkPredicates host (Arguments.caller called S) 0 predicates
          { w₂ with params := params } with
      | .ok _ s => .ok () s.toWorld
      | .error e s => .error e s.toWorld := by
  have hg := validate_goes host args spec trailing called settings w
  generalize validate host args spec trailing called settings w = r at hg
  cases hg with
  | refused hp' =>
    rw [hp] at hp'
    cases hp'
  | unset _ hs' =>
    rw [hs] at hs'
    cases hs'
  | unfit _ hs' hv' =>
    rw [hs] at hs'
    cases hs'
    rw [hv] at hv'
    cases hv'
  | asked hp' hs' hv' ha' =>
    rw [hp] at hp'
    cases hp'
    rw [hs] at hs'
    cases hs'
    rw [hv] at hv'
    cases hv'
    rw [ha] at ha'
    cases ha'
    rfl

theorem outcome_validate_of_validateUnder {predicates : List Condition} {S : Settings}
    {w₁ w₂ : World σ} {result params : Entries} (hp : readPredicates trailing = some predicates)
    (hs : World.settings settings { w with args := args } = .ok S w₁)
    (hv : validateUnder host S (Arguments.caller called S) spec w₁ = .ok result w₂)
    (ha : Arguments.params args = .ok params) :
    outcome (validate host args spec trailing called settings w) =
      outcome (checkPredicates host (Arguments.caller called S) 0 predicates
        { w₂ with params := params }) := by
  rw [validate_of_validateUnder hp hs hv ha]
  cases checkPredicates host (Arguments.caller called S) 0 predicates
    { w₂ with params := params } <;> rfl

theorem validate_of_unfit {predicates : List Condition} {e : Failure} {t : World σ}
    (hp : readPredicates trailing = some predicates)
    (hv : validateParams host args spec called settings w = .error e t) :
    validate host args spec trailing called settings w = .error e t := by
  rw [validateParams, World.receive_bind] at hv
  rcases bind_eq_error.mp hv with hs | ⟨S, w₁, hs, hv⟩
  · rw [validate_eq, World.receive_bind, hp]
    exact bind_of_error hs
  · rw [validate_of_settings hp hs]
    exact bind_of_error hv

theorem validate_of_fit {result : Entries} {t : World σ}
    (hv : validateParams host args spec called settings w = .ok result t) :
    ∃ caller params, Arguments.params args = .ok params ∧
      ∀ trailing predicates, readPredicates trailing = some predicates →
        outcome (validate host args spec trailing called settings w) =
            outcome (checkPredicates host caller 0 predicates { t with params := params }) ∧
          last (validate host args spec trailing called settings w) =
            (last
              (checkPredicates host caller 0 predicates { t with params := params })).toWorld := by
  rw [validateParams, World.receive_bind] at hv
  obtain ⟨S, w₁, hs, hv⟩ := bind_eq_ok.mp hv
  have hargs : w₁.args = args :=
    ((World.settings_keeps (P := Call.IsCheck) settings).of_ok hs).args
  obtain ⟨params, hparams⟩ := params_of_validateUnder hv
  rw [hargs] at hparams
  refine ⟨Arguments.caller called S, params, hparams, fun trailing predicates hp => ?_⟩
  rw [validate_of_validateUnder hp hs hv hparams]
  cases checkPredicates host (Arguments.caller called S) 0 predicates
      { t with params := params } <;> exact ⟨rfl, rfl⟩

theorem validate_eq_ok {w' : World σ} :
    validate host args spec trailing called settings w = .ok () w' ↔
      ∃ predicates S w₁ result w₂ params s, readPredicates trailing = some predicates ∧
        World.settings settings { w with args := args } = .ok S w₁ ∧
        validateUnder host S (Arguments.caller called S) spec w₁ = .ok result w₂ ∧
        Arguments.params args = .ok params ∧
        checkPredicates host (Arguments.caller called S) 0 predicates
          { w₂ with params := params } = .ok () s ∧
        s.toWorld = w' := by
  constructor
  · intro hr
    have hg := validate_goes host args spec trailing called settings w
    rw [hr] at hg
    generalize hr : EStateM.Result.ok () w' = r at hg
    cases hg with
    | refused hp => cases hr
    | unset hp hs => cases hr
    | unfit hp hs hv => cases hr
    | @asked predicates S w₁ w₂ result params hp hs hv ha =>
      cases hc : checkPredicates host (Arguments.caller called S) 0 predicates
          { w₂ with params := params } with
      | error e s =>
        rw [hc] at hr
        cases hr
      | ok u s =>
        rw [hc] at hr
        cases hr
        exact ⟨predicates, S, w₁, result, w₂, params, s, hp, hs, hv, ha, hc, rfl⟩
  · rintro ⟨predicates, S, w₁, result, w₂, params, s, hp, hs, hv, ha, hc, rfl⟩
    rw [validate_of_validateUnder hp hs hv ha, hc]

theorem validate_eq_ok_of_validateUnder {S : Settings} {w₁ w₂ : World σ} {result : Entries}
    (hs : World.settings settings { w with args := args } = .ok S w₁)
    (hv : validateUnder host S (Arguments.caller called S) spec w₁ = .ok result w₂) :
    validate host args spec [] called settings w = .ok () w₂ := by
  obtain ⟨params, ha⟩ := params_of_validateUnder hv
  have hargs : w₁.args = args :=
    ((World.settings_keeps (P := Call.IsCheck) settings).of_ok hs).args
  rw [hargs] at ha
  exact validate_eq_ok.mpr ⟨[], S, w₁, result, w₂, params, _, rfl, hs, hv, ha, rfl, rfl⟩

end ParamGate
