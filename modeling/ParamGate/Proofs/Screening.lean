import ParamGate.Proofs.Frame

/-!
A validation in two halves. The screening of the parameters lets them through or fails; the defaults
are put in after it, and it knows nothing of them.
-/

namespace ParamGate

open Run

variable {σ : Type} {host : Host σ} {S : Settings} {caller : Value} {rules : Spec}

namespace Spec

def screen (host : Host σ) (S : Settings) (caller : Value) (rules : Spec) :
    EStateM Failure (World σ) Entries := do
  let params ← World.params caller
  if S.noValidation then
    World.log (.checksDisabled caller)
    return params
  else
    match rules.nameFault? S.allowExtra params with
    | some f => throw (.arguments caller f)
    | none =>
      let (_, params) ← World.onStage params (rules.checkValues host caller)
      return params

/-- How a screening goes, by the stage that ends it. The values are checked on a mapping of the
arguments, in the world as it was. -/
inductive Screens (host : Host σ) (S : Settings) (caller : Value) (rules : Spec) (w : World σ) :
    EStateM.Result Failure (World σ) Entries → Prop
  | unread {f : ArgumentFault} (hp : Arguments.params w.args = .error f) :
    Screens host S caller rules w (.error (.arguments caller f) w)
  | unchecked {params : Entries} (hp : Arguments.params w.args = .ok params)
    (hn : S.noValidation = true) :
    Screens host S caller rules w
      (.ok params { w with records := w.records ++ [.checksDisabled caller] })
  | misnamed {params : Entries} {f : ArgumentFault} (hp : Arguments.params w.args = .ok params)
    (hn : S.noValidation = false) (hf : rules.nameFault? S.allowExtra params = some f) :
    Screens host S caller rules w (.error (.arguments caller f) w)
  | checked {params : Entries} (hp : Arguments.params w.args = .ok params)
    (hn : S.noValidation = false) (hf : rules.nameFault? S.allowExtra params = none) :
    Screens host S caller rules w
      (match rules.checkValues host caller { w with params := params } with
        | .ok _ s => .ok s.params s.toWorld
        | .error e s => .error e s.toWorld)

theorem screen_screens (host : Host σ) (S : Settings) (caller : Value) (rules : Spec)
    (w : World σ) : Screens host S caller rules w (rules.screen host S caller w) := by
  unfold screen
  cases hp : Arguments.params w.args with
  | error f =>
    rw [bind_of_error (World.params_of_error hp)]
    exact .unread hp
  | ok params =>
    rw [bind_of_ok (World.params_eq_ok.mpr ⟨hp, rfl⟩)]
    cases hn : S.noValidation with
    | true => exact .unchecked hp hn
    | false =>
      rw [if_neg Bool.false_ne_true]
      cases hf : rules.nameFault? S.allowExtra params with
      | some f => exact .misnamed hp hn hf
      | none =>
        dsimp only
        have hg : Screens host S caller rules w _ := .checked hp hn hf
        cases hc : rules.checkValues host caller { w with params := params } with
        | error e s =>
          rw [hc] at hg
          rw [bind_of_error (World.onStage_of_error hc)]
          exact hg
        | ok u s =>
          rw [hc] at hg
          rw [bind_of_ok (World.onStage_eq_ok.mpr ⟨s, hc, rfl, rfl⟩)]
          exact hg

theorem failure_of_checkValues {s t : Stage σ} {e : Failure}
    (h : rules.checkValues host caller s = .error e t) :
    (∃ f, e = .arguments caller f) ∨ ∃ r, e = .raised r := by
  induction rules generalizing s with
  | nil => cases h
  | cons q rest ih =>
    rcases q with ⟨name, r⟩
    rw [checkValues, get_bind] at h
    cases hv : Entries.find? s.params name with
    | none =>
      rw [hv] at h
      exact ih h
    | some v =>
      rw [hv] at h
      rcases bind_eq_error.mp h with h | ⟨f, u, -, h⟩
      · obtain ⟨r, -, rfl⟩ := raisedAs_eq_error.mp h
        exact .inr ⟨r, rfl⟩
      · cases f with
        | some f =>
          cases h
          exact .inl ⟨_, rfl⟩
        | none => exact ih h

theorem failure_of_screen {w t : World σ} {e : Failure}
    (h : rules.screen host S caller w = .error e t) :
    (∃ f, e = .arguments caller f) ∨ ∃ r, e = .raised r := by
  have hg := screen_screens host S caller rules w
  rw [h] at hg
  generalize hr : EStateM.Result.error e t = result at hg
  cases hg with
  | unread hp =>
    cases hr
    exact .inl ⟨_, rfl⟩
  | unchecked hp hn => cases hr
  | misnamed hp hn hf =>
    cases hr
    exact .inl ⟨_, rfl⟩
  | @checked params hp hn hf =>
    cases hc : rules.checkValues host caller { w with params := params } with
    | ok u s =>
      rw [hc] at hr
      cases hr
    | error d s =>
      rw [hc] at hr
      cases hr
      exact failure_of_checkValues hc

theorem Looking.params_of_screen (h : rules.Looking host) {w t : World σ} {params : Entries}
    (hs : rules.screen host S caller w = .ok params t) : Arguments.params w.args = .ok params := by
  have hg := screen_screens host S caller rules w
  rw [hs] at hg
  generalize hr : EStateM.Result.ok params t = result at hg
  cases hg with
  | unread hp => cases hr
  | unchecked hp hn =>
    cases hr
    exact hp
  | misnamed hp hn hf => cases hr
  | @checked supplied hp hn hf =>
    cases hc : rules.checkValues host caller { w with params := supplied } with
    | error e s =>
      rw [hc] at hr
      cases hr
    | ok u s =>
      rw [hc] at hr
      cases hr
      have hkept : s.params = supplied := (h.keeps caller).of_ok hc
      rw [hkept]
      exact hp

end Spec

theorem validateUnder_of_spec {spec : Value} (hs : Spec.ofValue spec = .ok rules) (host : Host σ)
    (S : Settings) (caller : Value) :
    validateUnder host S caller spec =
      (do return rules.fillDefaults (← rules.screen host S caller)) := by
  funext w
  rw [validateUnder, bind_of_ok (orFail_eq_ok.mpr ⟨hs, rfl⟩)]
  unfold Spec.screen
  rw [bind_assoc]
  refine congrFun (congrArg (World.params caller >>= ·) (funext fun params => ?_)) w
  cases S.noValidation with
  | true => rfl
  | false =>
    cases rules.nameFault? S.allowExtra params with
    | some f => rfl
    | none => simp

theorem last_validateUnder {spec : Value} (hs : Spec.ofValue spec = .ok rules) (w : World σ) :
    last (validateUnder host S caller spec w) = last (rules.screen host S caller w) := by
  rw [validateUnder_of_spec hs]
  cases hw : rules.screen host S caller w with
  | ok params t =>
    rw [bind_of_ok hw]
    rfl
  | error e t => rw [bind_of_error hw]

theorem failure_of_validateUnder {spec : Value} {w t : World σ} {e : Failure}
    (h : validateUnder host S caller spec w = .error e t) :
    (∃ f, e = .spec f) ∨ (∃ f, e = .arguments caller f) ∨ ∃ r, e = .raised r := by
  cases hs : Spec.ofValue spec with
  | error f =>
    rw [validateUnder, hs] at h
    cases h
    exact .inl ⟨f, rfl⟩
  | ok rules =>
    rw [validateUnder_of_spec hs] at h
    rcases bind_eq_error.mp h with h | ⟨params, u, -, h⟩
    · exact .inr (Spec.failure_of_screen h)
    · cases h

theorem failure_of_validateParams {args spec called : Value} {settings : Option Settings}
    {w t : World σ} {e : Failure}
    (h : validateParams host args spec called settings w = .error e t) :
    (∃ faults, e = .settings faults) ∨ (∃ f, e = .spec f) ∨ (∃ caller f, e = .arguments caller f) ∨
      ∃ r, e = .raised r := by
  rw [validateParams, World.receive_bind] at h
  rcases bind_eq_error.mp h with h | ⟨S, w₁, -, h⟩
  · obtain ⟨-, -, faults, -, rfl, -⟩ := World.settings_eq_error.mp h
    exact .inl ⟨faults, rfl⟩
  · rcases failure_of_validateUnder h with h | ⟨f, rfl⟩ | h
    · exact .inr (.inl h)
    · exact .inr (.inr (.inl ⟨_, f, rfl⟩))
    · exact .inr (.inr (.inr h))

/-- The gate screens the parameters and asks the predicates: it throws away the result, so the
defaults with it. -/
theorem validate_of_spec {spec : Value} (hs : Spec.ofValue spec = .ok rules) (host : Host σ)
    (args : Value) (trailing : List Value) (called : Value) (settings : Option Settings) :
    validate host args spec trailing called settings =
      (do
        World.receive args
        match readPredicates trailing with
        | none => throw .trailing
        | some predicates =>
          let settings ← World.settings settings
          let name := Arguments.caller called settings
          let _ ← rules.screen host settings name
          let params ← World.params name
          let _ ← World.onStage params (checkPredicates host name 0 predicates)) := by
  rw [validate_eq]
  cases readPredicates trailing with
  | none => rfl
  | some predicates => simp only [validateUnder_of_spec hs, bind_assoc, pure_bind]

end ParamGate
