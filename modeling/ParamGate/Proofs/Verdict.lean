import ParamGate.Proofs.Run

/-!
Validation as a function. Where every callback returns, leaves the parameters as they are and
answers by the value and the parameters alone, the outcome of a validation depends on nothing but
the settings, the spec and the arguments.
-/

namespace ParamGate

open Run

variable {σ : Type} {answer : Callable → Value → Entries → Value}

/-- A callback that returns, changes no parameter and answers by a function of the value and the
parameters. It may keep a state of its own. -/
def Host.Answers (host : Host σ) (answer : Callable → Value → Entries → Value) (c : Callable) :
    Prop :=
  ∀ v es s, ∃ s', (host.check c v).run .writable es s = (.ok (answer c v es), es, s')

def Spec.Answered (host : Host σ) (answer : Callable → Value → Entries → Value) (rules : Spec) :
    Prop :=
  ∀ q ∈ rules, ∀ cb ∈ q.2.callbacks, host.Answers answer cb.2

/-- The label of the first callback that answers something false. -/
def Rule.refusing (answer : Callable → Value → Entries → Value) (params : Entries) (v : Value) :
    List (String × Callable) → Option String
  | [] => none
  | (label, c) :: rest =>
    if (answer c v params).truthy then refusing answer params v rest else some label

def Rule.verdict (answer : Callable → Value → Entries → Value) (params : Entries) (r : Rule)
    (v : Value) : Option CheckFault :=
  match r.staticFault? v with
  | some f => some f
  | none => (Rule.refusing answer params v r.callbacks).map .callback

/-- The first value supplied that does not meet its rule. -/
def Spec.verdict (answer : Callable → Value → Entries → Value) (params : Entries) :
    Spec → Option ArgumentFault
  | [] => none
  | (name, r) :: rest =>
    match Entries.find? params name with
    | none => verdict answer params rest
    | some v =>
      match r.verdict answer params v with
      | some f => some (.check name v f)
      | none => verdict answer params rest

def Spec.fault? (answer : Callable → Value → Entries → Value) (settings : Settings) (rules : Spec)
    (params : Entries) : Option ArgumentFault :=
  if settings.noValidation then none
  else (rules.nameFault? settings.allowExtra params).or (rules.verdict answer params)

def verdict (answer : Callable → Value → Entries → Value) (settings : Settings) (called : Value)
    (args spec : Value) : Except Failure Entries :=
  match Spec.ofValue spec with
  | .error e => .error (.spec e)
  | .ok rules =>
    match Arguments.params args with
    | .error e => .error (.arguments called e)
    | .ok params =>
      match rules.fault? answer settings params with
      | some f => .error (.arguments called f)
      | none => .ok (rules.fillDefaults params)

section Congr

variable {params params' : Entries} (ha : ∀ c v, answer c v params' = answer c v params)

include ha

theorem Rule.verdict_congr (r : Rule) (v : Value) :
    r.verdict answer params' v = r.verdict answer params v := by
  have hrefusing (callbacks : List (String × Callable)) :
      refusing answer params' v callbacks = refusing answer params v callbacks := by
    induction callbacks with
    | nil => rfl
    | cons cb rest ih =>
      rcases cb with ⟨label, c⟩
      rw [refusing, refusing, ha, ih]
  rw [verdict, verdict, hrefusing]

theorem Spec.verdict_congr {rules : Spec}
    (hfind : ∀ q ∈ rules, Entries.find? params' q.1 = Entries.find? params q.1) :
    rules.verdict answer params' = rules.verdict answer params := by
  induction rules with
  | nil => rfl
  | cons q rest ih =>
    rcases q with ⟨name, r⟩
    have hname : Entries.find? params' name = Entries.find? params name :=
      hfind _ List.mem_cons_self
    have hrest := ih fun q hq => hfind q (List.mem_cons_of_mem _ hq)
    rw [verdict, verdict, hname, hrest]
    simp only [Rule.verdict_congr ha]

end Congr

theorem Host.Answers.check {host : Host σ} {c : Callable} (h : host.Answers answer c) (v : Value)
    (s : Stage σ) :
    ∃ s', Stage.check host c v s = .ok (answer c v s.params) s' ∧ s'.params = s.params := by
  obtain ⟨h', hr⟩ := h v s.params s.host
  exact ⟨_, Stage.perform_of_ok hr, rfl⟩

theorem Rule.failingCallback_of_answers {host : Host σ} {callbacks : List (String × Callable)}
    (h : ∀ cb ∈ callbacks, host.Answers answer cb.2) (v : Value) (s : Stage σ) :
    ∃ s', failingCallback host v callbacks s = .ok (refusing answer s.params v callbacks) s' ∧
      s'.params = s.params := by
  induction callbacks generalizing s with
  | nil => exact ⟨s, rfl, rfl⟩
  | cons cb rest ih =>
    rcases cb with ⟨label, c⟩
    obtain ⟨t, ht, hp⟩ := (h _ List.mem_cons_self).check v s
    rw [failingCallback, bind_of_ok ht, refusing]
    cases (answer c v s.params).truthy with
    | true =>
      obtain ⟨u, hu, hq⟩ := ih (fun cb hm => h cb (List.mem_cons_of_mem _ hm)) t
      rw [hp] at hu hq
      exact ⟨u, hu, hq⟩
    | false => exact ⟨t, rfl, hp⟩

theorem Rule.fault?_of_answers {host : Host σ} {r : Rule}
    (h : ∀ cb ∈ r.callbacks, host.Answers answer cb.2) (v : Value) (s : Stage σ) :
    ∃ s', r.fault? host v s = .ok (r.verdict answer s.params v) s' ∧ s'.params = s.params := by
  unfold fault? verdict
  cases r.staticFault? v with
  | some f => exact ⟨s, rfl, rfl⟩
  | none =>
    obtain ⟨t, ht, hp⟩ := failingCallback_of_answers h v s
    exact ⟨t, bind_of_ok ht, hp⟩

theorem Spec.checkValues_of_answered {host : Host σ} {rules : Spec}
    (h : rules.Answered host answer) (called : Value) (s : Stage σ) :
    outcome (rules.checkValues host called s) =
        (match rules.verdict answer s.params with
        | some f => .error (.arguments called f)
        | none => .ok ()) ∧
      (last (rules.checkValues host called s)).params = s.params := by
  induction rules generalizing s with
  | nil => exact ⟨rfl, rfl⟩
  | cons q rest ih =>
    rcases q with ⟨name, r⟩
    have hrest : Answered host answer rest := fun q hq => h q (List.mem_cons_of_mem _ hq)
    rw [checkValues, get_bind, verdict]
    cases Entries.find? s.params name with
    | none => exact ih hrest s
    | some v =>
      obtain ⟨t, ht, hp⟩ := Rule.fault?_of_answers (h _ List.mem_cons_self) v s
      simp only [bind_of_ok (raisedAs_eq_ok.mpr ht)]
      cases r.verdict answer s.params v with
      | some f => exact ⟨rfl, hp⟩
      | none =>
        rw [← hp]
        exact ih hrest t

theorem outcome_validateUnder {host : Host σ} {settings : Settings} {called : Value}
    {spec : Value} {w : World σ}
    (h : ∀ rules, Spec.ofValue spec = .ok rules → rules.Answered host answer) :
    outcome (validateUnder host settings called spec w) =
      verdict answer settings called w.args spec := by
  unfold validateUnder verdict
  cases hs : Spec.ofValue spec with
  | error e => rfl
  | ok rules =>
    rw [bind_of_ok (orFail_eq_ok.mpr ⟨rfl, rfl⟩)]
    cases ha : Arguments.params w.args with
    | error e =>
      rw [bind_of_error (World.params_of_error ha)]
      rfl
    | ok params =>
      rw [bind_of_ok (World.params_eq_ok.mpr ⟨ha, rfl⟩)]
      dsimp only
      unfold Spec.fault?
      cases settings.noValidation with
      | true => rfl
      | false =>
        cases rules.nameFault? settings.allowExtra params with
        | some f => rfl
        | none =>
          obtain ⟨hout, hlast⟩ :=
            Spec.checkValues_of_answered (h rules hs) called { w with params := params }
          simp only [Bool.false_eq_true, if_false, Option.none_or]
          cases hv : rules.verdict answer params with
          | some f =>
            rw [hv] at hout
            obtain ⟨t, ht⟩ := outcome_eq_error.mp hout
            rw [bind_of_error (World.onStage_of_error ht)]
            rfl
          | none =>
            rw [hv] at hout
            obtain ⟨t, ht⟩ := outcome_eq_ok.mp hout
            rw [ht] at hlast
            rw [bind_of_ok (World.onStage_eq_ok.mpr ⟨t, ht, rfl, rfl⟩)]
            exact congrArg (fun ps => Except.ok (rules.fillDefaults ps)) hlast

theorem validateParams_eq {host : Host σ} {args spec called : Value} {settings : Option Settings}
    {w w₀ : World σ} {S : Settings} (h : World.settings settings w = .ok S w₀) :
    validateParams host args spec called settings w =
      validateUnder host S (Arguments.caller called S) spec { w₀ with args := args } :=
  validateParams_of_settings (World.settings_receive h args)

end ParamGate
