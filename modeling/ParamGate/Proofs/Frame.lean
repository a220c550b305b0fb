import ParamGate.Proofs.Run

/-!
What loops and evaluations keep, given what single calls of functions keep. In particular nothing
that a validation does changes the caller's arguments.
-/

namespace ParamGate

open Run

variable {σ ε α : Type} {host : Host σ} {R : Stage σ → Stage σ → Prop}

theorem last_asOption (x : EStateM Raised (Stage σ) α) (s : Stage σ) :
    last (asOption x s) = last (x s) := by
  unfold asOption
  cases x s <;> rfl

theorem last_raisedAs {τ : Type} (x : EStateM Raised τ α) (s : τ) :
    last (raisedAs x s) = last (x s) := by
  unfold raisedAs
  cases x s <;> rfl

theorem World.last_onStage (params : Entries) (x : EStateM ε (Stage σ) α) (w : World σ) :
    last (onStage params x w) = (last (x { w with params := params })).toWorld := by
  unfold onStage
  cases x { w with params := params } <;> rfl

theorem Run.Keeps.asOption {x : EStateM Raised (Stage σ) α} (h : Keeps R x) :
    Keeps R (ParamGate.asOption x) := by
  intro s
  rw [last_asOption]
  exact h s

theorem Run.Keeps.raisedAs {x : EStateM Raised (Stage σ) α} (h : Keeps R x) :
    Keeps R (ParamGate.raisedAs x) := by
  intro s
  rw [last_raisedAs]
  exact h s

theorem Stage.last_perform (access : Access) (callee : Callable) (value : Option Value)
    (act : Act σ) (s : Stage σ) :
    last (perform access callee value act s) =
      { s with
        params := (act.run access s.params s.host).2.1
        host := (act.run access s.params s.host).2.2
        calls := s.calls ++
          [{ callee, params := s.params, value
             outcome := (act.run access s.params s.host).1 }] } := by
  unfold perform
  rcases act.run access s.params s.host with ⟨outcome, es, h⟩
  cases outcome <;> rfl

theorem Stage.outcome_perform (access : Access) (callee : Callable) (value : Option Value)
    (act : Act σ) (s : Stage σ) :
    outcome (perform access callee value act s) = (act.run access s.params s.host).1 := by
  unfold perform
  rcases act.run access s.params s.host with ⟨outcome, es, h⟩
  cases outcome <;> rfl

section Evaluation

variable [IsPreorder (Stage σ) R] {access : Access}

namespace Condition

mutual

def functions : Condition → List HostFunction
  | .present _ => []
  | .holds f => [f]
  | .counted _ _ _ options => functionsAll options

def functionsAll : List Condition → List HostFunction
  | [] => []
  | c :: cs => c.functions ++ functionsAll cs

end

-- The recursion is that of the evaluation: the two loops over options go along with it.
mutual

theorem eval_keeps (c : Condition) (h : ∀ f ∈ c.functions, Keeps R (Stage.ask host access f)) :
    Keeps R (c.eval host access) := by
  match c with
  | .present name =>
    intro s
    exact refl_of R s
  | .holds f =>
    rw [eval]
    exact (h f (List.mem_singleton_self f)).bind fun v => .pure _
  | .counted _ _ .atLeastOne options =>
    rw [eval]
    exact anyHolds_keeps options h
  | .counted _ _ (.exactly desired) options =>
    rw [eval]
    exact (countHolding_keeps options h).bind fun n => .pure _

theorem anyHolds_keeps (cs : List Condition)
    (h : ∀ f ∈ functionsAll cs, Keeps R (Stage.ask host access f)) :
    Keeps R (anyHolds host access cs) := by
  match cs with
  | [] =>
    rw [anyHolds]
    exact .pure _
  | c :: cs =>
    obtain ⟨hc, hcs⟩ := List.forall_mem_append.mp h
    rw [anyHolds]
    refine (eval_keeps c hc).asOption.bind fun b => ?_
    cases b with
    | true => exact .pure _
    | false => exact anyHolds_keeps cs hcs

theorem countHolding_keeps (cs : List Condition)
    (h : ∀ f ∈ functionsAll cs, Keeps R (Stage.ask host access f)) :
    Keeps R (countHolding host access cs) := by
  match cs with
  | [] =>
    rw [countHolding]
    exact .pure _
  | c :: cs =>
    obtain ⟨hc, hcs⟩ := List.forall_mem_append.mp h
    rw [countHolding]
    refine (eval_keeps c hc).asOption.bind fun b => ?_
    exact (countHolding_keeps cs hcs).bind fun n => .pure _

end

end Condition

theorem checkPredicates_keeps (h : ∀ f, Keeps R (Stage.ask host .readOnly f))
    (hlog : ∀ r, Keeps R (Stage.log (σ := σ) (ε := Failure) r)) (called : Value) (index : Nat)
    (cs : List Condition) : Keeps R (checkPredicates host called index cs) := by
  induction cs generalizing index with
  | nil => exact .pure _
  | cons c cs ih =>
    rw [checkPredicates]
    refine (c.eval_keeps fun f _ => h f).raisedAs.bind fun b => ?_
    cases b with
    | true => exact ih (index + 1)
    | false => exact (hlog _).bind fun _ => .throw _

end Evaluation

section Checks

variable [IsPreorder (Stage σ) R]

theorem Rule.failingCallback_keeps {v : Value} {callbacks : List (String × Callable)}
    (h : ∀ cb ∈ callbacks, Keeps R (Stage.check host cb.2 v)) :
    Keeps R (failingCallback host v callbacks) := by
  induction callbacks with
  | nil => exact .pure _
  | cons cb rest ih =>
    rcases cb with ⟨label, c⟩
    obtain ⟨hc, hrest⟩ := List.forall_mem_cons.mp h
    rw [failingCallback]
    refine Keeps.bind hc fun a => ?_
    cases a.truthy with
    | true => exact ih hrest
    | false => exact .pure _

theorem Rule.fault?_keeps {r : Rule} {v : Value}
    (h : ∀ cb ∈ r.callbacks, Keeps R (Stage.check host cb.2 v)) : Keeps R (r.fault? host v) := by
  unfold fault?
  cases r.staticFault? v with
  | some f => exact .pure _
  | none => exact (failingCallback_keeps h).bind fun _ => .pure _

theorem Spec.checkValues_keeps {rules : Spec}
    (h : ∀ q ∈ rules, ∀ cb ∈ q.2.callbacks, ∀ v, Keeps R (Stage.check host cb.2 v))
    (called : Value) : Keeps R (rules.checkValues host called) := by
  induction rules with
  | nil => exact .pure _
  | cons q rest ih =>
    rcases q with ⟨name, r⟩
    obtain ⟨hr, hrest⟩ := List.forall_mem_cons.mp h
    intro s
    rw [checkValues, get_bind]
    cases Entries.find? s.params name with
    | none => exact ih hrest s
    | some v =>
      refine (Rule.fault?_keeps fun cb hcb => hr cb hcb v).raisedAs.bind (fun f => ?_) s
      cases f with
      | some f => exact .throw _
      | none => exact ih hrest

end Checks

def Stage.Same (s s' : Stage σ) : Prop := s'.params = s.params

instance : IsPreorder (Stage σ) Stage.Same where
  refl _ := rfl
  trans _ _ _ h h' := h'.trans h

/-- A callback that leaves the parameters as they are. It may keep a state of its own, and raise. -/
def Host.Looks (host : Host σ) (c : Callable) : Prop :=
  ∀ v es s, ((host.check c v).run .writable es s).2.1 = es

def Spec.Looking (host : Host σ) (rules : Spec) : Prop :=
  ∀ q ∈ rules, ∀ cb ∈ q.2.callbacks, host.Looks cb.2

theorem Spec.Looking.keeps {rules : Spec} (h : rules.Looking host) (called : Value) :
    Keeps Stage.Same (rules.checkValues host called) := by
  apply checkValues_keeps
  intro q hq cb hcb v s
  rw [Stage.check, Stage.last_perform]
  exact h q hq cb hcb v s.params s.host

/-- From one world to a later one the caller's arguments stay, and the calls are of one kind. -/
structure World.Continues (P : Call → Prop) (w w' : World σ) : Prop where
  args : w'.args = w.args
  calls : ∃ cs, w'.calls = w.calls ++ cs ∧ ∀ c ∈ cs, P c

namespace World.Continues

variable {P Q : Call → Prop} {w w' : World σ}

theorem of_same (ha : w'.args = w.args) (hc : w'.calls = w.calls) : Continues P w w' :=
  ⟨ha, [], by rw [hc, List.append_nil], by simp⟩

theorem of_call {c : Call} (ha : w'.args = w.args) (hc : w'.calls = w.calls ++ [c]) (h : P c) :
    Continues P w w' :=
  ⟨ha, [c], hc, by simpa using h⟩

instance isPreorder : IsPreorder (World σ) (Continues P) where
  refl _ := of_same rfl rfl
  trans := by
    rintro w₁ w₂ w₃ ⟨ha, cs, hc, hP⟩ ⟨ha', ds, hd, hP'⟩
    refine ⟨ha'.trans ha, cs ++ ds, by rw [hd, hc, List.append_assoc], fun c h => ?_⟩
    rcases List.mem_append.mp h with h | h
    · exact hP c h
    · exact hP' c h

end World.Continues

def Call.IsCheck (c : Call) : Prop := ∃ v, c.value = some v

def Stage.Checks (s s' : Stage σ) : Prop := World.Continues Call.IsCheck s.toWorld s'.toWorld

instance : IsPreorder (Stage σ) Stage.Checks where
  refl s := refl_of (World.Continues Call.IsCheck) s.toWorld
  trans _ _ _ h h' := trans_of (World.Continues Call.IsCheck) h h'

theorem Stage.check_keeps (c : Callable) (v : Value) : Keeps Checks (check host c v) := by
  intro s
  rw [check, last_perform]
  exact .of_call rfl rfl ⟨v, rfl⟩

namespace World

variable {P : Call → Prop}

theorem settings_keeps (settings : Option Settings) :
    Keeps (Continues P) (World.settings settings : EStateM Failure (World σ) Settings) := by
  intro w
  unfold World.settings
  cases settings with
  | some S => exact .of_same rfl rfl
  | none =>
    dsimp only
    cases w.cached with
    | some S => exact .of_same rfl rfl
    | none => cases Settings.build w.environment [] <;> exact .of_same rfl rfl

theorem log_keeps {ε : Type} (r : LogRecord) :
    Keeps (Continues P) (log r : EStateM ε (World σ) Unit) :=
  fun _ => .of_same rfl rfl

theorem orFail_keeps {ε α τ : Type} {R : τ → τ → Prop} [IsPreorder τ R] (f : ε → Failure)
    (x : Except ε α) : Keeps R (orFail f x : EStateM Failure τ α) := by
  cases x with
  | ok a => exact .pure a
  | error e => exact .throw (f e)

theorem params_keeps {R : World σ → World σ → Prop} [IsPreorder (World σ) R] (called : Value) :
    Keeps R (World.params called) :=
  fun w => orFail_keeps _ (Arguments.params w.args) w

theorem onStage_keeps {R : World σ → World σ → Prop} {ε α : Type} {x : EStateM ε (Stage σ) α}
    {params : Entries} {w : World σ} (h : R w (last (x { w with params := params })).toWorld) :
    R w (last (onStage params x w)) := by
  rw [last_onStage]
  exact h

end World

theorem validateUnder_keeps_of {R : World σ → World σ → Prop} [IsPreorder (World σ) R]
    {settings : Settings} {called : Value} {spec : Value}
    (hlog : ∀ r, Keeps R (World.log r : EStateM Failure (World σ) Unit))
    (hchecks : ∀ rules params w, Spec.ofValue spec = .ok rules →
      R w (last (rules.checkValues host called { w with params := params })).toWorld) :
    Keeps R (validateUnder host settings called spec) := by
  cases hs : Spec.ofValue spec with
  | error e =>
    intro w
    rw [validateUnder, hs]
    exact refl_of R w
  | ok rules =>
    unfold validateUnder
    rw [hs, orFail, pure_bind]
    refine (World.params_keeps called).bind fun params => ?_
    cases settings.noValidation with
    | true => exact (hlog _).bind fun _ => .pure _
    | false =>
      cases rules.nameFault? settings.allowExtra params with
      | some f => exact .throw _
      | none =>
        exact Keeps.bind (fun w => World.onStage_keeps (hchecks rules params w hs)) fun _ => .pure _

theorem validateUnder_keeps (host : Host σ) (settings : Settings) (called : Value) (spec : Value) :
    Keeps (World.Continues Call.IsCheck) (validateUnder host settings called spec) := by
  refine validateUnder_keeps_of World.log_keeps fun rules params w _ => ?_
  have hc : Keeps Stage.Checks (rules.checkValues host called) :=
    Spec.checkValues_keeps (fun _ _ cb _ => Stage.check_keeps cb.2) called
  exact hc { w with params := params }

theorem validateParams_continues (host : Host σ) (args spec called : Value)
    (settings : Option Settings) (w : World σ) :
    World.Continues Call.IsCheck { w with args := args }
      (last (validateParams host args spec called settings w)) := by
  have hrun : Keeps (World.Continues Call.IsCheck) (do
      let S ← World.settings settings
      validateUnder host S (Arguments.caller called S) spec) :=
    (World.settings_keeps settings).bind fun S => validateUnder_keeps host S _ spec
  rw [validateParams, World.receive_bind]
  exact hrun { w with args := args }

end ParamGate
