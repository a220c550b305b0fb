import ParamGate.Proofs.Ladder

/-!
What predicates are handed. The caller's arguments stay as they are, so the mapping made of them
after the checks is the one made before; it is read only, and every function that a predicate asks
finds it whole.
-/

namespace ParamGate

open Run

variable {σ : Type} {host : Host σ}

/-- A call of a predicate's function, which ran on a read-only mapping of the parameters and left
them. -/
structure Call.AskedOn (host : Host σ) (params : Entries) (c : Call) : Prop where
  value : c.value = none
  seen : c.params = params
  ran : ∃ f s s', c.callee = .function f ∧
    (host.predicate f).run .readOnly params s = (c.outcome, params, s')

namespace Stage

structure Asks (host : Host σ) (s s' : Stage σ) : Prop where
  params : s'.params = s.params
  world : World.Continues (Call.AskedOn host s.params) s.toWorld s'.toWorld

instance : IsPreorder (Stage σ) (Asks host) where
  refl s := ⟨rfl, refl_of (World.Continues _) s.toWorld⟩
  trans s t u h h' := by
    -- The later calls are about the mapping of the middle stage, which is that of the first.
    have hw := h'.world
    rw [h.params] at hw
    exact ⟨h'.params.trans h.params, trans_of (World.Continues _) h.world hw⟩

theorem ask_keeps (f : HostFunction) : Keeps (Asks host) (ask host .readOnly f) := by
  intro s
  have hp := Act.run_readOnly (host.predicate f) s.params s.host
  have hr : (host.predicate f).run .readOnly s.params s.host =
      (((host.predicate f).run .readOnly s.params s.host).1, s.params,
        ((host.predicate f).run .readOnly s.params s.host).2.2) :=
    Prod.ext rfl (Prod.ext hp rfl)
  rw [ask, last_perform]
  exact ⟨hp, .of_call rfl rfl ⟨rfl, rfl, f, s.host, _, rfl, hr⟩⟩

theorem log_keeps {ε : Type} (r : LogRecord) :
    Keeps (Asks host) (log r : EStateM ε (Stage σ) Unit) :=
  fun _ => ⟨rfl, .of_same rfl rfl⟩

end Stage

theorem Condition.eval_asks (c : Condition) : Keeps (Stage.Asks host) (c.eval host .readOnly) :=
  c.eval_keeps fun f _ => Stage.ask_keeps f

theorem checkPredicates_asks (host : Host σ) (called : Value) (index : Nat) (cs : List Condition) :
    Keeps (Stage.Asks host) (checkPredicates host called index cs) :=
  checkPredicates_keeps Stage.ask_keeps Stage.log_keeps called index cs

/-- From where a call begins to where it ends: the caller's arguments stay, and the calls made are
checks first and then questions about the arguments. -/
structure AsksAbout (host : Host σ) (w w' : World σ) : Prop where
  args : w'.args = w.args
  calls : ∃ checks asked, w'.calls = w.calls ++ checks ++ asked ∧ (∀ c ∈ checks, c.IsCheck) ∧
    ∀ c ∈ asked, ∃ params, Arguments.params w.args = .ok params ∧ c.AskedOn host params

theorem AsksAbout.of_checks {w w' : World σ} (h : World.Continues Call.IsCheck w w') :
    AsksAbout host w w' := by
  obtain ⟨ha, checks, hc, hP⟩ := h
  exact ⟨ha, checks, [], by rw [hc, List.append_nil], hP, by simp⟩

theorem AsksAbout.of_asked {w w₁ : World σ} {params : Entries} {s : Stage σ}
    (h : World.Continues Call.IsCheck w w₁) (hp : Arguments.params w.args = .ok params)
    (ha : Stage.Asks host { w₁ with params := params } s) : AsksAbout host w s.toWorld := by
  obtain ⟨hargs, checks, hc, hP⟩ := h
  obtain ⟨-, hargs', asked, hd, hQ⟩ := ha
  refine ⟨hargs'.trans hargs, checks, asked, ?_, hP, fun c hm => ⟨params, hp, hQ c hm⟩⟩
  rw [hd, hc]

theorem validate_asksAbout (host : Host σ) (args spec : Value) (trailing : List Value)
    (called : Value) (settings : Option Settings) (w : World σ) :
    AsksAbout host { w with args := args }
      (last (validate host args spec trailing called settings w)) := by
  have hg := validate_goes host args spec trailing called settings w
  have hset := World.settings_keeps (σ := σ) (P := Call.IsCheck) settings
  generalize validate host args spec trailing called settings w = r at hg
  cases hg with
  | refused hp => exact .of_checks (.of_same rfl rfl)
  | unset hp hs =>
    exact .of_checks (hset.of_error hs)
  | @unfit _ S w₁ _ _ hp hs hv =>
    have hval := validateUnder_keeps host S (Arguments.caller called S) spec
    exact .of_checks (trans_of _ (hset.of_ok hs) (hval.of_error hv))
  | @asked predicates S w₁ w₂ _ params hp hs hv ha =>
    have hval := validateUnder_keeps host S (Arguments.caller called S) spec
    have hask := checkPredicates_asks host (Arguments.caller called S) 0 predicates
    have hbefore := trans_of (World.Continues Call.IsCheck) (hset.of_ok hs) (hval.of_ok hv)
    cases hc : checkPredicates host (Arguments.caller called S) 0 predicates
        { w₂ with params := params } with
    | ok u s => exact .of_asked hbefore ha (hask.of_ok hc)
    | error e s => exact .of_asked hbefore ha (hask.of_error hc)

theorem params_of_validateParams {args spec called : Value} {settings : Option Settings}
    {w w' : World σ} {result : Entries}
    (h : validateParams host args spec called settings w = .ok result w') :
    ∃ params, Arguments.params args = .ok params ∧
      ∀ name, World.params name w' = .ok params w' := by
  obtain ⟨_, w₀, hr, h⟩ := bind_eq_ok.mp h
  cases hr
  obtain ⟨S, w₁, hs, hv⟩ := bind_eq_ok.mp h
  have h₁ : w₁.args = args :=
    ((World.settings_keeps (P := Call.IsCheck) settings).of_ok hs).args
  have h₂ : w'.args = w₁.args :=
    ((validateUnder_keeps host S (Arguments.caller called S) spec).of_ok hv).args
  obtain ⟨params, hp⟩ := params_of_validateUnder hv
  rw [h₁] at hp h₂
  exact ⟨params, hp, fun name => World.params_eq_ok.mpr ⟨by rw [h₂, hp], rfl⟩⟩

/-- Whether a call returns or fails, the caller's arguments are as they were given, and every
function asked in the second phase found a mapping of these alone. Making that mapping cannot fail
once the first phase has returned, and what a function tries to change in it is refused as an error
of type. -/
theorem predicates_see_arguments_only (host : Host σ) (args spec : Value) (trailing : List Value)
    (called : Value) (settings : Option Settings) (w : World σ) :
    AsksAbout host { w with args := args }
        (last (validate host args spec trailing called settings w)) ∧
      (∀ result w₁, validateParams host args spec called settings w = .ok result w₁ →
        ∃ params, Arguments.params args = .ok params ∧
          ∀ name, World.params name w₁ = .ok params w₁) ∧
      (∀ (c : Condition) (s : Stage σ), (last (c.eval host .readOnly s)).params = s.params) ∧
      (∀ (k v : Value) (next : Option Raised → Act σ) (es : Entries) (h : σ),
        (Act.write k v next).run .readOnly es h = (next (some .refusedWrite)).run .readOnly es h ∧
        (Entries.contains es k = true → (Act.remove k next).run .readOnly es h =
          (next (some .refusedRemoval)).run .readOnly es h)) ∧
      Raised.refusedWrite.cls = .type ∧ Raised.refusedRemoval.cls = .type := by
  refine ⟨validate_asksAbout host args spec trailing called settings w, ?_, ?_, ?_, rfl, rfl⟩
  · intro result w₁ h
    exact params_of_validateParams h
  · intro c s
    exact (c.eval_asks s).params
  · intro k v next es h
    refine ⟨rfl, fun hk => ?_⟩
    rw [Act.run, if_pos hk]
    rfl

end ParamGate
