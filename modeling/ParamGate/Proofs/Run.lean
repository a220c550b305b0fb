import Mathlib.Order.Defs.Unbundled
import ParamGate.Gate

/-!
Runs of computations that may fail. A relation that every step keeps between the state before it and
the state after it holds of a whole run, however the run ends.
-/

namespace ParamGate.Run

variable {ε τ α β : Type}

def last : EStateM.Result ε τ α → τ
  | .ok _ t => t
  | .error _ t => t

def outcome : EStateM.Result ε τ α → Except ε α
  | .ok a _ => .ok a
  | .error e _ => .error e

theorem outcome_eq_ok {r : EStateM.Result ε τ α} {a : α} :
    outcome r = .ok a ↔ ∃ t, r = .ok a t := by
  cases r <;> simp [outcome]

theorem outcome_eq_error {r : EStateM.Result ε τ α} {e : ε} :
    outcome r = .error e ↔ ∃ t, r = .error e t := by
  cases r <;> simp [outcome]

theorem outcome_map (f : α → β) (x : EStateM ε τ α) (s : τ) :
    outcome ((f <$> x) s) = (outcome (x s)).map f := by
  show outcome (EStateM.map f x s) = _
  unfold EStateM.map
  cases x s <;> rfl

theorem last_map (f : α → β) (x : EStateM ε τ α) (s : τ) : last ((f <$> x) s) = last (x s) := by
  show last (EStateM.map f x s) = _
  unfold EStateM.map
  cases x s <;> rfl

section Bind

variable {x : EStateM ε τ α} {f : α → EStateM ε τ β} {s t : τ}

theorem bind_of_ok {a : α} (h : x s = .ok a t) : (x >>= f) s = f a t := by
  show EStateM.bind x f s = f a t
  rw [EStateM.bind, h]

theorem bind_of_error {e : ε} (h : x s = .error e t) : (x >>= f) s = .error e t := by
  show EStateM.bind x f s = .error e t
  rw [EStateM.bind, h]

theorem bind_of_eq {y : EStateM ε τ α} (h : x s = y t) : (x >>= f) s = (y >>= f) t := by
  show EStateM.bind x f s = EStateM.bind y f t
  rw [EStateM.bind, EStateM.bind, h]

theorem bind_eq_ok {b : β} {u : τ} :
    (x >>= f) s = .ok b u ↔ ∃ a t, x s = .ok a t ∧ f a t = .ok b u := by
  cases h : x s with
  | ok a t =>
    rw [bind_of_ok h]
    constructor
    · intro hf
      exact ⟨a, t, rfl, hf⟩
    · rintro ⟨a', t', hx, hf⟩
      cases hx
      exact hf
  | error e t =>
    rw [bind_of_error h]
    simp

theorem bind_eq_error {e : ε} {u : τ} :
    (x >>= f) s = .error e u ↔
      x s = .error e u ∨ ∃ a t, x s = .ok a t ∧ f a t = .error e u := by
  cases h : x s with
  | ok a t =>
    rw [bind_of_ok h]
    constructor
    · intro hf
      exact .inr ⟨a, t, rfl, hf⟩
    · rintro (hx | ⟨a', t', hx, hf⟩)
      · cases hx
      · cases hx
        exact hf
  | error e t =>
    rw [bind_of_error h]
    simp

theorem get_bind (f : τ → EStateM ε τ β) (s : τ) : (get >>= f) s = f s s := rfl

@[simp] theorem pure_eq_ok {a b : α} : (pure a : EStateM ε τ α) s = .ok b t ↔ a = b ∧ s = t := by
  show EStateM.Result.ok a s = .ok b t ↔ a = b ∧ s = t
  simp

@[simp] theorem throw_ne_ok {e : ε} {a : α} : (throw e : EStateM ε τ α) s ≠ .ok a t := by
  show EStateM.Result.error e s ≠ .ok a t
  simp

end Bind

/-- Every run goes from a state to a related one. -/
def Keeps (R : τ → τ → Prop) (x : EStateM ε τ α) : Prop := ∀ s, R s (last (x s))

section Keeps

variable {R : τ → τ → Prop} {x : EStateM ε τ α} {s t : τ}

theorem Keeps.of_ok {a : α} (hx : Keeps R x) (h : x s = .ok a t) : R s t := by
  have hs := hx s
  rw [h] at hs
  exact hs

theorem Keeps.of_error {e : ε} (hx : Keeps R x) (h : x s = .error e t) : R s t := by
  have hs := hx s
  rw [h] at hs
  exact hs

variable [IsPreorder τ R]

theorem Keeps.pure (a : α) : Keeps R (pure a : EStateM ε τ α) := fun s => refl_of R s

theorem Keeps.throw (e : ε) : Keeps R (throw e : EStateM ε τ α) := fun s => refl_of R s

theorem Keeps.bind {f : α → EStateM ε τ β} (hx : Keeps R x) (hf : ∀ a, Keeps R (f a)) :
    Keeps R (x >>= f) := by
  intro s
  cases hs : x s with
  | ok a t =>
    rw [bind_of_ok hs]
    exact trans_of R (hx.of_ok hs) (hf a t)
  | error e t =>
    rw [bind_of_error hs]
    exact hx.of_error hs

end Keeps

end ParamGate.Run

namespace ParamGate

variable {σ ε τ α : Type}

theorem orFail_eq_ok {f : ε → Failure} {x : Except ε α} {a : α} {s t : τ} :
    orFail f x s = .ok a t ↔ x = .ok a ∧ s = t := by
  cases x <;> simp [orFail]

theorem raisedAs_eq_ok {x : EStateM Raised τ α} {a : α} {s t : τ} :
    raisedAs x s = .ok a t ↔ x s = .ok a t := by
  cases h : x s <;> simp [raisedAs, h]

theorem raisedAs_eq_error {x : EStateM Raised τ α} {e : Failure} {s t : τ} :
    raisedAs x s = .error e t ↔ ∃ r, x s = .error r t ∧ e = .raised r := by
  unfold raisedAs
  cases x s with
  | ok a u => simp
  | error r u =>
    constructor
    · intro h
      cases h
      exact ⟨r, rfl, rfl⟩
    · rintro ⟨r', h, rfl⟩
      cases h
      rfl

theorem Stage.perform_of_ok {access : Access} {callee : Callable} {value : Option Value}
    {act : Act σ} {s : Stage σ} {v : Value} {es : Entries} {h : σ}
    (hr : act.run access s.params s.host = (.ok v, es, h)) :
    perform access callee value act s = .ok v
      { s with
        params := es
        host := h
        calls := s.calls ++ [{ callee, params := s.params, value, outcome := .ok v }] } := by
  rw [perform, hr]

namespace World

theorem params_eq_ok {called : Value} {w w' : World σ} {ps : Entries} :
    World.params called w = .ok ps w' ↔ Arguments.params w.args = .ok ps ∧ w = w' :=
  orFail_eq_ok

theorem params_of_error {called : Value} {w : World σ} {e : ArgumentFault}
    (h : Arguments.params w.args = .error e) :
    World.params called w = .error (.arguments called e) w := by
  rw [World.params, h]
  rfl

theorem onStage_eq_ok {params es : Entries} {x : EStateM ε (Stage σ) α} {w w' : World σ} {a : α} :
    onStage params x w = .ok (a, es) w' ↔
      ∃ s, x { w with params := params } = .ok a s ∧ s.params = es ∧ s.toWorld = w' := by
  unfold onStage
  cases x { w with params := params } <;> simp [and_assoc]

theorem onStage_of_error {params : Entries} {x : EStateM ε (Stage σ) α} {w : World σ} {e : ε}
    {s : Stage σ} (h : x { w with params := params } = .error e s) :
    onStage params x w = .error e s.toWorld := by
  rw [onStage, h]

theorem receive_bind {β : Type} (args : Value) (f : Unit → EStateM ε (World σ) β) (w : World σ) :
    (World.receive args >>= f) w = f () { w with args := args } :=
  rfl

section Settings

variable {settings : Option Settings} {w w₁ : World σ} {S : Settings}

theorem settings_eq_error {e : Failure} :
    World.settings settings w = .error e w₁ ↔
      settings = none ∧ w.cached = none ∧
        ∃ faults, Settings.build w.environment [] = .error faults ∧ e = .settings faults ∧
          w₁ = w := by
  cases settings with
  | some S =>
    show EStateM.Result.ok S w = .error e w₁ ↔ _
    simp
  | none =>
    unfold World.settings
    dsimp only
    cases w.cached with
    | some S => simp
    | none => cases Settings.build w.environment [] <;> simp [eq_comm]

theorem settings_of_ok (h : World.settings settings w = .ok S w₁) :
    ∃ cached, w₁ = { w with cached := cached } := by
  cases settings with
  | some S =>
    cases h
    exact ⟨w.cached, rfl⟩
  | none =>
    unfold World.settings at h
    dsimp only at h
    cases hc : w.cached with
    | some S =>
      rw [hc] at h
      cases h
      exact ⟨w.cached, rfl⟩
    | none =>
      rw [hc] at h
      cases hb : Settings.build w.environment [] with
      | ok S =>
        rw [hb] at h
        cases h
        exact ⟨_, rfl⟩
      | error faults =>
        rw [hb] at h
        cases h

theorem settings_receive {w₀ : World σ} (h : World.settings settings w = .ok S w₀) (args : Value) :
    World.settings settings { w with args := args } = .ok S { w₀ with args := args } := by
  rcases w with ⟨env, cached, _, host, calls, records⟩
  cases settings with
  | some s =>
    cases h
    rfl
  | none =>
    cases cached with
    | some s =>
      cases h
      rfl
    | none =>
      unfold World.settings at h ⊢
      dsimp only at h ⊢
      cases hb : Settings.build env [] with
      | ok s =>
        rw [hb] at h
        cases h
        rfl
      | error faults =>
        rw [hb] at h
        cases h

theorem settings_receive_of_error {e : Failure} (h : World.settings settings w = .error e w₁)
    (args : Value) :
    World.settings settings { w with args := args } = .error e { w₁ with args := args } := by
  obtain ⟨hnone, hcached, faults, hbuild, rfl, rfl⟩ := settings_eq_error.mp h
  exact settings_eq_error.mpr ⟨hnone, hcached, faults, hbuild, rfl, rfl⟩

theorem settings_of_receive {args : Value}
    (hs : World.settings settings { w with args := args } = .ok S w₁) :
    World.settings settings w = .ok S { w₁ with args := w.args } :=
  settings_receive hs w.args

end Settings

end World

section Calls

open Run

variable {host : Host σ} {args spec called : Value} {settings : Option Settings} {w w₁ : World σ}
  {S : Settings}

theorem validateParams_of_settings
    (hs : World.settings settings { w with args := args } = .ok S w₁) :
    validateParams host args spec called settings w =
      validateUnder host S (Arguments.caller called S) spec w₁ := by
  rw [validateParams, World.receive_bind, bind_of_ok hs]

theorem validateParams_of_unsettled {e : Failure}
    (hs : World.settings settings { w with args := args } = .error e w₁) :
    validateParams host args spec called settings w = .error e w₁ := by
  rw [validateParams, World.receive_bind, bind_of_error hs]

/-- The gate validates the parameters under the settings and for the caller that it has found: they
are found again as they are. -/
theorem validate_eq (host : Host σ) (args spec : Value) (trailing : List Value) (called : Value)
    (settings : Option Settings) :
    validate host args spec trailing called settings =
      (do
        World.receive args
        match readPredicates trailing with
        | none => throw .trailing
        | some predicates =>
          let settings ← World.settings settings
          let caller := Arguments.caller called settings
          let _ ← validateUnder host settings caller spec
          let params ← World.params caller
          let _ ← World.onStage params (checkPredicates host caller 0 predicates)) := by
  funext w
  rw [validate, World.receive_bind, World.receive_bind]
  cases readPredicates trailing with
  | none => rfl
  | some predicates =>
    dsimp only
    cases hs : World.settings settings { w with args := args } with
    | error e t => rw [bind_of_error hs, bind_of_error hs]
    | ok S w₁ =>
      have hargs : { w₁ with args := args } = w₁ := by
        obtain ⟨cached, rfl⟩ := World.settings_of_ok hs
        rfl
      rw [bind_of_ok hs, bind_of_ok hs]
      refine bind_of_eq ?_
      rw [validateParams_of_settings (S := S) rfl, hargs, Arguments.caller_caller]

theorem validate_of_settings {trailing : List Value} {predicates : List Condition}
    (hp : readPredicates trailing = some predicates)
    (hs : World.settings settings { w with args := args } = .ok S w₁) :
    validate host args spec trailing called settings w =
      (do
        let _ ← validateUnder host S (Arguments.caller called S) spec
        let params ← World.params (Arguments.caller called S)
        let _ ← World.onStage params
          (checkPredicates host (Arguments.caller called S) 0 predicates)) w₁ := by
  rw [validate_eq, World.receive_bind, hp]
  exact bind_of_ok hs

end Calls

end ParamGate
