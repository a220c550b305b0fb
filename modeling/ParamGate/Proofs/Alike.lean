import ParamGate.Proofs.Frame

/-!
Two runs side by side. From states that are alike they have the same outcome and end in states that
are alike, as long as every single step does. Of a world, a validation sees no more than the
parameters that the arguments denote and the state of the host, beside the settings where it needs
those of the process.
-/

namespace ParamGate

namespace Run

variable {ε τ α β : Type}

def Alike (R : τ → τ → Prop) (x y : EStateM ε τ α) : Prop :=
  ∀ s t, R s t → outcome (x s) = outcome (y t) ∧ R (last (x s)) (last (y t))

namespace Alike

variable {R : τ → τ → Prop}

theorem pure (a : α) : Alike R (pure a : EStateM ε τ α) (pure a) := fun _ _ h => ⟨rfl, h⟩

theorem throw (e : ε) : Alike R (throw e : EStateM ε τ α) (throw e) := fun _ _ h => ⟨rfl, h⟩

theorem bind {x y : EStateM ε τ α} {f g : α → EStateM ε τ β} (hx : Alike R x y)
    (hf : ∀ a, Alike R (f a) (g a)) : Alike R (x >>= f) (y >>= g) := by
  intro s t h
  obtain ⟨hout, hlast⟩ := hx s t h
  -- As their outcomes are the same, both runs go on with one value or both end here.
  cases hs : x s with
  | ok a u =>
    cases ht : y t with
    | ok b v =>
      rw [hs, ht] at hout hlast
      cases hout
      rw [bind_of_ok hs, bind_of_ok ht]
      exact hf a u v hlast
    | error e v =>
      rw [hs, ht] at hout
      cases hout
  | error e u =>
    cases ht : y t with
    | ok b v =>
      rw [hs, ht] at hout
      cases hout
    | error d v =>
      rw [hs, ht] at hout hlast
      cases hout
      rw [bind_of_error hs, bind_of_error ht]
      exact ⟨rfl, hlast⟩

theorem map {x y : EStateM ε τ α} (hx : Alike R x y) (f : α → β) : Alike R (f <$> x) (f <$> y) := by
  intro s t h
  obtain ⟨hout, hlast⟩ := hx s t h
  rw [outcome_map, outcome_map, last_map, last_map, hout]
  exact ⟨rfl, hlast⟩

theorem orFail (f : ε → Failure) (x : Except ε α) :
    Alike R (ParamGate.orFail f x : EStateM Failure τ α) (ParamGate.orFail f x) := by
  cases x with
  | ok a => exact .pure a
  | error e => exact .throw (f e)

end Alike

end Run

open Run

variable {σ ε α : Type} {host : Host σ} {R : Stage σ → Stage σ → Prop}

theorem outcome_raisedAs {τ : Type} (x : EStateM Raised τ α) (s : τ) :
    outcome (raisedAs x s) = (outcome (x s)).mapError .raised := by
  unfold raisedAs
  cases x s <;> rfl

theorem outcome_asOption (x : EStateM Raised (Stage σ) α) (s : Stage σ) :
    outcome (asOption x s) = (outcome (x s)).mapError fun e =>
      if e.cls = .stopIteration then .generatorStop else e := by
  unfold asOption
  cases x s <;> rfl

theorem Run.Alike.raisedAs {x y : EStateM Raised (Stage σ) α} (h : Alike R x y) :
    Alike R (ParamGate.raisedAs x) (ParamGate.raisedAs y) := by
  intro s t hst
  rw [outcome_raisedAs, outcome_raisedAs, last_raisedAs, last_raisedAs, (h s t hst).1]
  exact ⟨rfl, (h s t hst).2⟩

theorem Run.Alike.asOption {x y : EStateM Raised (Stage σ) α} (h : Alike R x y) :
    Alike R (ParamGate.asOption x) (ParamGate.asOption y) := by
  intro s t hst
  rw [outcome_asOption, outcome_asOption, last_asOption, last_asOption, (h s t hst).1]
  exact ⟨rfl, (h s t hst).2⟩

section Evaluation

variable {access : Access}

def Stage.NamedAlike (R : Stage σ → Stage σ → Prop) : Prop :=
  ∀ s t, R s t → ∀ name,
    Entries.contains s.params (.text name) = Entries.contains t.params (.text name)

namespace Condition

-- Of what a function answers, an evaluation takes nothing but the truth.
mutual

theorem eval_alike (hname : Stage.NamedAlike R) (c : Condition)
    (h : ∀ f ∈ c.functions, Alike R (Value.truthy <$> Stage.ask host access f)
      (Value.truthy <$> Stage.ask host access f)) :
    Alike R (c.eval host access) (c.eval host access) := by
  match c with
  | .present name =>
    rw [eval]
    intro s t hst
    exact ⟨congrArg Except.ok (hname s t hst name), hst⟩
  | .holds f =>
    rw [eval, bind_pure_comp]
    exact h f (List.mem_singleton_self f)
  | .counted _ _ .atLeastOne options =>
    rw [eval]
    exact anyHolds_alike hname options h
  | .counted _ _ (.exactly desired) options =>
    rw [eval]
    exact (countHolding_alike hname options h).bind fun n => .pure _

theorem anyHolds_alike (hname : Stage.NamedAlike R) (cs : List Condition)
    (h : ∀ f ∈ functionsAll cs, Alike R (Value.truthy <$> Stage.ask host access f)
      (Value.truthy <$> Stage.ask host access f)) :
    Alike R (anyHolds host access cs) (anyHolds host access cs) := by
  match cs with
  | [] =>
    rw [anyHolds]
    exact .pure _
  | c :: cs =>
    obtain ⟨hc, hcs⟩ := List.forall_mem_append.mp h
    rw [anyHolds]
    refine (eval_alike hname c hc).asOption.bind fun b => ?_
    cases b with
    | true => exact .pure _
    | false => exact anyHolds_alike hname cs hcs

theorem countHolding_alike (hname : Stage.NamedAlike R) (cs : List Condition)
    (h : ∀ f ∈ functionsAll cs, Alike R (Value.truthy <$> Stage.ask host access f)
      (Value.truthy <$> Stage.ask host access f)) :
    Alike R (countHolding host access cs) (countHolding host access cs) := by
  match cs with
  | [] =>
    rw [countHolding]
    exact .pure _
  | c :: cs =>
    obtain ⟨hc, hcs⟩ := List.forall_mem_append.mp h
    rw [countHolding]
    refine (eval_alike hname c hc).asOption.bind fun b => ?_
    exact (countHolding_alike hname cs hcs).bind fun n => .pure _

end

end Condition

end Evaluation

theorem checkPredicates_alike {cs : List Condition}
    (h : ∀ c ∈ cs, Alike R (c.eval host .readOnly) (c.eval host .readOnly))
    (hlog : ∀ r, Alike R (Stage.log (σ := σ) (ε := Failure) r) (Stage.log r)) (called : Value)
    (index : Nat) :
    Alike R (checkPredicates host called index cs) (checkPredicates host called index cs) := by
  induction cs generalizing index with
  | nil => exact .pure _
  | cons c cs ih =>
    obtain ⟨hc, hcs⟩ := List.forall_mem_cons.mp h
    rw [checkPredicates]
    refine hc.raisedAs.bind fun b => ?_
    cases b with
    | true => exact ih hcs (index + 1)
    | false => exact (hlog _).bind fun _ => .throw _

section Checks

theorem Rule.failingCallback_alike {v : Value} {callbacks : List (String × Callable)}
    (h : ∀ cb ∈ callbacks, Alike R (Value.truthy <$> Stage.check host cb.2 v)
      (Value.truthy <$> Stage.check host cb.2 v)) :
    Alike R (failingCallback host v callbacks) (failingCallback host v callbacks) := by
  induction callbacks with
  | nil => exact .pure _
  | cons cb rest ih =>
    rcases cb with ⟨label, c⟩
    obtain ⟨hc, hrest⟩ := List.forall_mem_cons.mp h
    have htruth : failingCallback host v ((label, c) :: rest) =
        (Value.truthy <$> Stage.check host c v) >>= fun b =>
          if b then failingCallback host v rest else return some label :=
      (bind_map_left Value.truthy (Stage.check host c v) fun b =>
        if b then failingCallback host v rest else pure (some label)).symm
    rw [htruth]
    refine hc.bind fun b => ?_
    cases b with
    | true => exact ih hrest
    | false => exact .pure _

theorem Rule.fault?_alike {r : Rule} {v : Value}
    (h : ∀ cb ∈ r.callbacks, Alike R (Value.truthy <$> Stage.check host cb.2 v)
      (Value.truthy <$> Stage.check host cb.2 v)) :
    Alike R (r.fault? host v) (r.fault? host v) := by
  unfold fault?
  cases r.staticFault? v with
  | some f => exact .pure _
  | none => exact (failingCallback_alike h).bind fun _ => .pure _

theorem Spec.checkValues_alike {rules : Spec}
    (h : ∀ q ∈ rules, ∀ cb ∈ q.2.callbacks, ∀ v,
      Alike R (Value.truthy <$> Stage.check host cb.2 v) (Value.truthy <$> Stage.check host cb.2 v))
    (hfind : ∀ s t, R s t → ∀ name, Entries.find? s.params name = Entries.find? t.params name)
    (called : Value) :
    Alike R (rules.checkValues host called) (rules.checkValues host called) := by
  induction rules with
  | nil => exact .pure _
  | cons q rest ih =>
    rcases q with ⟨name, r⟩
    obtain ⟨hr, hrest⟩ := List.forall_mem_cons.mp h
    intro s t hst
    rw [checkValues, get_bind, get_bind, hfind s t hst name]
    cases Entries.find? t.params name with
    | none => exact ih hrest s t hst
    | some v =>
      refine (Rule.fault?_alike fun cb hcb => hr cb hcb v).raisedAs.bind (fun f => ?_) s t hst
      cases f with
      | some f => exact .throw _
      | none => exact ih hrest

end Checks

theorem World.onStage_alike {W : World σ → World σ → Prop} {x y : EStateM ε (Stage σ) α}
    {params : Entries} (hx : Alike R x y)
    (henter : ∀ w w', W w w' → R { w with params := params } { w' with params := params })
    (hleave : ∀ s t, R s t → W s.toWorld t.toWorld ∧ s.params = t.params) :
    Alike W (World.onStage params x) (World.onStage params y) := by
  intro w w' h
  obtain ⟨hout, hlast⟩ := hx _ _ (henter w w' h)
  unfold World.onStage
  cases hs : x { w with params := params } with
  | ok a s =>
    cases ht : y { w' with params := params } with
    | ok b t =>
      rw [hs, ht] at hout hlast
      cases hout
      obtain ⟨hw, hp⟩ := hleave s t hlast
      exact ⟨congrArg (fun es => Except.ok (a, es)) hp, hw⟩
    | error e t =>
      rw [hs, ht] at hout
      cases hout
  | error e s =>
    cases ht : y { w' with params := params } with
    | ok b t =>
      rw [hs, ht] at hout
      cases hout
    | error d t =>
      rw [hs, ht] at hout hlast
      cases hout
      exact ⟨rfl, (hleave s t hlast).1⟩

/-- Worlds so related are the same to a validation: the arguments denote the same parameters, the
host is in the same state, and what a call or a record adds to both leaves them related. -/
structure World.SeenAlike (W : World σ → World σ → Prop) : Prop where
  params : ∀ w w', W w w' → Arguments.params w'.args = Arguments.params w.args
  host : ∀ w w', W w w' → w'.host = w.host
  called : ∀ w w', W w w' → ∀ h c,
    W { w with host := h, calls := w.calls ++ [c] } { w' with host := h, calls := w'.calls ++ [c] }
  logged : ∀ w w', W w w' → ∀ r,
    W { w with records := w.records ++ [r] } { w' with records := w'.records ++ [r] }

structure Stage.Over (W : World σ → World σ → Prop) (s t : Stage σ) : Prop where
  world : W s.toWorld t.toWorld
  params : t.params = s.params

section SeenAlike

variable {W : World σ → World σ → Prop} (hW : World.SeenAlike W)

include hW

namespace Stage

theorem perform_alike (access : Access) (callee : Callable) (value : Option Value) (act : Act σ) :
    Alike (Over W) (perform access callee value act) (perform access callee value act) := by
  rintro s t ⟨hw, hp⟩
  rw [outcome_perform, outcome_perform, last_perform, last_perform, hp, hW.host _ _ hw]
  exact ⟨rfl, hW.called _ _ hw _ _, rfl⟩

theorem log_alike (r : LogRecord) :
    Alike (Over W) (log r : EStateM ε (Stage σ) Unit) (log r) := by
  rintro s t ⟨hw, hp⟩
  exact ⟨rfl, hW.logged _ _ hw r, hp⟩

end Stage

namespace World

theorem params_alike (called : Value) :
    Alike W (World.params (σ := σ) called) (World.params called) := by
  intro w w' h
  unfold World.params
  rw [hW.params w w' h]
  exact Alike.orFail _ _ w w' h

theorem log_alike (r : LogRecord) : Alike W (log r : EStateM ε (World σ) Unit) (log r) :=
  fun w w' h => ⟨rfl, hW.logged w w' h r⟩

omit hW in
theorem stage_alike {x y : EStateM ε (Stage σ) α} (params : Entries)
    (h : Alike (Stage.Over W) x y) : Alike W (onStage params x) (onStage params y) :=
  onStage_alike h (fun _ _ h => ⟨h, rfl⟩) fun _ _ h => ⟨h.world, h.params.symm⟩

end World

theorem validateUnder_alike (host : Host σ) (settings : Settings) (called : Value) (spec : Value) :
    Alike W (validateUnder host settings called spec)
      (validateUnder host settings called spec) := by
  refine (Alike.orFail _ _).bind fun rules => ?_
  refine (World.params_alike hW called).bind fun params => ?_
  cases settings.noValidation with
  | true => exact (World.log_alike hW _).bind fun _ => .pure _
  | false =>
    cases rules.nameFault? settings.allowExtra params with
    | some f => exact .throw _
    | none =>
      have hc : Alike (Stage.Over W) (rules.checkValues host called)
          (rules.checkValues host called) :=
        Spec.checkValues_alike (fun _ _ _ _ _ => (Stage.perform_alike hW _ _ _ _).map _)
          (fun _ _ h name => by rw [h.params]) called
      exact (World.stage_alike params hc).bind fun _ => .pure _

theorem predicates_alike (host : Host σ) (called : Value) (cs : List Condition) :
    Alike (Stage.Over W) (checkPredicates host called 0 cs) (checkPredicates host called 0 cs) :=
  checkPredicates_alike
    (fun c _ => Condition.eval_alike (fun _ _ h name => by rw [h.params]) c
      fun _ _ => (Stage.perform_alike hW _ _ _ _).map _)
    (Stage.log_alike hW) called 0

section Calls

variable {args args' : Value} {settings : Option Settings} {w w' : World σ}
  (hs : Alike W (World.settings settings) (World.settings settings))
  (h : W { w with args := args } { w' with args := args' })

include hs h

theorem validateParams_alike (host : Host σ) (spec called : Value) :
    outcome (validateParams host args spec called settings w) =
        outcome (validateParams host args' spec called settings w') ∧
      W (last (validateParams host args spec called settings w))
        (last (validateParams host args' spec called settings w')) := by
  rw [validateParams, validateParams, World.receive_bind, World.receive_bind]
  exact hs.bind (fun S => validateUnder_alike hW host S _ spec) _ _ h

theorem validate_alike (host : Host σ) (spec : Value) (trailing : List Value) (called : Value) :
    outcome (validate host args spec trailing called settings w) =
        outcome (validate host args' spec trailing called settings w') ∧
      W (last (validate host args spec trailing called settings w))
        (last (validate host args' spec trailing called settings w')) := by
  rw [validate_eq, validate_eq, World.receive_bind, World.receive_bind]
  cases readPredicates trailing with
  | none => exact ⟨rfl, h⟩
  | some predicates =>
    refine (hs.bind fun S => ?_) _ _ h
    refine (validateUnder_alike hW host S _ spec).bind fun _ => ?_
    refine (World.params_alike hW _).bind fun params => ?_
    exact (World.stage_alike params (predicates_alike hW host _ predicates)).bind fun _ => .pure _

end Calls

end SeenAlike

theorem World.settings_alike {W : World σ → World σ → Prop}
    (hkept : ∀ w w', W w w' → w'.environment = w.environment ∧ w'.cached = w.cached)
    (hfill : ∀ w w', W w w' → ∀ S, W { w with cached := some S } { w' with cached := some S })
    (settings : Option Settings) :
    Alike W (World.settings settings) (World.settings settings) := by
  cases settings with
  | some S => exact .pure S
  | none =>
    intro w w' h
    obtain ⟨henv, hcached⟩ := hkept w w' h
    unfold World.settings
    dsimp only
    rw [henv, hcached]
    cases w.cached with
    | some S => exact ⟨rfl, h⟩
    | none =>
      cases Settings.build w.environment [] with
      | ok S =>
        have hboth := hfill w w' h S
        rw [henv] at hboth
        exact ⟨rfl, hboth⟩
      | error faults => exact ⟨rfl, h⟩

def World.kept (w : World σ) : Environment × Option Settings := (w.environment, w.cached)

/-- The worlds differ at most in what the settings depend on, which is given for each. -/
structure World.SameBut (k k' : Environment × Option Settings) (w w' : World σ) : Prop where
  left : w.kept = k
  right : w'.kept = k'
  args : w'.args = w.args
  host : w'.host = w.host
  calls : w'.calls = w.calls
  records : w'.records = w.records

namespace World.SameBut

variable {k k' : Environment × Option Settings} {w w' : World σ}

theorem eq (h : w.SameBut k k' w') : w' = { w with environment := k'.1, cached := k'.2 } := by
  obtain ⟨-, hr, ha, hh, hc, hlog⟩ := h
  rcases w' with ⟨env, cached, args, host, calls, records⟩
  cases hr
  cases ha
  cases hh
  cases hc
  cases hlog
  rfl

theorem receive (h : w.SameBut k k' w') (args : Value) :
    World.SameBut k k' { w with args := args } { w' with args := args } :=
  ⟨h.left, h.right, rfl, h.host, h.calls, h.records⟩

theorem seenAlike : SeenAlike (World.SameBut (σ := σ) k k') where
  params _ _ h := congrArg Arguments.params h.args
  host _ _ h := h.host
  called _ _ h _ c := ⟨h.left, h.right, h.args, rfl, congrArg (· ++ [c]) h.calls, h.records⟩
  logged _ _ h r := ⟨h.left, h.right, h.args, h.host, h.calls, congrArg (· ++ [r]) h.records⟩

end World.SameBut

end ParamGate
