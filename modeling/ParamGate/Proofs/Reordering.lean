import ParamGate.Proofs.Alike
import ParamGate.Proofs.Ladder
import ParamGate.Proofs.Precedence
import ParamGate.Proofs.Screening

/-!
The order of the arguments. Where no function can tell it, a call whose parameters come in another
order fails alike, or returns the same mapping: the parameters in their own order, and after them
the same defaults.
-/

namespace ParamGate

open Run

variable {σ : Type} {host : Host σ} {H : σ → σ → Prop}

namespace Spec

variable {rules : Spec} {es es' : Entries} (h : es.Reordered es')

include h

theorem unlisted_of_reordered : rules.unlisted es' = rules.unlisted es := by
  obtain ⟨hperm, hsorted⟩ := eq_unlisted_iff.mp (rfl : rules.unlisted es' = rules.unlisted es')
  have hsame := ((h.perm.filter fun p => !rules.lists p.1).map fun p => p.1.plain).symm
  exact eq_unlisted_iff.mpr ⟨hperm.trans hsame, hsorted⟩

theorem unlistedFault_of_reordered : rules.unlistedFault es' = rules.unlistedFault es := by
  rw [unlistedFault, unlistedFault, unlisted_of_reordered h, h.perm.all_eq]

theorem nameFault?_of_reordered (allowExtra : Bool) :
    rules.nameFault? allowExtra es' = rules.nameFault? allowExtra es := by
  have hmissing : rules.missing es' = rules.missing es :=
    missing_congr fun q _ => h.contains_eq q.1
  rw [nameFault?, nameFault?, unlisted_of_reordered h, unlistedFault_of_reordered h, hmissing]

theorem defaults_of_reordered : rules.defaults es' = rules.defaults es :=
  defaults_congr fun q _ => h.contains_eq q.1

theorem reordered_fillDefaults (hk : rules.keys.Nodup) :
    (rules.fillDefaults es).Reordered (rules.fillDefaults es') := by
  refine ⟨distinct_fillDefaults h.distinct rules, ?_⟩
  rw [fillDefaults_eq hk, fillDefaults_eq hk, defaults_of_reordered h]
  exact h.perm.append_right _

end Spec

/-- A function ends in the same way twice, as far as anyone can tell to whom some states of the host
are the same and the order of parameters is nothing. -/
structure Act.EndsAlike (H : σ → σ → Prop) (r r' : Except Raised Value × Entries × σ) : Prop where
  truth : r.1.map Value.truthy = r'.1.map Value.truthy
  params : r.2.1.Reordered r'.2.1
  host : H r.2.2 r'.2.2

/-- Handed the same parameters in another order, in states of the host that are the same to it, the
function ends in the same way. -/
def Act.IgnoresOrder (H : σ → σ → Prop) (access : Access) (a : Act σ) : Prop :=
  ∀ es es' s s', es.Reordered es' → H s s' →
    EndsAlike H (a.run access es s) (a.run access es' s')

structure Stage.Reordered (H : σ → σ → Prop) (s t : Stage σ) : Prop where
  host : H s.host t.host
  params : s.params.Reordered t.params

theorem Act.IgnoresOrder.perform {access : Access} {a : Act σ} (h : a.IgnoresOrder H access)
    (callee : Callable) (value : Option Value) :
    Alike (Stage.Reordered H) (Value.truthy <$> Stage.perform access callee value a)
      (Value.truthy <$> Stage.perform access callee value a) := by
  intro s t hst
  obtain ⟨htruth, hparams, hhost⟩ := h _ _ _ _ hst.params hst.host
  rw [outcome_map, outcome_map, last_map, last_map, Stage.outcome_perform, Stage.outcome_perform,
    Stage.last_perform, Stage.last_perform]
  exact ⟨htruth, hhost, hparams⟩

def Spec.IgnoresOrder (host : Host σ) (H : σ → σ → Prop) (rules : Spec) : Prop :=
  ∀ q ∈ rules, ∀ cb ∈ q.2.callbacks, ∀ v, (host.check cb.2 v).IgnoresOrder H .writable

/-- Callbacks that answer by the value and by which names have which values cannot, whatever state
they keep: no state of the host tells anything. -/
theorem Spec.Answered.ignoresOrder {answer : Callable → Value → Entries → Value} {rules : Spec}
    (h : rules.Answered host answer)
    (ha : ∀ c v es es', Entries.Reordered es es' → answer c v es = answer c v es') :
    rules.IgnoresOrder host fun _ _ => True := by
  intro q hq cb hcb v es es' s s' hes _
  obtain ⟨t, ht⟩ := h q hq cb hcb v es s
  obtain ⟨t', ht'⟩ := h q hq cb hcb v es' s'
  rw [ht, ht', ha cb.2 v es es' hes]
  exact ⟨rfl, hes, trivial⟩

/-- Evaluated on the same parameters in another order, the condition gives the same answer or raises
the same error. -/
def Condition.IgnoresOrder (host : Host σ) (H : σ → σ → Prop) (c : Condition) : Prop :=
  Alike (Stage.Reordered H) (c.eval host .readOnly) (c.eval host .readOnly)

theorem Condition.ignoresOrder_of_functions {c : Condition}
    (h : ∀ f ∈ c.functions, (host.predicate f).IgnoresOrder H .readOnly) :
    c.IgnoresOrder host H :=
  eval_alike (fun _ _ hst _ => (hst.params.contains_eq _).symm) c
    fun f hf => (h f hf).perform (.function f) none

section Screening

variable {rules : Spec} {es es' : Entries} {w w' : World σ}

theorem Spec.IgnoresOrder.screen (h : rules.IgnoresOrder host H) (S : Settings) (caller : Value)
    (hes : es.Reordered es') (hp : Arguments.params w.args = .ok es)
    (hp' : Arguments.params w'.args = .ok es') (hhost : H w.host w'.host) :
    (∃ e t t', rules.screen host S caller w = .error e t ∧
        rules.screen host S caller w' = .error e t') ∨
      ∃ kept kept' t t', rules.screen host S caller w = .ok kept t ∧
        rules.screen host S caller w' = .ok kept' t' ∧ kept.Reordered kept' ∧
        H t.host t'.host := by
  have hchecks : Alike (Stage.Reordered H) (rules.checkValues host caller)
      (rules.checkValues host caller) :=
    checkValues_alike (fun q hq cb hcb v => (h q hq cb hcb v).perform cb.2 (some v))
      (fun _ _ hst name => (hst.params.find?_eq name).symm) caller
  obtain ⟨hout, hlast⟩ := hchecks { w with params := es } { w' with params := es' } ⟨hhost, hes⟩
  unfold Spec.screen
  rw [bind_of_ok (World.params_eq_ok.mpr ⟨hp, rfl⟩), bind_of_ok (World.params_eq_ok.mpr ⟨hp', rfl⟩),
    nameFault?_of_reordered hes]
  cases S.noValidation with
  | true => exact .inr ⟨es, es', _, _, rfl, rfl, hes, hhost⟩
  | false =>
    rw [if_neg Bool.false_ne_true, if_neg Bool.false_ne_true]
    cases rules.nameFault? S.allowExtra es with
    | some f => exact .inl ⟨_, w, w', rfl, rfl⟩
    | none =>
      dsimp only
      cases hs : rules.checkValues host caller { w with params := es } with
      | ok u s =>
        rw [hs] at hout hlast
        obtain ⟨t, ht⟩ := outcome_eq_ok.mp hout.symm
        rw [ht] at hlast
        rw [bind_of_ok (World.onStage_eq_ok.mpr ⟨s, hs, rfl, rfl⟩),
          bind_of_ok (World.onStage_eq_ok.mpr ⟨t, ht, rfl, rfl⟩)]
        exact .inr ⟨s.params, t.params, _, _, rfl, rfl, hlast.params, hlast.host⟩
      | error e s =>
        rw [hs] at hout
        obtain ⟨t, ht⟩ := outcome_eq_error.mp hout.symm
        rw [bind_of_error (World.onStage_of_error hs), bind_of_error (World.onStage_of_error ht)]
        exact .inl ⟨e, _, _, rfl, rfl⟩

/-- How validations of the same parameters in two orders go. What the callbacks left of each has the
same defaults put after it. -/
inductive GoAlike (host : Host σ) (H : σ → σ → Prop) (spec : Value) (es es' : Entries) :
    EStateM.Result Failure (World σ) Entries → EStateM.Result Failure (World σ) Entries → Prop
  | fail {e : Failure} {t t' : World σ} : GoAlike host H spec es es' (.error e t) (.error e t')
  | pass {rules : Spec} {kept kept' : Entries} {t t' : World σ} (hr : rules.WrittenAs spec)
    (hkept : kept.Reordered kept') (hlook : rules.Looking host → kept = es ∧ kept' = es')
    (hhost : H t.host t'.host) :
    GoAlike host H spec es es' (.ok (rules.fillDefaults kept) t) (.ok (rules.fillDefaults kept') t')

theorem validateUnder_goAlike {S : Settings} {caller : Value} {spec : Value}
    (hc : ∀ rules : Spec, rules.WrittenAs spec → rules.IgnoresOrder host H)
    (hes : es.Reordered es') (hp : Arguments.params w.args = .ok es)
    (hp' : Arguments.params w'.args = .ok es') (hhost : H w.host w'.host) :
    GoAlike host H spec es es' (validateUnder host S caller spec w)
      (validateUnder host S caller spec w') := by
  cases hs : Spec.ofValue spec with
  | error f =>
    rw [validateUnder, hs]
    exact .fail
  | ok rules =>
    have hr := Spec.ofValue_eq_ok.mp hs
    rw [validateUnder_of_spec hs]
    rcases (hc rules hr).screen S caller hes hp hp' hhost with
      ⟨e, t, t', ht, ht'⟩ | ⟨kept, kept', t, t', ht, ht', hkept, hh⟩
    · rw [bind_of_error ht, bind_of_error ht']
      exact .fail
    · have hlook : rules.Looking host → kept = es ∧ kept' = es' := by
        intro hl
        have hsame := hl.params_of_screen ht
        have hsame' := hl.params_of_screen ht'
        rw [hp] at hsame
        rw [hp'] at hsame'
        cases hsame
        cases hsame'
        exact ⟨rfl, rfl⟩
      rw [bind_of_ok ht, bind_of_ok ht']
      exact .pass hr hkept hlook hh

end Screening

section Calls

variable {args args' spec : Value} {es es' : Entries} {w : World σ}

theorem validateParams_goAlike
    (hc : ∀ rules : Spec, rules.WrittenAs spec → rules.IgnoresOrder host H)
    (hes : es.Reordered es') (hp : Arguments.params args = .ok es)
    (hp' : Arguments.params args' = .ok es') (called : Value) (settings : Option Settings)
    (hw : H w.host w.host) :
    (∃ e t t', validateParams host args spec called settings w = .error e t ∧
        validateParams host args' spec called settings w = .error e t') ∨
      ∃ S w₁ w₁' result result' t t',
        World.settings settings { w with args := args } = .ok S w₁ ∧
        World.settings settings { w with args := args' } = .ok S w₁' ∧
        validateUnder host S (Arguments.caller called S) spec w₁ = .ok result t ∧
        validateUnder host S (Arguments.caller called S) spec w₁' = .ok result' t' ∧
        GoAlike host H spec es es' (.ok result t) (.ok result' t') := by
  cases hs : World.settings settings { w with args := args } with
  | error e t =>
    have hs' : World.settings settings { w with args := args' } =
        .error e { t with args := args' } := World.settings_receive_of_error hs args'
    exact .inl ⟨_, _, _, validateParams_of_unsettled hs, validateParams_of_unsettled hs'⟩
  | ok S w₁ =>
    have hs' : World.settings settings { w with args := args' } =
        .ok S { w₁ with args := args' } := World.settings_receive hs args'
    obtain ⟨cached, hw₁⟩ := World.settings_of_ok hs
    have hgiven : Arguments.params w₁.args = .ok es := by
      rw [hw₁]
      exact hp
    have hhost : H w₁.host w₁.host := by
      rw [hw₁]
      exact hw
    have hrun : GoAlike host H spec es es'
        (validateUnder host S (Arguments.caller called S) spec w₁)
        (validateUnder host S (Arguments.caller called S) spec { w₁ with args := args' }) :=
      validateUnder_goAlike hc hes hgiven hp' hhost
    rw [validateParams_of_settings hs, validateParams_of_settings hs']
    generalize hv : validateUnder host S (Arguments.caller called S) spec w₁ = r at hrun
    generalize hv' : validateUnder host S (Arguments.caller called S) spec
      { w₁ with args := args' } = r' at hrun
    cases r with
    | error e t =>
      cases hrun with
      | fail => exact .inl ⟨e, t, _, rfl, rfl⟩
    | ok result t =>
      cases r' with
      | error e t' => cases hrun
      | ok result' t' => exact .inr ⟨S, w₁, _, result, result', t, t', rfl, hs', hv, hv', hrun⟩

end Calls

theorem exists_of_readPredicates {trailing : List Value} {predicates : List Condition}
    (h : readPredicates trailing = some predicates) {c : Condition} (hc : c ∈ predicates) :
    ∃ v ∈ trailing, v.condition? = some c :=
  exists_of_forall₂ (readPredicates_eq_some.mp h).flip hc

theorem checkPredicates_of_reordered {predicates : List Condition}
    (h : ∀ c ∈ predicates, c.IgnoresOrder host H) (caller : Value) {s t : Stage σ}
    (hst : Stage.Reordered H s t) :
    outcome (checkPredicates host caller 0 predicates s) =
      outcome (checkPredicates host caller 0 predicates t) :=
  (checkPredicates_alike h (fun _ _ _ hst => ⟨rfl, hst.host, hst.params⟩) caller 0 s t hst).1

/-- Where the same parameters come in two orders that no callback can tell apart, a validation fails
alike for both, or returns the same mapping: for each the parameters in their own order, as far as
callbacks left them, and then the same defaults. With predicates that cannot tell the order either,
calls of the gate end alike. -/
theorem order_of_arguments_does_not_matter {args args' spec : Value} {es es' : Entries}
    (hargs : Arguments.Supply args es) (hargs' : Arguments.Supply args' es') (hperm : es.Perm es')
    (hc : ∀ rules : Spec, rules.WrittenAs spec → rules.IgnoresOrder host H) (called : Value)
    (settings : Option Settings) {w : World σ} (hw : H w.host w.host) :
    ((∃ e, outcome (validateParams host args spec called settings w) = .error e ∧
        outcome (validateParams host args' spec called settings w) = .error e) ∨
      ∃ (rules : Spec) (kept kept' result result' : Entries), rules.WrittenAs spec ∧
        outcome (validateParams host args spec called settings w) = .ok result ∧
        outcome (validateParams host args' spec called settings w) = .ok result' ∧
        result.Reordered result' ∧ kept.Perm kept' ∧ result = kept ++ rules.defaults kept ∧
        result' = kept' ++ rules.defaults kept ∧
        (rules.Looking host → kept = es ∧ kept' = es')) ∧
      ∀ trailing : List Value,
        (∀ v ∈ trailing, ∀ c, v.condition? = some c → c.IgnoresOrder host H) →
        outcome (validate host args spec trailing called settings w) =
          outcome (validate host args' spec trailing called settings w) := by
  have hes : es.Reordered es' := ⟨hargs.distinct, hperm⟩
  have hp := Arguments.params_eq_ok.mpr hargs
  have hp' := Arguments.params_eq_ok.mpr hargs'
  have hrefused {trailing : List Value} (hread : readPredicates trailing = none) (v : Value) :
      outcome (validate host v spec trailing called settings w) = .error .trailing := by
    rw [validate_eq, World.receive_bind, hread]
    rfl
  rcases validateParams_goAlike hc hes hp hp' called settings hw with
    ⟨e, t, t', hv, hv'⟩ | ⟨S, w₁, w₁', _, _, t, t', hs, hs', hv, hv', hpass⟩
  · refine ⟨.inl ⟨e, outcome_eq_error.mpr ⟨t, hv⟩, outcome_eq_error.mpr ⟨t', hv'⟩⟩, ?_⟩
    intro trailing _
    cases hread : readPredicates trailing with
    | none => rw [hrefused hread, hrefused hread]
    | some predicates =>
      rw [validate_of_unfit hread hv, validate_of_unfit hread hv']
      rfl
  · cases hpass with
    | @pass rules kept kept' _ _ hr hkept hlook hhost =>
      have hk := hr.nodup_keys
      constructor
      · refine .inr ⟨rules, kept, kept', _, _, hr, outcome_eq_ok.mpr ⟨t, ?_⟩,
          outcome_eq_ok.mpr ⟨t', ?_⟩, Spec.reordered_fillDefaults hkept hk, hkept.perm,
          Spec.fillDefaults_eq hk kept, ?_, hlook⟩
        · rw [validateParams_of_settings hs, hv]
        · rw [validateParams_of_settings hs', hv']
        · rw [Spec.fillDefaults_eq hk, Spec.defaults_of_reordered hkept]
      · intro trailing hignore
        cases hread : readPredicates trailing with
        | none => rw [hrefused hread, hrefused hread]
        | some predicates =>
          have hblind : ∀ c ∈ predicates, c.IgnoresOrder host H := by
            intro c hc
            obtain ⟨v, hv, hcond⟩ := exists_of_readPredicates hread hc
            exact hignore v hv c hcond
          rw [outcome_validate_of_validateUnder hread hs hv hp,
            outcome_validate_of_validateUnder hread hs' hv' hp']
          exact checkPredicates_of_reordered hblind _ ⟨hhost, hes⟩

/-- A mapping, and a flat call that gives its entries the other way round. The function asks for
`b`, as the callback of `a` does. -/
theorem order_of_arguments_does_not_matter_to_flat_call :
    (∀ rules : Spec, rules.WrittenAs pairedSpec →
        rules.IgnoresOrder pairedHost fun _ _ => True) ∧
      (Condition.holds (.named 7 "f")).IgnoresOrder pairedHost (fun _ _ => True) ∧
      outcome (validate pairedHost (.map .dict [(.text "a", .int 2), (.text "b", .null)]) pairedSpec
          [.function (.named 7 "f")] .null (some {}) { host := [] }) =
        outcome (validate pairedHost (.list [.text "b", .null, .text "a", .int 2]) pairedSpec
          [.function (.named 7 "f")] .null (some {}) { host := [] }) := by
  have hrules : ∀ rules : Spec, rules.WrittenAs pairedSpec →
      rules.IgnoresOrder pairedHost fun _ _ => True := fun rules hr =>
    (pairedRules_answered hr).ignoresOrder fun _ _ es es' hes => by
      rw [hasB, hasB, hes.find?_eq]
  have hfunction : (Condition.holds (.named 7 "f")).IgnoresOrder pairedHost (fun _ _ => True) := by
    refine Condition.ignoresOrder_of_functions fun f hf => ?_
    obtain rfl := List.mem_singleton.mp hf
    intro es es' s s' hes _
    refine ⟨?_, hes, trivial⟩
    show Except.ok (Value.bool (Entries.find? es (.text "b")).isSome).truthy =
      Except.ok (Value.bool (Entries.find? es' (.text "b")).isSome).truthy
    rw [hes.find?_eq]
  have hdict : Arguments.Supply (.map .dict [(.text "a", .int 2), (.text "b", .null)])
      [(.text "a", .int 2), (.text "b", .null)] := Arguments.params_eq_ok.mp rfl
  have hflat : Arguments.Supply (.list [.text "b", .null, .text "a", .int 2])
      [(.text "b", .null), (.text "a", .int 2)] := Arguments.params_eq_ok.mp rfl
  refine ⟨hrules, hfunction, (order_of_arguments_does_not_matter hdict hflat (List.Perm.swap _ _ _)
    hrules .null (some {}) trivial).2 _ ?_⟩
  intro v hv c hc
  obtain rfl := List.mem_singleton.mp hv
  cases hc
  exact hfunction

end ParamGate
