import ParamGate.Journal.Logging
import ParamGate.Proofs.Ending
import ParamGate.Proofs.Screening
import ParamGate.Proofs.Supplied
import ParamGate.Proofs.Written
import ParamGate.Script
import ParamGate.Value.Printing

/-!
What a call that a predicate turns down gives away. To its caller it ends like any other such call;
the log has one entry that tells which predicate it was, and a call that ends otherwise leaves no
entry of that kind.
-/

namespace ParamGate

open Run

variable {σ τ : Type} {host : Host σ}

namespace Stage

def Silent (s s' : Stage σ) : Prop := s'.records = s.records

instance : IsPreorder (Stage σ) Silent where
  refl _ := rfl
  trans _ _ _ h h' := h'.trans h

theorem perform_silent (access : Access) (callee : Callable) (value : Option Value) (act : Act σ) :
    Keeps Silent (perform access callee value act) := by
  intro s
  rw [last_perform]
  rfl

end Stage

theorem Condition.eval_silent (c : Condition) : Keeps Stage.Silent (c.eval host .readOnly) :=
  c.eval_keeps fun f _ => Stage.perform_silent .readOnly (.function f) none (host.predicate f)

theorem Spec.checkValues_silent (rules : Spec) (caller : Value) :
    Keeps Stage.Silent (rules.checkValues host caller) :=
  checkValues_keeps (fun _ _ cb _ v => Stage.perform_silent .writable cb.2 (some v) _) caller

theorem AllHold.records {cs : List Condition} {s t : Stage σ} (h : AllHold host cs s t) :
    t.records = s.records := by
  induction h with
  | nil => rfl
  | @cons c _ _ _ _ hc _ ih => exact ih.trans (c.eval_silent.of_ok hc)

theorem Value.text_of_condition? {v : Value} {c : Condition} (h : v.condition? = some c) :
    c.text = v.literal := by
  cases v with
  | function f =>
    rw [condition?, Option.some.injEq] at h
    rw [← h, Condition.text, literal, Condition.chars, chars.eq_def]
  | predicate p =>
    rw [condition?, Option.some.injEq] at h
    rw [← h, Condition.text, literal, chars.eq_def]
    rfl
  | _ => simp [condition?] at h

section Validation

/-- Nothing is wrong with the spec, nor with the shape of the arguments. -/
structure WellFormed (args spec : Value) : Prop where
  spec : ∃ rules : Spec, rules.WrittenAs spec
  args : ∃ params, Arguments.Supply args params

def Settings.notice (S : Settings) (caller : Value) : List LogRecord :=
  if S.noValidation then [.checksDisabled caller] else []

variable {S : Settings} {caller : Value} {spec : Value} {w : World σ}

theorem records_validateUnder (h : WellFormed w.args spec) :
    (last (validateUnder host S caller spec w)).records = w.records ++ S.notice caller := by
  obtain ⟨⟨rules, hrules⟩, ⟨params, hparams⟩⟩ := h
  rw [last_validateUnder (Spec.ofValue_eq_ok.mpr hrules)]
  have hg := Spec.screen_screens host S caller rules w
  generalize rules.screen host S caller w = r at hg
  unfold Settings.notice
  cases hg with
  | unread hp =>
    rw [Arguments.params_eq_ok.mpr hparams] at hp
    cases hp
  | unchecked hp hn =>
    rw [if_pos hn]
    rfl
  | misnamed hp hn hf =>
    rw [hn, if_neg Bool.false_ne_true, List.append_nil]
    rfl
  | @checked params hp hn hf =>
    rw [hn, if_neg Bool.false_ne_true, List.append_nil]
    have hc : Keeps Stage.Silent (rules.checkValues host caller) := rules.checkValues_silent caller
    cases hs : rules.checkValues host caller { w with params := params } with
    | ok u s => exact hc.of_ok hs
    | error e s => exact hc.of_error hs

theorem records_validateUnder_of_not (h : ¬ WellFormed w.args spec) :
    (last (validateUnder host S caller spec w)).records = w.records := by
  cases hs : Spec.ofValue spec with
  | error f =>
    rw [validateUnder, hs]
    rfl
  | ok rules =>
    cases hp : Arguments.params w.args with
    | error f =>
      rw [last_validateUnder hs, Spec.screen, bind_of_error (World.params_of_error hp)]
      rfl
    | ok params =>
      exact absurd ⟨⟨rules, Spec.ofValue_eq_ok.mp hs⟩, ⟨params, Arguments.params_eq_ok.mp hp⟩⟩ h

theorem validateParams_ne_dependency {args called : Value} {settings : Option Settings}
    {t : World σ} : validateParams host args spec called settings w ≠ .error .dependency t := by
  intro h
  rcases failure_of_validateParams h with ⟨f, he⟩ | ⟨f, he⟩ | ⟨c, f, he⟩ | ⟨r, he⟩ <;> cases he

end Validation

/-- The list holds what there is ground for, once. -/
structure Once {α : Type} (P : α → Prop) (as : List α) : Prop where
  mem_iff : ∀ a, a ∈ as ↔ P a
  length_le : as.length ≤ 1

theorem Once.nil {α : Type} {P : α → Prop} (h : ∀ a, ¬ P a) : Once P [] :=
  ⟨fun a => by simp [h a], by simp⟩

theorem Once.singleton {α : Type} {P : α → Prop} {a : α} (h : P a) (hu : ∀ b, P b → b = a) :
    Once P [a] := by
  refine ⟨fun b => ?_, Nat.le_refl 1⟩
  rw [List.mem_singleton]
  constructor
  · rintro rfl
    exact h
  · exact hu b

structure GateCall (σ : Type) where
  host : Host σ
  args : Value
  spec : Value
  trailing : List Value
  called : Value
  settings : Option Settings
  world : World σ

namespace GateCall

def run (g : GateCall σ) : EStateM.Result Failure (World σ) Unit :=
  validate g.host g.args g.spec g.trailing g.called g.settings g.world

def InForce (g : GateCall σ) (S : Settings) : Prop :=
  ∃ w, World.settings g.settings g.world = .ok S w

/-- The call gets as far as its predicates, which are asked from a stage on. -/
structure Reaches (g : GateCall σ) (S : Settings) (predicates : List Condition) (s : Stage σ) :
    Prop where
  predicates : List.Forall₂ (fun v c => v.condition? = some c) g.trailing predicates
  settings : g.InForce S
  validated : ∃ result,
    validateParams g.host g.args g.spec g.called g.settings g.world = .ok result s.toWorld
  params : Arguments.Supply g.args s.params

inductive Gets (g : GateCall σ) : EStateM.Result Failure (World σ) Unit → Prop
  | refused (h : ∃ v ∈ g.trailing, ¬ v.IsPredicate) :
    g.Gets (.error .trailing { g.world with args := g.args })
  | unfit {e : Failure} {t : World σ} (h : ∀ v ∈ g.trailing, v.IsPredicate)
    (hv : validateParams g.host g.args g.spec g.called g.settings g.world = .error e t) :
    g.Gets (.error e t)
  | asked {S : Settings} {predicates : List Condition} {s : Stage σ}
    {r : EStateM.Result Failure (World σ) Unit} (h : g.Reaches S predicates s)
    (hd : Decides g.host (Arguments.caller g.called S) predicates s r) : g.Gets r

/-- The predicate at a position is the first not to hold, in a call under a caller's name. -/
inductive Rejects (g : GateCall σ) : Nat → Value → Value → Prop
  | falsy {S : Settings} {before after : List Condition} {c : Condition} {v : Value}
    {s t u : Stage σ} (hr : g.Reaches S (before ++ c :: after) s) (hb : AllHold g.host before s t)
    (hc : c.eval g.host .readOnly t = .ok false u) (hv : g.trailing[before.length]? = some v) :
    g.Rejects before.length v (Arguments.caller g.called S)

/-- The entries on a predicate that there is ground for. -/
inductive Reports (g : GateCall σ) : Journal.Entry → Prop
  | rejection {i : Nat} {v : Value} {caller : Value} (h : g.Rejects i v caller) :
    g.Reports
      { logger := "paramdeps.dispatch"
        level := .debug
        message := "Dependency check " ++ Text.natText i ++ " failed in call to " ++
          caller.plain ++ ": " ++ v.literal }

/-- The entries on the checks of parameters that there is ground for. -/
inductive Notices (g : GateCall σ) : Journal.Entry → Prop
  | disabled {S : Settings} (ht : ∀ v ∈ g.trailing, v.IsPredicate) (hw : WellFormed g.args g.spec)
    (hs : g.InForce S) (hn : S.noValidation = true) :
    g.Notices
      { logger := "paramdeps.base.validator"
        level := .debug
        message := "Per-key validation disabled for " ++ (Arguments.caller g.called S).plain }

variable {g : GateCall σ} {S : Settings} {predicates : List Condition} {s : Stage σ}

theorem InForce.unique {S' : Settings} (h : g.InForce S) (h' : g.InForce S') : S' = S := by
  obtain ⟨w, hw⟩ := h
  obtain ⟨w', hw'⟩ := h'
  rw [hw] at hw'
  cases hw'
  rfl

theorem Reaches.isPredicate (h : g.Reaches S predicates s) : ∀ v ∈ g.trailing, v.IsPredicate :=
  isPredicate_of_readPredicates (readPredicates_eq_some.mpr h.predicates)

theorem Reaches.exists_getElem? {before after : List Condition} {c : Condition}
    (h : g.Reaches S (before ++ c :: after) s) :
    ∃ v, g.trailing[before.length]? = some v ∧ v.condition? = some c := by
  obtain ⟨hlen, hget⟩ := List.forall₂_iff_get.mp h.predicates
  have hi : before.length < (before ++ c :: after).length := by simp
  refine ⟨g.trailing[before.length], List.getElem?_eq_getElem (hlen ▸ hi), ?_⟩
  simpa using hget before.length (hlen ▸ hi) hi

theorem run_gets (g : GateCall σ) : g.Gets g.run := by
  have hg := validate_goes g.host g.args g.spec g.trailing g.called g.settings g.world
  rw [← run] at hg
  generalize g.run = r at hg
  cases hg with
  | refused hp => exact .refused (readPredicates_eq_none.mp hp)
  | unset hp hs =>
    refine .unfit (isPredicate_of_readPredicates hp) ?_
    rw [validateParams, World.receive_bind, bind_of_error hs]
  | unfit hp hs hv =>
    rw [← validateParams_of_settings hs] at hv
    exact .unfit (isPredicate_of_readPredicates hp) hv
  | asked hp hs hv ha =>
    rw [← validateParams_of_settings hs] at hv
    exact .asked ⟨readPredicates_eq_some.mp hp, ⟨_, World.settings_of_receive hs⟩, ⟨_, hv⟩,
      Arguments.params_eq_ok.mp ha⟩ (decides_of_allHold .nil _)

theorem Reaches.run_of_decides {r : EStateM.Result Failure (World σ) Unit}
    (h : g.Reaches S predicates s)
    (hd : Decides g.host (Arguments.caller g.called S) predicates s r) : g.run = r := by
  obtain ⟨w, hw⟩ := h.settings
  obtain ⟨result, hv⟩ := h.validated
  have hs := World.settings_receive hw g.args
  rw [validateParams_of_settings hs] at hv
  rw [run, validate_of_validateUnder (readPredicates_eq_some.mpr h.predicates) hs hv
    (Arguments.params_eq_ok.mpr h.params)]
  exact checkPredicates_of_decides hd

theorem Rejects.run {i : Nat} {v : Value} {caller : Value} (h : g.Rejects i v caller) :
    ∃ (w : World σ) (c : Condition), v.condition? = some c ∧
      g.run = .error .dependency
        { w with records := w.records ++ [.dependencyFailed i caller c] } := by
  cases h with
  | @falsy S before after c v s t u hr hb hc hv =>
    obtain ⟨v', hv', hcond⟩ := hr.exists_getElem?
    rw [hv] at hv'
    cases hv'
    exact ⟨u.toWorld, c, hcond, hr.run_of_decides (.rejected rfl hb hc)⟩

theorem Reports.unique {e e' : Journal.Entry} (h : g.Reports e) (h' : g.Reports e') : e' = e := by
  cases h with
  | @rejection i v caller h =>
  cases h' with
  | @rejection i' v' caller' h' =>
    obtain ⟨w, c, hv, hrun⟩ := h.run
    obtain ⟨w', c', hv', hrun'⟩ := h'.run
    rw [hrun, EStateM.Result.error.injEq, World.mk.injEq] at hrun'
    obtain ⟨-, -, -, -, -, -, hrecords⟩ := hrun'
    obtain ⟨-, hlast⟩ := List.append_inj' hrecords rfl
    cases hlast
    rw [← Value.text_of_condition? hv, ← Value.text_of_condition? hv']

theorem outcome_eq_dependency :
    outcome g.run = .error .dependency ↔ ∃ i v caller, g.Rejects i v caller := by
  constructor
  · intro h
    have hg := g.run_gets
    generalize g.run = r at h hg
    cases hg with
    | refused hp => cases h
    | unfit hp hv =>
      cases h
      exact absurd hv validateParams_ne_dependency
    | asked hreach hd =>
      cases hd with
      | accepted hb => cases h
      | raised hcs hb hc => cases h
      | rejected hcs hb hc =>
        subst hcs
        obtain ⟨v, hv, -⟩ := hreach.exists_getElem?
        exact ⟨_, v, _, .falsy hreach hb hc hv⟩
  · rintro ⟨i, v, caller, h⟩
    obtain ⟨w, c, -, hrun⟩ := h.run
    rw [hrun]
    rfl

theorem Notices.unique {e e' : Journal.Entry} (h : g.Notices e) (h' : g.Notices e') : e' = e := by
  cases h with
  | disabled ht hw hs hn =>
  cases h' with
  | disabled ht' hw' hs' hn' => rw [hs.unique hs']

theorem Notices.isPredicate {e : Journal.Entry} (h : g.Notices e) :
    ∀ v ∈ g.trailing, v.IsPredicate := by
  cases h with
  | disabled ht hw hs hn => exact ht

theorem exists_notices (ht : ∀ v ∈ g.trailing, v.IsPredicate) :
    ∃ logged,
      (last (validateParams g.host g.args g.spec g.called g.settings g.world)).records =
        g.world.records ++ logged ∧
      Once g.Notices (logged.map Journal.Logging.entryOf) := by
  cases hs : World.settings g.settings { g.world with args := g.args } with
  | error e w =>
    rw [validateParams, World.receive_bind, bind_of_error hs]
    obtain ⟨hnone, hcached, faults, hb, rfl, rfl⟩ := World.settings_eq_error.mp hs
    refine ⟨[], (List.append_nil _).symm, .nil ?_⟩
    rintro e ⟨-, -, ⟨w', hw'⟩, -⟩
    rw [World.settings_receive hw' g.args] at hs
    cases hs
  | ok S w =>
    have hin : g.InForce S := ⟨_, World.settings_of_receive hs⟩
    rw [validateParams_of_settings hs]
    obtain ⟨cached, rfl⟩ := World.settings_of_ok hs
    by_cases hw : WellFormed g.args g.spec
    · refine ⟨S.notice (Arguments.caller g.called S), records_validateUnder hw, ?_⟩
      unfold Settings.notice
      cases hn : S.noValidation with
      | true =>
        have h : g.Notices _ := .disabled ht hw hin hn
        exact .singleton h fun e he => h.unique he
      | false =>
        refine .nil ?_
        rintro e ⟨-, -, hs', hn'⟩
        rw [hin.unique hs', hn] at hn'
        cases hn'
    · refine ⟨[], ?_, .nil ?_⟩
      · rw [records_validateUnder_of_not hw, List.append_nil]
      · rintro e ⟨-, hw', -, -⟩
        exact hw hw'

theorem once_reports_nil (h : outcome g.run ≠ .error .dependency) : Once g.Reports [] := by
  refine .nil ?_
  rintro e ⟨he⟩
  exact h (outcome_eq_dependency.mpr ⟨_, _, _, he⟩)

theorem Rejects.reports {i : Nat} {v : Value} {caller : Value} {c : Condition}
    (h : g.Rejects i v caller) (hv : v.condition? = some c) :
    g.Reports (Journal.Logging.entryOf (.dependencyFailed i caller c)) := by
  have hr := Reports.rejection h
  rw [← Value.text_of_condition? hv] at hr
  exact hr

theorem exists_logged (g : GateCall σ) :
    ∃ logged notices reports, (last g.run).records = g.world.records ++ logged ∧
      logged.map Journal.Logging.entryOf = notices ++ reports ∧
      Once g.Notices notices ∧ Once g.Reports reports := by
  have hg := g.run_gets
  generalize hr : g.run = r at hg
  -- Nothing that fails but a predicate that does not hold is a dependency failure, so in all cases
  -- except the last there is no ground for a report.
  cases hg with
  | refused hp =>
    refine ⟨[], [], [], (List.append_nil _).symm, rfl, .nil fun e h => ?_, once_reports_nil ?_⟩
    · obtain ⟨v, hv, hn⟩ := hp
      exact hn (h.isPredicate v hv)
    · rw [hr]
      exact nofun
  | unfit hp hv =>
    obtain ⟨logged, hlogged, hnotices⟩ := exists_notices hp
    rw [hv] at hlogged
    refine ⟨logged, _, [], hlogged, (List.append_nil _).symm, hnotices, once_reports_nil ?_⟩
    rw [hr]
    rintro h
    cases h
    exact validateParams_ne_dependency hv
  | @asked S predicates s r hreach hd =>
    obtain ⟨logged, hlogged, hnotices⟩ := exists_notices hreach.isPredicate
    obtain ⟨result, hv⟩ := hreach.validated
    rw [hv] at hlogged
    cases hd with
    | accepted hb =>
      refine ⟨logged, _, [], hb.records.trans hlogged, (List.append_nil _).symm, hnotices,
        once_reports_nil ?_⟩
      rw [hr]
      exact nofun
    | @raised before after c t u e hcs hb hc =>
      have hu : u.records = g.world.records ++ logged :=
        (c.eval_silent.of_error hc).trans (hb.records.trans hlogged)
      refine ⟨logged, _, [], hu, (List.append_nil _).symm, hnotices, once_reports_nil ?_⟩
      rw [hr]
      exact nofun
    | @rejected before after c t u hcs hb hc =>
      subst hcs
      have hu : u.records = g.world.records ++ logged :=
        (c.eval_silent.of_ok hc).trans (hb.records.trans hlogged)
      obtain ⟨v, hv, hcond⟩ := hreach.exists_getElem?
      have hreport := (Rejects.falsy hreach hb hc hv).reports hcond
      refine ⟨logged ++ [_], _, [_], ?_, List.map_append, hnotices,
        .singleton hreport fun e h => hreport.unique h⟩
      rw [← List.append_assoc, ← hu]
      rfl

end GateCall

theorem Journal.Logging.inPackage_logger (r : LogRecord) : inPackage r.logger = true := by
  cases r <;> simp [LogRecord.logger, inPackage, packageName]

theorem Journal.Logging.deliver_entryOf {l : Logging}
    (h : l.threshold packageName ≤ Level.debug.number) (r : LogRecord) :
    l.deliver (entryOf r) = l.handlersFor r.logger := by
  have hpackage : inPackage packageName = true := by simp [inPackage]
  unfold threshold at h
  rw [hpackage] at h
  unfold deliver threshold
  rw [entryOf, inPackage_logger]
  exact if_pos h

/-- Any two calls that a predicate turns down end alike, so that which predicate it was, and where,
is told by the log alone. There it is told once, whoever listens to the library's debugging; a call
that ends in any other way, an error of a predicate's own among them, is never told of so. Checks
that are off are told of once, by the calls whose predicates, spec and arguments are in order. -/
theorem rejection_is_for_the_log_alone (g : GateCall σ) (h : GateCall τ) :
    ((∃ i v caller, g.Rejects i v caller) → (∃ i v caller, h.Rejects i v caller) →
      outcome g.run = outcome h.run) ∧
    (outcome g.run = .error .dependency ↔ ∃ i v caller, g.Rejects i v caller) ∧
    Failure.dependency.report =
      { className := "DependencyValidationError"
        message := "code-ref checking failed"
        param := none
        details := none } ∧
    (∃ logged notices reports, (last g.run).records = g.world.records ++ logged ∧
      logged.map Journal.Logging.entryOf = notices ++ reports ∧
      Once g.Notices notices ∧ Once g.Reports reports) ∧
    ∀ (l : Journal.Logging) (r : LogRecord),
      l.threshold Journal.Logging.packageName ≤ Journal.Level.debug.number →
      l.deliver (Journal.Logging.entryOf r) = l.handlersFor r.logger := by
  refine ⟨fun hg hh => ?_, GateCall.outcome_eq_dependency, rfl, g.exists_logged, fun l r hl =>
    Journal.Logging.deliver_entryOf hl r⟩
  rw [GateCall.outcome_eq_dependency.mpr hg, GateCall.outcome_eq_dependency.mpr hh]

def uncheckedCall (trailing : List Value) : GateCall Counters where
  host := Script.host []
  args := .map .dict [(.text "a", .int 1)]
  spec := .map .dict []
  trailing
  called := .text "save"
  settings := some { noValidation := true }
  world := { host := [] }

def uncheckedStage : Stage Counters where
  host := []
  args := .map .dict [(.text "a", .int 1)]
  records := [.checksDisabled (.text "save")]
  params := [(.text "a", .int 1)]

theorem uncheckedCall_reaches {trailing : List Value} {predicates : List Condition}
    (h : List.Forall₂ (fun v c => v.condition? = some c) trailing predicates) :
    (uncheckedCall trailing).Reaches { noValidation := true } predicates uncheckedStage :=
  ⟨h, ⟨_, rfl⟩, ⟨_, rfl⟩, .mapping .dict [(.text "a", .int 1)]⟩

def presentA : Predicate := ⟨0, "all_of", .exactly 1, [.present "a"]⟩

def absentA : Predicate := ⟨1, "none_of", .exactly 0, [.present "a"]⟩

theorem rejection_is_for_the_log_at_either_place :
    outcome (uncheckedCall [.predicate presentA, .predicate absentA]).run =
        outcome (uncheckedCall [.predicate absentA]).run ∧
      (uncheckedCall [.predicate presentA, .predicate absentA]).Rejects 1 (.predicate absentA)
        (.text "save") ∧
      (uncheckedCall [.predicate absentA]).Rejects 0 (.predicate absentA)
        (.text "save") := by
  have hsecond : (uncheckedCall [.predicate presentA, .predicate absentA]).Rejects 1
      (.predicate absentA) (.text "save") :=
    @GateCall.Rejects.falsy _ _ _ [.ofPredicate presentA] [] _ _ _ _ _
      (uncheckedCall_reaches (.cons rfl (.cons rfl .nil))) (.cons rfl .nil) rfl rfl
  have hfirst : (uncheckedCall [.predicate absentA]).Rejects 0 (.predicate absentA)
      (.text "save") :=
    @GateCall.Rejects.falsy _ _ _ [] [] _ _ _ _ _ (uncheckedCall_reaches (.cons rfl .nil)) .nil rfl
      rfl
  exact ⟨(rejection_is_for_the_log_alone _ _).1 ⟨_, _, _, hsecond⟩ ⟨_, _, _, hfirst⟩, hsecond,
    hfirst⟩

end ParamGate
