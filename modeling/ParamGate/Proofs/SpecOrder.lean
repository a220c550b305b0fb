import Mathlib.Data.List.Perm.Basic
import ParamGate.Proofs.Precedence

/-!
The order of the spec. It decides neither what is accepted nor which values a result has for which
names; what is reported depends on it only where rules compete to be the first at fault.
-/

namespace ParamGate

open Run

variable {σ : Type} {answer : Callable → Value → Entries → Value}

namespace Spec

variable {rules rules' : Spec} {params : Entries} (h : rules.Perm rules')

include h

theorem lists_of_perm (name : Value) : rules'.lists name = rules.lists name := h.symm.any_eq

theorem unlisted_of_perm : rules'.unlisted params = rules.unlisted params := by
  unfold unlisted
  simp only [lists_of_perm h]

theorem unlistedFault_of_perm : rules'.unlistedFault params = rules.unlistedFault params := by
  unfold unlistedFault
  simp only [lists_of_perm h, unlisted_of_perm h]

theorem missing_perm (params : Entries) : (rules.missing params).Perm (rules'.missing params) :=
  (h.filter _).map _

theorem verdict_eq_none_of_perm (hd : Entries.Distinct params)
    (hv : rules.verdict answer params = none) : rules'.verdict answer params = none := by
  rw [verdict_eq_none hd] at hv ⊢
  exact fun p hp q hq => hv p hp q (h.mem_iff.mpr hq)

theorem reordered_fillDefaults_of_perm (hd : Entries.Distinct params) (hk : rules.keys.Nodup) :
    (rules.fillDefaults params).Reordered (rules'.fillDefaults params) := by
  have hk' : rules'.keys.Nodup := (h.map _).nodup_iff.mp hk
  refine ⟨distinct_fillDefaults hd rules, ?_⟩
  rw [fillDefaults_eq hk, fillDefaults_eq hk']
  exact (h.filterMap _).append_left params

/-- What a spec finds wrong with parameters in one order of its rules and in another. Only the rules
that are at fault one by one compete to be the first. -/
inductive FaultedAlike (rules : Spec) (params : Entries) :
    Option ArgumentFault → Option ArgumentFault → Prop
  | none : FaultedAlike rules params none none
  | same (f : ArgumentFault) : FaultedAlike rules params (some f) (some f)
  | missing {names names' : List Value} (h : names.Perm names') :
    FaultedAlike rules params (some (.missing names)) (some (.missing names'))
  | check {name name' v v' : Value} {g g' : CheckFault}
    (hn : name ∈ rules.names) (hv : Entries.find? params name = some v)
    (hn' : name' ∈ rules.names) (hv' : Entries.find? params name' = some v') :
    FaultedAlike rules params (some (.check name v g)) (some (.check name' v' g'))

omit h in
theorem mem_names_of_verdict {f : ArgumentFault} (hv : rules.verdict answer params = some f) :
    ∃ name v g, f = .check name v g ∧ name ∈ rules.names ∧
      Entries.find? params name = some v := by
  obtain ⟨before, name, r, after, v, g, rfl, -, hfind, -, rfl⟩ := verdict_eq_some.mp hv
  refine ⟨name, v, g, rfl, ?_, hfind⟩
  exact List.mem_map_of_mem (List.mem_append_right before List.mem_cons_self)

theorem verdict_faultedAlike (hd : Entries.Distinct params) :
    FaultedAlike rules params (rules.verdict answer params) (rules'.verdict answer params) := by
  cases hv : rules.verdict answer params with
  | none =>
    rw [verdict_eq_none_of_perm h hd hv]
    exact .none
  | some f =>
    cases hv' : rules'.verdict answer params with
    | none =>
      rw [verdict_eq_none_of_perm h.symm hd hv'] at hv
      cases hv
    | some f' =>
      obtain ⟨_, _, _, rfl, hn, hfind⟩ := mem_names_of_verdict hv
      obtain ⟨_, _, _, rfl, hn', hfind'⟩ := mem_names_of_verdict hv'
      exact .check hn hfind ((h.map _).mem_iff.mpr hn') hfind'

theorem fault?_faultedAlike (hd : Entries.Distinct params) (S : Settings) :
    FaultedAlike rules params (rules.fault? answer S params) (rules'.fault? answer S params) := by
  have hmissing := missing_perm h params
  unfold fault? nameFault?
  rw [unlisted_of_perm h, unlistedFault_of_perm h]
  cases S.noValidation with
  | true => exact .none
  | false =>
    rw [if_neg Bool.false_ne_true, if_neg Bool.false_ne_true]
    by_cases hu : (if S.allowExtra then [] else rules.unlisted params) = []
    · by_cases hm : rules.missing params = []
      · have hm' : rules'.missing params = [] := (hm ▸ hmissing).nil_eq.symm
        simp only [hu, hm, hm', ne_eq, not_true_eq_false, if_false, Option.none_or]
        exact verdict_faultedAlike h hd
      · have hm' : rules'.missing params ≠ [] := fun hnil => hm (hnil ▸ hmissing).eq_nil
        simp only [hu, hm, hm', ne_eq, not_true_eq_false, not_false_eq_true, if_false, if_true,
          Option.some_or]
        exact .missing hmissing
    · simp only [hu, ne_eq, not_false_eq_true, if_true, Option.some_or]
      exact .same _

omit h

theorem ofEntries_of_perm {es es' : Entries} (hes : es.Perm es') (hr : ofEntries es = .ok rules) :
    ∃ rules', ofEntries es' = .ok rules' ∧ rules.Perm rules' := by
  obtain ⟨rules', hr', hperm⟩ := List.perm_comp_forall₂ hes.symm (ofEntries_eq_ok.mp hr)
  exact ⟨rules', ofEntries_eq_ok.mpr hr', hperm.symm⟩

theorem ofValue_of_distinct {es : Entries} (hd : Entries.Distinct es) (kind : MapKind) :
    ofValue (.map kind es) = ofEntries es := by
  show ofEntries (Entries.ofPairs es) = ofEntries es
  rw [Entries.ofPairs_of_distinct hd]

theorem WrittenAs.of_reordered {es es' : Entries} (hes : es.Reordered es') {kind kind' : MapKind}
    (h : rules.WrittenAs (.map kind es)) :
    ∃ rules' : Spec, rules'.WrittenAs (.map kind' es') ∧ rules.Perm rules' := by
  have hread : ofEntries es = .ok rules := by
    rw [← ofValue_of_distinct hes.distinct kind]
    exact ofValue_eq_ok.mpr h
  obtain ⟨rules', hread', hperm⟩ := ofEntries_of_perm hes.perm hread
  rw [← ofValue_of_distinct hes.symm.distinct kind'] at hread'
  exact ⟨rules', ofValue_eq_ok.mp hread', hperm⟩

end Spec

/-- A name of a spec has a value in the arguments. -/
def Entries.Judges (es : Entries) (args name v : Value) : Prop :=
  name ∈ es.names ∧
    ∃ params, Arguments.params args = .ok params ∧ Entries.find? params name = some v

/-- What a validation comes to under one order of a spec's entries and under another. -/
inductive JudgedAlike (args : Value) (es es' : Entries) :
    Except Failure Entries → Except Failure Entries → Prop
  | returned {result result' : Entries} (h : result.Reordered result') :
    JudgedAlike args es es' (.ok result) (.ok result')
  | unsettled (faults : List Fault) :
    JudgedAlike args es es' (.error (.settings faults)) (.error (.settings faults))
  | same (caller : Value) (f : ArgumentFault) :
    JudgedAlike args es es' (.error (.arguments caller f)) (.error (.arguments caller f))
  | misread {f f' : SpecFault} (hf : Spec.ofEntries es = .error f)
    (hf' : Spec.ofEntries es' = .error f') :
    JudgedAlike args es es' (.error (.spec f)) (.error (.spec f'))
  | missing {caller : Value} {names names' : List Value} (h : names.Perm names') :
    JudgedAlike args es es' (.error (.arguments caller (.missing names)))
      (.error (.arguments caller (.missing names')))
  | check {caller : Value} {name name' v v' : Value} {g g' : CheckFault}
    (h : es.Judges args name v) (h' : es.Judges args name' v') :
    JudgedAlike args es es' (.error (.arguments caller (.check name v g)))
      (.error (.arguments caller (.check name' v' g')))

theorem verdict_judgedAlike {es es' : Entries} (hes : es.Reordered es') (kind kind' : MapKind)
    (S : Settings) (caller : Value) (args : Value) :
    JudgedAlike args es es' (verdict answer S caller args (.map kind es))
      (verdict answer S caller args (.map kind' es')) := by
  unfold verdict
  rw [Spec.ofValue_of_distinct hes.distinct, Spec.ofValue_of_distinct hes.symm.distinct]
  cases hs : Spec.ofEntries es with
  | error f =>
    cases hs' : Spec.ofEntries es' with
    | error f' => exact .misread hs hs'
    | ok rules' =>
      obtain ⟨rules, hr, -⟩ := Spec.ofEntries_of_perm hes.symm.perm hs'
      rw [hs] at hr
      cases hr
  | ok rules =>
    obtain ⟨rules', hs', hrules⟩ := Spec.ofEntries_of_perm hes.perm hs
    rw [hs']
    cases ha : Arguments.params args with
    | error f => exact .same _ _
    | ok params =>
      have hd := (Arguments.params_eq_ok.mp ha).distinct
      have hk : rules.keys.Nodup := by
        rw [← Spec.ofValue_of_distinct hes.distinct kind] at hs
        exact (Spec.ofValue_eq_ok.mp hs).nodup_keys
      have hnames : rules.names = es.names := Spec.names_of_ofEntries hs
      have hfaults : Spec.FaultedAlike rules params (rules.fault? answer S params)
          (rules'.fault? answer S params) := Spec.fault?_faultedAlike hrules hd S
      dsimp only
      generalize rules.fault? answer S params = f at hfaults
      generalize rules'.fault? answer S params = f' at hfaults
      cases hfaults with
      | none => exact .returned (Spec.reordered_fillDefaults_of_perm hrules hd hk)
      | same f => exact .same _ _
      | missing h => exact .missing h
      | check hn hv hn' hv' =>
        rw [hnames] at hn hn'
        exact .check ⟨hn, params, ha, hv⟩ ⟨hn', params, ha, hv'⟩

/-- A mapping of fields in which a limit is passed: one of the patterns, or of a text that is due.
That is no error of the spec. -/
def Value.PassesLimit (v : Value) : Prop :=
  ∃ kind fields, v = .map kind fields ∧
    ((∃ flaw, Rule.fatalFlaw? fields = some flaw) ∨
      ∃ faults, Rule.collect fields = .error faults ∧
        ∃ f ∈ faults, f.complaint.isListed = false)

/-- No limit is passed by the rules of a spec, by their names or by the values that these are
given. -/
structure Entries.Unlimited (es : Entries) (args : Value) : Prop where
  rules : ∀ p ∈ es, ¬ p.2.PassesLimit
  names : ∀ name ∈ es.names, name.hasText = true
  values : ∀ name v, es.Judges args name v → v.hasText = true

namespace Report

theorem showing_agree {vs vs' : List Value} (h : vs.Perm vs') {r r' : Report} {c : String}
    (hr : r.className = c) (hr' : r'.className = c) :
    (showing vs r).className = (showing vs' r').className ∧
      ((showing vs r).className = c ∨ showing vs r = showing vs' r') := by
  unfold showing
  rw [h.all_eq]
  split
  · exact ⟨hr.trans hr'.symm, .inl hr⟩
  · exact ⟨rfl, .inr rfl⟩

end Report

theorem Spec.className_of_misread {es : Entries} {f : SpecFault} (hf : ofEntries es = .error f)
    (hl : ∀ p ∈ es, ¬ p.2.PassesLimit) (hn : ∀ name ∈ es.names, name.hasText = true) :
    f.report.className = "ParamSpecError" := by
  obtain ⟨before, name, v, after, rfl, -, hv⟩ := ofEntries_eq_error.mp hf
  have hmem : (name, v) ∈ before ++ (name, v) :: after :=
    List.mem_append_right _ List.mem_cons_self
  have hlv : ¬ v.PassesLimit := hl (name, v) hmem
  have htext : ∀ u ∈ [name], u.hasText = true :=
    List.forall_mem_singleton.mpr (hn name (List.mem_map_of_mem hmem))
  have hmisread := Rule.misread_iff.mpr ⟨f, hv, rfl⟩
  generalize f.report = report at hmisread
  cases hmisread with
  | notRule =>
    rw [Report.showing_of_texts htext]
  | @fields kind fields faults hflaw hfaults =>
    have hlisted : ∀ g ∈ faults, g.complaint.isListed = true := by
      intro g hg
      by_contra hlong
      rw [Bool.not_eq_true] at hlong
      exact hlv ⟨kind, fields, rfl, .inr ⟨faults, hfaults, g, hg, hlong⟩⟩
    rw [Report.listing_of_listed hlisted, Report.showing_of_texts htext]
  | @limit kind fields u flaw hu hflaw hfatal =>
    have hfatal := Rule.fatalFlaw?_eq_some.mpr ⟨u, hu, hflaw, hfatal⟩
    exact absurd ⟨kind, fields, rfl, .inl ⟨flaw, hfatal⟩⟩ hlv

/-- What the failures under two orders of a spec's entries have in common. -/
structure Failure.Agree (args : Value) (es : Entries) (e e' : Failure) : Prop where
  spec : (∃ f, e = .spec f) ↔ ∃ f, e' = .spec f
  className : es.Unlimited args → e.report.className = e'.report.className ∧
    (e.report.className = "ParamSpecError" ∨ e.report.className = "ParamsValidationError" ∨
      e.report = e'.report)
  whole : ∀ caller f, (∀ names, f ≠ .missing names) → (∀ name v g, f ≠ .check name v g) →
    (e = .arguments caller f ↔ e' = .arguments caller f)
  missing : ∀ caller names, e = .arguments caller (.missing names) →
    ∃ names', e' = .arguments caller (.missing names') ∧ names.Perm names'
  missing_symm : ∀ caller names', e' = .arguments caller (.missing names') →
    ∃ names, e = .arguments caller (.missing names) ∧ names.Perm names'

theorem Failure.Agree.refl {args : Value} {es : Entries} (e : Failure) : e.Agree args es e :=
  ⟨.rfl, fun _ => ⟨rfl, .inr (.inr rfl)⟩, fun _ _ _ _ => .rfl,
    fun _ names h => ⟨names, h, .refl _⟩, fun _ names h => ⟨names, h, .refl _⟩⟩

theorem JudgedAlike.agree {args : Value} {es es' : Entries} (hes : es.Reordered es')
    {e e' : Failure} (h : JudgedAlike args es es' (.error e) (.error e')) :
    e.Agree args es e' := by
  cases h with
  | unsettled faults => exact .refl _
  | same caller f => exact .refl _
  | @misread f f' hf hf' =>
    refine ⟨⟨fun _ => ⟨f', rfl⟩, fun _ => ⟨f, rfl⟩⟩, fun hl => ?_, ?_, nofun, nofun⟩
    · have hrules : ∀ p ∈ es', ¬ p.2.PassesLimit :=
        fun p hp => hl.rules p (hes.perm.mem_iff.mpr hp)
      have hnames : ∀ name ∈ es'.names, name.hasText = true :=
        fun name hn => hl.names name ((hes.perm.map _).mem_iff.mpr hn)
      have hname := Spec.className_of_misread hf hl.rules hl.names
      have hname' := Spec.className_of_misread hf' hrules hnames
      exact ⟨hname.trans hname'.symm, .inl hname⟩
    · exact fun _ _ _ _ => ⟨nofun, nofun⟩
  | @missing caller names names' h =>
    refine ⟨⟨nofun, nofun⟩, fun _ => ?_, fun _ f hm _ => ?_, ?_, ?_⟩
    · exact And.imp_right .inr (Report.showing_agree (h.cons caller) rfl rfl)
    · constructor <;> (intro he; cases he)
      · exact absurd rfl (hm names)
      · exact absurd rfl (hm names')
    · intro _ _ he
      cases he
      exact ⟨names', rfl, h⟩
    · intro _ _ he
      cases he
      exact ⟨names, rfl, h⟩
  | @check caller name name' v v' g g' h h' =>
    refine ⟨⟨nofun, nofun⟩, fun hl => ?_, fun _ f _ hc => ?_, nofun, nofun⟩
    · have htexts : ∀ u ∈ [name, v], u.hasText = true := by
        simp [hl.names _ h.1, hl.values _ _ h]
      have htexts' : ∀ u ∈ [name', v'], u.hasText = true := by
        simp [hl.names _ h'.1, hl.values _ _ h']
      rw [Failure.report, Failure.report, ArgumentFault.report_check, ArgumentFault.report_check,
        Report.showing_cons_of_texts htexts, Report.showing_cons_of_texts htexts']
      exact And.imp_right .inr (Report.showing_agree (.refl [caller]) rfl rfl)
    · constructor <;> (intro he; cases he)
      · exact absurd rfl (hc name v g)
      · exact absurd rfl (hc name' v' g')

section Calls

variable {host : Host σ} {es es' : Entries} {kind : MapKind}

theorem validateParams_judgedAlike (hes : es.Reordered es')
    (hc : ∀ rules : Spec, rules.WrittenAs (.map kind es) → rules.Answered host answer)
    (kind' : MapKind) (args called : Value) (settings : Option Settings) (w : World σ) :
    JudgedAlike args es es' (outcome (validateParams host args (.map kind es) called settings w))
      (outcome (validateParams host args (.map kind' es') called settings w)) := by
  have hc' : ∀ rules : Spec, rules.WrittenAs (.map kind' es') → rules.Answered host answer := by
    intro rules' hr' q hq
    obtain ⟨rules, hr, hperm⟩ := hr'.of_reordered hes.symm
    exact hc rules hr q (hperm.mem_iff.mp hq)
  cases hs : World.settings settings w with
  | ok S w₀ =>
    rw [outcome_validateParams hs hc, outcome_validateParams hs hc']
    exact verdict_judgedAlike hes kind kind' S _ args
  | error e t =>
    obtain ⟨-, -, faults, -, rfl, -⟩ := World.settings_eq_error.mp hs
    have hunsettled := World.settings_receive_of_error hs args
    rw [validateParams_of_unsettled hunsettled, validateParams_of_unsettled hunsettled]
    exact .unsettled faults

/-- Whichever way the entries of a spec are ordered, a validation returns for the same calls, the
same mappings. Where it fails, it fails at the same stage: with an error of the spec in both cases,
with the same complaint about the arguments as a whole or the names without a rule, with the same
names missing, or over some value. The errors are of one class if no limit is passed by the rules of
the spec, their names or the values these are given. -/
theorem order_of_spec_decides_no_acceptance (hes : es.Reordered es')
    (hc : ∀ rules : Spec, rules.WrittenAs (.map kind es) → rules.Answered host answer)
    (kind' : MapKind) (args called : Value) (settings : Option Settings) (w : World σ) :
    ((∃ result, outcome (validateParams host args (.map kind es) called settings w) =
        .ok result) ↔
      ∃ result, outcome (validateParams host args (.map kind' es') called settings w) =
        .ok result) ∧
      (∀ result result',
        outcome (validateParams host args (.map kind es) called settings w) = .ok result →
        outcome (validateParams host args (.map kind' es') called settings w) = .ok result' →
        result.Reordered result') ∧
      ∀ e e', outcome (validateParams host args (.map kind es) called settings w) = .error e →
        outcome (validateParams host args (.map kind' es') called settings w) = .error e' →
        e.Agree args es e' := by
  have hjudged := validateParams_judgedAlike hes hc kind' args called settings w
  generalize outcome (validateParams host args (.map kind es) called settings w) = r at hjudged ⊢
  generalize outcome (validateParams host args (.map kind' es') called settings w) = r' at hjudged ⊢
  refine ⟨?_, ?_, ?_⟩
  · cases hjudged <;> simp
  · rintro result result' rfl rfl
    cases hjudged with
    | returned h => exact h
  · rintro e e' rfl rfl
    exact hjudged.agree hes

end Calls

/-- The spec in three notations the other way round. -/
def reversedSpec : Value :=
  .map .dict [(.text "b", .bool true),
    (.text "c", .rule { preset := some .null, given := [.default] }),
    (.text "a", .map .dict [(.text "type", .int 1),
      (.text "callbacks", .map .dict [(.text "with b", .function (.named 7 "f"))])])]

/-- A call without parameters, which lacks two names under either order. -/
theorem order_of_spec_decides_no_acceptance_of_empty_call :
    (∃ es es', pairedSpec = .map .dict es ∧ reversedSpec = .map .dict es' ∧
        Entries.Reordered es es') ∧
      (∀ rules : Spec, rules.WrittenAs pairedSpec → rules.Answered pairedHost hasB) ∧
      ∃ names, names.Perm [.text "a", .text "b"] ∧
        outcome (validateParams pairedHost (.map .dict []) reversedSpec .null (some {})
          { host := [] }) = .error (.arguments (.text "N/A") (.missing names)) := by
  have hes : Entries.Reordered
      [(.text "a", .map .dict [(.text "type", .int 1),
          (.text "callbacks", .map .dict [(.text "with b", .function (.named 7 "f"))])]),
        (.text "c", .rule { preset := some .null, given := [.default] }), (.text "b", .bool true)]
      [(.text "b", .bool true), (.text "c", .rule { preset := some .null, given := [.default] }),
        (.text "a", .map .dict [(.text "type", .int 1),
          (.text "callbacks", .map .dict [(.text "with b", .function (.named 7 "f"))])])] :=
    ⟨by simp [Entries.Distinct, Entries.keys], (List.reverse_perm _).symm⟩
  have hanswered : ∀ rules : Spec, rules.WrittenAs pairedSpec → rules.Answered pairedHost hasB :=
    fun _ => pairedRules_answered
  obtain ⟨hreturns, -, hfails⟩ := order_of_spec_decides_no_acceptance hes hanswered .dict
    (.map .dict []) .null (some {}) { host := [] }
  have hexamined : Examined {} (.map .dict []) pairedSpec pairedRules [] :=
    ⟨pairedRules_writtenAs, .mapping .dict [], rfl⟩
  have hmissing : pairedRules.nameFault? false [] = some (.missing [.text "a", .text "b"]) :=
    Spec.nameFault?_eq_some.mpr
      (.inr ⟨.inr (Spec.unlisted_eq_nil.mpr (List.forall_mem_nil _)), List.cons_ne_nil _ _, rfl⟩)
  have hfirst : outcome (validateParams pairedHost (.map .dict []) pairedSpec .null (some {})
      { host := [] }) = .error (.arguments (.text "N/A") (.missing [.text "a", .text "b"])) :=
    (outcome_validateParams rfl hanswered _ _).trans
      (verdict_eq_error.mpr (.inr (.inr ⟨_, _, _, hexamined, .inl hmissing, rfl⟩)))
  refine ⟨⟨_, _, rfl, rfl, hes⟩, hanswered, ?_⟩
  cases hsecond : outcome (validateParams pairedHost (.map .dict []) reversedSpec .null (some {})
      { host := [] }) with
  | ok result =>
    obtain ⟨result', hr⟩ := hreturns.mpr ⟨result, hsecond⟩
    have hboth := hfirst.symm.trans hr
    cases hboth
  | error e =>
    obtain ⟨names, rfl, hperm⟩ := (hfails _ e hfirst hsecond).missing _ _ rfl
    exact ⟨names, hperm.symm, rfl⟩

/-- Of a rule whose pattern passes a limit and a value that is no rule, the one that comes first
decides whether the failure is an error of the spec. -/
theorem order_of_spec_decides_class_of_overlong_rule :
    ∃ e e', outcome (validateParams pairedHost (.map .dict [])
          (.map .dict [(.text "a", overlongRule), (.text "b", .int 5)]) .null (some {})
          { host := [] }) = .error e ∧
      outcome (validateParams pairedHost (.map .dict [])
          (.map .dict [(.text "b", .int 5), (.text "a", overlongRule)]) .null (some {})
          { host := [] }) = .error e' ∧
      e.report.className = "OverflowError" ∧ e'.report.className = "ParamSpecError" := by
  have hfirst : Spec.ofValue (.map .dict [(.text "a", overlongRule), (.text "b", .int 5)]) =
      .error (.malformed (.text "a") (.pattern .manyRepeats)) :=
    Spec.ofValue_eq_error.mpr (.inr ⟨.dict, _, rfl, Spec.ofEntries_eq_error.mpr
      ⟨[], _, _, _, rfl, by simp, ofValue_overlongRule (.text "a")⟩⟩)
  refine ⟨.spec (.malformed (.text "a") (.pattern .manyRepeats)),
    .spec (.notRule (.text "b") "int"), ?_, rfl, rfl, rfl⟩
  rw [validateParams_of_settings (S := {}) rfl, validateUnder, hfirst]
  rfl

end ParamGate
