import ParamGate.Proofs.Acceptance
import ParamGate.Proofs.Alike
import ParamGate.Proofs.Ladder

/-!
Loosening never rejects. A spec that asks for less, under settings that ask for less, accepts
whatever was accepted before and returns the same for it; predicates find all as it was.
-/

namespace ParamGate

open Run

variable {σ : Type} {host : Host σ} {answer : Callable → Value → Entries → Value}

/-- A callback that returns, changes nothing and answers by the value and the parameters alone. -/
def Host.Pure (host : Host σ) (answer : Callable → Value → Entries → Value) (c : Callable) : Prop :=
  ∀ v es s, (host.check c v).run .writable es s = (.ok (answer c v es), es, s)

theorem Host.Pure.answers {c : Callable} (h : host.Pure answer c) : host.Answers answer c :=
  fun v es s => ⟨s, h v es s⟩

def Spec.Pure (host : Host σ) (answer : Callable → Value → Entries → Value) (rules : Spec) : Prop :=
  ∀ q ∈ rules, ∀ cb ∈ q.2.callbacks, host.Pure answer cb.2

/-- The second rule has the default of the first and asks for nothing that the first does not. -/
structure Rule.Loosened (r r' : Rule) : Prop where
  preset : r'.preset = r.preset
  optional : r.optional = true → r'.optional = true
  type : ∀ t', r'.type = some t' → ∃ t u, r.type = some t ∧ t' = t ||| u
  isa : r'.isa = r.isa ∨ r'.isa = none
  regex : r'.regex = r.regex ∨ r'.regex = none
  callbacks : r'.callbacks.Sublist r.callbacks

def Spec.Loosened (rules rules' : Spec) : Prop :=
  List.Forall₂ (fun q q' => q'.1 = q.1 ∧ q.2.Loosened q'.2) rules rules'

structure Settings.Loosened (S S' : Settings) : Prop where
  allowExtra : S.allowExtra = true → S'.allowExtra = true
  noValidation : S.noValidation = true → S'.noValidation = true
  called : S'.called = S.called

theorem Tag.accepts_or_left {t : Tag} (u : Tag) {k : Kind}
    (h : (Tag.ofKind k &&& t).bits ≠ 0) : (Tag.ofKind k &&& (t ||| u)).bits ≠ 0 := by
  rw [← Tag.accepts_iff] at h ⊢
  rw [Tag.accepts_or, h, Bool.true_or]

theorem Rule.Loosened.fits {r r' : Rule} (h : r.Loosened r') {v : Value} (hv : r.Fits v) :
    r'.Fits v := by
  refine ⟨fun t' ht' => ?_, fun c hc => ?_, fun p hp => ?_⟩
  · obtain ⟨t, u, ht, rfl⟩ := h.type t' ht'
    exact Tag.accepts_or_left u (hv.type t ht)
  · rcases h.isa with hi | hi
    · exact hv.isa c (hi ▸ hc)
    · rw [hi] at hc
      cases hc
  · rcases h.regex with hr | hr
    · exact hv.regex p (hr ▸ hp)
    · rw [hr] at hp
      cases hp

theorem Rule.Loosened.meets {r r' : Rule} (h : r.Loosened r') {params : Entries} {v : Value}
    (hv : r.Meets answer params v) : r'.Meets answer params v :=
  ⟨h.fits hv.toFits, fun cb hcb => hv.callbacks cb (h.callbacks.subset hcb)⟩

namespace Spec.Loosened

variable {rules rules' : Spec} (h : rules.Loosened rules')

include h

theorem pure (hp : rules.Pure host answer) : rules'.Pure host answer := by
  intro q' hq' cb hcb
  obtain ⟨q, hq, -, hrule⟩ := exists_of_forall₂ h.flip hq'
  exact hp q hq cb (hrule.callbacks.subset hcb)

theorem accepts {allowExtra allowExtra' : Bool} (hextra : allowExtra = true → allowExtra' = true)
    {params : Entries} (ha : rules.Accepts answer allowExtra params) :
    rules'.Accepts answer allowExtra' params := by
  have hstrict : ∀ q' ∈ rules', ∃ q ∈ rules, q'.1 = q.1 ∧ q.2.Loosened q'.2 :=
    fun q' hq' => exists_of_forall₂ h.flip hq'
  refine ⟨?_, fun q' hq' ho hd => ?_, fun p hp q' hq' hk => ?_⟩
  · rcases ha.listed with hallowed | hlisted
    · exact .inl (hextra hallowed)
    · refine .inr fun p hp => ?_
      obtain ⟨q, hq, hk⟩ := hlisted p hp
      obtain ⟨q', hq', hname, -⟩ := exists_of_forall₂ h hq
      exact ⟨q', hq', hname ▸ hk⟩
  · obtain ⟨q, hq, hname, hrule⟩ := hstrict q' hq'
    have hmandatory : q.2.optional = false := by
      cases hq : q.2.optional with
      | false => rfl
      | true =>
        rw [hrule.optional hq] at ho
        cases ho
    rw [hname]
    exact ha.present q hq hmandatory (hrule.preset ▸ hd)
  · obtain ⟨q, hq, hname, hrule⟩ := hstrict q' hq'
    exact hrule.meets (ha.met p hp q hq (hname ▸ hk))

theorem defaults_eq (params : Entries) : rules'.defaults params = rules.defaults params := by
  unfold defaults
  induction h with
  | nil => rfl
  | cons hq _ ih => rw [List.filterMap_cons, List.filterMap_cons, hq.1, hq.2.preset, ih]

end Spec.Loosened

theorem Spec.Pure.answered {rules : Spec} {spec : Value} (hp : rules.Pure host answer)
    (hr : rules.WrittenAs spec) :
    ∀ rules', Spec.ofValue spec = .ok rules' → rules'.Answered host answer := by
  intro rules' hr' q hq cb hcb
  rw [Spec.ofValue_eq_ok.mpr hr] at hr'
  cases hr'
  exact (hp q hq cb hcb).answers

structure World.SameAsked (w w' : World σ) : Prop where
  args : w'.args = w.args
  host : w'.host = w.host

theorem World.SameAsked.seenAlike : World.SeenAlike (World.SameAsked (σ := σ)) where
  params _ _ h := congrArg Arguments.params h.args
  host _ _ h := h.host
  called _ _ h _ _ := ⟨h.args, rfl⟩
  logged _ _ h _ := ⟨h.args, h.host⟩

instance : IsPreorder (World σ) World.SameAsked where
  refl _ := ⟨rfl, rfl⟩
  trans _ _ _ h h' := ⟨h'.args.trans h.args, h'.host.trans h.host⟩

theorem World.SameAsked.symm {w w' : World σ} (h : w.SameAsked w') : w'.SameAsked w :=
  ⟨h.args.symm, h.host.symm⟩

theorem World.SameAsked.holds {w w' : World σ} (h : w.SameAsked w') {caller : Value}
    {predicates : List Condition} {params : Entries} {s : Stage σ}
    (hs : checkPredicates host caller 0 predicates { w with params := params } = .ok () s) :
    ∃ s', checkPredicates host caller 0 predicates { w' with params := params } = .ok () s' := by
  have hstages : Stage.Over World.SameAsked { w with params := params }
      { w' with params := params } := ⟨h, rfl⟩
  have hout := (predicates_alike World.SameAsked.seenAlike host caller predicates _ _ hstages).1
  rw [hs] at hout
  exact outcome_eq_ok.mp hout.symm

def Stage.SameAsked (s s' : Stage σ) : Prop := World.SameAsked s.toWorld s'.toWorld

instance : IsPreorder (Stage σ) Stage.SameAsked where
  refl s := refl_of World.SameAsked s.toWorld
  trans _ _ _ h h' := trans_of World.SameAsked h h'

theorem Spec.Pure.keeps {rules : Spec} {spec : Value} (hp : rules.Pure host answer)
    (hr : rules.WrittenAs spec) (S : Settings) (caller : Value) :
    Keeps World.SameAsked (validateUnder host S caller spec) := by
  refine validateUnder_keeps_of (fun r w => ⟨rfl, rfl⟩) fun rules' params w hr' => ?_
  rw [Spec.ofValue_eq_ok.mpr hr] at hr'
  cases hr'
  have hchecks : Keeps Stage.SameAsked (rules.checkValues host caller) := by
    apply Spec.checkValues_keeps
    intro q hq cb hcb v s
    rw [Stage.check, Stage.last_perform, hp q hq cb hcb v s.params s.host]
    exact ⟨rfl, rfl⟩
  exact hchecks { w with params := params }

section Runs

variable {args spec spec' called : Value} {settings settings' : Option Settings} {S S' : Settings}
  {w w' : World σ} {rules rules' : Spec}

theorem Settings.Loosened.caller_eq (h : S.Loosened S') (called : Value) :
    Arguments.caller called S' = Arguments.caller called S := by
  rw [Arguments.caller, Arguments.caller, h.called]

theorem validateUnder_of_loosened (hr : rules.WrittenAs spec) (hr' : rules'.WrittenAs spec')
    (hl : rules.Loosened rules') (hp : rules.Pure host answer) (hS : S.Loosened S')
    {caller : Value} {result : Entries} {t : World σ}
    (h : validateUnder host S caller spec w = .ok result t) (hargs : w'.args = w.args) :
    ∃ t', validateUnder host S' caller spec' w' = .ok result t' := by
  have hverdict : verdict answer S caller w.args spec = .ok result := by
    rw [← outcome_validateUnder (hp.answered hr), h]
    rfl
  obtain ⟨rs, hrs, params, hparams, haccepted, hresult⟩ := verdict_eq_ok.mp hverdict
  rw [← Spec.ofValue_eq_ok, Spec.ofValue_eq_ok.mpr hr] at hrs
  cases hrs
  have hverdict' : verdict answer S' caller w'.args spec' = .ok result := by
    rw [hargs, verdict_eq_ok]
    refine ⟨rules', hr', params, hparams, ?_, by rw [hl.defaults_eq, hresult]⟩
    rcases haccepted with hoff | haccepts
    · exact .inl (hS.noValidation hoff)
    · exact .inr (hl.accepts hS.allowExtra haccepts)
  rw [← outcome_validateUnder ((hl.pure hp).answered hr')] at hverdict'
  exact outcome_eq_ok.mp hverdict'

/-- Where callbacks are pure, what is returned under a spec and settings is returned under looser
ones too, entry by entry, and what the gate lets through with some predicates it still lets through
with them. -/
theorem loosening_never_rejects {w₀ w₀' : World σ} (hr : rules.WrittenAs spec)
    (hr' : rules'.WrittenAs spec') (hl : rules.Loosened rules') (hp : rules.Pure host answer)
    (hS : World.settings settings w = .ok S w₀) (hS' : World.settings settings' w' = .ok S' w₀')
    (hloose : S.Loosened S') (hhost : w'.host = w.host) (args : Value) (trailing : List Value)
    (called : Value) :
    (∀ result t, validateParams host args spec called settings w = .ok result t →
        ∃ t', validateParams host args spec' called settings' w' = .ok result t') ∧
      ∀ t, validate host args spec trailing called settings w = .ok () t →
        ∃ t', validate host args spec' trailing called settings' w' = .ok () t' := by
  have hs := World.settings_receive hS args
  have hs' := World.settings_receive hS' args
  constructor
  · intro result t h
    rw [validateParams_of_settings hs] at h
    rw [validateParams_of_settings hs', hloose.caller_eq]
    exact validateUnder_of_loosened hr hr' hl hp hloose h rfl
  · intro t h
    obtain ⟨predicates, S₁, w₁, result, w₂, params, s, hread, hs₁, hv, ha, hc, rfl⟩ :=
      validate_eq_ok.mp h
    rw [hs] at hs₁
    cases hs₁
    have hname := hloose.caller_eq called
    obtain ⟨w₂', hv'⟩ : ∃ t', validateUnder host S' (Arguments.caller called S') spec'
        { w₀' with args := args } = .ok result t' := by
      rw [hname]
      exact validateUnder_of_loosened hr hr' hl hp hloose hv rfl
    obtain ⟨cached, hw₀⟩ := World.settings_of_ok hS
    obtain ⟨cached', hw₀'⟩ := World.settings_of_ok hS'
    have hstart : World.SameAsked { w₀ with args := args } { w₀' with args := args } := by
      rw [hw₀, hw₀']
      exact ⟨rfl, hhost⟩
    -- Both screenings leave what predicates are asked about, so these answer alike.
    have hleft := (hp.keeps hr S (Arguments.caller called S)).of_ok hv
    have hright := ((hl.pure hp).keeps hr' S' (Arguments.caller called S')).of_ok hv'
    have hsame : World.SameAsked w₂ w₂' :=
      trans_of World.SameAsked hleft.symm (trans_of World.SameAsked hstart hright)
    obtain ⟨s', hs₂⟩ := hsame.holds hc
    rw [← hname] at hs₂
    exact ⟨s'.toWorld, validate_eq_ok.mpr
      ⟨predicates, S', _, result, w₂', params, s', hread, hs', hv', ha, hs₂, rfl⟩⟩

end Runs

def unpairedRules : Spec :=
  [(.text "a", { type := some ⟨5⟩, optional := true, given := [.type, .optional] }),
    (.text "c", { preset := some .null, given := [.default] }), (.text "b", .mandatory false)]

theorem unpairedRules_writtenAs : unpairedRules.WrittenAs unpairedRules.toValue :=
  Spec.ofValue_eq_ok.mp rfl

theorem pairedRules_loosened : pairedRules.Loosened unpairedRules := by
  refine .cons ⟨rfl, ?_⟩ (.cons ⟨rfl, ?_⟩ (.cons ⟨rfl, ?_⟩ .nil))
  · refine ⟨rfl, nofun, ?_, .inl rfl, .inl rfl, List.nil_sublist _⟩
    rintro t' ⟨⟩
    exact ⟨⟨1⟩, ⟨4⟩, rfl, rfl⟩
  · exact ⟨rfl, id, nofun, .inl rfl, .inl rfl, List.Sublist.refl _⟩
  · exact ⟨rfl, nofun, nofun, .inl rfl, .inl rfl, List.Sublist.refl _⟩

theorem pairedRules_pure : pairedRules.Pure pairedHost hasB := by
  intro q hq cb hcb v es s
  obtain rfl := eq_of_mem_pairedRules hq hcb
  rfl

/-- A flat call that passes with `a` and `b` paired returns the same with less asked. -/
theorem loosening_never_rejects_flat_call :
    ∃ result t t',
      validateParams pairedHost (.list [.text "b", .null, .text "a", .int 2]) pairedSpec .null
          (some {}) { host := [] } = .ok result t ∧
        validateParams pairedHost (.list [.text "b", .null, .text "a", .int 2])
          unpairedRules.toValue .null (some { allowExtra := true }) { host := [] } =
            .ok result t' := by
  have hnames : pairedRules.nameFault? false [(.text "b", .null), (.text "a", .int 2)] = none := by
    apply Spec.nameFault?_eq_none.mpr
    refine ⟨.inr (Spec.unlisted_eq_nil.mpr ?_), rfl⟩
    simp [pairedRules]
  have hstrict : ∃ result t,
      validateParams pairedHost (.list [.text "b", .null, .text "a", .int 2]) pairedSpec .null
        (some {}) { host := [] } = .ok result t := by
    rw [validateParams_of_settings rfl]
    exact ⟨_, _, (validateUnder_eq_ok rfl).mpr ⟨_, _, _, rfl, rfl, hnames, rfl, rfl, rfl⟩⟩
  obtain ⟨result, t, h⟩ := hstrict
  have hS : ∀ S : Settings, World.settings (some S) ({ host := [] } : World Counters) =
      .ok S { host := [] } := fun _ => rfl
  have hloose : Settings.Loosened {} { allowExtra := true } := ⟨fun _ => rfl, id, rfl⟩
  obtain ⟨t', h'⟩ := (loosening_never_rejects pairedRules_writtenAs unpairedRules_writtenAs
    pairedRules_loosened pairedRules_pure (hS {}) (hS { allowExtra := true }) hloose rfl _ []
    .null).1 result t h
  exact ⟨result, t, t', h, h'⟩

end ParamGate
