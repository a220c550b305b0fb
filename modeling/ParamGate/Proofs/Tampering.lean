import ParamGate.Proofs.Acceptance
import ParamGate.Proofs.PhaseTwo

/-!
What callbacks can talk a call out of. The checks of a rule are about the value that the mapping
holds when the rule's turn comes. They speak for what the caller passed iff the callbacks of earlier
rules have left that value in place, or the rule has no callbacks and the value fits anyhow.
-/

namespace ParamGate

open Run

variable {σ : Type} {host : Host σ}

/-- A check of a value by a function, which answered something true. -/
structure Call.Passes (c : Callable) (v : Value) (call : Call) : Prop where
  callee : call.callee = c
  value : call.value = some v
  passed : ∃ a, call.outcome = .ok a ∧ a.truthy = true

theorem Stage.check_eq_ok {c : Callable} {v a : Value} {s t : Stage σ}
    (h : Stage.check host c v s = .ok a t) :
    ∃ call, t.calls = s.calls ++ [call] ∧ call.callee = c ∧ call.value = some v ∧
      call.outcome = .ok a := by
  unfold Stage.check Stage.perform at h
  rcases hr : (host.check c v).run .writable s.params s.host with ⟨outcome, es, hs⟩
  rw [hr] at h
  cases outcome with
  | error e => cases h
  | ok b =>
    cases h
    exact ⟨_, rfl, rfl, rfl, rfl⟩

namespace Rule

/-- The value fits the rule, and each callback is among the calls that passed it. -/
structure Vouched (calls : List Call) (r : Rule) (v : Value) : Prop extends r.Fits v where
  callbacks : ∀ cb ∈ r.callbacks, ∃ call ∈ calls, call.Passes cb.2 v

theorem Vouched.mono {calls calls' : List Call} {r : Rule} {v : Value} (h : r.Vouched calls v)
    (hsub : ∀ call ∈ calls, call ∈ calls') : r.Vouched calls' v := by
  refine ⟨h.toFits, fun cb hcb => ?_⟩
  obtain ⟨call, hc, hpass⟩ := h.callbacks cb hcb
  exact ⟨call, hsub call hc, hpass⟩

/-- The calls of a rule's turn, by what the mapping holds for its name: none if it holds nothing,
else one for each callback, in favour of a value that fits. -/
inductive Turn (r : Rule) : List Call → Option Value → Prop
  | skipped : Turn r [] none
  | checked {u : Value} {calls : List Call} (fits : r.Fits u)
    (passed : List.Forall₂ (fun cb call => call.Passes cb.2 u) r.callbacks calls) :
    Turn r calls (some u)

theorem passed_of_failingCallback {v : Value} {callbacks : List (String × Callable)}
    {s t : Stage σ} (h : failingCallback host v callbacks s = .ok none t) :
    ∃ turn, t.calls = s.calls ++ turn ∧
      List.Forall₂ (fun cb call => Call.Passes cb.2 v call) callbacks turn := by
  induction callbacks generalizing s with
  | nil =>
    cases h
    exact ⟨[], (List.append_nil _).symm, .nil⟩
  | cons cb rest ih =>
    rcases cb with ⟨label, c⟩
    obtain ⟨a, u, ha, h⟩ := bind_eq_ok.mp h
    obtain ⟨call, hc, hcallee, hvalue, hout⟩ := Stage.check_eq_ok ha
    cases htrue : a.truthy with
    | false =>
      rw [htrue] at h
      cases h
    | true =>
      rw [htrue] at h
      obtain ⟨turn, ht, hpassed⟩ := ih h
      have hpass : call.Passes c v := ⟨hcallee, hvalue, a, hout, htrue⟩
      refine ⟨call :: turn, ?_, .cons hpass hpassed⟩
      rw [ht, hc, List.append_assoc, List.singleton_append]

theorem turn_of_fault? {r : Rule} {v : Value} {s t : Stage σ}
    (h : r.fault? host v s = .ok none t) :
    ∃ turn, t.calls = s.calls ++ turn ∧ r.Turn turn (some v) := by
  unfold fault? at h
  cases hf : r.staticFault? v with
  | some f =>
    rw [hf] at h
    cases h
  | none =>
    rw [hf] at h
    obtain ⟨failing, u, hc, h⟩ := bind_eq_ok.mp h
    cases failing with
    | some label => cases h
    | none =>
      cases h
      obtain ⟨turn, ht, hpassed⟩ := passed_of_failingCallback hc
      exact ⟨turn, ht, .checked (staticFault?_eq_none.mp hf) hpassed⟩

namespace Turn

variable {r : Rule} {turn : List Call} {found : Option Value}

theorem vouched {v : Value} (h : r.Turn turn (some v)) : r.Vouched turn v := by
  cases h with
  | checked fits passed =>
    refine ⟨fits, fun cb hcb => ?_⟩
    obtain ⟨i, hi, rfl⟩ := List.getElem_of_mem hcb
    have hi' : i < turn.length := passed.length_eq ▸ hi
    exact ⟨turn[i], List.getElem_mem hi', passed.get hi hi'⟩

theorem value_eq (h : r.Turn turn found) {call : Call} (hc : call ∈ turn) : call.value = found := by
  cases h with
  | skipped => cases hc
  | checked fits passed =>
    obtain ⟨i, hi, rfl⟩ := List.getElem_of_mem hc
    have hi' : i < r.callbacks.length := passed.length_eq ▸ hi
    exact (passed.get hi' hi).value

theorem vouched_iff (h : r.Turn turn found) (v : Value) :
    r.Vouched turn v ↔ found = some v ∨ (r.Fits v ∧ r.callbacks = []) := by
  constructor
  · intro hv
    cases hcb : r.callbacks with
    | nil => exact .inr ⟨hv.toFits, rfl⟩
    | cons cb rest =>
      have hmem : cb ∈ r.callbacks := by
        rw [hcb]
        exact List.mem_cons_self
      -- A callback's call tells which value the turn was about.
      obtain ⟨call, hc, hpass⟩ := hv.callbacks cb hmem
      exact .inl ((h.value_eq hc).symm.trans hpass.value)
  · rintro (rfl | ⟨hfits, hnil⟩)
    · exact h.vouched
    · refine ⟨hfits, fun cb hcb => ?_⟩
      rw [hnil] at hcb
      cases hcb

end Turn

end Rule

/-- From a stage to a later one a rule has had its turn and was met. -/
inductive Rule.Passed (host : Host σ) (name : Value) (r : Rule) (s : Stage σ) : Stage σ → Prop
  | absent (hf : Entries.find? s.params name = none) : Passed host name r s s
  | held {v : Value} {t : Stage σ} (hf : Entries.find? s.params name = some v)
    (hc : r.fault? host v s = .ok none t) : Passed host name r s t

theorem Rule.Passed.turn {name : Value} {r : Rule} {s t : Stage σ} (h : r.Passed host name s t) :
    ∃ turn, t.calls = s.calls ++ turn ∧ r.Turn turn (Entries.find? s.params name) := by
  cases h with
  | absent hf =>
    rw [hf]
    exact ⟨[], (List.append_nil _).symm, .skipped⟩
  | held hf hc =>
    rw [hf]
    exact turn_of_fault? hc

namespace Spec

variable {called : Value} {name : Value} {r : Rule} {s u : Stage σ}

theorem checkValues_cons_eq_ok {rest : Spec} :
    checkValues host called ((name, r) :: rest) s = .ok () u ↔
      ∃ t, r.Passed host name s t ∧ rest.checkValues host called t = .ok () u := by
  rw [checkValues, get_bind]
  cases hf : Entries.find? s.params name with
  | none =>
    constructor
    · intro h
      exact ⟨s, .absent hf, h⟩
    · rintro ⟨t, hp, h⟩
      cases hp with
      | absent _ => exact h
      | held hf' _ =>
        rw [hf] at hf'
        cases hf'
  | some v =>
    constructor
    · intro h
      obtain ⟨f, t, hc, h⟩ := bind_eq_ok.mp h
      cases f with
      | some f => cases h
      | none => exact ⟨t, .held hf (raisedAs_eq_ok.mp hc), h⟩
    · rintro ⟨t, hp, h⟩
      cases hp with
      | absent hf' =>
        rw [hf] at hf'
        cases hf'
      | held hf' hc =>
        rw [hf] at hf'
        cases hf'
        exact bind_eq_ok.mpr ⟨none, t, raisedAs_eq_ok.mpr hc, h⟩

theorem checkValues_append_eq_ok {before after : Spec} :
    checkValues host called (before ++ after) s = .ok () u ↔
      ∃ t, before.checkValues host called s = .ok () t ∧
        after.checkValues host called t = .ok () u := by
  induction before generalizing s with
  | nil =>
    constructor
    · intro h
      exact ⟨s, rfl, h⟩
    · rintro ⟨t, ht, h⟩
      cases ht
      exact h
  | cons q rest ih =>
    rcases q with ⟨name, r⟩
    rw [List.cons_append, checkValues_cons_eq_ok]
    simp only [ih, checkValues_cons_eq_ok]
    constructor
    · rintro ⟨t₁, hp, t₂, hrest, hafter⟩
      exact ⟨t₂, ⟨t₁, hp, hrest⟩, hafter⟩
    · rintro ⟨t₂, ⟨t₁, hp, hrest⟩, hafter⟩
      exact ⟨t₁, hp, t₂, hrest, hafter⟩

theorem turn_of_checkValues {before after : Spec}
    (h : checkValues host called (before ++ (name, r) :: after) s = .ok () u) :
    ∃ t t' turn rest, before.checkValues host called s = .ok () t ∧
      checkValues host called [(name, r)] t = .ok () t' ∧ t'.calls = t.calls ++ turn ∧
      u.calls = t'.calls ++ rest ∧ r.Turn turn (Entries.find? t.params name) := by
  obtain ⟨t, hbefore, h⟩ := checkValues_append_eq_ok.mp h
  obtain ⟨t', hp, hafter⟩ := checkValues_cons_eq_ok.mp h
  obtain ⟨turn, hturn, hr⟩ := hp.turn
  have hkeep : Keeps Stage.Checks (after.checkValues host called) :=
    checkValues_keeps (fun _ _ cb _ => Stage.check_keeps cb.2) called
  -- Whatever the later rules do, they only add calls.
  obtain ⟨-, rest, hrest, -⟩ := hkeep.of_ok hafter
  have hself : checkValues host called [(name, r)] t = .ok () t' :=
    checkValues_cons_eq_ok.mpr ⟨t', hp, rfl⟩
  exact ⟨t, t', turn, rest, hbefore, hself, hturn, hrest, hr⟩

end Spec

section Turns

variable {args spec called : Value} {trailing : List Value} {settings : Option Settings}
  {S : Settings} {w w₀ w' : World σ} {rules before after : Spec} {params : Entries} {name : Value}
  {r : Rule}

/-- In a call that returns and checks, each rule has had its turn on what the rules before it left
of the mapping. -/
theorem turn_of_validate (hS : World.settings settings w = .ok S w₀) (hn : S.noValidation = false)
    (hr : rules.WrittenAs spec) (hp : Arguments.Supply args params)
    (h : validate host args spec trailing called settings w = .ok () w')
    (hrules : rules = before ++ (name, r) :: after) :
    ∃ s t turn rest,
      before.checkValues host (Arguments.caller called S)
          { w₀ with args := args, params := params } = .ok () s ∧
        Spec.checkValues host (Arguments.caller called S) [(name, r)] s = .ok () t ∧
        t.calls = s.calls ++ turn ∧ w'.calls = t.calls ++ rest ∧
        r.Turn turn (Entries.find? s.params name) := by
  have hg := validate_goes host args spec trailing called settings w
  generalize validate host args spec trailing called settings w = result at hg h
  cases hg with
  | refused _ => cases h
  | unset _ _ => cases h
  | unfit _ _ _ => cases h
  | @asked predicates S' w₁ w₂ _ params' _ hs hv ha =>
    rw [World.settings_receive hS args] at hs
    cases hs
    obtain ⟨rules', params₁, u, hrules', hparams, -, hchecks, -, rfl⟩ :=
      (validateUnder_eq_ok hn).mp hv
    -- Spec and arguments are read once only, so the checks were about `rules` and `params`.
    rw [Spec.ofValue_eq_ok.mpr hr] at hrules'
    cases hrules'
    rw [Arguments.params_eq_ok.mpr hp] at hparams
    cases hparams
    rw [hrules] at hchecks
    obtain ⟨s, t, turn, rest, hbefore, hself, hown, hcalls, hturn⟩ :=
      Spec.turn_of_checkValues hchecks
    cases hc : checkPredicates host (Arguments.caller called S) 0 predicates
        { u.toWorld with params := params' } with
    | error e s' =>
      rw [hc] at h
      cases h
    | ok _ s' =>
      rw [hc] at h
      cases h
      have hask := checkPredicates_asks host (Arguments.caller called S) 0 predicates
      obtain ⟨-, -, asked, hasked, -⟩ := hask.of_ok hc
      refine ⟨s, t, turn, rest ++ asked, hbefore, hself, hown, ?_, hturn⟩
      have hlast : s'.calls = u.calls ++ asked := hasked
      rw [hlast, hcalls, List.append_assoc]

/-- Callbacks that only look at the mapping talk a call out of no check. -/
theorem vouched_of_looking
    (hlook : ∀ c v es h, ((host.check c v).run .writable es h).2.1 = es)
    (hS : World.settings settings w = .ok S w₀) (hn : S.noValidation = false)
    (hr : rules.WrittenAs spec) (hp : Arguments.Supply args params)
    (h : validate host args spec trailing called settings w = .ok () w')
    (hrule : (name, r) ∈ rules) {v : Value} (hv : Entries.find? params name = some v) :
    r.Vouched w'.calls v := by
  obtain ⟨before, after, hrules⟩ := List.append_of_mem hrule
  obtain ⟨s, t, turn, rest, hbefore, -, hown, hcalls, hturn⟩ :=
    turn_of_validate hS hn hr hp h hrules
  have hlooking : Spec.Looking host before := fun _ _ cb _ => hlook cb.2
  have hparams : s.params = params := (hlooking.keeps _).of_ok hbefore
  rw [hparams, hv] at hturn
  refine hturn.vouched.mono fun call hc => ?_
  rw [hcalls, hown]
  exact List.mem_append_left _ (List.mem_append_right _ hc)

/-- A call that returns and checks has had a value of the caller vouched for, in the turn of the
rule of its name, iff that value was still in the mapping when the turn came, or else fits a rule
without callbacks. -/
theorem validate_vouches_iff_kept (hS : World.settings settings w = .ok S w₀)
    (hn : S.noValidation = false) (hr : rules.WrittenAs spec) (hp : Arguments.Supply args params)
    (h : validate host args spec trailing called settings w = .ok () w')
    (hrules : rules = before ++ (name, r) :: after) :
    ∃ s t turn rest,
      before.checkValues host (Arguments.caller called S)
          { w₀ with args := args, params := params } = .ok () s ∧
        Spec.checkValues host (Arguments.caller called S) [(name, r)] s = .ok () t ∧
        t.calls = s.calls ++ turn ∧ w'.calls = t.calls ++ rest ∧
        ∀ v, Entries.find? params name = some v →
          (r.Vouched turn v ↔
            Entries.find? s.params name = some v ∨ (r.Fits v ∧ r.callbacks = [])) := by
  obtain ⟨s, t, turn, rest, hbefore, hself, hown, hcalls, hturn⟩ :=
    turn_of_validate hS hn hr hp h hrules
  exact ⟨s, t, turn, rest, hbefore, hself, hown, hcalls, fun v _ => hturn.vouched_iff v⟩

end Turns

/-- A spec whose first rule has a callback, to which the host lets `drop` delete `b`. -/
def droppingSpec : Value :=
  .map .dict [(.text "a", .map .dict [(.text "callbacks",
      .map .dict [(.text "drop", .function (.named 3 "drop"))])]),
    (.text "b", .map .dict [(.text "type", .int 2)])]

def droppingRules : Spec :=
  [(.text "a", { callbacks := [("drop", .function (.named 3 "drop"))], given := [.callbacks] }),
    (.text "b", { type := some ⟨2⟩, given := [.type] })]

def droppingHost : Host Counters := Script.host [(3, .delete (.text "b"))]

def droppingArgs : Value := .map .dict [(.text "a", .int 1), (.text "b", .text "bad")]

theorem droppingRules_writtenAs : droppingRules.WrittenAs droppingSpec := Spec.ofValue_eq_ok.mp rfl

theorem droppingArgs_supply :
    Arguments.Supply droppingArgs [(.text "a", .int 1), (.text "b", .text "bad")] :=
  Arguments.params_eq_ok.mp rfl

theorem not_fits_dropped : ¬ Rule.Fits { type := some ⟨2⟩, given := [.type] } (.text "bad") := by
  intro h
  exact h.type ⟨2⟩ rfl rfl

theorem validate_dropping_returns :
    ∃ w', validate droppingHost droppingArgs droppingSpec [] .null (some {}) { host := [] } =
      .ok () w' := by
  have hnames : droppingRules.nameFault? false
      [(.text "a", .int 1), (.text "b", .text "bad")] = none := by
    apply Spec.nameFault?_eq_none.mpr
    refine ⟨.inr (Spec.unlisted_eq_nil.mpr ?_), rfl⟩
    simp [droppingRules]
  exact ⟨_, validate_eq_ok_of_validateUnder rfl
    ((validateUnder_eq_ok rfl).mpr ⟨_, _, _, rfl, rfl, hnames, rfl, rfl, rfl⟩)⟩

/-- When the turn of `b` comes, the mapping does not hold it any more. -/
theorem validate_leaves_dropped_unvouched :
    ∃ w', validate droppingHost droppingArgs droppingSpec [] .null (some {}) { host := [] } =
        .ok () w' ∧
      ∃ earlier turn rest, w'.calls = earlier ++ turn ++ rest ∧
        ¬ Rule.Vouched turn { type := some ⟨2⟩, given := [.type] } (.text "bad") := by
  obtain ⟨w', h⟩ := validate_dropping_returns
  obtain ⟨s, t, turn, rest, hbefore, -, hown, hcalls, hiff⟩ :=
    validate_vouches_iff_kept rfl rfl droppingRules_writtenAs droppingArgs_supply h
      (show droppingRules = droppingRules.take 1 ++ (.text "b", _) :: [] from rfl)
  cases hbefore
  rw [hown] at hcalls
  refine ⟨w', h, _, turn, rest, hcalls, fun hv => ?_⟩
  rcases (hiff (.text "bad") rfl).mp hv with hkept | ⟨hfits, -⟩
  · cases hkept
  · exact not_fits_dropped hfits

/-- A callback can talk a call out of the check of another parameter. -/
theorem validate_returns_unvouched :
    ¬ ∀ (w' : World Counters) (rules : Spec) (params : Entries),
      rules.WrittenAs droppingSpec → Arguments.Supply droppingArgs params →
      validate droppingHost droppingArgs droppingSpec [] .null (some {}) { host := [] } =
        .ok () w' →
      ∀ name r v, (name, r) ∈ rules → Entries.find? params name = some v →
        r.Vouched w'.calls v := by
  intro hclaim
  obtain ⟨w', h⟩ := validate_dropping_returns
  have hv := hclaim w' droppingRules _ droppingRules_writtenAs droppingArgs_supply h (.text "b") _
    (.text "bad") (List.mem_cons_of_mem _ List.mem_cons_self) rfl
  exact not_fits_dropped hv.toFits

end ParamGate
