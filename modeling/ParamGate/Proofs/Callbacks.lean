import ParamGate.Proofs.Acceptance
import ParamGate.Proofs.Screening

/-!
The calls that callbacks get. Where they leave the parameters as they are, they are asked rule by
rule about the values supplied, each at most once and in the order given, and none after the point
at which the checks fail; a call that fails before its values are checked asks none of them.
-/

namespace ParamGate

open Run

variable {σ : Type} {host : Host σ}

namespace Call

def handed (c : Call) : Callable × Entries × Option Value := (c.callee, c.params, c.value)

def Agrees (c : Call) : Prop := ∃ a, c.outcome = .ok a ∧ a.truthy = true

end Call

theorem Stage.check_of_looks {c : Callable} (hl : host.Looks c) (v : Value) (s : Stage σ) :
    ∃ call : Call, (last (Stage.check host c v s)).calls = s.calls ++ [call] ∧
      (last (Stage.check host c v s)).params = s.params ∧
      call.handed = (c, s.params, some v) ∧ call.outcome = outcome (Stage.check host c v s) := by
  have hparams := hl v s.params s.host
  rcases hr : (host.check c v).run .writable s.params s.host with ⟨r, es, h⟩
  rw [hr] at hparams
  refine ⟨{ callee := c, params := s.params, value := some v, outcome := r }, ?_, ?_, rfl, ?_⟩
  · rw [check, last_perform, hr]
  · rw [check, last_perform, hr]
    exact hparams
  · rw [check, perform, hr]
    cases r <;> rfl

namespace Callbacks

variable {params : Entries} {v : Value} {callbacks : List (String × Callable)} {calls : List Call}

/-- The calls that are due to callbacks about a value, each with the value and the parameters. -/
def due (params : Entries) (v : Value) (callbacks : List (String × Callable)) :
    List (Callable × Entries × Option Value) :=
  callbacks.map fun cb => (cb.2, params, some v)

structure Agreed (params : Entries) (v : Value) (callbacks : List (String × Callable))
    (calls : List Call) : Prop where
  handed : calls.map Call.handed = due params v callbacks
  agrees : ∀ c ∈ calls, c.Agrees

/-- The callbacks have been asked up to the first that raises or answers something false. -/
inductive Refused (params : Entries) (v : Value) (callbacks : List (String × Callable))
    (calls : List Call) : Prop
  | intro {asked rest : List (String × Callable)} {label : String} {c : Callable}
    {earlier : List Call} {call : Call} (hcallbacks : callbacks = asked ++ (label, c) :: rest)
    (hasked : Agreed params v asked earlier) (hcalls : calls = earlier ++ [call])
    (hcall : call.handed = (c, params, some v)) (hn : ¬ call.Agrees)

theorem agreed_nil : Agreed params v [] [] := ⟨rfl, by simp⟩

theorem Agreed.cons {cb : String × Callable} {call : Call}
    (hcall : call.handed = (cb.2, params, some v)) (ha : call.Agrees)
    (h : Agreed params v callbacks calls) : Agreed params v (cb :: callbacks) (call :: calls) := by
  refine ⟨?_, List.forall_mem_cons.mpr ⟨ha, h.agrees⟩⟩
  rw [List.map_cons, hcall, h.handed]
  rfl

theorem Refused.cons {cb : String × Callable} {call : Call}
    (hcall : call.handed = (cb.2, params, some v)) (ha : call.Agrees)
    (h : Refused params v callbacks calls) :
    Refused params v (cb :: callbacks) (call :: calls) := by
  obtain ⟨rfl, hasked, rfl, hlast, hn⟩ := h
  exact .intro rfl (hasked.cons hcall ha) rfl hlast hn

theorem Refused.isPrefix (h : Refused params v callbacks calls) :
    calls.map Call.handed <+: due params v callbacks := by
  obtain ⟨rfl, hasked, rfl, hcall, -⟩ := h
  rw [List.map_append, hasked.handed, List.map_singleton, hcall, due, due, List.map_append,
    List.map_cons]
  exact (List.prefix_append_right_inj _).mpr (List.prefix_append [_] _)

end Callbacks

open Callbacks in
theorem Rule.failingCallback_asks {callbacks : List (String × Callable)}
    (hl : ∀ cb ∈ callbacks, host.Looks cb.2) (v : Value) (s : Stage σ) :
    ∃ calls, (last (failingCallback host v callbacks s)).calls = s.calls ++ calls ∧
      (last (failingCallback host v callbacks s)).params = s.params ∧
      ((outcome (failingCallback host v callbacks s) = .ok none ∧
          Agreed s.params v callbacks calls) ∨
        (outcome (failingCallback host v callbacks s) ≠ .ok none ∧
          Refused s.params v callbacks calls)) := by
  induction callbacks generalizing s with
  | nil => exact ⟨[], (List.append_nil _).symm, rfl, .inl ⟨rfl, agreed_nil⟩⟩
  | cons cb rest ih =>
    rcases cb with ⟨label, c⟩
    obtain ⟨hc, hrest⟩ := List.forall_mem_cons.mp hl
    obtain ⟨call, hcalls, hparams, hcall, hout⟩ := Stage.check_of_looks hc v s
    have hfirst : ¬ call.Agrees → Refused s.params v ((label, c) :: rest) [call] := fun hn =>
      .intro (List.nil_append _).symm agreed_nil (List.nil_append _).symm hcall hn
    rw [failingCallback]
    cases hs : Stage.check host c v s with
    | error e t =>
      rw [hs] at hcalls hparams hout
      have hn : ¬ call.Agrees := by
        rintro ⟨a, ha, -⟩
        rw [hout] at ha
        cases ha
      rw [bind_of_error hs]
      refine ⟨[call], hcalls, hparams, .inr ⟨?_, hfirst hn⟩⟩
      intro h
      cases h
    | ok a t =>
      rw [hs] at hcalls hparams hout
      rw [bind_of_ok hs]
      cases ha : a.truthy with
      | false =>
        have hn : ¬ call.Agrees := by
          rintro ⟨b, hb, htrue⟩
          rw [hout] at hb
          cases hb
          rw [ha] at htrue
          cases htrue
        refine ⟨[call], hcalls, hparams, .inr ⟨?_, hfirst hn⟩⟩
        intro h
        cases h
      | true =>
        have hagrees : call.Agrees := ⟨a, hout, ha⟩
        obtain ⟨later, hlater, hkept, hends⟩ := ih hrest t
        have ht : t.calls = s.calls ++ [call] := hcalls
        have hp : t.params = s.params := hparams
        rw [hp] at hkept hends
        refine ⟨call :: later, ?_, hkept, ?_⟩
        · rw [if_pos rfl, hlater, ht, List.append_assoc, List.singleton_append]
        · rcases hends with ⟨hall, hagreed⟩ | ⟨hsome, hrefused⟩
          · exact .inl ⟨hall, hagreed.cons hcall hagrees⟩
          · exact .inr ⟨hsome, hrefused.cons hcall hagrees⟩

open Callbacks in
theorem Rule.fault?_asks {r : Rule} (hl : ∀ cb ∈ r.callbacks, host.Looks cb.2) (v : Value)
    (s : Stage σ) :
    ∃ calls, (last (r.fault? host v s)).calls = s.calls ++ calls ∧
      (last (r.fault? host v s)).params = s.params ∧
      ((outcome (r.fault? host v s) = .ok none ∧ r.Fits v ∧
          Agreed s.params v r.callbacks calls) ∨
        (outcome (r.fault? host v s) ≠ .ok none ∧
          (¬ r.Fits v ∧ calls = [] ∨ r.Fits v ∧ Refused s.params v r.callbacks calls))) := by
  unfold fault?
  cases hf : r.staticFault? v with
  | some f =>
    have hn : ¬ r.Fits v := by
      rw [← staticFault?_eq_none, hf]
      exact Option.some_ne_none f
    refine ⟨[], (List.append_nil _).symm, rfl, .inr ⟨?_, .inl ⟨hn, rfl⟩⟩⟩
    intro h
    cases h
  | none =>
    have hfits : r.Fits v := staticFault?_eq_none.mp hf
    obtain ⟨calls, hcalls, hparams, hasks⟩ := failingCallback_asks hl v s
    dsimp only
    cases hs : failingCallback host v r.callbacks s with
    | error e t =>
      rw [hs] at hcalls hparams hasks
      rw [bind_of_error hs]
      refine ⟨calls, hcalls, hparams, .inr ?_⟩
      rcases hasks with ⟨hnone, -⟩ | ⟨-, hrefused⟩
      · cases hnone
      · refine ⟨?_, .inr ⟨hfits, hrefused⟩⟩
        intro h
        cases h
    | ok label t =>
      rw [hs] at hcalls hparams hasks
      rw [bind_of_ok hs]
      refine ⟨calls, hcalls, hparams, ?_⟩
      rcases hasks with ⟨hnone, hagreed⟩ | ⟨hsome, hrefused⟩
      · cases hnone
        exact .inl ⟨rfl, hfits, hagreed⟩
      · refine .inr ⟨?_, .inr ⟨hfits, hrefused⟩⟩
        intro h
        cases label with
        | none => exact hsome rfl
        | some label => cases h

namespace Spec

variable {params : Entries} {rules first rest : Spec} {calls later : List Call}

/-- The calls that are due to the callbacks of a spec: rule by rule, where the name is supplied. -/
def due (params : Entries) (rules : Spec) : List (Callable × Entries × Option Value) :=
  rules.flatMap fun q =>
    match Entries.find? params q.1 with
    | none => []
    | some v => Callbacks.due params v q.2.callbacks

theorem due_append (params : Entries) (first rest : Spec) :
    due params (first ++ rest) = due params first ++ due params rest :=
  List.flatMap_append

theorem due_cons_of_find? {name v : Value} (r : Rule) (hv : Entries.find? params name = some v)
    (rest : Spec) :
    due params ((name, r) :: rest) = Callbacks.due params v r.callbacks ++ due params rest := by
  rw [due, List.flatMap_cons, hv]
  rfl

theorem exists_of_mem_due {x : Callable × Entries × Option Value} (h : x ∈ due params rules) :
    ∃ q ∈ rules, ∃ v, Entries.find? params q.1 = some v ∧
      ∃ cb ∈ q.2.callbacks, x = (cb.2, params, some v) := by
  obtain ⟨q, hq, hx⟩ := List.mem_flatMap.mp h
  cases hv : Entries.find? params q.1 with
  | none =>
    rw [hv] at hx
    cases hx
  | some v =>
    rw [hv] at hx
    obtain ⟨cb, hcb, rfl⟩ := List.mem_map.mp hx
    exact ⟨q, hq, v, hv, cb, hcb, rfl⟩

/-- The rules have had their turns and found nothing wrong: every value supplied fits, and every
callback has been asked about it and has agreed. -/
structure Served (params : Entries) (rules : Spec) (calls : List Call) : Prop where
  fits : ∀ q ∈ rules, ∀ v, Entries.find? params q.1 = some v → q.2.Fits v
  handed : calls.map Call.handed = rules.due params
  agrees : ∀ c ∈ calls, c.Agrees

/-- Where the checks of values end, told by the calls made: after the whole spec, before the
callbacks of the first rule whose value does not fit, or with the first callback that does not
agree. -/
inductive Ends (params : Entries) (rules : Spec) (calls : List Call) : Prop
  | served (h : Served params rules calls)
  | unfit {before rest : Spec} {name v : Value} {r : Rule}
    (hrules : rules = before ++ (name, r) :: rest) (h : Served params before calls)
    (hv : Entries.find? params name = some v) (hn : ¬ r.Fits v)
  | refused {before rest : Spec} {name v : Value} {r : Rule} {earlier own : List Call}
    (hrules : rules = before ++ (name, r) :: rest) (h : Served params before earlier)
    (hv : Entries.find? params name = some v) (hfits : r.Fits v)
    (hown : Callbacks.Refused params v r.callbacks own) (hcalls : calls = earlier ++ own)

theorem served_nil : Served params [] [] := ⟨by simp, rfl, by simp⟩

theorem Served.append (h : Served params first calls) (h' : Served params rest later) :
    Served params (first ++ rest) (calls ++ later) := by
  refine ⟨fun q hq => ?_, ?_, fun c hc => ?_⟩
  · rcases List.mem_append.mp hq with hq | hq
    · exact h.fits q hq
    · exact h'.fits q hq
  · rw [List.map_append, h.handed, h'.handed, due_append]
  · rcases List.mem_append.mp hc with hc | hc
    · exact h.agrees c hc
    · exact h'.agrees c hc

theorem served_absent {name : Value} (r : Rule) (hv : Entries.find? params name = none) :
    Served params [(name, r)] [] := by
  refine ⟨fun q hq v hf => ?_, ?_, by simp⟩
  · obtain rfl := List.mem_singleton.mp hq
    rw [hv] at hf
    cases hf
  · rw [due, List.flatMap_singleton, hv]
    rfl

theorem served_agreed {name v : Value} {r : Rule} (hv : Entries.find? params name = some v)
    (hf : r.Fits v) (h : Callbacks.Agreed params v r.callbacks calls) :
    Served params [(name, r)] calls := by
  refine ⟨fun q hq u hu => ?_, ?_, h.agrees⟩
  · obtain rfl := List.mem_singleton.mp hq
    rw [hv] at hu
    cases hu
    exact hf
  · rw [h.handed, due_cons_of_find? r hv]
    exact (List.append_nil _).symm

theorem Served.before (h : Served params first calls) (h' : Ends params rules later) :
    Ends params (first ++ rules) (calls ++ later) := by
  cases h' with
  | served hs => exact .served (h.append hs)
  | unfit hrules hs hv hn =>
    rw [hrules, ← List.append_assoc]
    exact .unfit rfl (h.append hs) hv hn
  | refused hrules hs hv hfits hown hcalls =>
    rw [hrules, hcalls, ← List.append_assoc, ← List.append_assoc]
    exact .refused rfl (h.append hs) hv hfits hown rfl

theorem Ends.isPrefix (h : Ends params rules calls) :
    calls.map Call.handed <+: rules.due params := by
  cases h with
  | served hs => exact hs.handed ▸ List.prefix_rfl
  | unfit hrules hs hv hn =>
    rw [hs.handed, hrules, due_append]
    exact List.prefix_append _ _
  | @refused _ rest _ _ r _ _ hrules hs hv hfits hown hcalls =>
    have hown' := hown.isPrefix.trans (List.prefix_append _ (due params rest))
    rw [hcalls, hrules, List.map_append, hs.handed, due_append, due_cons_of_find? r hv]
    exact (List.prefix_append_right_inj _).mpr hown'

theorem Served.relies (h : Served params rules calls) {c : Call} (hc : c ∈ calls) :
    ∃ q ∈ rules, ∃ v, Entries.find? params q.1 = some v ∧ q.2.Fits v ∧
      ∃ cb ∈ q.2.callbacks, c.handed = (cb.2, params, some v) := by
  have hdue : c.handed ∈ due params rules := h.handed ▸ List.mem_map_of_mem hc
  obtain ⟨q, hq, v, hv, cb, hcb, hx⟩ := exists_of_mem_due hdue
  exact ⟨q, hq, v, hv, h.fits q hq v hv, cb, hcb, hx⟩

theorem Ends.relies (h : Ends params rules calls) {c : Call} (hc : c ∈ calls) :
    ∃ q ∈ rules, ∃ v, Entries.find? params q.1 = some v ∧ q.2.Fits v ∧
      ∃ cb ∈ q.2.callbacks, c.handed = (cb.2, params, some v) := by
  cases h with
  | served hs => exact hs.relies hc
  | unfit hrules hs hv hn =>
    obtain ⟨q, hq, hrest⟩ := hs.relies hc
    exact ⟨q, hrules ▸ List.mem_append_left _ hq, hrest⟩
  | @refused before _ name v r earlier own hrules hs hv hfits hown hcalls =>
    rw [hcalls] at hc
    rcases List.mem_append.mp hc with hc | hc
    · obtain ⟨q, hq, hrest⟩ := hs.relies hc
      exact ⟨q, hrules ▸ List.mem_append_left _ hq, hrest⟩
    · have hdue : c.handed ∈ Callbacks.due params v r.callbacks :=
        hown.isPrefix.subset (List.mem_map_of_mem hc)
      obtain ⟨cb, hcb, hx⟩ := List.mem_map.mp hdue
      have hmem : (name, r) ∈ rules := hrules ▸ List.mem_append_right _ List.mem_cons_self
      exact ⟨(name, r), hmem, v, hv, hfits, cb, hcb, hx.symm⟩

section Steps

variable {caller : Value} {name v : Value} {r : Rule} {s t : Stage σ}

theorem checkValues_of_absent (hv : Entries.find? s.params name = none) :
    checkValues host caller ((name, r) :: rest) s = checkValues host caller rest s := by
  rw [checkValues, get_bind, hv]

theorem checkValues_of_met (hv : Entries.find? s.params name = some v)
    (hf : r.fault? host v s = .ok none t) :
    checkValues host caller ((name, r) :: rest) s = checkValues host caller rest t := by
  rw [checkValues, get_bind, hv]
  exact bind_of_ok (raisedAs_eq_ok.mpr hf)

theorem last_checkValues_of_unmet (hv : Entries.find? s.params name = some v)
    (hf : outcome (r.fault? host v s) ≠ .ok none) :
    last (checkValues host caller ((name, r) :: rest) s) = last (r.fault? host v s) := by
  rw [checkValues, get_bind, hv, ← last_raisedAs]
  cases hs : r.fault? host v s with
  | error e t =>
    have hr : raisedAs (r.fault? host v) s = .error (.raised e) t := by rw [raisedAs, hs]
    rw [hr]
    exact congrArg last (bind_of_error hr)
  | ok f t =>
    have hr : raisedAs (r.fault? host v) s = .ok f t := raisedAs_eq_ok.mpr hs
    rw [hr]
    cases f with
    | none =>
      rw [hs] at hf
      exact absurd rfl hf
    | some f => exact congrArg last (bind_of_ok hr)

end Steps

theorem checkValues_ends (hl : rules.Looking host) (caller : Value) (s : Stage σ) :
    ∃ calls, (last (rules.checkValues host caller s)).calls = s.calls ++ calls ∧
      rules.Ends s.params calls := by
  induction rules generalizing s with
  | nil => exact ⟨[], (List.append_nil _).symm, .served served_nil⟩
  | cons q rest ih =>
    rcases q with ⟨name, r⟩
    obtain ⟨hr, hrest⟩ := List.forall_mem_cons.mp hl
    cases hv : Entries.find? s.params name with
    | none =>
      obtain ⟨calls, hcalls, hends⟩ := ih hrest s
      rw [checkValues_of_absent hv]
      exact ⟨calls, hcalls, (served_absent r hv).before hends⟩
    | some v =>
      obtain ⟨own, hown, hparams, hturn⟩ := Rule.fault?_asks hr v s
      rcases hturn with ⟨hnone, hfits, hagreed⟩ | ⟨hsome, hturn⟩
      · -- Nothing is wrong with the value: the rest of the spec has its turn in the stage left.
        obtain ⟨t, ht⟩ := outcome_eq_ok.mp hnone
        rw [ht] at hown hparams
        have htcalls : t.calls = s.calls ++ own := hown
        have htparams : t.params = s.params := hparams
        obtain ⟨calls, hcalls, hends⟩ := ih hrest t
        rw [htparams] at hends
        refine ⟨own ++ calls, ?_, (served_agreed hv hfits hagreed).before hends⟩
        rw [checkValues_of_met hv ht, hcalls, htcalls, List.append_assoc]
      · -- The checks end with this rule, with or without calls.
        refine ⟨own, ?_, ?_⟩
        · rw [last_checkValues_of_unmet hv hsome, hown]
        · rcases hturn with ⟨hn, rfl⟩ | ⟨hfits, hrefused⟩
          · exact .unfit (List.nil_append _).symm served_nil hv hn
          · exact .refused (List.nil_append _).symm served_nil hv hfits hrefused
              (List.nil_append _).symm

theorem screen_asks (hl : rules.Looking host) (S : Settings) (caller : Value) (w : World σ) :
    ∃ calls, (last (rules.screen host S caller w)).calls = w.calls ++ calls ∧
      ((∃ params, Arguments.params w.args = .ok params ∧ S.noValidation = false ∧
          rules.nameFault? S.allowExtra params = none ∧ rules.Ends params calls) ∨
        ((∀ params, Arguments.params w.args = .ok params → S.noValidation = false →
          rules.nameFault? S.allowExtra params ≠ none) ∧ calls = [])) := by
  have hg := screen_screens host S caller rules w
  generalize rules.screen host S caller w = result at hg
  cases hg with
  | unread hp =>
    refine ⟨[], (List.append_nil _).symm, .inr ⟨fun params hparams => ?_, rfl⟩⟩
    rw [hp] at hparams
    cases hparams
  | unchecked hp hn =>
    refine ⟨[], (List.append_nil _).symm, .inr ⟨fun params _ hn' => ?_, rfl⟩⟩
    rw [hn] at hn'
    cases hn'
  | misnamed hp hn hf =>
    refine ⟨[], (List.append_nil _).symm, .inr ⟨fun params hparams _ => ?_, rfl⟩⟩
    rw [hp] at hparams
    cases hparams
    rw [hf]
    exact Option.some_ne_none _
  | @checked params hp hn hf =>
    obtain ⟨calls, hcalls, hends⟩ := checkValues_ends hl caller { w with params := params }
    refine ⟨calls, ?_, .inl ⟨params, hp, hn, hf, hends⟩⟩
    rw [← hcalls]
    cases rules.checkValues host caller { w with params := params } <;> rfl

end Spec

section Calls

variable {args spec : Value} {settings : Option Settings} {w : World σ}

/-- A call gets as far as the checks of values. The settings can be had and ask for checks, the spec
and the arguments can be read, no name is without a rule unless such names are allowed, and no
mandatory name is missing. -/
structure ReachesChecks (settings : Option Settings) (w : World σ) (args spec : Value)
    (rules : Spec) (params : Entries) : Prop where
  written : rules.WrittenAs spec
  supplied : Arguments.Supply args params
  listed : ∃ S w₀, World.settings settings w = .ok S w₀ ∧ S.noValidation = false ∧
    (S.allowExtra = true ∨ ∀ p ∈ params, ∃ q ∈ rules, q.1.key = p.1.key)
  present : ∀ q ∈ rules, q.2.optional = false → q.2.preset = none →
    ∃ p ∈ params, p.1.key = q.1.key

theorem ReachesChecks.unique {rules rules' : Spec} {params params' : Entries}
    (h : ReachesChecks settings w args spec rules params) (hr : rules'.WrittenAs spec)
    (hp : Arguments.Supply args params') : rules' = rules ∧ params' = params := by
  have hrules := Spec.ofValue_eq_ok.mpr h.written
  have hparams := Arguments.params_eq_ok.mpr h.supplied
  rw [Spec.ofValue_eq_ok.mpr hr] at hrules
  rw [Arguments.params_eq_ok.mpr hp] at hparams
  cases hrules
  cases hparams
  exact ⟨rfl, rfl⟩

end Calls

end ParamGate
