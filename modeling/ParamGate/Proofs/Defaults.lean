import ParamGate.Proofs.Callbacks
import ParamGate.Proofs.PhaseTwo

/-!
Defaults stay out of sight. Specs that differ in the defaults of optional rules alone screen the
parameters in the same way. A call of the gate ends the same under both, and what validations return
differs for no name but those left out whose default differs.
-/

namespace ParamGate

open Run

variable {σ : Type} {host : Host σ}

/-- The rules differ in nothing but the default, and in this only where the name may be left out
anyhow. Which fields were given is of no account. -/
structure Rule.SameBesideDefault (r r' : Rule) : Prop where
  type : r'.type = r.type
  optional : r'.optional = r.optional
  isa : r'.isa = r.isa
  regex : r'.regex = r.regex
  callbacks : r'.callbacks = r.callbacks
  preset : r.optional = true ∨ r'.preset = r.preset

namespace Rule.SameBesideDefault

variable {r r' : Rule} (h : r.SameBesideDefault r')

include h

theorem isOptional_eq : r'.isOptional = r.isOptional := by
  rw [RuleOf.isOptional, RuleOf.isOptional, RuleOf.hasDefault, RuleOf.hasDefault, h.optional]
  rcases h.preset with ho | hp
  · rw [ho, Bool.true_or, Bool.true_or]
  · rw [hp]

theorem fault?_eq (v : Value) : r'.fault? host v = r.fault? host v := by
  have hstatic : r'.staticFault? v = r.staticFault? v := by
    rw [staticFault?, staticFault?, h.type, h.isa, h.regex]
  rw [fault?, fault?, hstatic, h.callbacks]

end Rule.SameBesideDefault

namespace Spec

def SameBesideDefaults (rules rules' : Spec) : Prop :=
  List.Forall₂ (fun q q' => q'.1 = q.1 ∧ q.2.SameBesideDefault q'.2) rules rules'

def preset? : Spec → Value → Option Value
  | [], _ => none
  | (name', r) :: rest, name => if name'.key = name.key then r.preset else preset? rest name

namespace SameBesideDefaults

variable {rules rules' : Spec} (h : rules.SameBesideDefaults rules')

include h

theorem lists_eq (name : Value) : rules'.lists name = rules.lists name := by
  unfold lists
  induction h with
  | nil => rfl
  | cons hq _ ih => rw [List.any_cons, List.any_cons, hq.1, ih]

theorem missing_eq (params : Entries) : rules'.missing params = rules.missing params := by
  unfold missing
  induction h with
  | nil => rfl
  | @cons q q' _ _ hq _ ih =>
    rw [List.filter_cons, List.filter_cons, hq.1, hq.2.isOptional_eq]
    cases !Entries.contains params q.1 && !q.2.isOptional with
    | true => rw [if_pos rfl, if_pos rfl, List.map_cons, List.map_cons, hq.1, ih]
    | false => exact ih

theorem nameFault?_eq (allowExtra : Bool) (params : Entries) :
    rules'.nameFault? allowExtra params = rules.nameFault? allowExtra params := by
  have hunlisted : rules'.unlisted params = rules.unlisted params := by
    unfold unlisted
    simp only [h.lists_eq]
  simp only [nameFault?, unlistedFault, hunlisted, h.missing_eq, h.lists_eq]

theorem checkValues_eq (caller : Value) :
    rules'.checkValues host caller = rules.checkValues host caller := by
  induction h with
  | nil => rfl
  | @cons q q' rest rest' hq _ ih =>
    rcases q with ⟨name, r⟩
    rcases q' with ⟨name', r'⟩
    obtain ⟨hname, hr⟩ := hq
    cases hname
    unfold checkValues
    simp only [hr.fault?_eq, ih]

/-- A screening knows nothing of the defaults of optional rules. -/
theorem screen_eq (S : Settings) (caller : Value) :
    rules'.screen host S caller = rules.screen host S caller := by
  unfold screen
  simp only [h.nameFault?_eq, h.checkValues_eq]

end SameBesideDefaults

theorem preset?_of_not_mem {rules : Spec} {name : Value} (h : name.key ∉ rules.keys) :
    rules.preset? name = none := by
  induction rules with
  | nil => rfl
  | cons q rest ih =>
    rcases q with ⟨name', r⟩
    rw [keys, List.map_cons, List.mem_cons, not_or] at h
    rw [preset?, if_neg (Ne.symm h.1)]
    exact ih h.2

theorem find?_defaults {rules : Spec} (hk : rules.keys.Nodup) {params : Entries} {name : Value}
    (hn : name.key ∉ params.keys) :
    Entries.find? (rules.defaults params) name = rules.preset? name := by
  induction rules with
  | nil => rfl
  | cons q rest ih =>
    rcases q with ⟨name', r⟩
    have hk' : name'.key ∉ keys rest ∧ (keys rest).Nodup := List.nodup_cons.mp hk
    have hrest := ih hk'.2
    by_cases hname : name'.key = name.key
    · rw [preset?, if_pos hname]
      have hn' : name'.key ∉ params.keys := hname ▸ hn
      cases hd : r.preset with
      | some d => rw [defaults_cons_fill hn' hd, Entries.find?, if_pos hname]
      | none =>
        -- No later rule is about `name`, so none has a default for it either.
        have habsent : name.key ∉ keys rest := hname ▸ hk'.1
        rw [defaults_cons_skip (.inr hd), hrest, preset?_of_not_mem habsent]
    · rw [preset?, if_neg hname, ← hrest]
      by_cases hskip : name'.key ∈ params.keys ∨ r.preset = none
      · rw [defaults_cons_skip hskip]
      · obtain ⟨hnew, hsome⟩ := not_or.mp hskip
        obtain ⟨d, hd⟩ := Option.ne_none_iff_exists'.mp hsome
        rw [defaults_cons_fill hnew hd, Entries.find?, if_neg hname]

theorem find?_fillDefaults {rules : Spec} (hk : rules.keys.Nodup) (params : Entries)
    (name : Value) :
    Entries.find? (rules.fillDefaults params) name =
      (Entries.find? params name).or (rules.preset? name) := by
  rw [fillDefaults_eq hk, Entries.find?_append]
  cases hv : Entries.find? params name with
  | some v => rfl
  | none => exact find?_defaults hk ((Entries.find?_eq_none_iff params name).mp hv)

end Spec

/-- A call that is about supplied parameters and nothing else: it was handed these, and a value that
it is about is one of them. -/
def Call.OnSupplied (args : Value) (c : Call) : Prop :=
  ∃ params, Arguments.Supply args params ∧ c.params = params ∧
    ∀ v, c.value = some v → ∃ name, Entries.find? params name = some v

theorem validateUnder_on_supplied {spec : Value} {rules : Spec} (hr : rules.WrittenAs spec)
    (hl : rules.Looking host) (S : Settings) (caller : Value) (w : World σ) :
    World.Continues (Call.OnSupplied w.args) w (last (validateUnder host S caller spec w)) := by
  obtain ⟨calls, hcalls, hasks⟩ := Spec.screen_asks hl S caller w
  rw [← last_validateUnder (Spec.ofValue_eq_ok.mpr hr)] at hcalls
  refine ⟨(validateUnder_keeps host S caller spec w).args, calls, hcalls, fun c hc => ?_⟩
  rcases hasks with ⟨params, hp, -, -, hends⟩ | ⟨-, rfl⟩
  · obtain ⟨q, -, v, hv, -, cb, -, hhanded⟩ := hends.relies hc
    obtain ⟨-, hparams, hvalue⟩ : c.callee = cb.2 ∧ c.params = params ∧ c.value = some v := by
      simpa [Call.handed] using hhanded
    refine ⟨params, Arguments.params_eq_ok.mp hp, hparams, fun u hu => ⟨q.1, ?_⟩⟩
    rw [hv, ← hvalue, hu]
  · cases hc

theorem validate_on_supplied {spec : Value} {rules : Spec} (hr : rules.WrittenAs spec)
    (hl : rules.Looking host) (args : Value) (trailing : List Value) (called : Value)
    (settings : Option Settings) (w : World σ) :
    World.Continues (Call.OnSupplied args) { w with args := args }
      (last (validate host args spec trailing called settings w)) := by
  have hset := World.settings_keeps (σ := σ) (P := Call.OnSupplied args) settings
  have hg := validate_goes host args spec trailing called settings w
  generalize validate host args spec trailing called settings w = result at hg
  cases hg with
  | refused hp => exact .of_same rfl rfl
  | unset hp hs => exact hset.of_error hs
  | @unfit _ S w₁ t e hp hs hv =>
    have hsettled := hset.of_ok hs
    have hchecked := validateUnder_on_supplied hr hl S (Arguments.caller called S) w₁
    rw [hv, hsettled.args] at hchecked
    exact trans_of (World.Continues _) hsettled hchecked
  | @asked predicates S w₁ w₂ result params hp hs hv ha =>
    have hsettled := hset.of_ok hs
    have hchecked := validateUnder_on_supplied hr hl S (Arguments.caller called S) w₁
    rw [hv, hsettled.args] at hchecked
    have hbefore := trans_of (World.Continues _) hsettled hchecked
    obtain ⟨-, hargs, asked, hasked, hon⟩ := checkPredicates_asks host
      (Arguments.caller called S) 0 predicates { w₂ with params := params }
    have hafter : World.Continues (Call.OnSupplied args) w₂
        (last (checkPredicates host (Arguments.caller called S) 0 predicates
          { w₂ with params := params })).toWorld := by
      refine ⟨hargs, asked, hasked, fun c hc => ?_⟩
      obtain ⟨hvalue, hseen, -⟩ := hon c hc
      refine ⟨params, Arguments.params_eq_ok.mp ha, hseen, fun v hv => ?_⟩
      rw [hvalue] at hv
      cases hv
    have hall := trans_of (World.Continues _) hbefore hafter
    cases hc : checkPredicates host (Arguments.caller called S) 0 predicates
        { w₂ with params := params } with
    | ok u s =>
      rw [hc] at hall
      exact hall
    | error e s =>
      rw [hc] at hall
      exact hall

section Runs

variable {args spec spec' called : Value} {settings : Option Settings} {w : World σ}
  {rules rules' : Spec}

/-- Validations that screen alike fail alike, or both return what was supplied with the defaults of
the rest. -/
theorem validateParams_of_sameBesideDefaults (hr : rules.WrittenAs spec)
    (hr' : rules'.WrittenAs spec') (hd : rules.SameBesideDefaults rules')
    (hl : rules.Looking host) :
    (∃ e t, validateParams host args spec called settings w = .error e t ∧
      validateParams host args spec' called settings w = .error e t) ∨
    ∃ params t, Arguments.Supply args params ∧
      validateParams host args spec called settings w = .ok (rules.fillDefaults params) t ∧
      validateParams host args spec' called settings w = .ok (rules'.fillDefaults params) t := by
  cases hs : World.settings settings { w with args := args } with
  | error e t =>
    exact .inl ⟨e, t, validateParams_of_unsettled hs, validateParams_of_unsettled hs⟩
  | ok S w₁ =>
    obtain ⟨cached, hw₁⟩ := World.settings_of_ok hs
    rw [validateParams_of_settings hs, validateParams_of_settings hs,
      validateUnder_of_spec (Spec.ofValue_eq_ok.mpr hr),
      validateUnder_of_spec (Spec.ofValue_eq_ok.mpr hr'), hd.screen_eq]
    cases hv : rules.screen host S (Arguments.caller called S) w₁ with
    | error e t => exact .inl ⟨e, t, bind_of_error hv, bind_of_error hv⟩
    | ok params t =>
      have hp : Arguments.params args = .ok params := by
        have hkept := hl.params_of_screen hv
        rw [hw₁] at hkept
        exact hkept
      exact .inr ⟨params, t, Arguments.params_eq_ok.mp hp, bind_of_ok hv, bind_of_ok hv⟩

/-- Specs that differ in the defaults of optional rules alone. A call of the gate goes the same
under both, to the last call and record. A validation fails the same under both, or returns results
that have the same for every name that was supplied or has the same default in both. No call is
about anything but what was supplied. -/
theorem defaults_are_invisible (hr : rules.WrittenAs spec) (hr' : rules'.WrittenAs spec')
    (hd : rules.SameBesideDefaults rules') (hlook : rules.Looking host) (args : Value)
    (trailing : List Value) (called : Value) (settings : Option Settings) (w : World σ) :
    validate host args spec' trailing called settings w =
        validate host args spec trailing called settings w ∧
      ((∃ e t, validateParams host args spec called settings w = .error e t ∧
          validateParams host args spec' called settings w = .error e t) ∨
        ∃ params result result' t, Arguments.Supply args params ∧
          validateParams host args spec called settings w = .ok result t ∧
          validateParams host args spec' called settings w = .ok result' t ∧
          ∀ name : Value, name.key ∈ params.keys ∨ rules'.preset? name = rules.preset? name →
            Entries.find? result' name = Entries.find? result name) ∧
      World.Continues (Call.OnSupplied args) { w with args := args }
        (last (validate host args spec trailing called settings w)) := by
  refine ⟨?_, ?_, validate_on_supplied hr hlook args trailing called settings w⟩
  · rw [validate_of_spec (Spec.ofValue_eq_ok.mpr hr), validate_of_spec (Spec.ofValue_eq_ok.mpr hr')]
    simp only [hd.screen_eq]
  · rcases validateParams_of_sameBesideDefaults hr hr' hd hlook with
      hfail | ⟨params, t, hp, hv, hv'⟩
    · exact .inl hfail
    · refine .inr ⟨params, _, _, t, hp, hv, hv', fun name hname => ?_⟩
      rw [Spec.find?_fillDefaults hr.nodup_keys, Spec.find?_fillDefaults hr'.nodup_keys]
      rcases hname with hsupplied | hsame
      · have hfound : Entries.find? params name ≠ none := by
          rw [ne_eq, Entries.find?_eq_none_iff, Classical.not_not]
          exact hsupplied
        obtain ⟨v, hv⟩ := Option.ne_none_iff_exists'.mp hfound
        rw [hv]
        rfl
      · rw [hsame]

end Runs

/-- The rule of `c` is optional; it asks for a number and may have any default at all. -/
def presetRules (preset : Option Value) : Spec :=
  [(.text "a", { callbacks := [("with b", .function (.named 7 "f"))], given := [.callbacks] }),
    (.text "c", { type := some ⟨1⟩, optional := true, preset, given := [.type, .optional] })]

theorem presetRules_writtenAs (preset : Option Value) :
    (presetRules preset).WrittenAs (presetRules preset).toValue := Spec.ofValue_eq_ok.mp rfl

theorem presetRules_sameBesideDefaults (preset preset' : Option Value) :
    (presetRules preset).SameBesideDefaults (presetRules preset') :=
  .cons ⟨rfl, ⟨rfl, rfl, rfl, rfl, rfl, .inr rfl⟩⟩
    (.cons ⟨rfl, ⟨rfl, rfl, rfl, rfl, rfl, .inl rfl⟩⟩ .nil)

theorem presetRules_looking (preset : Option Value) : (presetRules preset).Looking pairedHost := by
  intro q hq cb hcb v es s
  simp only [presetRules, List.mem_cons, List.not_mem_nil, or_false] at hq
  rcases hq with rfl | rfl
  · obtain rfl := List.mem_singleton.mp hcb
    rfl
  · cases hcb

/-- A default that its own rule would refuse, with a predicate that counts its name. -/
theorem defaults_are_invisible_to_count :
    validate pairedHost (.map .dict [(.text "a", .int 1)]) (presetRules none).toValue
        [.predicate (.countOf 9 "one of both" [.present "a", .present "c"] 1)] .null (some {})
        { host := [] } =
      validate pairedHost (.map .dict [(.text "a", .int 1)])
        (presetRules (some (.text "x"))).toValue
        [.predicate (.countOf 9 "one of both" [.present "a", .present "c"] 1)] .null (some {})
        { host := [] } :=
  (defaults_are_invisible (presetRules_writtenAs _) (presetRules_writtenAs _)
    (presetRules_sameBesideDefaults _ _) (presetRules_looking _) _ _ _ _ _).1

end ParamGate
