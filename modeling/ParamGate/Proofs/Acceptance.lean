import Mathlib.Data.Nat.Bitwise
import ParamGate.Proofs.Supplied
import ParamGate.Proofs.Verdict
import ParamGate.Proofs.Written
import ParamGate.Script

/-!
What a validation accepts, and what it returns: the parameters supplied, in their order and with
their values, and after them the defaults of those that were not, in the order of the spec.
-/

namespace ParamGate

open Run

variable {σ : Type} {answer : Callable → Value → Entries → Value}

theorem Tag.accepts_iff {t : Tag} {k : Kind} :
    t.accepts k = true ↔ (Tag.ofKind k &&& t).bits ≠ 0 := by
  show t.bits.testBit k.bit = true ↔ 1 <<< k.bit &&& t.bits ≠ 0
  rw [Nat.one_shiftLeft, Nat.two_pow_and]
  cases t.bits.testBit k.bit <;> simp

namespace Rule

/-- The value is of a kind, of a class and of a text that the rule asks for. -/
structure Fits (r : Rule) (v : Value) : Prop where
  type : ∀ t, r.type = some t → (Tag.ofKind v.kind &&& t).bits ≠ 0
  isa : ∀ c, r.isa = some c → v.isInstance c = true
  regex : ∀ p, r.regex = some p → v ≠ .null ∧ v.hasText = true ∧ p.search v.plain = true

structure Meets (answer : Callable → Value → Entries → Value) (params : Entries) (r : Rule)
    (v : Value) : Prop extends r.Fits v where
  callbacks : ∀ cb ∈ r.callbacks, (answer cb.2 v params).truthy = true

theorem fits_iff {r : Rule} {v : Value} :
    r.Fits v ↔ (∀ t, r.type = some t → (Tag.ofKind v.kind &&& t).bits ≠ 0) ∧
      (∀ c, r.isa = some c → v.isInstance c = true) ∧
      ∀ p, r.regex = some p → v ≠ .null ∧ v.hasText = true ∧ p.search v.plain = true := by
  constructor
  · rintro ⟨ht, hi, hr⟩
    exact ⟨ht, hi, hr⟩
  · rintro ⟨ht, hi, hr⟩
    exact ⟨ht, hi, hr⟩

theorem staticFault?_eq_none {r : Rule} {v : Value} : r.staticFault? v = none ↔ r.Fits v := by
  rw [fits_iff, staticFault?, Option.orElse_eq_none, Option.orElse_eq_none]
  refine and_congr ?_ (and_congr ?_ ?_)
  · cases r.type <;> simp [← Tag.accepts_iff]
  · cases r.isa <;> simp
  · cases r.regex with
    | none => simp
    | some p => cases v <;> simp

theorem refusing_eq_none {params : Entries} {v : Value} {callbacks : List (String × Callable)} :
    refusing answer params v callbacks = none ↔
      ∀ cb ∈ callbacks, (answer cb.2 v params).truthy = true := by
  induction callbacks with
  | nil => simp [refusing]
  | cons cb rest ih =>
    rcases cb with ⟨label, c⟩
    cases h : (answer c v params).truthy <;> simp [refusing, h, ih]

theorem verdict_eq_none {params : Entries} {r : Rule} {v : Value} :
    r.verdict answer params v = none ↔ r.Meets answer params v := by
  unfold verdict
  cases h : r.staticFault? v with
  | some f =>
    have hn : ¬ r.Fits v := by
      rw [← staticFault?_eq_none, h]
      simp
    constructor
    · intro h
      cases h
    · intro hm
      exact absurd hm.toFits hn
  | none =>
    have hf := staticFault?_eq_none.mp h
    rw [Option.map_eq_none_iff, refusing_eq_none]
    exact ⟨fun hc => ⟨hf, hc⟩, fun hm => hm.callbacks⟩

end Rule

namespace Spec

/-- No name is without a rule unless such names are allowed, no mandatory name is missing, and every
value supplied meets its rule. -/
structure Accepts (answer : Callable → Value → Entries → Value) (allowExtra : Bool) (rules : Spec)
    (params : Entries) : Prop where
  listed : allowExtra = true ∨ ∀ p ∈ params, ∃ q ∈ rules, q.1.key = p.1.key
  present : ∀ q ∈ rules, q.2.optional = false → q.2.preset = none →
    ∃ p ∈ params, p.1.key = q.1.key
  met : ∀ p ∈ params, ∀ q ∈ rules, q.1.key = p.1.key → q.2.Meets answer params p.2

/-- The defaults of the names that are not supplied, in the order of the spec. -/
def defaults (rules : Spec) (params : Entries) : Entries :=
  rules.filterMap fun q =>
    if Entries.contains params q.1 then none else q.2.preset.map fun d => (q.1, d)

theorem mem_defaults {rules : Spec} {params : Entries} {p : Value × Value} :
    p ∈ rules.defaults params ↔
      ∃ q ∈ rules, q.2.preset = some p.2 ∧ q.1.key ∉ params.keys ∧ q.1 = p.1 := by
  unfold defaults
  rw [List.mem_filterMap]
  refine exists_congr fun q => and_congr_right fun _ => ?_
  rw [Option.ite_none_left_eq_some, Entries.contains_iff, Option.map_eq_some_iff]
  constructor
  · rintro ⟨hnew, d, hd, rfl⟩
    exact ⟨hd, hnew, rfl⟩
  · rintro ⟨hd, hnew, hname⟩
    exact ⟨hnew, p.2, hd, by rw [hname]⟩

section Congr

variable {rules : Spec} {params params' : Entries}
  (h : ∀ q ∈ rules, Entries.contains params' q.1 = Entries.contains params q.1)

include h

theorem missing_congr : rules.missing params' = rules.missing params := by
  have hsame : ∀ q ∈ rules, (!Entries.contains params' q.1 && !q.2.isOptional) =
      (!Entries.contains params q.1 && !q.2.isOptional) := by
    intro q hq
    rw [h q hq]
  rw [missing, missing, List.filter_congr hsame]

theorem defaults_congr : rules.defaults params' = rules.defaults params := by
  apply List.filterMap_congr
  intro q hq
  rw [h q hq]

end Congr

theorem unlisted_eq_nil {rules : Spec} {params : Entries} :
    rules.unlisted params = [] ↔ ∀ p ∈ params, ∃ q ∈ rules, q.1.key = p.1.key := by
  rw [unlisted, ← List.length_eq_zero_iff, List.length_mergeSort, List.length_eq_zero_iff,
    List.map_eq_nil_iff, List.filter_eq_nil_iff]
  simp only [Bool.not_eq_true', Bool.not_eq_false, lists_iff]

theorem missing_eq_nil {rules : Spec} {params : Entries} :
    rules.missing params = [] ↔ ∀ q ∈ rules, q.2.optional = false → q.2.preset = none →
      ∃ p ∈ params, p.1.key = q.1.key := by
  rw [missing, List.map_eq_nil_iff, List.filter_eq_nil_iff]
  apply forall₂_congr
  intro q _
  have hc : Entries.contains params q.1 = true ↔ ∃ p ∈ params, p.1.key = q.1.key :=
    Entries.contains_iff.trans Entries.mem_keys_iff
  rw [← hc, RuleOf.isOptional, RuleOf.hasDefault]
  cases Entries.contains params q.1 <;> cases q.2.optional <;> cases q.2.preset <;> simp

theorem nameFault?_eq_none {rules : Spec} {allowExtra : Bool} {params : Entries} :
    rules.nameFault? allowExtra params = none ↔
      (allowExtra = true ∨ rules.unlisted params = []) ∧ rules.missing params = [] := by
  unfold nameFault?
  cases allowExtra <;> by_cases hu : rules.unlisted params = [] <;>
    by_cases hm : rules.missing params = [] <;> simp [hu, hm]

theorem verdict_eq_none {rules : Spec} {params : Entries} (hd : Entries.Distinct params) :
    rules.verdict answer params = none ↔
      ∀ p ∈ params, ∀ q ∈ rules, q.1.key = p.1.key → q.2.Meets answer params p.2 := by
  induction rules with
  | nil => simp [verdict]
  | cons q rest ih =>
    rcases q with ⟨name, r⟩
    -- The first rule and the others are told apart: only the first looks `name` up.
    have hsplit : (∀ p ∈ params, ∀ q ∈ (name, r) :: rest, q.1.key = p.1.key →
        q.2.Meets answer params p.2) ↔
        (∀ p ∈ params, name.key = p.1.key → r.Meets answer params p.2) ∧
          verdict answer params rest = none := by
      rw [ih]
      simp only [List.forall_mem_cons]
      exact forall₂_and
    rw [hsplit, verdict]
    cases hf : Entries.find? params name with
    | none =>
      have hn : ∀ p ∈ params, name.key = p.1.key → r.Meets answer params p.2 := by
        intro p hp hk
        rw [Entries.find?_of_mem hd hp hk.symm] at hf
        cases hf
      exact ⟨fun h => ⟨hn, h⟩, fun h => h.2⟩
    | some v =>
      have hv : (∀ p ∈ params, name.key = p.1.key → r.Meets answer params p.2) ↔
          r.verdict answer params v = none := by
        rw [Rule.verdict_eq_none]
        constructor
        · intro h
          obtain ⟨k, hk, hm⟩ := Entries.mem_of_find? hf
          exact h (k, v) hm hk.symm
        · intro h p hp hk
          have he := Entries.find?_of_mem hd hp hk.symm
          rw [hf] at he
          cases he
          exact h
      rw [hv]
      dsimp only
      cases hr : r.verdict answer params v with
      | some f => simp
      | none => simp

theorem fault?_eq_none {settings : Settings} {rules : Spec} {params : Entries}
    (hd : Entries.Distinct params) :
    rules.fault? answer settings params = none ↔
      settings.noValidation = true ∨ rules.Accepts answer settings.allowExtra params := by
  unfold fault?
  cases settings.noValidation with
  | true => simp
  | false =>
    simp only [Bool.false_eq_true, if_false, false_or, Option.or_eq_none_iff, nameFault?_eq_none,
      unlisted_eq_nil, missing_eq_nil, verdict_eq_none hd]
    constructor
    · rintro ⟨⟨hl, hp⟩, hm⟩
      exact ⟨hl, hp, hm⟩
    · rintro ⟨hl, hp, hm⟩
      exact ⟨⟨hl, hp⟩, hm⟩

theorem defaults_cons_skip {name : Value} {r : Rule} {rest : Spec} {params : Entries}
    (h : name.key ∈ params.keys ∨ r.preset = none) :
    defaults ((name, r) :: rest) params = defaults rest params := by
  rw [defaults, List.filterMap_cons_none, defaults]
  rcases h with hk | hd
  · rw [if_pos (Entries.contains_iff.mpr hk)]
  · simp [hd]

theorem defaults_cons_fill {name d : Value} {r : Rule} {rest : Spec} {params : Entries}
    (hk : name.key ∉ params.keys) (hd : r.preset = some d) :
    defaults ((name, r) :: rest) params = (name, d) :: defaults rest params := by
  rw [defaults, List.filterMap_cons_some, defaults]
  simp [hk, hd]

theorem defaults_append {rules : Spec} {params : Entries} {name : Value} (d : Value)
    (h : name.key ∉ keys rules) :
    rules.defaults (params ++ [(name, d)]) = rules.defaults params := by
  apply defaults_congr
  intro q hq
  have hne : q.1.key ≠ name.key := by
    intro e
    exact h (e ▸ List.mem_map_of_mem hq)
  rw [Bool.eq_iff_iff, Entries.contains_iff, Entries.contains_iff, Entries.keys_append,
    List.mem_append]
  simp [Entries.keys, hne]

theorem fillDefaults_eq {rules : Spec} (hk : rules.keys.Nodup) (params : Entries) :
    rules.fillDefaults params = params ++ rules.defaults params := by
  induction rules generalizing params with
  | nil => exact (List.append_nil params).symm
  | cons q rest ih =>
    rcases q with ⟨name, r⟩
    have hk' : name.key ∉ keys rest ∧ (keys rest).Nodup := List.nodup_cons.mp hk
    rw [fillDefaults, List.foldl_cons, ← fillDefaults]
    dsimp only
    cases hd : r.preset with
    | none => rw [defaults_cons_skip (.inr hd), ih hk'.2]
    | some d =>
      dsimp only
      by_cases hc : name.key ∈ params.keys
      · rw [if_pos (Entries.contains_iff.mpr hc), defaults_cons_skip (.inl hc), ih hk'.2]
      · -- No later rule is about `name`, so their defaults do not change.
        rw [if_neg (mt Entries.contains_iff.mp hc), Entries.put_of_not_mem hc, ih hk'.2,
          defaults_append d hk'.1, defaults_cons_fill hc hd, List.append_assoc]
        rfl

theorem distinct_fillDefaults {params : Entries} (h : Entries.Distinct params) (rules : Spec) :
    Entries.Distinct (rules.fillDefaults params) := by
  induction rules generalizing params with
  | nil => exact h
  | cons q rest ih =>
    rw [fillDefaults, List.foldl_cons, ← fillDefaults]
    cases q.2.preset with
    | none => exact ih h
    | some d =>
      dsimp only
      cases Entries.contains params q.1 with
      | true => exact ih h
      | false => exact ih (h.put q.1 d)

end Spec

theorem verdict_eq_ok {settings : Settings} {called : Value} {args spec : Value}
    {result : Entries} :
    verdict answer settings called args spec = .ok result ↔
      ∃ rules : Spec, rules.WrittenAs spec ∧ ∃ params, Arguments.Supply args params ∧
        (settings.noValidation = true ∨ rules.Accepts answer settings.allowExtra params) ∧
        result = params ++ rules.defaults params := by
  simp only [← Spec.ofValue_eq_ok, ← Arguments.params_eq_ok]
  unfold verdict
  cases hs : Spec.ofValue spec with
  | error e => simp
  | ok rules =>
    cases ha : Arguments.params args with
    | error e => simp
    | ok params =>
      have hf := Spec.fillDefaults_eq (Spec.ofValue_eq_ok.mp hs).nodup_keys params
      have hn : rules.fault? answer settings params = none ↔
          settings.noValidation = true ∨ rules.Accepts answer settings.allowExtra params :=
        Spec.fault?_eq_none (Arguments.params_eq_ok.mp ha).distinct
      simp only [Except.ok.injEq, exists_eq_left', ← hn, ← hf]
      cases rules.fault? answer settings params <;> simp [eq_comm]

theorem outcome_validateParams {host : Host σ} {spec : Value} {settings : Option Settings}
    {w w₀ : World σ} {S : Settings} (hS : World.settings settings w = .ok S w₀)
    (hc : ∀ rules : Spec, rules.WrittenAs spec → rules.Answered host answer) (args called : Value) :
    outcome (validateParams host args spec called settings w) =
      verdict answer S (Arguments.caller called S) args spec := by
  rw [validateParams_eq hS]
  exact outcome_validateUnder fun rules hr => hc rules (Spec.ofValue_eq_ok.mp hr)

/-- A spec in all three notations: `a` is a scalar that comes with `b`, and `c` has a default. -/
def pairedSpec : Value :=
  .map .dict [(.text "a", .map .dict [(.text "type", .int 1),
      (.text "callbacks", .map .dict [(.text "with b", .function (.named 7 "f"))])]),
    (.text "c", .rule { preset := some .null, given := [.default] }), (.text "b", .bool true)]

def pairedRules : Spec :=
  [(.text "a", { type := some ⟨1⟩, callbacks := [("with b", .function (.named 7 "f"))],
                 given := [.type, .callbacks] }),
    (.text "c", { preset := some .null, given := [.default] }), (.text "b", .mandatory true)]

def pairedHost : Host Counters := Script.host [(7, .has (.text "b"))]

def hasB (_ : Callable) (_ : Value) (es : Entries) : Value :=
  .bool (Entries.find? es (.text "b")).isSome

theorem pairedRules_writtenAs : pairedRules.WrittenAs pairedSpec := Spec.ofValue_eq_ok.mp rfl

theorem eq_of_mem_pairedRules {q : Value × Rule} (hq : q ∈ pairedRules) {cb : String × Callable}
    (hcb : cb ∈ q.2.callbacks) : cb = ("with b", .function (.named 7 "f")) := by
  simp only [pairedRules, List.mem_cons, List.not_mem_nil, or_false] at hq
  rcases hq with rfl | rfl | rfl
  · exact List.mem_singleton.mp hcb
  · cases hcb
  · cases hcb

theorem pairedRules_answered {rules : Spec} (h : rules.WrittenAs pairedSpec) :
    rules.Answered pairedHost hasB := by
  have he : pairedRules = rules := Except.ok.inj
    ((Spec.ofValue_eq_ok.mpr pairedRules_writtenAs).symm.trans (Spec.ofValue_eq_ok.mpr h))
  subst he
  intro q hq cb hcb v es s
  obtain rfl := eq_of_mem_pairedRules hq hcb
  exact ⟨s, rfl⟩

end ParamGate
