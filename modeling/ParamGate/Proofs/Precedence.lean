import Mathlib.Data.List.Sort
import Mathlib.Data.String.Basic
import ParamGate.Proofs.Acceptance
import ParamGate.Proofs.Ending
import ParamGate.Proofs.Misreading

/-!
Which of several faults is reported. A call may be wrong in many ways at once; what an observer is
told of is the first in a fixed order: the spec, the arguments as a whole, names without a rule,
names that are missing, and then the values, rule by rule and check by check.
-/

namespace ParamGate

open Run

variable {σ : Type} {answer : Callable → Value → Entries → Value}

namespace Rule

def OfType (r : Rule) (v : Value) : Prop :=
  ∀ t, r.type = some t → (Tag.ofKind v.kind &&& t).bits ≠ 0

def OfClass (r : Rule) (v : Value) : Prop := ∀ c, r.isa = some c → v.isInstance c = true

/-- The checks that need no callback, and the first of them that a value fails. -/
inductive FailsPlainly (r : Rule) (v : Value) : CheckFault → Prop
  | type {t : Tag} (ht : r.type = some t) (hn : (Tag.ofKind v.kind &&& t).bits = 0) :
    FailsPlainly r v (.kind v.kind t)
  | isa {c : HostClass} (ht : r.OfType v) (hc : r.isa = some c) (hn : v.isInstance c = false) :
    FailsPlainly r v (.isa c)
  | regex {p : Pattern} (ht : r.OfType v) (hc : r.OfClass v) (hp : r.regex = some p)
    (hn : v = .null ∨ v.hasText = false ∨ p.search v.plain = false) : FailsPlainly r v .regex

/-- The first check that a value fails: by type, class and pattern, then the callbacks as given. -/
inductive Fails (answer : Callable → Value → Entries → Value) (params : Entries) (r : Rule)
    (v : Value) : CheckFault → Prop
  | plain {f : CheckFault} (h : r.FailsPlainly v f) : Fails answer params r v f
  | callback {before after : List (String × Callable)} {label : String} {c : Callable}
    (hfits : r.Fits v) (hcallbacks : r.callbacks = before ++ (label, c) :: after)
    (hbefore : ∀ cb ∈ before, (answer cb.2 v params).truthy = true)
    (hn : (answer c v params).truthy = false) : Fails answer params r v (.callback label)

variable {r : Rule} {v : Value}

theorem regexFault_iff {p : Pattern} {f : CheckFault} :
    (match v with
      | .null => some CheckFault.regex
      | v => if v.hasText && p.search v.plain then none else some .regex) = some f ↔
      (v = .null ∨ v.hasText = false ∨ p.search v.plain = false) ∧ f = .regex := by
  have hcomm : CheckFault.regex = f ↔ f = .regex := eq_comm
  cases v <;> simp [hcomm, imp_iff_not_or]

theorem staticFault?_eq_some {f : CheckFault} :
    r.staticFault? v = some f ↔ r.FailsPlainly v f := by
  have htype : (r.type.bind fun t => if t.accepts v.kind then none else
      some (CheckFault.kind v.kind t)) = none ↔ r.OfType v := by
    cases ht : r.type <;> simp [OfType, ht, ← Tag.accepts_iff]
  have hclass : (r.isa.bind fun c => if v.isInstance c then none else
      some (CheckFault.isa c)) = none ↔ r.OfClass v := by
    cases hc : r.isa <;> simp [OfClass, hc]
  rw [staticFault?, Option.orElse_eq_some, Option.orElse_eq_some, htype, hclass]
  constructor
  · rintro (h | ⟨ht, h | ⟨hc, h⟩⟩)
    · obtain ⟨t, ht, h⟩ := Option.bind_eq_some_iff.mp h
      obtain ⟨hn, h⟩ := Option.ite_none_left_eq_some.mp h
      rw [Tag.accepts_iff, not_ne_iff] at hn
      cases h
      exact .type ht hn
    · obtain ⟨c, hc, h⟩ := Option.bind_eq_some_iff.mp h
      obtain ⟨hn, h⟩ := Option.ite_none_left_eq_some.mp h
      rw [Bool.not_eq_true] at hn
      cases h
      exact .isa ht hc hn
    · obtain ⟨p, hp, h⟩ := Option.bind_eq_some_iff.mp h
      obtain ⟨hn, rfl⟩ := regexFault_iff.mp h
      exact .regex ht hc hp hn
  · intro h
    cases h with
    | @type t ht hn =>
      refine .inl (Option.bind_eq_some_iff.mpr ⟨t, ht, Option.ite_none_left_eq_some.mpr ⟨?_, rfl⟩⟩)
      rw [Tag.accepts_iff, not_ne_iff]
      exact hn
    | @isa c ht hc hn =>
      refine .inr ⟨ht, .inl (Option.bind_eq_some_iff.mpr ⟨c, hc, ?_⟩)⟩
      rw [hn]
      rfl
    | @regex p ht hc hp hn =>
      have hregex := regexFault_iff.mpr ⟨hn, rfl⟩
      exact .inr ⟨ht, .inr ⟨hc, Option.bind_eq_some_iff.mpr ⟨p, hp, hregex⟩⟩⟩

theorem refusing_eq_findSome? (params : Entries) (v : Value)
    (callbacks : List (String × Callable)) :
    refusing answer params v callbacks =
      callbacks.findSome? fun cb => if (answer cb.2 v params).truthy then none else some cb.1 := by
  induction callbacks with
  | nil => rfl
  | cons cb rest ih =>
    rcases cb with ⟨label, c⟩
    rw [refusing, List.findSome?_cons, ih]
    cases (answer c v params).truthy <;> rfl

theorem verdict_eq_some {params : Entries} {f : CheckFault} :
    r.verdict answer params v = some f ↔ r.Fails answer params v f := by
  unfold verdict
  cases hs : r.staticFault? v with
  | some g =>
    have hg := staticFault?_eq_some.mp hs
    constructor
    · intro h
      cases h
      exact .plain hg
    · intro h
      cases h with
      | plain h => rw [← hs, staticFault?_eq_some.mpr h]
      | callback hfits _ _ _ =>
        rw [staticFault?_eq_none.mpr hfits] at hs
        cases hs
  | none =>
    rw [Option.map_eq_some_iff]
    constructor
    · rintro ⟨label, hl, rfl⟩
      rw [refusing_eq_findSome?, List.findSome?_eq_some_iff] at hl
      obtain ⟨before, ⟨l, c⟩, after, hcallbacks, hn, hbefore⟩ := hl
      obtain ⟨hn, h⟩ := Option.ite_none_left_eq_some.mp hn
      cases h
      have hfits := staticFault?_eq_none.mp hs
      exact .callback hfits hcallbacks (by simpa using hbefore) (by simpa using hn)
    · intro h
      cases h with
      | plain h =>
        rw [staticFault?_eq_some.mpr h] at hs
        cases hs
      | @callback before after label c hfits hcallbacks hbefore hn =>
        refine ⟨label, ?_, rfl⟩
        rw [refusing_eq_findSome?, List.findSome?_eq_some_iff]
        exact ⟨before, (label, c), after, hcallbacks, by simp [hn], by simpa using hbefore⟩

end Rule

namespace Spec

variable {rules : Spec} {params : Entries}

theorem verdict_eq_findSome? (params : Entries) (rules : Spec) :
    rules.verdict answer params =
      rules.findSome? fun q => (Entries.find? params q.1).bind fun v =>
        (q.2.verdict answer params v).map fun f => .check q.1 v f := by
  induction rules with
  | nil => rfl
  | cons q rest ih =>
    rcases q with ⟨name, r⟩
    rw [verdict, List.findSome?_cons, ih]
    cases Entries.find? params name with
    | none => rfl
    | some v =>
      dsimp only [Option.bind_some]
      cases r.verdict answer params v <;> rfl

theorem judge_eq_none {q : Value × Rule} :
    ((Entries.find? params q.1).bind fun v =>
      (q.2.verdict answer params v).map fun f => ArgumentFault.check q.1 v f) = none ↔
      ∀ u, Entries.find? params q.1 = some u → q.2.Meets answer params u := by
  simp only [Option.bind_eq_none_iff, Option.map_eq_none_iff, Rule.verdict_eq_none]

theorem verdict_eq_some {f : ArgumentFault} :
    rules.verdict answer params = some f ↔
      ∃ before name r after v g, rules = before ++ (name, r) :: after ∧
        (∀ q ∈ before, ∀ u, Entries.find? params q.1 = some u → q.2.Meets answer params u) ∧
        Entries.find? params name = some v ∧ r.Fails answer params v g ∧ f = .check name v g := by
  rw [verdict_eq_findSome?, List.findSome?_eq_some_iff]
  constructor
  · rintro ⟨before, ⟨name, r⟩, after, hrules, hf, hbefore⟩
    obtain ⟨v, hv, hf⟩ := Option.bind_eq_some_iff.mp hf
    obtain ⟨g, hg, rfl⟩ := Option.map_eq_some_iff.mp hf
    exact ⟨before, name, r, after, v, g, hrules, fun q hq => judge_eq_none.mp (hbefore q hq), hv,
      Rule.verdict_eq_some.mp hg, rfl⟩
  · rintro ⟨before, name, r, after, v, g, hrules, hbefore, hv, hg, rfl⟩
    refine ⟨before, (name, r), after, hrules, ?_, fun q hq => judge_eq_none.mpr (hbefore q hq)⟩
    rw [hv, Option.bind_some, Rule.verdict_eq_some.mpr hg]
    rfl

theorem eq_unlisted_iff {names : List String} :
    names = rules.unlisted params ↔
      names.Perm ((params.filter fun p => !rules.lists p.1).map fun p => p.1.plain) ∧
        names.Pairwise (· ≤ ·) := by
  have hsorted : (rules.unlisted params).Pairwise (· ≤ ·) := List.pairwise_mergeSort' (· ≤ ·) _
  have hperm := List.mergeSort_perm
    ((params.filter fun p => !rules.lists p.1).map fun p => p.1.plain) (· ≤ ·)
  constructor
  · rintro rfl
    exact ⟨hperm, hsorted⟩
  · rintro ⟨h, hs⟩
    exact (h.trans hperm.symm).eq_of_pairwise' hs hsorted

theorem nameFault?_eq_some {allowExtra : Bool} {f : ArgumentFault} :
    rules.nameFault? allowExtra params = some f ↔
      (allowExtra = false ∧ rules.unlisted params ≠ [] ∧ f = rules.unlistedFault params) ∨
        ((allowExtra = true ∨ rules.unlisted params = []) ∧ rules.missing params ≠ [] ∧
          f = .missing (rules.missing params)) := by
  unfold nameFault?
  cases allowExtra <;> by_cases hu : rules.unlisted params = [] <;>
    by_cases hm : rules.missing params = [] <;> simp [hu, hm, eq_comm (a := f)]

section

variable {allowExtra : Bool}

end

end Spec

theorem Spec.fault?_eq_some {S : Settings} {rules : Spec} {params : Entries} {f : ArgumentFault} :
    rules.fault? answer S params = some f ↔
      S.noValidation = false ∧ (rules.nameFault? S.allowExtra params = some f ∨
        rules.nameFault? S.allowExtra params = none ∧ rules.verdict answer params = some f) := by
  rw [fault?, Option.ite_none_left_eq_some, Bool.not_eq_true, Option.or_eq_some_iff]

namespace Arguments

/-- A fault of the arguments as a whole, which is about no single parameter. -/
inductive Misshapen : ArgumentFault → Prop
  | shape : Misshapen .shape
  | odd : Misshapen .odd
  | nameNotText (found : String) (position : Nat) : Misshapen (.nameNotText found position)

theorem misshapen_of_pairUp {position : Nat} {acc : Entries} {vs : List Value} {f : ArgumentFault}
    (h : pairUp position acc vs = .error f) : Misshapen f := by
  fun_induction pairUp position acc vs with
  | case1 => cases h
  | case2 =>
    cases h
    exact .odd
  | case3 position acc name v rest ih => exact ih h
  | case4 =>
    cases h
    exact .nameNotText ..

theorem misshapen_of_params {args : Value} {f : ArgumentFault} (h : params args = .error f) :
    f = .overlong ∨ Misshapen f := by
  rcases exists_items_of_params h with rfl | rfl | ⟨vs, -, hvs⟩
  · exact .inr .shape
  · exact .inl rfl
  · rw [ofItems] at hvs
    split at hvs
    · cases hvs
      exact .inr .odd
    · exact .inr (misshapen_of_pairUp hvs)

end Arguments

theorem ArgumentFault.report_check (caller name v : Value) (g : CheckFault) :
    report caller (.check name v g) = .showing [caller, name, v]
      { className := "ParamsValidationError"
        message := (check name v g).message caller.plain
        param := some name } := rfl

/-- The spec and the arguments of a call can be read, and the parameters are to be checked. -/
structure Examined (S : Settings) (args spec : Value) (rules : Spec) (params : Entries) :
    Prop where
  written : rules.WrittenAs spec
  supplied : Arguments.Supply args params
  checking : S.noValidation = false

section Verdict

variable {S : Settings} {caller args spec : Value}

theorem verdict_eq_error {e : Failure} :
    verdict answer S caller args spec = .error e ↔
      (∃ f, Spec.ofValue spec = .error f ∧ e = .spec f) ∨
        (∃ rules : Spec, ∃ f, rules.WrittenAs spec ∧ Arguments.params args = .error f ∧
          e = .arguments caller f) ∨
        ∃ rules params f, Examined S args spec rules params ∧
          (rules.nameFault? S.allowExtra params = some f ∨
            rules.nameFault? S.allowExtra params = none ∧
              rules.verdict answer params = some f) ∧
          e = .arguments caller f := by
  constructor
  · intro h
    unfold verdict at h
    cases hs : Spec.ofValue spec with
    | error f =>
      rw [hs] at h
      cases h
      exact .inl ⟨f, rfl, rfl⟩
    | ok rules =>
      have hr := Spec.ofValue_eq_ok.mp hs
      rw [hs] at h
      cases ha : Arguments.params args with
      | error f =>
        rw [ha] at h
        cases h
        exact .inr (.inl ⟨rules, f, hr, rfl, rfl⟩)
      | ok params =>
        rw [ha] at h
        dsimp only at h
        cases hf : rules.fault? answer S params with
        | none =>
          rw [hf] at h
          cases h
        | some f =>
          rw [hf] at h
          cases h
          obtain ⟨hn, hf⟩ := Spec.fault?_eq_some.mp hf
          exact .inr (.inr ⟨rules, params, f, ⟨hr, Arguments.params_eq_ok.mp ha, hn⟩, hf, rfl⟩)
  · rintro (⟨f, hf, rfl⟩ | ⟨rules, f, hr, hf, rfl⟩ | ⟨rules, params, f, h, hf, rfl⟩)
    · rw [verdict, hf]
    · rw [verdict, Spec.ofValue_eq_ok.mpr hr, hf]
    · have hfault := Spec.fault?_eq_some.mpr ⟨h.checking, hf⟩
      rw [verdict, Spec.ofValue_eq_ok.mpr h.written, Arguments.params_eq_ok.mpr h.supplied]
      dsimp only
      rw [hfault]

theorem Examined.reports {rules : Spec} {params : Entries} {f : ArgumentFault}
    (h : Examined S args spec rules params)
    (hf : rules.nameFault? S.allowExtra params = some f ∨
      rules.nameFault? S.allowExtra params = none ∧ rules.verdict answer params = some f) :
    ∃ e, verdict answer S caller args spec = .error e ∧
      e.report = (Failure.arguments caller f).report :=
  ⟨_, verdict_eq_error.mpr (.inr (.inr ⟨rules, params, f, h, hf, rfl⟩)), rfl⟩

end Verdict

/-- A pattern in which a repetition passes what can be counted. -/
def overlongRule : Value := .map .dict [(.text "regex", .text "a\x7b4294967295\x7d")]

theorem ofValue_overlongRule (name : Value) :
    Rule.ofValue name overlongRule = .error (.malformed name (.pattern .manyRepeats)) := by
  have hflaw : Rule.fatalFlaw? [(.text "regex", .text "a\x7b4294967295\x7d")] =
      some .manyRepeats := by
    decide +kernel
  rw [overlongRule, Rule.ofValue, Rule.ofEntries_eq_pattern.mpr hflaw]

end ParamGate
