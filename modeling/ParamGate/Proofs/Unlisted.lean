import ParamGate.Proofs.Precedence

/-!
Names without a rule. Where they are allowed and no callback looks at them, they influence nothing:
a call fails as it would without them, or returns what it would return without them and they are
carried through.
-/

namespace ParamGate

open Run

variable {σ : Type} {answer : Callable → Value → Entries → Value}

/-- The arguments without the pairs whose names are not kept. -/
inductive Arguments.Restricted (keep : Value → Bool) : Value → Value → Prop
  | mapping (kind : MapKind) (es : Entries) :
    Restricted keep (.map kind es) (.map kind (es.restrict keep))
  | sequence {args args' : Value} (pairs : List (String × Value))
    (h : args.items? = some (flatten (named pairs)))
    (h' : args'.items? = some (flatten (named (pairs.filter fun p => keep (.text p.1))))) :
    Restricted keep args args'

theorem Arguments.Restricted.supply {keep : Value → Bool} {args args' : Value} {params : Entries}
    (h : Restricted keep args args') (hp : Supply args params)
    (hkeep : ∀ a b : Value, a.key = b.key → keep a = keep b) :
    Supply args' (params.restrict keep) := by
  rw [← params_eq_ok] at hp
  cases h with
  | mapping kind es =>
    cases hp
    rw [Entries.restrict_ofPairs hkeep]
    exact .mapping kind _
  | sequence pairs h h' =>
    have hpairs := params_eq_ok.mpr (Supply.sequence pairs h)
    rw [hp] at hpairs
    cases hpairs
    have hnamed : Entries.restrict keep (named pairs) =
        named (pairs.filter fun p => keep (.text p.1)) := List.filter_map
    rw [Entries.restrict_ofPairs hkeep, hnamed]
    exact .sequence _ h'

namespace Spec

/-- Whether a spec has a rule for a name. -/
def named (spec name : Value) : Bool :=
  match spec.entries? with
  | some es => Entries.contains (Entries.ofPairs es) name
  | none => false

theorem named_of_key (spec : Value) (a b : Value) (h : a.key = b.key) :
    named spec a = named spec b := by
  unfold named
  cases spec.entries? with
  | none => rfl
  | some es => rw [Bool.eq_iff_iff, Entries.contains_iff, Entries.contains_iff, h]

variable {rules : Spec} {spec : Value} (hr : rules.WrittenAs spec)

include hr

theorem WrittenAs.named_eq_lists (a : Value) : named spec a = rules.lists a := by
  obtain ⟨kind, es, rfl, hk⟩ := hr.keys_eq
  have hnamed : named (.map kind es) a = true ↔ a.key ∈ rules.keys := by
    rw [hk]
    exact Entries.contains_iff
  rw [Bool.eq_iff_iff, hnamed, lists_iff, keys, List.mem_map]

theorem WrittenAs.named_of_mem {q : Value × Rule} (hq : q ∈ rules) : named spec q.1 = true := by
  rw [hr.named_eq_lists, lists_iff]
  exact ⟨q, hq, rfl⟩

theorem WrittenAs.find?_restrict {q : Value × Rule} (hq : q ∈ rules) (params : Entries) :
    Entries.find? (params.restrict (named spec)) q.1 = Entries.find? params q.1 :=
  Entries.find?_restrict (named_of_key spec) (hr.named_of_mem hq) params

theorem WrittenAs.contains_restrict {q : Value × Rule} (hq : q ∈ rules) (params : Entries) :
    Entries.contains (params.restrict (named spec)) q.1 = Entries.contains params q.1 := by
  rw [Entries.contains, Entries.contains, hr.find?_restrict hq]

theorem WrittenAs.named_of_mem_defaults {params : Entries} {p : Value × Value}
    (hp : p ∈ rules.defaults params) : named spec p.1 = true := by
  obtain ⟨q, hq, -, -, hname⟩ := mem_defaults.mp hp
  rw [← hname]
  exact hr.named_of_mem hq

theorem WrittenAs.fault?_restrict {S : Settings} (hx : S.allowExtra = true)
    (ha : ∀ c v es, answer c v (Entries.restrict (named spec) es) = answer c v es)
    (params : Entries) :
    rules.fault? answer S (params.restrict (named spec)) = rules.fault? answer S params := by
  have hverdict : rules.verdict answer (params.restrict (named spec)) =
      rules.verdict answer params :=
    verdict_congr (fun c v => ha c v params) fun q hq => hr.find?_restrict hq params
  have hmissing : rules.missing (params.restrict (named spec)) = rules.missing params :=
    missing_congr fun q hq => hr.contains_restrict hq params
  unfold fault? nameFault?
  rw [hx, hverdict, hmissing]
  rfl

theorem WrittenAs.restrict_fillDefaults (params : Entries) :
    (rules.fillDefaults params).restrict (named spec) =
        rules.fillDefaults (params.restrict (named spec)) ∧
      (rules.fillDefaults params).restrict (fun a => !named spec a) =
        params.restrict fun a => !named spec a := by
  have hk := hr.nodup_keys
  have hdefaults : rules.defaults (params.restrict (named spec)) = rules.defaults params :=
    defaults_congr fun q hq => hr.contains_restrict hq params
  have hlisted : (rules.defaults params).restrict (named spec) = rules.defaults params :=
    List.filter_eq_self.mpr fun p hp => hr.named_of_mem_defaults hp
  have hunlisted : (rules.defaults params).restrict (fun a => !named spec a) = [] := by
    refine List.filter_eq_nil_iff.mpr fun p hp => ?_
    have hp' := hr.named_of_mem_defaults hp
    simp [hp']
  rw [fillDefaults_eq hk, fillDefaults_eq hk, Entries.restrict_append, Entries.restrict_append,
    hlisted, hunlisted, hdefaults, List.append_nil]
  exact ⟨rfl, rfl⟩

end Spec

/-- Where names without a rule are allowed and no callback looks at them, a call fails iff it does
without them, in the same way. Where it returns without them, it returns the same with them, and
they are in the result as they were supplied. -/
theorem unlisted_names_influence_nothing {host : Host σ} {spec args args' : Value}
    {params : Entries} {settings : Option Settings} {w w₀ : World σ} {S : Settings}
    (hS : World.settings settings w = .ok S w₀) (hx : S.allowExtra = true)
    (hc : ∀ rules : Spec, rules.WrittenAs spec → rules.Answered host answer)
    (ha : ∀ c v es, answer c v (Entries.restrict (Spec.named spec) es) = answer c v es)
    (hargs : Arguments.Supply args params)
    (hargs' : Arguments.Restricted (Spec.named spec) args args') (called : Value) :
    (∀ e, outcome (validateParams host args spec called settings w) = .error e ↔
        outcome (validateParams host args' spec called settings w) = .error e) ∧
      ∀ r, outcome (validateParams host args' spec called settings w) = .ok r →
        ∃ result, outcome (validateParams host args spec called settings w) = .ok result ∧
          result.restrict (Spec.named spec) = r ∧
          result.restrict (fun a => !Spec.named spec a) =
            params.restrict fun a => !Spec.named spec a := by
  have hsupply := hargs'.supply hargs (Spec.named_of_key spec)
  rw [outcome_validateParams hS hc, outcome_validateParams hS hc]
  unfold verdict
  rw [Arguments.params_eq_ok.mpr hargs, Arguments.params_eq_ok.mpr hsupply]
  cases hs : Spec.ofValue spec with
  | error f => exact ⟨fun _ => .rfl, nofun⟩
  | ok rules =>
    have hr := Spec.ofValue_eq_ok.mp hs
    dsimp only
    rw [hr.fault?_restrict hx ha]
    cases rules.fault? answer S params with
    | some f => exact ⟨fun _ => .rfl, nofun⟩
    | none =>
      obtain ⟨hlisted, hunlisted⟩ := hr.restrict_fillDefaults params
      refine ⟨fun _ => ⟨nofun, nofun⟩, fun r h => ⟨_, rfl, ?_, hunlisted⟩⟩
      cases h
      exact hlisted

/-- A flat call in which `x`, which has no rule, comes twice among the others. -/
theorem unlisted_names_influence_nothing_in_flat_call :
    (∀ rules : Spec, rules.WrittenAs pairedSpec → rules.Answered pairedHost hasB) ∧
      (∀ c v es, hasB c v (Entries.restrict (Spec.named pairedSpec) es) = hasB c v es) ∧
      ∃ result, outcome (validateParams pairedHost
          (.list [.text "x", .int 1, .text "b", .null, .text "a", .int 2, .text "x", .int 3])
          pairedSpec .null (some { allowExtra := true }) { host := [] }) = .ok result ∧
        result.restrict (Spec.named pairedSpec) =
          [(.text "b", .null), (.text "a", .int 2), (.text "c", .null)] ∧
        result.restrict (fun a => !Spec.named pairedSpec a) = [(.text "x", .int 3)] := by
  have hanswered : ∀ rules : Spec, rules.WrittenAs pairedSpec → rules.Answered pairedHost hasB :=
    fun _ => pairedRules_answered
  have hb : Spec.named pairedSpec (.text "b") = true := rfl
  have hlook : ∀ c v es, hasB c v (Entries.restrict (Spec.named pairedSpec) es) = hasB c v es := by
    intro c v es
    rw [hasB, hasB, Entries.find?_restrict (Spec.named_of_key pairedSpec) hb]
  have hargs : Arguments.Supply
      (.list [.text "x", .int 1, .text "b", .null, .text "a", .int 2, .text "x", .int 3])
      [(.text "x", .int 3), (.text "b", .null), (.text "a", .int 2)] :=
    Arguments.params_eq_ok.mp rfl
  have hargs' : Arguments.Restricted (Spec.named pairedSpec)
      (.list [.text "x", .int 1, .text "b", .null, .text "a", .int 2, .text "x", .int 3])
      (.list [.text "b", .null, .text "a", .int 2]) :=
    .sequence [("x", .int 1), ("b", .null), ("a", .int 2), ("x", .int 3)] rfl rfl
  exact ⟨hanswered, hlook,
    (unlisted_names_influence_nothing rfl rfl hanswered hlook hargs hargs' .null).2 _ rfl⟩

end ParamGate
