import Mathlib.Data.List.Forall2
import ParamGate.Proofs.PhaseTwo

/-!
How a call ends. The trailing arguments decide first, then the settings, the checks of the
parameters and the predicates one after the other; what comes after the point that decides has not
been run.
-/

namespace ParamGate

open Run

variable {σ : Type} {host : Host σ} {args spec called : Value} {trailing : List Value}
  {settings : Option Settings} {w : World σ}

def Value.IsPredicate (v : Value) : Prop :=
  v.isInstance .callable = true ∧ v.isInstance .type = false

theorem Value.isPredicate_iff {v : Value} : v.IsPredicate ↔ ∃ c, v.condition? = some c := by
  cases v <;> simp [IsPredicate, isInstance, callable?, condition?]

theorem readPredicates_eq_some {vs : List Value} {cs : List Condition} :
    readPredicates vs = some cs ↔ List.Forall₂ (fun v c => v.condition? = some c) vs cs := by
  induction vs generalizing cs with
  | nil => simp [readPredicates, eq_comm]
  | cons v vs ih =>
    rw [readPredicates, List.forall₂_cons_left_iff]
    cases hv : v.condition? with
    | none => simp
    | some c =>
      simp only [Option.map_eq_some_iff, ih, Option.some.injEq]
      constructor
      · rintro ⟨cs', hcs, rfl⟩
        exact ⟨c, cs', rfl, hcs, rfl⟩
      · rintro ⟨c', cs', rfl, hcs, rfl⟩
        exact ⟨cs', hcs, rfl⟩

theorem readPredicates_eq_none {vs : List Value} :
    readPredicates vs = none ↔ ∃ v ∈ vs, ¬ v.IsPredicate := by
  induction vs with
  | nil => simp [readPredicates]
  | cons v vs ih =>
    rw [readPredicates, List.exists_mem_cons_iff, ← ih, Value.isPredicate_iff]
    cases v.condition? <;> simp

theorem exists_readPredicates {vs : List Value} (h : ∀ v ∈ vs, v.IsPredicate) :
    ∃ cs, readPredicates vs = some cs := by
  cases hp : readPredicates vs with
  | none =>
    obtain ⟨v, hv, hn⟩ := readPredicates_eq_none.mp hp
    exact absurd (h v hv) hn
  | some cs => exact ⟨cs, rfl⟩

theorem isPredicate_of_readPredicates {vs : List Value} {cs : List Condition}
    (h : readPredicates vs = some cs) : ∀ v ∈ vs, v.IsPredicate := by
  have hn : ¬ ∃ v ∈ vs, ¬ v.IsPredicate := by
    rw [← readPredicates_eq_none, h]
    simp
  simpa using hn

/-- Predicates asked one after the other, from a stage to a later one, that all hold. -/
inductive AllHold (host : Host σ) : List Condition → Stage σ → Stage σ → Prop
  | nil {s : Stage σ} : AllHold host [] s s
  | cons {c : Condition} {cs : List Condition} {s t u : Stage σ}
    (h : c.eval host .readOnly s = .ok true t) (rest : AllHold host cs t u) :
    AllHold host (c :: cs) s u

theorem AllHold.snoc {c : Condition} {cs : List Condition} {s t u : Stage σ}
    (h : AllHold host cs s t) (hc : c.eval host .readOnly t = .ok true u) :
    AllHold host (cs ++ [c]) s u := by
  induction h with
  | nil => exact .cons hc .nil
  | cons hd _ ih => exact .cons hd (ih hc)

theorem AllHold.params {cs : List Condition} {s t : Stage σ} (h : AllHold host cs s t) :
    t.params = s.params := by
  induction h with
  | nil => rfl
  | @cons c _ _ _ _ hc _ ih => exact ih.trans (c.eval_asks.of_ok hc).params

/-- How a row of predicates, asked in order from a stage on, decides a call. It ends where the first
that raises or does not hold leaves it. -/
inductive Decides (host : Host σ) (caller : Value) (cs : List Condition) (s : Stage σ) :
    EStateM.Result Failure (World σ) Unit → Prop
  | accepted {t : Stage σ} (h : AllHold host cs s t) : Decides host caller cs s (.ok () t.toWorld)
  | raised {before after : List Condition} {c : Condition} {t u : Stage σ} {e : Raised}
    (hcs : cs = before ++ c :: after) (h : AllHold host before s t)
    (hc : c.eval host .readOnly t = .error e u) :
    Decides host caller cs s (.error (.raised e) u.toWorld)
  | rejected {before after : List Condition} {c : Condition} {t u : Stage σ}
    (hcs : cs = before ++ c :: after) (h : AllHold host before s t)
    (hc : c.eval host .readOnly t = .ok false u) :
    Decides host caller cs s (.error .dependency { u.toWorld with
      records := u.records ++ [.dependencyFailed before.length caller c] })

theorem Decides.failure {caller : Value} {cs : List Condition} {s : Stage σ}
    {r : EStateM.Result Failure (World σ) Unit} {e : Failure} (h : Decides host caller cs s r)
    (he : outcome r = .error e) : e = .dependency ∨ ∃ d, e = .raised d := by
  cases h with
  | accepted h => cases he
  | raised hcs h hc =>
    cases he
    exact .inr ⟨_, rfl⟩
  | rejected hcs h hc =>
    cases he
    exact .inl rfl

theorem decides_of_allHold {caller : Value} {before : List Condition} {s t : Stage σ}
    (h : AllHold host before s t) (cs : List Condition) :
    Decides host caller (before ++ cs) s
      (match checkPredicates host caller before.length cs t with
      | .ok _ u => .ok () u.toWorld
      | .error e u => .error e u.toWorld) := by
  induction cs generalizing before t with
  | nil =>
    rw [List.append_nil]
    exact .accepted h
  | cons c cs ih =>
    rw [checkPredicates]
    cases hc : c.eval host .readOnly t with
    | error e u =>
      have hr : raisedAs (c.eval host .readOnly) t = .error (.raised e) u := by
        rw [raisedAs, hc]
      rw [bind_of_error hr]
      exact .raised rfl h hc
    | ok b u =>
      rw [bind_of_ok (raisedAs_eq_ok.mpr hc)]
      cases b with
      | false => exact .rejected rfl h hc
      | true =>
        -- One more predicate holds; the index of the next is the number of those before it.
        have hrest := ih (h.snoc hc)
        rw [List.append_assoc, List.length_append] at hrest
        exact hrest

theorem checkPredicates_of_allHold {caller : Value} {before : List Condition} {s t : Stage σ}
    (h : AllHold host before s t) (index : Nat) (cs : List Condition) :
    checkPredicates host caller index (before ++ cs) s =
      checkPredicates host caller (index + before.length) cs t := by
  induction h generalizing index with
  | nil => rfl
  | @cons c before _ _ _ hc _ ih =>
    rw [List.cons_append, checkPredicates, bind_of_ok (raisedAs_eq_ok.mpr hc), if_pos rfl, ih,
      List.length_cons, Nat.add_assoc, Nat.add_comm 1]

theorem checkPredicates_of_decides {caller : Value} {cs : List Condition} {s : Stage σ}
    {r : EStateM.Result Failure (World σ) Unit} (h : Decides host caller cs s r) :
    (match checkPredicates host caller 0 cs s with
      | .ok _ u => .ok () u.toWorld
      | .error e u => .error e u.toWorld) = r := by
  cases h with
  | accepted h =>
    rw [← List.append_nil cs, checkPredicates_of_allHold h]
    rfl
  | @raised before after c t u e hcs h hc =>
    have hr : raisedAs (c.eval host .readOnly) t = .error (.raised e) u :=
      raisedAs_eq_error.mpr ⟨e, hc, rfl⟩
    rw [hcs, checkPredicates_of_allHold h, checkPredicates, bind_of_error hr]
  | rejected hcs h hc =>
    rw [hcs, checkPredicates_of_allHold h, checkPredicates,
      bind_of_ok (raisedAs_eq_ok.mpr hc), Nat.zero_add]
    rfl

/-- What a call ends with, by the first rung that decides. The checks of the parameters are those
that a validation without predicates makes, from the same world and with the same result. -/
inductive Ending (host : Host σ) (args spec : Value) (trailing : List Value) (called : Value)
    (settings : Option Settings) (w : World σ) : EStateM.Result Failure (World σ) Unit → Prop
  | refused (h : ∃ v ∈ trailing, ¬ v.IsPredicate) :
    Ending host args spec trailing called settings w (.error .trailing { w with args := args })
  | unsettled {faults : List Fault} (h : ∀ v ∈ trailing, v.IsPredicate) (hs : settings = none)
    (hc : w.cached = none) (hb : Settings.build w.environment [] = .error faults) :
    Ending host args spec trailing called settings w
      (.error (.settings faults) { w with args := args })
  | unfit {S : Settings} {w₀ t : World σ} {e : Failure} {checks : List Call}
    (h : ∀ v ∈ trailing, v.IsPredicate) (hs : World.settings settings w = .ok S w₀)
    (hv : validateParams host args spec called settings w = .error e t)
    (hc : t.calls = w.calls ++ checks) (hq : ∀ c ∈ checks, c.IsCheck) :
    Ending host args spec trailing called settings w (.error e t)
  | asked {S : Settings} {w₀ t : World σ} {result params : Entries} {predicates : List Condition}
    {r : EStateM.Result Failure (World σ) Unit}
    (h : List.Forall₂ (fun v c => v.condition? = some c) trailing predicates)
    (hs : World.settings settings w = .ok S w₀)
    (hv : validateParams host args spec called settings w = .ok result t)
    (hp : Arguments.params args = .ok params)
    (hd : Decides host (Arguments.caller called S) predicates { t with params := params } r) :
    Ending host args spec trailing called settings w r

/-- A call ends where the first of its rungs decides, with what that rung says and in the world that
it leaves. All predicates are asked on the same mapping of the caller's arguments. -/
theorem validate_ends_at_first_rung (host : Host σ) (args spec : Value) (trailing : List Value)
    (called : Value) (settings : Option Settings) (w : World σ) :
    Ending host args spec trailing called settings w
        (validate host args spec trailing called settings w) ∧
      (∀ (cs : List Condition) (s t : Stage σ), AllHold host cs s t → t.params = s.params) ∧
      Failure.trailing.report.className = "CombinatorSpecError" ∧
      (∀ faults, (Failure.settings faults).report.className = "ValidationError") ∧
      (∀ e : Raised, (Failure.raised e).report.className = e.cls.name ∧
        (Failure.raised e).report.message = e.text) ∧
      Failure.dependency.report.className = "DependencyValidationError" := by
  refine ⟨?_, fun cs s t h => h.params, rfl, fun faults => rfl, fun e => ⟨rfl, rfl⟩, rfl⟩
  have hg := validate_goes host args spec trailing called settings w
  generalize validate host args spec trailing called settings w = r at hg
  cases hg with
  | refused hp => exact .refused (readPredicates_eq_none.mp hp)
  | unset hp hs =>
    obtain ⟨hnone, hcached, faults, hb, rfl, rfl⟩ := World.settings_eq_error.mp hs
    exact .unsettled (isPredicate_of_readPredicates hp) hnone hcached hb
  | @unfit _ S w₁ t e hp hs hv =>
    have hset : World.Continues Call.IsCheck { w with args := args } w₁ :=
      (World.settings_keeps settings).of_ok hs
    have hval := (validateUnder_keeps host S (Arguments.caller called S) spec).of_error hv
    obtain ⟨-, checks, hcalls, hchecks⟩ := trans_of (World.Continues Call.IsCheck) hset hval
    rw [← validateParams_of_settings hs] at hv
    exact .unfit (isPredicate_of_readPredicates hp) (World.settings_of_receive hs) hv hcalls hchecks
  | @asked predicates S w₁ w₂ result params hp hs hv ha =>
    rw [← validateParams_of_settings hs] at hv
    exact .asked (readPredicates_eq_some.mp hp) (World.settings_of_receive hs) hv ha
      (decides_of_allHold .nil predicates)

end ParamGate
