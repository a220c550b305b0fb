import ParamGate.Proofs.Ending
import ParamGate.Proofs.Order
import ParamGate.Proofs.Screening

/-!
Building a predicate out of anything. The calls of an expression are made from the left and from the
inside out, and the first that is given something that can be no option fails. What has been built
never fails on its own: only the functions that it was given can raise.
-/

namespace ParamGate

open Run

variable {σ : Type}

/-- What may be given to a combinator: a name, or whatever can be called, classes apart. -/
def Value.IsOption (v : Value) : Prop := (∃ s, v = .text s) ∨ v.IsPredicate

theorem Value.isOption_iff {v : Value} : v.IsOption ↔ ∃ c, v.option? = some c := by
  cases v <;> simp [IsOption, isPredicate_iff, option?, condition?]

def Value.functions (v : Value) : List HostFunction :=
  match v.condition? with
  | some c => c.functions
  | none => []

theorem Value.functions_of_option {v : Value} {c : Condition} (h : v.option? = some c) :
    c.functions = v.functions := by
  cases v with
  | text s =>
    cases h
    rfl
  | function f =>
    cases h
    rfl
  | predicate p =>
    cases h
    rfl
  | _ => cases h

theorem readOptions_eq_ok {title : String} {vs : List Value} {cs : List Condition} :
    readOptions title vs = .ok cs ↔ List.Forall₂ (fun v c => v.option? = some c) vs cs := by
  induction vs generalizing cs with
  | nil => simp [readOptions, eq_comm]
  | cons v vs ih =>
    rw [readOptions, List.forall₂_cons_left_iff]
    cases hv : v.option? with
    | none => simp
    | some c =>
      simp only [← ih, Option.some.injEq]
      cases readOptions title vs <;> simp [eq_comm]

theorem readOptions_eq_error {title : String} {vs : List Value} {f : Failure} :
    readOptions title vs = .error f ↔ (∃ v ∈ vs, ¬ v.IsOption) ∧ f = .options title := by
  induction vs with
  | nil => simp [readOptions]
  | cons v vs ih =>
    rw [readOptions, List.exists_mem_cons_iff, Value.isOption_iff]
    cases hv : v.option? with
    | none => simp [eq_comm]
    | some c =>
      simp only [Option.some.injEq, exists_eq', not_true, false_or, ← ih]
      cases readOptions title vs <;> simp

namespace Combinator

variable {c : Combinator} {identity : Nat} {vs : List Value}

theorem build_eq_ok {p : Predicate} :
    c.build identity vs = .ok p ↔
      ∃ cs, List.Forall₂ (fun v o => v.option? = some o) vs cs ∧ p = c.combine identity cs := by
  have hread (cs : List Condition) := @readOptions_eq_ok c.name vs cs
  simp only [build, ← hread]
  cases readOptions c.name vs <;> simp [Except.map, eq_comm]

theorem build_eq_error {f : Failure} :
    c.build identity vs = .error f ↔ (∃ v ∈ vs, ¬ v.IsOption) ∧ f = .options c.name := by
  rw [build, ← readOptions_eq_error]
  cases readOptions c.name vs <;> simp [Except.map]

end Combinator

/-- Calls of combinators nested in each other, with whatever values at the leaves. -/
inductive Expression where
  | leaf (v : Value)
  | call (c : Combinator) (identity : Nat) (arguments : List Expression)

namespace Expression

@[elab_as_elim]
theorem induction {motive : Expression → Prop} (leaf : ∀ v, motive (.leaf v))
    (call : ∀ c identity es, (∀ e ∈ es, motive e) → motive (.call c identity es))
    (e : Expression) : motive e := by
  match e with
  | .leaf v => exact leaf v
  | .call c identity es => exact call c identity es fun e _ => induction leaf call e

mutual

def build : Expression → Except Failure Value
  | .leaf v => .ok v
  | .call c identity arguments =>
    match buildAll arguments with
    | .ok vs => (c.build identity vs).map .predicate
    | .error e => .error e

def buildAll : List Expression → Except Failure (List Value)
  | [] => .ok []
  | e :: es =>
    match e.build with
    | .error e => .error e
    | .ok v =>
      match buildAll es with
      | .ok vs => .ok (v :: vs)
      | .error e => .error e

end

mutual

def leaves : Expression → List Value
  | .leaf v => [v]
  | .call _ _ arguments => leavesAll arguments

def leavesAll : List Expression → List Value
  | [] => []
  | e :: es => e.leaves ++ leavesAll es

end

mutual

/-- The calls with their arguments, from left to right and each after those among its arguments. -/
def calls : Expression → List (Combinator × List Expression)
  | .leaf _ => []
  | .call c _ arguments => callsAll arguments ++ [(c, arguments)]

def callsAll : List Expression → List (Combinator × List Expression)
  | [] => []
  | e :: es => e.calls ++ callsAll es

end

def Unfit (arguments : List Expression) : Prop := ∃ v, leaf v ∈ arguments ∧ ¬ v.IsOption

variable {c : Combinator} {identity : Nat} {es : List Expression}

theorem leavesAll_eq_flatMap (es : List Expression) : leavesAll es = es.flatMap leaves := by
  induction es with
  | nil => rfl
  | cons e es ih => rw [leavesAll, ih, List.flatMap_cons]

theorem mem_callsAll {d : Combinator × List Expression} :
    d ∈ callsAll es ↔ ∃ e ∈ es, d ∈ e.calls := by
  induction es with
  | nil => simp [callsAll]
  | cons e es ih => simp [callsAll, ih]

theorem mem_leaves {e : Expression} {v : Value} :
    v ∈ e.leaves ↔ e = .leaf v ∨ ∃ d ∈ e.calls, leaf v ∈ d.2 := by
  induction e using Expression.induction with
  | leaf u => simp [leaves, calls, eq_comm]
  | call c identity es ih =>
    rw [leaves, leavesAll_eq_flatMap, List.mem_flatMap]
    constructor
    · rintro ⟨e, he, hv⟩
      rcases (ih e he).mp hv with rfl | ⟨d, hd, hm⟩
      · exact .inr ⟨(c, es), by simp [calls], he⟩
      · exact .inr ⟨d, List.mem_append_left _ (mem_callsAll.mpr ⟨e, he, hd⟩), hm⟩
    · rintro (h | ⟨d, hd, hm⟩)
      · cases h
      · rcases List.mem_append.mp hd with hd | hd
        · obtain ⟨e, he, hd⟩ := mem_callsAll.mp hd
          exact ⟨e, he, (ih e he).mpr (.inr ⟨d, hd, hm⟩)⟩
        · obtain rfl := List.mem_singleton.mp hd
          exact ⟨.leaf v, hm, by simp [leaves]⟩

/-- All leaves of a call can be options iff no call that is made is given one that cannot. -/
theorem forall_leaves_iff :
    (∀ v ∈ (call c identity es).leaves, v.IsOption) ↔
      ∀ d ∈ (call c identity es).calls, ¬ Unfit d.2 := by
  constructor
  · rintro h d hd ⟨v, hm, hv⟩
    exact hv (h v (mem_leaves.mpr (.inr ⟨d, hd, hm⟩)))
  · intro h v hv
    by_contra hn
    rcases mem_leaves.mp hv with he | ⟨d, hd, hm⟩
    · cases he
    · exact h d hd ⟨v, hm, hn⟩

open scoped Classical in
/-- The first of some calls that is given a leaf that can be no option. -/
noncomputable def firstUnfit? (calls : List (Combinator × List Expression)) :
    Option (Combinator × List Expression) :=
  calls.find? fun d => decide (Unfit d.2)

section FirstUnfit

variable {xs ys : List (Combinator × List Expression)} {d : Combinator × List Expression}

theorem firstUnfit?_append :
    firstUnfit? (xs ++ ys) = (firstUnfit? xs).or (firstUnfit? ys) :=
  List.find?_append

theorem firstUnfit?_eq_none : firstUnfit? xs = none ↔ ∀ d ∈ xs, ¬ Unfit d.2 := by
  simp [firstUnfit?]

theorem firstUnfit?_eq_some :
    firstUnfit? xs = some d ↔
      ∃ before after, xs = before ++ d :: after ∧ (∀ b ∈ before, ¬ Unfit b.2) ∧ Unfit d.2 := by
  rw [firstUnfit?, List.find?_eq_some_iff_append]
  simp only [decide_eq_true_iff, Bool.not_eq_true', decide_eq_false_iff_not]
  constructor
  · rintro ⟨hd, before, after, hxs, hb⟩
    exact ⟨before, after, hxs, hb, hd⟩
  · rintro ⟨before, after, hxs, hb, hd⟩
    exact ⟨hd, before, after, hxs, hb⟩

end FirstUnfit

theorem buildAll_eq_ok {vs : List Value} :
    buildAll es = .ok vs ↔ List.Forall₂ (fun e v => e.build = .ok v) es vs := by
  induction es generalizing vs with
  | nil => simp [buildAll, eq_comm]
  | cons e es ih =>
    rw [buildAll, List.forall₂_cons_left_iff]
    cases he : e.build with
    | error f => simp
    | ok v =>
      simp only [← ih, Except.ok.injEq]
      cases buildAll es <;> simp [eq_comm]

theorem build_call_of_buildAll {vs : List Value} (h : buildAll es = .ok vs) :
    (call c identity es).build = (c.build identity vs).map .predicate := by
  rw [build, h]

theorem build_call_of_error {f : Failure} (h : buildAll es = .error f) :
    (call c identity es).build = .error f := by
  rw [build, h]

theorem build_call_eq_ok {v : Value} :
    (call c identity es).build = .ok v ↔
      ∃ vs cs, List.Forall₂ (fun e u => e.build = .ok u) es vs ∧
        List.Forall₂ (fun u o => u.option? = some o) vs cs ∧
        v = .predicate (c.combine identity cs) := by
  constructor
  · intro h
    cases hvs : buildAll es with
    | error f =>
      rw [build_call_of_error hvs] at h
      cases h
    | ok vs =>
      rw [build_call_of_buildAll hvs] at h
      cases hp : c.build identity vs with
      | error f =>
        rw [hp] at h
        cases h
      | ok p =>
        rw [hp] at h
        cases h
        obtain ⟨cs, hcs, rfl⟩ := Combinator.build_eq_ok.mp hp
        exact ⟨vs, cs, buildAll_eq_ok.mp hvs, hcs, rfl⟩
  · rintro ⟨vs, cs, hvs, hcs, rfl⟩
    rw [build_call_of_buildAll (buildAll_eq_ok.mpr hvs), Combinator.build_eq_ok.mpr ⟨cs, hcs, rfl⟩]
    rfl

theorem unfit_iff {vs : List Value} (h : List.Forall₂ (fun e v => e.build = .ok v) es vs) :
    Unfit es ↔ ∃ v ∈ vs, ¬ v.IsOption := by
  induction h with
  | nil => simp [Unfit]
  | @cons e v es vs he _ ih =>
    have hcons : Unfit (e :: es) ↔ (∃ u, e = .leaf u ∧ ¬ u.IsOption) ∨ Unfit es := by
      simp [Unfit, or_and_right, exists_or, eq_comm]
    have hhead : (∃ u, e = .leaf u ∧ ¬ u.IsOption) ↔ ¬ v.IsOption := by
      cases e with
      | leaf u =>
        cases he
        simp
      | call c identity arguments =>
        obtain ⟨_, cs, -, -, rfl⟩ := build_call_eq_ok.mp he
        simp [Value.isOption_iff, Value.option?, Value.condition?]
    rw [hcons, hhead, ih, List.exists_mem_cons_iff]

def failure? {α : Type} : Except Failure α → Option Failure
  | .ok _ => none
  | .error f => some f

theorem failure?_buildAll_cons (e : Expression) (es : List Expression) :
    failure? (buildAll (e :: es)) = (failure? e.build).or (failure? (buildAll es)) := by
  rw [buildAll]
  cases e.build with
  | error f => rfl
  | ok v => cases buildAll es <;> rfl

theorem failure?_build_call {vs : List Value} (h : buildAll es = .ok vs) :
    failure? (call c identity es).build =
      (firstUnfit? [(c, es)]).map fun d => .options d.1.name := by
  rw [build_call_of_buildAll h]
  have hunfit := unfit_iff (buildAll_eq_ok.mp h)
  cases hb : c.build identity vs with
  | ok p =>
    have hfit : ¬ Unfit es := by
      rw [hunfit]
      intro hn
      have herr : c.build identity vs = .error _ := Combinator.build_eq_error.mpr ⟨hn, rfl⟩
      rw [hb] at herr
      cases herr
    have hnone : firstUnfit? [(c, es)] = none := by simpa [firstUnfit?_eq_none] using hfit
    rw [hnone]
    rfl
  | error f =>
    obtain ⟨hn, rfl⟩ := Combinator.build_eq_error.mp hb
    have hsome : firstUnfit? [(c, es)] = some (c, es) :=
      firstUnfit?_eq_some.mpr ⟨[], [], rfl, by simp, hunfit.mpr hn⟩
    rw [hsome]
    rfl

/-- Building fails iff some call is given a leaf that can be no option, and with the name of the
first such call. -/
theorem failure?_build (e : Expression) :
    failure? e.build = (firstUnfit? e.calls).map fun d => .options d.1.name := by
  induction e using Expression.induction with
  | leaf v => rfl
  | call c identity es ih =>
    have hall : failure? (buildAll es) =
        (firstUnfit? (callsAll es)).map fun d => .options d.1.name := by
      induction es with
      | nil => rfl
      | cons e es ihes =>
        rw [failure?_buildAll_cons, ih e List.mem_cons_self,
          ihes fun e he => ih e (List.mem_cons_of_mem _ he), callsAll, firstUnfit?_append,
          Option.map_or]
    rw [calls, firstUnfit?_append, Option.map_or, ← hall]
    -- An argument that fails to build keeps the call from being made.
    cases hvs : buildAll es with
    | error f =>
      rw [build_call_of_error hvs]
      rfl
    | ok vs => exact failure?_build_call hvs

theorem build_eq_error {e : Expression} {f : Failure} :
    e.build = .error f ↔
      ∃ before d after, e.calls = before ++ d :: after ∧ (∀ b ∈ before, ¬ Unfit b.2) ∧
        Unfit d.2 ∧ f = .options d.1.name := by
  have hf : e.build = .error f ↔ failure? e.build = some f := by
    cases e.build <;> simp [failure?]
  rw [hf, failure?_build, Option.map_eq_some_iff]
  simp only [firstUnfit?_eq_some]
  constructor
  · rintro ⟨d, ⟨before, after, hc, hb, hd⟩, rfl⟩
    exact ⟨before, d, after, hc, hb, hd, rfl⟩
  · rintro ⟨before, d, after, hc, hb, hd, rfl⟩
    exact ⟨d, ⟨before, after, hc, hb, hd⟩, rfl⟩

-- Both calls are given a number; the inner one is made first.
example : (call .allOf 0 [leaf (.int 5), call .noneOf 1 [leaf (.int 3)]]).build =
    .error (.options "none_of") := by
  rfl

theorem build_call_succeeds_iff :
    (∃ p, (call c identity es).build = .ok (.predicate p)) ↔
      ∀ v ∈ (call c identity es).leaves, v.IsOption := by
  rw [forall_leaves_iff, ← firstUnfit?_eq_none, ← Option.map_eq_none_iff, ← failure?_build]
  constructor
  · rintro ⟨p, hp⟩
    rw [hp]
    rfl
  · intro h
    cases hb : (call c identity es).build with
    | error f =>
      rw [hb] at h
      cases h
    | ok v =>
      obtain ⟨_, cs, -, -, rfl⟩ := build_call_eq_ok.mp hb
      exact ⟨_, rfl⟩

theorem build_call_fails_iff :
    (∃ f, (call c identity es).build = .error f) ↔
      ∃ v ∈ (call c identity es).leaves, ¬ v.IsOption := by
  have hsucceeds := not_congr (@build_call_succeeds_iff c identity es)
  simp only [not_forall, exists_prop] at hsucceeds
  rw [← hsucceeds]
  constructor
  · rintro ⟨f, hf⟩ ⟨p, hp⟩
    rw [hf] at hp
    cases hp
  · intro hn
    cases hb : (call c identity es).build with
    | error f => exact ⟨f, rfl⟩
    | ok v =>
      obtain ⟨_, cs, -, -, rfl⟩ := build_call_eq_ok.mp hb
      exact absurd ⟨_, hb⟩ hn

theorem forall₂_trans {α β γ : Type} {R : α → β → Prop} {S : β → γ → Prop} {as : List α}
    {bs : List β} {cs : List γ} (h : List.Forall₂ R as bs) (h' : List.Forall₂ S bs cs) :
    List.Forall₂ (fun a c => ∃ b, R a b ∧ S b c) as cs := by
  induction h generalizing cs with
  | nil =>
    cases h'
    exact .nil
  | cons hab _ ih =>
    cases h' with
    | cons hbc hrest => exact .cons ⟨_, hab, hbc⟩ (ih hrest)

theorem functionsAll_of_options {vs : List Value} {cs : List Condition}
    (h : List.Forall₂ (fun v c => v.option? = some c) vs cs) :
    Condition.functionsAll cs = vs.flatMap Value.functions := by
  induction h with
  | nil => rfl
  | cons hv _ ih =>
    rw [Condition.functionsAll, ih, List.flatMap_cons, Value.functions_of_option hv]

/-- What has been built asks the functions that its leaves ask, from left to right, and no other. -/
theorem functions_of_build {e : Expression} {v : Value} (h : e.build = .ok v) :
    v.functions = e.leaves.flatMap Value.functions := by
  induction e using Expression.induction generalizing v with
  | leaf u =>
    cases h
    rw [leaves, List.flatMap_singleton]
  | call c identity es ih =>
    obtain ⟨vs, cs, hvs, hcs, rfl⟩ := build_call_eq_ok.mp h
    have hp : (Value.predicate (c.combine identity cs)).functions = Condition.functionsAll cs := rfl
    rw [hp, functionsAll_of_options hcs, leaves, leavesAll_eq_flatMap]
    clear hcs h
    induction hvs with
    | nil => rfl
    | @cons e v es vs he _ ihes =>
      have hrest := ihes fun e he => ih e (List.mem_cons_of_mem _ he)
      rw [List.flatMap_cons, List.flatMap_cons, List.flatMap_append, ← hrest,
        ih e List.mem_cons_self he]

end Expression

theorem validate_eq_trailing {host : Host σ} {args spec called : Value} {trailing : List Value}
    {settings : Option Settings} {w : World σ} :
    outcome (validate host args spec trailing called settings w) = .error .trailing ↔
      ∃ v ∈ trailing, ¬ v.IsPredicate := by
  have hg := validate_goes host args spec trailing called settings w
  generalize validate host args spec trailing called settings w = r at hg
  have hread {cs : List Condition} (hp : readPredicates trailing = some cs) :
      ¬ ∃ v ∈ trailing, ¬ v.IsPredicate := by
    have hall := isPredicate_of_readPredicates hp
    simpa using hall
  cases hg with
  | refused hp => exact iff_of_true rfl (readPredicates_eq_none.mp hp)
  | unset hp hs =>
    obtain ⟨-, -, faults, -, rfl, -⟩ := World.settings_eq_error.mp hs
    exact iff_of_false nofun (hread hp)
  | unfit hp hs hv =>
    rcases failure_of_validateUnder hv with ⟨f, rfl⟩ | ⟨f, rfl⟩ | ⟨e, rfl⟩ <;>
      exact iff_of_false nofun (hread hp)
  | asked hp hs hv ha =>
    refine iff_of_false (fun hr => ?_) (hread hp)
    rcases (decides_of_allHold .nil _).failure hr with he | ⟨e, he⟩ <;> cases he

/-- A call of a combinator over whatever expressions makes a predicate if every leaf is a name or a
predicate. Otherwise it fails, and the combinator named is that of the first call made that is
itself given anything else. Making a predicate asks no function and keeps the options of every call
in order. What is made asks none but the functions at the leaves, and it raises only where the one
that it asked last did. A value can be an option iff it is a name or the gate takes it for a
predicate. -/
theorem building_refuses_or_serves (c : Combinator) (identity : Nat) (arguments : List Expression) :
    ((∃ p, (Expression.call c identity arguments).build = .ok (.predicate p)) ↔
      ∀ v ∈ (Expression.call c identity arguments).leaves, v.IsOption) ∧
    ((∃ f, (Expression.call c identity arguments).build = .error f) ↔
      ∃ v ∈ (Expression.call c identity arguments).leaves, ¬ v.IsOption) ∧
    (∀ f, (Expression.call c identity arguments).build = .error f ↔
      ∃ before d after, (Expression.call c identity arguments).calls = before ++ d :: after ∧
        (∀ b ∈ before, ¬ Expression.Unfit b.2) ∧ Expression.Unfit d.2 ∧ f = .options d.1.name) ∧
    (∀ d : Combinator, (Failure.options d.name).report =
      { className := "CombinatorSpecError"
        message := d.name ++ " takes only names and predicates" }) ∧
    (∀ s : Stage σ, last (orFail id (Expression.call c identity arguments).build s) = s) ∧
    (∀ p, (Expression.call c identity arguments).build = .ok (.predicate p) →
      List.Forall₂ (fun e o => ∃ v, e.build = .ok v ∧ v.option? = some o) arguments p.options ∧
      ∀ (host : Host σ) (access : Access) (s : Stage σ), ∃ calls,
        (last (p.eval host access s)).calls = s.calls ++ calls ∧
        (calls.map (·.callee)).Sublist
          (((Expression.call c identity arguments).leaves.flatMap Value.functions).map .function) ∧
        ∀ e, outcome (p.eval host access s) = .error e →
          ∃ init d, calls = init ++ [d] ∧ d.Raised) ∧
    ∀ (v : Value) (host : Host σ) (args spec called : Value) (settings : Option Settings)
      (w : World σ), (∃ p, c.build identity [v] = .ok p) ↔ (∃ s, v = .text s) ∨
        outcome (validate host args spec [v] called settings w) ≠ .error .trailing := by
  refine ⟨Expression.build_call_succeeds_iff, Expression.build_call_fails_iff,
    fun f => Expression.build_eq_error, fun d => rfl, fun s => ?_, fun p hp => ⟨?_, ?_⟩, ?_⟩
  · cases (Expression.call c identity arguments).build <;> rfl
  · obtain ⟨vs, cs, hvs, hcs, hv⟩ := Expression.build_call_eq_ok.mp hp
    cases hv
    exact Expression.forall₂_trans hvs hcs
  · intro host access s
    obtain ⟨calls, hcalls, hsub, -, hraised⟩ := (Condition.ofPredicate p).eval_asksInOrder s
    have hfs : (Condition.ofPredicate p).functions = _ := Expression.functions_of_build hp
    rw [hfs] at hsub
    refine ⟨calls, hcalls, hsub, fun e he => ?_⟩
    obtain ⟨init, d, hinit, -, hd⟩ := hraised e he
    exact ⟨init, d, hinit, hd⟩
  · intro v host args spec called settings w
    have hbuild : (∃ p, c.build identity [v] = .ok p) ↔ v.IsOption := by
      rw [Value.isOption_iff]
      simp [Combinator.build_eq_ok, List.forall₂_cons_left_iff]
    rw [hbuild, Value.IsOption, ne_eq, validate_eq_trailing]
    simp

end ParamGate
