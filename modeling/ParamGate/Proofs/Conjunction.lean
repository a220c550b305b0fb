import ParamGate.Proofs.Negation
import ParamGate.Proofs.Supplied

/-!
Trailing predicates as one. A call stops asking at the first predicate that does not hold, where
`all_of` over the same predicates asks on and counts. As long as none of their functions raises the
two calls end alike, with the same calls up to that predicate.
-/

namespace ParamGate

open Run

variable {σ α : Type} {host : Host σ} {params : Entries}

/-- A function that returns when it is called with the parameters, which it cannot change. What it
answers may depend on a state of its own. -/
def Host.Returns (host : Host σ) (params : Entries) (f : HostFunction) : Prop :=
  ∀ s, ∃ v, ((host.predicate f).run .readOnly params s).1 = .ok v

theorem exists_ok_of_returns {p : Prop} {fs : List HostFunction}
    {x : EStateM Raised (Stage σ) α} {s : Stage σ} (hin : AsksInOrder p fs x)
    (hasks : Keeps (Stage.Asks host) x) (h : ∀ f ∈ fs, host.Returns s.params f) :
    ∃ a t, x s = .ok a t ∧ t.params = s.params := by
  obtain ⟨calls, hcalls, horder⟩ := hin s
  cases hx : x s with
  | ok a t => exact ⟨a, t, rfl, (hasks.of_ok hx).params⟩
  | error e t =>
    -- The last call has raised, and it is a call of one of the functions.
    rw [hx] at hcalls horder
    obtain ⟨init, c, rfl, -, e', he'⟩ := horder.raised e rfl
    have ht : t.calls = s.calls ++ (init ++ [c]) := hcalls
    obtain ⟨-, asked, hasked, hall⟩ := (hasks.of_error hx).world
    rw [ht] at hasked
    have hc : c ∈ asked := by
      rw [← List.append_cancel_left hasked]
      simp
    obtain ⟨f, h₀, h₁, hf, hrun⟩ := (hall c hc).ran
    have hmem : Callable.function f ∈ fs.map .function := by
      apply horder.sublist.subset
      rw [← hf]
      exact List.mem_map_of_mem (by simp)
    obtain ⟨g, hg, hgf⟩ := List.mem_map.mp hmem
    cases hgf
    obtain ⟨v, hv⟩ := h f hg h₀
    rw [hrun, he'] at hv
    cases hv

theorem Answers.length_eq {access : Access} {cs : List Condition} {bs : List Bool} {s t : Stage σ}
    (h : Answers host access cs bs s t) : bs.length = cs.length := by
  induction h with
  | nil => rfl
  | cons _ _ ih => rw [List.length_cons, List.length_cons, ih]

namespace Condition

theorem exists_eval {c : Condition} {s : Stage σ} (h : ∀ f ∈ c.functions, host.Returns s.params f) :
    ∃ b t, c.eval host .readOnly s = .ok b t ∧ t.params = s.params :=
  exists_ok_of_returns c.eval_asksInOrder c.eval_asks h

theorem exists_countHolding {cs : List Condition} {s : Stage σ}
    (h : ∀ f ∈ functionsAll cs, host.Returns s.params f) :
    ∃ n t, countHolding host .readOnly cs s = .ok n t ∧ n ≤ cs.length := by
  have hasks : Keeps (Stage.Asks host) (countHolding host .readOnly cs) :=
    countHolding_keeps cs fun f _ => Stage.ask_keeps f
  obtain ⟨n, t, hn, -⟩ := exists_ok_of_returns (countHolding_asksInOrder cs) hasks h
  obtain ⟨bs, hbs, rfl⟩ := answers_of_countHolding hn
  refine ⟨_, t, hn, ?_⟩
  rw [← hbs.length_eq]
  exact List.count_le_length

end Condition

/-- How a row of predicates comes out in a call, beside the number of them that hold. -/
inductive Tallies (size : Nat) :
    EStateM.Result Failure (Stage σ) Unit → EStateM.Result Raised (Stage σ) Nat → Prop
  | held {t : Stage σ} : Tallies size (.ok () t) (.ok size t)
  | failed {t u : Stage σ} {n : Nat} (hn : n < size) (hcalls : t.calls <+: u.calls) :
    Tallies size (.error .dependency t) (.ok n u)

theorem checkPredicates_tallies {cs : List Condition} {s : Stage σ}
    (h : ∀ f ∈ Condition.functionsAll cs, host.Returns s.params f) (caller : Value) (index : Nat) :
    Tallies cs.length (checkPredicates host caller index cs s)
      (Condition.countHolding host .readOnly cs s) := by
  induction cs generalizing s index with
  | nil => exact .held
  | cons c cs ih =>
    obtain ⟨hc, hcs⟩ := List.forall_mem_append.mp h
    obtain ⟨b, t, hb, hparams⟩ := Condition.exists_eval hc
    rw [← hparams] at hcs
    rw [checkPredicates, Condition.countHolding, bind_of_ok (raisedAs_eq_ok.mpr hb),
      bind_of_ok (asOption_of_ok hb), List.length_cons]
    obtain ⟨n, u, hn, hle⟩ := Condition.exists_countHolding hcs
    rw [bind_of_ok hn]
    cases b with
    | true =>
      have hrest := ih hcs (index + 1)
      rw [hn] at hrest
      show Tallies _ (checkPredicates host caller (index + 1) cs t) (.ok (1 + n) u)
      generalize checkPredicates host caller (index + 1) cs t = r at hrest
      cases hrest with
      | held =>
        rw [Nat.add_comm]
        exact .held
      | failed hlt hcalls => exact .failed (by omega) hcalls
    | false =>
      -- The call is over, while the counting goes on.
      have hextends : t.calls <+: (last (Condition.countHolding host .readOnly cs t)).calls :=
        Condition.countHolding_extends cs t
      rw [hn] at hextends
      show Tallies _ (.error .dependency _) (.ok (0 + n) u)
      exact .failed (by omega) hextends

/-- The first of two runs ends as the second does, with the calls that the second begins with. -/
structure EndsFirst (r r' : EStateM.Result Failure (Stage σ) Unit) : Prop where
  outcome : outcome r = outcome r'
  calls : (last r).calls <+: (last r').calls

theorem checkPredicates_endsFirst {cs : List Condition} {s : Stage σ}
    (h : ∀ f ∈ Condition.functionsAll cs, host.Returns s.params f) (caller : Value)
    (identity : Nat) :
    EndsFirst (checkPredicates host caller 0 cs s)
      (checkPredicates host caller 0 [.ofPredicate (Combinator.allOf.combine identity cs)] s) := by
  have hcounts : Combinator.allOf.rule cs.length = .exactly cs.length := rfl
  have htallies := checkPredicates_tallies h caller 0
  obtain ⟨n, t, hn, -⟩ := Condition.exists_countHolding h
  have hall : (Condition.ofPredicate (Combinator.allOf.combine identity cs)).eval host .readOnly s =
      .ok (n == cs.length) t := by
    rw [Condition.eval_counting hcounts, bind_of_ok hn]
    rfl
  have hsingle : checkPredicates host caller 0
      [.ofPredicate (Combinator.allOf.combine identity cs)] s =
      (if n == cs.length then checkPredicates host caller 1 [] else do
        Stage.log (.dependencyFailed 0 caller (.ofPredicate (Combinator.allOf.combine identity cs)))
        throw .dependency) t :=
    bind_of_ok (raisedAs_eq_ok.mpr hall)
  rw [hsingle]
  rw [hn] at htallies
  generalize checkPredicates host caller 0 cs s = r at htallies
  cases htallies with
  | held =>
    rw [beq_self_eq_true]
    exact ⟨rfl, List.prefix_refl _⟩
  | failed hlt hcalls =>
    rw [beq_eq_false_iff_ne.mpr (Nat.ne_of_lt hlt)]
    exact ⟨rfl, hcalls⟩

theorem Value.option?_of_condition? {v : Value} {c : Condition} (h : v.condition? = some c) :
    v.option? = some c := by
  cases v <;> simp_all [option?, condition?]

theorem EndsFirst.asked {caller : Value} {cs ds : List Condition} {s : Stage σ}
    (h : EndsFirst (checkPredicates host caller 0 cs s) (checkPredicates host caller 0 ds s)) :
    ∃ asked later, (last (checkPredicates host caller 0 cs s)).calls = s.calls ++ asked ∧
      (last (checkPredicates host caller 0 ds s)).calls = s.calls ++ (asked ++ later) ∧
      ∀ c ∈ asked ++ later, c.AskedOn host s.params := by
  obtain ⟨-, asked, hasked, -⟩ := (checkPredicates_asks host caller 0 cs s).world
  obtain ⟨-, all, hall, hon⟩ := (checkPredicates_asks host caller 0 ds s).world
  obtain ⟨later, hlater⟩ := h.calls
  rw [hasked, hall, List.append_assoc] at hlater
  obtain rfl := List.append_cancel_left hlater
  exact ⟨asked, later, hasked, hall, hon⟩

/-- Two calls of the gate that end alike. They make the same checks; of the questions about the
arguments, the first asks those that the second begins with. -/
structure Conjoined (host : Host σ) (args : Value) (w : World σ)
    (r r' : EStateM.Result Failure (World σ) Unit) : Prop where
  outcome : outcome r = outcome r'
  calls : ∃ checks asked later, (last r).calls = w.calls ++ checks ++ asked ∧
    (last r').calls = w.calls ++ checks ++ (asked ++ later) ∧ (∀ c ∈ checks, c.IsCheck) ∧
    ∀ c ∈ asked ++ later, ∃ params, Arguments.Supply args params ∧ c.AskedOn host params

/-- A call with predicates whose functions do not raise ends as the call with the one predicate that
all of them hold. It stops asking at the first that does not hold, where the other asks on. -/
theorem trailing_predicates_are_a_conjunction {args : Value} {trailing : List Value}
    (hp : ∀ v ∈ trailing, v.IsPredicate)
    (hr : ∀ params, Arguments.Supply args params → ∀ v ∈ trailing, ∀ f ∈ v.functions,
      host.Returns params f)
    (identity : Nat) (spec called : Value) (settings : Option Settings) (w : World σ) :
    ∃ p, Combinator.allOf.build identity trailing = .ok p ∧
      Conjoined host args w (validate host args spec trailing called settings w)
        (validate host args spec [.predicate p] called settings w) := by
  obtain ⟨predicates, hread⟩ := exists_readPredicates hp
  have hoptions : List.Forall₂ (fun v c => v.option? = some c) trailing predicates :=
    (readPredicates_eq_some.mp hread).imp fun _ _ => Value.option?_of_condition?
  have hsingle : readPredicates [.predicate (Combinator.allOf.combine identity predicates)] =
      some [.ofPredicate (Combinator.allOf.combine identity predicates)] := rfl
  refine ⟨_, Combinator.build_eq_ok.mpr ⟨predicates, hoptions, rfl⟩, ?_⟩
  obtain ⟨-, checks, hchecks, hq⟩ := validateParams_continues host args spec called settings w
  cases hv : validateParams host args spec called settings w with
  | error e t =>
    rw [hv] at hchecks
    rw [validate_of_unfit hread hv, validate_of_unfit hsingle hv]
    have ht : t.calls = w.calls ++ checks ++ [] := by
      rw [List.append_nil]
      exact hchecks
    exact ⟨rfl, checks, [], [], ht, ht, hq, by simp⟩
  | ok result t =>
    rw [hv] at hchecks
    have ht : t.calls = w.calls ++ checks := hchecks
    obtain ⟨caller, params, hparams, hgo⟩ := validate_of_fit hv
    have hsupply := Arguments.params_eq_ok.mp hparams
    have hreturns : ∀ f ∈ Condition.functionsAll predicates, host.Returns params f := by
      rw [Expression.functionsAll_of_options hoptions]
      intro f hf
      obtain ⟨v, hv, hf⟩ := List.mem_flatMap.mp hf
      exact hr params hsupply v hv f hf
    have hends : EndsFirst
        (checkPredicates host caller 0 predicates { t with params := params })
        (checkPredicates host caller 0 _ { t with params := params }) :=
      checkPredicates_endsFirst hreturns caller identity
    obtain ⟨hout, hlast⟩ := hgo _ _ hread
    obtain ⟨hout', hlast'⟩ := hgo _ _ hsingle
    obtain ⟨asked, later, hfirst, hsecond, hon⟩ := hends.asked
    refine ⟨by rw [hout, hout', hends.outcome], checks, asked, later, ?_, ?_, hq,
      fun c hc => ⟨params, hsupply, hon c hc⟩⟩
    · rw [hlast, hfirst, ← ht]
    · rw [hlast', hsecond, ← ht]

/-- A function that answers differently from call to call, asked on its own and inside a predicate
that stands between two of its calls. -/
def turningTrailing : List Value :=
  [.function (.named 7 "f"),
    .predicate (Combinator.noneOf.combine 1 [.holds (.named 7 "f"), .present "b"]),
    .function (.named 7 "f")]

def turningHost : Host Counters := Script.host [(7, .answerInTurn [.bool true, .bool false])]

theorem trailing_predicates_are_a_conjunction_in_turns :
    (∀ v ∈ turningTrailing, v.IsPredicate) ∧
      (∀ params, Arguments.Supply (.map .dict [(.text "a", .int 1)]) params →
        ∀ v ∈ turningTrailing, ∀ f ∈ v.functions, turningHost.Returns params f) ∧
      ∃ p, Combinator.allOf.build 2 turningTrailing = .ok p ∧
        Conjoined turningHost (.map .dict [(.text "a", .int 1)]) { host := [] }
          (validate turningHost (.map .dict [(.text "a", .int 1)])
            (.map .dict [(.text "a", .int 1)]) turningTrailing .null (some {}) { host := [] })
          (validate turningHost (.map .dict [(.text "a", .int 1)])
            (.map .dict [(.text "a", .int 1)]) [.predicate p] .null (some {}) { host := [] }) := by
  have hp : ∀ v ∈ turningTrailing, v.IsPredicate := by
    simp [turningTrailing, Value.isPredicate_iff, Value.condition?]
  have hr : ∀ params, Arguments.Supply (.map .dict [(.text "a", .int 1)]) params →
      ∀ v ∈ turningTrailing, ∀ f ∈ v.functions, turningHost.Returns params f := by
    intro params _ v hv f hf
    have hname : f = .named 7 "f" := by
      simp only [turningTrailing, List.mem_cons, List.not_mem_nil, or_false] at hv
      rcases hv with rfl | rfl | rfl <;> exact List.mem_singleton.mp hf
    rw [hname]
    exact fun s => ⟨_, rfl⟩
  exact ⟨hp, hr, trailing_predicates_are_a_conjunction hp hr 2 _ _ _ _⟩

end ParamGate
