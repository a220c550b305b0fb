import ParamGate.Proofs.Formula
import ParamGate.Proofs.Frame

/-!
The order in which a predicate evaluates. Its functions are asked from left to right, none twice at
the same place and none after one that raises; only `any_of` may pass options over, and it does so
after the first that holds.
-/

namespace ParamGate

open Run

variable {σ α β : Type} {host : Host σ} {access : Access}

def Call.Returned (c : Call) : Prop := ∃ v, c.outcome = .ok v

def Call.Raised (c : Call) : Prop := ∃ e, c.outcome = .error e

/-- Calls of functions in a row, some of which may be passed over. Each returns, but for the last
call of a run that fails; where all are due and the run returns, none is passed over. -/
structure InOrder (due : Prop) (fs : List HostFunction) (calls : List Call)
    (r : Except Raised α) : Prop where
  sublist : (calls.map (·.callee)).Sublist (fs.map .function)
  returned : ∀ a, r = .ok a →
    (∀ c ∈ calls, c.Returned) ∧ (due → calls.map (·.callee) = fs.map .function)
  raised : ∀ e, r = .error e →
    ∃ init c, calls = init ++ [c] ∧ (∀ d ∈ init, d.Returned) ∧ c.Raised

def AsksInOrder (due : Prop) (fs : List HostFunction) (x : EStateM Raised (Stage σ) α) : Prop :=
  ∀ s, ∃ calls, (last (x s)).calls = s.calls ++ calls ∧ InOrder due fs calls (outcome (x s))

namespace AsksInOrder

variable {p q : Prop} {fs gs : List HostFunction} {x : EStateM Raised (Stage σ) α}

theorem pure (h : p → fs = []) (a : α) :
    AsksInOrder p fs (pure a : EStateM Raised (Stage σ) α) := by
  intro s
  refine ⟨[], (List.append_nil _).symm, List.nil_sublist _, fun _ _ => ⟨by simp, fun hp => ?_⟩, ?_⟩
  · rw [h hp]
    rfl
  · intro e he
    cases he

theorem mono (hx : AsksInOrder p fs x) (h : q → p) : AsksInOrder q fs x := by
  intro s
  obtain ⟨calls, hcalls, hsub, hret, hraise⟩ := hx s
  exact ⟨calls, hcalls, hsub, fun a ha => ⟨(hret a ha).1, fun hq => (hret a ha).2 (h hq)⟩, hraise⟩

theorem bind {f : α → EStateM Raised (Stage σ) β} (hx : AsksInOrder p fs x)
    (hf : ∀ a, AsksInOrder q gs (f a)) : AsksInOrder (p ∧ q) (fs ++ gs) (x >>= f) := by
  intro s
  obtain ⟨calls, hcalls, hsub, hret, hraise⟩ := hx s
  cases hs : x s with
  | error e t =>
    -- Nothing of the second part has run.
    rw [hs] at hcalls hraise
    rw [bind_of_error hs]
    refine ⟨calls, hcalls, ?_, fun a ha => ?_, fun e' _ => hraise e rfl⟩
    · rw [List.map_append]
      exact hsub.trans (List.sublist_append_left _ _)
    · cases ha
  | ok a t =>
    -- All calls of the first part have returned, so one that raises is the last of the second.
    rw [hs] at hcalls hret
    obtain ⟨hall, hdue⟩ := hret a rfl
    obtain ⟨calls', hcalls', hsub', hret', hraise'⟩ := hf a t
    rw [bind_of_ok hs]
    refine ⟨calls ++ calls', ?_, ?_, fun b hb => ⟨?_, ?_⟩, fun e he => ?_⟩
    · have ht : t.calls = s.calls ++ calls := hcalls
      rw [hcalls', ht, List.append_assoc]
    · rw [List.map_append, List.map_append]
      exact hsub.append hsub'
    · intro c hc
      rcases List.mem_append.mp hc with hc | hc
      · exact hall c hc
      · exact (hret' b hb).1 c hc
    · rintro ⟨hp, hq⟩
      rw [List.map_append, List.map_append, hdue hp, (hret' b hb).2 hq]
    · obtain ⟨init, c, rfl, hinit, hc⟩ := hraise' e he
      refine ⟨calls ++ init, c, (List.append_assoc ..).symm, fun d hd => ?_, hc⟩
      rcases List.mem_append.mp hd with hd | hd
      · exact hall d hd
      · exact hinit d hd

theorem map (hx : AsksInOrder p fs x) (g : α → β) :
    AsksInOrder p fs (x >>= fun a => Pure.pure (g a)) := by
  have hg : ∀ a, AsksInOrder True [] (Pure.pure (g a) : EStateM Raised (Stage σ) β) :=
    fun a => pure (fun _ => rfl) (g a)
  have h := hx.bind hg
  rw [List.append_nil] at h
  exact h.mono fun hp => ⟨hp, trivial⟩

theorem asOption (hx : AsksInOrder p fs x) : AsksInOrder p fs (ParamGate.asOption x) := by
  intro s
  obtain ⟨calls, hcalls, hsub, hret, hraise⟩ := hx s
  refine ⟨calls, ?_, hsub, fun a ha => ?_, fun e he => ?_⟩
  · rw [last_asOption]
    exact hcalls
  · refine hret a ?_
    unfold ParamGate.asOption at ha
    cases hs : x s with
    | ok b t =>
      rw [hs] at ha
      exact ha
    | error e t =>
      rw [hs] at ha
      cases ha
  · unfold ParamGate.asOption at he
    cases hs : x s with
    | ok b t =>
      rw [hs] at he
      cases he
    | error e t => exact hraise e (by rw [hs]; rfl)

theorem ask (p : Prop) (f : HostFunction) :
    AsksInOrder p [f] (Stage.ask host access f) := by
  intro s
  rcases hr : (host.predicate f).run access s.params s.host with ⟨r, es, h⟩
  refine ⟨[{ callee := .function f, params := s.params, value := none, outcome := r }], ?_,
    List.Sublist.refl _, fun a ha => ⟨?_, fun _ => rfl⟩, fun e he => ?_⟩
  · rw [Stage.ask, Stage.last_perform, hr]
  · rw [Stage.ask, Stage.perform, hr] at ha
    cases r with
    | ok v => simp [Call.Returned]
    | error e => cases ha
  · rw [Stage.ask, Stage.perform, hr] at he
    cases r with
    | ok v => cases he
    | error e => exact ⟨[], _, rfl, by simp, e, rfl⟩

end AsksInOrder

theorem Condition.eval_combine (c : Combinator) (identity : Nat) (cs : List Condition) :
    (Condition.ofPredicate (c.combine identity cs)).eval host access =
      if c = .anyOf then anyHolds host access cs
      else do return (c.rule cs.length).accepts (← countHolding host access cs) := by
  cases c <;> rw [ofPredicate, Combinator.combine, Combinator.rule, eval] <;> rfl

namespace Condition

mutual

/-- A condition in which no predicate stops early. -/
def Exhaustive : Condition → Prop
  | .present _ => True
  | .holds _ => True
  | .counted _ _ .atLeastOne _ => False
  | .counted _ _ (.exactly _) options => ExhaustiveAll options

def ExhaustiveAll : List Condition → Prop
  | [] => True
  | c :: cs => c.Exhaustive ∧ ExhaustiveAll cs

end

mutual

theorem eval_asksInOrder (c : Condition) :
    AsksInOrder c.Exhaustive c.functions (c.eval host access) := by
  match c with
  | .present name =>
    rw [eval]
    intro u
    exact AsksInOrder.pure (fun _ => rfl) _ u
  | .holds f =>
    rw [eval]
    exact (AsksInOrder.ask _ f).map _
  | .counted _ _ .atLeastOne options =>
    rw [eval]
    exact anyHolds_asksInOrder options
  | .counted _ _ (.exactly desired) options =>
    rw [eval]
    exact (countHolding_asksInOrder options).map _

theorem anyHolds_asksInOrder (cs : List Condition) :
    AsksInOrder False (functionsAll cs) (anyHolds host access cs) := by
  match cs with
  | [] =>
    rw [anyHolds]
    exact .pure (fun _ => rfl) _
  | c :: cs =>
    rw [anyHolds]
    refine ((eval_asksInOrder c).asOption.bind (q := False) fun b => ?_).mono False.elim
    cases b with
    | true => exact .pure False.elim _
    | false => exact anyHolds_asksInOrder cs

theorem countHolding_asksInOrder (cs : List Condition) :
    AsksInOrder (ExhaustiveAll cs) (functionsAll cs) (countHolding host access cs) := by
  match cs with
  | [] =>
    rw [countHolding]
    exact .pure (fun _ => rfl) _
  | c :: cs =>
    rw [countHolding]
    exact (eval_asksInOrder c).asOption.bind fun b => (countHolding_asksInOrder cs).map _

end

end Condition

namespace Formula

mutual

theorem functions_condition (t : Formula) : t.condition.functions = t.functions := by
  match t with
  | .name s => rfl
  | .function f => rfl
  | .node c identity ts => exact functionsAll_conditions ts

theorem functionsAll_conditions (ts : List Formula) :
    Condition.functionsAll (conditions ts) = functionsAll ts := by
  match ts with
  | [] => rfl
  | t :: ts =>
    rw [conditions, Condition.functionsAll, functions_condition t, functionsAll_conditions ts,
      functionsAll]

end

mutual

theorem exhaustive_condition (t : Formula) (h : .anyOf ∉ t.combinators) :
    t.condition.Exhaustive := by
  match t with
  | .name s => exact trivial
  | .function f => exact trivial
  | .node c identity ts =>
    rw [combinators, List.mem_cons, not_or] at h
    obtain ⟨hc, hts⟩ := h
    have hall := exhaustiveAll_conditions ts hts
    cases c with
    | anyOf => exact absurd rfl hc
    | _ => exact hall

theorem exhaustiveAll_conditions (ts : List Formula) (h : .anyOf ∉ combinatorsAll ts) :
    Condition.ExhaustiveAll (conditions ts) := by
  match ts with
  | [] => exact trivial
  | t :: ts =>
    rw [combinatorsAll, List.mem_append, not_or] at h
    obtain ⟨ht, hts⟩ := h
    exact ⟨exhaustive_condition t ht, exhaustiveAll_conditions ts hts⟩

end

theorem eval_asksInOrder (t : Formula) :
    AsksInOrder (.anyOf ∉ t.combinators) t.functions (t.condition.eval host access) := by
  rw [← functions_condition]
  exact t.condition.eval_asksInOrder.mono t.exhaustive_condition

end Formula

/-- Options evaluated one after the other, from a stage to a later one, with what they answer. -/
inductive Answers (host : Host σ) (access : Access) :
    List Condition → List Bool → Stage σ → Stage σ → Prop
  | nil {s : Stage σ} : Answers host access [] [] s s
  | cons {c : Condition} {cs : List Condition} {b : Bool} {bs : List Bool} {s t u : Stage σ}
    (h : asOption (c.eval host access) s = .ok b t) (rest : Answers host access cs bs t u) :
    Answers host access (c :: cs) (b :: bs) s u

theorem Answers.snoc {c : Condition} {cs : List Condition} {b : Bool} {bs : List Bool}
    {s t u : Stage σ} (h : Answers host access cs bs s t)
    (hc : asOption (c.eval host access) t = .ok b u) :
    Answers host access (cs ++ [c]) (bs ++ [b]) s u := by
  induction h with
  | nil => exact .cons hc .nil
  | cons hd _ ih => exact .cons hd (ih hc)

/-- Which options of a call of a combinator are evaluated: all of them, all up to the first that
raises or, for `any_of` alone, all up to the first that holds. -/
inductive Visits (host : Host σ) (access : Access) (c : Combinator) (cs : List Condition)
    (s : Stage σ) : EStateM.Result Raised (Stage σ) Bool → Prop
  | all {bs : List Bool} {t : Stage σ} (h : Answers host access cs bs s t)
    (hn : c = .anyOf → true ∉ bs) :
    Visits host access c cs s (.ok ((c.rule cs.length).accepts (bs.count true)) t)
  | stopped {before after : List Condition} {d : Condition} {bs : List Bool} {t u : Stage σ}
    (hc : c = .anyOf) (hcs : cs = before ++ d :: after) (h : Answers host access before bs s t)
    (hn : true ∉ bs) (hd : asOption (d.eval host access) t = .ok true u) :
    Visits host access c cs s (.ok true u)
  | raised {before after : List Condition} {d : Condition} {bs : List Bool} {t u : Stage σ}
    {e : Raised} (hcs : cs = before ++ d :: after) (h : Answers host access before bs s t)
    (hn : c = .anyOf → true ∉ bs) (hd : asOption (d.eval host access) t = .error e u) :
    Visits host access c cs s (.error e u)

namespace Condition

theorem answers_of_countHolding {cs : List Condition} {s t : Stage σ} {n : Nat}
    (h : countHolding host access cs s = .ok n t) :
    ∃ bs, Answers host access cs bs s t ∧ bs.count true = n := by
  induction cs generalizing s n with
  | nil =>
    cases h
    exact ⟨[], .nil, rfl⟩
  | cons c cs ih =>
    rw [countHolding] at h
    obtain ⟨b, u, hc, h⟩ := bind_eq_ok.mp h
    obtain ⟨m, u', hcs, h⟩ := bind_eq_ok.mp h
    cases h
    obtain ⟨bs, hbs, rfl⟩ := ih hcs
    refine ⟨b :: bs, .cons hc hbs, ?_⟩
    cases b <;> simp [Nat.add_comm]

theorem raised_of_countHolding {cs : List Condition} {s u : Stage σ} {e : Raised}
    (h : countHolding host access cs s = .error e u) :
    ∃ before d after bs t, cs = before ++ d :: after ∧ Answers host access before bs s t ∧
      asOption (d.eval host access) t = .error e u := by
  induction cs generalizing s with
  | nil => cases h
  | cons c cs ih =>
    rw [countHolding] at h
    rcases bind_eq_error.mp h with hc | ⟨b, v, hc, h⟩
    · exact ⟨[], c, cs, [], s, rfl, .nil, hc⟩
    · rcases bind_eq_error.mp h with hcs | ⟨m, v', -, h⟩
      · obtain ⟨before, d, after, bs, t, rfl, hbs, hd⟩ := ih hcs
        exact ⟨c :: before, d, after, b :: bs, t, rfl, .cons hc hbs, hd⟩
      · cases h

theorem anyHolds_visits {before : List Condition} {bs : List Bool} {s t : Stage σ}
    (h : Answers host access before bs s t) (hn : true ∉ bs) (cs : List Condition) :
    Visits host access .anyOf (before ++ cs) s (anyHolds host access cs t) := by
  induction cs generalizing before bs t with
  | nil =>
    rw [List.append_nil]
    have hall : Visits host access .anyOf before s _ := .all h fun _ => hn
    rw [List.count_eq_zero_of_not_mem hn] at hall
    exact hall
  | cons c cs ih =>
    rw [anyHolds]
    cases hc : asOption (c.eval host access) t with
    | error e u =>
      rw [bind_of_error hc]
      exact .raised rfl h (fun _ => hn) hc
    | ok b u =>
      rw [bind_of_ok hc]
      cases b with
      | true => exact .stopped rfl rfl h hn hc
      | false =>
        have hrest := ih (h.snoc hc) (by simpa using hn)
        rw [List.append_assoc] at hrest
        exact hrest

theorem eval_visits (c : Combinator) (identity : Nat) (cs : List Condition) (s : Stage σ) :
    Visits host access c cs s
      ((Condition.ofPredicate (c.combine identity cs)).eval host access s) := by
  rw [eval_combine]
  by_cases hc : c = .anyOf
  · rw [if_pos hc, hc]
    exact anyHolds_visits .nil List.not_mem_nil cs
  · rw [if_neg hc]
    cases hs : countHolding host access cs s with
    | ok n t =>
      obtain ⟨bs, hbs, rfl⟩ := answers_of_countHolding hs
      rw [bind_of_ok hs]
      exact .all hbs fun h => absurd h hc
    | error e u =>
      obtain ⟨before, d, after, bs, t, hcs, hbs, hd⟩ := raised_of_countHolding hs
      rw [bind_of_error hs]
      exact .raised hcs hbs (fun h => absurd h hc) hd

end Condition

/-- A tree of combinators evaluates from left to right. Every call of one visits its options in
order and passes none over but `any_of` after the first that holds. The functions asked are some of
those at the leaves, in their order; without `any_of` they are all of them, unless one raises, and
it is then the last. -/
theorem evaluation_goes_left_to_right (c : Combinator) (identity : Nat) (options : List Formula) :
    ∃ p, (Formula.node c identity options).build = .ok (.predicate p) ∧
      p.options = options.map Formula.condition ∧
      ∀ (host : Host σ) (access : Access) (s : Stage σ),
        Visits host access c p.options s (p.eval host access s) ∧
        ∃ calls, (last (p.eval host access s)).calls = s.calls ++ calls ∧
          InOrder (.anyOf ∉ (Formula.node c identity options).combinators)
            (Formula.node c identity options).functions calls (outcome (p.eval host access s)) := by
  refine ⟨_, Formula.build_call c identity options, Formula.conditions_eq_map options, ?_⟩
  intro host access s
  refine ⟨Condition.eval_visits c identity _ s, ?_⟩
  exact (Formula.node c identity options).eval_asksInOrder s

end ParamGate
