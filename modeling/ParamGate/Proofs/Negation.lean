import ParamGate.Proofs.Construction

/-!
Searching options for one that holds, and counting those that hold. As far as the search goes the
two do the same, so `none_of` denies whatever `any_of` says, also over functions that keep a state,
change the parameters or raise.
-/

namespace ParamGate

open Run

variable {σ : Type} {host : Host σ} {access : Access}

namespace Condition

theorem countHolding_extends (cs : List Condition) (s : Stage σ) :
    s.calls <+: (last (countHolding host access cs s)).calls := by
  have horder : AsksInOrder (ExhaustiveAll cs) (functionsAll cs) (countHolding host access cs) :=
    countHolding_asksInOrder cs
  obtain ⟨calls, hcalls, -⟩ := horder s
  exact ⟨calls, hcalls.symm⟩

theorem eval_counting {c : Combinator} {cs : List Condition} {n : Nat}
    (hr : c.rule cs.length = .exactly n) (identity : Nat) :
    (ofPredicate (c.combine identity cs)).eval host access =
      (do return (← countHolding host access cs) == n) := by
  have haccepts (m : Nat) : (CountRule.exactly n).accepts m = (m == n) := by
    rw [Bool.eq_iff_iff]
    simp only [CountRule.accepts, beq_iff_eq, Int.natCast_inj]
  rw [ofPredicate, Combinator.combine, hr, eval]
  simp only [haccepts]

/-- What counting comes to where a search of the same options, from the same stage, ended as given.
Without a find both have gone through all options; after one, counting goes on from there. -/
inductive CountsAfter :
    EStateM.Result Raised (Stage σ) Bool → EStateM.Result Raised (Stage σ) Nat → Prop
  | exhausted {t : Stage σ} : CountsAfter (.ok false t) (.ok 0 t)
  | raised {e : Raised} {t : Stage σ} : CountsAfter (.error e t) (.error e t)
  | found {t : Stage σ} {r : EStateM.Result Raised (Stage σ) Nat}
    (hcalls : t.calls <+: (last r).calls) (hpos : ∀ n u, r = .ok n u → n ≠ 0) :
    CountsAfter (.ok true t) r

theorem countHolding_countsAfter (cs : List Condition) (s : Stage σ) :
    CountsAfter (anyHolds host access cs s) (countHolding host access cs s) := by
  induction cs generalizing s with
  | nil => exact .exhausted
  | cons c cs ih =>
    rw [anyHolds, countHolding]
    cases hc : asOption (c.eval host access) s with
    | error e t =>
      rw [bind_of_error hc, bind_of_error hc]
      exact .raised
    | ok b t =>
      rw [bind_of_ok hc, bind_of_ok hc]
      cases b with
      | false =>
        have hcount : (do let n ← countHolding host access cs
                          return (if false then 1 else 0) + n) = countHolding host access cs := by
          simp
        rw [hcount]
        exact ih t
      | true =>
        have hextends : t.calls <+: (last (countHolding host access cs t)).calls :=
          countHolding_extends cs t
        cases hn : countHolding host access cs t with
        | error e u =>
          rw [hn] at hextends
          rw [bind_of_error hn]
          exact .found hextends nofun
        | ok n u =>
          rw [hn] at hextends
          rw [bind_of_ok hn]
          refine .found hextends fun m v hm => ?_
          obtain ⟨rfl, -⟩ := pure_eq_ok.mp hm
          simp

end Condition

theorem exists_options {vs : List Value} (h : ∀ v ∈ vs, v.IsOption) :
    ∃ cs, List.Forall₂ (fun v c => v.option? = some c) vs cs := by
  cases hr : readOptions "" vs with
  | ok cs => exact ⟨cs, readOptions_eq_ok.mp hr⟩
  | error f =>
    obtain ⟨⟨v, hv, hn⟩, -⟩ := readOptions_eq_error.mp hr
    exact absurd (h v hv) hn

/-- How two predicates come out that start from the same stage, the second as the denial of the
first. The first may stop early, so the second can raise where the first has found an answer. -/
structure Denied (s : Stage σ) (r r' : EStateM.Result Raised (Stage σ) Bool) : Prop where
  calls : ∃ asked later, (last r).calls = s.calls ++ asked ∧
    (last r').calls = s.calls ++ (asked ++ later)
  returned : ∀ b t, r' = .ok b t → ∃ u, r = .ok (!b) u
  exhausted : ∀ t, r = .ok false t → r' = .ok true t
  raised : ∀ e t, r = .error e t → r' = .error e t

theorem Denied.of_countsAfter {s : Stage σ} {cs : List Condition} (identity : Nat)
    {r : EStateM.Result Raised (Stage σ) Bool} (hs : s.calls <+: (last r).calls)
    (h : Condition.CountsAfter r (Condition.countHolding host access cs s)) :
    Denied s r
      ((Condition.ofPredicate (Combinator.noneOf.combine identity cs)).eval host access s) := by
  have hcounts : Combinator.noneOf.rule cs.length = .exactly (0 : Nat) := rfl
  rw [Condition.eval_counting hcounts]
  obtain ⟨asked, hasked⟩ := hs
  generalize hn : Condition.countHolding host access cs s = r' at h
  cases h with
  | exhausted =>
    rw [bind_of_ok hn]
    refine ⟨⟨asked, [], hasked.symm, ?_⟩, fun b t hb => ?_, fun t ht => ?_, nofun⟩
    · rw [List.append_nil]
      exact hasked.symm
    · cases hb
      exact ⟨_, rfl⟩
    · cases ht
      rfl
  | raised =>
    rw [bind_of_error hn]
    refine ⟨⟨asked, [], hasked.symm, ?_⟩, nofun, nofun, fun e t ht => ?_⟩
    · rw [List.append_nil]
      exact hasked.symm
    · cases ht
      rfl
  | @found t _ hcalls hpos =>
    obtain ⟨later, hlater⟩ := hcalls
    have ht : t.calls = s.calls ++ asked := hasked.symm
    rw [ht, List.append_assoc] at hlater
    cases r' with
    | error e u =>
      rw [bind_of_error hn]
      exact ⟨⟨asked, later, ht, hlater.symm⟩, nofun, nofun, nofun⟩
    | ok n u =>
      rw [bind_of_ok hn]
      have hzero : (n == 0) = false := by simpa using hpos n u rfl
      refine ⟨⟨asked, later, ht, hlater.symm⟩, fun b v hb => ?_, nofun, nofun⟩
      obtain ⟨rfl, -⟩ := pure_eq_ok.mp hb
      rw [hzero]
      exact ⟨t, rfl⟩

/-- Over whatever options, `none_of` denies what `any_of` says from the same stage on. What is
called for the second is called first for the first; where `any_of` finds nothing or raises, the two
end in one and the same stage. -/
theorem none_of_denies_any_of {values : List Value} (h : ∀ v ∈ values, v.IsOption) (i j : Nat) :
    ∃ p q, Combinator.anyOf.build i values = .ok p ∧ Combinator.noneOf.build j values = .ok q ∧
      ∀ (host : Host σ) (access : Access) (s : Stage σ),
        Denied s (p.eval host access s) (q.eval host access s) := by
  obtain ⟨cs, hcs⟩ := exists_options h
  have hbuild (c : Combinator) (identity : Nat) :
      c.build identity values = .ok (c.combine identity cs) :=
    Combinator.build_eq_ok.mpr ⟨cs, hcs, rfl⟩
  refine ⟨_, _, hbuild .anyOf i, hbuild .noneOf j, fun host access s => ?_⟩
  have hsearch : (Combinator.anyOf.combine i cs).eval host access =
      Condition.anyHolds host access cs := Condition.eval_combine .anyOf i cs
  have horder : AsksInOrder False (Condition.functionsAll cs) (Condition.anyHolds host access cs) :=
    Condition.anyHolds_asksInOrder cs
  obtain ⟨calls, hcalls, -⟩ := horder s
  rw [hsearch]
  exact .of_countsAfter j ⟨calls, hcalls.symm⟩ (Condition.countHolding_countsAfter cs s)

/-- A function that answers differently from call to call, a name, a nested predicate and a function
that raises. -/
def mixedOptions : List Value :=
  [.function (.named 7 "f"), .text "a", .predicate (Combinator.allOf.combine 3 [.present "b"]),
    .function (.named 8 "g")]

def mixedHost : Host Counters :=
  Script.host [(7, .answerInTurn [.bool false, .bool true]), (8, .raise ⟨.value, "no"⟩)]

theorem none_of_denies_any_of_in_mixed :
    (∀ v ∈ mixedOptions, v.IsOption) ∧
      ∃ p q, Combinator.anyOf.build 1 mixedOptions = .ok p ∧
        Combinator.noneOf.build 2 mixedOptions = .ok q ∧ ∀ s : Stage Counters,
          Denied s (p.eval mixedHost .writable s) (q.eval mixedHost .writable s) := by
  have h : ∀ v ∈ mixedOptions, v.IsOption := by
    simp [mixedOptions, Value.isOption_iff, Value.option?, Value.condition?]
  obtain ⟨p, q, hp, hq, hdenied⟩ := @none_of_denies_any_of Counters _ h 1 2
  exact ⟨h, p, q, hp, hq, fun s => hdenied mixedHost .writable s⟩

end ParamGate
