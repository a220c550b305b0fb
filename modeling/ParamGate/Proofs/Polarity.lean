import Mathlib.Algebra.Ring.Parity
import ParamGate.Proofs.Presence

/-!
What one more name does to the answer of a tree over names. Each `none_of` above an occurrence turns
the effect round, `all_of` and `any_of` keep it, and under a `one_of` nothing can be said.
-/

namespace ParamGate

open Run

variable {σ : Type} {answer : HostFunction → Entries → Value} {es es' : Entries} {x : String}

namespace Entries

theorem hasName_iff : es.HasName x ↔ (Value.text x).key ∈ es.keys := by
  rw [HasName, ← contains_text_iff, contains_iff]

theorem hasName_put {y : String} {v : Value} :
    HasName (put es (.text x) v) y ↔ es.HasName y ∨ y = x := by
  have hk : (Value.text y).key = (Value.text x).key ↔ y = x := by simp [Value.key_text]
  rw [hasName_iff, hasName_iff, keys_put]
  split
  · constructor
    · exact .inl
    · rintro (hy | rfl)
      · exact hy
      · assumption
  · rw [List.mem_append, List.mem_singleton, hk]

end Entries

namespace Formula

/-- No occurrence of the name lies under a `one_of`, and the number of `none_of` that it lies under
is such a number. -/
def Placed (P : Nat → Prop) (t : Formula) (x : String) : Prop :=
  ∀ above, (x, above) ∈ t.occurrences → .oneOf ∉ above ∧ P (above.count .noneOf)

/-- Every occurrence of the name lies under an even number of `none_of`, and under no `one_of`. -/
def Positive : Formula → String → Prop := Placed Even

/-- Every occurrence of the name lies under an odd number of `none_of`, and under no `one_of`. -/
def Negative : Formula → String → Prop := Placed Odd

section Options

variable {c : Combinator} {identity : Nat} {ts : List Formula} {t : Formula} {P : Nat → Prop}

theorem mem_occurrences_of_option {rest : List Combinator} (ht : t ∈ ts)
    (ho : (x, rest) ∈ t.occurrences) : (x, c :: rest) ∈ (node c identity ts).occurrences :=
  mem_occurrences_node.mpr ⟨t, ht, rest, ho, rfl⟩

theorem Placed.option (h : (node c identity ts).Placed P x) (hc : c ≠ .noneOf) (ht : t ∈ ts) :
    t.Placed P x := by
  intro rest ho
  obtain ⟨hone, hcount⟩ := h _ (mem_occurrences_of_option ht ho)
  rw [List.count_cons_of_ne hc] at hcount
  exact ⟨fun hm => hone (List.mem_cons_of_mem c hm), hcount⟩

theorem Placed.option_noneOf (h : (node .noneOf identity ts).Placed P x) (ht : t ∈ ts) :
    t.Placed (fun n => P (n + 1)) x := by
  intro rest ho
  obtain ⟨hone, hcount⟩ := h _ (mem_occurrences_of_option ht ho)
  rw [List.count_cons_self] at hcount
  exact ⟨fun hm => hone (List.mem_cons_of_mem _ hm), hcount⟩

theorem Positive.option_noneOf (h : (node .noneOf identity ts).Positive x) (ht : t ∈ ts) :
    t.Negative x := by
  intro rest ho
  obtain ⟨hone, heven⟩ := Placed.option_noneOf h ht rest ho
  exact ⟨hone, Nat.not_even_iff_odd.mp (Nat.even_add_one.mp heven)⟩

theorem Negative.option_noneOf (h : (node .noneOf identity ts).Negative x) (ht : t ∈ ts) :
    t.Positive x := by
  intro rest ho
  obtain ⟨hone, hodd⟩ := Placed.option_noneOf h ht rest ho
  exact ⟨hone, Nat.not_odd_iff_even.mp (Nat.odd_add_one.mp hodd)⟩

theorem Placed.not_mem_names (h : (node .oneOf identity ts).Placed P x) :
    x ∉ (node .oneOf identity ts).names := by
  intro hx
  obtain ⟨t, ht, hxt⟩ := mem_names_node.mp hx
  obtain ⟨rest, ho⟩ := mem_names.mp hxt
  exact (h _ (mem_occurrences_of_option ht ho)).1 List.mem_cons_self

theorem holds_allOf :
    (node .allOf identity ts).Holds answer es ↔ ∀ t ∈ ts, t.Holds answer es := by
  rw [Holds, forall_getElem_iff (P := fun t => Holds answer es t)]

theorem holds_anyOf :
    (node .anyOf identity ts).Holds answer es ↔ ∃ t ∈ ts, t.Holds answer es := by
  rw [Holds, exists_getElem_iff (P := fun t => Holds answer es t)]

theorem holds_noneOf :
    (node .noneOf identity ts).Holds answer es ↔ ¬ ∃ t ∈ ts, t.Holds answer es := by
  rw [Holds, exists_getElem_iff (P := fun t => Holds answer es t)]

end Options

/-- A name that is there in the second parameters and not in the first. -/
def Gained (es es' : Entries) (x : String) : Prop := es'.HasName x ∧ ¬ es.HasName x

/-- Where no name is lost, names that a tree has in positive places only cannot make it fail, and
names that it has in negative places only cannot make it hold. -/
theorem holds_of_gained {t : Formula} (hf : t.functions = [])
    (hup : ∀ x, es.HasName x → es'.HasName x) :
    ((∀ x, Gained es es' x → t.Positive x) → t.Holds answer es → t.Holds answer es') ∧
      ((∀ x, Gained es es' x → t.Negative x) → t.Holds answer es' → t.Holds answer es) := by
  -- Below a `none_of` the two halves change places, so the induction carries both.
  induction t using Formula.induction with
  | name s =>
    rw [Holds, Holds]
    refine ⟨fun _ h => hup s h, fun hneg h => ?_⟩
    by_contra hs
    have hodd := (hneg s ⟨h, hs⟩ [] (List.mem_singleton_self _)).2
    exact absurd hodd (by decide)
  | function f => cases hf
  | node c identity ts ih =>
    have hts := functions_node_eq_nil.mp hf
    cases c with
    | allOf =>
      rw [holds_allOf, holds_allOf]
      constructor
      · intro hpos h t ht
        exact (ih t ht (hts t ht)).1 (fun x hx => Placed.option (hpos x hx) nofun ht) (h t ht)
      · intro hneg h t ht
        exact (ih t ht (hts t ht)).2 (fun x hx => Placed.option (hneg x hx) nofun ht) (h t ht)
    | anyOf =>
      rw [holds_anyOf, holds_anyOf]
      constructor
      · rintro hpos ⟨t, ht, h⟩
        exact ⟨t, ht, (ih t ht (hts t ht)).1 (fun x hx => Placed.option (hpos x hx) nofun ht) h⟩
      · rintro hneg ⟨t, ht, h⟩
        exact ⟨t, ht, (ih t ht (hts t ht)).2 (fun x hx => Placed.option (hneg x hx) nofun ht) h⟩
    | noneOf =>
      rw [holds_noneOf, holds_noneOf]
      constructor
      · rintro hpos h ⟨t, ht, h'⟩
        exact h ⟨t, ht, (ih t ht (hts t ht)).2 (fun x hx => (hpos x hx).option_noneOf ht) h'⟩
      · rintro hneg h' ⟨t, ht, h⟩
        exact h' ⟨t, ht, (ih t ht (hts t ht)).1 (fun x hx => (hneg x hx).option_noneOf ht) h⟩
    | oneOf =>
      -- No name that is gained occurs here at all.
      have hagree {P : Nat → Prop}
          (hx : ∀ x, Gained es es' x → (node .oneOf identity ts).Placed P x) :
          (node .oneOf identity ts).Holds answer es ↔ (node .oneOf identity ts).Holds answer es' :=
        holds_congr hf fun x hm =>
          ⟨hup x, fun h => by_contra fun hs => (hx x ⟨h, hs⟩).not_mem_names hm⟩
      exact ⟨fun hpos => (hagree hpos).mp, fun hneg => (hagree hneg).mpr⟩

theorem mem_combinators_of_above {t : Formula} {above : List Combinator} {d : Combinator}
    (ho : (x, above) ∈ t.occurrences) (hd : d ∈ above) : d ∈ t.combinators := by
  induction t using Formula.induction generalizing above with
  | name s =>
    obtain ⟨rfl, rfl⟩ : x = s ∧ above = [] := by simpa [occurrences] using ho
    cases hd
  | function f => cases ho
  | node c identity ts ih =>
    obtain ⟨t, ht, rest, hrest, rfl⟩ := mem_occurrences_node.mp ho
    rw [combinators_node, List.mem_cons]
    rcases List.mem_cons.mp hd with rfl | hd
    · exact .inl rfl
    · exact .inr (List.mem_flatMap.mpr ⟨t, ht, ih t ht hrest hd⟩)

theorem positive_of_combinators {t : Formula}
    (h : ∀ d ∈ t.combinators, d = .allOf ∨ d = .anyOf) (x : String) : t.Positive x := by
  intro above ho
  have hout (d : Combinator) (hd : d ≠ .allOf ∧ d ≠ .anyOf) : d ∉ above := fun hm =>
    (h d (mem_combinators_of_above ho hm)).elim hd.1 hd.2
  rw [List.count_eq_zero_of_not_mem (hout .noneOf (by decide))]
  exact ⟨hout .oneOf (by decide), Even.zero⟩

section Outcome

variable {t : Formula} {host : Host σ} {access : Access} {s : Stage σ}

theorem outcome_eq_true (h : t.functions = []) :
    outcome (t.condition.eval host access s) = .ok true ↔ t.Holds noAnswer s.params := by
  classical
  rw [eval_over_names h noAnswer, outcome, Except.ok.injEq, decide_eq_true_iff]

theorem outcome_eq_false (h : t.functions = []) :
    outcome (t.condition.eval host access s) = .ok false ↔ ¬ t.Holds noAnswer s.params := by
  classical
  rw [eval_over_names h noAnswer, outcome, Except.ok.injEq, decide_eq_false_iff_not]

end Outcome

end Formula

/-- What one more name does to a predicate that combinators make of names depends on where the name
occurs. If every occurrence lies under an even number of `none_of`, and none under a `one_of`, it
never turns a yes into a no; if under an odd number, never a no into a yes. With `all_of` and
`any_of` alone a predicate that holds goes on to hold as names are added. -/
theorem polarity_decides_effect_of_name {c : Combinator} {identity : Nat} {options : List Formula}
    (hn : (Formula.node c identity options).functions = []) :
    ∃ p, (Formula.node c identity options).build = .ok (.predicate p) ∧
      (∀ (x : String) (host : Host σ) (access : Access) (s : Stage σ) (v : Value),
        ((Formula.node c identity options).Positive x →
          outcome (p.eval host access s) = .ok true →
          outcome (p.eval host access { s with params := Entries.put s.params (.text x) v }) =
            .ok true) ∧
        ((Formula.node c identity options).Negative x →
          outcome (p.eval host access s) = .ok false →
          outcome (p.eval host access { s with params := Entries.put s.params (.text x) v }) =
            .ok false)) ∧
      ((∀ d ∈ (Formula.node c identity options).combinators, d = .allOf ∨ d = .anyOf) →
        ∀ (host : Host σ) (access : Access) (s s' : Stage σ),
          (∀ x, s.params.HasName x → s'.params.HasName x) →
          outcome (p.eval host access s) = .ok true →
          outcome (p.eval host access s') = .ok true) := by
  refine ⟨_, Formula.build_call c identity options, ?_, ?_⟩
  · intro x host access s v
    have hup : ∀ y, s.params.HasName y → (Entries.put s.params (.text x) v).HasName y :=
      fun y hy => Entries.hasName_put.mpr (.inl hy)
    have honly : ∀ y, Formula.Gained s.params (Entries.put s.params (.text x) v) y → y = x :=
      fun y hy => (Entries.hasName_put.mp hy.1).resolve_left hy.2
    obtain ⟨hmono, hanti⟩ := @Formula.holds_of_gained noAnswer _ _ _ hn hup
    constructor
    · intro hpos hyes
      refine (Formula.outcome_eq_true hn).mpr (hmono ?_ ((Formula.outcome_eq_true hn).mp hyes))
      rintro y hy
      rw [honly y hy]
      exact hpos
    · intro hneg hno
      refine (Formula.outcome_eq_false hn).mpr fun h => (Formula.outcome_eq_false hn).mp hno ?_
      refine hanti (fun y hy => ?_) h
      rw [honly y hy]
      exact hneg
  · intro hall host access s s' hup hyes
    refine (Formula.outcome_eq_true hn).mpr ?_
    refine (Formula.holds_of_gained hn hup).1 (fun x _ => ?_) ((Formula.outcome_eq_true hn).mp hyes)
    exact Formula.positive_of_combinators hall x

/-- A tree in which `a` is in a positive place, two `none_of` above it, and `b` in a negative
one. -/
def guardedNames : List Formula :=
  [.name "c", .node .noneOf 2 [.name "b", .node .noneOf 3 [.name "a"]]]

theorem polarity_decides_effect_in_guarded :
    (Formula.node .anyOf 1 guardedNames).functions = [] ∧
      ∃ p, (Formula.node .anyOf 1 guardedNames).build = .ok (.predicate p) ∧
        ∀ (host : Host Counters) (s : Stage Counters) (v : Value),
          (outcome (p.eval host .readOnly s) = .ok true →
            outcome (p.eval host .readOnly
              { s with params := Entries.put s.params (.text "a") v }) = .ok true) ∧
          (outcome (p.eval host .readOnly s) = .ok false →
            outcome (p.eval host .readOnly
              { s with params := Entries.put s.params (.text "b") v }) = .ok false) := by
  obtain ⟨p, hp, h, -⟩ := @polarity_decides_effect_of_name Counters .anyOf 1 guardedNames rfl
  have hoccurs : (Formula.node .anyOf 1 guardedNames).occurrences =
      [("c", [.anyOf]), ("b", [.anyOf, .noneOf]), ("a", [.anyOf, .noneOf, .noneOf])] := rfl
  refine ⟨rfl, p, hp, fun host s v => ⟨?_, ?_⟩⟩
  · refine (h "a" host .readOnly s v).1 fun above ho => ?_
    obtain rfl : above = [.anyOf, .noneOf, .noneOf] := by simpa [hoccurs] using ho
    decide
  · refine (h "b" host .readOnly s v).2 fun above ho => ?_
    obtain rfl : above = [.anyOf, .noneOf] := by simpa [hoccurs] using ho
    decide

end ParamGate
