import ParamGate.Proofs.Order

/-!
What a tree over names sees of the parameters: which of its names are there. Neither the values nor
the order of the parameters count, nor does the order of the options at any node.
-/

namespace ParamGate

open Run

variable {σ τ : Type} {answer answer' : HostFunction → Entries → Value} {es es' : Entries}

def noAnswer : HostFunction → Entries → Value := fun _ _ => .null

/-- Some parameter has the name, whatever its value. -/
def Entries.HasName (es : Entries) (x : String) : Prop := ∃ v, (Value.text x, v) ∈ es

namespace Formula

mutual

/-- The names at the leaves, from left to right, each with the combinators above it, the outermost
first. -/
def occurrences : Formula → List (String × List Combinator)
  | .name s => [(s, [])]
  | .function _ => []
  | .node c _ options => (occurrencesAll options).map fun o => (o.1, c :: o.2)

def occurrencesAll : List Formula → List (String × List Combinator)
  | [] => []
  | t :: ts => t.occurrences ++ occurrencesAll ts

end

def names (t : Formula) : List String := t.occurrences.map (·.1)

section Leaves

variable {c : Combinator} {identity : Nat} {ts : List Formula} {x : String}

theorem mem_occurrencesAll {o : String × List Combinator} :
    o ∈ occurrencesAll ts ↔ ∃ t ∈ ts, o ∈ t.occurrences := by
  induction ts with
  | nil => simp [occurrencesAll]
  | cons t ts ih => simp [occurrencesAll, ih]

theorem mem_occurrences_node {above : List Combinator} :
    (x, above) ∈ (node c identity ts).occurrences ↔
      ∃ t ∈ ts, ∃ rest, (x, rest) ∈ t.occurrences ∧ above = c :: rest := by
  simp only [occurrences, List.mem_map, mem_occurrencesAll, Prod.mk.injEq, Prod.exists]
  constructor
  · rintro ⟨y, rest, ⟨t, ht, ho⟩, rfl, rfl⟩
    exact ⟨t, ht, rest, ho, rfl⟩
  · rintro ⟨t, ht, rest, ho, rfl⟩
    exact ⟨x, rest, ⟨t, ht, ho⟩, rfl, rfl⟩

theorem mem_names {t : Formula} : x ∈ t.names ↔ ∃ above, (x, above) ∈ t.occurrences := by
  simp [names]

theorem mem_names_node : x ∈ (node c identity ts).names ↔ ∃ t ∈ ts, x ∈ t.names := by
  simp only [mem_names, mem_occurrences_node]
  constructor
  · rintro ⟨_, t, ht, rest, ho, rfl⟩
    exact ⟨t, ht, rest, ho⟩
  · rintro ⟨t, ht, rest, ho⟩
    exact ⟨_, t, ht, rest, ho, rfl⟩

theorem functions_node (c : Combinator) (identity : Nat) (ts : List Formula) :
    (node c identity ts).functions = ts.flatMap functions := by
  rw [functions]
  induction ts with
  | nil => rfl
  | cons t ts ih => rw [functionsAll, ih, List.flatMap_cons]

theorem combinators_node (c : Combinator) (identity : Nat) (ts : List Formula) :
    (node c identity ts).combinators = c :: ts.flatMap combinators := by
  rw [combinators]
  congr 1
  induction ts with
  | nil => rfl
  | cons t ts ih => rw [combinatorsAll, ih, List.flatMap_cons]

theorem functions_node_eq_nil :
    (node c identity ts).functions = [] ↔ ∀ t ∈ ts, t.functions = [] := by
  rw [functions_node, List.flatMap_eq_nil_iff]

theorem eachFunction_of_names {P : HostFunction → Prop} {t : Formula} (h : t.functions = []) :
    t.EachFunction P := by
  induction t using Formula.induction with
  | name s => simp [EachFunction]
  | function f => cases h
  | node c identity ts ih =>
    rw [EachFunction, forall_getElem_iff]
    exact fun t ht => ih t ht (functions_node_eq_nil.mp h t ht)

end Leaves

open scoped Classical in
theorem eval_over_names {t : Formula} (h : t.functions = [])
    (answer : HostFunction → Entries → Value) (host : Host σ) (access : Access) (s : Stage σ) :
    t.condition.eval host access s = .ok (decide (t.Holds answer s.params)) s := by
  have hmeans : t.condition.Means host access answer t :=
    t.condition_means (eachFunction_of_names h)
  obtain ⟨b, s', heval, -, hb⟩ := hmeans s
  -- No function is asked, so nothing is left that could change the stage.
  have hkept : Keeps Eq (t.condition.eval host access) := by
    refine t.condition.eval_keeps fun f hf => ?_
    rw [functions_condition, h] at hf
    cases hf
  obtain rfl := hkept.of_ok heval
  have hdecide : b = decide (t.Holds answer s.params) := by
    rw [Bool.eq_iff_iff, hb, decide_eq_true_iff]
  rw [heval, hdecide]

theorem holds_node_of_forall₂ {c : Combinator} {i j : Nat} {ts us : List Formula}
    (h : List.Forall₂ (fun t u => t.Holds answer es ↔ u.Holds answer' es') ts us) :
    (node c i ts).Holds answer es ↔ (node c j us).Holds answer' es' := by
  classical
  rw [← accepts_countP_iff, ← accepts_countP_iff, h.length_eq]
  have hcount : (ts.countP fun t => decide (t.Holds answer es)) =
      us.countP fun u => decide (u.Holds answer' es') := by
    induction h with
    | nil => rfl
    | cons htu _ ih => simp only [List.countP_cons, ih, htu]
  rw [hcount]

theorem holds_node_of_perm {c : Combinator} {i j : Nat} {ts us : List Formula} (h : ts.Perm us) :
    (node c i ts).Holds answer es ↔ (node c j us).Holds answer es := by
  classical
  rw [← accepts_countP_iff, ← accepts_countP_iff, h.length_eq, h.countP_eq]

theorem holds_congr {t : Formula} (hf : t.functions = [])
    (h : ∀ x ∈ t.names, es.HasName x ↔ es'.HasName x) :
    t.Holds answer es ↔ t.Holds answer es' := by
  induction t using Formula.induction with
  | name s =>
    rw [Holds, Holds]
    exact h s (List.mem_singleton_self s)
  | function f => cases hf
  | node c identity ts ih =>
    refine holds_node_of_forall₂ (List.forall₂_same.mpr fun t ht => ?_)
    refine ih t ht (functions_node_eq_nil.mp hf t ht) fun x hx => h x ?_
    exact mem_names_node.mpr ⟨t, ht, hx⟩

/-- The same tree but for the order of the options of its calls, at any depth. The calls are made
anew, so the objects that they make are others. -/
inductive Rearranged : Formula → Formula → Prop
  | name (s : String) : Rearranged (.name s) (.name s)
  | function (f : HostFunction) : Rearranged (.function f) (.function f)
  | node {c : Combinator} {i j : Nat} {ts us vs : List Formula}
    (h : List.Forall₂ Rearranged ts us) (hp : us.Perm vs) :
    Rearranged (.node c i ts) (.node c j vs)

theorem Rearranged.holds_iff {t u : Formula} (h : t.Rearranged u) :
    t.Holds answer es ↔ u.Holds answer es := by
  induction t using Formula.induction generalizing u with
  | name s =>
    cases h
    exact Iff.rfl
  | function f =>
    cases h
    exact Iff.rfl
  | node c i ts ih =>
    cases h with
    | @node _ _ j _ us vs hall hp =>
      have hus : List.Forall₂ (fun t u => t.Holds answer es ↔ u.Holds answer es) ts us :=
        List.forall₂_iff_zip.mpr ⟨hall.length_eq, fun hm =>
          ih _ (List.of_mem_zip hm).1 ((List.forall₂_iff_zip.mp hall).2 hm)⟩
      exact (holds_node_of_forall₂ hus).trans (holds_node_of_perm (i := j) hp)

theorem Rearranged.functions_perm {t u : Formula} (h : t.Rearranged u) :
    t.functions.Perm u.functions := by
  induction t using Formula.induction generalizing u with
  | name s =>
    cases h
    exact .refl _
  | function f =>
    cases h
    exact .refl _
  | node c i ts ih =>
    cases h with
    | @node _ _ j _ us vs hall hp =>
      rw [functions_node, functions_node]
      refine List.Perm.trans ?_ (hp.flatMap_right functions)
      clear hp
      induction hall with
      | nil => exact .refl _
      | cons htu _ ihall =>
        have hrest := ihall fun t ht => ih t (List.mem_cons_of_mem _ ht)
        exact (ih _ List.mem_cons_self htu).append hrest

theorem Rearranged.functions_eq_nil {t u : Formula} (h : t.Rearranged u) (ht : t.functions = []) :
    u.functions = [] := by
  have hperm := h.functions_perm
  rw [ht] at hperm
  exact List.nil_perm.mp hperm

end Formula

/-- A predicate that combinators make of names, nested however, gives the same answer on any two
parameters that agree on which of its names are there, and changes neither. So does every predicate
that differs from it in the order of the options of some calls, and it gives that answer too. -/
theorem names_are_seen_by_presence_alone {c : Combinator} {identity : Nat} {options : List Formula}
    {u : Formula} (hn : (Formula.node c identity options).functions = [])
    (hu : (Formula.node c identity options).Rearranged u) :
    ∃ p q, (Formula.node c identity options).build = .ok (.predicate p) ∧
      u.build = .ok (.predicate q) ∧
      ∀ (host : Host σ) (host' : Host τ) (access access' : Access) (s : Stage σ) (s' : Stage τ),
        (∀ x ∈ (Formula.node c identity options).names,
          s.params.HasName x ↔ s'.params.HasName x) →
        ∃ b, p.eval host access s = .ok b s ∧ p.eval host' access' s' = .ok b s' ∧
          q.eval host access s = .ok b s ∧ q.eval host' access' s' = .ok b s' := by
  classical
  cases hu with
  | @node _ _ j _ us vs hall hp =>
    have hr : (Formula.node c identity options).Rearranged (.node c j vs) := .node hall hp
    have hv : (Formula.node c j vs).functions = [] := hr.functions_eq_nil hn
    refine ⟨_, _, Formula.build_call c identity options, Formula.build_call c j vs, ?_⟩
    intro host host' access access' s s' hagree
    have hsame : (Formula.node c identity options).Holds noAnswer s.params ↔
        (Formula.node c identity options).Holds noAnswer s'.params :=
      Formula.holds_congr hn hagree
    refine ⟨_, Formula.eval_over_names hn noAnswer host access s, ?_, ?_, ?_⟩
    · rw [decide_eq_decide.mpr hsame]
      exact Formula.eval_over_names hn noAnswer host' access' s'
    · rw [decide_eq_decide.mpr hr.holds_iff]
      exact Formula.eval_over_names hv noAnswer host access s
    · rw [decide_eq_decide.mpr (hsame.trans hr.holds_iff)]
      exact Formula.eval_over_names hv noAnswer host' access' s'

/-- Names at two depths, one of them twice, and the same options in another order. -/
def nestedNames (i j : Nat) : List Formula :=
  [.name "a", .node .anyOf i [.name "b", .node .noneOf j [.name "a"]]]

def turnedNames (i j : Nat) : List Formula :=
  [.node .anyOf i [.node .noneOf j [.name "a"], .name "b"], .name "a"]

theorem nestedNames_rearranged :
    (Formula.node .oneOf 1 (nestedNames 2 3)).Rearranged (.node .oneOf 4 (turnedNames 5 6)) := by
  have hb : (Formula.node .noneOf 3 [.name "a"]).Rearranged (.node .noneOf 6 [.name "a"]) :=
    .node (.cons (.name "a") .nil) (.refl _)
  have hinner : (Formula.node .anyOf 2 [.name "b", .node .noneOf 3 [.name "a"]]).Rearranged
      (.node .anyOf 5 [.node .noneOf 6 [.name "a"], .name "b"]) :=
    .node (.cons (.name "b") (.cons hb .nil)) (.swap _ _ [])
  exact .node (.cons (.name "a") (.cons hinner .nil)) (.swap _ _ [])

/-- Parameters that hold `a` with different values, and in one case another name before it. -/
theorem names_are_seen_by_presence_of_a :
    (Formula.node .oneOf 1 (nestedNames 2 3)).functions = [] ∧
      ∃ p q, (Formula.node .oneOf 1 (nestedNames 2 3)).build = .ok (.predicate p) ∧
        (Formula.node .oneOf 4 (turnedNames 5 6)).build = .ok (.predicate q) ∧
        ∀ (host host' : Host Counters) (s s' : Stage Counters),
          s.params = [(.text "a", .null)] → s'.params = [(.text "z", .int 1), (.text "a", .int 2)] →
          ∃ b, p.eval host .readOnly s = .ok b s ∧ p.eval host' .writable s' = .ok b s' ∧
            q.eval host .readOnly s = .ok b s ∧ q.eval host' .writable s' = .ok b s' := by
  obtain ⟨p, q, hp, hq, h⟩ :=
    @names_are_seen_by_presence_alone Counters Counters _ _ _ _ rfl nestedNames_rearranged
  refine ⟨rfl, p, q, hp, hq, fun host host' s s' hs hs' => h host host' _ _ s s' ?_⟩
  rw [hs, hs']
  simp [nestedNames, Formula.names, Formula.occurrences, Formula.occurrencesAll, Entries.HasName]

end ParamGate
