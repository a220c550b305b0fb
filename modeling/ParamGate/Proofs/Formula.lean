import Mathlib.Data.List.Forall2
import Mathlib.Logic.ExistsUnique
import ParamGate.Proofs.Entries
import ParamGate.Proofs.Run
import ParamGate.Script

/-!
Predicates as Boolean formulas. A tree of calls of the combinators is built from the leaves up. What
it builds answers as its formula says, at every depth, as long as the functions at its leaves answer
by the parameters alone.
-/

namespace ParamGate

open Run

variable {σ : Type}

/-- A tree of calls of the combinators, over names and functions. Each call makes an object of its
own. -/
inductive Formula where
  | name (s : String)
  | function (f : HostFunction)
  | node (c : Combinator) (identity : Nat) (options : List Formula)

namespace Formula

mutual

def build : Formula → Except Failure Value
  | .name s => .ok (.text s)
  | .function f => .ok (.function f)
  | .node c identity options =>
    match buildAll options with
    | .ok vs => (c.build identity vs).map .predicate
    | .error e => .error e

def buildAll : List Formula → Except Failure (List Value)
  | [] => .ok []
  | t :: ts =>
    match t.build with
    | .error e => .error e
    | .ok v =>
      match buildAll ts with
      | .ok vs => .ok (v :: vs)
      | .error e => .error e

end

theorem sizeOf_option_lt {c : Combinator} {identity : Nat} {options : List Formula}
    (i : Fin options.length) : sizeOf options[i] < sizeOf (node c identity options) := by
  have h := List.sizeOf_lt_of_mem (List.getElem_mem i.isLt)
  simp only [node.sizeOf_spec, Fin.getElem_fin]
  omega

@[elab_as_elim]
theorem induction {motive : Formula → Prop} (name : ∀ s, motive (.name s))
    (function : ∀ f, motive (.function f))
    (node : ∀ c identity options, (∀ t ∈ options, motive t) → motive (.node c identity options))
    (t : Formula) : motive t := by
  match t with
  | .name s => exact name s
  | .function f => exact function f
  | .node c identity options =>
    exact node c identity options fun t _ => induction name function node t

/-- What a tree says about parameters. Options count by position, so one that comes twice counts
twice. -/
def Holds (answer : HostFunction → Entries → Value) (params : Entries) : Formula → Prop
  | .name s => ∃ v, (Value.text s, v) ∈ params
  | .function f => (answer f params).truthy = true
  | .node .allOf _ options => ∀ i : Fin options.length, Holds answer params options[i]
  | .node .anyOf _ options => ∃ i : Fin options.length, Holds answer params options[i]
  | .node .noneOf _ options => ¬ ∃ i : Fin options.length, Holds answer params options[i]
  | .node .oneOf _ options => ∃! i : Fin options.length, Holds answer params options[i]
decreasing_by
  all_goals exact sizeOf_option_lt i

def EachFunction (P : HostFunction → Prop) : Formula → Prop
  | .name _ => True
  | .function f => P f
  | .node _ _ options => ∀ i : Fin options.length, EachFunction P options[i]
decreasing_by
  exact sizeOf_option_lt i

mutual

def functions : Formula → List HostFunction
  | .name _ => []
  | .function f => [f]
  | .node _ _ options => functionsAll options

def functionsAll : List Formula → List HostFunction
  | [] => []
  | t :: ts => t.functions ++ functionsAll ts

end

mutual

/-- The combinators at the nodes, each before those of its options. -/
def combinators : Formula → List Combinator
  | .name _ => []
  | .function _ => []
  | .node c _ options => c :: combinatorsAll options

def combinatorsAll : List Formula → List Combinator
  | [] => []
  | t :: ts => t.combinators ++ combinatorsAll ts

end

mutual

def condition : Formula → Condition
  | .name s => .present s
  | .function f => .holds f
  | .node c identity options => .ofPredicate (c.combine identity (conditions options))

def conditions : List Formula → List Condition
  | [] => []
  | t :: ts => t.condition :: conditions ts

end

theorem conditions_eq_map (ts : List Formula) : conditions ts = ts.map condition := by
  induction ts with
  | nil => rfl
  | cons t ts ih => rw [conditions, ih, List.map_cons]

end Formula

/-- A function that returns, changes no parameter and answers by a function of the parameters. It
may keep a state of its own. -/
def Host.Replies (host : Host σ) (access : Access) (answer : HostFunction → Entries → Value)
    (f : HostFunction) : Prop :=
  ∀ es s, ∃ s', (host.predicate f).run access es s = (.ok (answer f es), es, s')

section Counting

variable {α : Type} {P : α → Prop}

theorem forall_getElem_iff {l : List α} : (∀ i : Fin l.length, P l[i]) ↔ ∀ a ∈ l, P a := by
  rw [List.forall_mem_iff_forall_getElem]
  exact Fin.forall_iff

theorem exists_getElem_iff {l : List α} : (∃ i : Fin l.length, P l[i]) ↔ ∃ a ∈ l, P a := by
  rw [List.exists_mem_iff_exists_getElem]
  exact Fin.exists_iff

theorem existsUnique_fin_succ {n : Nat} {P : Fin (n + 1) → Prop} :
    (∃! i, P i) ↔ (P 0 ∧ ∀ i : Fin n, ¬ P i.succ) ∨ (¬ P 0 ∧ ∃! i : Fin n, P i.succ) := by
  constructor
  · rintro ⟨i, hi, huniq⟩
    cases i using Fin.cases with
    | zero => exact .inl ⟨hi, fun j hj => Fin.succ_ne_zero j (huniq _ hj)⟩
    | succ i =>
      refine .inr ⟨fun h0 => Fin.succ_ne_zero i (huniq _ h0).symm, i, hi, fun j hj => ?_⟩
      exact Fin.succ_inj.mp (huniq _ hj)
  · rintro (⟨h0, hrest⟩ | ⟨h0, i, hi, huniq⟩)
    · refine ⟨0, h0, fun j hj => ?_⟩
      cases j using Fin.cases with
      | zero => rfl
      | succ j => exact absurd hj (hrest j)
    · refine ⟨i.succ, hi, fun j hj => ?_⟩
      cases j using Fin.cases with
      | zero => exact absurd hj h0
      | succ j => exact congrArg Fin.succ (huniq j hj)

theorem countP_eq_one_iff [DecidablePred P] {l : List α} :
    l.countP (fun a => decide (P a)) = 1 ↔ ∃! i : Fin l.length, P l[i] := by
  induction l with
  | nil =>
    constructor
    · intro h
      cases h
    · rintro ⟨i, -⟩
      exact i.elim0
  | cons a l ih =>
    have hzero : l.countP (fun a => decide (P a)) = 0 ↔ ∀ i : Fin l.length, ¬ P l[i] := by
      rw [List.countP_eq_zero, forall_getElem_iff (P := fun a => ¬ P a)]
      simp
    refine Iff.trans ?_ (existsUnique_fin_succ (P := fun i => P (a :: l)[i])).symm
    by_cases ha : P a
    · rw [List.countP_cons_of_pos (by simpa using ha), Nat.add_eq_right, hzero]
      simp [ha]
    · rw [List.countP_cons_of_neg (by simpa using ha), ih]
      simp [ha]

end Counting

/-- A condition that evaluates to what a formula says, and leaves the parameters. -/
def Condition.Means (host : Host σ) (access : Access) (answer : HostFunction → Entries → Value)
    (c : Condition) (t : Formula) : Prop :=
  ∀ s : Stage σ, ∃ b s', c.eval host access s = .ok b s' ∧ s'.params = s.params ∧
    (b = true ↔ t.Holds answer s.params)

theorem asOption_of_ok {α : Type} {x : EStateM Raised (Stage σ) α} {a : α} {s t : Stage σ}
    (h : x s = .ok a t) : asOption x s = .ok a t := by
  rw [asOption, h]

variable {host : Host σ} {access : Access} {answer : HostFunction → Entries → Value}

theorem Host.Replies.ask {f : HostFunction} (h : host.Replies access answer f) (s : Stage σ) :
    ∃ s', Stage.ask host access f s = .ok (answer f s.params) s' ∧ s'.params = s.params := by
  obtain ⟨h', hr⟩ := h s.params s.host
  exact ⟨_, Stage.perform_of_ok hr, rfl⟩

namespace Condition

/-- The search for one option that holds ends early but finds one iff there is one. -/
theorem anyHolds_of_means {cs : List Condition} {ts : List Formula}
    (h : List.Forall₂ (Means host access answer) cs ts) (s : Stage σ) :
    ∃ b s', anyHolds host access cs s = .ok b s' ∧ s'.params = s.params ∧
      (b = true ↔ ∃ t ∈ ts, t.Holds answer s.params) := by
  induction h generalizing s with
  | nil => exact ⟨false, s, rfl, rfl, by simp⟩
  | @cons c t cs ts hc _ ih =>
    obtain ⟨b, u, heval, hparams, hb⟩ := hc s
    rw [anyHolds, bind_of_ok (asOption_of_ok heval)]
    cases b with
    | true => exact ⟨true, u, rfl, hparams, by simp [hb.mp rfl]⟩
    | false =>
      -- The first option does not hold, so the others decide, on the same parameters.
      obtain ⟨b', u', hrest, hparams', hb'⟩ := ih u
      have hnot : ¬ t.Holds answer s.params := fun ht => Bool.false_ne_true (hb.mpr ht)
      rw [hparams] at hparams' hb'
      refine ⟨b', u', hrest, hparams', ?_⟩
      rw [hb']
      simp [hnot]

open scoped Classical in
theorem countHolding_of_means {cs : List Condition} {ts : List Formula}
    (h : List.Forall₂ (Means host access answer) cs ts) (s : Stage σ) :
    ∃ s', countHolding host access cs s =
        .ok (ts.countP fun t => decide (t.Holds answer s.params)) s' ∧
      s'.params = s.params := by
  induction h generalizing s with
  | nil => exact ⟨s, rfl, rfl⟩
  | @cons c t cs ts hc _ ih =>
    obtain ⟨b, u, heval, hparams, hb⟩ := hc s
    obtain ⟨u', hrest, hparams'⟩ := ih u
    rw [hparams] at hrest hparams'
    refine ⟨u', ?_, hparams'⟩
    rw [countHolding, bind_of_ok (asOption_of_ok heval), bind_of_ok hrest]
    have hone :
        (if b then 1 else 0) = if decide (t.Holds answer s.params) = true then 1 else 0 := by
      simp [hb]
    rw [List.countP_cons, Nat.add_comm, ← hone]
    rfl

end Condition

namespace Formula

open scoped Classical in
theorem accepts_countP_iff {c : Combinator} {identity : Nat} {ts : List Formula}
    {params : Entries} :
    (c.rule ts.length).accepts (ts.countP fun t => decide (t.Holds answer params)) = true ↔
      (node c identity ts).Holds answer params := by
  cases c with
  | allOf =>
    rw [Holds, forall_getElem_iff (P := fun t => Holds answer params t)]
    simp only [Combinator.rule, CountRule.accepts, beq_iff_eq, Int.natCast_inj,
      List.countP_eq_length, decide_eq_true_eq]
  | anyOf =>
    rw [Holds, exists_getElem_iff (P := fun t => Holds answer params t)]
    simp [Combinator.rule, CountRule.accepts]
  | noneOf =>
    rw [Holds, exists_getElem_iff (P := fun t => Holds answer params t)]
    simp [Combinator.rule, CountRule.accepts]
  | oneOf =>
    rw [Holds, ← countP_eq_one_iff (P := fun t => Holds answer params t)]
    simp only [Combinator.rule, CountRule.accepts, beq_iff_eq]
    omega

theorem combine_means {cs : List Condition} {ts : List Formula}
    (h : List.Forall₂ (Condition.Means host access answer) cs ts) (c : Combinator)
    (identity : Nat) :
    (Condition.ofPredicate (c.combine identity cs)).Means host access answer
      (node c identity ts) := by
  classical
  intro s
  -- All combinators but `anyOf` evaluate every option and ask for a certain count.
  have hcount : ∀ desired, c.rule cs.length = .exactly desired →
      ∃ b s', (Condition.ofPredicate (c.combine identity cs)).eval host access s = .ok b s' ∧
        s'.params = s.params ∧ (b = true ↔ (node c identity ts).Holds answer s.params) := by
    intro desired hrule
    obtain ⟨s', hs, hparams⟩ := Condition.countHolding_of_means h s
    refine ⟨_, s', ?_, hparams, accepts_countP_iff⟩
    rw [Condition.ofPredicate, Combinator.combine, hrule, Condition.eval, bind_of_ok hs,
      ← h.length_eq, hrule]
    rfl
  cases c with
  | allOf => exact hcount _ rfl
  | noneOf => exact hcount _ rfl
  | oneOf => exact hcount _ rfl
  | anyOf =>
    obtain ⟨b, s', hs, hparams, hb⟩ := Condition.anyHolds_of_means h s
    refine ⟨b, s', ?_, hparams, ?_⟩
    · rw [Condition.ofPredicate, Combinator.combine, Combinator.rule, Condition.eval]
      exact hs
    · rw [hb, Holds, exists_getElem_iff (P := fun t => Holds answer s.params t)]

theorem build_node {ts : List Formula} {vs : List Value} {cs : List Condition}
    (hbuild : buildAll ts = .ok vs) (hread : ∀ title, readOptions title vs = .ok cs)
    (c : Combinator) (identity : Nat) :
    (node c identity ts).build = .ok (.predicate (c.combine identity cs)) := by
  rw [build, hbuild]
  dsimp only
  rw [Combinator.build, hread]
  rfl

mutual

theorem build_condition (t : Formula) : ∃ v, t.build = .ok v ∧ v.option? = some t.condition := by
  match t with
  | .name s => exact ⟨.text s, rfl, rfl⟩
  | .function f => exact ⟨.function f, rfl, rfl⟩
  | .node c identity ts =>
    obtain ⟨vs, hvs, hcs⟩ := buildAll_conditions ts
    exact ⟨_, build_node hvs hcs c identity, rfl⟩

theorem buildAll_conditions (ts : List Formula) :
    ∃ vs, buildAll ts = .ok vs ∧ ∀ title, readOptions title vs = .ok (conditions ts) := by
  match ts with
  | [] => exact ⟨[], rfl, fun _ => rfl⟩
  | t :: ts =>
    obtain ⟨v, hv, hc⟩ := build_condition t
    obtain ⟨vs, hvs, hcs⟩ := buildAll_conditions ts
    refine ⟨v :: vs, ?_, fun title => ?_⟩
    · rw [buildAll, hv, hvs]
    · rw [readOptions, hc, hcs title]
      rfl

end

theorem build_call (c : Combinator) (identity : Nat) (ts : List Formula) :
    (node c identity ts).build = .ok (.predicate (c.combine identity (conditions ts))) := by
  obtain ⟨vs, hvs, hcs⟩ := buildAll_conditions ts
  exact build_node hvs hcs c identity

mutual

theorem condition_means (t : Formula) (h : t.EachFunction (host.Replies access answer)) :
    t.condition.Means host access answer t := by
  match t with
  | .name s =>
    refine fun u => ⟨_, u, rfl, rfl, ?_⟩
    rw [Holds, Entries.contains_text_iff]
  | .function f =>
    rw [EachFunction] at h
    intro u
    obtain ⟨u', hask, hparams⟩ := h.ask u
    refine ⟨(answer f u.params).truthy, u', ?_, hparams, ?_⟩
    · rw [condition, Condition.eval, bind_of_ok hask]
      rfl
    · rw [Holds]
  | .node c identity ts =>
    rw [EachFunction] at h
    have hts := forall_getElem_iff.mp h
    rw [condition]
    exact combine_means (conditions_means ts hts) c identity

theorem conditions_means (ts : List Formula)
    (h : ∀ t ∈ ts, t.EachFunction (host.Replies access answer)) :
    List.Forall₂ (Condition.Means host access answer) (conditions ts) ts := by
  match ts with
  | [] => exact .nil
  | t :: ts =>
    have hhead := condition_means t (h t List.mem_cons_self)
    have hrest := conditions_means ts fun t ht => h t (List.mem_cons_of_mem _ ht)
    exact .cons hhead hrest

end

theorem buildAll_means (ts : List Formula)
    (h : ∀ t ∈ ts, t.EachFunction (host.Replies access answer)) :
    ∃ vs cs, buildAll ts = .ok vs ∧ (∀ title, readOptions title vs = .ok cs) ∧
      List.Forall₂ (Condition.Means host access answer) cs ts := by
  obtain ⟨vs, hvs, hcs⟩ := buildAll_conditions ts
  exact ⟨vs, conditions ts, hvs, hcs, conditions_means ts h⟩

end Formula

/-- However combinators are nested, the call of the outermost one makes a predicate. Where its
functions answer by the parameters alone, it returns what its formula says and leaves the
parameters. -/
theorem predicate_means_formula (c : Combinator) (identity : Nat) (options : List Formula)
    (h : (Formula.node c identity options).EachFunction (host.Replies access answer)) :
    ∃ p, (Formula.node c identity options).build = .ok (.predicate p) ∧
      ∀ s : Stage σ, ∃ b s', p.eval host access s = .ok b s' ∧ s'.params = s.params ∧
        (b = true ↔ (Formula.node c identity options).Holds answer s.params) := by
  rw [Formula.EachFunction] at h
  have hoptions := forall_getElem_iff.mp h
  obtain ⟨vs, cs, hbuild, hread, hmeans⟩ := Formula.buildAll_means options hoptions
  refine ⟨c.combine identity cs, Formula.build_node hbuild hread c identity, ?_⟩
  exact Formula.combine_means hmeans c identity

/-- A name that comes twice, beside a nested predicate over a function that counts parameters. -/
def repeatedName : List Formula :=
  [.name "a", .name "a", .node .noneOf 2 [.function (.named 7 "n")]]

theorem predicate_means_repeated_name :
    ∃ p, (Formula.node .oneOf 1 repeatedName).build = .ok (.predicate p) ∧
      ∀ s : Stage Counters, ∃ b s',
        p.eval (Script.host [(7, .count)]) .readOnly s = .ok b s' ∧ s'.params = s.params ∧
        (b = true ↔
          (Formula.node .oneOf 1 repeatedName).Holds (fun _ es => .int es.length) s.params) := by
  apply predicate_means_formula
  have hcount : (Script.host [(7, .count)]).Replies .readOnly (fun _ es => .int es.length)
      (.named 7 "n") := fun es s => ⟨s, rfl⟩
  rw [Formula.EachFunction, forall_getElem_iff]
  simp [repeatedName, Formula.EachFunction, hcount]

end ParamGate
