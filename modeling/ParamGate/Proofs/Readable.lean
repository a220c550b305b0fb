import ParamGate.Proofs.Order
import ParamGate.Proofs.Quotation
import ParamGate.Value.Printing

/-!
A predicate is known by its text. The text of a tree over names tells where it ends, whatever the
names hold, so no two trees share one; and predicates of the same tree answer alike.
-/

namespace ParamGate

variable {σ : Type} {host : Host σ} {access : Access}

namespace Combinator

theorem name_append_inj {c d : Combinator} {xs ys : List Char}
    (h : c.name.toList ++ '(' :: xs = d.name.toList ++ '(' :: ys) : c = d ∧ xs = ys := by
  cases c <;> cases d <;> simp [name] at h <;> exact ⟨rfl, h⟩

theorem exists_name_toList (c : Combinator) : ∃ a as, c.name.toList = a :: as ∧ a.isAlpha := by
  cases c <;> exact ⟨_, _, rfl, rfl⟩

end Combinator

namespace Condition

def charsAfter : List Condition → List Char → List Char
  | [], r => ')' :: r
  | c :: cs, r => ',' :: ' ' :: (listChars (c :: cs) ++ ')' :: r)

theorem listChars_cons_append (c : Condition) (cs : List Condition) (r : List Char) :
    listChars (c :: cs) ++ ')' :: r = c.chars ++ charsAfter cs r := by
  cases cs with
  | nil => rfl
  | cons d ds => simp [listChars, charsAfter]

/-- Another option after this one, or the end of the call: the next character tells. -/
theorem charsAfter_inj {cs ds : List Condition} {r r' : List Char}
    (h : charsAfter cs r = charsAfter ds r') :
    listChars cs ++ ')' :: r = listChars ds ++ ')' :: r' := by
  cases cs with
  | nil =>
    cases ds with
    | nil => exact h
    | cons d ds => simp [charsAfter] at h
  | cons c cs =>
    cases ds with
    | nil => simp [charsAfter] at h
    | cons d ds => exact (List.cons.inj (List.cons.inj h).2).2

end Condition

namespace Formula

mutual

/-- A tree without the identities of the objects that its calls make. -/
def anonymous : Formula → Formula
  | .name s => .name s
  | .function f => .function f
  | .node c _ options => .node c 0 (anonymousAll options)

def anonymousAll : List Formula → List Formula
  | [] => []
  | t :: ts => t.anonymous :: anonymousAll ts

end

theorem name_chars_append (s : String) (r : List Char) :
    (name s).condition.chars ++ r = Text.Quoted.encode s.toList ++ r := by
  rw [condition, Condition.chars]

theorem node_chars_append (c : Combinator) (identity : Nat) (ts : List Formula) (r : List Char) :
    (node c identity ts).condition.chars ++ r =
      c.name.toList ++ '(' :: (Condition.listChars (conditions ts) ++ ')' :: r) := by
  simp [condition, Condition.ofPredicate, Combinator.combine, Condition.chars]

theorem exists_quote (s : String) (r : List Char) :
    ∃ q as, (name s).condition.chars ++ r = q :: as ∧ (q = '\'' ∨ q = '"') := by
  rw [name_chars_append, Text.Quoted.encode_append]
  exact ⟨_, _, rfl, Text.Quoted.quoteFor_eq _⟩

theorem exists_letter (c : Combinator) (identity : Nat) (ts : List Formula) (r : List Char) :
    ∃ a as, (node c identity ts).condition.chars ++ r = a :: as ∧ a.isAlpha := by
  obtain ⟨a, as, hname, ha⟩ := c.exists_name_toList
  rw [node_chars_append, hname]
  exact ⟨a, _, rfl, ha⟩

/-- A name is never taken for a call, however it is spelled: its quote tells. -/
theorem name_chars_ne_node_chars (s : String) (c : Combinator) (identity : Nat)
    (ts : List Formula) (r r' : List Char) :
    (name s).condition.chars ++ r ≠ (node c identity ts).condition.chars ++ r' := by
  obtain ⟨q, as, hname, hq⟩ := exists_quote s r
  obtain ⟨a, bs, hnode, ha⟩ := exists_letter c identity ts r'
  rw [hname, hnode]
  -- Neither quote is a letter.
  intro h
  have hqa : q = a := (List.cons.inj h).1
  rw [← hqa] at ha
  rcases hq with rfl | rfl <;> exact absurd ha (by decide)

theorem chars_ne_end {t : Formula} (ht : t.functions = []) (r r' : List Char) :
    t.condition.chars ++ r ≠ ')' :: r' := by
  cases t with
  | name s =>
    obtain ⟨q, as, hname, hq⟩ := exists_quote s r
    rw [hname]
    intro h
    have hend : q = ')' := (List.cons.inj h).1
    rcases hq with rfl | rfl <;> cases hend
  | function f => cases ht
  | node c identity ts =>
    obtain ⟨a, as, hnode, ha⟩ := exists_letter c identity ts r
    rw [hnode]
    intro h
    have hend : a = ')' := (List.cons.inj h).1
    rw [hend] at ha
    cases ha

theorem options_chars_append (t : Formula) (ts : List Formula) (r : List Char) :
    Condition.listChars (conditions (t :: ts)) ++ ')' :: r =
      t.condition.chars ++ Condition.charsAfter (conditions ts) r := by
  rw [conditions, Condition.listChars_cons_append]

theorem functionsAll_cons_eq_nil {t : Formula} {ts : List Formula} :
    functionsAll (t :: ts) = [] ↔ t.functions = [] ∧ functionsAll ts = [] := by
  rw [functionsAll, List.append_eq_nil_iff]

mutual

theorem chars_append_inj {t u : Formula} {r r' : List Char} (ht : t.functions = [])
    (hu : u.functions = []) (h : t.condition.chars ++ r = u.condition.chars ++ r') :
    t.anonymous = u.anonymous ∧ r = r' := by
  match t, u with
  | .function f, _ => cases ht
  | _, .function f => cases hu
  | .name s, .name s' =>
    rw [name_chars_append, name_chars_append] at h
    obtain ⟨hs, hr⟩ := Text.Quoted.encode_append_inj h
    have hname : s = s' := String.toList_inj.mp hs
    rw [hname]
    exact ⟨rfl, hr⟩
  | .name s, .node d j us => exact absurd h (name_chars_ne_node_chars s d j us r r')
  | .node c i ts, .name s' => exact absurd h.symm (name_chars_ne_node_chars s' c i ts r' r)
  | .node c i ts, .node d j us =>
    rw [node_chars_append, node_chars_append] at h
    rw [functions] at ht hu
    obtain ⟨rfl, hoptions⟩ := Combinator.name_append_inj h
    obtain ⟨hall, hr⟩ := listChars_append_inj ht hu hoptions
    rw [anonymous, anonymous, hall]
    exact ⟨rfl, hr⟩

theorem listChars_append_inj {ts us : List Formula} {r r' : List Char}
    (hts : functionsAll ts = []) (hus : functionsAll us = [])
    (h : Condition.listChars (conditions ts) ++ ')' :: r =
      Condition.listChars (conditions us) ++ ')' :: r') :
    anonymousAll ts = anonymousAll us ∧ r = r' := by
  match ts, us with
  | [], [] => exact ⟨rfl, (List.cons.inj h).2⟩
  | [], u :: us =>
    obtain ⟨hu, -⟩ := functionsAll_cons_eq_nil.mp hus
    rw [options_chars_append] at h
    exact absurd h.symm (chars_ne_end hu _ _)
  | t :: ts, [] =>
    obtain ⟨ht, -⟩ := functionsAll_cons_eq_nil.mp hts
    rw [options_chars_append] at h
    exact absurd h (chars_ne_end ht _ _)
  | t :: ts, u :: us =>
    obtain ⟨ht, hts⟩ := functionsAll_cons_eq_nil.mp hts
    obtain ⟨hu, hus⟩ := functionsAll_cons_eq_nil.mp hus
    rw [options_chars_append, options_chars_append] at h
    -- The first options are one tree and end at one place, so the same options are left to read.
    obtain ⟨hhead, hafter⟩ := chars_append_inj ht hu h
    obtain ⟨htail, hr⟩ := listChars_append_inj hts hus (Condition.charsAfter_inj hafter)
    rw [anonymousAll, anonymousAll, hhead, htail]
    exact ⟨rfl, hr⟩

end

mutual

theorem chars_anonymous (t : Formula) : t.anonymous.condition.chars = t.condition.chars := by
  match t with
  | .name s => rw [anonymous]
  | .function f => rw [anonymous]
  | .node c identity ts =>
    have hrest := listChars_anonymous ts
    rw [anonymous]
    simp only [condition, Condition.ofPredicate, Combinator.combine, Condition.chars, hrest]

theorem listChars_anonymous (ts : List Formula) :
    Condition.listChars (conditions (anonymousAll ts)) = Condition.listChars (conditions ts) := by
  match ts with
  | [] => rw [anonymousAll]
  | [t] => exact chars_anonymous t
  | t :: u :: ts =>
    have ht := chars_anonymous t
    have hrest := listChars_anonymous (u :: ts)
    simp only [anonymousAll, conditions, Condition.listChars] at hrest ⊢
    rw [ht, hrest]

end

theorem length_anonymousAll (ts : List Formula) : (anonymousAll ts).length = ts.length := by
  induction ts with
  | nil => rfl
  | cons t ts ih => rw [anonymousAll, List.length_cons, ih, List.length_cons]

theorem length_conditions (ts : List Formula) : (conditions ts).length = ts.length := by
  rw [conditions_eq_map, List.length_map]

mutual

theorem eval_anonymous (t : Formula) :
    t.anonymous.condition.eval host access = t.condition.eval host access := by
  match t with
  | .name s => rw [anonymous]
  | .function f => rw [anonymous]
  | .node c identity ts =>
    rw [anonymous, condition, condition, Condition.eval_combine, Condition.eval_combine,
      length_conditions, length_anonymousAll, length_conditions, anyHolds_anonymous ts,
      countHolding_anonymous ts]

theorem anyHolds_anonymous (ts : List Formula) :
    Condition.anyHolds host access (conditions (anonymousAll ts)) =
      Condition.anyHolds host access (conditions ts) := by
  match ts with
  | [] => rw [anonymousAll]
  | t :: ts =>
    rw [anonymousAll, conditions, conditions, Condition.anyHolds, Condition.anyHolds,
      eval_anonymous t, anyHolds_anonymous ts]

theorem countHolding_anonymous (ts : List Formula) :
    Condition.countHolding host access (conditions (anonymousAll ts)) =
      Condition.countHolding host access (conditions ts) := by
  match ts with
  | [] => rw [anonymousAll]
  | t :: ts =>
    rw [anonymousAll, conditions, conditions, Condition.countHolding, Condition.countHolding,
      eval_anonymous t, countHolding_anonymous ts]

end

theorem text_eq_iff {t u : Formula} (ht : t.functions = []) (hu : u.functions = []) :
    t.condition.text = u.condition.text ↔ t.anonymous = u.anonymous := by
  rw [Condition.text, Condition.text, String.ofList_inj]
  constructor
  · intro h
    have happ : t.condition.chars ++ [] = u.condition.chars ++ [] := by rw [h]
    exact (chars_append_inj ht hu happ).1
  · intro h
    rw [← chars_anonymous t, h, chars_anonymous u]

example : (node .oneOf 1 [.name "none_of('a')", .node .noneOf 2 [.name "a"]]).condition.text =
    "one_of(\"none_of('a')\", none_of('a'))" := by cbv

theorem literal_combine (c : Combinator) (identity : Nat) (ts : List Formula) :
    (Value.predicate (c.combine identity (conditions ts))).literal =
      (node c identity ts).condition.text := by
  rw [condition]
  rfl

end Formula

/-- Two predicates that combinators make of names, nested however, show the same text iff they are
the same tree: the same combinator at every node and the same options in the same order. They then
answer alike on all parameters. -/
theorem text_identifies_tree {c d : Combinator} {i j : Nat} {ts us : List Formula}
    (ht : (Formula.node c i ts).functions = []) (hu : (Formula.node d j us).functions = []) :
    ∃ p q, (Formula.node c i ts).build = .ok (.predicate p) ∧
      (Formula.node d j us).build = .ok (.predicate q) ∧
      ((Value.predicate p).literal = (Value.predicate q).literal ↔
        (Formula.node c i ts).anonymous = (Formula.node d j us).anonymous) ∧
      ((Value.predicate p).literal = (Value.predicate q).literal →
        ∀ (host : Host σ) (access : Access) (s : Stage σ),
          p.eval host access s = q.eval host access s) := by
  refine ⟨_, _, Formula.build_call c i ts, Formula.build_call d j us, ?_⟩
  rw [Formula.literal_combine, Formula.literal_combine]
  have htext := Formula.text_eq_iff ht hu
  refine ⟨htext, fun h host access s => ?_⟩
  have heval : (Formula.node c i ts).condition.eval host access =
      (Formula.node d j us).condition.eval host access := by
    rw [← Formula.eval_anonymous, htext.mp h, Formula.eval_anonymous]
  exact congrFun heval s

/-- A name that is spelled as a call of a combinator, beside the call, and a name that holds both
quotes. -/
def spelledAsCall (i : Nat) : List Formula :=
  [.name "none_of('a')", .node .noneOf i [.name "a"], .name "'\", \\"]

theorem text_identifies_spelled_as_call :
    (Formula.node .oneOf 1 (spelledAsCall 2)).functions = [] ∧
      (Formula.node .oneOf 3 (spelledAsCall 4)).functions = [] ∧
      ∃ p q, (Formula.node .oneOf 1 (spelledAsCall 2)).build = .ok (.predicate p) ∧
        (Formula.node .oneOf 3 (spelledAsCall 4)).build = .ok (.predicate q) ∧
        ((Value.predicate p).literal = (Value.predicate q).literal ↔
          (Formula.node .oneOf 1 (spelledAsCall 2)).anonymous =
            (Formula.node .oneOf 3 (spelledAsCall 4)).anonymous) ∧
        ((Value.predicate p).literal = (Value.predicate q).literal →
          ∀ (host : Host Counters) (access : Access) (s : Stage Counters),
            p.eval host access s = q.eval host access s) :=
  ⟨rfl, rfl, text_identifies_tree rfl rfl⟩

end ParamGate
