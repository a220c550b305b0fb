import Mathlib.Data.List.Induction
import Mathlib.Data.List.Perm.Basic
import Mathlib.Data.Nat.Find
import ParamGate.Proofs.Supplied

/-!
What a flat sequence denotes, told by positions. A name is due at every even position and its value
is the item after it. A name that comes again keeps its first place among the names and has the
value after its last one.
-/

namespace ParamGate

namespace Arguments

def NameAt (vs : List Value) (position : Nat) (v : Value) : Prop :=
  position % 2 = 0 ∧ vs[position]? = some v

structure FirstAt (vs : List Value) (position : Nat) (name : Value) : Prop where
  here : NameAt vs position name
  first : ∀ p < position, ¬ NameAt vs p name

structure LastAt (vs : List Value) (position : Nat) (name : Value) : Prop where
  here : NameAt vs position name
  last : ∀ p, position < p → ¬ NameAt vs p name

/-- The mapping that a sequence denotes: the names that are due in it, in the order in which they
come first, each with the item after its last place. -/
structure Denotes (vs : List Value) (es : Entries) : Prop where
  named : ∀ name, name ∈ es.names ↔ ∃ p, NameAt vs p name
  ordered : es.names.Pairwise fun m n => ∃ p q, p < q ∧ FirstAt vs p m ∧ FirstAt vs q n
  valued : ∀ e ∈ es, ∃ p, LastAt vs p e.1 ∧ vs[p + 1]? = some e.2

/-- What becomes of a sequence: it has an item too many, the first item where a name is due that is
no text is refused, or it denotes a mapping. -/
inductive Decodes (vs : List Value) : Except ArgumentFault Entries → Prop
  | odd (hodd : vs.length % 2 = 1) : Decodes vs (.error .odd)
  | misnamed {position : Nat} {v : Value} (heven : vs.length % 2 = 0)
    (hv : NameAt vs position v) (htext : ∀ s, v ≠ .text s)
    (hbefore : ∀ p < position, ∀ u, NameAt vs p u → ∃ s, u = .text s) :
    Decodes vs (.error (.nameNotText v.typeName position))
  | denoted {es : Entries} (heven : vs.length % 2 = 0)
    (htexts : ∀ p u, NameAt vs p u → ∃ s, u = .text s) (hes : Denotes vs es) :
    Decodes vs (.ok es)

section Positions

variable {vs : List Value} {p q : Nat} {u v : Value}

theorem NameAt.lt_length (h : NameAt vs p u) : p < vs.length :=
  (List.getElem?_eq_some_iff.mp h.2).1

theorem NameAt.item_eq (hu : NameAt vs p u) (hv : NameAt vs p v) : u = v :=
  Option.some.inj (hu.2.symm.trans hv.2)

theorem NameAt.exists_firstAt (h : NameAt vs p u) : ∃ q, FirstAt vs q u := by
  classical
  have hex : ∃ q, NameAt vs q u := ⟨p, h⟩
  exact ⟨Nat.find hex, Nat.find_spec hex, fun r hr => Nat.find_min hex hr⟩

theorem FirstAt.le (hp : FirstAt vs p u) (hq : NameAt vs q u) : p ≤ q := by
  by_contra hlt
  exact hp.first q (Nat.lt_of_not_le hlt) hq

theorem LastAt.le (hp : LastAt vs p u) (hq : NameAt vs q u) : q ≤ p := by
  by_contra hlt
  exact hp.last q (Nat.lt_of_not_le hlt) hq

theorem FirstAt.unique (hp : FirstAt vs p u) (hq : FirstAt vs q u) : p = q :=
  Nat.le_antisymm (hp.le hq.here) (hq.le hp.here)

theorem LastAt.unique (hp : LastAt vs p u) (hq : LastAt vs q u) : p = q :=
  Nat.le_antisymm (hq.le hp.here) (hp.le hq.here)

theorem nameAt_nil : ¬ NameAt [] p u := fun h => by
  have := h.2
  simp at this

theorem nameAt_cons_cons {a b : Value} :
    NameAt (a :: b :: vs) p u ↔ p = 0 ∧ a = u ∨ ∃ q, p = q + 2 ∧ NameAt vs q u := by
  match p with
  | 0 => simp [NameAt]
  | 1 => simp [NameAt]
  | q + 2 => simp [NameAt, Nat.add_mod_right]

theorem Denotes.item_eq {es : Entries} (h : Denotes vs es) {e : Value × Value} (he : e ∈ es)
    (hp : LastAt vs p e.1) : vs[p + 1]? = some e.2 := by
  obtain ⟨q, hq, hv⟩ := h.valued e he
  rw [hp.unique hq]
  exact hv

theorem Denotes.unique {es fs : Entries} (he : Denotes vs es) (hf : Denotes vs fs) : es = fs := by
  have hsub {es fs : Entries} (he : Denotes vs es) (hf : Denotes vs fs) : ∀ e ∈ es, e ∈ fs := by
    rintro ⟨name, v⟩ hm
    obtain ⟨p, hp, hv⟩ := he.valued _ hm
    obtain ⟨⟨_, w⟩, hw, rfl⟩ := List.mem_map.mp ((hf.named name).mpr ⟨p, hp.here⟩)
    have hwv : some w = some v := (hf.item_eq hw hp).symm.trans hv
    cases hwv
    exact hw
  have hnodup {es : Entries} (h : Denotes vs es) : es.Nodup := by
    refine (List.pairwise_map.mp h.ordered).imp ?_
    rintro e _ ⟨p, q, hlt, hp, hq⟩ rfl
    exact Nat.ne_of_lt hlt (hp.unique hq)
  have hperm : es.Perm fs :=
    (List.perm_ext_iff_of_nodup (hnodup he) (hnodup hf)).mpr fun e => ⟨hsub he hf e, hsub hf he e⟩
  refine hperm.eq_of_pairwise ?_ (List.pairwise_map.mp he.ordered) (List.pairwise_map.mp hf.ordered)
  rintro e f _ _ ⟨p, q, hlt, hp, hq⟩ ⟨q', p', hlt', hq', hp'⟩
  rw [hp.unique hp', hq.unique hq'] at hlt
  exact absurd hlt (Nat.lt_asymm hlt')

end Positions

section Snoc

variable {vs : List Value} (heven : vs.length % 2 = 0) {p : Nat} {u n v : Value}

include heven

theorem nameAt_snoc :
    NameAt (vs ++ [n, v]) p u ↔ NameAt vs p u ∨ p = vs.length ∧ n = u := by
  unfold NameAt
  rcases Nat.lt_or_ge p vs.length with hlt | hge
  · have hne : p ≠ vs.length := Nat.ne_of_lt hlt
    simp [List.getElem?_append_left hlt, hne]
  · obtain ⟨k, rfl⟩ := Nat.exists_eq_add_of_le hge
    have hnone : vs[vs.length + k]? = none := List.getElem?_eq_none hge
    rw [List.getElem?_append_right hge, hnone, Nat.add_sub_cancel_left]
    match k with
    | 0 => simp [heven]
    | 1 => simp [Nat.add_mod, heven]
    | k + 2 => simp

theorem FirstAt.snoc (h : FirstAt vs p u) : FirstAt (vs ++ [n, v]) p u where
  here := (nameAt_snoc heven).mpr (.inl h.here)
  first := by
    intro q hq hname
    rcases (nameAt_snoc heven).mp hname with hvs | ⟨rfl, -⟩
    · exact h.first q hq hvs
    · exact Nat.lt_asymm hq h.here.lt_length

theorem LastAt.snoc (h : LastAt vs p u) (hu : n ≠ u) : LastAt (vs ++ [n, v]) p u where
  here := (nameAt_snoc heven).mpr (.inl h.here)
  last := by
    intro q hq hname
    rcases (nameAt_snoc heven).mp hname with hvs | ⟨-, rfl⟩
    · exact h.last q hq hvs
    · exact hu rfl

theorem firstAt_snoc_new (hnew : ∀ q, ¬ NameAt vs q n) :
    FirstAt (vs ++ [n, v]) vs.length n where
  here := (nameAt_snoc heven).mpr (.inr ⟨rfl, rfl⟩)
  first := by
    intro q hq hname
    rcases (nameAt_snoc heven).mp hname with hvs | ⟨rfl, -⟩
    · exact hnew q hvs
    · exact Nat.lt_irrefl _ hq

theorem lastAt_snoc_new : LastAt (vs ++ [n, v]) vs.length n where
  here := (nameAt_snoc heven).mpr (.inr ⟨rfl, rfl⟩)
  last := by
    intro q hq hname
    rcases (nameAt_snoc heven).mp hname with hvs | ⟨rfl, -⟩
    · exact Nat.lt_asymm hq hvs.lt_length
    · exact Nat.lt_irrefl _ hq

theorem exists_nameAt_snoc :
    (∃ q, NameAt (vs ++ [n, v]) q u) ↔ (∃ q, NameAt vs q u) ∨ u = n := by
  constructor
  · rintro ⟨q, hq⟩
    rcases (nameAt_snoc heven).mp hq with hvs | ⟨-, rfl⟩
    · exact .inl ⟨q, hvs⟩
    · exact .inr rfl
  · rintro (⟨q, hq⟩ | rfl)
    · exact ⟨q, (nameAt_snoc heven).mpr (.inl hq)⟩
    · exact ⟨vs.length, (nameAt_snoc heven).mpr (.inr ⟨rfl, rfl⟩)⟩

/-- One more name with its value: a name that is there already takes the value where it stands, and
a new one comes last. -/
theorem Denotes.snoc {es : Entries} (h : Denotes vs es) (hd : es.Distinct) (s : String) :
    Denotes (vs ++ [.text s, v]) (Entries.put es (.text s) v) where
  named := by
    intro name
    rw [exists_nameAt_snoc heven, ← h.named, Entries.names_put]
    split
    · rename_i hs
      constructor
      · exact .inl
      · rintro (hn | rfl)
        · exact hn
        · exact Entries.text_mem_names.mpr hs
    · rw [List.mem_append, List.mem_singleton]
  ordered := by
    have hbefore : es.names.Pairwise fun m n =>
        ∃ p q, p < q ∧ FirstAt (vs ++ [Value.text s, v]) p m ∧
          FirstAt (vs ++ [Value.text s, v]) q n := by
      refine h.ordered.imp ?_
      rintro m n ⟨p, q, hlt, hp, hq⟩
      exact ⟨p, q, hlt, hp.snoc heven, hq.snoc heven⟩
    rw [Entries.names_put]
    split
    · exact hbefore
    · rename_i hs
      refine List.pairwise_append.mpr ⟨hbefore, List.pairwise_singleton _ _, ?_⟩
      intro m hm n hn
      obtain rfl := List.mem_singleton.mp hn
      obtain ⟨q, hq⟩ := (h.named m).mp hm
      obtain ⟨p, hp⟩ := hq.exists_firstAt
      have hnew : ∀ r, ¬ NameAt vs r (.text s) := fun r hr =>
        hs (Entries.text_mem_names.mp ((h.named _).mpr ⟨r, hr⟩))
      exact ⟨p, vs.length, hp.here.lt_length, hp.snoc heven, firstAt_snoc_new heven hnew⟩
  valued := by
    intro e he
    rcases Entries.mem_put hd he with ⟨hk, hv⟩ | ⟨he, hk⟩
    · refine ⟨vs.length, ?_, ?_⟩
      · rw [Entries.key_eq_text.mp hk]
        exact lastAt_snoc_new heven
      · simp [hv]
    · obtain ⟨p, hp, hv⟩ := h.valued e he
      refine ⟨p, hp.snoc heven ?_, ?_⟩
      · rintro hn
        rw [← hn] at hk
        exact hk rfl
      · rw [List.getElem?_append_left (List.getElem?_eq_some_iff.mp hv).1, hv]

end Snoc

theorem flatten_append (es fs : Entries) : flatten (es ++ fs) = flatten es ++ flatten fs := by
  induction es with
  | nil => rfl
  | cons e es ih =>
    rcases e with ⟨k, v⟩
    rw [List.cons_append, flatten, flatten, ih, List.cons_append, List.cons_append]

theorem length_flatten_even (es : Entries) : (flatten es).length % 2 = 0 := by
  rw [length_flatten, Nat.mul_mod_right]

theorem denotes_flatten (pairs : List (String × Value)) :
    Denotes (flatten (named pairs)) (Entries.ofPairs (named pairs)) := by
  induction pairs using List.reverseRecOn with
  | nil =>
    refine ⟨fun name => ?_, List.Pairwise.nil, by simp [named, Entries.ofPairs, Entries.putAll]⟩
    have hnone : ¬ ∃ p, NameAt [] p name := fun ⟨p, hp⟩ => nameAt_nil hp
    simpa [named, Entries.ofPairs, Entries.putAll, Entries.names, flatten] using hnone
  | append_singleton pairs pair ih =>
    rcases pair with ⟨s, v⟩
    have hnamed : named (pairs ++ [(s, v)]) = named pairs ++ [(.text s, v)] := List.map_append
    have hput : Entries.ofPairs (named pairs ++ [(.text s, v)]) =
        Entries.put (Entries.ofPairs (named pairs)) (.text s) v :=
      Entries.putAll_append [] (named pairs) [(.text s, v)]
    rw [hnamed, hput, flatten_append]
    exact ih.snoc (length_flatten_even _) (Entries.distinct_ofPairs _) s

theorem text_of_nameAt_flatten {pairs : List (String × Value)} {p : Nat} {u : Value}
    (h : NameAt (flatten (named pairs)) p u) : ∃ s, u = .text s := by
  induction pairs generalizing p with
  | nil => exact absurd h nameAt_nil
  | cons pair pairs ih =>
    rcases nameAt_cons_cons.mp h with ⟨-, rfl⟩ | ⟨q, -, hq⟩
    · exact ⟨pair.1, rfl⟩
    · exact ih hq

/-- What keeps a sequence of even length from being read is the first item that is due as a name and
is no text. -/
theorem misnamed_of_pairUp {position : Nat} {acc : Entries} {vs : List Value} {f : ArgumentFault}
    (heven : vs.length % 2 = 0) (h : pairUp position acc vs = .error f) :
    ∃ p v, f = .nameNotText v.typeName (position + p) ∧ NameAt vs p v ∧ (∀ s, v ≠ .text s) ∧
      ∀ q < p, ∀ u, NameAt vs q u → ∃ s, u = .text s := by
  fun_induction pairUp position acc vs with
  | case1 => cases h
  | case2 => simp at heven
  | case3 position acc name v rest ih =>
    have hrest : rest.length % 2 = 0 := by
      rw [List.length_cons, List.length_cons] at heven
      omega
    obtain ⟨p, u, rfl, hu, htext, hbefore⟩ := ih hrest h
    refine ⟨p + 2, u, by rw [Nat.add_right_comm, Nat.add_assoc], ?_, htext, ?_⟩
    · exact nameAt_cons_cons.mpr (.inr ⟨p, rfl, hu⟩)
    · intro q hq w hw
      rcases nameAt_cons_cons.mp hw with ⟨-, rfl⟩ | ⟨r, rfl, hr⟩
      · exact ⟨name, rfl⟩
      · exact hbefore r (Nat.lt_of_add_lt_add_right hq) w hr
  | case4 position acc other v rest hother =>
    cases h
    refine ⟨0, other, rfl, nameAt_cons_cons.mpr (.inl ⟨rfl, rfl⟩), hother, ?_⟩
    intro q hq
    exact absurd hq (Nat.not_lt_zero q)

theorem ofItems_decodes (vs : List Value) : Decodes vs (ofItems vs) := by
  unfold ofItems
  split
  · rename_i hodd
    exact .odd hodd
  · rename_i hodd
    have heven : vs.length % 2 = 0 := by omega
    cases hp : pairUp 0 [] vs with
    | error f =>
      obtain ⟨p, v, rfl, hv, htext, hbefore⟩ := misnamed_of_pairUp heven hp
      rw [Nat.zero_add]
      exact .misnamed heven hv htext hbefore
    | ok es =>
      obtain ⟨pairs, rfl, rfl⟩ := pairUp_eq_ok.mp hp
      exact .denoted heven (fun _ _ => text_of_nameAt_flatten) (denotes_flatten pairs)

theorem Decodes.texts {vs : List Value} {es : Entries} (h : Decodes vs (.ok es)) :
    ∀ e ∈ es, ∃ s, e.1 = .text s := by
  cases h with
  | denoted _ htexts hes =>
    intro e he
    obtain ⟨p, hp⟩ := (hes.named e.1).mp (List.mem_map_of_mem he)
    exact htexts p e.1 hp

theorem Decodes.unique {vs : List Value} {r r' : Except ArgumentFault Entries}
    (h : Decodes vs r) (h' : Decodes vs r') : r = r' := by
  cases h with
  | odd hodd =>
    cases h' with
    | odd => rfl
    | misnamed heven => omega
    | denoted heven => omega
  | @misnamed p v heven hv htext hbefore =>
    cases h' with
    | odd hodd => omega
    | @misnamed q u _ hu htext' hbefore' =>
      -- Neither position is before the other, as each is the first of its kind.
      have hpq : ¬ p < q := fun hlt => (hbefore' p hlt v hv).elim htext
      have hqp : ¬ q < p := fun hlt => (hbefore q hlt u hu).elim htext'
      obtain rfl : p = q := by omega
      rw [hv.item_eq hu]
    | denoted _ htexts _ => exact ((htexts p v hv).elim htext).elim
  | denoted heven htexts hes =>
    cases h' with
    | odd hodd => omega
    | misnamed _ hu htext' _ => exact ((htexts _ _ hu).elim htext').elim
    | denoted _ _ hes' => rw [hes.unique hes']

theorem ofItems_eq_iff {vs : List Value} {r : Except ArgumentFault Entries} :
    ofItems vs = r ↔ Decodes vs r := by
  constructor
  · rintro rfl
    exact ofItems_decodes vs
  · exact (ofItems_decodes vs).unique

theorem exists_named {es : Entries} (h : ∀ e ∈ es, ∃ s, e.1 = .text s) :
    ∃ pairs, es = named pairs := by
  induction es with
  | nil => exact ⟨[], rfl⟩
  | cons e es ih =>
    obtain ⟨s, hs⟩ := h e List.mem_cons_self
    obtain ⟨pairs, rfl⟩ := ih fun e he => h e (List.mem_cons_of_mem _ he)
    have he : e = (.text s, e.2) := by rw [← hs]
    exact ⟨(s, e.2) :: pairs, congrArg (· :: named pairs) he⟩

theorem ofItems_flatten {es : Entries} (hd : es.Distinct) (h : ∀ e ∈ es, ∃ s, e.1 = .text s) :
    ofItems (flatten es) = .ok es := by
  obtain ⟨pairs, rfl⟩ := exists_named h
  exact ofItems_eq_ok.mpr ⟨pairs, rfl, (Entries.ofPairs_of_distinct hd).symm⟩

end Arguments

/-- What is made of a sequence is told by the positions of its items: an item too many is refused,
else the first item that is due as a name and is no text, else it denotes the mapping of its names
to the values after their last places. Only a sequence with more items than can be counted is
refused before anything else. A mapping named by texts that is spelled out as a sequence is read as
itself again, and so is what any sequence is read as. -/
theorem sequence_is_decoded {args : Value} {vs : List Value} (h : args.items? = some vs) :
    (Arguments.isCountable args = true →
        ∀ r, Arguments.params args = r ↔ Arguments.Decodes vs r) ∧
      (Arguments.isCountable args = false ↔ Arguments.params args = .error .overlong) ∧
      (∀ es : Entries, es.Distinct → (∀ e ∈ es, ∃ s, e.1 = .text s) →
        ∀ flat : Value, flat.items? = some (Arguments.flatten es) →
          Arguments.params flat = .ok es) ∧
      ∀ es, Arguments.params args = .ok es →
        ∀ flat : Value, flat.items? = some (Arguments.flatten es) →
          Arguments.params flat = .ok es := by
  have hcounted (hc : Arguments.isCountable args = true) (r : Except ArgumentFault Entries) :
      Arguments.params args = r ↔ Arguments.Decodes vs r := by
    rw [Arguments.params_of_items h hc]
    exact Arguments.ofItems_eq_iff
  have hspelled : ∀ es : Entries, es.Distinct → (∀ e ∈ es, ∃ s, e.1 = .text s) →
      ∀ flat : Value, flat.items? = some (Arguments.flatten es) →
        Arguments.params flat = .ok es := by
    intro es hd htexts flat hflat
    obtain ⟨pairs, rfl⟩ := Arguments.exists_named htexts
    rw [Arguments.params_of_items hflat (Arguments.isCountable_of_named hflat)]
    exact Arguments.ofItems_flatten hd htexts
  refine ⟨hcounted, ⟨Arguments.params_of_uncountable, fun hlong => ?_⟩, hspelled, fun es hes => ?_⟩
  · by_contra hc
    rw [Bool.not_eq_false] at hc
    have hdecodes := (hcounted hc _).mp hlong
    cases hdecodes
  · cases hc : Arguments.isCountable args with
    | true =>
      have htexts := ((hcounted hc _).mp hes).texts
      exact hspelled es (Arguments.params_eq_ok.mp hes).distinct htexts
    | false =>
      rw [Arguments.params_of_uncountable hc] at hes
      cases hes

/-- `b` comes twice: it keeps the first place and has the last value. -/
theorem sequence_is_decoded_repeated_name :
    Value.items? (.tuple [.text "b", .int 1, .text "a", .int 2, .text "b", .null]) =
        some [.text "b", .int 1, .text "a", .int 2, .text "b", .null] ∧
      Arguments.Decodes [.text "b", .int 1, .text "a", .int 2, .text "b", .null]
        (.ok [(.text "b", .null), (.text "a", .int 2)]) := by
  have hitems : Value.items? (.tuple [.text "b", .int 1, .text "a", .int 2, .text "b", .null]) =
      some [.text "b", .int 1, .text "a", .int 2, .text "b", .null] := rfl
  exact ⟨hitems, ((sequence_is_decoded hitems).1 rfl _).mp rfl⟩

/-- A range with an odd number of items is refused for its length where that cannot be counted. -/
theorem overlong_range_is_not_told_odd :
    ∃ vs, Value.items? (.range 0 9223372036854775809 1) = some vs ∧ vs.length % 2 = 1 ∧
      Arguments.params (.range 0 9223372036854775809 1) = .error .overlong ∧
      (Failure.arguments (.text "f") .overlong).report.className = "OverflowError" := by
  refine ⟨_, rfl, ?_, Arguments.params_of_uncountable rfl, rfl⟩
  rw [Value.rangeItems, List.length_map, List.length_range]
  rfl

end ParamGate
