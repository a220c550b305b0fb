import Mathlib.Data.List.Forall2
import ParamGate.Proofs.Entries
import ParamGate.Rule.Spec

/-!
The ways to write a rule and a spec. A rule is written as a rule, as a truth value or as a mapping
that names nothing but fields and gives each a value it can take; a spec is a mapping of names to
such rules. Reading succeeds on exactly these, with the rules that are written.
-/

namespace ParamGate

theorem exists_of_forall₂ {α β : Type} {R : α → β → Prop} {as : List α} {bs : List β}
    (h : List.Forall₂ R as bs) {a : α} (ha : a ∈ as) : ∃ b ∈ bs, R a b := by
  induction h with
  | nil => cases ha
  | @cons a' b _ _ hab _ ih =>
    rcases List.mem_cons.mp ha with rfl | ha
    · exact ⟨b, List.mem_cons_self, hab⟩
    · obtain ⟨b', hb', hab'⟩ := ih ha
      exact ⟨b', List.mem_cons_of_mem _ hb', hab'⟩

namespace Collected

variable {α β : Type}

theorem both_eq_ok {f : Collected (α → β)} {a : Collected α} {b : β} :
    both f a = .ok b ↔ ∃ g x, f = .ok g ∧ a = .ok x ∧ g x = b := by
  cases f <;> cases a <;> simp [both]

theorem map_eq_ok {f : α → β} {a : Collected α} {b : β} :
    a.map f = .ok b ↔ ∃ x, a = .ok x ∧ f x = b := by
  cases a <;> simp [Except.map]

theorem guard_eq_ok {fs : List Fault} {u : Unit} : guard fs = .ok u ↔ fs = [] := by
  cases fs <;> simp [guard]

end Collected

theorem Value.entries?_eq_some {v : Value} {es : Entries} :
    v.entries? = some es ↔ ∃ kind, v = .map kind es := by
  cases v <;> simp [Value.entries?]

namespace Callbacks

def Spelled (es : Entries) (pairs : List (String × Callable)) : Prop :=
  List.Forall₂ (fun e p => e.1.asText = .ok p.1 ∧ e.2.callable? = some p.2) es pairs

/-- What a mapping of labels to functions lists. Of entries with the same label the first has the
place and the last the function. -/
def Listed (v : Value) (callbacks : List (String × Callable)) : Prop :=
  ∃ kind es pairs, v = .map kind es ∧ Spelled es pairs ∧
    callbacks = pairs.foldl (fun cs p => put cs p.1 p.2) []

theorem readKey_eq_ok {k : Value} {s : String} : readKey k = .ok s ↔ k.asText = .ok s := by
  cases h : k.asText <;> simp [readKey, h]

theorem readValue_eq_ok {k v : Value} {c : Callable} :
    readValue k v = .ok c ↔ v.callable? = some c := by
  cases h : v.callable? <;> simp [readValue, Value.asCallable, h]

theorem readEntries_eq_ok {es : Entries} {pairs : List (String × Callable)} :
    readEntries es = .ok pairs ↔ Spelled es pairs := by
  induction es generalizing pairs with
  | nil =>
    rw [Spelled, List.forall₂_nil_left_iff, readEntries, Except.ok.injEq]
    exact eq_comm
  | cons e es ih =>
    rcases e with ⟨k, v⟩
    simp only [Spelled] at ih ⊢
    simp only [readEntries, Collected.both_eq_ok, readKey_eq_ok, readValue_eq_ok, ih,
      Except.ok.injEq, List.forall₂_cons_left_iff]
    constructor
    · rintro ⟨_, rest, ⟨_, c, ⟨_, s, rfl, hs, rfl⟩, hc, rfl⟩, hrest, rfl⟩
      exact ⟨(s, c), rest, ⟨hs, hc⟩, hrest, rfl⟩
    · rintro ⟨⟨s, c⟩, rest, ⟨hs, hc⟩, hrest, rfl⟩
      exact ⟨_, rest, ⟨_, c, ⟨_, s, rfl, hs, rfl⟩, hc, rfl⟩, hrest, rfl⟩

theorem read_eq_ok {v : Value} {callbacks : List (String × Callable)} :
    read v = .ok callbacks ↔ Listed v callbacks := by
  cases he : v.entries? with
  | none =>
    constructor
    · intro h
      rw [read, he] at h
      cases h
    · rintro ⟨kind, es, _, rfl, -⟩
      cases he
  | some es =>
    obtain ⟨kind, rfl⟩ := Value.entries?_eq_some.mp he
    constructor
    · intro h
      rw [read, he, Collected.map_eq_ok] at h
      obtain ⟨pairs, hp, rfl⟩ := h
      exact ⟨kind, es, pairs, rfl, readEntries_eq_ok.mp hp, rfl⟩
    · rintro ⟨_, _, pairs, hv, hp, rfl⟩
      cases hv
      rw [read, he]
      exact congrArg (Except.map _) (readEntries_eq_ok.mpr hp)

end Callbacks

namespace Rule

/-- What a rule has for a field: what the value given for it spells, or else the default. -/
def Takes {α : Type} (es : Entries) (f : Field) (spells : Value → α → Prop) (default a : α) :
    Prop :=
  match given? es f with
  | none => a = default
  | some v => spells v a

/-- The rule that a mapping of fields spells: every name is that of a field, and every value given
is one that the field can take. -/
structure HasFields (r : Rule) (es : Entries) : Prop where
  named : ∀ p ∈ es, ∃ f : Field, p.1 = .text f.name
  type : Takes es .type (fun v t => v.asTag = .ok t) none r.type
  optional : Takes es .optional (fun v b => v.asTruth = .ok b) false r.optional
  preset : r.preset = given? es .default
  isa : Takes es .isa (fun v c => v.asClass = .ok c) none r.isa
  regex : Takes es .regex (fun v p => v.asPattern = .ok p) none r.regex
  callbacks : Takes es .callbacks Callbacks.Listed [] r.callbacks
  given : r.given = givenFields es

inductive WrittenAs : Rule → Value → Prop
  | rule (r : Rule) : WrittenAs r (.rule r)
  | truth (b : Bool) : WrittenAs (mandatory b) (.bool b)
  | fields {r : Rule} (kind : MapKind) {es : Entries} (h : r.HasFields es) :
    WrittenAs r (.map kind es)

theorem readField_eq_ok {α : Type} {es : Entries} {f : Field} {default a : α}
    {read : Value → Except Complaint α} :
    readField es f default read = .ok a ↔ Takes es f (fun v b => read v = .ok b) default a := by
  unfold readField Takes
  cases given? es f with
  | none => simp [eq_comm]
  | some v => cases h : read v <;> simp [h]

theorem readCallbacks_eq_ok {es : Entries} {callbacks : List (String × Callable)} :
    readCallbacks es = .ok callbacks ↔ Takes es .callbacks Callbacks.Listed [] callbacks := by
  unfold readCallbacks Takes
  cases given? es .callbacks with
  | none => simp [eq_comm]
  | some v => exact Callbacks.read_eq_ok

theorem strangerFault?_eq_none {k : Value} :
    strangerFault? k = none ↔ ∃ f : Field, k = .text f.name := by
  constructor
  · intro h
    cases k with
    | text s =>
      cases hf : Field.ofName? s with
      | none => simp [strangerFault?, hf] at h
      | some f =>
        have hs : f.name = s := by simpa using List.find?_some hf
        exact ⟨f, by rw [hs]⟩
    | _ => simp [strangerFault?] at h
  · rintro ⟨f, rfl⟩
    simp [strangerFault?, Field.ofName?_name]

theorem strangerFaults_eq_nil {es : Entries} :
    strangerFaults es = [] ↔ ∀ p ∈ es, ∃ f : Field, p.1 = .text f.name := by
  rw [strangerFaults, List.filterMap_eq_nil_iff]
  simp only [strangerFault?_eq_none]

theorem collect_eq_ok {es : Entries} {r : Rule} : collect es = .ok r ↔ r.HasFields es := by
  simp only [collect, Collected.both_eq_ok, readField_eq_ok, readCallbacks_eq_ok,
    Collected.guard_eq_ok, strangerFaults_eq_nil, Except.ok.injEq]
  constructor
  · rintro ⟨_, _, ⟨_, cbs, ⟨_, p, ⟨_, c, ⟨_, b, ⟨_, t, rfl, ht, rfl⟩, hb, rfl⟩, hc, rfl⟩, hp, rfl⟩,
      hcbs, rfl⟩, hn, rfl⟩
    exact ⟨hn, ht, hb, rfl, hc, hp, hcbs, rfl⟩
  · rintro ⟨hn, ht, hb, hd, hc, hp, hcbs, hg⟩
    refine ⟨_, (), ⟨_, _, ⟨_, _, ⟨_, _, ⟨_, _, ⟨_, _, rfl, ht, rfl⟩, hb, rfl⟩, hc, rfl⟩, hp, rfl⟩,
      hcbs, rfl⟩, hn, ?_⟩
    rw [← hd, ← hg]

theorem fatalFlaw?_eq_none {r : Rule} {es : Entries} (h : r.HasFields es) :
    fatalFlaw? es = none := by
  have hp := h.regex
  unfold Takes at hp
  unfold fatalFlaw?
  cases hv : given? es .regex with
  | none => rfl
  | some v =>
    simp only [hv] at hp
    rw [Option.bind_some, hp]

theorem ofEntries_eq_ok {es : Entries} {r : Rule} : ofEntries es = .ok r ↔ r.HasFields es := by
  constructor
  · intro h
    unfold ofEntries at h
    split at h
    · cases h
    · split at h
      · rename_i hc
        cases h
        exact collect_eq_ok.mp hc
      · cases h
  · intro h
    rw [ofEntries, fatalFlaw?_eq_none h, collect_eq_ok.mpr h]

theorem ofValue_eq_ok {name v : Value} {r : Rule} : ofValue name v = .ok r ↔ r.WrittenAs v := by
  constructor
  · intro h
    cases v with
    | rule r' =>
      cases h
      exact .rule r
    | bool b =>
      cases h
      exact .truth b
    | map kind es =>
      rw [ofValue] at h
      split at h
      · rename_i hr
        cases h
        exact .fields kind (ofEntries_eq_ok.mp hr)
      · cases h
    | _ => cases h
  · intro h
    cases h with
    | rule => rfl
    | truth b => rfl
    | fields kind h => rw [ofValue, ofEntries_eq_ok.mpr h]

end Rule

namespace Spec

def keys (s : Spec) : List Key := s.map fun p => p.1.key

/-- The spec that a value spells: a mapping each of whose values is a rule. -/
def WrittenAs (s : Spec) (v : Value) : Prop :=
  ∃ kind es, v = .map kind es ∧
    List.Forall₂ (fun e p => p.1 = e.1 ∧ p.2.WrittenAs e.2) (Entries.ofPairs es) s

theorem ofEntries_eq_ok {es : Entries} {s : Spec} :
    ofEntries es = .ok s ↔ List.Forall₂ (fun e p => p.1 = e.1 ∧ p.2.WrittenAs e.2) es s := by
  induction es generalizing s with
  | nil =>
    rw [List.forall₂_nil_left_iff, ofEntries, Except.ok.injEq]
    exact eq_comm
  | cons e es ih =>
    rcases e with ⟨name, v⟩
    rw [List.forall₂_cons_left_iff]
    constructor
    · intro h
      rw [ofEntries] at h
      split at h
      · cases h
      · rename_i r hr
        split at h
        · cases h
        · rename_i rest hrest
          cases h
          exact ⟨(name, r), rest, ⟨rfl, Rule.ofValue_eq_ok.mp hr⟩, ih.mp hrest, rfl⟩
    · rintro ⟨⟨_, r⟩, rest, ⟨rfl, hr⟩, hrest, rfl⟩
      rw [ofEntries, Rule.ofValue_eq_ok.mpr hr, ih.mpr hrest]

theorem ofValue_eq_ok {v : Value} {s : Spec} : ofValue v = .ok s ↔ s.WrittenAs v := by
  cases he : v.entries? with
  | none =>
    constructor
    · intro h
      rw [ofValue, he] at h
      cases h
    · rintro ⟨kind, es, rfl, -⟩
      cases he
  | some es =>
    obtain ⟨kind, rfl⟩ := Value.entries?_eq_some.mp he
    rw [ofValue, he]
    constructor
    · intro h
      exact ⟨kind, es, rfl, ofEntries_eq_ok.mp h⟩
    · rintro ⟨_, _, hv, h⟩
      cases hv
      exact ofEntries_eq_ok.mpr h

theorem names_of_ofEntries {es : Entries} {s : Spec} (hr : ofEntries es = .ok s) :
    s.names = es.names := by
  have hsame := ofEntries_eq_ok.mp hr
  clear hr
  induction hsame with
  | nil => rfl
  | cons hp _ ih => exact congrArg₂ List.cons hp.1 ih

theorem WrittenAs.names_eq {s : Spec} {v : Value} (h : s.WrittenAs v) :
    ∃ kind es, v = .map kind es ∧ s.names = Entries.names (Entries.ofPairs es) := by
  obtain ⟨kind, es, hv, hs⟩ := h
  exact ⟨kind, es, hv, names_of_ofEntries (ofEntries_eq_ok.mpr hs)⟩

theorem WrittenAs.keys_eq {s : Spec} {v : Value} (h : s.WrittenAs v) :
    ∃ kind es, v = .map kind es ∧ s.keys = (Entries.ofPairs es).keys := by
  obtain ⟨kind, es, hv, hnames⟩ := h.names_eq
  have hkeys := congrArg (List.map Value.key) hnames
  rw [names, Entries.names, List.map_map, List.map_map] at hkeys
  exact ⟨kind, es, hv, hkeys⟩

theorem WrittenAs.nodup_keys {s : Spec} {v : Value} (h : s.WrittenAs v) : s.keys.Nodup := by
  obtain ⟨kind, es, -, hk⟩ := h.keys_eq
  rw [hk]
  exact Entries.distinct_ofPairs es

theorem lists_iff {s : Spec} {a : Value} : s.lists a = true ↔ ∃ q ∈ s, q.1.key = a.key := by
  simp [lists]

end Spec

end ParamGate
