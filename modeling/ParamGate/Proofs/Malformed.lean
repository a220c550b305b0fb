import Mathlib.Data.List.Nodup
import ParamGate.Proofs.Entries
import ParamGate.Proofs.Precedence

/-!
What is reported of a mapping of fields that is no rule. Everything that is wrong with it is
reported, each thing once: field by field in declared order, with the entries of the callbacks one
by one, and then the names that are those of no field, as they come.
-/

namespace ParamGate

/-- What keeps a reading from succeeding. -/
def refusal {ε α : Type} : Except ε α → Option ε
  | .ok _ => none
  | .error e => some e

theorem refusal_eq_none {ε α : Type} {x : Except ε α} : refusal x = none ↔ ∃ a, x = .ok a := by
  cases x <;> simp [refusal]

namespace Collected

variable {α β : Type}

/-- What fails does so with a fault. -/
def Founded (x : Collected α) : Prop := x ≠ .error []

theorem Founded.both {f : Collected (α → β)} {a : Collected α} (hf : f.Founded) (ha : a.Founded) :
    (both f a).Founded := by
  unfold Founded at hf ha ⊢
  cases f <;> cases a <;> simp_all [Collected.both]

theorem founded_guard (fs : List Fault) : (guard fs).Founded := by
  cases fs <;> simp [Founded, guard]

theorem founded_ok (a : α) : Founded (.ok a) := by simp [Founded]

theorem Founded.map {x : Collected α} (h : x.Founded) (f : α → β) : Founded (x.map f) := by
  unfold Founded at h ⊢
  cases x <;> simp_all [Except.map]

theorem faults_map (x : Collected α) (f : α → β) : faults (x.map f) = faults x := by
  cases x <;> rfl

theorem Founded.eq_error_iff {x : Collected α} (h : x.Founded) {fs : List Fault} :
    x = .error fs ↔ fs = x.faults ∧ x.faults ≠ [] := by
  unfold Founded at h
  cases x with
  | ok a => simp [faults]
  | error d =>
    have hd : d ≠ [] := fun hd => h (by rw [hd])
    simp [faults, hd, eq_comm]

theorem Founded.exists_ok_iff {x : Collected α} (h : x.Founded) :
    (∃ a, x = .ok a) ↔ x.faults = [] := by
  unfold Founded at h
  cases x with
  | ok a => simp [faults]
  | error d =>
    have hd : d ≠ [] := fun hd => h (by rw [hd])
    simp [faults, hd]

end Collected

namespace Callbacks

def labelFault? (k : Value) : Option Fault :=
  (refusal k.asText).map fun c => ⟨[.text "callbacks", k.pathItem, .text "[key]"], c⟩

def functionFault? (k v : Value) : Option Fault :=
  (refusal v.asCallable).map fun c => ⟨[.text "callbacks", k.pathItem], c⟩

/-- What is wrong with callbacks, entry by entry: first the label, then what it labels. -/
def faults (es : Entries) : List Fault :=
  es.flatMap fun e => (labelFault? e.1).toList ++ (functionFault? e.1 e.2).toList

theorem founded_readEntries (es : Entries) : (readEntries es).Founded := by
  induction es with
  | nil => exact Collected.founded_ok []
  | cons e es ih =>
    rcases e with ⟨k, v⟩
    have hkey : (readKey k).Founded := by
      unfold readKey
      cases k.asText <;> simp [Collected.Founded]
    have hvalue : (readValue k v).Founded := by
      unfold readValue
      cases v.asCallable <;> simp [Collected.Founded]
    exact (((Collected.founded_ok _).both hkey).both hvalue).both ih

theorem faults_readEntries (es : Entries) : (readEntries es).faults = faults es := by
  induction es with
  | nil => rfl
  | cons e es ih =>
    rcases e with ⟨k, v⟩
    have hkey : (readKey k).faults = (labelFault? k).toList := by
      unfold readKey labelFault?
      cases k.asText <;> rfl
    have hvalue : (readValue k v).faults = (functionFault? k v).toList := by
      unfold readValue functionFault?
      cases v.asCallable <;> rfl
    rw [readEntries, Collected.faults_both, Collected.faults_both, Collected.faults_both, ih, hkey,
      hvalue, faults, faults, List.flatMap_cons]
    rfl

end Callbacks

namespace Field

theorem mem_all (f : Field) : f ∈ all := by
  cases f <;> simp [all]

def Accepts : Field → Value → Prop
  | .type, v => ∃ t, v.asTag = .ok t
  | .optional, v => ∃ b, v.asTruth = .ok b
  | .default, _ => True
  | .isa, v => ∃ c, v.asClass = .ok c
  | .regex, v => ∃ p, v.asPattern = .ok p
  | .callbacks, v => ∃ kind es, v = .map kind es ∧
    ∀ e ∈ es, (∃ s, e.1.asText = .ok s) ∧ ∃ c, e.2.asCallable = .ok c

def complaint? : Field → Value → Option Complaint
  | .type, v => refusal v.asTag
  | .optional, v => refusal v.asTruth
  | .default, _ => none
  | .isa, v => refusal v.asClass
  | .regex, v => refusal v.asPattern
  | .callbacks, v => if v.entries?.isSome then none else some .notMapping

def parts : Field → Value → Entries
  | .callbacks, .map _ es => es
  | _, _ => []

def valueFault? (f : Field) (v : Value) : Option Fault :=
  (f.complaint? v).map fun c => ⟨[.text f.name], c⟩

/-- What is wrong with the value of a field. -/
def faults (f : Field) (v : Value) : List Fault :=
  (f.valueFault? v).toList ++ Callbacks.faults (f.parts v)

end Field

/-- A part of a mapping of fields that can be wrong: the value of a field, the label of an entry of
the callbacks or what it labels, or the name of an entry. -/
inductive Place where
  | value (f : Field)
  | label (position : Nat)
  | function (position : Nat)
  | name (position : Nat)
deriving DecidableEq

namespace Rule

/-- All that is wrong with a mapping of fields: with the fields given, in declared order, and with
the names of no field, as they come. -/
def faults (es : Entries) : List Fault :=
  (Field.all.flatMap fun f => ((given? es f).map f.faults).getD []) ++ strangerFaults es

theorem founded_readField {α : Type} (es : Entries) (f : Field) (default : α)
    (read : Value → Except Complaint α) : (readField es f default read).Founded := by
  unfold readField
  cases given? es f with
  | none => exact Collected.founded_ok default
  | some v =>
    dsimp only
    cases read v <;> simp [Collected.Founded]

theorem founded_readCallbacks (es : Entries) : (readCallbacks es).Founded := by
  unfold readCallbacks
  cases given? es .callbacks with
  | none => exact Collected.founded_ok []
  | some v =>
    unfold Callbacks.read
    dsimp only
    cases v.entries? with
    | none => simp [Collected.Founded]
    | some es => exact (Callbacks.founded_readEntries es).map _

theorem founded_collect (es : Entries) : (collect es).Founded := by
  have htype := founded_readField es .type none Value.asTag
  have hoptional := founded_readField es .optional false Value.asTruth
  have hisa := founded_readField es .isa none Value.asClass
  have hregex := founded_readField es .regex none Value.asPattern
  have hnames := Collected.founded_guard (strangerFaults es)
  exact ((((((Collected.founded_ok _).both htype).both hoptional).both hisa).both hregex).both
    (founded_readCallbacks es)).both hnames

theorem faults_readField {α : Type} {f : Field} {read : Value → Except Complaint α}
    (hread : ∀ v, f.complaint? v = refusal (read v)) (hparts : ∀ v, f.parts v = [])
    (es : Entries) (default : α) :
    (readField es f default read).faults = ((given? es f).map f.faults).getD [] := by
  unfold readField
  cases given? es f with
  | none => rfl
  | some v =>
    dsimp only [Option.map_some, Option.getD_some]
    rw [Field.faults, Field.valueFault?, hread, hparts]
    cases read v <;> rfl

theorem faults_readCallbacks (es : Entries) :
    (readCallbacks es).faults = ((given? es .callbacks).map Field.callbacks.faults).getD [] := by
  unfold readCallbacks
  cases given? es .callbacks with
  | none => rfl
  | some v =>
    dsimp only [Option.map_some, Option.getD_some]
    cases hes : v.entries? with
    | some fs =>
      obtain ⟨kind, rfl⟩ := Value.entries?_eq_some.mp hes
      rw [Callbacks.read, hes]
      dsimp only
      rw [Collected.faults_map, Callbacks.faults_readEntries]
      rfl
    | none =>
      have hparts : Field.callbacks.parts v = [] := by
        cases v with
        | map kind fs => cases hes
        | _ => rfl
      rw [Callbacks.read, hes, Field.faults, Field.valueFault?, hparts, Field.complaint?, hes]
      rfl

theorem faults_collect (es : Entries) : (collect es).faults = faults es := by
  have hdefault : ((given? es .default).map Field.default.faults).getD [] = [] := by
    cases given? es .default <;> rfl
  simp only [collect, Collected.faults_both, Collected.faults_guard, faults, Field.all,
    List.flatMap_cons, List.flatMap_nil, hdefault, faults_readCallbacks]
  rw [faults_readField (f := .type) (fun _ => rfl) (fun _ => rfl),
    faults_readField (f := .optional) (fun _ => rfl) (fun _ => rfl),
    faults_readField (f := .isa) (fun _ => rfl) (fun _ => rfl),
    faults_readField (f := .regex) (fun _ => rfl) (fun _ => rfl)]
  simp [Collected.faults]

theorem ofEntries_eq_error_iff {es : Entries} {faults : List Fault} :
    ofEntries es = .error (.fields faults) ↔
      fatalFlaw? es = none ∧ faults = Rule.faults es ∧ Rule.faults es ≠ [] := by
  rw [ofEntries_eq_fields, (founded_collect es).eq_error_iff, faults_collect]

theorem exists_ofEntries_iff {es : Entries} : (∃ r, ofEntries es = .ok r) ↔ faults es = [] := by
  rw [← faults_collect, ← (founded_collect es).exists_ok_iff]
  simp only [ofEntries_eq_ok, collect_eq_ok]

end Rule

theorem Callbacks.faults_eq_nil {es : Entries} :
    faults es = [] ↔ ∀ e ∈ es, (∃ s, e.1.asText = .ok s) ∧ ∃ c, e.2.asCallable = .ok c := by
  simp [faults, labelFault?, functionFault?, refusal_eq_none]

theorem Field.faults_eq_nil {f : Field} {v : Value} : f.faults v = [] ↔ f.Accepts v := by
  rw [faults, List.append_eq_nil_iff, Option.toList_eq_nil_iff, valueFault?, Option.map_eq_none_iff,
    Callbacks.faults_eq_nil]
  cases f with
  | callbacks =>
    cases hes : v.entries? with
    | none =>
      have hmap := Value.entries?_eq_none.mp hes
      simp [complaint?, Accepts, hes, hmap]
    | some es =>
      obtain ⟨kind, rfl⟩ := Value.entries?_eq_some.mp hes
      simp [complaint?, Accepts, parts, hes]
  | _ => simp [complaint?, Accepts, parts, refusal_eq_none]

namespace Rule

theorem faults_eq_nil {es : Entries} :
    faults es = [] ↔ (∀ e ∈ es, ∃ f : Field, e.1 = .text f.name) ∧
      ∀ f v, given? es f = some v → f.Accepts v := by
  have hfield (f : Field) : ((given? es f).map f.faults).getD [] = [] ↔
      ∀ v, given? es f = some v → f.Accepts v := by
    cases given? es f <;> simp [Field.faults_eq_nil]
  rw [faults, List.append_eq_nil_iff, strangerFaults_eq_nil, List.flatMap_eq_nil_iff, and_comm]
  refine and_congr_right fun _ => ?_
  simp only [hfield]
  constructor
  · intro h f
    exact h f f.mem_all
  · intro h f _
    exact h f

section Reordering

def strangers (es : Entries) : Entries := es.filter fun e => (strangerFault? e.1).isSome

theorem strangers_eq_nil {es : Entries} :
    strangers es = [] ↔ ∀ e ∈ es, ∃ f : Field, e.1 = .text f.name := by
  simp [strangers, strangerFault?_eq_none]

theorem strangerFaults_eq (es : Entries) :
    strangerFaults es = (strangers es).filterMap fun e => strangerFault? e.1 := by
  rw [strangers, List.filterMap_filter, strangerFaults]
  apply List.filterMap_congr
  intro e _
  cases strangerFault? e.1 <;> rfl

theorem ofEntries_congr {es es' : Entries} (hgiven : ∀ f, given? es' f = given? es f)
    (hnames : strangerFaults es' = strangerFaults es) : ofEntries es' = ofEntries es := by
  have hcollect : collect es' = collect es := by
    simp only [collect, readField, readCallbacks, givenFields, hgiven, hnames]
  rw [ofEntries, ofEntries, fatalFlaw?, fatalFlaw?, hgiven, hcollect]

theorem ofEntries_of_reordered {es es' : Entries} (h : es.Reordered es')
    (hnames : strangers es' = strangers es) : ofEntries es' = ofEntries es := by
  apply ofEntries_congr
  · intro f
    exact h.find?_eq _
  · rw [strangerFaults_eq, strangerFaults_eq, hnames]

end Reordering

section Places

def labelled (es : Entries) : Entries :=
  ((given? es .callbacks).map Field.callbacks.parts).getD []

def faultAt? (es : Entries) : Place → Option Fault
  | .value f => (given? es f).bind f.valueFault?
  | .label i => (labelled es)[i]?.bind fun e => Callbacks.labelFault? e.1
  | .function i => (labelled es)[i]?.bind fun e => Callbacks.functionFault? e.1 e.2
  | .name i => es[i]?.bind fun e => strangerFault? e.1

def places (es : Entries) : List Place :=
  Field.all.map .value ++
    ((List.range (labelled es).length).flatMap fun i => [.label i, .function i]) ++
      (List.range es.length).map .name

theorem flatMap_range_getElem? {α β : Type} (l : List α) (g : α → List β) :
    ((List.range l.length).flatMap fun i => (l[i]?.map g).getD []) = l.flatMap g := by
  induction l with
  | nil => rfl
  | cons a l ih =>
    rw [List.length_cons, List.range_succ_eq_map, List.flatMap_cons, List.flatMap_map,
      List.flatMap_cons, ← ih]
    rfl

theorem faults_eq_filterMap (es : Entries) : faults es = (places es).filterMap (faultAt? es) := by
  have hfield (f : Field) (hparts : ∀ v, f.parts v = []) :
      ((given? es f).map f.faults).getD [] = (faultAt? es (.value f)).toList := by
    rw [faultAt?]
    cases given? es f with
    | none => rfl
    | some v => simp [Field.faults, hparts, Callbacks.faults]
  have hcallbacks : ((given? es .callbacks).map Field.callbacks.faults).getD [] =
      (faultAt? es (.value .callbacks)).toList ++ Callbacks.faults (labelled es) := by
    rw [faultAt?, labelled]
    cases given? es .callbacks <;> rfl
  have hvalues : (Field.all.flatMap fun f => ((given? es f).map f.faults).getD []) =
      (Field.all.map Place.value).filterMap (faultAt? es) ++ Callbacks.faults (labelled es) := by
    rw [List.filterMap_eq_flatMap_toList]
    simp only [Field.all, List.map_cons, List.map_nil, List.flatMap_cons, List.flatMap_nil,
      hcallbacks, List.append_assoc, List.append_nil]
    rw [hfield .type fun _ => rfl, hfield .optional fun _ => rfl, hfield .default fun _ => rfl,
      hfield .isa fun _ => rfl, hfield .regex fun _ => rfl]
  have hlabelled : Callbacks.faults (labelled es) =
      ((List.range (labelled es).length).flatMap fun i =>
        [Place.label i, Place.function i]).filterMap (faultAt? es) := by
    rw [Callbacks.faults, ← flatMap_range_getElem?, List.filterMap_flatMap]
    apply List.flatMap_congr
    intro i _
    rw [List.filterMap_eq_flatMap_toList, List.flatMap_cons, List.flatMap_singleton]
    simp only [faultAt?]
    cases (labelled es)[i]? <;> rfl
  have hnames : strangerFaults es =
      ((List.range es.length).map Place.name).filterMap (faultAt? es) := by
    rw [strangerFaults, List.filterMap_eq_flatMap_toList, ← flatMap_range_getElem?,
      List.filterMap_map, List.filterMap_eq_flatMap_toList]
    apply List.flatMap_congr
    intro i _
    simp only [Function.comp_apply, faultAt?]
    cases es[i]? <;> rfl
  rw [faults, hvalues, hlabelled, hnames, places, List.filterMap_append, List.filterMap_append]

theorem mem_places {es : Entries} {p : Place} (h : (faultAt? es p).isSome = true) :
    p ∈ places es := by
  have hlt {fs : Entries} {i : Nat} {g : Value × Value → Option Fault}
      (h : (fs[i]?.bind g).isSome = true) : i < fs.length := by
    by_contra hge
    rw [List.getElem?_eq_none (Nat.le_of_not_lt hge)] at h
    cases h
  cases p with
  | value f => simp [places, f.mem_all]
  | label i => simp [places, hlt h]
  | function i => simp [places, hlt h]
  | name i => simp [places, hlt h]

theorem nodup_places (es : Entries) : (places es).Nodup := by
  have hvalues : (Field.all.map Place.value).Nodup := by decide
  have hlabelled : ((List.range (labelled es).length).flatMap fun i =>
      [Place.label i, Place.function i]).Nodup := by
    refine List.nodup_flatMap.mpr ⟨fun i _ => by simp, List.nodup_range.imp ?_⟩
    intro i j hij
    simp [Function.onFun, List.Disjoint, hij]
  have hnames : ((List.range es.length).map Place.name).Nodup :=
    List.nodup_range.map fun i j h => Place.name.inj h
  refine List.nodup_append.mpr ⟨List.nodup_append.mpr ⟨hvalues, hlabelled, ?_⟩, hnames, ?_⟩
  · rintro a ha b hb rfl
    obtain ⟨f, -, rfl⟩ := List.mem_map.mp ha
    simp at hb
  · rintro a ha b hb rfl
    obtain ⟨i, -, rfl⟩ := List.mem_map.mp hb
    simp at ha

theorem map_filter_isSome {α β : Type} (l : List α) (f : α → Option β) :
    (l.filter fun a => (f a).isSome).map f = (l.filterMap f).map some := by
  induction l with
  | nil => rfl
  | cons a l ih =>
    cases h : f a with
    | none => simp [h, ih]
    | some b => simp [h, ih]

/-- The faults that are reported are those at the places where something is wrong, each once. -/
theorem exists_places (es : Entries) :
    ∃ ps : List Place, ps.Nodup ∧ (∀ p, p ∈ ps ↔ (faultAt? es p).isSome = true) ∧
      ps.map (faultAt? es) = (faults es).map some := by
  refine ⟨(places es).filter fun p => (faultAt? es p).isSome, (nodup_places es).filter _, ?_, ?_⟩
  · intro p
    rw [List.mem_filter]
    exact ⟨fun h => h.2, fun h => ⟨mem_places h, h⟩⟩
  · rw [faults_eq_filterMap]
    exact map_filter_isSome (places es) (faultAt? es)

end Places

theorem ofValue_map (name : Value) (kind : MapKind) (es : Entries) :
    ofValue name (.map kind es) = (ofEntries es).mapError (.malformed name) := by
  rw [ofValue]
  cases ofEntries es <;> rfl

theorem exists_ofValue_map_iff {name : Value} {kind : MapKind} {es : Entries} :
    (∃ r, ofValue name (.map kind es) = .ok r) ↔ faults es = [] := by
  rw [← exists_ofEntries_iff, ofValue_map]
  cases ofEntries es <;> simp [Except.mapError]

theorem ofValue_map_eq_error {name : Value} {kind : MapKind} {es : Entries} {e : SpecFault}
    (h : ofValue name (.map kind es) = .error e) :
    (fatalFlaw? es = none ∧ e = .malformed name (.fields (faults es))) ∨
      ∃ flaw, fatalFlaw? es = some flaw ∧ e = .malformed name (.pattern flaw) := by
  rw [ofValue_map] at h
  cases hr : ofEntries es with
  | ok r =>
    rw [hr] at h
    cases h
  | error fault =>
    rw [hr] at h
    cases h
    cases fault with
    | fields fs =>
      obtain ⟨hflaw, rfl, -⟩ := ofEntries_eq_error_iff.mp hr
      exact .inl ⟨hflaw, rfl⟩
    | pattern flaw => exact .inr ⟨flaw, ofEntries_eq_pattern.mp hr, rfl⟩

end Rule

/-- A mapping is a rule iff it names fields only and each takes the value given for it. Of any other
everything that is wrong is reported, in order and each thing once, except where a pattern passes a
limit or a text that is due cannot be made: then that is reported and nothing else. -/
theorem malformed_rule_is_reported_completely (name : Value) (kind : MapKind) (es : Entries) :
    ((∃ r, Rule.ofValue name (.map kind es) = .ok r) ↔
        (∀ e ∈ es, ∃ f : Field, e.1 = .text f.name) ∧
          ∀ f v, Rule.given? es f = some v → f.Accepts v) ∧
      (∀ e, Rule.ofValue name (.map kind es) = .error e →
        (Rule.fatalFlaw? es = none → e.report =
          (.listing (Rule.faults es) <| .showing [name]
            { className := "ParamSpecError"
              message := "Invalid validation rule for '" ++ name.plain ++ "': "
              details := some ("ParamSpec", Rule.faults es) })) ∧
          ∀ flaw, Rule.fatalFlaw? es = some flaw →
            e.report = { className := flaw.className, message := flaw.message }) ∧
      (∃ ps : List Place, ps.Nodup ∧ (∀ p, p ∈ ps ↔ (Rule.faultAt? es p).isSome = true) ∧
        ps.map (Rule.faultAt? es) = (Rule.faults es).map some) ∧
      (∀ kind' es', Entries.Reordered es es' → Rule.strangers es' = Rule.strangers es →
        Rule.ofValue name (.map kind' es') = Rule.ofValue name (.map kind es)) ∧
      ∀ r, Rule.ofValue name (.map kind es) = .ok r →
        (r.hasDefault = true ↔ ∃ v, (Value.text "default", v) ∈ es) := by
  refine ⟨?_, fun e he => ?_, Rule.exists_places es, fun kind' es' h hnames => ?_, fun r hr => ?_⟩
  · rw [Rule.exists_ofValue_map_iff, Rule.faults_eq_nil]
  · obtain ⟨hflaw, rfl⟩ | ⟨flaw, hflaw, rfl⟩ := Rule.ofValue_map_eq_error he
    · refine ⟨fun _ => rfl, fun flaw h => ?_⟩
      rw [hflaw] at h
      cases h
    · refine ⟨fun h => ?_, fun flaw' h => ?_⟩
      · rw [hflaw] at h
        cases h
      · obtain rfl := Option.some.inj (hflaw.symm.trans h)
        rfl
  · rw [Rule.ofValue_map, Rule.ofValue_map, Rule.ofEntries_of_reordered h hnames]
  · cases Rule.ofValue_eq_ok.mp hr with
    | fields _ hfields =>
      rw [RuleOf.hasDefault, hfields.preset]
      exact Entries.contains_text_iff

/-- A mapping in which four things are wrong, the first in order being the last that is written. -/
def faultyFields : Entries :=
  [(.text "typo", .int 1), (.text "callbacks", .map .dict [(.int 1, .int 5)]),
    (.text "type", .text "scalar")]

theorem malformed_rule_is_reported_completely_of_four :
    ∃ e, Rule.ofValue (.text "a") (.map .dict faultyFields) = .error e ∧ e.report =
      { className := "ParamSpecError"
        message := "Invalid validation rule for '" ++ (Value.text "a").plain ++ "': "
        details := some ("ParamSpec",
          [⟨[.text "type"], .notTag (.text "scalar")⟩,
            ⟨[.text "callbacks", .int 1, .text "[key]"], .notText⟩,
            ⟨[.text "callbacks", .int 1], .notCallable⟩,
            ⟨[.text "typo"], .unknownField⟩]) } := by
  obtain ⟨hread, hreport, -⟩ :=
    malformed_rule_is_reported_completely (.text "a") .dict faultyFields
  cases he : Rule.ofValue (.text "a") (.map .dict faultyFields) with
  | ok r =>
    obtain ⟨f, hf⟩ := (hread.mp ⟨r, he⟩).1 _ List.mem_cons_self
    cases f <;> simp [Field.name] at hf
  | error e => exact ⟨e, rfl, (hreport e he).1 rfl⟩

/-- A pattern that passes a limit is no pattern, and what is reported is no error of the spec. -/
theorem overlong_pattern_is_reported_as_limit :
    (¬ ∃ r, Rule.ofValue (.text "a") overlongRule = .ok r) ∧
      ∃ e, Rule.ofValue (.text "a") overlongRule = .error e ∧
        e.report.className = "OverflowError" ∧ e.report.details = none := by
  have hrule := ofValue_overlongRule (.text "a")
  refine ⟨?_, _, hrule, rfl, rfl⟩
  rintro ⟨r, hr⟩
  rw [hrule] at hr
  cases hr

end ParamGate
