import Mathlib.Logic.Relation
import ParamGate.Gate
import ParamGate.Proofs.Acceptance
import ParamGate.Proofs.Malformed

/-!
The ways to write the same spec. A rule may change from one notation to another any number of times:
every notation leads to the rule itself, and what is read never changes. A call sees of its spec the
rules that are read and nothing else.
-/

namespace ParamGate

variable {σ : Type}

namespace Rule

theorem HasFields.of_reordered {r : Rule} {es es' : Entries} (hr : r.HasFields es)
    (h : es.Reordered es') : r.HasFields es' := by
  have hnames : strangers es = [] := strangers_eq_nil.mpr hr.named
  have hnames' : strangers es' = [] :=
    strangers_eq_nil.mpr fun e he => hr.named e (h.perm.mem_iff.mpr he)
  rw [← ofEntries_eq_ok, ofEntries_of_reordered h (hnames'.trans hnames.symm)]
  exact ofEntries_eq_ok.mpr hr

/-- One change of notation. What is built from fields is the rule that they spell. -/
inductive Renoted : Value → Value → Prop
  | truthAsFields (b : Bool) (kind : MapKind) :
    Renoted (.bool b) (.map kind [(.text "optional", .bool (!b))])
  | truthAsRule (b : Bool) : Renoted (.bool b) (.rule { optional := !b, given := [.optional] })
  | fields {r : Rule} {es es' : Entries} (kind kind' : MapKind) (hr : r.HasFields es)
    (h : es.Reordered es') : Renoted (.map kind es) (.map kind' es')
  | built {r : Rule} {es : Entries} (kind : MapKind) (h : ofEntries es = .ok r) :
    Renoted (.map kind es) (.rule r)

/-- Notations of one rule: changes of notation lead from one to the other, back and forth. -/
def Synonymous : Value → Value → Prop := Relation.EqvGen Renoted

theorem Renoted.ofValue_eq {v v' : Value} (h : Renoted v v') (name : Value) :
    ofValue name v = ofValue name v' := by
  cases h with
  | truthAsFields b kind => cases b <;> rfl
  | truthAsRule b => rfl
  | fields kind kind' hr h =>
    rw [ofValue_map, ofValue_map, ofEntries_eq_ok.mpr hr, ofEntries_eq_ok.mpr (hr.of_reordered h)]
  | built kind h =>
    rw [ofValue_map, h]
    rfl

theorem Synonymous.ofValue_eq {v v' : Value} (h : Synonymous v v') (name : Value) :
    ofValue name v = ofValue name v' := by
  induction h with
  | rel v v' h => exact h.ofValue_eq name
  | refl v => rfl
  | symm v v' _ ih => exact ih.symm
  | trans v u v' _ _ ih ih' => exact ih.trans ih'

theorem WrittenAs.synonymous {r : Rule} {v : Value} (h : r.WrittenAs v) :
    Synonymous v (.rule r) := by
  cases h with
  | rule r => exact .refl _
  | truth b => exact .rel _ _ (.truthAsRule b)
  | fields kind h => exact .rel _ _ (.built kind (ofEntries_eq_ok.mpr h))

end Rule

namespace Spec

/-- The same names in the same order, each with a notation of the same rule. -/
inductive Respelled : Value → Value → Prop
  | rules {es es' : Entries} (kind kind' : MapKind)
    (h : List.Forall₂ (fun e e' => e'.1 = e.1 ∧ Rule.Synonymous e.2 e'.2) (Entries.ofPairs es)
      (Entries.ofPairs es')) :
    Respelled (.map kind es) (.map kind' es')

theorem ofEntries_congr {es es' : Entries}
    (h : List.Forall₂ (fun e e' => e'.1 = e.1 ∧ Rule.Synonymous e.2 e'.2) es es') :
    ofEntries es' = ofEntries es := by
  induction h with
  | nil => rfl
  | @cons e e' es es' he _ ih =>
    rcases e with ⟨name, v⟩
    rcases e' with ⟨name', v'⟩
    obtain ⟨rfl, hv⟩ : name' = name ∧ Rule.Synonymous v v' := he
    rw [ofEntries, ofEntries, hv.ofValue_eq, ih]

theorem Respelled.ofValue_eq {spec spec' : Value} (h : Respelled spec spec') :
    ofValue spec' = ofValue spec := by
  cases h with
  | rules kind kind' h => exact ofEntries_congr h

namespace WrittenAs

variable {rules : Spec} {spec : Value}

theorem ofPairs_rules (h : rules.WrittenAs spec) :
    Entries.ofPairs (rules.map fun q => (q.1, Value.rule q.2)) =
      rules.map fun q => (q.1, Value.rule q.2) := by
  apply Entries.ofPairs_of_distinct
  rw [Entries.Distinct, Entries.keys, List.map_map]
  exact h.nodup_keys

theorem ofValue_toValue (h : rules.WrittenAs spec) : ofValue rules.toValue = .ok rules := by
  have hread : ofValue rules.toValue =
      ofEntries (Entries.ofPairs (rules.map fun q => (q.1, Value.rule q.2))) := rfl
  rw [hread, h.ofPairs_rules, ofEntries_rules]

theorem respelled (h : rules.WrittenAs spec) : Respelled spec rules.toValue := by
  have hpairs := h.ofPairs_rules
  obtain ⟨kind, es, rfl, hrules⟩ := h
  apply Respelled.rules
  rw [hpairs, List.forall₂_map_right_iff]
  exact hrules.imp fun e q hq => ⟨hq.1, hq.2.synonymous⟩

end WrittenAs

end Spec

section Calls

variable {host : Host σ} {spec spec' : Value}

theorem validateUnder_congr_spec (h : Spec.ofValue spec' = Spec.ofValue spec) (S : Settings)
    (caller : Value) : validateUnder host S caller spec' = validateUnder host S caller spec := by
  rw [validateUnder, validateUnder, h]

theorem validateParams_congr_spec (h : Spec.ofValue spec' = Spec.ofValue spec)
    (args called : Value) (settings : Option Settings) :
    validateParams host args spec' called settings =
      validateParams host args spec called settings := by
  simp only [validateParams, validateUnder_congr_spec h]

theorem validate_congr_spec (h : Spec.ofValue spec' = Spec.ofValue spec) (args called : Value)
    (trailing : List Value) (settings : Option Settings) :
    validate host args spec' trailing called settings =
      validate host args spec trailing called settings := by
  simp only [validate_eq, validateUnder_congr_spec h]

end Calls

/-- A spec that can be read has the names of the mapping, in its order. Written as rules it is a
notation of itself that reads as the same rules again. Whichever notation its rules are in, every
call ends alike and leaves the same behind: the functions called, the log and the settings kept. -/
theorem notations_are_interchangeable (host : Host σ) {spec : Value} {rules : Spec}
    (h : Spec.ofValue spec = .ok rules) :
    (∃ kind es, spec = .map kind es ∧ rules.names = Entries.names (Entries.ofPairs es)) ∧
      Spec.ofValue rules.toValue = .ok rules ∧
      Spec.Respelled spec rules.toValue ∧
      ∀ spec', Spec.Respelled spec spec' →
        Spec.ofValue spec' = .ok rules ∧
          (∀ args called settings w, validateParams host args spec' called settings w =
            validateParams host args spec called settings w) ∧
          ∀ args trailing called settings w, validate host args spec' trailing called settings w =
            validate host args spec trailing called settings w := by
  have hr := Spec.ofValue_eq_ok.mp h
  refine ⟨hr.names_eq, hr.ofValue_toValue, hr.respelled, fun spec' hs => ⟨?_, ?_, ?_⟩⟩
  · exact hs.ofValue_eq.trans h
  · intro args called settings w
    rw [validateParams_congr_spec hs.ofValue_eq]
  · intro args trailing called settings w
    rw [validate_congr_spec hs.ofValue_eq]

/-- The spec in three notations with every rule in another one. -/
def respelledSpec : Value :=
  .map .ordered [(.text "a", .map .readOnly [
      (.text "callbacks", .map .dict [(.text "with b", .function (.named 7 "f"))]),
      (.text "type", .int 1)]),
    (.text "c", .map .dict [(.text "default", .null)]),
    (.text "b", .map .ordered [(.text "optional", .bool false)])]

theorem notations_are_interchangeable_of_respelled :
    Spec.ofValue pairedSpec = .ok pairedRules ∧ Spec.Respelled pairedSpec respelledSpec ∧
      validateParams pairedHost (.map .dict [(.text "b", .int 1)]) respelledSpec .null (some {})
          { host := [] } =
        validateParams pairedHost (.map .dict [(.text "b", .int 1)]) pairedSpec .null (some {})
          { host := [] } := by
  have hread : Spec.ofValue pairedSpec = .ok pairedRules := rfl
  have hfields : Rule.HasFields
      { type := some ⟨1⟩, callbacks := [("with b", .function (.named 7 "f"))],
        given := [.type, .callbacks] }
      [(.text "type", .int 1),
        (.text "callbacks", .map .dict [(.text "with b", .function (.named 7 "f"))])] :=
    Rule.ofEntries_eq_ok.mp rfl
  have ha := Rule.Renoted.fields .dict .readOnly hfields
    ⟨by simp [Entries.Distinct, Entries.keys], .swap _ _ _⟩
  have hc : Rule.Renoted (.map .dict [(.text "default", .null)])
      (.rule { preset := some .null, given := [.default] }) := .built .dict rfl
  have hb := Rule.Renoted.truthAsFields true .ordered
  have hspec : Spec.Respelled pairedSpec respelledSpec :=
    .rules _ _ (.cons ⟨rfl, .rel _ _ ha⟩
      (.cons ⟨rfl, .symm _ _ (.rel _ _ hc)⟩ (.cons ⟨rfl, .rel _ _ hb⟩ .nil)))
  have hsame := (notations_are_interchangeable pairedHost hread).2.2.2 respelledSpec hspec
  exact ⟨hread, hspec, hsame.2.1 _ _ _ _⟩

end ParamGate
