import ParamGate.Failure
import ParamGate.Rule.Reading

/-!
Specs: rules by parameter name, in the order of the mapping they are read from. A rule may be
written as a rule, as a mapping of fields or as a truth value; reading stops at the first that
cannot be read.
-/

namespace ParamGate

abbrev Spec := List (Value × Rule)

def Rule.ofValue (name : Value) : Value → Except SpecFault Rule
  | .rule r => .ok r
  | .bool b => .ok (.mandatory b)
  | .map _ es =>
    match Rule.ofEntries es with
    | .ok r => .ok r
    | .error fault => .error (.malformed name fault)
  | v => .error (.notRule name v.typeName)

namespace Spec

def ofEntries : Entries → Except SpecFault Spec
  | [] => .ok []
  | (name, v) :: es =>
    match Rule.ofValue name v with
    | .error e => .error e
    | .ok r =>
      match ofEntries es with
      | .error e => .error e
      | .ok rest => .ok ((name, r) :: rest)

/-- The spec that a value denotes; it has one rule for a name. -/
def ofValue (v : Value) : Except SpecFault Spec :=
  match v.entries? with
  | some es => ofEntries (Entries.ofPairs es)
  | none => .error (.notMapping v.typeName)

def names (s : Spec) : List Value := s.map (·.1)

def lists (s : Spec) (name : Value) : Bool := s.any fun p => p.1.key == name.key

/-- The spec as a mapping again, every rule written as a rule. -/
def toValue (s : Spec) : Value := .map .dict (s.map fun p => (p.1, .rule p.2))

theorem ofEntries_rules (s : Spec) : ofEntries (s.map fun p => (p.1, Value.rule p.2)) = .ok s := by
  induction s with
  | nil => rfl
  | cons p s ih => simp [ofEntries, Rule.ofValue, ih]

end Spec

end ParamGate
