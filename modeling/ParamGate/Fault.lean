import ParamGate.Value.Printing

/-!
What can be wrong with the value of a field, and the collection of all that is wrong with several
fields at once: each reading either gives its result or its faults, and readings combined give the
faults of every one of them, in order.
-/

namespace ParamGate

inductive Complaint where
  | unknownField
  | keyNotText
  | notTag (v : Value)
  | longTag
  | unclearTruth
  | notTruth
  | notClass
  | notPattern
  | bytesPattern
  | badPattern (flaw : Pattern.Flaw)
  | notMapping
  | notText
  | notUnicode
  | longText
  | notCallable
  | frozen

namespace Complaint

def code : Complaint → String
  | .unknownField => "extra_forbidden"
  | .keyNotText => "invalid_key"
  | .notTag _ | .longTag | .longText => "value_error"
  | .unclearTruth => "bool_parsing"
  | .notTruth => "bool_type"
  | .notClass => "is_type"
  | .notPattern => "pattern_type"
  | .bytesPattern => "pattern_str_type"
  | .badPattern (.malformed ..) => "pattern_regex"
  | .badPattern _ => "value_error"
  | .notMapping => "dict_type"
  | .notText => "string_type"
  | .notUnicode => "string_unicode"
  | .notCallable => "callable_type"
  | .frozen => "frozen_instance"

def message : Complaint → String
  | .unknownField => "Extra inputs are not permitted"
  | .keyNotText => "Keys should be strings"
  | .notTag v =>
    "Value error, " ++ if v.hasText then "type must be a ParamType tag, not " ++ v.literal
      else Text.longNumberMessage ""
  | .longTag | .longText => "Value error, " ++ Text.longNumberMessage ""
  | .unclearTruth => "Input should be a valid boolean, unable to interpret input"
  | .notTruth => "Input should be a valid boolean"
  | .notClass => "Input should be a type"
  | .notPattern => "Input should be a valid pattern"
  | .bytesPattern => "Input should be a string pattern"
  | .badPattern (.malformed ..) => "Input should be a valid regular expression"
  | .badPattern flaw => "Value error, " ++ flaw.message
  | .notMapping => "Input should be a valid dictionary"
  | .notText => "Input should be a valid string"
  | .notUnicode => "Input should be a valid string, unable to parse raw data as a unicode string"
  | .notCallable => "Input should be callable"
  | .frozen => "Instance is frozen"

/-- Whether a complaint is listed with others. A text that is due and cannot be made is an error at
once. -/
def isListed : Complaint → Bool
  | .longText => false
  | _ => true

end Complaint

structure Fault where
  path : List Value
  complaint : Complaint

def isWord (n : Int) : Bool := -9223372036854775808 ≤ n && n ≤ 9223372036854775807

/-- A key as part of a path: texts and numbers of 64 bits as they are, all else by a text. -/
def Value.pathItem (v : Value) : Value :=
  let shown : Value :=
    .text (if v.hasText then v.literal else "<unprintable " ++ v.typeName ++ " object>")
  match v with
  | .text s => .text s
  | .bool b => .int (if b then 1 else 0)
  | .int n => if isWord n then .int n else shown
  | .tag t => if isWord t.bits then .int t.bits else shown
  | _ => shown

abbrev Collected (α : Type) := Except (List Fault) α

namespace Collected

variable {α β : Type}

/-- Applies a result to a result; faults on both sides add up. -/
def both : Collected (α → β) → Collected α → Collected β
  | .ok f, .ok a => .ok (f a)
  | .ok _, .error e => .error e
  | .error d, .ok _ => .error d
  | .error d, .error e => .error (d ++ e)

def faults : Collected α → List Fault
  | .ok _ => []
  | .error e => e

def guard : List Fault → Collected Unit
  | [] => .ok ()
  | f :: fs => .error (f :: fs)

@[simp] theorem faults_guard (fs : List Fault) : (guard fs).faults = fs := by
  cases fs <;> rfl

theorem faults_both (f : Collected (α → β)) (a : Collected α) :
    (both f a).faults = f.faults ++ a.faults := by
  cases f <;> cases a <;> simp [both, faults]

end Collected

end ParamGate
