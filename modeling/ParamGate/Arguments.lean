import ParamGate.Failure
import ParamGate.Settings
import ParamGate.Value.Entries

/-!
The arguments of a call as a mapping from names to values. They are given as a mapping, or as a flat
sequence in which names and values take turns; a name that comes again keeps its place and takes
the later value.
-/

namespace ParamGate.Arguments

def pairUp (position : Nat) (params : Entries) : List Value → Except ArgumentFault Entries
  | [] => .ok params
  | [_] => .error .odd
  | .text name :: v :: rest => pairUp (position + 2) (Entries.put params (.text name) v) rest
  | other :: _ :: _ => .error (.nameNotText other.typeName position)

def ofItems (vs : List Value) : Except ArgumentFault Entries :=
  if vs.length % 2 = 1 then .error .odd else pairUp 0 [] vs

def maxLength : Nat := 9223372036854775807

/-- Whether the items of a sequence can be counted. Only a range, which does not hold its items, may
have too many. -/
def isCountable : Value → Bool
  | .range start stop step => Value.rangeLength start stop step ≤ maxLength
  | _ => true

/-- The parameters that arguments denote. A range is not spelled out: it holds no name. -/
def params (args : Value) : Except ArgumentFault Entries :=
  match args with
  | .map _ es => .ok (Entries.ofPairs es)
  | .range start stop step =>
    let n := Value.rangeLength start stop step
    if maxLength < n then .error .overlong
    else if n % 2 = 1 then .error .odd
    else if n = 0 then .ok []
    else .error (.nameNotText (Value.int start).typeName 0)
  | args =>
    match args.items? with
    | none => .error .shape
    | some vs => ofItems vs

theorem params_of_items {args : Value} {vs : List Value} (h : args.items? = some vs)
    (hc : isCountable args = true) : params args = ofItems vs := by
  cases args with
  | range start stop step =>
    cases h
    have hn : ¬ maxLength < Value.rangeLength start stop step :=
      Nat.not_lt.mpr (of_decide_eq_true hc)
    simp only [params, ofItems, Value.rangeItems, List.length_map, List.length_range, if_neg hn]
    generalize Value.rangeLength start stop step = n
    split
    · rfl
    · match n with
      | 0 => rfl
      | 1 => contradiction
      | n + 2 => simp [List.range_succ_eq_map, pairUp, Value.typeName]
  | map kind es => cases h
  | _ => simp_all [params, ofItems, Value.items?]

def flatten : Entries → List Value
  | [] => []
  | (k, v) :: es => k :: v :: flatten es

/-- Whom messages name as the caller: what is given, unless it is empty or false. -/
def caller (called : Value) (settings : Settings) : Value :=
  if called.truthy then called else .text settings.called

theorem caller_caller (called : Value) (settings : Settings) :
    caller (caller called settings) settings = caller called settings := by
  cases h : called.truthy <;> simp [caller, h]

end ParamGate.Arguments
