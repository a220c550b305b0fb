import ParamGate.Decimal.Double
import ParamGate.Rule.Basic

/-!
Values of the host program, as far as they can be told apart: what an argument, a default, a name of
a parameter or a rule may be.
-/

namespace ParamGate

/-- Mappings differ in name only, but for the read-only kind. -/
inductive MapKind where
  | dict
  | ordered
  | readOnly
deriving DecidableEq, Repr

inductive ThingKind where
  | thing
  | child
  | falsy
deriving DecidableEq, Repr

def ThingKind.name : ThingKind → String
  | .thing => "Thing"
  | .child => "Child"
  | .falsy => "Falsy"

/-- A value of the host program. Objects that equal nothing but themselves carry an identity. -/
inductive Value where
  | null
  | bool (b : Bool)
  | int (n : Int)
  | tag (t : Tag)
  | float (x : Double)
  | text (s : String)
  | bytes (bs : List UInt8)
  | buffer (bs : List UInt8)
  | list (vs : List Value)
  | tuple (vs : List Value)
  | set (vs : List Value)
  | range (start stop step : Int)
  | map (kind : MapKind) (entries : List (Value × Value))
  | pattern (p : Pattern)
  | ofClass (c : HostClass)
  | thing (identity : Nat) (kind : ThingKind) (label : String)
  | function (f : HostFunction)
  | predicate (p : Predicate)
  | rule (r : RuleOf Value)

abbrev Rule := RuleOf Value

abbrev Entries := List (Value × Value)

namespace Value

def callable? : Value → Option Callable
  | .function f => some (.function f)
  | .predicate p => some (.predicate p)
  | .ofClass c => some (.ofClass c)
  | _ => none

def condition? : Value → Option Condition
  | .function f => some (.holds f)
  | .predicate p => some (.ofPredicate p)
  | _ => none

def entries? : Value → Option Entries
  | .map _ es => some es
  | _ => none

def rangeLength (start stop step : Int) : Nat :=
  if 0 < step then ((stop - start + step - 1).fdiv step).toNat
  else if step < 0 then ((start - stop - step - 1).fdiv (-step)).toNat
  else 0

def rangeItems (start stop step : Int) : List Value :=
  (List.range (rangeLength start stop step)).map fun (i : Nat) => .int (start + step * i)

def items? : Value → Option (List Value)
  | .list vs | .tuple vs => some vs
  | .range a b c => some (rangeItems a b c)
  | .buffer bs => some (bs.map fun b => .int b.toNat)
  | _ => none

def truthy : Value → Bool
  | .null => false
  | .bool b => b
  | .int n => n != 0
  | .tag t => t.bits != 0
  | .float x => !x.isZero
  | .text s => !s.isEmpty
  | .bytes bs | .buffer bs => !bs.isEmpty
  | .list vs | .tuple vs | .set vs => !vs.isEmpty
  | .range a b c => rangeLength a b c != 0
  | .map _ es => !es.isEmpty
  | .thing _ kind _ => kind != .falsy
  | _ => true

def kind : Value → Kind
  | .null => .undef
  | .bool _ | .int _ | .tag _ | .float _ | .text _ | .bytes _ => .scalar
  | .list _ | .tuple _ => .arrayref
  | .map .. => .hashref
  | .function _ | .predicate _ => .coderef
  | _ => .object

def typeName : Value → String
  | .null => "NoneType"
  | .bool _ => "bool"
  | .int _ => "int"
  | .tag _ => "ParamType"
  | .float _ => "float"
  | .text _ => "str"
  | .bytes _ => "bytes"
  | .buffer _ => "bytearray"
  | .list _ => "list"
  | .tuple _ => "tuple"
  | .set _ => "set"
  | .range .. => "range"
  | .map .dict _ => "dict"
  | .map .ordered _ => "OrderedDict"
  | .map .readOnly _ => "mappingproxy"
  | .pattern _ => "Pattern"
  | .ofClass c => c.className
  | .thing _ kind _ => kind.name
  | .function (.named ..) => "Fn"
  | .function .length => "builtin_function_or_method"
  | .function (.caller ..) => "Caller"
  | .predicate _ => "Predicate"
  | .rule _ => "ParamSpec"

/-- Whether a value belongs to a class, directly or through a class it derives from. -/
def isInstance (v : Value) : HostClass → Bool
  | .object => true
  | .int => match v with
    | .int _ | .bool _ | .tag _ => true
    | _ => false
  | .dict => match v with
    | .map .dict _ | .map .ordered _ => true
    | _ => false
  | .thing => match v with
    | .thing .. | .function (.caller ..) => true
    | _ => false
  | .type => match v with
    | .ofClass _ => true
    | _ => false
  | .mapping => v.entries?.isSome
  | .sequence => match v with
    | .text _ | .bytes _ | .buffer _ | .list _ | .tuple _ | .range .. => true
    | _ => false
  | .callable => v.callable?.isSome
  | c => v.typeName == c.name

end Value

end ParamGate
