import ParamGate.Value.Basic

/-!
Values as keys of a mapping. Two values are the same key iff they are spelled alike here: equal
numbers of any type are one key, ranges with the same terms are one key, and objects are told apart
by identity. What may change has no spelling of its own and cannot be a key.
-/

namespace ParamGate

inductive KeyPart where
  | null
  | int (n : Int)
  | float (x : Double)
  | text (s : String)
  | bytes (bs : List UInt8)
  | range (length : Nat) (start step : Int)
  | pattern (source : String) (options : Pattern.Options)
  | ofClass (c : HostClass)
  | thing (identity : Nat)
  | function (f : HostFunction)
  | predicate (identity : Nat)
  | opening
  | closing
  | unhashable
deriving DecidableEq

abbrev Key := List KeyPart

namespace Value

/-- A number is spelled as the whole number that it equals, if it equals one. -/
def numberKey (x : Double) : KeyPart :=
  match x.toInt? with
  | some n => .int n
  | none => .float x

def rangeKey (start stop step : Int) : KeyPart :=
  let n := rangeLength start stop step
  .range n (if n = 0 then 0 else start) (if n ≤ 1 then 0 else step)

mutual

def key : Value → Key
  | .null => [.null]
  | .bool b => [.int (if b then 1 else 0)]
  | .int n => [.int n]
  | .tag t => [.int t.bits]
  | .float x => [numberKey x]
  | .text s => [.text s]
  | .bytes bs => [.bytes bs]
  | .tuple vs => .opening :: listKey vs ++ [.closing]
  | .range a b c => [rangeKey a b c]
  | .pattern p => [.pattern p.source p.options]
  | .ofClass c => [.ofClass c]
  | .thing i _ _ => [.thing i]
  | .function f => [.function f]
  | .predicate p => [.predicate p.identity]
  | _ => [.unhashable]

def listKey : List Value → Key
  | [] => []
  | v :: vs => v.key ++ listKey vs

end

def isHashable (v : Value) : Bool := !v.key.contains .unhashable

mutual

/-- The class of the first part of a value that keeps it from being a key, with the path before its
name. A rule is told apart by its parts, and its callbacks are a mapping. -/
def unhashableTypeName : Value → String
  | .map .ordered _ => HostClass.orderedDict.home ++ HostClass.orderedDict.name
  | .tuple vs => unhashableItemName vs
  | .rule r => unhashablePresetName r.preset
  | v => v.typeName

def unhashableItemName : List Value → String
  | [] => "tuple"
  | v :: vs => if v.isHashable then unhashableItemName vs else v.unhashableTypeName

def unhashablePresetName : Option Value → String
  | .none => "dict"
  | .some v => if v.isHashable then "dict" else v.unhashableTypeName

end

@[simp] theorem key_text (s : String) : (Value.text s).key = [.text s] := rfl

end Value

end ParamGate
