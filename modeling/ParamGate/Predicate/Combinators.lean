import ParamGate.Failure
import ParamGate.Predicate.Basic

/-!
Building predicates. An option is a name or whatever may stand as a predicate; a combinator refuses
anything else when it is called, and never later.
-/

namespace ParamGate

def Value.option? : Value → Option Condition
  | .text s => some (.present s)
  | v => v.condition?

/-- Reads the options of a combinator, all of them or none. -/
def readOptions (title : String) : List Value → Except Failure (List Condition)
  | [] => .ok []
  | v :: vs =>
    match v.option? with
    | none => .error (.options title)
    | some c =>
      match readOptions title vs with
      | .ok cs => .ok (c :: cs)
      | .error e => .error e

inductive Combinator where
  | allOf
  | anyOf
  | noneOf
  | oneOf
deriving DecidableEq, Repr

namespace Combinator

def all : List Combinator := [.allOf, .anyOf, .noneOf, .oneOf]

def name : Combinator → String
  | .allOf => "all_of"
  | .anyOf => "any_of"
  | .noneOf => "none_of"
  | .oneOf => "one_of"

def ofName? (s : String) : Option Combinator := all.find? (·.name = s)

def rule : Combinator → Nat → CountRule
  | .allOf, n => .exactly n
  | .anyOf, _ => .atLeastOne
  | .noneOf, _ => .exactly 0
  | .oneOf, _ => .exactly 1

def combine (c : Combinator) (identity : Nat) (options : List Condition) : Predicate :=
  ⟨identity, c.name, c.rule options.length, options⟩

def build (c : Combinator) (identity : Nat) (values : List Value) : Except Failure Predicate :=
  (readOptions c.name values).map (c.combine identity)

end Combinator

def Predicate.countOf (identity : Nat) (title : String) (options : List Condition)
    (desired : Int) : Predicate :=
  ⟨identity, title, .exactly desired, options⟩

def Predicate.atLeastOneOf (identity : Nat) (title : String) (options : List Condition) :
    Predicate :=
  ⟨identity, title, .atLeastOne, options⟩

end ParamGate
