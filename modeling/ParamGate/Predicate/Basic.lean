import ParamGate.Text.Quoted

/-!
Predicates over the parameters of a call. A predicate counts how many of its conditions hold; a
condition is the presence of a name, a function of the host program, or a predicate in turn.
-/

namespace ParamGate

/-- A function that the host program hands in. What it does is no part of the value: the
host supplies that where it is called. -/
inductive HostFunction where
  | named (identity : Nat) (name : String)
  | length
  | caller (identity : Nat) (label : String)
deriving DecidableEq, Repr

namespace HostFunction

def chars : HostFunction → List Char
  | .named _ name => "<fn ".toList ++ name.toList ++ ['>']
  | .length => "<built-in function len>".toList
  | .caller _ label => "<Caller ".toList ++ label.toList ++ ['>']

end HostFunction

inductive CountRule where
  | exactly (desired : Int)
  | atLeastOne
deriving DecidableEq, Repr

/-- A condition on the parameters of a call. Two counted conditions are the same only if they are
the same object, so each carries its identity. -/
inductive Condition where
  | present (name : String)
  | holds (f : HostFunction)
  | counted (identity : Nat) (title : String) (rule : CountRule) (options : List Condition)

/-- A predicate: the combinator that built it, its conditions in the order given, and its rule. -/
structure Predicate where
  identity : Nat
  title : String
  rule : CountRule
  options : List Condition

namespace Condition

def ofPredicate (p : Predicate) : Condition := .counted p.identity p.title p.rule p.options

mutual

def chars : Condition → List Char
  | .present name => Text.Quoted.encode name.toList
  | .holds f => f.chars
  | .counted _ title _ options => title.toList ++ '(' :: listChars options ++ [')']

def listChars : List Condition → List Char
  | [] => []
  | [c] => c.chars
  | c :: cs => c.chars ++ ',' :: ' ' :: listChars cs

end

def text (c : Condition) : String := String.ofList c.chars

/-- Names are the same by their text, functions and predicates by identity. -/
def same : Condition → Condition → Bool
  | .present a, .present b => a == b
  | .holds f, .holds g => f == g
  | .counted i _ _ _, .counted j _ _ _ => i == j
  | _, _ => false

end Condition

namespace Predicate

def chars (p : Predicate) : List Char := (Condition.ofPredicate p).chars

def text (p : Predicate) : String := String.ofList p.chars

end Predicate

end ParamGate
