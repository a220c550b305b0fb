import ParamGate.Host

/-!
Scripted functions: a host program small enough to be written down. Each function follows a fixed
script, and the host's state counts the calls of those that answer differently from call to call.
-/

namespace ParamGate

inductive Script where
  | answer (v : Value)
  | answerInTurn (vs : List Value)
  | has (k : Value)
  | get (k : Value)
  | greaterThan (k : Value)
  | count
  | echo
  | set (k v : Value)
  | delete (k : Value)
  | raise (e : Raised)

abbrev Counters := List (Nat × Nat)

namespace Counters

def get (cs : Counters) (identity : Nat) : Nat :=
  ((cs.find? (·.1 == identity)).map (·.2)).getD 0

def increment : Counters → Nat → Counters
  | [], identity => [(identity, 1)]
  | (i, n) :: cs, identity =>
    if i = identity then (i, n + 1) :: cs else (i, n) :: increment cs identity

end Counters

namespace Script

def afterChange : Option Raised → Act Counters
  | none => .answer (.bool true)
  | some e => .fail e

def lookUp (k : Value) (next : Option Value → Act Counters) : Act Counters :=
  if k.isHashable then .look fun es => next (Entries.find? es k) else .fail (.unhashable k)

def turn (vs : List Value) (n : Nat) : Value := (vs[n]?.or vs.getLast?).getD .null

def act (identity : Nat) (value : Option Value) : Script → Act Counters
  | .answer v => .answer v
  | .answerInTurn vs =>
    .load fun cs => .store (cs.increment identity) (.answer (turn vs (cs.get identity)))
  | .has k => lookUp k fun v => .answer (.bool v.isSome)
  | .get k => lookUp k fun v => .answer (v.getD .null)
  | .greaterThan k => lookUp k fun v =>
    .answer (.bool (match value, v with
      | some (.int a), some (.int b) => decide (b < a)
      | _, _ => false))
  | .count => .look fun es => .answer (.int es.length)
  | .echo =>
    match value with
    | some v => .answer v
    | none => .look fun es => .answer (.map .dict es)
  | .set k v => .write k v afterChange
  | .delete k => lookUp k fun
    | some _ => .remove k afterChange
    | none => .answer (.bool true)
  | .raise e => .fail e

def refusal (v : Value) : HostClass → String
  | .int => "'dict' object cannot be interpreted as an integer"
  | .str => "str() argument 'encoding' must be str, not dict"
  | .bytes => "bytes() argument 'encoding' must be str, not dict"
  | .type => "type() takes 1 or 3 arguments"
  | .orderedDict => "expected at most 1 arguments, got 2"
  | .rule => "BaseModel.__init__() takes 1 positional argument but 3 were given"
  | .object => "object() takes no arguments"
  | .noneType => "NoneType takes no arguments"
  | .mapping => "Mapping() takes no arguments"
  | .sequence => "Sequence() takes no arguments"
  | .callable => "Callable() takes no arguments"
  | .thing | .child | .falsy | .caller =>
    "Thing.__init__() takes 2 positional arguments but 3 were given"
  | .function => "Fn.__init__() takes 2 positional arguments but 3 were given"
  | .tag => "<enum " ++ v.literal ++ "> cannot extend " ++ HostClass.tag.text
  | c => c.name ++ " expected at most 1 argument, got 2"

/-- The host whose named functions follow the scripts listed under their identities. -/
def host (scripts : List (Nat × Script)) : Host Counters where
  predicate
    | .named identity _ =>
      match scripts.find? (·.1 == identity) with
      | some (_, s) => s.act identity none
      | none => .answer .null
    | .length => .look fun es => .answer (.int es.length)
    | .caller .. => .answer (.bool true)
  check c v :=
    match c with
    | .function (.named identity _) =>
      match scripts.find? (·.1 == identity) with
      | some (_, s) => s.act identity (some v)
      | none => .answer .null
    | .function .length => .fail ⟨.type, "len() takes exactly one argument (2 given)"⟩
    | .function (.caller ..) => .answer (.bool true)
    | .predicate _ =>
      .fail ⟨.type, "Predicate.__call__() takes 2 positional arguments but 3 were given"⟩
    | .ofClass .tag => .fail (Raised.showing v ⟨.type, refusal v .tag⟩)
    | .ofClass cls => .fail ⟨.type, refusal v cls⟩

end Script

end ParamGate
