import ParamGate.Class
import ParamGate.Pattern
import ParamGate.Predicate.Basic
import ParamGate.Tag

/-!
The rule for a single parameter, over any type of default value. Which fields were given matters
beside their values: a rule with a default is optional even if the default says nothing.
-/

namespace ParamGate

inductive Callable where
  | function (f : HostFunction)
  | predicate (p : Predicate)
  | ofClass (c : HostClass)

namespace Callable

def chars : Callable → List Char
  | .function f => f.chars
  | .predicate p => p.chars
  | .ofClass c => c.text.toList

def text (c : Callable) : String := String.ofList c.chars

end Callable

inductive Field where
  | type
  | optional
  | default
  | isa
  | regex
  | callbacks
deriving DecidableEq, Repr

namespace Field

def all : List Field := [.type, .optional, .default, .isa, .regex, .callbacks]

def name : Field → String
  | .type => "type"
  | .optional => "optional"
  | .default => "default"
  | .isa => "isa"
  | .regex => "regex"
  | .callbacks => "callbacks"

def ofName? (s : String) : Option Field := all.find? (·.name = s)

theorem ofName?_name (f : Field) : ofName? f.name = some f := by
  cases f <;> decide +kernel

end Field

/-- The rule for one parameter: the kinds of value accepted, whether it may be left out, the value
that then stands for it, a class and a pattern that a value must meet, and named checks. -/
structure RuleOf (α : Type) where
  type : Option Tag := none
  optional : Bool := false
  preset : Option α := none
  isa : Option HostClass := none
  regex : Option Pattern := none
  callbacks : List (String × Callable) := []
  given : List Field := []

namespace RuleOf

variable {α : Type}

def hasDefault (r : RuleOf α) : Bool := r.preset.isSome

def isOptional (r : RuleOf α) : Bool := r.optional || r.hasDefault

end RuleOf

end ParamGate
