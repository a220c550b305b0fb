import ParamGate.ErrorClass
import ParamGate.Fault

/-!
How a call can fail: each failure is a cause, with one function for its text and one for the report
that its observer sees. Texts that name the caller take its name as it was in force. A text that
would show a number too long to be written cannot be made, and that is then what is seen.
-/

namespace ParamGate

/-- The text of every dependency failure; it never says which predicate failed. -/
def dependencyMessage : String := "code-ref checking failed"

structure Raised where
  cls : ErrorClass
  message : String
deriving DecidableEq, Repr

namespace Raised

/-- A missing key shows its message quoted, and a dependency failure has but one text. -/
def text (e : Raised) : String :=
  match e.cls with
  | .key => String.ofList (Text.Quoted.encode e.message.toList)
  | .dependency => dependencyMessage
  | _ => e.message

def longNumber : Raised := ⟨.value, Text.longNumberMessage ""⟩

/-- The error, if the value that its text shows has a text. -/
def showing (v : Value) (e : Raised) : Raised := if v.hasText then e else longNumber

/-- The error that takes the place of a `StopIteration` raised among the conditions of a
predicate. -/
def generatorStop : Raised := ⟨.runtime, "generator raised StopIteration"⟩

end Raised

inductive RuleFault where
  | fields (faults : List Fault)
  | pattern (flaw : Pattern.Flaw)

inductive SpecFault where
  | notMapping (found : String)
  | notRule (name : Value) (found : String)
  | malformed (name : Value) (fault : RuleFault)

inductive CheckFault where
  | kind (found : Kind) (allowed : Tag)
  | isa (c : HostClass)
  | regex
  | callback (label : String)

inductive ArgumentFault where
  | shape
  | overlong
  | odd
  | nameNotText (found : String) (position : Nat)
  | unlisted (names : List String)
  | unwritten
  | missing (names : List Value)
  | check (name value : Value) (fault : CheckFault)

inductive Failure where
  | spec (fault : SpecFault)
  | arguments (called : Value) (fault : ArgumentFault)
  | options (combinator : String)
  | trailing
  | noOption
  | dependency
  | settings (faults : List Fault)
  | rule (fault : RuleFault)
  | pattern (flaw : Pattern.Flaw)
  | frozen (owner member : String)
  | frozenPredicate (member : String)
  | raised (e : Raised)

namespace CheckFault

def message : CheckFault → String
  | .kind found allowed =>
    " was a '" ++ found.word ++ "', which is not one of the allowed types: " ++ allowed.describe
  | .isa c => " was not a '" ++ c.name ++ "'"
  | .regex => " did not pass regex check"
  | .callback label => " did not pass the '" ++ label ++ "' callback"

end CheckFault

namespace ArgumentFault

def message (called : String) : ArgumentFault → String
  | .shape => "Arguments to " ++ called ++ " must be a mapping or a list of name/value pairs"
  | .overlong => "Python int too large to convert to C ssize_t"
  | .odd =>
    "Odd number of parameters in call to " ++ called ++ " when named parameters were expected"
  | .nameNotText found position =>
    "Parameter names in call to " ++ called ++ " must be strings, not " ++ found ++
      " at position " ++ Text.natText position
  | .unlisted names =>
    let (noun, verb) := if names.length = 1 then ("parameter", "was") else ("parameters", "were")
    "The following " ++ noun ++ " " ++ verb ++ " passed in the call to " ++ called ++ " but " ++
      verb ++ " not listed in the validation options: " ++ " ".intercalate names
  | .unwritten => Raised.longNumber.message
  | .missing names =>
    let noun := if names.length = 1 then "parameter" else "parameters"
    "Mandatory " ++ noun ++ " " ++ " ".intercalate (names.map fun n => "'" ++ n.plain ++ "'") ++
      " missing in call to " ++ called
  | .check name value fault =>
    "The '" ++ name.plain ++ "' parameter (" ++ value.literal ++ ") to " ++ called ++ fault.message

def param : ArgumentFault → Value
  | .unlisted (name :: _) => .text name
  | .missing (name :: _) => name
  | .check name _ _ => name
  | _ => .null

def shown : ArgumentFault → List Value
  | .missing names => names
  | .check name value _ => [name, value]
  | _ => []

end ArgumentFault

/-- What an observer sees of a failure: the class and text of the error, the parameter where the
class has one, and the faults of fields with the name of what they belong to. -/
structure Report where
  className : String
  message : String
  param : Option Value := none
  details : Option (String × List Fault) := none

namespace Report

def ofFlaw (flaw : Pattern.Flaw) : Report :=
  { className := flaw.className, message := flaw.message }

def ofRaised (e : Raised) : Report :=
  { className := e.cls.name
    message := e.text
    param := if e.cls = .argument then some .null else none }

def ofFaults (owner : String) (faults : List Fault) : Report :=
  { className := "ValidationError", message := "", details := some (owner, faults) }

def listing (faults : List Fault) (r : Report) : Report :=
  if faults.all (·.complaint.isListed) then r else ofRaised .longNumber

/-- The report, if the values that its message shows have texts. -/
def showing (vs : List Value) (r : Report) : Report :=
  if vs.all Value.hasText then r else ofRaised .longNumber

theorem showing_of_texts {vs : List Value} (h : ∀ v ∈ vs, v.hasText = true) (r : Report) :
    showing vs r = r := if_pos (List.all_eq_true.mpr h)

theorem showing_cons_of_texts {vs : List Value} (h : ∀ v ∈ vs, v.hasText = true) (u : Value)
    (r : Report) : showing (u :: vs) r = showing [u] r := by
  rw [showing, List.all_cons, List.all_eq_true.mpr h]
  rfl

theorem listing_of_listed {faults : List Fault}
    (h : ∀ f ∈ faults, f.complaint.isListed = true) (r : Report) : listing faults r = r :=
  if_pos (List.all_eq_true.mpr h)

theorem showing_eq_or (vs : List Value) (r : Report) :
    showing vs r = r ∨ showing vs r = ofRaised .longNumber := by
  unfold showing
  split
  · exact .inl rfl
  · exact .inr rfl

theorem listing_eq_or (faults : List Fault) (r : Report) :
    listing faults r = r ∨ listing faults r = ofRaised .longNumber := by
  unfold listing
  split
  · exact .inl rfl
  · exact .inr rfl

end Report

def RuleFault.report : RuleFault → Report
  | .fields faults => .listing faults (.ofFaults "ParamSpec" faults)
  | .pattern flaw => .ofFlaw flaw

def SpecFault.report : SpecFault → Report
  | .notMapping found =>
    { className := ErrorClass.spec.name
      message := "Validation spec must be a mapping, not " ++ found }
  | .notRule name found =>
    .showing [name]
      { className := ErrorClass.spec.name
        message := "Validation rule for '" ++ name.plain ++
          "' must be a ParamSpec, dict or bool, not " ++ found }
  | .malformed name (.fields faults) =>
    .listing faults <| .showing [name]
      { className := ErrorClass.spec.name
        message := "Invalid validation rule for '" ++ name.plain ++ "': "
        details := some ("ParamSpec", faults) }
  | .malformed _ (.pattern flaw) => .ofFlaw flaw

def ArgumentFault.report (called : Value) (fault : ArgumentFault) : Report :=
  match fault with
  | .overlong => { className := "OverflowError", message := fault.message "" }
  | .unwritten => .ofRaised .longNumber
  | _ =>
    .showing (called :: fault.shown)
      { className := ErrorClass.argument.name
        message := fault.message called.plain
        param := some fault.param }

namespace Failure

def report : Failure → Report
  | .spec fault => fault.report
  | .arguments called fault => fault.report called
  | .options combinator =>
    { className := ErrorClass.combinator.name
      message := combinator ++ " takes only names and predicates" }
  | .trailing =>
    { className := ErrorClass.combinator.name
      message := "validate takes only predicates after the spec" }
  | .noOption =>
    { className := "AttributeError"
      message := "'NoneType' object has no attribute 'matches'" }
  | .dependency => { className := ErrorClass.dependency.name, message := dependencyMessage }
  | .settings faults => .ofFaults "ValidateSettings" faults
  | .rule fault => fault.report
  | .pattern flaw => .ofFlaw flaw
  | .frozen owner member => .ofFaults owner [⟨[.text member], .frozen⟩]
  | .frozenPredicate member =>
    { className := "FrozenInstanceError"
      message := "cannot assign to field '" ++ member ++ "'" }
  | .raised e => .ofRaised e

end Failure

end ParamGate
