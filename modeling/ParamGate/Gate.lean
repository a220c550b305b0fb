import ParamGate.Predicate.Combinators
import ParamGate.Predicate.Evaluation
import ParamGate.Validation

/-!
A call is let through in two steps: its parameters one by one, then the predicates over all. The
predicates see what the caller passed and nothing else: no default, and nothing that a callback
wrote, in a mapping that they cannot change.
-/

namespace ParamGate

variable {σ : Type}

def readPredicates : List Value → Option (List Condition)
  | [] => some []
  | v :: vs =>
    match v.condition? with
    | none => none
    | some c => (readPredicates vs).map (c :: ·)

/-- Evaluates predicates in order, from an index on, all of them on the same mapping. The first that
does not hold ends the call and is named in the log alone. -/
def checkPredicates (host : Host σ) (called : Value) :
    Nat → List Condition → EStateM Failure (Stage σ) Unit
  | _, [] => pure ()
  | index, c :: cs => do
    if ← raisedAs (c.eval host .readOnly) then checkPredicates host called (index + 1) cs
    else
      Stage.log (.dependencyFailed index called c)
      throw .dependency

def validate (host : Host σ) (args spec : Value) (trailing : List Value) (called : Value)
    (settings : Option Settings) : EStateM Failure (World σ) Unit := do
  World.receive args
  match readPredicates trailing with
  | none => throw .trailing
  | some predicates =>
    let settings ← World.settings settings
    let caller := Arguments.caller called settings
    let _ ← validateParams host args spec caller (some settings)
    let params ← World.params caller
    let _ ← World.onStage params (checkPredicates host caller 0 predicates)

end ParamGate
