import ParamGate.Arguments
import ParamGate.Rule.Check
import ParamGate.Rule.Spec

/-!
Validating the parameters of a call one by one: no name without a rule, no mandatory name missing,
and every value supplied meets its rule. The result is what was supplied, then the defaults of what
was not, in the order of the spec.
-/

namespace ParamGate

variable {σ : Type}

namespace Spec

/-- The texts of the names without a rule, in ascending order of code points. -/
def unlisted (spec : Spec) (params : Entries) : List String :=
  ((params.filter fun p => !spec.lists p.1).map fun p => p.1.plain).mergeSort (· ≤ ·)

/-- The names that must be given and are not, in the order of the spec. -/
def missing (spec : Spec) (params : Entries) : List Value :=
  (spec.filter fun p => !Entries.contains params p.1 && !p.2.isOptional).map (·.1)

/-- The fault of the names without a rule. They are listed if all of them have texts. -/
def unlistedFault (spec : Spec) (params : Entries) : ArgumentFault :=
  if params.all fun p => spec.lists p.1 || p.1.hasText then .unlisted (spec.unlisted params)
  else .unwritten

def nameFault? (spec : Spec) (allowExtra : Bool) (params : Entries) : Option ArgumentFault :=
  let extra := if allowExtra then [] else spec.unlisted params
  let absent := spec.missing params
  if extra ≠ [] then some (spec.unlistedFault params)
  else if absent ≠ [] then some (.missing absent)
  else none

/-- Checks the parameters rule by rule. Each value is looked up when its turn comes, so a callback
may change what the later rules see. -/
def checkValues (host : Host σ) (called : Value) : Spec → EStateM Failure (Stage σ) Unit
  | [] => pure ()
  | (name, rule) :: rest => do
    match Entries.find? (← get).params name with
    | none => checkValues host called rest
    | some v =>
      match ← raisedAs (rule.fault? host v) with
      | some f => throw (.arguments called (.check name v f))
      | none => checkValues host called rest

def fillDefaults (spec : Spec) (params : Entries) : Entries :=
  spec.foldl (fun es p =>
    match p.2.preset with
    | some d => if Entries.contains es p.1 then es else Entries.put es p.1 d
    | none => es) params

end Spec

def orFail {ε α τ : Type} (f : ε → Failure) : Except ε α → EStateM Failure τ α
  | .ok a => pure a
  | .error e => throw (f e)

/-- A new mapping of the arguments of the call, as they are at this moment. -/
def World.params (called : Value) : EStateM Failure (World σ) Entries := fun w =>
  orFail (.arguments called) (Arguments.params w.args) w

/-- The settings given, or those of the process: read from the environment once and then kept. A
failed reading keeps nothing. -/
def World.settings : Option Settings → EStateM Failure (World σ) Settings
  | some s => pure s
  | none => fun w =>
    match w.cached with
    | some s => .ok s w
    | none =>
      match Settings.build w.environment [] with
      | .ok s => .ok s { w with cached := some s }
      | .error faults => .error (.settings faults) w

def validateUnder (host : Host σ) (settings : Settings) (called : Value) (spec : Value) :
    EStateM Failure (World σ) Entries := do
  let rules ← orFail .spec (Spec.ofValue spec)
  let params ← World.params called
  if settings.noValidation then
    World.log (.checksDisabled called)
    return rules.fillDefaults params
  else
    match rules.nameFault? settings.allowExtra params with
    | some f => throw (.arguments called f)
    | none =>
      let (_, params) ← World.onStage params (rules.checkValues host called)
      return rules.fillDefaults params

def validateParams (host : Host σ) (args spec called : Value) (settings : Option Settings) :
    EStateM Failure (World σ) Entries := do
  World.receive args
  let settings ← World.settings settings
  validateUnder host settings (Arguments.caller called settings) spec

end ParamGate
