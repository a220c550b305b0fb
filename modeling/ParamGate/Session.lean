import ParamGate.Gate

/-!
Sessions: steps that share an environment and the settings kept from it. The settings are read
when a step first needs them and stay until they are dropped, whatever becomes of the environment.
-/

namespace ParamGate

variable {σ : Type} {ε : Type}

/-- Attributes whose names start with an underscore are no part of a rule or of settings. -/
def isPrivate (member : String) : Bool := member.toList.head? == some '_'

namespace World

def setVariable (name : String) (text : Option String) : EStateM ε (World σ) Unit := fun w =>
  .ok () { w with
    environment := match text with
      | some t => w.environment.set name t
      | none => w.environment.unset name }

def dropSettings : EStateM ε (World σ) Unit := fun w => .ok () { w with cached := none }

def assignSetting (member : String) : EStateM Failure (World σ) Unit := do
  let _ ← settings none
  if isPrivate member then pure () else throw (.frozen "ValidateSettings" member)

end World

def Value.assign (v : Value) (member : String) : Except Failure Unit :=
  match v with
  | .rule _ => if isPrivate member then .ok () else .error (.frozen "ParamSpec" member)
  | .predicate _ => .error (.frozenPredicate member)
  | _ => .ok ()

inductive Step where
  | setVariable (name : String) (text : Option String)
  | dropSettings
  | readSettings
  | validateParams (args spec called : Value) (settings : Option Settings)
  | validate (args spec : Value) (trailing : List Value) (called : Value)
      (settings : Option Settings)

namespace Step

/-- Takes a step; whether it fails is part of the session and does not end it. -/
def perform (host : Host σ) : Step → EStateM Failure (World σ) Unit
  | .setVariable name text => World.setVariable name text
  | .dropSettings => World.dropSettings
  | .readSettings => do let _ ← World.settings none
  | .validateParams args spec called settings => do
    let _ ← ParamGate.validateParams host args spec called settings
  | .validate args spec trailing called settings =>
    ParamGate.validate host args spec trailing called settings

def after (host : Host σ) (s : Step) (w : World σ) : World σ :=
  match s.perform host w with
  | .ok _ w => w
  | .error _ w => w

def afterAll (host : Host σ) (w : World σ) : List Step → World σ
  | [] => w
  | s :: ss => afterAll host (s.after host w) ss

theorem afterAll_append (host : Host σ) (w : World σ) (xs ys : List Step) :
    afterAll host w (xs ++ ys) = afterAll host (afterAll host w xs) ys := by
  induction xs generalizing w with
  | nil => rfl
  | cons x xs ih => exact ih (x.after host w)

end Step

end ParamGate
