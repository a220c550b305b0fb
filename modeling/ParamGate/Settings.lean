import ParamGate.Coercion
import ParamGate.Failure

/-!
The settings of a validation. Each field is resolved on its own: from a keyword, else from the
environment, else from its default; a source that is passed over can do no harm, however invalid.
-/

namespace ParamGate

/-- Whether names without a rule pass, whether all checks of parameters are skipped, and the name of
the caller in messages when none is given. -/
structure Settings where
  allowExtra : Bool := false
  noValidation : Bool := false
  called : String := "N/A"
deriving DecidableEq, Repr

abbrev Environment := List (String × String)

namespace Environment

def set : Environment → String → String → Environment
  | [], name, text => [(name, text)]
  | (n, t) :: env, name, text =>
    if n = name then (n, text) :: env else (n, t) :: set env name text

def unset (env : Environment) (name : String) : Environment := env.filter fun p => p.1 != name

def lower (s : String) : String := String.ofList (s.toList.map Char.toLower)

/-- The text of a variable, whatever the case of its name; the latest of several. -/
def text? (env : Environment) (name : String) : Option String :=
  (env.reverse.find? fun p => lower p.1 == lower name).map (·.2)

end Environment

namespace Settings

inductive Field where
  | allowExtra
  | noValidation
  | called
deriving DecidableEq, Repr

namespace Field

def all : List Field := [.allowExtra, .noValidation, .called]

def name : Field → String
  | .allowExtra => "allow_extra"
  | .noValidation => "no_validation"
  | .called => "called"

def variableName (f : Field) : String := "paramdeps_" ++ f.name

def ofKeyword? (s : String) : Option Field := all.find? fun f => f.name == Environment.lower s

end Field

abbrev Keywords := List (String × Value)

namespace Keywords

def put : Keywords → String → Value → Keywords
  | [], name, v => [(name, v)]
  | (n, w) :: rest, name, v => if n = name then (n, v) :: rest else (n, w) :: put rest name v

def ofPairs (pairs : List (String × Value)) : Keywords :=
  pairs.foldl (fun kwargs p => kwargs.put p.1 p.2) []

end Keywords

/-- The value of a keyword: under the field's exact name, else under its name in another case. -/
def keyword? (kwargs : Keywords) (f : Field) : Option Value :=
  match kwargs.find? fun p => p.1 == f.name with
  | some p => some p.2
  | none => (kwargs.find? fun p => Field.ofKeyword? p.1 == some f).map (·.2)

def source? (env : Environment) (kwargs : Keywords) (f : Field) : Option Value :=
  match keyword? kwargs f with
  | some v => some v
  | none => (env.text? f.variableName).map .text

def readField {α : Type} (env : Environment) (kwargs : Keywords) (f : Field) (default : α)
    (read : Value → Except Complaint α) : Collected α :=
  match source? env kwargs f with
  | none => .ok default
  | some v =>
    match read v with
    | .ok a => .ok a
    | .error c => .error [⟨[.text f.name], c⟩]

def strangerFaults (kwargs : Keywords) : List Fault :=
  kwargs.filterMap fun p =>
    if (Field.ofKeyword? p.1).isSome then none else some ⟨[.text p.1], .unknownField⟩

/-- The settings that an environment and keywords denote, or everything that is wrong with them. -/
def build (env : Environment) (kwargs : Keywords) : Collected Settings :=
  let make allowExtra noValidation called _ : Settings := { allowExtra, noValidation, called }
  .both (.both (.both (.both (.ok make)
    (readField env kwargs .allowExtra false Value.asTruth))
    (readField env kwargs .noValidation false Value.asTruth))
    (readField env kwargs .called "N/A" Value.asText))
    (.guard (strangerFaults kwargs))

/-- New settings, or why there are none: what is wrong, or a text that is due and cannot be made. -/
def create (env : Environment) (kwargs : Keywords) : Except Failure Settings :=
  match build env kwargs with
  | .ok s => .ok s
  | .error faults =>
    .error (if faults.all (·.complaint.isListed) then .settings faults else .raised .longNumber)

end Settings

end ParamGate
