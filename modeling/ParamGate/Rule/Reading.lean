import ParamGate.Coercion
import ParamGate.Failure
import ParamGate.Value.Entries

/-!
Reading a rule from a mapping of fields. Every fault is reported: those of the known fields in
declared order, whatever the order given, then one for every key that names no field. A rule is
read iff there is none. A pattern that passes a limit ends the reading before any report.
-/

namespace ParamGate

def Callbacks.readKey (k : Value) : Collected String :=
  match k.asText with
  | .ok s => .ok s
  | .error c => .error [⟨[.text Field.callbacks.name, k.pathItem, .text "[key]"], c⟩]

def Callbacks.readValue (k v : Value) : Collected Callable :=
  match v.asCallable with
  | .ok c => .ok c
  | .error c => .error [⟨[.text Field.callbacks.name, k.pathItem], c⟩]

/-- A label that is there already keeps its place and takes the later callback. -/
def Callbacks.put : List (String × Callable) → String → Callable → List (String × Callable)
  | [], label, c => [(label, c)]
  | (l, d) :: rest, label, c => if l = label then (l, c) :: rest else (l, d) :: put rest label c

/-- Reads entry by entry, the key of each before its value. -/
def Callbacks.readEntries : Entries → Collected (List (String × Callable))
  | [] => .ok []
  | (k, v) :: es =>
    .both (.both (.both (.ok fun label c rest => (label, c) :: rest) (readKey k)) (readValue k v))
      (readEntries es)

def Callbacks.read (v : Value) : Collected (List (String × Callable)) :=
  match v.entries? with
  | some es => (readEntries es).map fun pairs => pairs.foldl (fun cs p => put cs p.1 p.2) []
  | none => .error [⟨[.text Field.callbacks.name], .notMapping⟩]

namespace Rule

def given? (es : Entries) (f : Field) : Option Value := Entries.find? es (.text f.name)

def readField {α : Type} (es : Entries) (f : Field) (default : α)
    (read : Value → Except Complaint α) : Collected α :=
  match given? es f with
  | none => .ok default
  | some v =>
    match read v with
    | .ok a => .ok a
    | .error c => .error [⟨[.text f.name], c⟩]

def readCallbacks (es : Entries) : Collected (List (String × Callable)) :=
  match given? es .callbacks with
  | none => .ok []
  | some v => Callbacks.read v

def strangerFault? : Value → Option Fault
  | .text s => if (Field.ofName? s).isSome then none else some ⟨[.text s], .unknownField⟩
  | k => some ⟨[k.pathItem], .keyNotText⟩

def strangerFaults (es : Entries) : List Fault := es.filterMap fun p => strangerFault? p.1

def givenFields (es : Entries) : List Field := Field.all.filter fun f => (given? es f).isSome

/-- The rule that a mapping of fields denotes, or everything that is wrong with it. -/
def collect (es : Entries) : Collected Rule :=
  let build type optional isa regex callbacks _ : Rule :=
    { type, optional, preset := given? es .default, isa, regex, callbacks, given := givenFields es }
  .both (.both (.both (.both (.both (.both (.ok build)
    (readField es .type none Value.asTag))
    (readField es .optional false Value.asTruth))
    (readField es .isa none Value.asClass))
    (readField es .regex none Value.asPattern))
    (readCallbacks es))
    (.guard (strangerFaults es))

/-- A flaw of the pattern that ends the reading, whatever else is wrong. -/
def fatalFlaw? (es : Entries) : Option Pattern.Flaw :=
  (given? es .regex).bind fun v =>
    match v.asPattern with
    | .error (.badPattern flaw) => if flaw.isFatal then some flaw else none
    | _ => none

def ofEntries (es : Entries) : Except RuleFault Rule :=
  match fatalFlaw? es with
  | some flaw => .error (.pattern flaw)
  | none =>
    match collect es with
    | .ok r => .ok r
    | .error faults => .error (.fields faults)

/-- The rule that only says whether the parameter must be given. -/
def mandatory (b : Bool) : Rule := { optional := !b, given := [.optional] }

end Rule

end ParamGate
