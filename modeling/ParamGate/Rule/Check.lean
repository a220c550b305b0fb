import ParamGate.Host

/-!
Checking a value against its rule: its kind, its class, its text, then the callbacks in the order
given. The first check that fails is the one reported. The callbacks are handed the parameters as
they stand and may change them.
-/

namespace ParamGate.Rule

variable {σ : Type}

/-- The first of the checks without callbacks that a value does not pass. A value without a text
passes no pattern. -/
def staticFault? (r : Rule) (v : Value) : Option CheckFault :=
  let kind := r.type.bind fun t => if t.accepts v.kind then none else some (.kind v.kind t)
  let isa := r.isa.bind fun c => if v.isInstance c then none else some (.isa c)
  let regex := r.regex.bind fun p =>
    match v with
    | .null => some .regex
    | v => if v.hasText && p.search v.plain then none else some .regex
  kind <|> isa <|> regex

/-- Runs callbacks up to the first that answers something false, whose label is the result. -/
def failingCallback (host : Host σ) (v : Value) :
    List (String × Callable) → EStateM Raised (Stage σ) (Option String)
  | [] => pure none
  | (label, c) :: rest => do
    if (← Stage.check host c v).truthy then failingCallback host v rest else return some label

def fault? (host : Host σ) (r : Rule) (v : Value) :
    EStateM Raised (Stage σ) (Option CheckFault) :=
  match r.staticFault? v with
  | some f => pure (some f)
  | none => do return (← failingCallback host v r.callbacks).map .callback

end ParamGate.Rule
