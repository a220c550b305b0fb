import ParamGate.Failure

/-!
The tag that a value stands for outside a rule: any whole number does, if there can be such a tag,
and a number of another type if it equals a tag that has a name.
-/

namespace ParamGate

def Tag.isNumberOfNamed (n : Int) : Bool := Tag.named.any fun p => (p.2.bits : Int) == n

def Value.toTag (v : Value) : Except Raised Tag :=
  let refused : Except Raised Tag :=
    .error (Raised.showing v ⟨.value, v.literal ++ " is not a valid ParamType"⟩)
  match v with
  | .tag t => .ok t
  | .int n =>
    match Tag.make? n with
    | some t => .ok t
    | none => .error .longNumber
  | .bool b => .ok (Tag.ofInt (if b then 1 else 0))
  | .float x =>
    match x.toInt? with
    | some n => if Tag.isNumberOfNamed n then .ok (Tag.ofInt n) else refused
    | none => refused
  | _ => refused

end ParamGate
