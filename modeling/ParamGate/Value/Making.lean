import ParamGate.Failure
import ParamGate.Text.Hex

/-!
Values made from parts that may not fit: numbers and bytes from text, ranges, patterns. What does
not fit is an error of the maker.
-/

namespace ParamGate.Value

def ofNumeral (identity : Nat) (s : String) : Except Raised Value :=
  match Double.ofText? identity s with
  | some x => .ok (.float x)
  | none => .error ⟨.value, "could not convert string to float: " ++ (Value.text s).literal⟩

def bytesOfHex (s : String) : Except Raised (List UInt8) :=
  match Text.bytesOfHex s with
  | .ok bs => .ok bs
  | .error offset =>
    .error ⟨.value, "non-hexadecimal number found in fromhex() arg at position " ++
      Text.natText offset⟩

def ofRange (start stop step : Int) : Except Raised Value :=
  if step = 0 then .error ⟨.value, "range() arg 3 must not be zero"⟩
  else .ok (.range start stop step)

def ofPattern (source : String) (options : Pattern.Options) : Except Failure Value :=
  match Pattern.read source options with
  | .ok p => .ok (.pattern p)
  | .error flaw => .error (.pattern flaw)

end ParamGate.Value
