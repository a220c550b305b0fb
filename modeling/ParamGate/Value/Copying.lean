import ParamGate.Value.Basic

/-!
Which values can be copied by their contents. A read-only view stands for a mapping that it does not
own, so neither a view nor what holds one can be copied.
-/

namespace ParamGate.Value

mutual

def isCopyable : Value → Bool
  | .list vs | .tuple vs | .set vs => areCopyable vs
  | .map .readOnly _ => false
  | .map _ es => entriesCopyable es
  | .rule r => presetCopyable r.preset
  | _ => true

def areCopyable : List Value → Bool
  | [] => true
  | v :: vs => v.isCopyable && areCopyable vs

def entriesCopyable : List (Value × Value) → Bool
  | [] => true
  | (k, v) :: es => k.isCopyable && v.isCopyable && entriesCopyable es

def presetCopyable : Option Value → Bool
  | .none => true
  | .some v => v.isCopyable

end

end ParamGate.Value
