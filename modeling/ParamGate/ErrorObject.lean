import ParamGate.Failure
import ParamGate.Value.Copying

/-!
Errors as objects: made from arguments, shown as text, and made again from what they keep. The two
classes with arguments of their own refuse or replace what they are given.
-/

namespace ParamGate

structure ErrorObject where
  cls : ErrorClass
  args : List Value
  param : Option Value

namespace ErrorObject

def arityMessage (count : Nat) (keyword : Bool) : String :=
  let given :=
    if keyword then
      Text.natText (count + 1) ++ " positional arguments (and 1 keyword-only argument) were given"
    else Text.natText (count + 1) ++ " were given"
  if count = 0 then
    "ParamsValidationError.__init__() missing 1 required positional argument: 'message'"
  else "ParamsValidationError.__init__() takes 2 positional arguments but " ++ given

def make (cls : ErrorClass) (args : List Value) (param : Option Value) :
    Except Raised ErrorObject :=
  match cls, args, param with
  | .argument, [message], _ => .ok ⟨cls, [message], some (param.getD .null)⟩
  | .argument, _, _ => .error ⟨.type, arityMessage args.length param.isSome⟩
  | .dependency, _, none => .ok ⟨cls, [.text dependencyMessage], none⟩
  | .dependency, _, some _ =>
    .error ⟨.type,
      "DependencyValidationError.__init__() got an unexpected keyword argument 'param'"⟩
  | _, _, none => .ok ⟨cls, args, none⟩
  | _, _, some _ => .error ⟨.type, cls.name ++ "() takes no keyword arguments"⟩

/-- No argument shows nothing, one shows itself, more show as a tuple; there may be no such text. -/
def text? (e : ErrorObject) : Option String :=
  if Value.allHaveText e.args then
    match e.args with
    | [] => some ""
    | [v] => some v.plain
    | vs => some (Value.tuple vs).literal
  else none

def isCopyable (e : ErrorObject) : Bool :=
  Value.areCopyable e.args && Value.presetCopyable e.param

def remake (e : ErrorObject) : Except Raised ErrorObject :=
  if e.isCopyable then
    match make e.cls e.args none with
    | .ok f => .ok { f with param := e.param }
    | .error r => .error r
  else .error ⟨.type, "cannot pickle 'mappingproxy' object"⟩

theorem remake_make {cls : ErrorClass} {args : List Value} {param : Option Value}
    {e : ErrorObject} (h : make cls args param = .ok e) (hc : e.isCopyable = true) :
    e.remake = .ok e := by
  unfold remake
  rw [if_pos hc]
  unfold make at h
  split at h
  · cases h; rfl
  · cases h
  · cases h; rfl
  · cases h
  · cases h
    cases cls <;> simp_all [make]
  · cases h

end ErrorObject

end ParamGate
