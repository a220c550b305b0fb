/-!
The classes of the errors that a call may end with: the library's own, all under one root, and those
of the host program's functions.
-/

namespace ParamGate

inductive ErrorClass where
  | root
  | combinator
  | spec
  | argument
  | dependency
  | value
  | key
  | type
  | runtime
  | stopIteration
deriving DecidableEq, Repr

namespace ErrorClass

def ancestry : ErrorClass → List String
  | .root => ["ParamsError", "Exception", "BaseException", "object"]
  | .combinator =>
    ["CombinatorSpecError", "ParamsError", "TypeError", "Exception", "BaseException", "object"]
  | .spec => ["ParamSpecError", "ParamsError", "TypeError", "Exception", "BaseException", "object"]
  | .argument =>
    ["ParamsValidationError", "ParamsError", "ValueError", "Exception", "BaseException", "object"]
  | .dependency =>
    ["DependencyValidationError", "ParamsError", "ValueError", "Exception", "BaseException",
      "object"]
  | .value => ["ValueError", "Exception", "BaseException", "object"]
  | .key => ["KeyError", "LookupError", "Exception", "BaseException", "object"]
  | .type => ["TypeError", "Exception", "BaseException", "object"]
  | .runtime => ["RuntimeError", "Exception", "BaseException", "object"]
  | .stopIteration => ["StopIteration", "Exception", "BaseException", "object"]

def name (c : ErrorClass) : String := c.ancestry.headD ""

def all : List ErrorClass :=
  [.root, .combinator, .spec, .argument, .dependency, .value, .key, .type, .runtime,
    .stopIteration]

def ofName? (s : String) : Option ErrorClass := all.find? (·.name = s)

end ErrorClass

end ParamGate
