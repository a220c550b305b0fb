/-!
The classes that the host program may name in a rule, with the texts that show them.
-/

namespace ParamGate

inductive HostClass where
  | thing
  | child
  | falsy
  | caller
  | function
  | int
  | str
  | float
  | bool
  | bytes
  | list
  | tuple
  | dict
  | set
  | object
  | type
  | noneType
  | tag
  | rule
  | orderedDict
  | mapping
  | sequence
  | callable
deriving DecidableEq, Repr

namespace HostClass

def all : List HostClass :=
  [.thing, .child, .falsy, .caller, .function, .int, .str, .float, .bool, .bytes, .list, .tuple,
    .dict, .set, .object, .type, .noneType, .tag, .rule, .orderedDict, .mapping, .sequence,
    .callable]

def name : HostClass → String
  | .thing => "Thing"
  | .child => "Child"
  | .falsy => "Falsy"
  | .caller => "Caller"
  | .function => "Fn"
  | .int => "int"
  | .str => "str"
  | .float => "float"
  | .bool => "bool"
  | .bytes => "bytes"
  | .list => "list"
  | .tuple => "tuple"
  | .dict => "dict"
  | .set => "set"
  | .object => "object"
  | .type => "type"
  | .noneType => "NoneType"
  | .tag => "ParamType"
  | .rule => "ParamSpec"
  | .orderedDict => "OrderedDict"
  | .mapping => "Mapping"
  | .sequence => "Sequence"
  | .callable => "Callable"

def ofName? (s : String) : Option HostClass := all.find? (·.name = s)

def home : HostClass → String
  | .thing | .child | .falsy | .caller | .function => "driver."
  | .rule => "paramdeps.base.spec."
  | .orderedDict => "collections."
  | .mapping | .sequence | .callable => "collections.abc."
  | _ => ""

def text (c : HostClass) : String :=
  if c = .tag then "<flag 'ParamType'>" else "<class '" ++ c.home ++ c.name ++ "'>"

def className : HostClass → String
  | .rule => "ModelMetaclass"
  | .tag => "EnumType"
  | .mapping | .sequence | .callable => "ABCMeta"
  | _ => "type"

end HostClass

end ParamGate
