import ParamGate.Failure
import ParamGate.Predicate.Combinators

/-!
The names that the host program may import, in tiers: the base, the combinators, and all of them.
-/

namespace ParamGate.Exports

def version : String := "1.0.0"

def typeTags : List String := Tag.named.map (·.1)

def errors : List String :=
  [ErrorClass.root, .combinator, .spec, .argument, .dependency].map ErrorClass.name

def base : List String := typeTags ++ ["ParamType", "ParamSpec", "validate_params"] ++ errors

def combinators : List String := Combinator.all.map Combinator.name

def default : List String := base ++ ["validate"] ++ combinators

def byTag : List (String × List String) :=
  [("all", default), ("of", combinators), ("types", typeTags)]

def ofModule? : String → Option (List String)
  | "paramdeps" => some default
  | "paramdeps.combinators" => some combinators
  | "paramdeps.base" =>
    some ["ARRAYREF", "BOOLEAN", "CODEREF", "HASHREF", "OBJECT", "SCALAR", "UNDEF", "ParamSpec",
      "ParamType", "validate_params"]
  | "paramdeps.config" => some ["ValidateSettings", "configure_logging", "get_settings"]
  | _ => none

def boundBy? (name : String) : Option (List String) :=
  (ofModule? name).map fun names => names.mergeSort (· ≤ ·)

end ParamGate.Exports
