import ParamGate.Decimal.Shortest
import ParamGate.Value.Basic

/-!
The text of a value: as a literal, in which texts are quoted, and as plain text. A value that holds
a whole number too long to be written has neither.
-/

namespace ParamGate

namespace RuleOf

def optionChars {α : Type} (f : α → List Char) : Option α → List Char
  | none => "None".toList
  | some a => f a

def callbackChars : List (String × Callable) → List Char
  | [] => []
  | [(label, c)] => Text.Quoted.encode label.toList ++ ':' :: ' ' :: c.chars
  | (label, c) :: rest =>
    Text.Quoted.encode label.toList ++ ':' :: ' ' :: c.chars ++ ',' :: ' ' :: callbackChars rest

def boolChars (b : Bool) : List Char := if b then "True".toList else "False".toList

def fieldChars {α : Type} (r : RuleOf α) (preset : List Char) : List (List Char) :=
  ["type=".toList ++ optionChars (·.literal.toList) r.type,
    "optional=".toList ++ boolChars r.optional,
    "default=".toList ++ preset,
    "isa=".toList ++ optionChars (·.text.toList) r.isa,
    "regex=".toList ++ optionChars Pattern.chars r.regex,
    "callbacks=".toList ++ '{' :: callbackChars r.callbacks ++ ['}']]

end RuleOf

namespace Value

def rangeChars (start stop step : Int) : List Char :=
  let last := if step = 1 then [] else ',' :: ' ' :: Text.intDigits step
  "range(".toList ++ Text.intDigits start ++ ',' :: ' ' :: Text.intDigits stop ++ last ++ [')']

mutual

def chars : Value → List Char
  | .null => "None".toList
  | .bool b => RuleOf.boolChars b
  | .int n => Text.intDigits n
  | .tag t => t.literal.toList
  | .float x => x.chars
  | .text s => Text.Quoted.encode s.toList
  | .bytes bs => Text.Quoted.encodeBytes bs
  | .buffer bs => "bytearray(".toList ++ Text.Quoted.encodeBuffer bs ++ [')']
  | .list vs => '[' :: listChars vs ++ [']']
  | .tuple [v] => '(' :: v.chars ++ [',', ')']
  | .tuple vs => '(' :: listChars vs ++ [')']
  | .set [] => "set()".toList
  | .set vs => '{' :: listChars vs ++ ['}']
  | .range a b c => rangeChars a b c
  | .map .dict es => '{' :: entryChars es ++ ['}']
  | .map .ordered [] => "OrderedDict()".toList
  | .map .ordered es => "OrderedDict([".toList ++ pairChars es ++ [']', ')']
  | .map .readOnly es => "mappingproxy(".toList ++ '{' :: entryChars es ++ ['}', ')']
  | .pattern p => p.chars
  | .ofClass c => c.text.toList
  | .thing _ kind label => '<' :: kind.name.toList ++ ' ' :: label.toList ++ ['>']
  | .function f => f.chars
  | .predicate p => p.chars
  | .rule r =>
    "ParamSpec(".toList ++ [',', ' '].intercalate (r.fieldChars (presetChars r.preset)) ++ [')']

def listChars : List Value → List Char
  | [] => []
  | [v] => v.chars
  | v :: vs => v.chars ++ ',' :: ' ' :: listChars vs

def entryChars : List (Value × Value) → List Char
  | [] => []
  | [(k, v)] => k.chars ++ ':' :: ' ' :: v.chars
  | (k, v) :: es => k.chars ++ ':' :: ' ' :: v.chars ++ ',' :: ' ' :: entryChars es

def pairChars : List (Value × Value) → List Char
  | [] => []
  | [(k, v)] => '(' :: k.chars ++ ',' :: ' ' :: v.chars ++ [')']
  | (k, v) :: es => '(' :: k.chars ++ ',' :: ' ' :: v.chars ++ ')' :: ',' :: ' ' :: pairChars es

def presetChars : Option Value → List Char
  | .none => "None".toList
  | .some v => v.chars

end

mutual

/-- Whether a value has a text: every whole number in it can be written. -/
def hasText : Value → Bool
  | .int n => Text.isShort n
  | .tag t => Text.isShort t.bits
  | .list vs | .tuple vs | .set vs => allHaveText vs
  | .range a b c => Text.isShort a && Text.isShort b && Text.isShort c
  | .map _ es => entriesHaveText es
  | .rule r => r.type.all (Text.isShort ·.bits) && presetHasText r.preset
  | _ => true

def allHaveText : List Value → Bool
  | [] => true
  | v :: vs => v.hasText && allHaveText vs

def entriesHaveText : List (Value × Value) → Bool
  | [] => true
  | (k, v) :: es => k.hasText && v.hasText && entriesHaveText es

def presetHasText : Option Value → Bool
  | .none => true
  | .some v => v.hasText

end

def literal (v : Value) : String := String.ofList v.chars

/-- The plain text of a value: a text is its own, a tag's is its number, a read-only mapping's is
that of the mapping behind it, and a rule's has no name. -/
def plain : Value → String
  | .text s => s
  | .tag t => t.text
  | .map .readOnly es => (Value.map .dict es).literal
  | .rule r => String.ofList ([' '].intercalate (r.fieldChars (presetChars r.preset)))
  | v => v.literal

end Value

end ParamGate
