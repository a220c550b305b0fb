import ParamGate.Fault

/-!
Reading the value of a single field: as a truth value, a text, a class, a tag or a pattern. Each
reading accepts more than its own type and says what is wrong with the rest.
-/

namespace ParamGate

/-- A text, or why it is none; bytes are read as UTF-8 and a tag as its number. -/
def Value.asText : Value → Except Complaint String
  | .text s => .ok s
  | .bytes bs | .buffer bs =>
    match String.fromUTF8? (ByteArray.mk bs.toArray) with
    | some s => .ok s
    | none => .error .notUnicode
  | .tag t => if Text.isShort t.bits then .ok t.text else .error .longText
  | _ => .error .notText

namespace Truth

def falseWords : List String := ["0", "off", "f", "false", "n", "no"]

def trueWords : List String := ["1", "on", "t", "true", "y", "yes"]

/-- A word for a truth value, in any case of its ASCII letters; blanks are not trimmed. -/
def ofWord (s : String) : Except Complaint Bool :=
  let word := String.ofList (s.toList.map Char.toLower)
  if word ∈ falseWords then .ok false
  else if word ∈ trueWords then .ok true
  else .error .unclearTruth

/-- Zero or one; other numbers of 64 bits are unclear and larger ones no truth value at all. -/
def ofInt (n : Int) : Except Complaint Bool :=
  if n = 0 then .ok false
  else if n = 1 then .ok true
  else if isWord n then .error .unclearTruth
  else .error .notTruth

/-- As for whole numbers, but the least number of 64 bits counts as too large. -/
def ofDouble (x : Double) : Except Complaint Bool :=
  match x.toInt? with
  | some n => if isWord (n - 1) then ofInt n else .error .notTruth
  | none => .error .notTruth

end Truth

def Value.asTruth (v : Value) : Except Complaint Bool :=
  match v with
  | .bool b => .ok b
  | .int n => Truth.ofInt n
  | .tag t => Truth.ofInt t.bits
  | .float x => Truth.ofDouble x
  | .text s => Truth.ofWord s
  | .bytes _ =>
    match v.asText with
    | .ok s => Truth.ofWord s
    | .error _ => .error .unclearTruth
  | _ => .error .notTruth

/-- A tag or no restriction; a number is read as a tag, but a truth value is not. -/
def Value.asTag : Value → Except Complaint (Option Tag)
  | .null => .ok none
  | .tag t => .ok (some t)
  | .int n =>
    match Tag.make? n with
    | some t => .ok (some t)
    | none => .error .longTag
  | v => .error (.notTag v)

def Value.asClass : Value → Except Complaint (Option HostClass)
  | .null => .ok none
  | .ofClass c => .ok (some c)
  | _ => .error .notClass

/-- A pattern or none; a text is read as a pattern. -/
def Value.asPattern : Value → Except Complaint (Option Pattern)
  | .null => .ok none
  | .pattern p => .ok (some p)
  | .text s =>
    match Pattern.read s {} with
    | .ok p => .ok (some p)
    | .error flaw => .error (.badPattern flaw)
  | .bytes _ => .error .bytesPattern
  | _ => .error .notPattern

def Value.asCallable (v : Value) : Except Complaint Callable :=
  match v.callable? with
  | some c => .ok c
  | none => .error .notCallable

end ParamGate
