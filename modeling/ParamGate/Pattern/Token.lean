import ParamGate.Pattern.Flaw
import ParamGate.Pattern.Options

/-!
The tokens of a pattern's text, and readers over them: a token is a character, or a backslash with
the character after it. A reader knows how far it has come, so that a flaw can be placed.
-/

namespace ParamGate.Pattern

inductive Token where
  | plain (c : Char)
  | escaped (c : Char)
deriving DecidableEq, Repr

namespace Token

def chars : Token → List Char
  | .plain c => [c]
  | .escaped c => ['\\', c]

def text (t : Token) : String := String.ofList t.chars

def ofChars : List Char → List Token
  | [] | ['\\'] => []
  | '\\' :: c :: cs => .escaped c :: ofChars cs
  | c :: cs => .plain c :: ofChars cs

def endsOpen : List Char → Bool
  | [] => false
  | ['\\'] => true
  | '\\' :: _ :: cs => endsOpen cs
  | _ :: cs => endsOpen cs

end Token

/-- The state of a reader: the whole text, whether it ends in a lone backslash, the tokens left and
how many characters stand before them; the options in force, the groups opened so far, their names,
the widths of those that are closed, the groups that conditions ask for with their places, and the
first group of the enclosing look-behind. -/
structure Reading where
  source : List Char
  endsOpen : Bool
  rest : List Token
  offset : Nat := 0
  options : Options
  opened : Nat := 0
  names : List (String × Nat) := []
  closed : List (Nat × Width) := []
  asked : List (Nat × Nat) := []
  behindFrom : Option Nat := none

abbrev Reader := StateT Reading (Except Flaw)

namespace Reader

def fail {α : Type} (cause : Cause) (back : Nat) : Reader α := fun s =>
  .error (.malformed cause (some (.of s.source (s.offset - back))))

def failAt {α : Type} (cause : Cause) (offset : Nat) : Reader α := fun s =>
  .error (.malformed cause (some (.of s.source offset)))

def offset : Reader Nat := fun s => .ok (s.offset, s)

def options : Reader Options := fun s => .ok (s.options, s)

def letters : Reader Text.Letters := fun s => .ok (s.options.letters, s)

/-- The number of tokens left, which bounds every loop over them. -/
def remaining : Reader Nat := fun s => .ok (s.rest.length, s)

def peek : Reader (Option Token) := fun s => .ok (s.rest.head?, s)

def watchEnd : Reader Unit := do
  let s ← get
  if s.rest.isEmpty && s.endsOpen then fail .loneBackslash 0

def next : Reader (Option Token) := do
  let s ← get
  match s.rest with
  | [] => return none
  | t :: ts => do
    set { s with rest := ts, offset := s.offset + t.chars.length }
    watchEnd
    return some t

def take (c : Char) : Reader Bool := do
  if (← peek) == some (.plain c) then
    let _ ← next
    return true
  else return false

def takeWhile (p : Char → Bool) : Nat → Reader (List Char)
  | 0 => return []
  | limit + 1 => do
    match ← peek with
    | some (.plain c) =>
      if p c then
        let _ ← next
        return c :: (← takeWhile p limit)
      else return []
    | _ => return []

def upTo (stop : Char) (what : String) : Reader String := do
  let rec go : Nat → List Char → Reader (List Char)
    | 0, _ => fail (.noName what) 0
    | fuel + 1, taken => do
      match ← next with
      | none => if taken = [] then fail (.noName what) 0 else fail (.openName stop) taken.length
      | some t =>
        if t = .plain stop then
          if taken = [] then fail (.noName what) 1 else return taken
        else go fuel (taken ++ t.chars)
  return String.ofList (← go ((← remaining) + 1) [])

end Reader

end ParamGate.Pattern
