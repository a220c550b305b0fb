import ParamGate.Pattern.Token
import ParamGate.Text.CharName

/-!
Escapes: a backslash with a letter, digits or punctuation after it stands for a class of
characters, a position, a single character or a group that has matched.
-/

namespace ParamGate.Pattern

open Reader

def digitValue (c : Char) : Nat :=
  if c.isDigit then c.toNat - 48 else if c.isLower then c.toNat - 87 else c.toNat - 55

def numberOf (base : Nat) (cs : List Char) : Nat := cs.foldl (fun n c => base * n + digitValue c) 0

def isHexDigit (c : Char) : Bool := c.isDigit || ('a' ≤ c && c ≤ 'f') || ('A' ≤ c && c ≤ 'F')

def isOctalDigit (c : Char) : Bool := '0' ≤ c && c ≤ '7'

def escapeText (c : Char) (more : List Char) : String := String.ofList ('\\' :: c :: more)

def hexCode (c : Char) (count : Nat) : Reader Nat := do
  let ds ← takeWhile isHexDigit count
  let code := numberOf 16 ds
  if ds.length < count then fail (.shortEscape (escapeText c ds)) (ds.length + 2)
  else if 0x7fffffff < code then throw .hugeCode
  else if 0x10ffff < code then fail (.badEscape (escapeText c ds)) (ds.length + 2)
  else return code

def octalCode (c : Char) (more : List Char) : Reader Nat := do
  let code := numberOf 8 (c :: more)
  if 0o377 < code then fail (.highOctal (escapeText c more)) (more.length + 2) else return code

def controlEscape? : Char → Option Nat
  | 'a' => some 7
  | 'f' => some 12
  | 'n' => some 10
  | 'r' => some 13
  | 't' => some 9
  | 'v' => some 11
  | '\\' => some 92
  | _ => none

def kindEscape? : Char → Option Item
  | 'd' => some (.kind .digit false)
  | 'D' => some (.kind .digit true)
  | 'w' => some (.kind .word false)
  | 'W' => some (.kind .word true)
  | 's' => some (.kind .blank false)
  | 'S' => some (.kind .blank true)
  | _ => none

def namedCode : Reader Nat := do
  unless ← take '\x7b' do fail .noBrace 0
  let name ← upTo '\x7d' "character name"
  match Text.codeOfName? name with
  | some code => return code
  | none => fail (.unknownCharacter name) (name.length + 4)

def codeEscape? (c : Char) : Option (Reader Nat) :=
  match c with
  | 'N' => some namedCode
  | 'x' => some (hexCode c 2)
  | 'u' => some (hexCode c 4)
  | 'U' => some (hexCode c 8)
  | _ => none

/-- A group in a look-behind must be closed, and outside it. -/
def checkBehind (index : Nat) : Reader Unit := do
  let s ← get
  match s.behindFrom with
  | none => return ()
  | some first =>
    if !s.closed.any (·.1 == index) then fail .openGroup 0
    else if first ≤ index then fail .groupInLookBehind 0

/-- A reference to a closed group by its number, whose digits are read already. -/
def reference (digits : List Char) : Reader Node := do
  let s ← get
  let index := numberOf 10 digits
  if s.opened < index then fail (.noGroup index) digits.length
  else if !s.closed.any (·.1 == index) then fail .openGroup (digits.length + 1)
  else
    checkBehind index
    return .backref s.options.letters index

/-- After a backslash and a digit other than zero: three octal digits, or a group's number. -/
def numberEscape (c : Char) : Reader Node := do
  match ← peek with
  | some (.plain d) =>
    if d.isDigit then
      let _ ← next
      match ← peek with
      | some (.plain e) =>
        if isOctalDigit c && isOctalDigit d && isOctalDigit e then
          let _ ← next
          return .char (← letters) false (← octalCode c [d, e])
        else reference [c, d]
      | _ => reference [c, d]
    else reference [c]
  | _ => reference [c]

def escape (c : Char) : Reader Node := do
  let ls ← letters
  if c = 'A' then return .textStart
  else if c = 'Z' then return .textEnd
  else if c = 'b' then return .boundary ls false
  else if c = 'B' then return .boundary ls true
  else if let some item := kindEscape? c then return .set ls false [item]
  else if let some code := controlEscape? c then return .char ls false code
  else if let some code := codeEscape? c then return .char ls false (← code)
  else if c = '0' then return .char ls false (numberOf 8 (← takeWhile isOctalDigit 2))
  else if c.isDigit then numberEscape c
  else if c.isAlpha then fail (.badEscape (escapeText c [])) 2
  else return .char ls false c.toNat

def setEscape (c : Char) : Reader Item := do
  if let some item := kindEscape? c then return item
  else if c = 'b' then return .one 8
  else if let some code := controlEscape? c then return .one code
  else if let some code := codeEscape? c then return .one (← code)
  else if isOctalDigit c then return .one (← octalCode c (← takeWhile isOctalDigit 2))
  else if c.isDigit || c.isAlpha then fail (.badEscape (escapeText c [])) 2
  else return .one c.toNat

end ParamGate.Pattern
