import ParamGate.Pattern.Escape

/-!
Sets between brackets: how they are read, and which characters are in them. When case does not
count and a member has case, a character is looked for in lower case. Members up to U+FFFF are
then taken in every spelling; one beyond is compared as it is written, and a range that reaches
beyond is also searched for the upper case of the character.
-/

namespace ParamGate.Pattern

open Reader
open Text (Letters)

def setMember (t : Token) : Reader Item :=
  match t with
  | .plain c => return .one c.toNat
  | .escaped c => setEscape c

/-- The members of a set up to its closing bracket, which counts as a member in first place. The set
began at `start`. -/
def setItems (start : Nat) : Nat → List Item → Reader (List Item)
  | 0, _ => failAt .openSet start
  | fuel + 1, items => do
    match ← next with
    | none => failAt .openSet start
    | some t =>
      if t = .plain ']' ∧ items ≠ [] then return items.reverse
      let low ← setMember t
      if ← take '-' then
        match ← next with
        | none => failAt .openSet start
        | some u =>
          if u = .plain ']' then return (.one 45 :: low :: items).reverse
          let high ← setMember u
          let bad := fail (.badRange t.text u.text) (t.chars.length + 1 + u.chars.length)
          match low, high with
          | .one first, .one last =>
            if last < first then bad else setItems start fuel (.range first last :: items)
          | _, _ => bad
      else setItems start fuel (low :: items)

/-- A set, the opening bracket being read already; one that lists a single character is that
character. -/
def readSet : Reader Node := do
  let start := (← offset) - 1
  let negated ← take '^'
  let items ← setItems start ((← remaining) + 1) []
  match items.eraseDups with
  | [.one code] => return .char (← letters) negated code
  | items => return .set (← letters) negated items

def CharKind.contains (ls : Letters) (n : Nat) : CharKind → Bool
  | .digit => ls.isDigit n
  | .word => ls.isWord n
  | .blank => ls.isBlank n

namespace Item

def holds (ls : Letters) (n : Nat) : Item → Bool
  | .one code => code == n
  | .range first last => first ≤ n && n ≤ last
  | .kind k negated => k.contains ls n != negated

/-- The last code point that is taken in every spelling. -/
def lastFolded : Nat := 0xffff

def holdsLower (ls : Letters) (l : Nat) : Item → Bool
  | .one code =>
    if code ≤ lastFolded then (ls.alike (ls.lower code)).contains l else code == l
  | .range first last =>
    (ls.spellings l).any (fun n => first ≤ n && n ≤ min last lastFolded) ||
      (lastFolded < last &&
        ((first ≤ l && l ≤ last) || (first ≤ Text.upperCase l && Text.upperCase l ≤ last)))
  | .kind k negated => k.contains ls l != negated

def isCased (ls : Letters) : Item → Bool
  | .one code => ls.isCased code
  | .range first last => lastFolded < last || ls.casedBetween first last
  | .kind .. => false

def isFar : Item → Bool
  | .one code => lastFolded < code
  | _ => false

end Item

def setContains (ls : Letters) (items : List Item) (n : Nat) : Bool :=
  if ls.ignoreCase && items.any fun i => i.isCased ls || i.isFar then
    items.any (·.holdsLower ls (ls.lower n))
  else items.any (·.holds ls n)

end ParamGate.Pattern
