import ParamGate.Text.CharClass
import ParamGate.Text.LetterCase

/-!
How characters are classed and told apart: by all of Unicode or by ASCII alone, with or without
regard to case. Without it, characters are compared in lower case.
-/

namespace ParamGate.Text

/-- Whether ASCII alone counts, and whether case does not. -/
structure Letters where
  ascii : Bool := false
  ignoreCase : Bool := false
deriving DecidableEq, Repr

namespace Letters

def isAsciiLetter (n : Nat) : Bool := (65 ≤ n && n ≤ 90) || (97 ≤ n && n ≤ 122)

def asciiLower (n : Nat) : Nat := if 65 ≤ n ∧ n ≤ 90 then n + 32 else n

def isDigit (ls : Letters) (n : Nat) : Bool :=
  if ls.ascii then 48 ≤ n && n ≤ 57 else isDecimalDigit n

def isWord (ls : Letters) (n : Nat) : Bool :=
  if ls.ascii then isAsciiLetter n || (48 ≤ n && n ≤ 57) || n == 95 else isWordChar n

def isBlank (ls : Letters) (n : Nat) : Bool :=
  if ls.ascii then n == 32 || (9 ≤ n && n ≤ 13) else Text.isBlank n

def lower (ls : Letters) (n : Nat) : Nat := if ls.ascii then asciiLower n else lowerCase n

def isCased (ls : Letters) (n : Nat) : Bool :=
  if ls.ascii then isAsciiLetter n else Text.isCased n

def casedBetween (ls : Letters) (low high : Nat) : Bool :=
  if ls.ascii then (low ≤ 90 && 65 ≤ high) || (low ≤ 122 && 97 ≤ high)
  else Text.casedBetween low high

def alike (ls : Letters) (l : Nat) : List Nat := if ls.ascii then [l] else Text.alike l

def spellings (ls : Letters) (l : Nat) : List Nat :=
  if ls.ascii then
    (if asciiLower l = l then [l] else []) ++ (if 97 ≤ l ∧ l ≤ 122 then [l - 32] else [])
  else (Text.alike l).flatMap withLowerCase

def same (ls : Letters) (asked n : Nat) : Bool :=
  if ls.ignoreCase && ls.isCased asked then (ls.alike (ls.lower asked)).contains (ls.lower n)
  else asked == n

def sameRead (ls : Letters) (m n : Nat) : Bool :=
  m == n || (ls.ignoreCase && ls.lower m == ls.lower n)

end Letters

end ParamGate.Text
