/-!
Names of consecutive characters, written one after another: each begins with the number of words
that it has in common with the name before it.
-/

namespace ParamGate.Text

def splitAt (separator : Char) : List Char → List (List Char)
  | [] => [[]]
  | c :: cs =>
    if c = separator then [] :: splitAt separator cs
    else
      match splitAt separator cs with
      | [] => [[c]]
      | part :: parts => (c :: part) :: parts

/-- Consecutive code points with an entry for each, several entries to a line. A code point without
a name has an empty one. -/
structure NamedRun where
  first : Nat
  lines : List String

namespace NamedRun

/-- The words of a name, given those of the name before it. -/
def wordsAfter (before : List (List Char)) : List Char → List (List Char)
  | [] => before
  | kept :: rest => before.take (kept.toNat - 48) ++ splitAt ' ' rest

def findFrom (words : List (List Char)) (code : Nat) (before : List (List Char)) :
    List (List Char) → Option Nat
  | [] => none
  | entry :: entries =>
    let here := wordsAfter before entry
    if here = words then some code else findFrom words (code + 1) here entries

def find? (r : NamedRun) (words : List (List Char)) : Option Nat :=
  findFrom words r.first [] (r.lines.flatMap (splitAt ';' ·.toList))

example : find? ⟨0x5D0, ["0HEBREW LETTER ALEF;2BET", ";2DALET"]⟩
    (splitAt ' ' "HEBREW LETTER DALET".toList) = some 0x5D3 := by
  decide +kernel

end NamedRun

end ParamGate.Text
