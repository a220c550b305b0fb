import ParamGate.Text.CharClass
import ParamGate.Text.Digits

/-!
Numbers as they may be written: between blanks, with the digits of any script, and with underscores
between digits.
-/

namespace ParamGate.Text.Numeral

def isAsciiBlank (c : Char) : Bool := c == ' ' || (9 ≤ c.toNat && c.toNat ≤ 13)

/-- A character beyond ASCII as it counts in a number: a blank, or a digit by its value. -/
def plainChar (c : Char) : Char :=
  if c.toNat < 128 then c
  else if isBlank c.toNat then ' '
  else match digitValue? c.toNat with
    | some d => Char.ofNat (48 + d)
    | none => c

def trim (cs : List Char) : List Char :=
  ((cs.dropWhile isAsciiBlank).reverse.dropWhile isAsciiBlank).reverse

/-- Drops the underscores, each of which must have a digit on either side. `afterDigit` says whether
a digit stands before the text. -/
def joinDigits? (afterDigit : Bool) : List Char → Option (List Char)
  | [] => some []
  | ['_'] => none
  | '_' :: c :: cs =>
    if afterDigit && c.isDigit then (joinDigits? true cs).map (c :: ·) else none
  | c :: cs => (joinDigits? c.isDigit cs).map (c :: ·)

def plain? (s : String) : Option (List Char) := joinDigits? false (trim (s.toList.map plainChar))

def int? (s : String) : Option Int := do
  let cs ← plain? s
  let (sign, digits) : Int × List Char := match cs with
    | '-' :: ds => (-1, ds)
    | '+' :: ds => (1, ds)
    | ds => (1, ds)
  if digits = [] ∨ maxDigits < digits.length ∨ ¬ digits.all Char.isDigit then none
  else
    let n := digits.foldl (fun (n : Nat) c => 10 * n + (c.toNat - 48)) 0
    return sign * n

example : int? " 1_0 " = some 10 := by decide +kernel
example : int? "1__0" = none := by decide +kernel

end ParamGate.Text.Numeral
