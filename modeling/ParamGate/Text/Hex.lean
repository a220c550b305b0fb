import ParamGate.Text.Numeral

/-!
Bytes in hexadecimal: two digits a byte, with blanks between bytes if need be.
-/

namespace ParamGate.Text

def hexDigitValue? (c : Char) : Option Nat :=
  if c.isDigit then some (c.toNat - 48)
  else if 'a' ≤ c ∧ c ≤ 'f' then some (c.toNat - 87)
  else if 'A' ≤ c ∧ c ≤ 'F' then some (c.toNat - 55)
  else none

/-- The bytes that a text spells from a given offset on, or the offset of what is no digit. -/
def hexBytes (offset : Nat) : List Char → Except Nat (List UInt8)
  | [] => .ok []
  | c :: cs =>
    if Numeral.isAsciiBlank c then hexBytes (offset + 1) cs
    else
      match hexDigitValue? c, cs with
      | none, _ => .error offset
      | some _, [] => .error (offset + 1)
      | some high, d :: rest =>
        match hexDigitValue? d with
        | none => .error (offset + 1)
        | some low => (hexBytes (offset + 2) rest).map (UInt8.ofNat (16 * high + low) :: ·)

def bytesOfHex (s : String) : Except Nat (List UInt8) :=
  match s.toList.findIdx? fun c => 128 ≤ c.toNat with
  | some i => .error i
  | none => hexBytes 0 s.toList

end ParamGate.Text
