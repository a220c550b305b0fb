import ParamGate.Text.Digits
import ParamGate.Text.Printable

/-!
Quoted text and quoted bytes. A text stands between single quotes unless it holds a single and no
double quote; inside, the quote itself and the backslash are escaped, newline, return and tab have
short escapes, and every other character that is not printable is written in hexadecimal.
-/

namespace ParamGate.Text.Quoted

def quoteFor (cs : List Char) : Char := if '\'' ∈ cs ∧ '"' ∉ cs then '"' else '\''

theorem quoteFor_eq (cs : List Char) : quoteFor cs = '\'' ∨ quoteFor cs = '"' := by
  unfold quoteFor
  split <;> simp

/-- Two, four or eight digits, whichever is the least that holds the code point. -/
def hexEscape (n : Nat) : List Char :=
  if n < 0x100 then '\\' :: 'x' :: hexDigits 2 n
  else if n < 0x10000 then '\\' :: 'u' :: hexDigits 4 n
  else '\\' :: 'U' :: hexDigits 8 n

def escape (q c : Char) : List Char :=
  if c = q ∨ c = '\\' then ['\\', c]
  else if c = '\n' then ['\\', 'n']
  else if c = '\r' then ['\\', 'r']
  else if c = '\t' then ['\\', 't']
  else if isPrintable c then [c]
  else hexEscape c.toNat

def body (q : Char) : List Char → List Char
  | [] => []
  | c :: cs => escape q c ++ body q cs

def encode (cs : List Char) : List Char :=
  let q := quoteFor cs
  q :: body q cs ++ [q]

/-- One byte; bytes beyond ASCII are never shown as they are. -/
def escapeByte (q : Char) (b : UInt8) : List Char :=
  let c := Char.ofNat b.toNat
  if b < 128 then escape q c else '\\' :: 'x' :: hexDigits 2 b.toNat

def quoteForBytes (bs : List UInt8) : Char := quoteFor (bs.map fun b => Char.ofNat b.toNat)

def encodeBytes (bs : List UInt8) : List Char :=
  let q := quoteForBytes bs
  'b' :: q :: bs.flatMap (escapeByte q) ++ [q]

/-- The bytes of a buffer: a single quote is escaped whatever encloses them. -/
def encodeBuffer (bs : List UInt8) : List Char :=
  let q := quoteForBytes bs
  'b' :: q :: bs.flatMap (escapeByte '\'') ++ [q]

end ParamGate.Text.Quoted
