import ParamGate.Text.Numeral

/-!
Binary floating-point numbers of 64 bits, held exactly. A finite number is a whole number of at most
53 bits times a power of two; reading a decimal rounds the exact quotient once, to the nearest such
number and to an even one in a tie. No machine arithmetic is involved.
-/

namespace ParamGate

/-- A 64-bit floating-point number. Two "not a number" values are the same only if they are the same
object, so each carries its identity. -/
inductive Double where
  | nan (identity : Nat)
  | infinite (negative : Bool)
  | finite (negative : Bool) (mantissa : Nat) (exponent : Int)
deriving DecidableEq, Repr

namespace Double

/-- The quotient as a whole number, a half going to the even neighbour. -/
def roundHalfEven (num den : Nat) : Nat :=
  let q := num / den
  let r := num % den
  if 2 * r < den then q
  else if den < 2 * r then q + 1
  else if q % 2 = 0 then q else q + 1

def scaleDown (num den : Nat) (e : Int) : Nat × Nat :=
  if 0 ≤ e then (num, den <<< e.toNat) else (num <<< (-e).toNat, den)

def floorLog (num den : Nat) : Int :=
  let guess : Int := (num.log2 : Int) - (den.log2 : Int)
  let (n, d) := scaleDown num den guess
  if n < d then guess - 1 else guess

def zero (negative : Bool) : Double := .finite negative 0 0

/-- The number nearest to `num / den`: 53 bits, or fewer below the least normal number. -/
def ofRatio (negative : Bool) (num den : Nat) : Double :=
  if num = 0 then zero negative
  else
    let e := max (floorLog num den - 52) (-1074)
    let (n, d) := scaleDown num den e
    let m := roundHalfEven n d
    if m = 0 then zero negative
    else if m = 1 <<< 53 then
      if e + 1 > 971 then .infinite negative else .finite negative (1 <<< 52) (e + 1)
    else if e > 971 then .infinite negative else .finite negative m e

/-- The number nearest to `digits * 10 ^ e`; far exponents need no exact power. -/
def ofDecimal (negative : Bool) (digits : Nat) (e : Int) : Double :=
  if digits = 0 then zero negative
  else
    let magnitude := e + (Nat.toDigits 10 digits).length
    if magnitude > 400 then .infinite negative
    else if magnitude < -400 then zero negative
    else if 0 ≤ e then ofRatio negative (digits * Nat.pow 10 e.toNat) 1
    else ofRatio negative digits (Nat.pow 10 (-e).toNat)

def toInt? : Double → Option Int
  | .finite negative m e =>
    let magnitude : Option Nat :=
      if 0 ≤ e then some (m <<< e.toNat)
      else
        let whole := m >>> (-e).toNat
        if whole <<< (-e).toNat = m then some whole else none
    magnitude.map fun n => if negative then -(n : Int) else n
  | _ => none

def isZero : Double → Bool
  | .finite _ m _ => m == 0
  | _ => false

def readDigits (value count : Nat) : List Char → Nat × Nat × List Char
  | [] => (value, count, [])
  | c :: cs =>
    if c.isDigit then readDigits (10 * value + (c.toNat - 48)) (count + 1) cs
    else (value, count, c :: cs)

def readSign : List Char → Bool × List Char
  | '-' :: cs => (true, cs)
  | '+' :: cs => (false, cs)
  | cs => (false, cs)

def readExponent : List Char → Option Int
  | [] => some 0
  | c :: cs =>
    if c = 'e' ∨ c = 'E' then
      let (negative, cs) := readSign cs
      match readDigits 0 0 cs with
      | (n, count, []) => if count = 0 then none else some (if negative then -(n : Int) else n)
      | _ => none
    else none

/-- An unsigned decimal: digits, a point with digits, an exponent; some digit is needed. -/
def readDecimal (negative : Bool) (cs : List Char) : Option Double :=
  let (whole, wholeCount, rest) := readDigits 0 0 cs
  let (value, places, rest) :=
    match rest with
    | '.' :: more => readDigits whole 0 more
    | _ => (whole, 0, rest)
  if wholeCount + places = 0 then none
  else (readExponent rest).map fun e => ofDecimal negative value (e - places)

/-- Reads a number; infinity and "not a number" are words in any case. The identity is that of a
"not a number" value. -/
def ofText? (identity : Nat) (s : String) : Option Double := do
  let (negative, cs) := readSign (← Text.Numeral.plain? s)
  let word := String.ofList (cs.map Char.toLower)
  if word = "nan" then return .nan identity
  else if word = "inf" ∨ word = "infinity" then return .infinite negative
  else readDecimal negative cs

example : ofText? 0 "0.5" = some (.finite false (1 <<< 52) (-53)) := by decide +kernel
example : ofText? 0 "-0.0" = some (.finite true 0 0) := by decide +kernel

end Double

end ParamGate
