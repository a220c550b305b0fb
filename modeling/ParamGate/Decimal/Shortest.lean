import ParamGate.Decimal.Double
import ParamGate.Text.Digits

/-!
The shortest decimal text of a floating-point number: of all decimals that read back as the number,
one with the fewest digits, and of those the nearest. The digits are found in exact arithmetic on
the two neighbours of the number in the grid of each length.
-/

namespace ParamGate.Double

/-- A positive fraction `num / den` with the closest fractions that still round to it, over the same
denominator; the ends belong to the interval if `closed`. -/
structure Interval where
  num : Nat
  den : Nat
  low : Nat
  high : Nat
  closed : Bool

def interval (m : Nat) (e : Int) : Interval :=
  let step := 1 <<< e.toNat
  let below := if m = 1 <<< 52 ∧ e > -1074 then 1 else 2
  { num := 4 * m * step
    den := 4 <<< (-e).toNat
    low := (4 * m - below) * step
    high := (4 * m + 2) * step
    closed := m % 2 = 0 }

def Interval.contains (i : Interval) (num den : Nat) : Bool :=
  let x := num * i.den
  if i.closed then i.low * den ≤ x && x ≤ i.high * den else i.low * den < x && x < i.high * den

def tenPower (e : Int) : Nat × Nat :=
  if 0 ≤ e then (Nat.pow 10 e.toNat, 1) else (1, Nat.pow 10 (-e).toNat)

/-- The least `p` from `start` on, within `fuel` steps, with the number below `10 ^ p`. -/
def pointFrom (i : Interval) (start : Int) : Nat → Int
  | 0 => start
  | fuel + 1 =>
    let (n, d) := tenPower start
    if i.num * d < n * i.den then start else pointFrom i (start + 1) fuel

/-- The place of the decimal point: `10 ^ (p - 1) ≤ x < 10 ^ p`. -/
def point (m : Nat) (e : Int) : Int :=
  pointFrom (interval m e) (((m.log2 : Int) + e) * 30103 / 100000 - 1) 4

/-- The nearer of the grid's two neighbours of the number that lie in its interval, the even one in
a tie; the grid's unit is `10 ^ unit`. -/
def onGrid (i : Interval) (unit : Int) : Option Nat :=
  let (n, d) := tenPower unit
  let down := i.num * d / (i.den * n)
  let up := down + 1
  let fits (k : Nat) : Bool := i.contains (k * n) d
  let downGap := i.num * d - down * n * i.den
  let upGap := up * n * i.den - i.num * d
  match fits down, fits up with
  | true, true =>
    some (if downGap < upGap then down else if upGap < downGap then up
      else if down % 2 = 0 then down else up)
  | true, false => some down
  | false, true => some up
  | false, false => none

def shortestFrom (i : Interval) (p : Int) (count : Nat) : Nat → Nat × Int
  | 0 => (i.num / i.den, 0)
  | fuel + 1 =>
    match onGrid i (p - count) with
    | some k => if k = 0 then shortestFrom i p (count + 1) fuel else (k, p - count)
    | none => shortestFrom i p (count + 1) fuel

/-- The fewest digits that read back, as a whole number and a power of ten. -/
def shortest (m : Nat) (e : Int) : Nat × Int :=
  shortestFrom (interval m e) (point m e) 1 17

def dropZeros (cs : List Char) : List Char := (cs.reverse.dropWhile (· = '0')).reverse

/-- How digits are laid out: a number is positional while its exponent lies within the bounds, and a
whole positional number keeps one place after the point. -/
structure Layout where
  leastPositional : Int
  mostPositional : Int
  exponentWidth : Nat

def layout : Layout := ⟨-4, 15, 2⟩

/-- `digits` are the significant digits and `p` the place of the decimal point among them. -/
def place (l : Layout) (digits : List Char) (p : Int) : List Char :=
  let e := p - 1
  if l.leastPositional ≤ e ∧ e ≤ l.mostPositional then
    if p ≤ 0 then '0' :: '.' :: List.replicate (-p).toNat '0' ++ digits
    else
      let whole := digits.take p.toNat
      let padded := whole ++ List.replicate (p.toNat - whole.length) '0'
      let rest := digits.drop p.toNat
      padded ++ '.' :: (if rest.isEmpty then ['0'] else rest)
  else
    let head := digits.take 1
    let rest := digits.drop 1
    let shown := Text.natDigits e.natAbs
    let width := List.replicate (l.exponentWidth - shown.length) '0' ++ shown
    let places := if rest.isEmpty then [] else '.' :: rest
    head ++ places ++ 'e' :: (if e < 0 then '-' else '+') :: width

def chars : Double → List Char
  | .nan _ => "nan".toList
  | .infinite negative => if negative then "-inf".toList else "inf".toList
  | .finite negative m e =>
    let body :=
      if m = 0 then "0.0".toList
      else
        let (k, unit) := shortest m e
        let all := Text.natDigits k
        place layout (dropZeros all) (unit + all.length)
    if negative then '-' :: body else body

def text (x : Double) : String := String.ofList x.chars

end ParamGate.Double
