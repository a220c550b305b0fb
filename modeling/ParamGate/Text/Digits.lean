/-!
Whole numbers as text, in decimal and in lower-case hexadecimal of a fixed width.
-/

namespace ParamGate.Text

def natDigits (n : Nat) : List Char := Nat.toDigits 10 n

def intDigits : Int → List Char
  | .ofNat n => natDigits n
  | .negSucc n => '-' :: natDigits (n + 1)

def hexDigit (n : Nat) : Char := Nat.digitChar (n % 16)

/-- The last `width` hexadecimal digits of `n`, padded with zeros on the left. -/
def hexDigits : Nat → Nat → List Char
  | 0, _ => []
  | width + 1, n => hexDigits width (n / 16) ++ [hexDigit n]

@[simp] theorem length_hexDigits (width n : Nat) : (hexDigits width n).length = width := by
  induction width generalizing n with
  | zero => rfl
  | succ width ih => simp [hexDigits, ih]

def natText (n : Nat) : String := String.ofList (natDigits n)

def intText (n : Int) : String := String.ofList (intDigits n)

/-- Whole numbers of more decimal digits are neither read nor written. -/
def maxDigits : Nat := 4300

def isShort (n : Int) : Bool := decide ((natDigits n.natAbs).length ≤ maxDigits)

/-- What is said of a longer one; the details are those that are known. -/
def longNumberMessage (details : String) : String :=
  "Exceeds the limit (" ++ natText maxDigits ++ " digits) for integer string conversion" ++
    details ++ "; use sys.set_int_max_str_digits() to increase the limit"

theorem isShort_iff {n : Int} : isShort n = true ↔ n.natAbs < Nat.pow 10 maxDigits := by
  rw [isShort, decide_eq_true_iff, natDigits,
    Nat.length_toDigits_le_iff (by decide) (by decide)]
  generalize maxDigits = k
  rfl

theorem isShort_of_le {m n : Int} (h : m.natAbs ≤ n.natAbs) (hn : isShort n = true) :
    isShort m = true :=
  isShort_iff.mpr (Nat.lt_of_le_of_lt h (isShort_iff.mp hn))

end ParamGate.Text
