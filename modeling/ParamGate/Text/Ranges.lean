/-!
Sets of code points, given as ascending lists of closed ranges. Every character class of the
library that reaches beyond ASCII is such a list.
-/

namespace ParamGate.Text

def inRanges : List (Nat × Nat) → Nat → Bool
  | [], _ => false
  | (first, last) :: rest, n =>
    if n < first then false else if n ≤ last then true else inRanges rest n

end ParamGate.Text
