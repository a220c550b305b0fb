import ParamGate.Host

/-!
Evaluating a predicate. Where all options have to be counted they are all evaluated, left to right;
where one is enough, evaluation stops at the first that holds. An error ends the evaluation, and a
`StopIteration` among the options turns into an error of another class.
-/

namespace ParamGate

variable {σ : Type}

def asOption {α : Type} (x : EStateM Raised (Stage σ) α) : EStateM Raised (Stage σ) α := fun s =>
  match x s with
  | .ok a s => .ok a s
  | .error e s => .error (if e.cls = .stopIteration then .generatorStop else e) s

def CountRule.accepts : CountRule → Nat → Bool
  | .exactly desired, n => (n : Int) == desired
  | .atLeastOne, n => n != 0

namespace Condition

mutual

def eval (host : Host σ) (access : Access) : Condition → EStateM Raised (Stage σ) Bool
  | .present name => fun s => .ok (Entries.contains s.params (.text name)) s
  | .holds f => do return (← Stage.ask host access f).truthy
  | .counted _ _ .atLeastOne options => anyHolds host access options
  | .counted _ _ (.exactly desired) options => do
    return (CountRule.exactly desired).accepts (← countHolding host access options)

/-- Whether some option holds; options after the first that does are not evaluated. -/
def anyHolds (host : Host σ) (access : Access) : List Condition → EStateM Raised (Stage σ) Bool
  | [] => pure false
  | c :: cs => do
    if ← asOption (c.eval host access) then return true else anyHolds host access cs

def countHolding (host : Host σ) (access : Access) : List Condition → EStateM Raised (Stage σ) Nat
  | [] => pure 0
  | c :: cs => do
    let b ← asOption (c.eval host access)
    let n ← countHolding host access cs
    return (if b then 1 else 0) + n

end

end Condition

def Predicate.eval (host : Host σ) (access : Access) (p : Predicate) :
    EStateM Raised (Stage σ) Bool :=
  (Condition.ofPredicate p).eval host access

end ParamGate
