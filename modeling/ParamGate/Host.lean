import ParamGate.Failure
import ParamGate.Settings
import ParamGate.Value.Entries

/-!
The host program: what its functions do when they are called, and the world that calls are made in.
A function may look at the parameters, try to change them, keep a state of its own, raise, and go
on after a refused change; it reaches nothing else.
-/

namespace ParamGate

inductive Access where
  | writable
  | readOnly
deriving DecidableEq, Repr

/-- What a function does from here on, over the host's states `σ`. After an attempt to change the
parameters it learns whether that was refused, and with what error. -/
inductive Act (σ : Type) where
  | answer (v : Value)
  | fail (e : Raised)
  | load (next : σ → Act σ)
  | store (s : σ) (next : Act σ)
  | look (next : Entries → Act σ)
  | write (k v : Value) (next : Option Raised → Act σ)
  | remove (k : Value) (next : Option Raised → Act σ)

namespace Raised

def refusedWrite : Raised := ⟨.type, "'mappingproxy' object does not support item assignment"⟩

def refusedRemoval : Raised := ⟨.type, "'mappingproxy' object does not support item deletion"⟩

def unhashable (v : Value) : Raised := ⟨.type, "unhashable type: '" ++ v.unhashableTypeName ++ "'"⟩

end Raised

namespace Act

variable {σ : Type}

def run (access : Access) : Act σ → Entries → σ → Except Raised Value × Entries × σ
  | .answer v, es, s => (.ok v, es, s)
  | .fail e, es, s => (.error e, es, s)
  | .load next, es, s => run access (next s) es s
  | .store s next, es, _ => run access next es s
  | .look next, es, s => run access (next es) es s
  | .write k v next, es, s =>
    if access = .readOnly then run access (next (some .refusedWrite)) es s
    else if k.isHashable then run access (next none) (Entries.put es k v) s
    else run access (next (some (.unhashable k))) es s
  | .remove k next, es, s =>
    if Entries.contains es k then
      if access = .readOnly then run access (next (some .refusedRemoval)) es s
      else run access (next none) (Entries.erase es k) s
    else run access (next none) es s

theorem run_readOnly (a : Act σ) (es : Entries) (s : σ) : (a.run .readOnly es s).2.1 = es := by
  induction a generalizing s with
  | answer v => rfl
  | fail e => rfl
  | load next ih => exact ih s s
  | store s' next ih => exact ih s'
  | look next ih => exact ih es s
  | write k v next ih => simpa [run] using ih (some .refusedWrite) s
  | remove k next ih =>
    simp only [run, if_true]
    split
    · exact ih (some .refusedRemoval) s
    · exact ih none s

end Act

/-- What the functions of a host program do: as predicates on the parameters, and as checks of a
value beside the parameters. -/
structure Host (σ : Type) where
  predicate : HostFunction → Act σ
  check : Callable → Value → Act σ

/-- A call made to a function: the parameters as they were when it began, the value that a check is
about, and how it ended. -/
structure Call where
  callee : Callable
  params : Entries
  value : Option Value := none
  outcome : Except Raised Value

inductive LogRecord where
  | checksDisabled (called : Value)
  | dependencyFailed (index : Nat) (called : Value) (predicate : Condition)

namespace LogRecord

def logger : LogRecord → String
  | .checksDisabled _ => "paramdeps.base.validator"
  | .dependencyFailed .. => "paramdeps.dispatch"

def message : LogRecord → String
  | .checksDisabled called => "Per-key validation disabled for " ++ called.plain
  | .dependencyFailed index called predicate =>
    "Dependency check " ++ Text.natText index ++ " failed in call to " ++ called.plain ++ ": " ++
      predicate.text

end LogRecord

/-- The world that calls are made in: the environment, the settings read from it and kept, the
arguments of the call at hand, which are the caller's own, the host's state, the calls made so far
and the records logged so far. -/
structure World (σ : Type) where
  environment : Environment := []
  cached : Option Settings := none
  args : Value := .null
  host : σ
  calls : List Call := []
  records : List LogRecord := []

/-- The world with the mapping that functions are handed. It is not the caller's. -/
structure Stage (σ : Type) extends World σ where
  params : Entries

variable {σ : Type} {ε α : Type}

/-- Enters a stage with the given parameters, and leaves it with what they became. -/
def World.onStage (params : Entries) (x : EStateM ε (Stage σ) α) :
    EStateM ε (World σ) (α × Entries) := fun w =>
  match x { w with params := params } with
  | .ok a s => .ok (a, s.params) s.toWorld
  | .error e s => .error e s.toWorld

def World.receive (args : Value) : EStateM ε (World σ) Unit := fun w =>
  .ok () { w with args := args }

def World.log (r : LogRecord) : EStateM ε (World σ) Unit := fun w =>
  .ok () { w with records := w.records ++ [r] }

namespace Stage

def log (r : LogRecord) : EStateM ε (Stage σ) Unit := fun s =>
  .ok () { s with records := s.records ++ [r] }

/-- Calls a function and records the call. Functions do not call each other, so the record is in the
order in which calls begin. -/
def perform (access : Access) (callee : Callable) (value : Option Value) (act : Act σ) :
    EStateM Raised (Stage σ) Value := fun s =>
  let (outcome, es, h) := act.run access s.params s.host
  let call : Call := { callee, params := s.params, value, outcome }
  let s := { s with params := es, host := h, calls := s.calls ++ [call] }
  match outcome with
  | .ok v => .ok v s
  | .error e => .error e s

def ask (host : Host σ) (access : Access) (f : HostFunction) : EStateM Raised (Stage σ) Value :=
  perform access (.function f) none (host.predicate f)

def check (host : Host σ) (c : Callable) (v : Value) : EStateM Raised (Stage σ) Value :=
  perform .writable c (some v) (host.check c v)

end Stage

def raisedAs (x : EStateM Raised σ α) : EStateM Failure σ α := fun s =>
  match x s with
  | .ok a s => .ok a s
  | .error e s => .error (.raised e) s

end ParamGate
