import ParamGate.Journal.Logging
import ParamGate.Session

/-!
A program that uses the gate and its log. It may configure the log whenever it likes, between the
steps of a session; what a step logs goes where the loggers send it at that time.
-/

namespace ParamGate

variable {σ : Type}

def Step.logged (host : Host σ) (s : Step) (w : World σ) : List LogRecord :=
  (s.after host w).records.drop w.records.length

namespace Journal

/-- The log is configured, for a terminal or not, or a step is taken. -/
inductive Event where
  | configure (verbose json terminal : Bool)
  | step (s : Step)

structure Program (σ : Type) where
  logging : Logging
  world : World σ

namespace Program

def after (host : Host σ) (p : Program σ) : Event → Program σ
  | .configure verbose json terminal =>
    { p with logging := p.logging.configure verbose json terminal }
  | .step s => { p with world := s.after host p.world }

def afterAll (host : Host σ) (p : Program σ) : List Event → Program σ
  | [] => p
  | e :: es => afterAll host (p.after host e) es

/-- What handlers are given on account of an event, in order. -/
def delivered (host : Host σ) (p : Program σ) : Event → List (Handler × Entry)
  | .configure .. => []
  | .step s =>
    (s.logged host p.world).flatMap fun r =>
      (p.logging.deliver (Logging.entryOf r)).map fun h => (h, Logging.entryOf r)

def deliveredAll (host : Host σ) (p : Program σ) : List Event → List (Handler × Entry)
  | [] => []
  | e :: es => p.delivered host e ++ deliveredAll host (p.after host e) es

def written (host : Host σ) (time : String) (p : Program σ) : Event → String
  | .configure .. => ""
  | .step s => p.logging.emitAll time (s.logged host p.world)

theorem afterAll_append (host : Host σ) (p : Program σ) (es fs : List Event) :
    p.afterAll host (es ++ fs) = (p.afterAll host es).afterAll host fs := by
  induction es generalizing p with
  | nil => rfl
  | cons e es ih => exact ih (p.after host e)

end Program

end Journal

end ParamGate
