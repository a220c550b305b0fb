import ParamGate.Host
import ParamGate.Journal.Line

/-!
The loggers: the library's own, with the loggers below it, and the root logger above. Configuring
replaces what the library's logger had, whatever that was, and leaves the root logger alone.
-/

namespace ParamGate.Journal

/-- Where entries go: to a handler of the host program, or to lines on the standard error stream. -/
inductive Handler where
  | host (identity : Nat)
  | lines (renderer : Renderer)
deriving DecidableEq, Repr

/-- A logger: its handlers, its level, zero if it has none of its own, and whether entries go on to
the logger above. -/
structure Logger where
  handlers : List Handler
  level : Nat
  propagate : Bool
deriving DecidableEq, Repr

structure Logging where
  package : Logger
  root : Logger
deriving DecidableEq, Repr

namespace Logging

def packageName : String := "paramdeps"

def inPackage (logger : String) : Bool :=
  logger == packageName || (packageName ++ ".").toList.isPrefixOf logger.toList

def initial : Logging := ⟨⟨[.host 0], 0, true⟩, ⟨[], Level.warning.number, true⟩⟩

/-- Gives the library's logger its own handler and level, and keeps its entries to itself. -/
def configure (verbose json terminal : Bool) (l : Logging) : Logging :=
  let renderer := if json then Renderer.json else .console terminal
  let level := if verbose then Level.debug else .warning
  { l with package := ⟨[.lines renderer], level.number, false⟩ }

def threshold (l : Logging) (logger : String) : Nat :=
  if inPackage logger ∧ l.package.level ≠ 0 then l.package.level else l.root.level

def handlersFor (l : Logging) (logger : String) : List Handler :=
  if inPackage logger then
    l.package.handlers ++ (if l.package.propagate then l.root.handlers else [])
  else l.root.handlers

def deliver (l : Logging) (e : Entry) : List Handler :=
  if l.threshold e.logger ≤ e.level.number then l.handlersFor e.logger else []

/-- What an entry adds to the standard error stream. A warning, or worse, that finds no handler at
all is shown bare. -/
def emit (l : Logging) (time : String) (e : Entry) : String :=
  if l.handlersFor e.logger = [] then
    if l.threshold e.logger ≤ e.level.number ∧ Level.warning.number ≤ e.level.number then
      e.message ++ "\n"
    else ""
  else
    String.join ((l.deliver e).map fun
      | .host _ => ""
      | .lines r => r.line time e)

def entryOf (r : LogRecord) : Entry := ⟨r.logger, .debug, r.message⟩

def emitAll (l : Logging) (time : String) (rs : List LogRecord) : String :=
  String.join (rs.map fun r => l.emit time (entryOf r))

end Logging

end ParamGate.Journal
