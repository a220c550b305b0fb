import ParamGate.Text.Json

/-!
Log entries as lines of text: for people, with or without colours, and as JSON. The time stands in
the line as a text of its own.
-/

namespace ParamGate.Journal

inductive Level where
  | debug
  | info
  | warning
  | error
  | critical
deriving DecidableEq, Repr

namespace Level

def all : List Level := [.debug, .info, .warning, .error, .critical]

def number : Level → Nat
  | .debug => 10
  | .info => 20
  | .warning => 30
  | .error => 40
  | .critical => 50

def name : Level → String
  | .debug => "debug"
  | .info => "info"
  | .warning => "warning"
  | .error => "error"
  | .critical => "critical"

def ofNumber? (n : Nat) : Option Level := all.find? (·.number = n)

def colour : Level → String
  | .debug | .info => "\x1b[32m"
  | .warning => "\x1b[33m"
  | .error | .critical => "\x1b[31m"

end Level

structure Entry where
  logger : String
  level : Level
  message : String
deriving DecidableEq, Repr

inductive Renderer where
  | console (colours : Bool)
  | json
deriving DecidableEq, Repr

def pad (width : Nat) (s : String) : String :=
  s ++ String.ofList (List.replicate (width - s.length) ' ')

def bold : String := "\x1b[1m"

def dim : String := "\x1b[2m"

def blue : String := "\x1b[34m"

def reset : String := "\x1b[0m"

def Renderer.line (time : String) (e : Entry) : Renderer → String
  | .console false =>
    time ++ " [" ++ pad 9 e.level.name ++ "] " ++ pad 30 e.message ++ " [" ++ e.logger ++ "]\n"
  | .console true =>
    dim ++ time ++ reset ++ " [" ++ e.level.colour ++ bold ++ pad 9 e.level.name ++ reset ++ "] " ++
      bold ++ pad 30 e.message ++ reset ++ " [" ++ reset ++ bold ++ blue ++ e.logger ++ reset ++
      "]" ++ reset ++ "\n"
  | .json =>
    let fields :=
      [("event", e.message), ("level", e.level.name), ("logger", e.logger), ("timestamp", time)]
    let shown := fields.map fun (k, v) => Text.Json.quote k ++ ": " ++ Text.Json.quote v
    "\x7b" ++ ", ".intercalate shown ++ "\x7d\n"

end ParamGate.Journal
