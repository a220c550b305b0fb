import ParamGate.Pattern.Reader
import ParamGate.Pattern.Search

/-!
Search patterns: a text, the options that hold for it, and what the two denote.
-/

namespace ParamGate

structure Pattern where
  source : String
  options : Pattern.Options
  node : Pattern.Node

namespace Pattern

def read (source : String) (options : Options) : Except Flaw Pattern :=
  (readNode options source).map fun (all, node) => ⟨source, all, node⟩

def search (p : Pattern) (text : String) : Bool := p.node.occursIn p.options.letters text

/-- How a pattern shows itself; a long text is cut after 200 characters. -/
def chars (p : Pattern) : List Char :=
  let flags := if p.options.names.isEmpty then "" else ", " ++ "|".intercalate p.options.names
  "re.compile(".toList ++ (Text.Quoted.encode p.source.toList).take 200 ++ flags.toList ++ [')']

end Pattern

end ParamGate
