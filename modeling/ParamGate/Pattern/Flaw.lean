import ParamGate.Pattern.Syntax
import ParamGate.Text.Quoted

/-!
What keeps a text from being a pattern: the causes, where in the text they are found, and the words
for them.
-/

namespace ParamGate.Pattern

inductive Cause where
  | loneBackslash
  | badEscape (escape : String)
  | shortEscape (escape : String)
  | highOctal (escape : String)
  | noBrace
  | unknownCharacter (name : String)
  | noName (what : String)
  | openName (terminator : Char)
  | badName (name : String)
  | unknownName (name : String)
  | usedName (name : String) (index earlier : Nat)
  | openGroup
  | groupInLookBehind
  | noGroup (index : Nat)
  | groupZero
  | openSet
  | badRange (first last : String)
  | emptyRange
  | nothingToRepeat
  | repeatedRepeat
  | ended
  | unknownExtension (mark : String)
  | openComment
  | openBracket
  | thirdBranch
  | lateOptions
  | localeOption
  | opposedOptions
  | unknownOption
  | noOption
  | noOptionEnd
  | noOptionColon
  | wholeOptionOn
  | wholeOptionOff
  | lettersOff
  | onAndOff
  | strayBracket
  | wideLookBehind
  | varyingLookBehind
  | repeatInTemplate (greed : Greed)
deriving DecidableEq, Repr

namespace Cause

def repeatName : Greed → String
  | .greedy => "MAX_REPEAT"
  | .reluctant => "MIN_REPEAT"
  | .possessive => "POSSESSIVE_REPEAT"

def quoted (s : String) : String := String.ofList (Text.Quoted.encode s.toList)

def message : Cause → String
  | .loneBackslash => "bad escape (end of pattern)"
  | .badEscape escape => "bad escape " ++ escape
  | .shortEscape escape => "incomplete escape " ++ escape
  | .highOctal escape => "octal escape value " ++ escape ++ " outside of range 0-0o377"
  | .noBrace => "missing \x7b"
  | .unknownCharacter name => "undefined character name " ++ quoted name
  | .noName what => "missing " ++ what
  | .openName terminator => "missing " ++ terminator.toString ++ ", unterminated name"
  | .badName name => "bad character in group name " ++ quoted name
  | .unknownName name => "unknown group name " ++ quoted name
  | .usedName name index earlier =>
    "redefinition of group name " ++ quoted name ++ " as group " ++ Text.natText index ++
      "; was group " ++ Text.natText earlier
  | .openGroup => "cannot refer to an open group"
  | .groupInLookBehind => "cannot refer to group defined in the same lookbehind subpattern"
  | .noGroup index => "invalid group reference " ++ Text.natText index
  | .groupZero => "bad group number"
  | .openSet => "unterminated character set"
  | .badRange first last => "bad character range " ++ first ++ "-" ++ last
  | .emptyRange => "min repeat greater than max repeat"
  | .nothingToRepeat => "nothing to repeat"
  | .repeatedRepeat => "multiple repeat"
  | .ended => "unexpected end of pattern"
  | .unknownExtension mark => "unknown extension ?" ++ mark
  | .openComment => "missing ), unterminated comment"
  | .openBracket => "missing ), unterminated subpattern"
  | .thirdBranch => "conditional backref with more than two branches"
  | .lateOptions => "global flags not at the start of the expression"
  | .localeOption => "bad inline flags: cannot use 'L' flag with a str pattern"
  | .opposedOptions => "bad inline flags: flags 'a', 'u' and 'L' are incompatible"
  | .unknownOption => "unknown flag"
  | .noOption => "missing flag"
  | .noOptionEnd => "missing -, : or )"
  | .noOptionColon => "missing :"
  | .wholeOptionOn => "bad inline flags: cannot turn on global flag"
  | .wholeOptionOff => "bad inline flags: cannot turn off global flag"
  | .lettersOff => "bad inline flags: cannot turn off flags 'a', 'u' and 'L'"
  | .onAndOff => "bad inline flags: flag turned on and off"
  | .strayBracket => "unbalanced parenthesis"
  | .wideLookBehind => "looks too much behind"
  | .varyingLookBehind => "look-behind requires fixed-width pattern"
  | .repeatInTemplate greed => "internal: unsupported template operator " ++ repeatName greed

end Cause

/-- A place in a text: how many characters stand before it and, in a text of several lines, the line
and column. -/
structure Spot where
  offset : Nat
  lineColumn : Option (Nat × Nat)
deriving DecidableEq, Repr

namespace Spot

def of (text : List Char) (offset : Nat) : Spot :=
  let before := text.take offset
  let line := before.count '\n' + 1
  let column := (before.reverse.takeWhile (· ≠ '\n')).length + 1
  { offset, lineColumn := if '\n' ∈ text then some (line, column) else none }

def message (s : Spot) : String :=
  " at position " ++ Text.natText s.offset ++
    match s.lineColumn with
    | some (line, column) =>
      " (line " ++ Text.natText line ++ ", column " ++ Text.natText column ++ ")"
    | none => ""

end Spot

/-- How the reading of a pattern fails: the text is malformed, options clash, or a limit is
passed. -/
inductive Flaw where
  | malformed (cause : Cause) (spot : Option Spot)
  | asciiAndUnicode
  | longNumber (digits : Nat)
  | manyRepeats
  | hugeCode
  | tooDeep
deriving DecidableEq, Repr

namespace Flaw

def className : Flaw → String
  | .malformed .. => "error"
  | .asciiAndUnicode | .longNumber _ => "ValueError"
  | .manyRepeats | .hugeCode => "OverflowError"
  | .tooDeep => "RecursionError"

/-- Whether the flaw ends whatever the pattern is read for, rather than being listed with what else
is wrong. -/
def isFatal : Flaw → Bool
  | .malformed .. | .asciiAndUnicode | .longNumber _ => false
  | .manyRepeats | .hugeCode | .tooDeep => true

def message : Flaw → String
  | .malformed cause spot => cause.message ++ (spot.map Spot.message).getD ""
  | .asciiAndUnicode => "ASCII and UNICODE flags are incompatible"
  | .longNumber digits =>
    Text.longNumberMessage (": value has " ++ Text.natText digits ++ " digits")
  | .manyRepeats => "the repetition number is too large"
  | .hugeCode => "Python int too large to convert to C int"
  | .tooDeep => "maximum recursion depth exceeded while calling a Python object"

end Flaw

end ParamGate.Pattern
