import ParamGate.Pattern.CharSet
import ParamGate.Text.Name
import ParamGate.Text.Numeral

/-!
Reading a pattern from its text. The reader refuses what cannot mean anything: unbalanced brackets,
a quantifier with nothing to repeat, an unknown escape or extension, a reference to a group that is
not closed. Once the text is read, a second pass refuses a look-behind of varying width.
-/

namespace ParamGate.Pattern

open Reader

/-- A piece of a sequence, with what a quantifier after it would find: something to repeat, a mere
position, a repetition already, or a plain group, whose nodes become part of the sequence. -/
inductive Piece where
  | single (n : Node)
  | position (n : Node)
  | repeated (n : Node)
  | grouped (ns : List Node)

namespace Piece

def nodes : Piece → List Node
  | .single n | .position n | .repeated n => [n]
  | .grouped ns => ns

def sequence (pieces : List Piece) : List Node := pieces.reverse.flatMap nodes

def ofEscape (n : Node) : Piece :=
  match n with
  | .textStart | .textEnd | .boundary .. => .position n
  | _ => .single n

end Piece

def maxRepeat : Nat := 4294967295

def rounds? (digits : List Char) : Reader (Option Nat) :=
  if digits = [] then return none
  else if Text.maxDigits < digits.length then throw (.longNumber digits.length)
  else
    let n := numberOf 10 digits
    if maxRepeat ≤ n then throw .manyRepeats else return some n

/-- The bounds between braces, the opening one being read already; `none` if the braces are none. -/
def bounds : Reader (Option (Nat × Option Nat)) := do
  let before ← get
  let limit := before.rest.length
  if before.rest.head? = some (.plain '\x7d') then return none
  let low ← takeWhile Char.isDigit limit
  let comma ← take ','
  let high ← if comma then takeWhile Char.isDigit limit else pure low
  if ← take '\x7d' then
    let least := (← rounds? low).getD 0
    let most ← rounds? high
    if most.any (· < least) then failAt .emptyRange before.offset
    return some (least, most)
  else
    set before
    return none

def greedMark : Reader Greed := do
  if ← take '?' then return .reluctant
  else if ← take '+' then return .possessive
  else return .greedy

def quantify (start least : Nat) (most : Option Nat) : List Piece → Reader (List Piece)
  | .single n :: before => do
    return .repeated (.times least most (← greedMark) n) :: before
  | .grouped ns :: before => do
    return .repeated (.times least most (← greedMark) (.ofList ns)) :: before
  | .repeated _ :: _ => failAt .repeatedRepeat start
  | _ => failAt .nothingToRepeat start

def groupWord : String := "group name"

def groupName (stop : Char) : Reader String := do
  let name ← upTo stop groupWord
  if Text.isName name then return name else fail (.badName name) (name.length + 1)

def namedReference : Reader Node := do
  let name ← groupName ')'
  let s ← get
  match s.names.find? (·.1 == name) with
  | none => fail (.unknownName name) (name.length + 1)
  | some (_, index) =>
    if !s.closed.any (·.1 == index) then fail .openGroup (name.length + 1)
    checkBehind index
    return .backref s.options.letters index

def maxGroups : Nat := 1073741823

/-- The group that a condition asks for, by its name or its number. A number is taken on trust until
the whole pattern is read. -/
def askedGroup : Reader Nat := do
  let name ← upTo ')' groupWord
  let back := name.length + 1
  let s ← get
  let index ←
    if Text.isName name then
      match s.names.find? (·.1 == name) with
      | some (_, index) => pure index
      | none => fail (.unknownName name) back
    else
      match Text.Numeral.int? name with
      | none | some (.negSucc _) => fail (.badName name) back
      | some (.ofNat index) =>
        if index = 0 then fail .groupZero back
        if maxGroups ≤ index then fail (.noGroup index) back
        if !s.asked.any (·.1 == index) then
          set { s with asked := s.asked ++ [(index, s.offset - back)] }
        pure index
  checkBehind index
  return index

def skipComment (start : Nat) : Nat → Reader Unit
  | 0 => failAt .openComment start
  | fuel + 1 => do
    match ← next with
    | none => failAt .openComment start
    | some t => if t = .plain ')' then return () else skipComment start fuel

def skipLine : Nat → Reader Unit
  | 0 => return ()
  | fuel + 1 => do
    match ← next with
    | none => return ()
    | some t => if t = .plain '\n' then return () else skipLine fuel

def optionLetter (t : Token) (other : Cause) : Reader Char :=
  match t with
  | .plain c =>
    if (Options.ofLetter? c).isSome || c = 'L' then return c
    else if Text.isLetter c.toNat then fail .unknownOption 1
    else fail other 1
  | .escaped _ => fail other 2

/-- Option letters to be switched on, the first being read already, and the character after them. -/
def optionsOn : Nat → Char → Options → Reader (Options × Char)
  | 0, _, _ => fail .noOptionEnd 0
  | fuel + 1, c, on => do
    match Options.ofLetter? c with
    | none => fail .localeOption 0
    | some o =>
      let on := on.union o
      if (o.ascii || o.unicode) && on.ascii && on.unicode then fail .opposedOptions 0
      match ← next with
      | none => fail .noOptionEnd 0
      | some (.plain ')') => return (on, ')')
      | some (.plain '-') => return (on, '-')
      | some (.plain ':') => return (on, ':')
      | some t => optionsOn fuel (← optionLetter t .noOptionEnd) on

def optionsOff : Nat → Char → Options → Reader Options
  | 0, _, _ => fail .noOptionColon 0
  | fuel + 1, c, off => do
    match Options.ofLetter? c with
    | none => fail .lettersOff 0
    | some o =>
      if o.ascii || o.unicode then fail .lettersOff 0
      let off := off.union o
      match ← next with
      | none => fail .noOptionColon 0
      | some (.plain ':') => return off
      | some t => optionsOff fuel (← optionLetter t .noOptionColon) off

/-- The options of a bracket, its first letter or the minus sign being read already: those for the
whole pattern, or those on and off in a group. -/
def bracketOptions (c : Char) : Reader (Options × Option Options) := do
  let limit := (← remaining) + 1
  let (on, stop) ← if c = '-' then pure ({}, '-') else optionsOn limit c {}
  if stop = ')' then return (on, none)
  if on.template then fail .wholeOptionOn 1
  if stop = '-' then
    match ← next with
    | none => fail .noOption 0
    | some t =>
      let off ← optionsOff limit (← optionLetter t .noOption) {}
      if off.template then fail .wholeOptionOff 1
      if on.meets off then fail .onAndOff 1
      return (on, some off)
  else return (on, some {})

def openGroup (name : Option String) : Reader Nat := do
  let s ← get
  let index := s.opened + 1
  match name with
  | none =>
    set { s with opened := index }
    return index
  | some n =>
    match s.names.find? (·.1 == n) with
    | some (_, earlier) => fail (.usedName n index earlier) (n.length + 1)
    | none =>
      set { s with opened := index, names := (n, index) :: s.names }
      return index

def closeGroup (index : Nat) (body : Node) : Reader Unit :=
  modify fun s => { s with closed := (index, body.width s.closed) :: s.closed }

def closeBracket (start : Nat) : Reader Unit := do
  unless ← take ')' do failAt .openBracket start

/-- Sequences and their alternatives may stand in each other to this depth. It is no constant of the
notation: reading recurses on a stack of a thousand frames, and this is what the frames around a
reading were measured to leave of it in a program that validates near its outermost frame. A caller
further down has less. -/
def maxDepth : Nat := 972

def checkDepth (depth : Nat) : Reader Unit := do
  if maxDepth < depth then throw .tooDeep

def isLayout (c : Char) : Bool := Text.Numeral.isAsciiBlank c

mutual

def alternatives : Nat → Nat → Bool → Reader (List Node)
  | 0, _, _ => throw .tooDeep
  | fuel + 1, depth, atHead => do
    checkDepth depth
    let first ← sequence fuel (depth + 1) atHead []
    return Node.ofBranches (← letters) (first :: (← moreBranches fuel depth))

def moreBranches : Nat → Nat → Reader (List (List Node))
  | 0, _ => throw .tooDeep
  | fuel + 1, depth => do
    if ← take '|' then
      let branch ← sequence fuel (depth + 1) false []
      return branch :: (← moreBranches fuel depth)
    else return []

def sequence : Nat → Nat → Bool → List Piece → Reader (List Node)
  | 0, _, _, _ => throw .tooDeep
  | fuel + 1, depth, atHead, pieces => do
    checkDepth depth
    let o ← options
    let start ← offset
    match ← peek with
    | none => return Piece.sequence pieces
    | some (.escaped c) =>
      let _ ← next
      sequence fuel depth atHead (.ofEscape (← escape c) :: pieces)
    | some (.plain c) =>
      if c = '|' ∨ c = ')' then return Piece.sequence pieces
      let _ ← next
      if o.verbose && isLayout c then sequence fuel depth atHead pieces
      else if o.verbose && c = '#' then
        skipLine ((← remaining) + 1)
        sequence fuel depth atHead pieces
      else if c = '.' then sequence fuel depth atHead (.single (.any o.dotAll) :: pieces)
      else if c = '^' then
        let n := if o.multiline then Node.lineStart else .textStart
        sequence fuel depth atHead (.position n :: pieces)
      else if c = '$' then
        let n := if o.multiline then Node.lineEnd else .beforeFinalNewline
        sequence fuel depth atHead (.position n :: pieces)
      else if c = '[' then sequence fuel depth atHead (.single (← readSet) :: pieces)
      else if c = '*' then sequence fuel depth atHead (← quantify start 0 none pieces)
      else if c = '+' then sequence fuel depth atHead (← quantify start 1 none pieces)
      else if c = '?' then sequence fuel depth atHead (← quantify start 0 (some 1) pieces)
      else if c = '\x7b' then
        match ← bounds with
        | none => sequence fuel depth atHead (.single (.char o.letters false c.toNat) :: pieces)
        | some (least, most) => sequence fuel depth atHead (← quantify start least most pieces)
      else if c = '(' then
        match ← bracket fuel depth start (atHead && pieces.isEmpty) with
        | none => sequence fuel depth atHead pieces
        | some piece => sequence fuel depth atHead (piece :: pieces)
      else sequence fuel depth atHead (.single (.char o.letters false c.toNat) :: pieces)

/-- What stands between round brackets, the opening one being read already; `none` for a comment or
options set for the whole. -/
def bracket : Nat → Nat → Nat → Bool → Reader (Option Piece)
  | 0, _, _, _ => throw .tooDeep
  | fuel + 1, depth, start, atHead => do
    if ← take '?' then
      match ← next with
      | none => fail .ended 0
      | some (.escaped c) => fail (.unknownExtension (Token.escaped c).text) 3
      | some (.plain 'P') =>
        match ← next with
        | none => fail .ended 0
        | some (.plain '<') =>
          let name ← groupName '>'
          return some (.single (← captured fuel depth start (some name)))
        | some (.plain '=') => return some (.single (← namedReference))
        | some t => fail (.unknownExtension ("P" ++ t.text)) (t.chars.length + 2)
      | some (.plain ':') => return some (.grouped (← enclosed fuel depth start))
      | some (.plain '>') => return some (.single (.atomic (.ofList (← enclosed fuel depth start))))
      | some (.plain '#') =>
        skipComment start ((← remaining) + 1)
        return none
      | some (.plain '=') =>
        return some (.single (.ahead false (.ofList (← enclosed fuel depth start))))
      | some (.plain '!') =>
        return some (.single (.ahead true (.ofList (← enclosed fuel depth start))))
      | some (.plain '<') =>
        match ← next with
        | none => fail .ended 0
        | some (.plain '=') => return some (.single (← behind fuel depth start false))
        | some (.plain '!') => return some (.single (← behind fuel depth start true))
        | some t => fail (.unknownExtension ("<" ++ t.text)) (t.chars.length + 2)
      | some (.plain '(') => return some (.single (← choice fuel depth start))
      | some (.plain c) =>
        if (Options.ofLetter? c).isSome || c = 'L' || c = '-' then
          let (on, off?) ← bracketOptions c
          let outer ← options
          match off? with
          | none =>
            unless atHead do failAt .lateOptions start
            modify fun s => { s with options := outer.union on }
            return none
          | some off =>
            modify fun s => { s with options := outer.inGroup on off }
            let body ← enclosed fuel depth start
            modify fun s => { s with options := outer }
            return some (.single (.group none (.ofList body)))
        else fail (.unknownExtension (String.singleton c)) 2
    else return some (.single (← captured fuel depth start none))

def enclosed : Nat → Nat → Nat → Reader (List Node)
  | 0, _, _ => throw .tooDeep
  | fuel + 1, depth, start => do
    let body ← alternatives fuel (depth + 1) false
    closeBracket start
    return body

def captured : Nat → Nat → Nat → Option String → Reader Node
  | 0, _, _, _ => throw .tooDeep
  | fuel + 1, depth, start, name => do
    let index ← openGroup name
    let body := Node.ofList (← enclosed fuel depth start)
    closeGroup index body
    return .group (some index) body

def behind : Nat → Nat → Nat → Bool → Reader Node
  | 0, _, _, _ => throw .tooDeep
  | fuel + 1, depth, start, negated => do
    let outer := (← get).behindFrom
    modify fun s => { s with behindFrom := some (outer.getD (s.opened + 1)) }
    let body := Node.ofList (← alternatives fuel (depth + 1) false)
    modify fun s => { s with behindFrom := outer }
    closeBracket start
    return .behind negated (body.width (← get).closed) body

def choice : Nat → Nat → Nat → Reader Node
  | 0, _, _ => throw .tooDeep
  | fuel + 1, depth, start => do
    let index ← askedGroup
    let matched ← sequence fuel (depth + 1) false []
    let unmatched ←
      if ← take '|' then do
        let branch ← sequence fuel (depth + 1) false []
        if (← peek) == some (.plain '|') then fail .thirdBranch 0
        pure branch
      else pure []
    closeBracket start
    return .choice index (.ofList matched) (.ofList unmatched)

end

def maxBehind : Nat := 4294967295

/-- What is wrong with a pattern that is otherwise read: a repetition in a template, or a
look-behind that has not one width. -/
def Node.cause? (template : Bool) : Node → Option Cause
  | .seq a b | .alt a b | .choice _ a b => (a.cause? template).or (b.cause? template)
  | .times _ _ greed body =>
    if template then some (.repeatInTemplate greed) else body.cause? template
  | .group _ body | .ahead _ body | .atomic body => body.cause? template
  | .behind _ width body =>
    if maxBehind < width.1 then some .wideLookBehind
    else if width.2 ≠ some width.1 then some .varyingLookBehind
    else body.cause? template
  | _ => none

def checkWhole (node : Node) : Reader Unit := do
  let s ← get
  if s.options.ascii && s.options.unicode then throw .asciiAndUnicode
  if !s.rest.isEmpty then fail .strayBracket 0
  match s.asked.find? fun p => s.opened < p.1 with
  | some (index, place) => failAt (.noGroup index) place
  | none =>
    match node.cause? s.options.template with
    | some cause => throw (.malformed cause none)
    | none => return ()

def readNode (options : Options) (text : String) : Except Flaw (Options × Node) := do
  let source := text.toList
  let rest := Token.ofChars source
  let whole : Reader Node := do
    watchEnd
    let node := Node.ofList (← alternatives (6 * source.length + 6) 1 true)
    checkWhole node
    return node
  let (node, s) ← whole.run { source, endsOpen := Token.endsOpen source, rest, options }
  return (s.options, node)

end ParamGate.Pattern
