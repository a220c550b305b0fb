import ParamGate.Text.Letters

/-!
The syntax of search patterns. Characters are held as code points, since a pattern may name one that
no text contains.
-/

namespace ParamGate.Pattern

open Text (Letters)

inductive CharKind where
  | digit
  | word
  | blank
deriving DecidableEq, Repr

inductive Item where
  | one (code : Nat)
  | range (first last : Nat)
  | kind (k : CharKind) (negated : Bool)
deriving DecidableEq, Repr

inductive Greed where
  | greedy
  | reluctant
  | possessive
deriving DecidableEq, Repr

abbrev Width := Nat × Option Nat

/-- A pattern. A group without a number is one with options of its own; `choice` goes on with one
node or the other according to whether a group has matched. -/
inductive Node where
  | empty
  | char (letters : Letters) (negated : Bool) (code : Nat)
  | any (newline : Bool)
  | set (letters : Letters) (negated : Bool) (items : List Item)
  | lineStart
  | lineEnd
  | textStart
  | textEnd
  | beforeFinalNewline
  | boundary (letters : Letters) (negated : Bool)
  | seq (first second : Node)
  | alt (first second : Node)
  | times (least : Nat) (most : Option Nat) (greed : Greed) (body : Node)
  | group (index : Option Nat) (body : Node)
  | backref (letters : Letters) (index : Nat)
  | choice (index : Nat) (matched unmatched : Node)
  | ahead (negated : Bool) (body : Node)
  | behind (negated : Bool) (width : Width) (body : Node)
  | atomic (body : Node)
deriving DecidableEq, Repr

namespace Width

def fixed (n : Nat) : Width := (n, some n)

def add (v w : Width) : Width := (v.1 + w.1, do return (← v.2) + (← w.2))

def join (v w : Width) : Width := (min v.1 w.1, do return max (← v.2) (← w.2))

def scale (least : Nat) (most : Option Nat) (w : Width) : Width :=
  (least * w.1,
    if most = some 0 ∨ w.2 = some 0 then some 0 else do return (← most) * (← w.2))

end Width

namespace Node

def width (groups : List (Nat × Width)) : Node → Width
  | .empty | .lineStart | .lineEnd | .textStart | .textEnd | .beforeFinalNewline
  | .boundary .. | .ahead .. | .behind .. => .fixed 0
  | .char .. | .any _ | .set .. => .fixed 1
  | .seq a b => (a.width groups).add (b.width groups)
  | .alt a b | .choice _ a b => (a.width groups).join (b.width groups)
  | .times least most _ body => (body.width groups).scale least most
  | .group _ body | .atomic body => body.width groups
  | .backref _ i => ((groups.find? (·.1 == i)).map (·.2)).getD (0, none)

def ofList : List Node → Node
  | [] => .empty
  | [a] => a
  | a :: rest => .seq a (ofList rest)

def isLeaf : Node → Bool
  | .char .. | .any _ | .set .. | .lineStart | .lineEnd | .textStart | .textEnd
  | .beforeFinalNewline | .boundary .. | .backref .. => true
  | _ => false

def items? : List Node → Option (List Item)
  | [.char _ false code] => some [.one code]
  | [.set _ false items] => some items
  | _ => none

/-- The leaves that all branches begin with, and what is left of the branches. -/
def sharedHead : List Node → List (List Node) → List Node × List (List Node)
  | [], others => ([], [] :: others)
  | n :: rest, others =>
    if n.isLeaf && others.all (·.head? == some n) then
      let (shared, branches) := sharedHead rest (others.map List.tail)
      (n :: shared, branches)
    else ([], (n :: rest) :: others)

/-- Branches that are tried in order; branches of one character each are one set. -/
def ofBranches (letters : Letters) (branches : List (List Node)) : List Node :=
  match branches with
  | [] => []
  | [branch] => branch
  | first :: others =>
    let (shared, branches) := sharedHead first others
    match branches.mapM items? with
    | some lists => shared ++ [.set letters false lists.flatten.eraseDups]
    | none =>
      let branches := branches.map ofList
      shared ++ [branches.dropLast.foldr .alt (branches.getLastD .empty)]

end Node

end ParamGate.Pattern
