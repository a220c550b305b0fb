import ParamGate.Pattern.CharSet

/-!
Searching a text for a pattern, by backtracking. A place in the text comes with the groups matched
so far; a node is run with what has to match after it, and repetition stops on a round that would
start where the round before it started.
-/

namespace ParamGate.Pattern

open Text (Letters)

/-- A position; for each group matched so far where it begins and ends, and for each group entered
where it was; the latest first. -/
structure Place where
  pos : Nat
  groups : List (Nat × Nat × Nat) := []
  entered : List (Nat × Nat) := []

abbrev Continuation := Place → Option Place

/-- Whether a group has matched. One that is being matched again counts if it was entered before its
last match ended. -/
def Place.hasMatched (p : Place) (index : Nat) : Bool :=
  match p.groups.find? (·.1 == index), p.entered.find? (·.1 == index) with
  | some (_, _, last), some (_, first) => first ≤ last
  | _, _ => false

/-- Whether a word begins or ends here; an empty text has neither a boundary nor its absence. -/
def atBoundary (ls : Letters) (text : Array Char) (pos : Nat) (negated : Bool) : Bool :=
  let word (i : Nat) : Bool := (text[i]?).any (ls.isWord ·.toNat)
  let before := 0 < pos && word (pos - 1)
  text.size != 0 && (before != word pos) != negated

def repeats (ls : Letters) (text : Array Char) (first last pos : Nat) : Bool :=
  (List.range (last - first)).all fun i =>
    match text[first + i]?, text[pos + i]? with
    | some a, some b => ls.sameRead a.toNat b.toNat
    | _, _ => false

def oneChar (text : Array Char) (one : Char → Bool) : Continuation → Continuation := fun k p =>
  if (text[p.pos]?).any one then k { p with pos := p.pos + 1 } else none

def Node.oneChar? : Node → Option (Char → Bool)
  | .char ls negated code => some fun c => ls.same code c.toNat != negated
  | .any newline => some fun c => newline || c != '\n'
  | .set ls negated items => some fun c => setContains ls items c.toNat != negated
  | _ => none

def runLength (text : Array Char) (p : Char → Bool) (pos : Nat) : Nat → Nat → Nat
  | 0, count => count
  | limit + 1, count =>
    if (text[pos + count]?).any p then runLength text p pos limit (count + 1) else count

def firstDown (least : Nat) (f : Nat → Option Place) : Nat → Option Place
  | 0 => if least = 0 then f 0 else none
  | n + 1 =>
    if n + 1 < least then none
    else match f (n + 1) with
      | some q => some q
      | none => firstDown least f n

def firstUp (f : Nat → Option Place) (n : Nat) : Nat → Option Place
  | 0 => none
  | count + 1 =>
    match f n with
    | some q => some q
    | none => firstUp f (n + 1) count

def repeatChar (text : Array Char) (one : Char → Bool) (least : Nat) (most : Option Nat)
    (greed : Greed) (k : Continuation) (p : Place) : Option Place :=
  let room := text.size - p.pos
  let longest := runLength text one p.pos ((most.map (min room ·)).getD room) 0
  let after (n : Nat) : Option Place := k { p with pos := p.pos + n }
  if longest < least then none
  else match greed with
    | .greedy => firstDown least after longest
    | .reluctant => firstUp after least (longest + 1 - least)
    | .possessive => after longest

/-- One round after the other. `last` is where the latest round beyond the least number began; a
round that would begin there again is not tried. -/
def rounds (body : Continuation → Continuation) (least : Nat) (most : Option Nat) (greedy : Bool)
    (k : Continuation) : Nat → Nat → Option Nat → Continuation
  | 0, _, _, _ => none
  | fuel + 1, count, last, p =>
    if count < least then body (rounds body least most greedy k fuel (count + 1) last) p
    else
      let room := most.all (count < ·) && last != some p.pos
      let next := rounds body least most greedy k fuel (count + 1) (some p.pos)
      let more : Unit → Option Place := fun _ => if room then body next p else none
      if greedy then (more ()).orElse fun _ => k p else (k p).orElse more

/-- Rounds that give nothing back: each is run on its own, as often as it matches. -/
def firmRounds (round : Continuation) (least : Nat) (most : Option Nat) :
    Nat → Nat → Option Nat → Continuation
  | 0, _, _, _ => none
  | fuel + 1, count, last, p =>
    if count < least then (round p).bind (firmRounds round least most fuel (count + 1) last)
    else if most.all (count < ·) && last != some p.pos then
      match round p with
      | some q => firmRounds round least most fuel (count + 1) (some p.pos) q
      | none => some p
    else some p

def repeatNode (text : Array Char) (body : Continuation → Continuation) (least : Nat)
    (most : Option Nat) (greed : Greed) (k : Continuation) (p : Place) : Option Place :=
  let fuel := least + (text.size - p.pos) + 3
  match greed with
  | .greedy => rounds body least most true k fuel 0 none p
  | .reluctant => rounds body least most false k fuel 0 none p
  | .possessive => (firmRounds (body some) least most fuel 0 none p).bind k

def Node.run (text : Array Char) : Node → Continuation → Continuation
  | .empty, k, p => k p
  | .char ls negated code, k, p => oneChar text (fun c => ls.same code c.toNat != negated) k p
  | .any newline, k, p => oneChar text (fun c => newline || c != '\n') k p
  | .set ls negated items, k, p =>
    oneChar text (fun c => setContains ls items c.toNat != negated) k p
  | .lineStart, k, p =>
    if p.pos = 0 ∨ text[p.pos - 1]? = some '\n' then k p else none
  | .lineEnd, k, p =>
    if p.pos = text.size ∨ text[p.pos]? = some '\n' then k p else none
  | .textStart, k, p => if p.pos = 0 then k p else none
  | .textEnd, k, p => if p.pos = text.size then k p else none
  | .beforeFinalNewline, k, p =>
    if p.pos = text.size ∨ p.pos + 1 = text.size ∧ text[p.pos]? = some '\n' then k p else none
  | .boundary ls negated, k, p => if atBoundary ls text p.pos negated then k p else none
  | .seq a b, k, p => a.run text (b.run text k) p
  | .alt a b, k, p => (a.run text k p).orElse fun _ => b.run text k p
  | .times least most greed body, k, p =>
    match body.oneChar? with
    | some one => repeatChar text one least most greed k p
    | none => repeatNode text (body.run text) least most greed k p
  | .group none body, k, p => body.run text k p
  | .group (some index) body, k, p =>
    body.run text (fun q => k { q with groups := (index, p.pos, q.pos) :: q.groups })
      { p with entered := (index, p.pos) :: p.entered }
  | .backref ls index, k, p =>
    match p.groups.find? (·.1 == index) with
    | some (_, first, last) =>
      if repeats ls text first last p.pos then k { p with pos := p.pos + (last - first) } else none
    | none => none
  | .choice index matched unmatched, k, p =>
    if p.hasMatched index then matched.run text k p else unmatched.run text k p
  | .ahead negated body, k, p =>
    match body.run text some p with
    | some q => if negated then none else k { q with pos := p.pos }
    | none => if negated then k p else none
  | .behind negated width body, k, p =>
    let found :=
      if width.1 ≤ p.pos then body.run text some { p with pos := p.pos - width.1 } else none
    match found with
    | some q => if negated then none else k { q with pos := p.pos }
    | none => if negated then k p else none
  | .atomic body, k, p => (body.run text some p).bind k

def Node.headSet? : Node → Option (Letters × Bool × List Item)
  | .set ls negated items => some (ls, negated, items)
  | .seq a _ => a.headSet?
  | .group _ body => body.headSet?
  | _ => none

/-- Where a match may begin: a set at the head that has no case is looked for ahead of the match,
its classes as they are for the whole pattern. -/
def Node.mayBegin (n : Node) (whole : Letters) (text : Array Char) (pos : Nat) : Bool :=
  match n.headSet? with
  | none => true
  | some (ls, negated, items) =>
    if ls.ignoreCase && items.any (·.isCased ls) then true
    else (text[pos]?).any fun c => items.any (·.holds whole c.toNat) != negated

def Node.occursIn (n : Node) (whole : Letters) (text : String) : Bool :=
  let cs := text.toList.toArray
  (List.range (cs.size + 1)).any fun i =>
    n.mayBegin whole cs i && (n.run cs some { pos := i }).isSome

end ParamGate.Pattern
