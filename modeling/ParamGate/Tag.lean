import ParamGate.Text.Digits

/-!
Type tags: sets of kinds of value, held as the bits of a natural number of any size. A negative
number is read in two's complement, over six bits or as many as it needs; bits that stand for no
kind are kept.
-/

namespace ParamGate

inductive Kind where
  | scalar
  | arrayref
  | hashref
  | coderef
  | undef
  | object
deriving DecidableEq, Repr

namespace Kind

def all : List Kind := [.scalar, .arrayref, .hashref, .coderef, .undef, .object]

def bit : Kind → Nat
  | .scalar => 0
  | .arrayref => 1
  | .hashref => 2
  | .coderef => 3
  | .undef => 4
  | .object => 5

def word : Kind → String
  | .scalar => "scalar"
  | .arrayref => "arrayref"
  | .hashref => "hashref"
  | .coderef => "coderef"
  | .undef => "undef"
  | .object => "object"

def tagName : Kind → String
  | .scalar => "SCALAR"
  | .arrayref => "ARRAYREF"
  | .hashref => "HASHREF"
  | .coderef => "CODEREF"
  | .undef => "UNDEF"
  | .object => "OBJECT"

theorem mem_all (k : Kind) : k ∈ all := by
  cases k <;> simp [all]

end Kind

/-- A set of kinds, possibly with further bits. -/
structure Tag where
  bits : Nat
deriving DecidableEq, Repr

namespace Tag

def ofKind (k : Kind) : Tag := ⟨1 <<< k.bit⟩

def boolean : Tag := ⟨17⟩

def bitLength (n : Nat) : Nat := if n = 0 then 0 else n.log2 + 1

/-- The width over which a negative number is read, as a power of two. -/
def modulus (magnitude : Nat) : Nat :=
  if magnitude ≤ 64 then 64 else max 64 (1 <<< bitLength magnitude)

def ofInt : Int → Tag
  | .ofNat n => ⟨n⟩
  | .negSucc n => ⟨modulus (n + 1) - (n + 1)⟩

def accepts (t : Tag) (k : Kind) : Bool := t.bits.testBit k.bit

def kinds (t : Tag) : List Kind := Kind.all.filter t.accepts

/-- The words of the kinds whose bit is set, in declared order. -/
def describe (t : Tag) : String := " ".intercalate (t.kinds.map Kind.word)

instance : OrOp Tag := ⟨fun s t => ⟨s.bits ||| t.bits⟩⟩
instance : AndOp Tag := ⟨fun s t => ⟨s.bits &&& t.bits⟩⟩
instance : XorOp Tag := ⟨fun s t => ⟨s.bits ^^^ t.bits⟩⟩

def unknownBits (t : Tag) : Nat := t.bits / 64 * 64

/-- Whether there can be such a tag. A tag with a known bit is named when it is made, and its
unknown bits are a number in the name. -/
def isNameable (t : Tag) : Bool := t.kinds.isEmpty || Text.isShort t.unknownBits

def make? (n : Int) : Option Tag := if (ofInt n).isNameable then some (ofInt n) else none

def union? (s t : Tag) : Option Tag := if (s ||| t).isNameable then some (s ||| t) else none

def name? (t : Tag) : Option String :=
  if t = boolean then some "BOOLEAN"
  else if t.kinds = [] then none
  else
    let unknown := if t.unknownBits = 0 then [] else [Text.natText t.unknownBits]
    some ("|".intercalate (t.kinds.map Kind.tagName ++ unknown))

def text (t : Tag) : String := Text.natText t.bits

def literal (t : Tag) : String :=
  match t.name? with
  | some n => "<ParamType." ++ n ++ ": " ++ t.text ++ ">"
  | none => "<ParamType: " ++ t.text ++ ">"

def named : List (String × Tag) :=
  Kind.all.map (fun k => (k.tagName, ofKind k)) ++ [("BOOLEAN", boolean)]

def ofName? (s : String) : Option Tag := (named.find? (·.1 = s)).map (·.2)

theorem accepts_or (s t : Tag) (k : Kind) : (s ||| t).accepts k = (s.accepts k || t.accepts k) :=
  Nat.testBit_or ..

theorem mem_kinds {t : Tag} {k : Kind} : k ∈ t.kinds ↔ t.accepts k = true := by
  simp [kinds, Kind.mem_all]

example : ofInt (-65) = ⟨63⟩ := by decide
example : (ofInt 65).name? = some "SCALAR|64" := by decide +kernel

end Tag

end ParamGate
