import Mathlib.Algebra.Group.Nat.Defs
import ParamGate.Text.Hex
import ParamGate.Text.Quoted

/-!
Reading quoted text back. The escape of a character tells the character and where it ends, so what
stands between quotes tells the text and what comes after it.
-/

namespace ParamGate.Text.Quoted

def hexValue (ds : List Char) : Nat :=
  ds.foldl (fun n d => 16 * n + (hexDigitValue? d).getD 0) 0

def readHex (width : Nat) (cs : List Char) : Char × List Char :=
  (Char.ofNat (hexValue (cs.take width)), cs.drop width)

def readMark : List Char → Option (Char × List Char)
  | [] => none
  | 'n' :: rest => some ('\n', rest)
  | 'r' :: rest => some ('\r', rest)
  | 't' :: rest => some ('\t', rest)
  | 'x' :: rest => some (readHex 2 rest)
  | 'u' :: rest => some (readHex 4 rest)
  | 'U' :: rest => some (readHex 8 rest)
  | c :: rest => some (c, rest)

def unescape : List Char → Option (Char × List Char)
  | [] => none
  | c :: cs => if c = '\\' then readMark cs else some (c, cs)

theorem hexDigitValue?_digitChar : ∀ d, d < 16 → hexDigitValue? (Nat.digitChar d) = some d := by
  decide

theorem hexValue_append (ds : List Char) (d : Char) :
    hexValue (ds ++ [d]) = 16 * hexValue ds + (hexDigitValue? d).getD 0 := by
  rw [hexValue, List.foldl_append]
  rfl

theorem hexValue_hexDigits (width n : Nat) : hexValue (hexDigits width n) = n % 16 ^ width := by
  induction width generalizing n with
  | zero => rw [Nat.pow_zero, Nat.mod_one]; rfl
  | succ width ih =>
    have hd := hexDigitValue?_digitChar (n % 16) (Nat.mod_lt n (by decide))
    rw [hexDigits, hexValue_append, ih, hexDigit, hd, Option.getD_some, Nat.pow_succ',
      Nat.mod_mul, Nat.add_comm]

theorem readHex_hexDigits {width : Nat} {c : Char} (h : c.toNat < 16 ^ width) (rest : List Char) :
    readHex width (hexDigits width c.toNat ++ rest) = (c, rest) := by
  have hlen := length_hexDigits width c.toNat
  rw [readHex, List.take_left' hlen, List.drop_left' hlen, hexValue_hexDigits, Nat.mod_eq_of_lt h,
    Char.ofNat_toNat]

theorem toNat_lt (c : Char) : c.toNat < 16 ^ 8 := by
  have h := c.val.toNat_lt
  exact h

theorem unescape_hexEscape (c : Char) (rest : List Char) :
    unescape (hexEscape c.toNat ++ rest) = some (c, rest) := by
  unfold hexEscape
  split
  · rename_i h
    exact congrArg some (readHex_hexDigits h rest)
  · split
    · rename_i h
      exact congrArg some (readHex_hexDigits h rest)
    · exact congrArg some (readHex_hexDigits (toNat_lt c) rest)

variable {q : Char} (hq : q = '\'' ∨ q = '"')

include hq

theorem unescape_escape (c : Char) (rest : List Char) :
    unescape (escape q c ++ rest) = some (c, rest) := by
  unfold escape
  split
  · rename_i h
    rcases h with rfl | rfl
    · rcases hq with rfl | rfl <;> rfl
    · rfl
  · rename_i h
    split
    · rename_i h
      cases h
      rfl
    · split
      · rename_i h
        cases h
        rfl
      · split
        · rename_i h
          cases h
          rfl
        · split
          · -- What stands for itself is no backslash: backslashes have been escaped above.
            exact if_neg fun hc => h (.inr hc)
          · exact unescape_hexEscape c rest

theorem escape_append_inj {c d : Char} {xs ys : List Char}
    (h : escape q c ++ xs = escape q d ++ ys) : c = d ∧ xs = ys := by
  have hread := congrArg unescape h
  rw [unescape_escape hq, unescape_escape hq] at hread
  cases hread
  exact ⟨rfl, rfl⟩

/-- The quote ends a text: inside it stands behind a backslash. -/
theorem escape_append_ne (c : Char) (xs ys : List Char) : escape q c ++ xs ≠ q :: ys := by
  intro h
  have hback : '\\' ≠ q := by
    rcases hq with rfl | rfl <;> decide
  have hread := congrArg unescape h
  rw [unescape_escape hq, unescape, if_neg hback.symm] at hread
  cases hread
  rw [escape, if_pos (.inl rfl)] at h
  exact hback (List.cons.inj h).1

theorem body_append_inj {xs ys r r' : List Char}
    (h : body q xs ++ q :: r = body q ys ++ q :: r') : xs = ys ∧ r = r' := by
  induction xs generalizing ys with
  | nil =>
    cases ys with
    | nil => exact ⟨rfl, (List.cons.inj h).2⟩
    | cons d ys =>
      rw [body, body, List.append_assoc] at h
      exact absurd h.symm (escape_append_ne hq d _ _)
  | cons c xs ih =>
    cases ys with
    | nil =>
      rw [body, body, List.append_assoc] at h
      exact absurd h (escape_append_ne hq c _ _)
    | cons d ys =>
      rw [body, body, List.append_assoc, List.append_assoc] at h
      obtain ⟨rfl, hrest⟩ := escape_append_inj hq h
      obtain ⟨rfl, hr⟩ := ih hrest
      exact ⟨rfl, hr⟩

omit hq

theorem encode_append (cs r : List Char) :
    encode cs ++ r = quoteFor cs :: (body (quoteFor cs) cs ++ quoteFor cs :: r) := by
  simp [encode]

theorem encode_append_inj {xs ys r r' : List Char} (h : encode xs ++ r = encode ys ++ r') :
    xs = ys ∧ r = r' := by
  rw [encode_append, encode_append] at h
  obtain ⟨hquote, hbody⟩ := List.cons.inj h
  rw [hquote] at hbody
  exact body_append_inj (quoteFor_eq ys) hbody

end ParamGate.Text.Quoted
