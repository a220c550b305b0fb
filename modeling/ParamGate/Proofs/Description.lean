import Mathlib.Data.Int.Bitwise
import Mathlib.Data.List.TFAE
import Mathlib.Tactic.TFAE
import ParamGate.Proofs.Decoding
import ParamGate.Proofs.Precedence
import ParamGate.Proofs.Screening

/-!
What a tag accepts and what its description says. A number of any size and sign stands for the kinds
whose bits it has in two's complement; these are the kinds that a rule of that type accepts and the
words that the tag is described by.
-/

namespace ParamGate

open Run

/-- The words of a text: what stands between its blanks. -/
def Text.words (s : String) : List String :=
  ((s.toList.splitOn ' ').map String.ofList).filter (· ≠ "")

theorem Text.words_intercalate {ws : List String} (h : ∀ w ∈ ws, w ≠ "" ∧ ' ' ∉ w.toList) :
    words (" ".intercalate ws) = ws := by
  by_cases hnil : ws = []
  · subst hnil
    decide
  · have hblank : ∀ l ∈ ws.map String.toList, ' ' ∉ l := by
      intro l hl
      obtain ⟨w, hw, rfl⟩ := List.mem_map.mp hl
      exact (h w hw).2
    have hback : (ws.map String.toList).map String.ofList = ws := by
      simp [List.map_map, Function.comp_def]
    have hsplit : (" ".intercalate ws).toList.splitOn ' ' = ws.map String.toList := by
      rw [String.toList_intercalate]
      exact List.splitOn_intercalate ' ' hblank (by simpa using hnil)
    rw [words, hsplit, hback, List.filter_eq_self]
    intro w hw
    simpa using (h w hw).1

namespace Kind

theorem word_ne_nil (k : Kind) : k.word ≠ "" ∧ ' ' ∉ k.word.toList := by
  cases k <;> decide

theorem word_injective : Function.Injective word := by
  intro k l h
  cases k <;> cases l <;> simp [word] at h ⊢

theorem nodup_all : all.Nodup := by decide

theorem bit_lt (k : Kind) : k.bit < 6 := by
  cases k <;> decide

theorem exists_value (k : Kind) : ∃ v : Value, v.kind = k := by
  cases k with
  | scalar => exact ⟨.bool true, rfl⟩
  | arrayref => exact ⟨.list [], rfl⟩
  | hashref => exact ⟨.map .dict [], rfl⟩
  | coderef => exact ⟨.function .length, rfl⟩
  | undef => exact ⟨.null, rfl⟩
  | object => exact ⟨.set [], rfl⟩

end Kind

namespace Tag

variable {s t : Tag} {k : Kind}

theorem exists_modulus (magnitude : Nat) :
    ∃ width, 6 ≤ width ∧ modulus magnitude = 2 ^ width ∧ magnitude ≤ 2 ^ width := by
  unfold modulus
  split
  · rename_i hsmall
    exact ⟨6, Nat.le_refl 6, rfl, hsmall⟩
  · rename_i hlarge
    have hne : magnitude ≠ 0 := by omega
    have hlt : magnitude < 2 ^ (magnitude.log2 + 1) := Nat.lt_log2_self
    have hwide : 2 ^ 6 < 2 ^ (magnitude.log2 + 1) := by omega
    refine ⟨magnitude.log2 + 1, ?_, ?_, Nat.le_of_lt hlt⟩
    · exact Nat.le_of_lt ((Nat.pow_lt_pow_iff_right (by decide)).mp hwide)
    · rw [bitLength, if_neg hne, Nat.one_shiftLeft]
      exact Nat.max_eq_right (Nat.le_of_lt hwide)

theorem modulus_sub_le {magnitude : Nat} (h : 64 < magnitude) :
    modulus magnitude - magnitude ≤ magnitude := by
  have hne : magnitude ≠ 0 := by omega
  have hpow : 2 ^ magnitude.log2 ≤ magnitude := Nat.log2_self_le hne
  rw [modulus, if_neg (Nat.not_le.mpr h), bitLength, if_neg hne, Nat.one_shiftLeft, Nat.pow_succ]
  omega

theorem unknownBits_ofInt_le (n : Int) : (ofInt n).unknownBits ≤ n.natAbs := by
  cases n with
  | ofNat m =>
    show m / 64 * 64 ≤ m
    exact Nat.div_mul_le_self m 64
  | negSucc m =>
    show (modulus (m + 1) - (m + 1)) / 64 * 64 ≤ m + 1
    have hbits : (modulus (m + 1) - (m + 1)) / 64 * 64 ≤ modulus (m + 1) - (m + 1) :=
      Nat.div_mul_le_self _ 64
    by_cases hlarge : 64 < m + 1
    · exact Nat.le_trans hbits (modulus_sub_le hlarge)
    · rw [modulus, if_pos (Nat.le_of_not_lt hlarge)]
      omega

theorem isNameable_eq_false :
    t.isNameable = false ↔ (∃ k, t.accepts k = true) ∧ Text.isShort t.unknownBits = false := by
  have hkinds : t.kinds.isEmpty = false ↔ ∃ k, t.accepts k = true := by
    rw [List.isEmpty_eq_false_iff_exists_mem]
    simp only [mem_kinds]
  rw [isNameable, Bool.or_eq_false_iff, hkinds]

theorem make?_eq_some {n : Int} : make? n = some t ↔ (ofInt n).isNameable = true ∧ ofInt n = t := by
  rw [make?, Option.ite_none_right_eq_some, Option.some.injEq]

theorem make?_eq_none {n : Int} : make? n = none ↔ (ofInt n).isNameable = false := by
  simp [make?]

theorem union?_eq_none : union? s t = none ↔ (s ||| t).isNameable = false := by
  simp [union?]

theorem union?_eq_some {u : Tag} :
    union? s t = some u ↔ (s ||| t).isNameable = true ∧ s ||| t = u := by
  rw [union?, Option.ite_none_right_eq_some, Option.some.injEq]

theorem exists_make? {n : Int} (h : Text.isShort n = true) : ∃ t, make? n = some t := by
  have hunknown : Text.isShort (ofInt n).unknownBits = true := by
    refine Text.isShort_of_le ?_ h
    rw [Int.natAbs_natCast]
    exact unknownBits_ofInt_le n
  exact ⟨ofInt n, make?_eq_some.mpr ⟨by rw [isNameable, hunknown, Bool.or_true], rfl⟩⟩

theorem accepts_ofInt (n : Int) (k : Kind) : (ofInt n).accepts k = n.testBit k.bit := by
  cases n with
  | ofNat m => rfl
  | negSucc m =>
    obtain ⟨width, hwidth, hmod, hle⟩ := exists_modulus (m + 1)
    have hin : k.bit < width := Nat.lt_of_lt_of_le k.bit_lt hwidth
    show (modulus (m + 1) - (m + 1)).testBit k.bit = !m.testBit k.bit
    rw [hmod, Nat.testBit_two_pow_sub_succ hle, decide_eq_true hin, Bool.true_and]

theorem kinds_ofKind (k : Kind) : (ofKind k).kinds = [k] := by
  cases k <;> decide

theorem kinds_ofInt (n : Int) : (ofInt n).kinds = Kind.all.filter fun k => n.testBit k.bit :=
  List.filter_congr fun k _ => accepts_ofInt n k

theorem words_describe (t : Tag) : Text.words t.describe = t.kinds.map Kind.word := by
  apply Text.words_intercalate
  intro w hw
  obtain ⟨k, -, rfl⟩ := List.mem_map.mp hw
  exact k.word_ne_nil

theorem word_mem_describe : k.word ∈ Text.words t.describe ↔ t.accepts k = true := by
  rw [words_describe, List.mem_map_of_injective Kind.word_injective, mem_kinds]

theorem nodup_words_describe (t : Tag) : (Text.words t.describe).Nodup := by
  rw [words_describe]
  exact (Kind.nodup_all.filter _).map Kind.word_injective

theorem describe_or {w : String} :
    w ∈ Text.words (s ||| t).describe ↔ w ∈ Text.words s.describe ∨ w ∈ Text.words t.describe := by
  simp only [words_describe, List.mem_map, mem_kinds, accepts_or, Bool.or_eq_true, or_and_right,
    exists_or]

theorem describe_eq_iff : s.describe = t.describe ↔ ∀ k, s.accepts k = t.accepts k := by
  constructor
  · intro h k
    rw [Bool.eq_iff_iff, ← word_mem_describe, ← word_mem_describe, h]
  · intro h
    have hkinds : s.kinds = t.kinds := List.filter_congr fun k _ => h k
    rw [describe, describe, hkinds]

end Tag

namespace Rule

def typed (t : Tag) : Rule := { type := some t, given := [.type] }

theorem ofEntries_type {n : Int} {t : Tag} (h : Tag.make? n = some t) :
    ofEntries [(.text "type", .int n)] = .ok (typed t) := by
  have htag : (Value.int n).asTag = .ok (some t) := by rw [Value.asTag, h]
  have hnamed : ∀ p ∈ [(Value.text "type", Value.int n)], ∃ f : Field, p.1 = .text f.name :=
    List.forall_mem_singleton.mpr ⟨.type, rfl⟩
  exact ofEntries_eq_ok.mpr ⟨hnamed, htag, rfl, rfl, rfl, rfl, rfl, rfl⟩

theorem readField_of_error {α : Type} {es : Entries} {f : Field} {default : α}
    {read : Value → Except Complaint α} {v : Value} {c : Complaint} (hv : given? es f = some v)
    (hc : read v = .error c) : readField es f default read = .error [⟨[.text f.name], c⟩] := by
  rw [readField, hv]
  dsimp only
  rw [hc]

theorem ofEntries_type_eq_error {n : Int} (h : Tag.make? n = none) :
    ofEntries [(.text "type", .int n)] = .error (.fields [⟨[.text "type"], .longTag⟩]) := by
  have htag : (Value.int n).asTag = .error .longTag := by rw [Value.asTag, h]
  have hread : readField [(.text "type", .int n)] .type none Value.asTag =
      .error [⟨[.text "type"], .longTag⟩] := readField_of_error rfl htag
  refine ofEntries_eq_fields.mpr ⟨rfl, ?_⟩
  rw [collect, hread]
  rfl

theorem staticFault?_typed {t : Tag} {v : Value} :
    (typed t).staticFault? v = none ↔ t.accepts v.kind = true := by
  rw [staticFault?_eq_none, fits_iff, Tag.accepts_iff]
  simp [typed]

theorem typed_alike_iff {s t : Tag} :
    (∀ v, (typed s).staticFault? v = none ↔ (typed t).staticFault? v = none) ↔
      s.describe = t.describe := by
  simp only [staticFault?_typed, Tag.describe_eq_iff, ← Bool.eq_iff_iff]
  constructor
  · intro h k
    obtain ⟨v, rfl⟩ := k.exists_value
    exact h v
  · intro h v
    exact h v.kind

theorem typed_tfae {n : Int} {t : Tag} (h : Tag.make? n = some t) (v : Value) :
    [(typed t).staticFault? v = none,
      (Tag.ofKind v.kind &&& t).bits ≠ 0,
      v.kind.word ∈ Text.words t.describe,
      n.testBit v.kind.bit = true].TFAE := by
  obtain ⟨-, rfl⟩ := Tag.make?_eq_some.mp h
  tfae_have 1 ↔ 3 := staticFault?_typed.trans Tag.word_mem_describe.symm
  tfae_have 2 ↔ 3 := Tag.accepts_iff.symm.trans Tag.word_mem_describe.symm
  tfae_have 4 ↔ 3 := by rw [Tag.word_mem_describe, Tag.accepts_ofInt]
  tfae_finish

theorem failsPlainly_of_fault? {σ : Type} {host : Host σ} {r : Rule} {v : Value} {s t : Stage σ}
    {found : Kind} {allowed : Tag} (h : r.fault? host v s = .ok (some (.kind found allowed)) t) :
    r.FailsPlainly v (.kind found allowed) := by
  unfold fault? at h
  cases hs : r.staticFault? v with
  | some f =>
    rw [hs] at h
    cases h
    exact staticFault?_eq_some.mp hs
  | none =>
    rw [hs] at h
    obtain ⟨label, u, -, hl⟩ := bind_eq_ok.mp h
    cases label <;> cases hl

theorem FailsPlainly.kind_refused {r : Rule} {v : Value} {found : Kind} {allowed : Tag}
    (h : r.FailsPlainly v (.kind found allowed)) :
    found = v.kind ∧ found.word ∉ Text.words allowed.describe := by
  cases h with
  | type ht hn =>
    refine ⟨rfl, ?_⟩
    rw [Tag.word_mem_describe, Tag.accepts_iff, hn]
    exact fun h => h rfl

end Rule

theorem Arguments.params_ne_check {args name v : Value} {f : CheckFault} :
    Arguments.params args ≠ .error (.check name v f) := by
  intro h
  rcases misshapen_of_params h with hlong | hmisshapen
  · cases hlong
  · cases hmisshapen

section Mismatch

variable {σ : Type} {host : Host σ} {S : Settings} {caller caller' : Value} {rules : Spec}
  {name v : Value} {found : Kind} {allowed : Tag}

theorem Spec.failsPlainly_of_checkValues {s t : Stage σ}
    (h : rules.checkValues host caller s =
      .error (.arguments caller' (.check name v (.kind found allowed))) t) :
    ∃ r, (name, r) ∈ rules ∧ r.FailsPlainly v (.kind found allowed) := by
  induction rules generalizing s with
  | nil => cases h
  | cons q rest ih =>
    rcases q with ⟨name', r⟩
    have hlater {u : Stage σ} (hu : checkValues host caller rest u =
        .error (.arguments caller' (.check name v (.kind found allowed))) t) :
        ∃ r', (name, r') ∈ (name', r) :: rest ∧ r'.FailsPlainly v (.kind found allowed) := by
      obtain ⟨r', hr', hm⟩ := ih hu
      exact ⟨r', List.mem_cons_of_mem _ hr', hm⟩
    rw [checkValues, get_bind] at h
    cases hv : Entries.find? s.params name' with
    | none =>
      rw [hv] at h
      exact hlater h
    | some u =>
      rw [hv] at h
      rcases bind_eq_error.mp h with h | ⟨f, u, hf, h⟩
      · obtain ⟨e, -, he⟩ := raisedAs_eq_error.mp h
        cases he
      · cases f with
        | some f =>
          cases h
          exact ⟨r, List.mem_cons_self, Rule.failsPlainly_of_fault? (raisedAs_eq_ok.mp hf)⟩
        | none => exact hlater h

theorem Spec.failsPlainly_of_screen {w t : World σ}
    (h : rules.screen host S caller w =
      .error (.arguments caller' (.check name v (.kind found allowed))) t) :
    ∃ r, (name, r) ∈ rules ∧ r.FailsPlainly v (.kind found allowed) := by
  have hg := screen_screens host S caller rules w
  rw [h] at hg
  generalize hr : EStateM.Result.error _ t = result at hg
  cases hg with
  | unread hp =>
    cases hr
    exact absurd hp Arguments.params_ne_check
  | unchecked hp hn => cases hr
  | misnamed hp hn hf =>
    cases hr
    rcases nameFault?_eq_some.mp hf with ⟨-, -, hf⟩ | ⟨-, -, hf⟩
    · unfold unlistedFault at hf
      split at hf <;> cases hf
    · cases hf
  | @checked params hp hn hf =>
    cases hc : rules.checkValues host caller { w with params := params } with
    | ok u s =>
      rw [hc] at hr
      cases hr
    | error e s =>
      rw [hc] at hr
      cases hr
      exact failsPlainly_of_checkValues hc

theorem failsPlainly_of_validateParams {args spec called : Value} {settings : Option Settings}
    {w t : World σ}
    (h : validateParams host args spec called settings w =
      .error (.arguments caller' (.check name v (.kind found allowed))) t) :
    ∃ rules : Spec, rules.WrittenAs spec ∧
      ∃ r, (name, r) ∈ rules ∧ r.FailsPlainly v (.kind found allowed) := by
  rw [validateParams, World.receive_bind] at h
  rcases bind_eq_error.mp h with h | ⟨S, w₁, -, h⟩
  · obtain ⟨-, -, faults, -, he, -⟩ := World.settings_eq_error.mp h
    cases he
  · cases hs : Spec.ofValue spec with
    | error f =>
      rw [validateUnder, hs] at h
      cases h
    | ok rules =>
      rw [validateUnder_of_spec hs] at h
      rcases bind_eq_error.mp h with h | ⟨params, u, -, h⟩
      · exact ⟨rules, Spec.ofValue_eq_ok.mp hs, Spec.failsPlainly_of_screen h⟩
      · cases h

end Mismatch

/-- What a whole number accepts as the type of a rule, what it is described by and which bits it has
in two's complement are one and the same. There is a tag of it unless it has the bit of a kind, and
bits besides that are too long a number; then there is no such rule either. Tags that are described
alike accept alike, a union is described by the words of both, and where a value is reported to be
of a wrong kind, its kind is not among those that are listed. -/
theorem tags_accept_what_they_describe {σ : Type} (host : Host σ) (args spec called : Value)
    (settings : Option Settings) (w : World σ) :
    (∀ (n : Int) (t : Tag), Tag.make? n = some t →
      Rule.ofEntries [(.text "type", .int n)] = .ok (.typed t) ∧
        (∀ v : Value,
          Text.words (Tag.ofKind v.kind).describe = [v.kind.word] ∧
            [(Rule.typed t).staticFault? v = none,
              (Tag.ofKind v.kind &&& t).bits ≠ 0,
              v.kind.word ∈ Text.words t.describe,
              n.testBit v.kind.bit = true].TFAE) ∧
        Text.words t.describe = (Kind.all.filter fun k => n.testBit k.bit).map Kind.word ∧
        (Text.words t.describe).Nodup) ∧
      (∀ n : Int, Tag.make? n = none →
        Rule.ofEntries [(.text "type", .int n)] =
            .error (.fields [⟨[.text "type"], .longTag⟩]) ∧
          (∃ k : Kind, n.testBit k.bit = true) ∧
          Text.isShort (Tag.ofInt n).unknownBits = false ∧ Text.isShort n = false) ∧
      (∀ s t u : Tag, Tag.union? s t = some u → ∀ word, word ∈ Text.words u.describe ↔
        word ∈ Text.words s.describe ∨ word ∈ Text.words t.describe) ∧
      (∀ s t : Tag, Tag.union? s t = none → Text.isShort (s ||| t).unknownBits = false) ∧
      (∀ s t : Tag, (∀ v, (Rule.typed s).staticFault? v = none ↔
        (Rule.typed t).staticFault? v = none) ↔ s.describe = t.describe) ∧
      ∀ caller name v found allowed,
        outcome (validateParams host args spec called settings w) =
            .error (.arguments caller (.check name v (.kind found allowed))) →
          found = v.kind ∧ found.word ∉ Text.words allowed.describe := by
  refine ⟨fun n t hn => ⟨Rule.ofEntries_type hn, fun v => ⟨?_, Rule.typed_tfae hn v⟩, ?_,
      Tag.nodup_words_describe t⟩, fun n hn => ⟨Rule.ofEntries_type_eq_error hn, ?_⟩,
    fun s t u hu word => ?_, fun s t hu => ?_, fun s t => Rule.typed_alike_iff,
    fun caller name v found allowed h => ?_⟩
  · rw [Tag.words_describe, Tag.kinds_ofKind, List.map_singleton]
  · obtain ⟨-, rfl⟩ := Tag.make?_eq_some.mp hn
    rw [Tag.words_describe, Tag.kinds_ofInt]
  · obtain ⟨⟨k, hk⟩, hlong⟩ := Tag.isNameable_eq_false.mp (Tag.make?_eq_none.mp hn)
    refine ⟨⟨k, by rw [← Tag.accepts_ofInt, hk]⟩, hlong, ?_⟩
    by_contra hshort
    rw [Bool.not_eq_false] at hshort
    obtain ⟨t, ht⟩ := Tag.exists_make? hshort
    rw [hn] at ht
    cases ht
  · obtain ⟨-, rfl⟩ := Tag.union?_eq_some.mp hu
    exact Tag.describe_or
  · exact (Tag.isNameable_eq_false.mp (Tag.union?_eq_none.mp hu)).2
  · obtain ⟨t, ht⟩ := outcome_eq_error.mp h
    obtain ⟨-, -, r, -, hfails⟩ := failsPlainly_of_validateParams ht
    exact hfails.kind_refused

/-- The number -18 has every bit in two's complement but those of scalars and of nothing. -/
def negativeSpec : Value :=
  .map .dict [(.text "a", .map .dict [(.text "type", .int (-18))])]

theorem tags_accept_what_they_describe_of_negative :
    outcome (validateParams pairedHost (.map .dict [(.text "a", .text "x")]) negativeSpec .null
        (some { allowExtra := true }) { host := [] }) =
      .error (.arguments (.text "N/A") (.check (.text "a") (.text "x") (.kind .scalar ⟨46⟩))) ∧
    (Value.text "x").kind.word ∉ Text.words (Tag.describe ⟨46⟩) := by
  have hrun : outcome (validateParams pairedHost (.map .dict [(.text "a", .text "x")]) negativeSpec
      .null (some { allowExtra := true }) { host := [] }) =
    .error (.arguments (.text "N/A") (.check (.text "a") (.text "x") (.kind .scalar ⟨46⟩))) := rfl
  exact ⟨hrun, ((tags_accept_what_they_describe pairedHost _ _ _ _ _).2.2.2.2.2 _ _ _ _ _ hrun).2⟩

end ParamGate
