import ParamGate.Arguments
import ParamGate.Proofs.Entries

/-!
The parameters that arguments supply: the entries of a mapping, or what a sequence of names and
values taking turns says, the later value of a name that comes again. Nothing else supplies any.
-/

namespace ParamGate.Arguments

def named (pairs : List (String × Value)) : Entries := pairs.map fun p => (.text p.1, p.2)

inductive Supply : Value → Entries → Prop
  | mapping (kind : MapKind) (es : Entries) : Supply (.map kind es) (Entries.ofPairs es)
  | sequence {args : Value} (pairs : List (String × Value))
    (h : args.items? = some (flatten (named pairs))) : Supply args (Entries.ofPairs (named pairs))

theorem Supply.distinct {args : Value} {params : Entries} (h : Supply args params) :
    Entries.Distinct params := by
  cases h with
  | mapping kind es => exact Entries.distinct_ofPairs es
  | sequence pairs h => exact Entries.distinct_ofPairs (named pairs)

theorem length_flatten (es : Entries) : (flatten es).length = 2 * es.length := by
  induction es with
  | nil => rfl
  | cons p es ih =>
    rw [flatten, List.length_cons, List.length_cons, List.length_cons, ih]
    omega

theorem pairUp_eq_ok {position : Nat} {acc params : Entries} {vs : List Value} :
    pairUp position acc vs = .ok params ↔
      ∃ pairs, vs = flatten (named pairs) ∧ params = Entries.putAll acc (named pairs) := by
  fun_induction pairUp position acc vs with
  | case1 position acc =>
    constructor
    · intro h
      cases h
      exact ⟨[], rfl, rfl⟩
    · rintro ⟨pairs, hvs, rfl⟩
      cases pairs with
      | nil => rfl
      | cons p pairs => cases hvs
  | case2 position acc v =>
    constructor
    · intro h
      cases h
    · rintro ⟨pairs, hvs, -⟩
      have hlen := congrArg List.length hvs
      rw [length_flatten, List.length_singleton] at hlen
      omega
  | case3 position acc name v rest ih =>
    rw [ih]
    constructor
    · rintro ⟨pairs, rfl, rfl⟩
      exact ⟨(name, v) :: pairs, rfl, rfl⟩
    · rintro ⟨pairs, hvs, rfl⟩
      cases pairs with
      | nil => cases hvs
      | cons p pairs =>
        cases hvs
        exact ⟨pairs, rfl, rfl⟩
  | case4 position acc other v rest hother =>
    constructor
    · intro h
      cases h
    · rintro ⟨pairs, hvs, -⟩
      cases pairs with
      | nil => cases hvs
      | cons p pairs =>
        cases hvs
        exact absurd rfl (hother p.1)

theorem ofItems_eq_ok {vs : List Value} {params : Entries} :
    ofItems vs = .ok params ↔
      ∃ pairs, vs = flatten (named pairs) ∧ params = Entries.ofPairs (named pairs) := by
  unfold ofItems
  split
  · rename_i hodd
    constructor
    · intro h
      cases h
    · rintro ⟨pairs, rfl, -⟩
      rw [length_flatten] at hodd
      omega
  · exact pairUp_eq_ok

theorem params_of_not_items {args : Value} (hm : ∀ kind es, args ≠ .map kind es)
    (h : args.items? = none) : params args = .error .shape := by
  cases args with
  | map kind es => exact absurd rfl (hm kind es)
  | range a b c => cases h
  | _ => simp_all [params, Value.items?]

theorem params_of_uncountable {args : Value} (hc : isCountable args = false) :
    params args = .error .overlong := by
  cases args with
  | range start stop step =>
    have hn : maxLength < Value.rangeLength start stop step := by
      simpa [isCountable] using hc
    simp only [params, if_pos hn]
  | _ => cases hc

theorem isCountable_of_named {args : Value} {pairs : List (String × Value)}
    (h : args.items? = some (flatten (named pairs))) : isCountable args = true := by
  cases args with
  | range start stop step =>
    obtain ⟨n, hn⟩ : ∃ n, n = Value.rangeLength start stop step := ⟨_, rfl⟩
    rw [Value.items?, Value.rangeItems, ← hn, Option.some.injEq] at h
    cases n with
    | zero => simp [isCountable, ← hn]
    | succ n =>
      -- The first item would be a number and a name at once.
      rw [List.range_succ_eq_map] at h
      cases pairs <;> cases h
  | _ => rfl

theorem exists_items_of_params {args : Value} {f : ArgumentFault} (h : params args = .error f) :
    f = .shape ∨ f = .overlong ∨ ∃ vs, args.items? = some vs ∧ ofItems vs = .error f := by
  by_cases hm : ∃ kind es, args = .map kind es
  · obtain ⟨kind, es, rfl⟩ := hm
    cases h
  · cases hi : args.items? with
    | none =>
      rw [params_of_not_items (fun kind es e => hm ⟨kind, es, e⟩) hi] at h
      cases h
      exact .inl rfl
    | some vs =>
      cases hc : isCountable args with
      | true =>
        rw [params_of_items hi hc] at h
        exact .inr (.inr ⟨vs, rfl, h⟩)
      | false =>
        rw [params_of_uncountable hc] at h
        cases h
        exact .inr (.inl rfl)

theorem params_eq_ok {args : Value} {ps : Entries} : params args = .ok ps ↔ Supply args ps := by
  constructor
  · intro h
    by_cases hm : ∃ kind es, args = .map kind es
    · obtain ⟨kind, es, rfl⟩ := hm
      cases h
      exact .mapping kind es
    · cases hi : args.items? with
      | none =>
        rw [params_of_not_items (fun kind es e => hm ⟨kind, es, e⟩) hi] at h
        cases h
      | some vs =>
        cases hc : isCountable args with
        | true =>
          rw [params_of_items hi hc, ofItems_eq_ok] at h
          obtain ⟨pairs, rfl, rfl⟩ := h
          exact .sequence pairs hi
        | false =>
          rw [params_of_uncountable hc] at h
          cases h
  · intro h
    cases h with
    | mapping kind es => rfl
    | sequence pairs h =>
      rw [params_of_items h (isCountable_of_named h)]
      exact ofItems_eq_ok.mpr ⟨pairs, rfl, rfl⟩

end ParamGate.Arguments
