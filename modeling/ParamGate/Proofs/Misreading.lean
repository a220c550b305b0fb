import ParamGate.Failure
import ParamGate.Proofs.Written

/-!
Specs that cannot be read. A spec is read value by value, and what is reported is the first of its
values that stands for no rule.
-/

namespace ParamGate

theorem Value.entries?_eq_none {v : Value} : v.entries? = none ↔ ∀ kind es, v ≠ .map kind es := by
  cases v <;> simp [entries?]

namespace Rule

/-- What is reported of a value that stands for a rule and is none. All faults of a mapping of
fields are reported together, unless the text of its pattern passes a limit or a text that is due
cannot be made. -/
inductive Misread (name : Value) : Value → Report → Prop
  | notRule {v : Value} (hrule : ∀ r, v ≠ .rule r) (htruth : ∀ b, v ≠ .bool b)
    (hmap : ∀ kind es, v ≠ .map kind es) :
    Misread name v
      (.showing [name]
        { className := "ParamSpecError"
          message := "Validation rule for '" ++ name.plain ++
            "' must be a ParamSpec, dict or bool, not " ++ v.typeName })
  | fields {kind : MapKind} {es : Entries} {faults : List Fault}
    (hflaw : ∀ u flaw, Rule.given? es .regex = some u →
      u.asPattern = .error (.badPattern flaw) → flaw.isFatal = false)
    (hfaults : Rule.collect es = .error faults) :
    Misread name (.map kind es)
      (.listing faults <| .showing [name]
        { className := "ParamSpecError"
          message := "Invalid validation rule for '" ++ name.plain ++ "': "
          details := some ("ParamSpec", faults) })
  | limit {kind : MapKind} {es : Entries} {u : Value} {flaw : Pattern.Flaw}
    (hu : Rule.given? es .regex = some u) (hflaw : u.asPattern = .error (.badPattern flaw))
    (hfatal : flaw.isFatal = true) :
    Misread name (.map kind es) { className := flaw.className, message := flaw.message }

theorem fatalFlaw?_eq_some {es : Entries} {flaw : Pattern.Flaw} :
    fatalFlaw? es = some flaw ↔
      ∃ u, given? es .regex = some u ∧ u.asPattern = .error (.badPattern flaw) ∧
        flaw.isFatal = true := by
  rw [fatalFlaw?, Option.bind_eq_some_iff]
  apply exists_congr
  intro u
  apply and_congr_right
  intro _
  cases u.asPattern with
  | ok p => simp
  | error c =>
    cases c with
    | badPattern flaw' =>
      dsimp only
      rw [Option.ite_none_right_eq_some, Except.error.injEq, Complaint.badPattern.injEq]
      constructor
      · rintro ⟨hfatal, h⟩
        cases h
        exact ⟨rfl, hfatal⟩
      · rintro ⟨rfl, hfatal⟩
        exact ⟨hfatal, rfl⟩
    | _ => simp

theorem ofEntries_eq_pattern {es : Entries} {flaw : Pattern.Flaw} :
    ofEntries es = .error (.pattern flaw) ↔ fatalFlaw? es = some flaw := by
  unfold ofEntries
  cases fatalFlaw? es with
  | some flaw' => simp
  | none => cases collect es <;> simp

theorem ofEntries_eq_fields {es : Entries} {faults : List Fault} :
    ofEntries es = .error (.fields faults) ↔ fatalFlaw? es = none ∧ collect es = .error faults := by
  unfold ofEntries
  cases fatalFlaw? es with
  | some flaw' => simp
  | none => cases collect es <;> simp

theorem fatalFlaw?_eq_none_iff {es : Entries} :
    fatalFlaw? es = none ↔ ∀ u flaw, given? es .regex = some u →
      u.asPattern = .error (.badPattern flaw) → flaw.isFatal = false := by
  rw [Option.eq_none_iff_forall_ne_some]
  simp only [ne_eq, fatalFlaw?_eq_some]
  constructor
  · intro h u flaw hu hflaw
    by_contra hfatal
    exact h flaw ⟨u, hu, hflaw, by simpa using hfatal⟩
  · rintro h flaw ⟨u, hu, hflaw, hfatal⟩
    rw [h u flaw hu hflaw] at hfatal
    cases hfatal

theorem ofValue_of_other {name v : Value} (hrule : ∀ r, v ≠ .rule r)
    (htruth : ∀ b, v ≠ .bool b) (hmap : ∀ kind es, v ≠ .map kind es) :
    ofValue name v = .error (.notRule name v.typeName) := by
  cases v with
  | rule r => exact absurd rfl (hrule r)
  | bool b => exact absurd rfl (htruth b)
  | map kind es => exact absurd rfl (hmap kind es)
  | _ => rfl

theorem misread_iff {name v : Value} {report : Report} :
    Misread name v report ↔ ∃ f, Rule.ofValue name v = .error f ∧ f.report = report := by
  constructor
  · intro h
    cases h with
    | notRule hrule htruth hmap => exact ⟨_, ofValue_of_other hrule htruth hmap, rfl⟩
    | @fields kind es faults hflaw hfaults =>
      have hread := ofEntries_eq_fields.mpr ⟨fatalFlaw?_eq_none_iff.mpr hflaw, hfaults⟩
      exact ⟨.malformed name (.fields faults), by rw [ofValue, hread], rfl⟩
    | @limit kind es u flaw hu hflaw hfatal =>
      have hread := ofEntries_eq_pattern.mpr (fatalFlaw?_eq_some.mpr ⟨u, hu, hflaw, hfatal⟩)
      exact ⟨.malformed name (.pattern flaw), by rw [ofValue, hread], rfl⟩
  · rintro ⟨f, hf, rfl⟩
    cases hes : v.entries? with
    | some es =>
      obtain ⟨kind, rfl⟩ := Value.entries?_eq_some.mp hes
      rw [ofValue] at hf
      cases hr : ofEntries es with
      | ok r =>
        rw [hr] at hf
        cases hf
      | error fault =>
        rw [hr] at hf
        cases hf
        cases fault with
        | fields faults =>
          obtain ⟨hflaw, hfaults⟩ := ofEntries_eq_fields.mp hr
          exact .fields (fatalFlaw?_eq_none_iff.mp hflaw) hfaults
        | pattern flaw =>
          obtain ⟨u, hu, hflaw, hfatal⟩ := fatalFlaw?_eq_some.mp (ofEntries_eq_pattern.mp hr)
          exact .limit hu hflaw hfatal
    | none =>
      have hrule : ∀ r, v ≠ .rule r := by
        rintro r rfl
        cases hf
      have htruth : ∀ b, v ≠ .bool b := by
        rintro b rfl
        cases hf
      have hmap := Value.entries?_eq_none.mp hes
      rw [ofValue_of_other hrule htruth hmap] at hf
      cases hf
      exact .notRule hrule htruth hmap

end Rule

namespace Spec

theorem ofEntries_cons_eq_error {name v : Value} {r : Rule} {es : Entries} {f : SpecFault}
    (hr : Rule.ofValue name v = .ok r) :
    ofEntries ((name, v) :: es) = .error f ↔ ofEntries es = .error f := by
  rw [ofEntries, hr]
  cases ofEntries es <;> simp

theorem ofEntries_eq_error {es : Entries} {f : SpecFault} :
    ofEntries es = .error f ↔
      ∃ before name v after, es = before ++ (name, v) :: after ∧
        (∀ e ∈ before, ∃ r : Rule, r.WrittenAs e.2) ∧ Rule.ofValue name v = .error f := by
  induction es with
  | nil => simp [ofEntries]
  | cons e es ih =>
    rcases e with ⟨name, v⟩
    cases hr : Rule.ofValue name v with
    | error g =>
      rw [ofEntries, hr]
      constructor
      · intro h
        cases h
        exact ⟨[], name, v, es, rfl, by simp, hr⟩
      · rintro ⟨before, name', v', after, heq, hbefore, hf⟩
        cases before with
        | nil =>
          cases heq
          rw [← hr, hf]
        | cons e before =>
          cases heq
          obtain ⟨r, hw⟩ := hbefore (name, v) List.mem_cons_self
          rw [Rule.ofValue_eq_ok.mpr hw] at hr
          cases hr
    | ok r =>
      rw [ofEntries_cons_eq_error hr, ih]
      constructor
      · rintro ⟨before, name', v', after, rfl, hbefore, hf⟩
        have hfirst : ∃ r : Rule, r.WrittenAs v := ⟨r, Rule.ofValue_eq_ok.mp hr⟩
        exact ⟨(name, v) :: before, name', v', after, rfl,
          List.forall_mem_cons.mpr ⟨hfirst, hbefore⟩, hf⟩
      · rintro ⟨before, name', v', after, heq, hbefore, hf⟩
        cases before with
        | nil =>
          cases heq
          rw [hf] at hr
          cases hr
        | cons e before =>
          cases heq
          exact ⟨before, name', v', after, rfl, (List.forall_mem_cons.mp hbefore).2, hf⟩

theorem ofValue_eq_error {v : Value} {f : SpecFault} :
    ofValue v = .error f ↔
      ((∀ kind es, v ≠ .map kind es) ∧ f = .notMapping v.typeName) ∨
        ∃ kind es, v = .map kind es ∧ ofEntries (Entries.ofPairs es) = .error f := by
  cases hes : v.entries? with
  | some es =>
    obtain ⟨kind, rfl⟩ := Value.entries?_eq_some.mp hes
    rw [ofValue, hes]
    simp
  | none =>
    rw [ofValue, hes]
    constructor
    · intro h
      cases h
      exact .inl ⟨Value.entries?_eq_none.mp hes, rfl⟩
    · rintro (⟨-, rfl⟩ | ⟨kind, es, rfl, -⟩)
      · rfl
      · cases hes

end Spec

end ParamGate
