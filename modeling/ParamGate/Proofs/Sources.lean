import Mathlib.Data.List.Induction
import Mathlib.Data.List.Nodup
import ParamGate.Proofs.Malformed
import ParamGate.Proofs.Written

/-!
Where each field of the settings takes its value from: the keyword given for it, else its variable
in the environment, else its default. A source that is passed over does no harm, and nothing but the
sources of a field has a part in it.
-/

namespace ParamGate

theorem find?_key_eq_some {α κ : Type} [BEq κ] [LawfulBEq κ] {key : α → κ} {l : List α}
    (h : (l.map key).Nodup) {k : κ} {a : α} :
    l.find? (fun x => key x == k) = some a ↔ a ∈ l ∧ key a = k := by
  have hkey {b : α} {k : κ} (hb : l.find? (fun x => key x == k) = some b) : b ∈ l ∧ key b = k :=
    ⟨List.mem_of_find?_eq_some hb, by simpa using List.find?_some hb⟩
  constructor
  · exact hkey
  · rintro ⟨ha, rfl⟩
    obtain ⟨b, hb⟩ : ∃ b, l.find? (fun x => key x == key a) = some b :=
      Option.isSome_iff_exists.mp (List.find?_isSome.mpr ⟨a, ha, BEq.refl _⟩)
    rw [hb, List.inj_on_of_nodup_map h (hkey hb).1 ha (hkey hb).2]

namespace Environment

/-- No two variables have names that differ in case alone. -/
def Distinct (env : Environment) : Prop := (env.map fun p => lower p.1).Nodup

instance (env : Environment) : Decidable env.Distinct := inferInstanceAs (Decidable (List.Nodup _))

variable {env : Environment}

theorem text?_eq_some (h : env.Distinct) {name t : String} :
    env.text? name = some t ↔ ∃ n, (n, t) ∈ env ∧ lower n = lower name := by
  have hrev : (env.reverse.map fun p => lower p.1).Nodup := by
    rw [List.map_reverse]
    exact List.nodup_reverse.mpr h
  rw [text?, Option.map_eq_some_iff]
  simp only [find?_key_eq_some hrev, List.mem_reverse]
  constructor
  · rintro ⟨⟨n, _⟩, ⟨hm, hn⟩, rfl⟩
    exact ⟨n, hm, hn⟩
  · rintro ⟨n, hm, hn⟩
    exact ⟨(n, t), ⟨hm, hn⟩, rfl⟩

theorem Distinct.unset (h : env.Distinct) (name : String) : (env.unset name).Distinct :=
  h.sublist (List.filter_sublist.map _)

theorem mem_unset {name n t : String} : (n, t) ∈ env.unset name ↔ (n, t) ∈ env ∧ n ≠ name := by
  simp [unset]

end Environment

namespace Settings

namespace Field

abbrev Content : Field → Type
  | .allowExtra => Bool
  | .noValidation => Bool
  | .called => String

def preset : (f : Field) → f.Content
  | .allowExtra => false
  | .noValidation => false
  | .called => "N/A"

def read : (f : Field) → Value → Except Complaint f.Content
  | .allowExtra, v => v.asTruth
  | .noValidation, v => v.asTruth
  | .called, v => v.asText

/-- What a field takes from a source: what the value there says, or the default if there is none. -/
def Takes (f : Field) : Option Value → f.Content → Prop
  | none, x => x = f.preset
  | some v, x => f.read v = .ok x

/-- The keyword of a field has a value: the last that is given under its name. -/
def GivenAs (f : Field) (pairs : List (String × Value)) (v : Value) : Prop :=
  ∃ before after, pairs = before ++ (f.name, v) :: after ∧ ∀ w, (f.name, w) ∉ after

-- No letter of these names is also the lower case of a character beyond ASCII.
/-- A variable is that of a field, in whatever case its name is written. -/
def IsVariable (f : Field) (n : String) : Prop := Environment.lower n = "paramdeps_" ++ f.name

instance (f : Field) (n : String) : Decidable (f.IsVariable n) :=
  inferInstanceAs (Decidable (_ = _))

def HeldAs (f : Field) (env : Environment) (t : String) : Prop :=
  ∃ n, (n, t) ∈ env ∧ f.IsVariable n

def complaint? (f : Field) : Option Value → Option Complaint
  | none => none
  | some v => refusal (f.read v)

theorem mem_all (f : Field) : f ∈ all := by
  cases f <;> simp [all]

theorem name_inj {f g : Field} : f.name = g.name ↔ f = g := by
  cases f <;> cases g <;> decide +kernel

theorem ofKeyword?_name (f : Field) : ofKeyword? f.name = some f := by
  cases f <;> decide +kernel

theorem lower_variableName (f : Field) :
    Environment.lower f.variableName = "paramdeps_" ++ f.name := by
  cases f <;> decide +kernel

theorem IsVariable.unique {f g : Field} {n : String} (hf : f.IsVariable n) (hg : g.IsVariable n) :
    f = g := by
  have h : "paramdeps_" ++ f.name = "paramdeps_" ++ g.name := hf.symm.trans hg
  exact name_inj.mp ((String.append_right_inj _).mp h)

theorem GivenAs.mem {f : Field} {pairs : List (String × Value)} {v : Value}
    (h : f.GivenAs pairs v) : (f.name, v) ∈ pairs := by
  obtain ⟨before, after, rfl, -⟩ := h
  simp

theorem Takes.unique {f : Field} {o : Option Value} {x y : f.Content} (hx : f.Takes o x)
    (hy : f.Takes o y) : x = y := by
  cases o with
  | none => exact hx.trans hy.symm
  | some v => exact Except.ok.inj (hx.symm.trans hy)

theorem complaint?_eq_some {f : Field} {o : Option Value} {c : Complaint} :
    f.complaint? o = some c ↔ ∃ v, o = some v ∧ f.read v = .error c := by
  cases o with
  | none => simp [complaint?]
  | some v => cases h : f.read v <;> simp [complaint?, refusal, h]

theorem complaint?_eq_none {f : Field} {o : Option Value} :
    f.complaint? o = none ↔ ∃ x, f.Takes o x := by
  cases o with
  | none => simp [complaint?, Takes]
  | some v => exact refusal_eq_none

end Field

/-- Where the value of a field comes from: its keyword, else its variable, else nowhere. -/
inductive Chosen (env : Environment) (pairs : List (String × Value)) (f : Field) :
    Option Value → Prop
  | keyword {v : Value} (h : f.GivenAs pairs v) : Chosen env pairs f (some v)
  | environment {t : String} (hk : ∀ v, ¬ f.GivenAs pairs v) (h : f.HeldAs env t) :
    Chosen env pairs f (some (.text t))
  | default (hk : ∀ v, ¬ f.GivenAs pairs v) (h : ∀ t, ¬ f.HeldAs env t) : Chosen env pairs f none

def get (S : Settings) : (f : Field) → f.Content
  | .allowExtra => S.allowExtra
  | .noValidation => S.noValidation
  | .called => S.called

/-- Two attempts to build settings do not differ in a field, nor in what is wrong with it. -/
structure SameAt (f : Field) (x y : Collected Settings) : Prop where
  value : ∀ S S', x = .ok S → y = .ok S' → S'.get f = S.get f
  fault : ∀ c, (⟨[.text f.name], c⟩ : Fault) ∈ y.faults ↔ ⟨[.text f.name], c⟩ ∈ x.faults

namespace Keywords

/-- Every keyword is the name of a field, and exactly that. -/
def Exact (kwargs : List (String × Value)) : Prop := ∀ p ∈ kwargs, ∃ f : Field, p.1 = f.name

theorem find?_put (kwargs : Keywords) (name : String) (v : Value) (n : String) :
    (kwargs.put name v).find? (fun p => p.1 == n) =
      if name = n then some (name, v) else kwargs.find? fun p => p.1 == n := by
  induction kwargs with
  | nil => by_cases h : name = n <;> simp [put, h]
  | cons p kwargs ih =>
    rcases p with ⟨m, w⟩
    by_cases hm : m = name
    · subst hm
      by_cases h : m = n <;> simp [put, h]
    · by_cases h : m = n
      · subst h
        simp [put, hm, Ne.symm hm]
      · rw [put, if_neg hm, List.find?_cons_of_neg (by simpa using h), ih,
          List.find?_cons_of_neg (by simpa using h)]

theorem mem_put {kwargs : Keywords} {name : String} {v : Value} {p : String × Value}
    (h : p ∈ kwargs.put name v) : p = (name, v) ∨ p ∈ kwargs := by
  induction kwargs with
  | nil => exact .inl (List.mem_singleton.mp h)
  | cons q kwargs ih =>
    rcases q with ⟨m, w⟩
    by_cases hm : m = name
    · subst hm
      rw [put, if_pos rfl] at h
      rcases List.mem_cons.mp h with rfl | h
      · exact .inl rfl
      · exact .inr (List.mem_cons_of_mem _ h)
    · rw [put, if_neg hm] at h
      rcases List.mem_cons.mp h with rfl | h
      · exact .inr List.mem_cons_self
      · exact (ih h).imp_right (List.mem_cons_of_mem _)

theorem ofPairs_concat (pairs : List (String × Value)) (p : String × Value) :
    ofPairs (pairs ++ [p]) = (ofPairs pairs).put p.1 p.2 :=
  List.foldl_append

theorem find?_ofPairs (pairs : List (String × Value)) (n : String) :
    (ofPairs pairs).find? (fun p => p.1 == n) = pairs.reverse.find? fun p => p.1 == n := by
  induction pairs using List.reverseRecOn with
  | nil => rfl
  | append_singleton pairs p ih =>
    rw [ofPairs_concat, find?_put, ih, List.reverse_append, List.reverse_singleton,
      List.singleton_append]
    by_cases h : p.1 = n
    · rw [if_pos h, List.find?_cons_of_pos (by simpa using h)]
    · rw [if_neg h, List.find?_cons_of_neg (by simpa using h)]

theorem Exact.ofPairs {pairs : List (String × Value)} (h : Exact pairs) :
    Exact (Keywords.ofPairs pairs) := by
  induction pairs using List.reverseRecOn with
  | nil => exact h
  | append_singleton pairs p ih =>
    obtain ⟨hpairs, hp⟩ := List.forall_mem_append.mp h
    rw [ofPairs_concat]
    intro q hq
    rcases mem_put hq with rfl | hq
    · exact hp p (List.mem_singleton_self p)
    · exact ih hpairs q hq

end Keywords

section Sources

variable {env : Environment} {pairs : List (String × Value)} {f : Field}

theorem Field.givenAs_iff {v : Value} :
    f.GivenAs pairs v ↔ (pairs.reverse.find? fun p => p.1 == f.name).map (·.2) = some v := by
  rw [Option.map_eq_some_iff]
  simp only [List.find?_eq_some_iff_append]
  constructor
  · rintro ⟨before, after, rfl, hafter⟩
    refine ⟨(f.name, v), ⟨BEq.refl _, after.reverse, before.reverse, by simp, ?_⟩, rfl⟩
    rintro ⟨n, w⟩ hw
    have hn : n ≠ f.name := by
      rintro rfl
      exact hafter w (List.mem_reverse.mp hw)
    simpa using hn
  · rintro ⟨⟨n, _⟩, ⟨hn, as, bs, hpairs, has⟩, rfl⟩
    obtain rfl : n = f.name := by simpa using hn
    refine ⟨bs.reverse, as.reverse, ?_, fun w hw => ?_⟩
    · rw [← List.reverse_reverse pairs, hpairs]
      simp
    · simpa using has _ (List.mem_reverse.mp hw)

theorem keyword?_eq_some (h : Keywords.Exact pairs) {v : Value} :
    keyword? (.ofPairs pairs) f = some v ↔ f.GivenAs pairs v := by
  -- A name that is exact for one field is in no case that of another.
  have hcase : ((Keywords.ofPairs pairs).find? fun p => p.1 == f.name) = none →
      ((Keywords.ofPairs pairs).find? fun p => Field.ofKeyword? p.1 == some f) = none := by
    simp only [List.find?_eq_none]
    intro hnone p hp he
    obtain ⟨g, hg⟩ := h.ofPairs p hp
    rw [hg, Field.ofKeyword?_name, beq_iff_eq, Option.some.injEq] at he
    exact hnone p hp (by simp [hg, he])
  rw [Field.givenAs_iff, ← Keywords.find?_ofPairs, keyword?]
  cases hf : (Keywords.ofPairs pairs).find? fun p => p.1 == f.name with
  | some p => rfl
  | none => simp [hcase hf]

theorem text?_variableName_eq_some (h : env.Distinct) {t : String} :
    env.text? f.variableName = some t ↔ f.HeldAs env t := by
  rw [Environment.text?_eq_some h, Field.lower_variableName]
  rfl

theorem source?_eq_iff (henv : env.Distinct) (hkw : Keywords.Exact pairs) {o : Option Value} :
    source? env (.ofPairs pairs) f = o ↔ Chosen env pairs f o := by
  have hnone : keyword? (.ofPairs pairs) f = none ↔ ∀ v, ¬ f.GivenAs pairs v := by
    simp only [← keyword?_eq_some hkw, Option.eq_none_iff_forall_ne_some, ne_eq]
  have hunset : env.text? f.variableName = none ↔ ∀ t, ¬ f.HeldAs env t := by
    simp only [← text?_variableName_eq_some henv, Option.eq_none_iff_forall_ne_some, ne_eq]
  constructor
  · rintro rfl
    unfold source?
    cases hk : keyword? (.ofPairs pairs) f with
    | some v => exact .keyword ((keyword?_eq_some hkw).mp hk)
    | none =>
      cases ht : env.text? f.variableName with
      | some t => exact .environment (hnone.mp hk) ((text?_variableName_eq_some henv).mp ht)
      | none => exact .default (hnone.mp hk) (hunset.mp ht)
  · intro h
    cases h with
    | keyword h => rw [source?, (keyword?_eq_some hkw).mpr h]
    | environment hk h =>
      rw [source?, hnone.mpr hk, (text?_variableName_eq_some henv).mpr h]
      rfl
    | default hk h =>
      rw [source?, hnone.mpr hk, hunset.mpr h]
      rfl

end Sources

section Building

variable {env env' : Environment} {kwargs kwargs' : Keywords} {f : Field}

theorem readField_eq_ok {x : f.Content} :
    readField env kwargs f f.preset f.read = .ok x ↔ f.Takes (source? env kwargs f) x := by
  unfold readField Field.Takes
  cases source? env kwargs f with
  | none => simp [eq_comm]
  | some v => cases h : f.read v <;> simp [h]

theorem faults_readField (env : Environment) (kwargs : Keywords) (f : Field) :
    (readField env kwargs f f.preset f.read).faults =
      ((f.complaint? (source? env kwargs f)).map fun c => ⟨[.text f.name], c⟩).toList := by
  unfold readField Field.complaint?
  cases source? env kwargs f with
  | none => rfl
  | some v =>
    dsimp only
    cases f.read v <;> rfl

theorem build_eq_ok {S : Settings} :
    build env kwargs = .ok S ↔
      (∀ f : Field, f.Takes (source? env kwargs f) (S.get f)) ∧ strangerFaults kwargs = [] := by
  simp only [build, Collected.both_eq_ok, Collected.guard_eq_ok, Except.ok.injEq]
  constructor
  · rintro ⟨_, _, ⟨_, c, ⟨_, n, ⟨_, a, rfl, ha, rfl⟩, hn, rfl⟩, hc, rfl⟩, hs, rfl⟩
    refine ⟨fun f => ?_, hs⟩
    cases f with
    | allowExtra => exact readField_eq_ok.mp ha
    | noValidation => exact readField_eq_ok.mp hn
    | called => exact readField_eq_ok.mp hc
  · rintro ⟨h, hs⟩
    have ha := readField_eq_ok.mpr (h .allowExtra)
    have hn := readField_eq_ok.mpr (h .noValidation)
    have hc := readField_eq_ok.mpr (h .called)
    exact ⟨_, (), ⟨_, _, ⟨_, _, ⟨_, _, rfl, ha, rfl⟩, hn, rfl⟩, hc, rfl⟩, hs, rfl⟩

def wrong (env : Environment) (kwargs : Keywords) : List (Field × Complaint) :=
  Field.all.filterMap fun f => (f.complaint? (source? env kwargs f)).map fun c => (f, c)

theorem mem_wrong {c : Complaint} :
    (f, c) ∈ wrong env kwargs ↔ f.complaint? (source? env kwargs f) = some c := by
  simp [wrong, Field.mem_all]

theorem wrong_sublist (env : Environment) (kwargs : Keywords) :
    ((wrong env kwargs).map Prod.fst).Sublist Field.all := by
  have hfst : (wrong env kwargs).map Prod.fst =
      Field.all.filter fun f => (f.complaint? (source? env kwargs f)).isSome := by
    rw [wrong, List.map_filterMap, ← List.filterMap_eq_filter]
    apply List.filterMap_congr
    intro f _
    cases h : f.complaint? (source? env kwargs f) <;> simp [Option.guard, h]
  rw [hfst]
  exact List.filter_sublist

theorem faults_build (env : Environment) (kwargs : Keywords) :
    (build env kwargs).faults =
      ((wrong env kwargs).map fun p => ⟨[.text p.1.name], p.2⟩) ++ strangerFaults kwargs := by
  have hfields : (build env kwargs).faults =
      (Field.all.flatMap fun f => (readField env kwargs f f.preset f.read).faults) ++
        strangerFaults kwargs := by
    simp only [build, Collected.faults_both, Collected.faults_guard, Field.all, List.flatMap_cons,
      List.flatMap_nil, List.append_nil, ← List.append_assoc]
    rfl
  rw [hfields, wrong, List.map_filterMap, List.filterMap_eq_flatMap_toList]
  congr 1
  apply List.flatMap_congr
  intro f _
  rw [faults_readField]
  cases f.complaint? (source? env kwargs f) <;> rfl

theorem build_congr (hsource : ∀ f, source? env' kwargs' f = source? env kwargs f)
    (hnames : strangerFaults kwargs' = strangerFaults kwargs) :
    build env' kwargs' = build env kwargs := by
  simp only [build, readField, hsource, hnames]

theorem strangerFaults_of_exact {pairs : List (String × Value)} (h : Keywords.Exact pairs) :
    strangerFaults (.ofPairs pairs) = [] := by
  rw [strangerFaults, List.filterMap_eq_nil_iff]
  intro p hp
  obtain ⟨f, hf⟩ := h.ofPairs p hp
  simp [hf, Field.ofKeyword?_name]

theorem source?_congr (henv : env.Distinct) (henv' : env'.Distinct)
    (h : ∀ t, f.HeldAs env' t ↔ f.HeldAs env t) (kwargs : Keywords) :
    source? env' kwargs f = source? env kwargs f := by
  have htext : env'.text? f.variableName = env.text? f.variableName := by
    ext t
    rw [text?_variableName_eq_some henv', text?_variableName_eq_some henv, h]
  rw [source?, source?, htext]

variable {pairs : List (String × Value)}

theorem mem_faults_build (hkw : Keywords.Exact pairs) {c : Complaint} :
    (⟨[.text f.name], c⟩ : Fault) ∈ (build env (.ofPairs pairs)).faults ↔
      f.complaint? (source? env (.ofPairs pairs) f) = some c := by
  rw [faults_build, strangerFaults_of_exact hkw, List.append_nil, List.mem_map, ← mem_wrong]
  constructor
  · rintro ⟨⟨g, d⟩, hm, he⟩
    rw [Fault.mk.injEq, List.cons.injEq, Value.text.injEq, Field.name_inj] at he
    obtain ⟨⟨rfl, -⟩, rfl⟩ := he
    exact hm
  · intro hm
    exact ⟨(f, c), hm, rfl⟩

theorem heldAs_unset (henv : env.Distinct) {n t : String} (hm : (n, t) ∈ env)
    (hn : f.IsVariable n) (g : Field) (u : String) :
    g.HeldAs (env.unset n) u ↔ g ≠ f ∧ g.HeldAs env u := by
  constructor
  · rintro ⟨m, hu, hg⟩
    obtain ⟨hu, hne⟩ := Environment.mem_unset.mp hu
    refine ⟨?_, m, hu, hg⟩
    rintro rfl
    have hlower : Environment.lower m = Environment.lower n := hg.trans hn.symm
    exact hne (congrArg Prod.fst (List.inj_on_of_nodup_map henv hu hm hlower))
  · rintro ⟨hne, m, hu, hg⟩
    refine ⟨m, Environment.mem_unset.mpr ⟨hu, ?_⟩, hg⟩
    rintro rfl
    exact hne (hg.unique hn)

/-- A variable that its field cannot take does no harm iff a keyword stands before it. -/
theorem build_unset_eq_iff (henv : env.Distinct) (hkw : Keywords.Exact pairs) {n t : String}
    {c : Complaint} (hm : (n, t) ∈ env) (hn : f.IsVariable n) (hc : f.read (.text t) = .error c) :
    build (env.unset n) (.ofPairs pairs) = build env (.ofPairs pairs) ↔
      ∃ v, f.GivenAs pairs v := by
  constructor
  · intro hbuild
    by_contra hnone
    have hk : ∀ v, ¬ f.GivenAs pairs v := not_exists.mp hnone
    have hheld : source? env (.ofPairs pairs) f = some (.text t) :=
      (source?_eq_iff henv hkw).mpr (.environment hk ⟨n, hm, hn⟩)
    have hunset : source? (env.unset n) (.ofPairs pairs) f = none :=
      (source?_eq_iff (henv.unset n) hkw).mpr
        (.default hk fun u hu => ((heldAs_unset henv hm hn f u).mp hu).1 rfl)
    -- The field is complained of with its variable, and not without it.
    have hfault : (⟨[.text f.name], c⟩ : Fault) ∈ (build env (.ofPairs pairs)).faults :=
      (mem_faults_build hkw).mpr (Field.complaint?_eq_some.mpr ⟨_, hheld, hc⟩)
    rw [← hbuild, mem_faults_build hkw, hunset] at hfault
    cases hfault
  · rintro ⟨v, hv⟩
    refine build_congr (fun g => ?_) rfl
    by_cases hg : g = f
    · subst hg
      exact ((source?_eq_iff (henv.unset n) hkw).mpr (.keyword hv)).trans
        ((source?_eq_iff henv hkw).mpr (.keyword hv)).symm
    · refine source?_congr henv (henv.unset n) (fun u => ?_) _
      rw [heldAs_unset henv hm hn, and_iff_right hg]

theorem exists_build_iff (hkw : Keywords.Exact pairs) :
    (∃ S, build env (.ofPairs pairs) = .ok S) ↔
      ∀ f : Field, f.complaint? (source? env (.ofPairs pairs) f) = none := by
  simp only [build_eq_ok, strangerFaults_of_exact hkw, and_true, Field.complaint?_eq_none]
  constructor
  · rintro ⟨S, hS⟩ f
    exact ⟨S.get f, hS f⟩
  · intro h
    choose x hx using h
    refine ⟨⟨x .allowExtra, x .noValidation, x .called⟩, fun f => ?_⟩
    cases f <;> exact hx _

end Building

theorem report_of_create {kwargs : Keywords} {e : Failure} (he : create env kwargs = .error e) :
    ∃ faults, build env kwargs = .error faults ∧
      e.report = .listing faults (Failure.settings faults).report := by
  unfold create at he
  cases hb : build env kwargs with
  | ok S =>
    rw [hb] at he
    cases he
  | error faults =>
    rw [hb] at he
    cases he
    refine ⟨faults, rfl, ?_⟩
    rw [Report.listing]
    split <;> rfl

/-- Settings built from an environment and keywords have in each field what its own first source
says: the keyword, else the variable, else the default. They are built iff every field can take what
that source says, and else each field that cannot is reported, in order, unless a text that is due
cannot be made. A variable that its field cannot take does no harm exactly where a keyword stands
before it, no source of one field has a part in another, and variables of no field have none in
anything. -/
theorem fields_take_their_first_source (env : Environment) (pairs : List (String × Value))
    (henv : env.Distinct) (hkw : Keywords.Exact pairs) :
    (∀ S, build env (.ofPairs pairs) = .ok S ↔
      ∀ f : Field, ∃ o, Chosen env pairs f o ∧ f.Takes o (S.get f)) ∧
    ((∃ S, build env (.ofPairs pairs) = .ok S) ↔
      ∀ (f : Field) v, Chosen env pairs f (some v) → ∃ x, f.read v = .ok x) ∧
    (∀ faults, build env (.ofPairs pairs) = .error faults →
      (Failure.settings faults).report =
        { className := "ValidationError"
          message := ""
          details := some ("ValidateSettings", faults) } ∧
      ∃ wrong : List (Field × Complaint), (wrong.map Prod.fst).Sublist Field.all ∧
        (∀ f c, (f, c) ∈ wrong ↔ ∃ v, Chosen env pairs f (some v) ∧ f.read v = .error c) ∧
        faults = wrong.map fun p => ⟨[.text p.1.name], p.2⟩) ∧
    (∀ (f : Field) n t c, (n, t) ∈ env → f.IsVariable n → f.read (.text t) = .error c →
      (build (env.unset n) (.ofPairs pairs) = build env (.ofPairs pairs) ↔
        ∃ v, f.GivenAs pairs v)) ∧
    (∀ (env' : Environment) pairs' f, env'.Distinct → Keywords.Exact pairs' →
      (∀ o, Chosen env' pairs' f o ↔ Chosen env pairs f o) →
        SameAt f (build env (.ofPairs pairs)) (build env' (.ofPairs pairs'))) ∧
    (∀ env' : Environment, env'.Distinct → (∀ (f : Field) t, f.HeldAs env' t ↔ f.HeldAs env t) →
      build env' (.ofPairs pairs) = build env (.ofPairs pairs)) ∧
    ∀ e, create env (.ofPairs pairs) = .error e →
      ∃ faults, build env (.ofPairs pairs) = .error faults ∧
        e.report = .listing faults (Failure.settings faults).report := by
  have hchosen (f : Field) (o : Option Value) :
      source? env (.ofPairs pairs) f = o ↔ Chosen env pairs f o := source?_eq_iff henv hkw
  refine ⟨fun S => ?_, ?_, fun faults he => ⟨rfl, ?_⟩, fun f n t c hm hn hc =>
    build_unset_eq_iff henv hkw hm hn hc, fun env' pairs' f henv' hkw' hsame => ?_,
    fun env' henv' hheld => build_congr (fun f => source?_congr henv henv' (hheld f) _) rfl,
    fun _ => report_of_create⟩
  · rw [build_eq_ok, and_iff_left (strangerFaults_of_exact hkw)]
    simp only [← hchosen, exists_eq_left']
  · rw [exists_build_iff hkw]
    simp only [← hchosen, Field.complaint?_eq_none]
    refine forall_congr' fun f => ?_
    cases source? env (.ofPairs pairs) f <;> simp [Field.Takes]
  · refine ⟨wrong env (.ofPairs pairs), wrong_sublist _ _, fun f c => ?_, ?_⟩
    · rw [mem_wrong, Field.complaint?_eq_some]
      simp only [← hchosen]
    · have hfaults := faults_build env (.ofPairs pairs)
      rw [he, strangerFaults_of_exact hkw, List.append_nil] at hfaults
      exact hfaults
  · have hsource : source? env' (.ofPairs pairs') f = source? env (.ofPairs pairs) f := by
      rw [source?_eq_iff henv' hkw', hsame, ← hchosen]
    refine ⟨fun S S' hS hS' => ?_, fun c => ?_⟩
    · have h := (build_eq_ok.mp hS).1 f
      have h' := (build_eq_ok.mp hS').1 f
      rw [hsource] at h'
      exact h'.unique h
    · rw [mem_faults_build hkw, mem_faults_build hkw', hsource]

/-- A variable that no field could take, one in capitals, an empty one, and one of no field. -/
def mixedEnvironment : Environment :=
  [("Paramdeps_Allow_Extra", "maybe"), ("PARAMDEPS_NO_VALIDATION", "Yes"),
    ("PARAMDEPS_CALLED", ""), ("PARAMDEPS_COLOUR", "red")]

theorem fields_take_their_first_source_of_mixed :
    let pairs := [("allow_extra", Value.bool true)]
    mixedEnvironment.Distinct ∧ Keywords.Exact pairs ∧
      build mixedEnvironment (.ofPairs pairs) =
        .ok { allowExtra := true, noValidation := true, called := "" } ∧
      build (mixedEnvironment.unset "Paramdeps_Allow_Extra") (.ofPairs pairs) =
        build mixedEnvironment (.ofPairs pairs) := by
  intro pairs
  have henv : mixedEnvironment.Distinct := by decide +kernel
  have hkw : Keywords.Exact pairs := by
    intro p hp
    obtain rfl := List.mem_singleton.mp hp
    exact ⟨.allowExtra, rfl⟩
  have hallow : Field.allowExtra.GivenAs pairs (.bool true) := ⟨[], [], rfl, by simp⟩
  have hother (f : Field) (hf : f ≠ .allowExtra) (v : Value) : ¬ f.GivenAs pairs v := by
    intro h
    have hp := List.mem_singleton.mp h.mem
    exact hf (Field.name_inj.mp (congrArg Prod.fst hp))
  have hskip : Field.noValidation.HeldAs mixedEnvironment "Yes" :=
    ⟨"PARAMDEPS_NO_VALIDATION", by simp [mixedEnvironment], by decide +kernel⟩
  have hcalled : Field.called.HeldAs mixedEnvironment "" :=
    ⟨"PARAMDEPS_CALLED", by simp [mixedEnvironment], by decide +kernel⟩
  obtain ⟨hbuild, -, -, hmask, -⟩ := fields_take_their_first_source mixedEnvironment pairs henv hkw
  refine ⟨henv, hkw, (hbuild _).mpr fun f => ?_, ?_⟩
  · cases f with
    | allowExtra => exact ⟨_, .keyword hallow, rfl⟩
    | noValidation => exact ⟨_, .environment (hother _ nofun) hskip, rfl⟩
    | called => exact ⟨_, .environment (hother _ nofun) hcalled, rfl⟩
  · exact (hmask .allowExtra _ "maybe" .unclearTruth List.mem_cons_self (by decide +kernel) rfl).mpr
      ⟨_, hallow⟩

end Settings

end ParamGate
