import ParamGate.Proofs.Construction

/-!
What comes of an exception inside a predicate. It ends the evaluation at every level and comes out
as it was raised, with one exception: a `StopIteration`, which might pass for the end of the
options, is replaced in the predicate right around the function that raised it.
-/

namespace ParamGate

open Run

variable {σ α : Type} {host : Host σ} {access : Access}

namespace Raised

/-- What an exception becomes in the predicate around the option that raised it. -/
def inPredicate (e : Raised) : Raised := if e.cls = .stopIteration then .generatorStop else e

theorem inPredicate_cls_ne (e : Raised) : e.inPredicate.cls ≠ .stopIteration := by
  unfold inPredicate
  split
  · decide
  · assumption

theorem inPredicate_of_cls_ne {e : Raised} (h : e.cls ≠ .stopIteration) : e.inPredicate = e :=
  if_neg h

end Raised

theorem asOption_eq_error {x : EStateM Raised (Stage σ) α} {s t : Stage σ} {e : Raised} :
    asOption x s = .error e t ↔ ∃ d, x s = .error d t ∧ e = d.inPredicate := by
  unfold asOption
  cases x s with
  | ok a u => simp
  | error d u => simp [Raised.inPredicate, eq_comm, and_comm]

def EndsRaised (e : Raised) (before after : List Call) : Prop :=
  ∃ init c, after = before ++ (init ++ [c]) ∧ c.outcome = .error e

theorem EndsRaised.of_earlier {e : Raised} {before calls after : List Call}
    (h : EndsRaised e calls after) (hp : before <+: calls) : EndsRaised e before after := by
  obtain ⟨earlier, rfl⟩ := hp
  obtain ⟨init, c, rfl, hc⟩ := h
  exact ⟨earlier ++ init, c, by simp, hc⟩

theorem Stage.endsRaised_of_perform {callee : Callable} {value : Option Value} {act : Act σ}
    {s t : Stage σ} {e : Raised} (h : perform access callee value act s = .error e t) :
    EndsRaised e s.calls t.calls := by
  unfold perform at h
  rcases hr : act.run access s.params s.host with ⟨outcome, es, hs⟩
  rw [hr] at h
  cases outcome with
  | ok v => cases h
  | error d =>
    cases h
    exact ⟨[], _, rfl, rfl⟩

theorem Predicate.raising_option {p : Predicate} {s t : Stage σ} {e : Raised}
    (h : p.eval host access s = .error e t) :
    ∃ before c after bs u d, p.options = before ++ c :: after ∧
      Answers host access before bs s u ∧ c.eval host access u = .error d t ∧
      e = d.inPredicate := by
  rcases p with ⟨identity, title, rule, options⟩
  cases rule with
  | exactly desired =>
    rw [eval, Condition.ofPredicate, Condition.eval] at h
    rcases bind_eq_error.mp h with h | ⟨n, u, -, h⟩
    · obtain ⟨before, c, after, bs, u, hcs, hbs, hc⟩ := Condition.raised_of_countHolding h
      obtain ⟨d, hd, rfl⟩ := asOption_eq_error.mp hc
      exact ⟨before, c, after, bs, u, d, hcs, hbs, hd, rfl⟩
    · cases h
  | atLeastOne =>
    rw [eval, Condition.ofPredicate, Condition.eval] at h
    have hvisits : Visits host access .anyOf ([] ++ options) s _ :=
      Condition.anyHolds_visits .nil List.not_mem_nil options
    rw [h] at hvisits
    cases hvisits with
    | @raised before after c bs u t e hcs hbs hn hc =>
      obtain ⟨d, hd, rfl⟩ := asOption_eq_error.mp hc
      exact ⟨before, c, after, bs, u, d, hcs, hbs, hd, rfl⟩

theorem Predicate.raised_cls_ne {p : Predicate} {s t : Stage σ} {e : Raised}
    (h : p.eval host access s = .error e t) : e.cls ≠ .stopIteration := by
  obtain ⟨-, -, -, -, -, d, -, -, -, rfl⟩ := raising_option h
  exact d.inPredicate_cls_ne

/-- How an exception surfaces from a tree that is evaluated from a stage to another. The call that
has the function among its options replaces a `StopIteration`; those around it change nothing. -/
inductive Surfaces (host : Host σ) (access : Access) (d : Raised) :
    Formula → Raised → Stage σ → Stage σ → Prop
  | direct {c : Combinator} {identity : Nat} {before after : List Formula} {f : HostFunction}
    {bs : List Bool} {s t u : Stage σ}
    (hbefore : Answers host access (before.map Formula.condition) bs s t)
    (hf : Stage.ask host access f t = .error d u) :
    Surfaces host access d (.node c identity (before ++ .function f :: after)) d.inPredicate s u
  | nested {c : Combinator} {identity : Nat} {before after : List Formula} {inner : Formula}
    {bs : List Bool} {s t u : Stage σ} {e : Raised}
    (hbefore : Answers host access (before.map Formula.condition) bs s t)
    (hinner : Surfaces host access d inner e t u) :
    Surfaces host access d (.node c identity (before ++ inner :: after)) e s u

namespace Surfaces

variable {d e : Raised} {t : Formula} {s u : Stage σ}

theorem eq_inPredicate (h : Surfaces host access d t e s u) : e = d.inPredicate := by
  induction h with
  | direct _ _ => rfl
  | nested _ _ ih => exact ih

theorem cls_ne (h : Surfaces host access d t e s u) : e.cls ≠ .stopIteration := by
  rw [h.eq_inPredicate]
  exact d.inPredicate_cls_ne

end Surfaces

theorem Answers.extends {cs : List Condition} {bs : List Bool} {s t : Stage σ}
    (h : Answers host access cs bs s t) : s.calls <+: t.calls := by
  induction h with
  | nil => exact List.prefix_refl _
  | @cons c _ _ _ s t _ hc _ ih =>
    obtain ⟨calls, hcalls, -⟩ := c.eval_asksInOrder.asOption s
    rw [hc] at hcalls
    exact List.IsPrefix.trans ⟨calls, hcalls.symm⟩ ih

theorem Surfaces.endsRaised {d e : Raised} {t : Formula} {s u : Stage σ}
    (h : Surfaces host access d t e s u) : EndsRaised d s.calls u.calls := by
  induction h with
  | direct hbefore hf => exact (Stage.endsRaised_of_perform hf).of_earlier hbefore.extends
  | nested hbefore _ ih => exact ih.of_earlier hbefore.extends

theorem Formula.surfaces {t : Formula} {s u : Stage σ} {e : Raised}
    (h : t.condition.eval host access s = .error e u) :
    (∃ f, t = .function f ∧ Stage.ask host access f s = .error e u) ∨
      ∃ d, Surfaces host access d t e s u := by
  induction t using Formula.induction generalizing s u e with
  | name name => cases h
  | function f =>
    rw [condition, Condition.eval] at h
    rcases bind_eq_error.mp h with h | ⟨v, w, -, h⟩
    · exact .inl ⟨f, rfl, h⟩
    · cases h
  | node c identity options ih =>
    have hp : (c.combine identity (conditions options)).eval host access s = .error e u := h
    obtain ⟨before, o, after, bs, v, d, hoptions, hbs, hd, rfl⟩ := Predicate.raising_option hp
    have hmap : options.map condition = before ++ o :: after :=
      (conditions_eq_map options).symm.trans hoptions
    obtain ⟨first, others, rfl, rfl, hothers⟩ := List.map_eq_append_iff.mp hmap
    obtain ⟨t, rest, rfl, rfl, rfl⟩ := List.map_eq_cons_iff.mp hothers
    refine .inr ?_
    rcases ih t (List.mem_append_right _ List.mem_cons_self) hd with ⟨f, rfl, hf⟩ | ⟨d', hin⟩
    · exact ⟨d, .direct hbs hf⟩
    · rw [Raised.inPredicate_of_cls_ne hin.cls_ne]
      exact ⟨d', .nested hbs hin⟩

section Checks

variable {caller : Value} {rules : Spec} {e : Raised}

theorem Rule.endsRaised_of_failingCallback {v : Value} {callbacks : List (String × Callable)}
    {s t : Stage σ} (h : failingCallback host v callbacks s = .error e t) :
    EndsRaised e s.calls t.calls := by
  induction callbacks generalizing s with
  | nil => cases h
  | cons cb rest ih =>
    rcases cb with ⟨label, c⟩
    rw [failingCallback] at h
    rcases bind_eq_error.mp h with h | ⟨a, u, ha, h⟩
    · exact Stage.endsRaised_of_perform h
    · obtain ⟨-, calls, hcalls, -⟩ := (Stage.check_keeps c v).of_ok ha
      cases htrue : a.truthy with
      | false =>
        rw [htrue] at h
        cases h
      | true =>
        rw [htrue] at h
        exact (ih h).of_earlier ⟨calls, hcalls.symm⟩

theorem Rule.endsRaised_of_fault? {r : Rule} {v : Value} {s t : Stage σ}
    (h : r.fault? host v s = .error e t) : EndsRaised e s.calls t.calls := by
  unfold fault? at h
  cases hf : r.staticFault? v with
  | some f =>
    rw [hf] at h
    cases h
  | none =>
    rw [hf] at h
    rcases bind_eq_error.mp h with h | ⟨label, u, -, h⟩
    · exact endsRaised_of_failingCallback h
    · cases h

theorem Spec.endsRaised_of_checkValues {s t : Stage σ}
    (h : rules.checkValues host caller s = .error (.raised e) t) :
    EndsRaised e s.calls t.calls := by
  induction rules generalizing s with
  | nil => cases h
  | cons q rest ih =>
    rcases q with ⟨name, r⟩
    rw [checkValues, get_bind] at h
    cases hv : Entries.find? s.params name with
    | none =>
      rw [hv] at h
      exact ih h
    | some v =>
      rw [hv] at h
      rcases bind_eq_error.mp h with h | ⟨f, u, hu, h⟩
      · obtain ⟨d, hd, he⟩ := raisedAs_eq_error.mp h
        cases he
        exact Rule.endsRaised_of_fault? hd
      · cases f with
        | some f => cases h
        | none =>
          have hkeeps : Keeps Stage.Checks (r.fault? host v) :=
            Rule.fault?_keeps fun cb _ => Stage.check_keeps cb.2 v
          obtain ⟨-, calls, hcalls, -⟩ := hkeeps.of_ok (raisedAs_eq_ok.mp hu)
          exact (ih h).of_earlier ⟨calls, hcalls.symm⟩

theorem Spec.endsRaised_of_screen {S : Settings} {w t : World σ}
    (h : rules.screen host S caller w = .error (.raised e) t) : EndsRaised e w.calls t.calls := by
  have hg := screen_screens host S caller rules w
  rw [h] at hg
  generalize hr : EStateM.Result.error (Failure.raised e) t = result at hg
  cases hg with
  | unread hp => cases hr
  | unchecked hp hn => cases hr
  | misnamed hp hn hf => cases hr
  | @checked params hp hn hf =>
    cases hc : rules.checkValues host caller { w with params := params } with
    | ok u s =>
      rw [hc] at hr
      cases hr
    | error d s =>
      rw [hc] at hr
      cases hr
      exact endsRaised_of_checkValues hc

theorem endsRaised_of_validateParams {args spec called : Value} {settings : Option Settings}
    {w t : World σ}
    (h : validateParams host args spec called settings w = .error (.raised e) t) :
    EndsRaised e w.calls t.calls := by
  rw [validateParams, World.receive_bind] at h
  rcases bind_eq_error.mp h with h | ⟨S, w₁, hS, h⟩
  · obtain ⟨-, -, faults, -, he, -⟩ := World.settings_eq_error.mp h
    cases he
  · obtain ⟨cached, rfl⟩ := World.settings_of_ok hS
    cases hs : Spec.ofValue spec with
    | error f =>
      rw [validateUnder, hs] at h
      cases h
    | ok rules =>
      rw [validateUnder_of_spec hs] at h
      rcases bind_eq_error.mp h with h | ⟨params, u, -, h⟩
      · have hraised := Spec.endsRaised_of_screen h
        exact hraised
      · cases h

end Checks

theorem ErrorClass.name_eq_stopIteration {c : ErrorClass} :
    c.name = "StopIteration" ↔ c = .stopIteration := by
  cases c <;> simp [name, ancestry]

theorem Pattern.Flaw.className_ne (flaw : Flaw) : flaw.className ≠ "StopIteration" := by
  cases flaw <;> simp [className]

theorem Report.className_longNumber_ne :
    (Report.ofRaised .longNumber).className ≠ "StopIteration" := by
  simp [ofRaised, Raised.longNumber, ErrorClass.name_eq_stopIteration]

theorem Report.className_showing_ne {r : Report} (h : r.className ≠ "StopIteration")
    (vs : List Value) : (showing vs r).className ≠ "StopIteration" := by
  rcases showing_eq_or vs r with hr | hr
  · rw [hr]
    exact h
  · rw [hr]
    exact className_longNumber_ne

theorem Report.className_listing_ne {r : Report} (h : r.className ≠ "StopIteration")
    (faults : List Fault) : (listing faults r).className ≠ "StopIteration" := by
  rcases listing_eq_or faults r with hr | hr
  · rw [hr]
    exact h
  · rw [hr]
    exact className_longNumber_ne

theorem ArgumentFault.className_report_ne (called : Value) (fault : ArgumentFault) :
    (fault.report called).className ≠ "StopIteration" := by
  have hargument : ErrorClass.argument.name ≠ "StopIteration" := by
    simp [ErrorClass.name_eq_stopIteration]
  cases fault with
  | overlong => simp [report]
  | unwritten => exact Report.className_longNumber_ne
  | _ => exact Report.className_showing_ne hargument _

/-- No failure of the library's own is a `StopIteration`. -/
theorem Failure.report_className_eq {e : Failure} (h : e.report.className = "StopIteration") :
    ∃ d, e = .raised d ∧ d.cls = .stopIteration := by
  have hspec : ErrorClass.spec.name ≠ "StopIteration" := by
    simp [ErrorClass.name_eq_stopIteration]
  cases e with
  | raised d => exact ⟨d, rfl, ErrorClass.name_eq_stopIteration.mp h⟩
  | spec fault =>
    cases fault with
    | notMapping found => exact absurd h hspec
    | notRule name found => exact absurd h (Report.className_showing_ne hspec _)
    | malformed name fault =>
      cases fault with
      | fields faults =>
        exact absurd h (Report.className_listing_ne (Report.className_showing_ne hspec _) _)
      | pattern flaw => exact absurd h flaw.className_ne
  | rule fault =>
    cases fault with
    | fields faults => exact absurd h (Report.className_listing_ne (by simp [Report.ofFaults]) _)
    | pattern flaw => exact absurd h flaw.className_ne
  | pattern flaw => exact absurd h flaw.className_ne
  | arguments called fault => exact absurd h (fault.className_report_ne called)
  | _ => simp [report, Report.ofFaults, ErrorClass.name_eq_stopIteration] at h

theorem readPredicates_predicates (predicates : List Predicate) :
    readPredicates (predicates.map .predicate) = some (predicates.map .ofPredicate) := by
  rw [readPredicates_eq_some, List.forall₂_map_left_iff, List.forall₂_map_right_iff]
  exact List.forall₂_same.mpr fun _ _ => rfl

theorem Decides.exists_raising {caller : Value} {cs : List Condition} {s : Stage σ} {e : Raised}
    {r : EStateM.Result Failure (World σ) Unit} (h : Decides host caller cs s r)
    (he : outcome r = .error (.raised e)) :
    ∃ c ∈ cs, ∃ t u, c.eval host .readOnly t = .error e u := by
  cases h with
  | accepted hb => cases he
  | rejected hcs hb hc => cases he
  | @raised before after c t u d hcs hb hc =>
    cases he
    exact ⟨c, hcs ▸ List.mem_append_right _ List.mem_cons_self, t, u, hc⟩

theorem checkPredicates_className_ne {predicates : List Predicate} {caller : Value}
    {s t : Stage σ} {e : Failure}
    (h : checkPredicates host caller 0 (predicates.map .ofPredicate) s = .error e t) :
    e.report.className ≠ "StopIteration" := by
  intro hstop
  obtain ⟨d, rfl, hd⟩ := Failure.report_className_eq hstop
  have hdecides : Decides host caller ([] ++ predicates.map .ofPredicate) s _ :=
    decides_of_allHold .nil _
  rw [List.length_nil, h] at hdecides
  obtain ⟨c, hmem, u, v, hc⟩ := hdecides.exists_raising rfl
  obtain ⟨p, -, rfl⟩ := List.mem_map.mp hmem
  exact Predicate.raised_cls_ne hc hd

def Call.Stops (c : Call) : Prop := ∃ d, c.outcome = .error d ∧ d.cls = .stopIteration

/-- The calls that a gate with predicates of the library makes; with a `StopIteration` it ends only
where one of its callbacks raised that. -/
theorem exists_stopping_check (host : Host σ) (args spec called : Value)
    (predicates : List Predicate) (settings : Option Settings) (w : World σ) :
    ∃ calls,
      (last (validate host args spec (predicates.map .predicate) called settings w)).calls =
        w.calls ++ calls ∧
      ∀ e, outcome (validate host args spec (predicates.map .predicate) called settings w) =
          .error e → e.report.className = "StopIteration" →
        ∃ c ∈ calls, c.IsCheck ∧ c.Stops := by
  have hread := readPredicates_predicates predicates
  obtain ⟨-, checks, hchecks, hq⟩ := validateParams_continues host args spec called settings w
  cases hv : validateParams host args spec called settings w with
  | error d t =>
    rw [hv] at hchecks
    have ht : t.calls = w.calls ++ checks := hchecks
    rw [validate_of_unfit hread hv]
    refine ⟨checks, ht, fun e he hstop => ?_⟩
    cases he
    obtain ⟨d, rfl, hd⟩ := Failure.report_className_eq hstop
    obtain ⟨init, c, hcalls, hc⟩ := endsRaised_of_validateParams hv
    rw [ht] at hcalls
    have hmem : c ∈ checks := by
      rw [List.append_cancel_left hcalls]
      simp
    exact ⟨c, hmem, hq c hmem, d, hc, hd⟩
  | ok result t =>
    obtain ⟨caller, params, -, hgo⟩ := validate_of_fit hv
    obtain ⟨hout, hlast⟩ := hgo _ _ hread
    obtain ⟨-, checks, asked, hcalls, -⟩ :=
      validate_asksAbout host args spec (predicates.map .predicate) called settings w
    refine ⟨checks ++ asked, hcalls.trans (List.append_assoc ..), fun e he hstop => ?_⟩
    rw [hout] at he
    obtain ⟨u, hu⟩ := outcome_eq_error.mp he
    exact absurd hstop (checkPredicates_className_ne hu)

/-- A tree answers iff no function that it reaches raises. If one does, it is the last to be called,
and what it raised surfaces at every level as it is; only a `StopIteration` is replaced, by the call
that has the function among its options. So evaluating a tree never raises a `StopIteration`, and a
gate with predicates of the library raises one only where one of its callbacks did. -/
theorem exceptions_are_not_answers (c : Combinator) (identity : Nat) (options : List Formula) :
    (∃ p, (Formula.node c identity options).build = .ok (.predicate p) ∧
      ∀ (host : Host σ) (access : Access) (s : Stage σ),
        ∃ calls, (last (p.eval host access s)).calls = s.calls ++ calls ∧
          ((∃ b, outcome (p.eval host access s) = .ok b) ↔ ∀ call ∈ calls, call.Returned) ∧
          ∀ e u, p.eval host access s = .error e u →
            ∃ init call d, calls = init ++ [call] ∧ (∀ call ∈ init, call.Returned) ∧
              call.outcome = .error d ∧
              Surfaces host access d (.node c identity options) e s u ∧
              e = (if d.cls = .stopIteration then .generatorStop else d) ∧
              e.cls ≠ .stopIteration) ∧
    ∀ (host : Host σ) (args spec called : Value) (predicates : List Predicate)
      (settings : Option Settings) (w : World σ),
      ∃ calls,
        (last (validate host args spec (predicates.map .predicate) called settings w)).calls =
          w.calls ++ calls ∧
        ∀ e, outcome (validate host args spec (predicates.map .predicate) called settings w) =
            .error e → e.report.className = "StopIteration" →
          ∃ call ∈ calls, call.IsCheck ∧ call.Stops := by
  refine ⟨⟨_, Formula.build_call c identity options, fun host access s => ?_⟩,
    exists_stopping_check⟩
  have horder : AsksInOrder _ _
      ((c.combine identity (Formula.conditions options)).eval host access) :=
    (Formula.node c identity options).eval_asksInOrder
  obtain ⟨calls, hcalls, hin⟩ := horder s
  cases hr : (c.combine identity (Formula.conditions options)).eval host access s with
  | ok b t =>
    rw [hr] at hcalls hin
    exact ⟨calls, hcalls, iff_of_true ⟨b, rfl⟩ (hin.returned b rfl).1, nofun⟩
  | error e t =>
    rw [hr] at hcalls hin
    have hsurfaces : ∃ d, Surfaces host access d (.node c identity options) e s t := by
      rcases Formula.surfaces (t := .node c identity options) hr with ⟨f, hf, -⟩ | h
      · cases hf
      · exact h
    obtain ⟨d, hd⟩ := hsurfaces
    obtain ⟨init, call, rfl, hinit, -⟩ := hin.raised e rfl
    have ht : t.calls = s.calls ++ (init ++ [call]) := hcalls
    -- The call that ends the run is the one that the exception has surfaced from.
    obtain ⟨init', call', ht', hcall⟩ := hd.endsRaised
    rw [ht] at ht'
    obtain ⟨-, hlast⟩ := List.append_inj' (List.append_cancel_left ht') rfl
    cases hlast
    refine ⟨init ++ [call], hcalls, iff_of_false nofun fun hall => ?_, fun e' u he => ?_⟩
    · obtain ⟨v, hv⟩ := hall call (by simp)
      rw [hcall] at hv
      cases hv
    · cases he
      exact ⟨init, call, d, rfl, hinit, hcall, hd, hd.eq_inPredicate, hd.cls_ne⟩

/-- A function that raises a `StopIteration`, two calls deep and between functions that answer. -/
def stoppingOptions : List Formula :=
  [.name "a", .node .noneOf 1 [.function (.named 7 "f"), .function (.named 8 "g"),
    .function (.named 7 "f")]]

def stoppingHost : Host Counters :=
  Script.host [(7, .answer (.bool false)), (8, .raise ⟨.stopIteration, "done"⟩)]

def stoppingStage : Stage Counters where
  host := []
  params := [(.text "a", .int 1)]

theorem exceptions_are_not_answers_in_stopping :
    ∃ p e u, (Formula.node .allOf 2 stoppingOptions).build = .ok (.predicate p) ∧
      p.eval stoppingHost .readOnly stoppingStage = .error e u ∧ e = .generatorStop ∧
      ∃ d, Surfaces stoppingHost .readOnly d (.node .allOf 2 stoppingOptions) e
        stoppingStage u := by
  obtain ⟨p, hp, h⟩ := (exceptions_are_not_answers .allOf 2 stoppingOptions).1
  obtain ⟨calls, -, -, hraises⟩ := h stoppingHost .readOnly stoppingStage
  cases hp
  obtain ⟨init, call, d, -, -, -, hd, -, -⟩ := hraises .generatorStop _ rfl
  exact ⟨_, _, _, rfl, rfl, rfl, d, hd⟩

end ParamGate
