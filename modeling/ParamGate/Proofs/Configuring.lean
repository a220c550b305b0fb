import ParamGate.Journal.Program
import ParamGate.Proofs.Disclosure
import ParamGate.Proofs.Timeline

/-!
What is left of the logging once it is configured. Whatever loggers and configurations there were
before, the library's logger is as the last configuration makes it, the root logger is as it was at
the start, and every record goes to the one handler of that configuration, or nowhere.
-/

namespace ParamGate

open Run

variable {σ : Type} {host : Host σ}

theorem Step.exists_records (host : Host σ) (s : Step) (w : World σ) :
    ∃ logged, (s.after host w).records = w.records ++ logged := by
  rw [after_eq_last]
  cases s with
  | setVariable name text => exact ⟨[], (List.append_nil _).symm⟩
  | dropSettings => exact ⟨[], (List.append_nil _).symm⟩
  | readSettings =>
    refine ⟨[], ?_⟩
    rw [List.append_nil, perform, bind_pure_comp, last_map]
    cases hs : World.settings none w with
    | ok S w' =>
      obtain ⟨cached, rfl⟩ := World.settings_of_ok hs
      rfl
    | error e w' =>
      obtain ⟨-, -, faults, -, -, rfl⟩ := World.settings_eq_error.mp hs
      rfl
  | validateParams args spec called settings =>
    -- Without predicates a call of the gate logs what the checks of its parameters log.
    let g : GateCall σ := ⟨host, args, spec, [], called, settings, w⟩
    have hnone : ∀ v ∈ g.trailing, v.IsPredicate := List.forall_mem_nil _
    obtain ⟨logged, hlogged, -⟩ := g.exists_notices hnone
    refine ⟨logged, ?_⟩
    rw [perform, bind_pure_comp, last_map]
    exact hlogged
  | validate args spec trailing called settings =>
    let g : GateCall σ := ⟨host, args, spec, trailing, called, settings, w⟩
    obtain ⟨logged, -, -, hlogged, -⟩ := g.exists_logged
    exact ⟨logged, hlogged⟩

theorem Step.logged_eq {s : Step} {w : World σ} {logged : List LogRecord}
    (h : (s.after host w).records = w.records ++ logged) : s.logged host w = logged := by
  rw [Step.logged, h, List.drop_left]

theorem Step.records_after (host : Host σ) (s : Step) (w : World σ) :
    (s.after host w).records = w.records ++ s.logged host w := by
  obtain ⟨logged, h⟩ := s.exists_records host w
  rw [logged_eq h, h]

namespace Journal

def Renderer.configured (json terminal : Bool) : Renderer :=
  if json then .json else .console terminal

def Logger.configured (verbose json terminal : Bool) : Logger where
  handlers := [.lines (.configured json terminal)]
  level := (if verbose then Level.debug else .warning).number
  propagate := false

variable {verbose json terminal : Bool} {root : Logger}

theorem Logging.configure_eq (l : Logging) :
    l.configure verbose json terminal = ⟨.configured verbose json terminal, l.root⟩ := by
  cases verbose <;> rfl

theorem Logging.deliver_configured (r : LogRecord) :
    deliver ⟨.configured verbose json terminal, root⟩ (entryOf r) =
      if verbose then [.lines (.configured json terminal)] else [] := by
  unfold deliver threshold handlersFor
  rw [entryOf, inPackage_logger]
  cases verbose <;> rfl

theorem Logging.emit_configured (time : String) (r : LogRecord) :
    emit ⟨.configured verbose json terminal, root⟩ time (entryOf r) =
      if verbose then (Renderer.configured json terminal).line time (entryOf r) else "" := by
  unfold emit
  rw [deliver_configured]
  unfold handlersFor
  rw [entryOf, inPackage_logger]
  cases verbose <;> simp [Logger.configured]

theorem Logging.emitAll_configured (time : String) (rs : List LogRecord) :
    emitAll ⟨.configured verbose json terminal, root⟩ time rs =
      if verbose then
        String.join (rs.map fun r => (Renderer.configured json terminal).line time (entryOf r))
      else "" := by
  unfold emitAll
  simp only [emit_configured]
  cases verbose with
  | true => rfl
  | false =>
    induction rs with
    | nil => rfl
    | cons r rs ih => simpa using ih

namespace Program

variable {p : Program σ}

theorem root_after (host : Host σ) (p : Program σ) (e : Event) :
    (p.after host e).logging.root = p.logging.root := by
  cases e <;> rfl

theorem root_afterAll (host : Host σ) (p : Program σ) (es : List Event) :
    (p.afterAll host es).logging.root = p.logging.root := by
  induction es generalizing p with
  | nil => rfl
  | cons e es ih => exact (ih (p.after host e)).trans (root_after host p e)

theorem logging_steps (host : Host σ) (p : Program σ) (steps : List Step) :
    (p.afterAll host (steps.map .step)).logging = p.logging := by
  induction steps generalizing p with
  | nil => rfl
  | cons s steps ih => exact ih (p.after host (.step s))

theorem logging_configured (host : Host σ) (p : Program σ) (es : List Event) :
    (p.afterAll host (es ++ [.configure verbose json terminal])).logging =
      ⟨.configured verbose json terminal, p.logging.root⟩ := by
  rw [afterAll_append, ← root_afterAll host p es]
  exact Logging.configure_eq _

theorem delivered_step (hl : p.logging = ⟨.configured verbose json terminal, root⟩) (s : Step) :
    p.delivered host (.step s) =
      if verbose then
        (s.logged host p.world).map fun r => (.lines (.configured json terminal), Logging.entryOf r)
      else [] := by
  rw [delivered, hl]
  simp only [Logging.deliver_configured]
  cases verbose with
  | true => exact List.map_eq_flatMap.symm
  | false => simp

theorem deliveredAll_steps (hl : p.logging = ⟨.configured verbose json terminal, root⟩)
    (steps : List Step) :
    ∃ logged,
      (p.afterAll host (steps.map .step)).world.records = p.world.records ++ logged ∧
      p.deliveredAll host (steps.map .step) =
        if verbose then
          logged.map fun r => (.lines (.configured json terminal), Logging.entryOf r)
        else [] := by
  induction steps generalizing p with
  | nil => exact ⟨[], (List.append_nil _).symm, by cases verbose <;> rfl⟩
  | cons s steps ih =>
    obtain ⟨logged, hrecords, hdelivered⟩ := ih (p := p.after host (.step s)) hl
    refine ⟨s.logged host p.world ++ logged, ?_, ?_⟩
    · have hs : (p.after host (.step s)).world.records =
          p.world.records ++ s.logged host p.world := s.records_after host p.world
      rw [← List.append_assoc, ← hs]
      exact hrecords
    · rw [List.map_cons, deliveredAll, delivered_step hl, hdelivered]
      cases verbose <;> simp

theorem written_step (hl : p.logging = ⟨.configured verbose json terminal, root⟩) (time : String)
    (s : Step) :
    p.written host time (.step s) =
      if verbose then
        String.join ((s.logged host p.world).map fun r =>
          (Renderer.configured json terminal).line time (Logging.entryOf r))
      else "" := by
  rw [written, hl, Logging.emitAll_configured]

end Program

/-- However often the log has been configured, the library's logger is as the last configuration
makes it, and the root logger as it has always been. Up to the next configuration every record goes
once to the one handler there is, if debugging was asked for, and nowhere if not; of a call of the
gate that is what its first phase and its predicates give ground for, line by line. -/
theorem last_configuration_decides (host : Host σ) (p : Program σ) (before : List Event)
    (verbose json terminal : Bool) (steps : List Step) :
    let renderer := if json then Renderer.json else .console terminal
    let configured := p.afterAll host (before ++ [.configure verbose json terminal])
    let later := configured.afterAll host (steps.map .step)
    (p.afterAll host before).logging.root = p.logging.root ∧
    configured.logging =
      { package :=
          { handlers := [.lines renderer]
            level := (if verbose then Level.debug else .warning).number
            propagate := false }
        root := p.logging.root } ∧
    later.logging = configured.logging ∧
    (∃ logged, later.world.records = configured.world.records ++ logged ∧
      configured.deliveredAll host (steps.map .step) =
        if verbose then logged.map fun r => (.lines renderer, Logging.entryOf r) else []) ∧
    ∀ args spec trailing called settings,
      let g : GateCall σ := { host, args, spec, trailing, called, settings, world := later.world }
      let call : Event := .step (.validate args spec trailing called settings)
      ∃ notices reports, Once g.Notices notices ∧ Once g.Reports reports ∧
        later.delivered host call =
          (if verbose then (notices ++ reports).map fun e => (.lines renderer, e) else []) ∧
        ∀ time, later.written host time call =
          if verbose then String.join ((notices ++ reports).map (renderer.line time)) else "" := by
  intro renderer configured later
  have hconfigured : configured.logging = ⟨.configured verbose json terminal, p.logging.root⟩ :=
    p.logging_configured host before
  have hlater : later.logging = ⟨.configured verbose json terminal, p.logging.root⟩ :=
    (configured.logging_steps host steps).trans hconfigured
  refine ⟨p.root_afterAll host before, hconfigured, configured.logging_steps host steps,
    Program.deliveredAll_steps hconfigured steps, fun args spec trailing called settings => ?_⟩
  intro g call
  obtain ⟨logged, notices, reports, hrecords, hentries, hnotices, hreports⟩ := g.exists_logged
  have hlogged : (Step.validate args spec trailing called settings).logged host later.world =
      logged := by
    apply Step.logged_eq
    rw [Step.after_eq_last]
    exact hrecords
  refine ⟨notices, reports, hnotices, hreports, ?_, fun time => ?_⟩
  · rw [Program.delivered_step hlater, hlogged, ← hentries, List.map_map]
    rfl
  · rw [Program.written_step hlater, hlogged, ← hentries, List.map_map]
    rfl

end Journal

end ParamGate
