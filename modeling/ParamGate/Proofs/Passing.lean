import ParamGate.Proofs.Acceptance
import ParamGate.Proofs.Alike

/-!
The ways to pass the same arguments. A flat sequence of names and values and a mapping made of them
denote the same parameters, and these are all that a call sees of its arguments.
-/

namespace ParamGate

open Run

variable {σ : Type}

namespace Arguments

/-- The ways to pass named values: names and values taking turns, or a mapping of any kind in which
each name has its first place and its last value. -/
inductive Passes (pairs : List (String × Value)) : Value → Prop
  | list : Passes pairs (.list (flatten (named pairs)))
  | tuple : Passes pairs (.tuple (flatten (named pairs)))
  | mapping (kind : MapKind) : Passes pairs (.map kind (Entries.ofPairs (named pairs)))

theorem Passes.params_eq {pairs : List (String × Value)} {args : Value} (h : Passes pairs args) :
    params args = .ok (Entries.ofPairs (named pairs)) := by
  cases h with
  | list => exact params_eq_ok.mpr (.sequence pairs rfl)
  | tuple => exact params_eq_ok.mpr (.sequence pairs rfl)
  | mapping kind =>
    have hself := Entries.ofPairs_of_distinct (Entries.distinct_ofPairs (named pairs))
    exact congrArg Except.ok hself

end Arguments

/-- The worlds differ at most in the arguments of the call, which are given for each. -/
structure World.SameButArgs (a b : Value) (w w' : World σ) : Prop where
  left : w.args = a
  eq : w' = { w with args := b }

namespace World.SameButArgs

variable {a b : Value}

theorem seenAlike (h : Arguments.params b = Arguments.params a) :
    SeenAlike (World.SameButArgs (σ := σ) a b) where
  params := by
    rintro w _ ⟨rfl, rfl⟩
    exact h
  host := by
    rintro w _ ⟨-, rfl⟩
    rfl
  called := by
    rintro w _ ⟨hl, rfl⟩ h c
    exact ⟨hl, rfl⟩
  logged := by
    rintro w _ ⟨hl, rfl⟩ r
    exact ⟨hl, rfl⟩

theorem settings_alike (settings : Option Settings) :
    Alike (World.SameButArgs (σ := σ) a b) (World.settings settings) (World.settings settings) := by
  refine World.settings_alike ?_ ?_ settings
  · rintro w _ ⟨-, rfl⟩
    exact ⟨rfl, rfl⟩
  · rintro w _ ⟨hl, rfl⟩ S
    exact ⟨hl, rfl⟩

end World.SameButArgs

/-- However the same values are passed, a call has the same outcome and leaves the same world
behind, the calls made and their order included; only the arguments in the caller's hands are what
was passed. -/
theorem ways_of_passing_are_interchangeable {pairs : List (String × Value)} {a b : Value}
    (ha : Arguments.Passes pairs a) (hb : Arguments.Passes pairs b) (host : Host σ)
    (spec called : Value) (trailing : List Value) (settings : Option Settings) (w : World σ) :
    (outcome (validateParams host b spec called settings w) =
        outcome (validateParams host a spec called settings w) ∧
      last (validateParams host b spec called settings w) =
        { last (validateParams host a spec called settings w) with args := b }) ∧
    outcome (validate host b spec trailing called settings w) =
        outcome (validate host a spec trailing called settings w) ∧
      last (validate host b spec trailing called settings w) =
        { last (validate host a spec trailing called settings w) with args := b } := by
  have hparams : Arguments.params b = Arguments.params a := hb.params_eq.trans ha.params_eq.symm
  have hseen := World.SameButArgs.seenAlike (σ := σ) hparams
  have hsettings := World.SameButArgs.settings_alike (σ := σ) (a := a) (b := b) settings
  have hstart : World.SameButArgs a b { w with args := a } { w with args := b } := ⟨rfl, rfl⟩
  obtain ⟨hout, hlast⟩ := validateParams_alike hseen hsettings hstart host spec called
  obtain ⟨hout', hlast'⟩ := validate_alike hseen hsettings hstart host spec trailing called
  exact ⟨⟨hout.symm, hlast.eq⟩, hout'.symm, hlast'.eq⟩

/-- A flat call that gives `b` twice goes like the call with a mapping that cannot be changed, in
which `b` comes first and has its last value. -/
theorem ways_of_passing_repeated_name :
    Arguments.Passes [("b", .int 1), ("a", .int 2), ("b", .null)]
        (.list [.text "b", .int 1, .text "a", .int 2, .text "b", .null]) ∧
      Arguments.Passes [("b", .int 1), ("a", .int 2), ("b", .null)]
        (.map .readOnly [(.text "b", .null), (.text "a", .int 2)]) ∧
      outcome (validate pairedHost (.map .readOnly [(.text "b", .null), (.text "a", .int 2)])
          pairedSpec [] .null (some {}) { host := [] }) =
        outcome (validate pairedHost
          (.list [.text "b", .int 1, .text "a", .int 2, .text "b", .null]) pairedSpec [] .null
          (some {}) { host := [] }) := by
  have hlist : Arguments.Passes [("b", .int 1), ("a", .int 2), ("b", .null)]
      (.list [.text "b", .int 1, .text "a", .int 2, .text "b", .null]) := .list
  have hmap : Arguments.Passes [("b", .int 1), ("a", .int 2), ("b", .null)]
      (.map .readOnly [(.text "b", .null), (.text "a", .int 2)]) := .mapping .readOnly
  have hsame := ways_of_passing_are_interchangeable hlist hmap pairedHost pairedSpec .null []
    (some {}) { host := [] }
  exact ⟨hlist, hmap, hsame.2.1⟩

end ParamGate
