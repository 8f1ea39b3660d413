import Mathlib.Logic.Basic

/-! Programs over a state, and what two runs of one program have in common.

A program returns a value or fails, and what it has done to the state stands either way; a
transaction takes it back on failure. `Twins` is the relational form of a Hoare triple: from
related states both runs end alike, with the same value or the same error.
-/

set_option autoImplicit false

namespace Library

def Program (σ ε α : Type) : Type := σ → Except ε α × σ

namespace Program

variable {σ ε α β : Type}

instance : Monad (Program σ ε) where
  pure value := fun state => (.ok value, state)
  bind first next := fun state =>
    match first state with
    | (.ok value, later) => next value later
    | (.error error, later) => (.error error, later)

def outcome (program : Program σ ε α) (state : σ) : Except ε α := (program state).1

def final (program : Program σ ε α) (state : σ) : σ := (program state).2

def fail (error : ε) : Program σ ε α := fun state => (.error error, state)

def lift (checked : Except ε α) : Program σ ε α := fun state => (checked, state)

def read (view : σ → α) : Program σ ε α := fun state => (.ok (view state), state)

/-- One statement: it fails without effect. -/
def statement (run : σ → Except ε (α × σ)) : Program σ ε α := fun state =>
  match run state with
  | .ok (value, later) => (.ok value, later)
  | .error error => (.error error, state)

def modify (change : σ → σ) : Program σ ε Unit := fun state => (.ok (), change state)

/-- `try`: a failure is handled in the state it leaves behind. -/
def rescue (program : Program σ ε α) (handler : ε → Program σ ε α) : Program σ ε α := fun state =>
  match program state with
  | (.ok value, later) => (.ok value, later)
  | (.error error, later) => handler error later

def transaction (program : Program σ ε α) : Program σ ε α := fun state =>
  match program state with
  | (.ok value, later) => (.ok value, later)
  | (.error error, _) => (.error error, state)

/-- From states related by `before`, two runs end alike: in a value with `after` between the
states, or in an error with `failing` between them. -/
def Twins (before : σ → σ → Prop) (program : Program σ ε α) (after : α → σ → σ → Prop)
    (failing : σ → σ → Prop) : Prop :=
  ∀ state other, before state other →
    program.outcome state = program.outcome other ∧
      (∀ value, program.outcome state = .ok value → after value (program.final state) (program.final other)) ∧
      ∀ error, program.outcome state = .error error → failing (program.final state) (program.final other)

namespace Twins

variable {before : σ → σ → Prop} {after : α → σ → σ → Prop} {failing : σ → σ → Prop}

protected theorem pure {value : α} (holds : ∀ state other, before state other → after value state other) :
    Twins before (Pure.pure value : Program σ ε α) after failing := by
  intro state other related
  refine ⟨rfl, ?_, nofun⟩
  rintro _ ⟨⟩
  exact holds state other related

theorem fail {error : ε} (holds : ∀ state other, before state other → failing state other) :
    Twins before (Program.fail error) after failing := by
  intro state other related
  exact ⟨rfl, nofun, fun _ _ => holds state other related⟩

theorem read {view : σ → α} (same : ∀ state other, before state other → view state = view other)
    (holds : ∀ state other, before state other → after (view state) state other) :
    Twins before (Program.read view : Program σ ε α) after failing := by
  intro state other related
  refine ⟨congrArg Except.ok (same state other related), ?_, nofun⟩
  rintro _ ⟨⟩
  exact holds state other related

theorem modify {change : σ → σ} {after : Unit → σ → σ → Prop}
    (holds : ∀ state other, before state other → after () (change state) (change other)) :
    Twins before (Program.modify change : Program σ ε Unit) after failing := by
  intro state other related
  exact ⟨rfl, fun _ _ => holds state other related, nofun⟩

theorem statement {run : σ → Except ε (α × σ)}
    (alike : ∀ state other, before state other →
      (∃ error, run state = .error error ∧ run other = .error error ∧ failing state other) ∨
        ∃ value later later', run state = .ok (value, later) ∧ run other = .ok (value, later') ∧ after value later later') :
    Twins before (Program.statement run) after failing := by
  intro state other related
  unfold outcome final Program.statement
  rcases alike state other related with ⟨error, left, right, holds⟩ | ⟨value, later, later', left, right, holds⟩
  · rw [left, right]
    exact ⟨rfl, nofun, fun _ _ => holds⟩
  · rw [left, right]
    refine ⟨rfl, ?_, nofun⟩
    rintro _ ⟨⟩
    exact holds

theorem bind {first : Program σ ε α} {next : α → Program σ ε β} (between : α → σ → σ → Prop)
    {after : β → σ → σ → Prop} (start : Twins before first between failing)
    (rest : ∀ value, Twins (between value) (next value) after failing) :
    Twins before (first >>= next) after failing := by
  intro state other related
  obtain ⟨alike, onward, stopped⟩ := start state other related
  unfold outcome final at *
  simp only [Bind.bind]
  rcases left : first state with ⟨error | value, later⟩ <;>
    rcases right : first other with ⟨error' | value', later'⟩ <;>
    simp only [left, right] at alike onward stopped ⊢ <;> cases alike
  · exact ⟨rfl, nofun, fun _ _ => stopped _ rfl⟩
  · exact rest _ later later' (onward _ rfl)

theorem rescue {program : Program σ ε α} {handler : ε → Program σ ε α} (caught : σ → σ → Prop)
    (attempt : Twins before program after caught) (handled : ∀ error, Twins caught (handler error) after failing) :
    Twins before (program.rescue handler) after failing := by
  intro state other related
  obtain ⟨alike, onward, stopped⟩ := attempt state other related
  unfold outcome final Program.rescue at *
  rcases left : program state with ⟨error | value, later⟩ <;>
    rcases right : program other with ⟨error' | value', later'⟩ <;>
    simp only [left, right] at alike onward stopped ⊢ <;> cases alike
  · exact handled _ later later' (stopped _ rfl)
  · exact ⟨rfl, onward, nofun⟩

theorem transaction {program : Program σ ε α} (body : Twins before program after fun _ _ => True)
    (restored : ∀ state other, before state other → failing state other) :
    Twins before program.transaction after failing := by
  intro state other related
  obtain ⟨alike, onward, -⟩ := body state other related
  unfold outcome final Program.transaction at *
  rcases left : program state with ⟨error | value, later⟩ <;>
    rcases right : program other with ⟨error' | value', later'⟩ <;>
    simp only [left, right] at alike onward ⊢ <;> cases alike
  · exact ⟨rfl, nofun, fun _ _ => restored state other related⟩
  · exact ⟨rfl, onward, nofun⟩

theorem under {before' : σ → σ → Prop} {program : Program σ ε α} (twins : Twins before program after failing)
    (stronger : ∀ state other, before' state other → before state other) : Twins before' program after failing :=
  fun state other related => twins state other (stronger state other related)

theorem reading {view : σ → α} {next : α → Program σ ε β} {after : β → σ → σ → Prop}
    (same : ∀ state other, before state other → view state = view other)
    (rest : ∀ value, Twins before (next value) after failing) :
    Twins before (Program.read view >>= next) after failing :=
  bind (fun _ => before) (Twins.read same fun _ _ related => related) rest

theorem checking {checked : Except ε α} {next : α → Program σ ε β} {after : β → σ → σ → Prop}
    (fails : ∀ state other, before state other → failing state other)
    (rest : ∀ value, checked = .ok value → Twins before (next value) after failing) :
    Twins before (Program.lift checked >>= next) after failing := by
  cases checked with
  | error error => exact fun state other related => ⟨rfl, nofun, fun _ _ => fails state other related⟩
  | ok value => exact fun state other related => rest value rfl state other related

theorem given {fact : Prop} {program : Program σ ε α} (holds : ∀ state other, before state other → fact)
    (twins : fact → Twins before program after failing) : Twins before program after failing := by
  intro state other related
  exact twins (holds state other related) state other related

end Twins

end Program

end Library
