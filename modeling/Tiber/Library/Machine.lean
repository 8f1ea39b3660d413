import Mathlib.Data.List.Basic
import Mathlib.Logic.Relation

/-! Deterministic labelled machines and their runs.

A machine is a partial step function. The event carries everything the
environment chooses, so a run is a list of events and can be evaluated.
An admission predicate restricts the steps a statement is about.
-/

set_option autoImplicit false

namespace Library.Machine

variable {σ ε : Type}

/-- Take the events in order; an event that is not enabled ends the run in `none`. -/
def run (step : σ → ε → Option σ) : σ → List ε → Option σ
  | state, [] => some state
  | state, event :: rest => (step state event).bind fun next => run step next rest

/-- Every event of the run is taken in a state that admits it. -/
def Along (step : σ → ε → Option σ) (allow : σ → ε → Prop) : σ → List ε → Prop
  | _, [] => True
  | state, event :: rest =>
      allow state event ∧ ∀ next, step state event = some next → Along step allow next rest

variable {step : σ → ε → Option σ} {allow : σ → ε → Prop}

instance decidableAlong [∀ state event, Decidable (allow state event)] :
    ∀ (state : σ) (events : List ε), Decidable (Along step allow state events)
  | _, [] => isTrue trivial
  | state, event :: rest =>
      have : Decidable (∀ next, step state event = some next → Along step allow next rest) :=
        match step state event with
        | none => isTrue fun _ same => nomatch same
        | some next =>
            have : Decidable (Along step allow next rest) := decidableAlong next rest
            decidable_of_iff (Along step allow next rest)
              ⟨fun onward _ same => Option.some.inj same ▸ onward, fun always => always next rfl⟩
      inferInstanceAs (Decidable (_ ∧ _))

@[simp] theorem run_nil (state : σ) : run step state [] = some state := rfl

theorem run_cons_eq_some {state final : σ} {event : ε} {rest : List ε} :
    run step state (event :: rest) = some final ↔
      ∃ next, step state event = some next ∧ run step next rest = some final := by
  simp only [run, Option.bind_eq_some_iff]

theorem run_append (state : σ) (first rest : List ε) :
    run step state (first ++ rest) = (run step state first).bind fun next => run step next rest := by
  induction first generalizing state with
  | nil => rfl
  | cons event tail ih =>
      simp only [List.cons_append, run]
      cases step state event with
      | none => rfl
      | some next => exact ih next

theorem run_through {state final : σ} {first rest : List ε} {event : ε} :
    run step state (first ++ event :: rest) = some final ↔
      ∃ middle next, run step state first = some middle ∧ step middle event = some next ∧
        run step next rest = some final := by
  simp only [run_append, run, Option.bind_eq_some_iff]
  constructor
  · rintro ⟨middle, before, next, taken, later⟩
    exact ⟨middle, next, before, taken, later⟩
  · rintro ⟨middle, next, before, taken, later⟩
    exact ⟨middle, before, next, taken, later⟩

theorem along_append {state middle : σ} {first rest : List ε}
    (along : Along step allow state (first ++ rest)) (reached : run step state first = some middle) :
    Along step allow state first ∧ Along step allow middle rest := by
  induction first generalizing state with
  | nil => cases reached; exact ⟨trivial, along⟩
  | cons event tail ih =>
      obtain ⟨next, taken, later⟩ := run_cons_eq_some.mp reached
      obtain ⟨allowed, onward⟩ := along
      have split := ih (onward next taken) later
      refine ⟨⟨allowed, fun other same => ?_⟩, split.2⟩
      cases taken.symm.trans same
      exact split.1

theorem Along.append {state middle : σ} {first rest : List ε} (along : Along step allow state first)
    (reached : run step state first = some middle) (onward : Along step allow middle rest) :
    Along step allow state (first ++ rest) := by
  induction first generalizing state with
  | nil =>
      cases reached
      exact onward
  | cons event tail ih =>
      obtain ⟨next, taken, later⟩ := run_cons_eq_some.mp reached
      refine ⟨along.1, fun other same => ?_⟩
      cases taken.symm.trans same
      exact ih (along.2 next taken) later

theorem along_always (always : ∀ state event, allow state event) (state : σ) (events : List ε) :
    Along step allow state events := by
  induction events generalizing state with
  | nil => trivial
  | cons event rest ih => exact ⟨always state event, fun next _ => ih next⟩

theorem along_true (state : σ) (events : List ε) : Along step (fun _ _ => True) state events :=
  along_always (fun _ _ => trivial) state events

def Keeps (step : σ → ε → Option σ) (allow : σ → ε → Prop) (inv : σ → Prop) : Prop :=
  ∀ state event next, inv state → allow state event → step state event = some next → inv next

theorem Keeps.run {inv : σ → Prop} (keeps : Keeps step allow inv) {state final : σ}
    {events : List ε} (start : inv state) (along : Along step allow state events)
    (reached : Machine.run step state events = some final) : inv final := by
  induction events generalizing state with
  | nil => cases reached; exact start
  | cons event rest ih =>
      obtain ⟨next, taken, later⟩ := run_cons_eq_some.mp reached
      exact ih (keeps state event next start along.1 taken) (along.2 next taken) later

/-- A relation between the two ends of every allowed step, read over whole runs. -/
theorem Keeps.relates {inv : σ → Prop} (keeps : Keeps step allow inv) (rel : σ → σ → Prop)
    (refl : ∀ state, rel state state) (trans : ∀ a b c, rel a b → rel b c → rel a c)
    (edge : ∀ state event next, inv state → allow state event → step state event = some next →
      rel state next)
    {state final : σ} {events : List ε} (start : inv state)
    (along : Along step allow state events) (reached : Machine.run step state events = some final) :
    rel state final := by
  induction events generalizing state with
  | nil => cases reached; exact refl _
  | cons event rest ih =>
      obtain ⟨next, taken, later⟩ := run_cons_eq_some.mp reached
      exact trans state next final (edge state event next start along.1 taken)
        (ih (keeps state event next start along.1 taken) (along.2 next taken) later)

/-- What every allowed step says about its event, read over whole runs. -/
theorem Keeps.events {inv : σ → Prop} (keeps : Keeps step allow inv) (about : ε → Prop)
    (edge : ∀ state event next, inv state → allow state event → step state event = some next → about event)
    {state final : σ} {events : List ε} (start : inv state)
    (along : Along step allow state events) (reached : Machine.run step state events = some final) :
    ∀ event ∈ events, about event := by
  induction events generalizing state with
  | nil => exact fun _ member => nomatch member
  | cons event rest ih =>
      obtain ⟨next, taken, later⟩ := run_cons_eq_some.mp reached
      have onward := ih (keeps state event next start along.1 taken) (along.2 next taken) later
      exact List.forall_mem_cons.mpr ⟨edge state event next start along.1 taken, onward⟩

/-- A weight that grows by one at every counted event and stays at the others counts them. -/
theorem Keeps.counts {inv : σ → Prop} (keeps : Keeps step allow inv) (weight : σ → Nat) (counted : ε → Bool)
    (edge : ∀ state event next, inv state → allow state event → step state event = some next →
      weight next = weight state + (if counted event then 1 else 0))
    {state final : σ} {events : List ε} (start : inv state)
    (along : Along step allow state events) (reached : Machine.run step state events = some final) :
    weight final = weight state + events.countP counted := by
  induction events generalizing state with
  | nil => cases reached; rfl
  | cons event rest ih =>
      obtain ⟨next, taken, later⟩ := run_cons_eq_some.mp reached
      have onward := ih (keeps state event next start along.1 taken) (along.2 next taken) later
      rw [onward, edge state event next start along.1 taken, List.countP_cons]
      omega

/-! ## Simulation -/

variable {α β : Type} {abstract : α → β → Option α}

/-- Each allowed step of the concrete machine is matched by a run of the abstract one. -/
def Simulates (step : σ → ε → Option σ) (allow : σ → ε → Prop) (abstract : α → β → Option α)
    (related : σ → α → Prop) : Prop :=
  ∀ state event next view, related state view → allow state event → step state event = some next →
    ∃ moves after, Machine.run abstract view moves = some after ∧ related next after

theorem Simulates.run {related : σ → α → Prop} (simulates : Simulates step allow abstract related)
    {state final : σ} {events : List ε} {view : α} (start : related state view)
    (along : Along step allow state events) (reached : Machine.run step state events = some final) :
    ∃ moves after, Machine.run abstract view moves = some after ∧ related final after := by
  induction events generalizing state view with
  | nil => cases reached; exact ⟨[], view, rfl, start⟩
  | cons event rest ih =>
      obtain ⟨next, taken, later⟩ := run_cons_eq_some.mp reached
      obtain ⟨moves, between, matched, held⟩ :=
        simulates state event next view start along.1 taken
      obtain ⟨others, after, ended, last⟩ := ih held (along.2 next taken) later
      refine ⟨moves ++ others, after, ?_, last⟩
      rw [run_append, matched]
      exact ended

end Library.Machine
