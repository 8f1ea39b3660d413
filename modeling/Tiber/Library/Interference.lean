import Mathlib.Data.List.Basic

/-! Noninterference: what one party observes does not depend on what the others do.

Two runs in which the party does the same may differ in everything else. The unwinding conditions
are about one event each, and the theorem carries them over whole runs.
-/

set_option autoImplicit false

namespace Library

/-- A system that answers every event and goes on. -/
structure Responder (σ ε ω : Type) where
  answer : σ → ε → ω
  next : σ → ε → σ

namespace Responder

variable {σ ε ω : Type} (system : Responder σ ε ω) (own : ε → Bool)

def after : σ → List ε → σ
  | state, [] => state
  | state, event :: rest => after (system.next state event) rest

def view : σ → List ε → List ω
  | _, [] => []
  | state, event :: rest =>
      if own event then system.answer state event :: view (system.next state event) rest
      else view (system.next state event) rest

def Along (allow : σ → ε → Prop) : σ → List ε → Prop
  | _, [] => True
  | state, event :: rest => allow state event ∧ Along allow (system.next state event) rest

/-- What one event does to two states that are alike to the party. -/
structure Unwinding (allow : σ → ε → Prop) (alike : σ → σ → Prop) : Prop where
  answer : ∀ {state other event}, alike state other → own event = true → allow state event → allow other event →
    system.answer state event = system.answer other event
  both : ∀ {state other event}, alike state other → own event = true → allow state event → allow other event →
    alike (system.next state event) (system.next other event)
  left : ∀ {state other event}, alike state other → own event = false → allow state event →
    alike (system.next state event) other
  right : ∀ {state other event}, alike state other → own event = false → allow other event →
    alike state (system.next other event)

variable {system own} {allow : σ → ε → Prop} {alike : σ → σ → Prop}

theorem Unwinding.of_symm (symm : ∀ {state other}, alike state other → alike other state)
    (answer : ∀ {state other event}, alike state other → own event = true → allow state event → allow other event →
      system.answer state event = system.answer other event)
    (both : ∀ {state other event}, alike state other → own event = true → allow state event → allow other event →
      alike (system.next state event) (system.next other event))
    (left : ∀ {state other event}, alike state other → own event = false → allow state event →
      alike (system.next state event) other) : system.Unwinding own allow alike where
  answer := answer
  both := both
  left := left
  right related foreign allowed := symm (left (symm related) foreign allowed)

theorem Unwinding.skip (unwinding : system.Unwinding own allow alike) {state other : σ} {event : ε} {tail events : List ε}
    (related : alike state other) (along : system.Along allow other events) (same : events.filter own = event :: tail) :
    ∃ met rest, alike state met ∧ allow met event ∧ system.Along allow (system.next met event) rest ∧
      rest.filter own = tail ∧ system.view own other events = system.answer met event :: system.view own (system.next met event) rest ∧
      system.after other events = system.after (system.next met event) rest := by
  induction events generalizing other with
  | nil => cases same
  | cons first rest ih =>
      obtain ⟨allowed, onward⟩ := along
      cases mine : own first with
      | true =>
          rw [List.filter_cons_of_pos mine, List.cons.injEq] at same
          obtain ⟨rfl, same⟩ := same
          exact ⟨other, rest, related, allowed, onward, same, by rw [view, if_pos mine], rfl⟩
      | false =>
          have foreign : ¬ own first = true := by rw [mine]; exact Bool.false_ne_true
          rw [List.filter_cons_of_neg foreign] at same
          obtain ⟨met, later, alike, allows, along, others, viewed, ended⟩ :=
            ih (unwinding.right related mine allowed) onward same
          exact ⟨met, later, alike, allows, along, others, by rw [view, if_neg foreign, viewed], ended⟩

theorem Unwinding.quiet (unwinding : system.Unwinding own allow alike) {state other : σ} {events : List ε}
    (related : alike state other) (along : system.Along allow other events) (foreign : events.filter own = []) :
    system.view own other events = [] ∧ alike state (system.after other events) := by
  induction events generalizing other with
  | nil => exact ⟨rfl, related⟩
  | cons first rest ih =>
      obtain ⟨allowed, onward⟩ := along
      cases mine : own first with
      | true =>
          rw [List.filter_cons_of_pos mine] at foreign
          cases foreign
      | false =>
          have others : ¬ own first = true := by rw [mine]; exact Bool.false_ne_true
          rw [List.filter_cons_of_neg others] at foreign
          obtain ⟨viewed, ended⟩ := ih (unwinding.right related mine allowed) onward foreign
          exact ⟨by rw [view, if_neg others, viewed], ended⟩

/-- Two runs in which the party does the same look the same to it. -/
theorem Unwinding.noninterference (unwinding : system.Unwinding own allow alike) {state other : σ} {events others : List ε}
    (related : alike state other) (along : system.Along allow state events) (along' : system.Along allow other others)
    (same : events.filter own = others.filter own) :
    system.view own state events = system.view own other others ∧
      alike (system.after state events) (system.after other others) := by
  induction events generalizing state other others with
  | nil =>
      obtain ⟨viewed, ended⟩ := unwinding.quiet related along' same.symm
      exact ⟨viewed.symm, ended⟩
  | cons first rest ih =>
      obtain ⟨allowed, onward⟩ := along
      cases mine : own first with
      | true =>
          rw [List.filter_cons_of_pos mine] at same
          obtain ⟨met, later, near, allows, along, tail, viewed, ended⟩ := unwinding.skip related along' same.symm
          obtain ⟨seen, final⟩ := ih (unwinding.both near mine allowed allows) onward along tail.symm
          rw [view, if_pos mine, viewed, unwinding.answer near mine allowed allows, seen, ended]
          exact ⟨rfl, final⟩
      | false =>
          have foreign : ¬ own first = true := by rw [mine]; exact Bool.false_ne_true
          rw [List.filter_cons_of_neg foreign] at same
          rw [view, if_neg foreign]
          exact ih (unwinding.left related mine allowed) onward along' same

end Responder

end Library
