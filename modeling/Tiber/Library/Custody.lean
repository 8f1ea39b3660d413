import Tiber.Library.Machine

/-! Custody of one shared record.

At most one party has custody at a time, and only that party works on the
record. Custody can be taken over from its holder, given up, or closed with a
result; a closed record is never taken again and its result is final.
-/

set_option autoImplicit false

namespace Library

inductive Hold (ι ρ : Type) where
  | free
  | held (holder : ι)
  | closed (result : ρ)
  deriving DecidableEq, Repr

/-- Who holds the record, and who has worked on it, latest first. -/
structure Custody (ι ρ : Type) where
  hold : Hold ι ρ
  worked : List ι := []
  deriving DecidableEq, Repr

namespace Custody

variable {ι ρ : Type} [DecidableEq ι]

inductive Move (ι ρ : Type) where
  | take (party : ι)
  | work (party : ι)
  | giveUp
  | close (result : ρ)
  deriving DecidableEq, Repr

def step (custody : Custody ι ρ) : Move ι ρ → Option (Custody ι ρ)
  | .take party =>
      match custody.hold with
      | .closed _ => none
      | .free | .held _ => some { custody with hold := .held party }
  | .work party =>
      match custody.hold with
      | .held holder =>
          if holder = party then some { custody with worked := party :: custody.worked } else none
      | .free | .closed _ => none
  | .giveUp =>
      match custody.hold with
      | .held _ => some { custody with hold := .free }
      | .free | .closed _ => none
  | .close result =>
      match custody.hold with
      | .closed _ => none
      | .free | .held _ => some { custody with hold := .closed result }

theorem run_closed {custody after : Custody ι ρ} {result : ρ} {moves : List (Move ι ρ)}
    (closed : custody.hold = .closed result) (reached : Machine.run step custody moves = some after) :
    after = custody := by
  cases moves with
  | nil => cases reached; rfl
  | cons move rest =>
      obtain ⟨next, taken, -⟩ := Machine.run_cons_eq_some.mp reached
      cases move <;> simp [step, closed] at taken

theorem run_open {custody : Custody ι ρ} (unclosed : ∀ result, custody.hold ≠ .closed result)
    (target : Hold ι ρ) :
    ∃ moves, Machine.run step custody moves = some { custody with hold := target } := by
  obtain ⟨hold, worked⟩ := custody
  cases target with
  | held party =>
      refine ⟨[.take party], ?_⟩
      cases hold with
      | free | held => rfl
      | closed result => exact absurd rfl (unclosed result)
  | closed result =>
      refine ⟨[.close result], ?_⟩
      cases hold with
      | free | held => rfl
      | closed result => exact absurd rfl (unclosed result)
  | free =>
      cases hold with
      | free => exact ⟨[], rfl⟩
      | held holder => exact ⟨[.giveUp], rfl⟩
      | closed result => exact absurd rfl (unclosed result)

end Custody

end Library
