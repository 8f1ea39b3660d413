import Mathlib.Data.Prod.Lex
import Mathlib.Algebra.Order.Ring.Int
import Tiber.Infrastructure.OutboxRow
import Tiber.Library.SkipLocked

/-! The outbox table as the relay works on it: the queue of unpublished rows. -/

set_option autoImplicit false

namespace Tiber

open Library

def OutboxPriority.rank : OutboxPriority → Nat
  | high => 0
  | normal => 1

/-- Of the payload the relay reads `project_id`, which is `none` here when it is missing or no string. -/
structure OutboxModel where
  kind : OutboxKind
  aggregateId : Uuid
  priority : OutboxPriority
  projectId : Option Text
  availableAt : Instant
  publishedAt : Option Instant := none
  deadLetteredAt : Option Instant := none
  attempts : Nat := 0
  lastError : Option Text := none
  deriving DecidableEq

/-- Relays are numbered. -/
abbrev OutboxTable := LockedTable OutboxModel Nat

structure OutboxMessage where
  id : Nat
  kind : OutboxKind
  aggregateId : Uuid
  projectId : Option Text
  attempts : Nat
  deriving DecidableEq

/-- `_insert`, with the defaults of the columns. -/
def OutboxRow.toModel (row : OutboxRow) (projectId : Option Text) (now : Instant) : OutboxModel where
  kind := row.kind
  aggregateId := row.aggregateId
  priority := row.priority
  projectId
  availableAt := row.availableAt.getD now

namespace OutboxModel

def due (now : Instant) (row : OutboxModel) : Bool :=
  row.publishedAt.isNone && row.deadLetteredAt.isNone && decide (row.availableAt ≤ now)

def rank (entry : Nat × OutboxModel) : Nat ×ₗ Instant ×ₗ Nat :=
  toLex (entry.2.priority.rank, toLex (entry.2.availableAt, entry.1))

def message (id : Nat) (row : OutboxModel) : OutboxMessage where
  id
  kind := row.kind
  aggregateId := row.aggregateId
  projectId := row.projectId
  attempts := row.attempts

def markPublished (publishedAt : Instant) (row : OutboxModel) : OutboxModel :=
  { row with publishedAt := some publishedAt, lastError := none }

def markFailed (failedAt : Instant) (error : String) (nextAttemptAt : Option Instant) (row : OutboxModel) :
    OutboxModel :=
  let counted := { row with attempts := row.attempts + 1, lastError := some (error.toList.take 2000) }
  match nextAttemptAt with
  | none => { counted with deadLetteredAt := some failedAt }
  | some nextAttemptAt => { counted with availableAt := nextAttemptAt }

end OutboxModel

def claimNext (table : OutboxTable) (relay : Nat) (now : Instant) : Option (OutboxMessage × OutboxTable) :=
  (table.first (OutboxModel.due now) OutboxModel.rank).map fun (id, row) => (row.message id, table.lock id relay)

/-! ## The states of a row -/

namespace OutboxModel

inductive State where
  | pending
  | published
  | deadLettered
  deriving DecidableEq, Repr

/-- The states the columns of a row claim. -/
def states (row : OutboxModel) : List State :=
  (if row.publishedAt = none ∧ row.deadLetteredAt = none then [.pending] else []) ++
    (if row.publishedAt ≠ none then [.published] else []) ++
    if row.deadLetteredAt ≠ none then [.deadLettered] else []

theorem due_iff {now : Instant} {row : OutboxModel} :
    row.due now = true ↔ row.publishedAt = none ∧ row.deadLetteredAt = none ∧ row.availableAt ≤ now := by
  simp [due, and_assoc]

end OutboxModel

end Tiber
