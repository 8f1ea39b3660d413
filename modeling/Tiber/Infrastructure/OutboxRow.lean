import Tiber.Application.IntakeProcessor

/-! Outbox rows: one for an accepted intake, and those fan-out writes next to the children
they announce.

The relay finds the aggregate by its id; the payload repeats ids and the channel and is left
out.
-/

set_option autoImplicit false

namespace Tiber

open Library

inductive OutboxKind where
  | intake
  | dispatch
  deriving DecidableEq, Repr

/-- `available_at` is left to the database, which takes the time of the insert, when it is `none`. -/
structure OutboxRow where
  kind : OutboxKind
  aggregateId : Uuid
  priority : OutboxPriority
  availableAt : Option Instant
  deriving DecidableEq

def enqueueIntake (intake : NotificationIntake) (priority : OutboxPriority) : OutboxRow where
  kind := .intake
  aggregateId := intake.id
  priority
  availableAt := none

def enqueueDispatch (notification : Notification) : OutboxRow where
  kind := .dispatch
  aggregateId := notification.id
  priority := if notification.category = .critical then .high else .normal
  availableAt := notification.sendAt

def Notification.announced (notification : Notification) : Bool :=
  notification.status == .pending || notification.status == .postponed

def dispatchRows (children : List Notification) : List OutboxRow :=
  (children.filter Notification.announced).map enqueueDispatch

theorem dispatchRows_append (first rest : List Notification) :
    dispatchRows (first ++ rest) = dispatchRows first ++ dispatchRows rest := by
  simp [dispatchRows]

end Tiber
