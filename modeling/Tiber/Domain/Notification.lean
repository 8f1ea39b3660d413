import Tiber.Domain.Content
import Tiber.Library.Zone

/-! The notification entity and its state machine.

The dataclass is a record of fields; a notification is a record that passed
`__post_init__`. Every transition rebuilds the record and checks it again, so
each one is a fallible function, with one lemma that says when it succeeds and
what it returns.
-/

set_option autoImplicit false

namespace Tiber

open Library

/-- A template variable's value. The code asks only whether it is `None`, what
`str` prints for it and how it is written as JSON. -/
inductive JsonValue where
  | null
  | string (text : Text)
  | other (encoded printed : Text)
  deriving DecidableEq, Repr

namespace JsonValue

def isNone : JsonValue → Bool
  | null => true
  | _ => false

def str : JsonValue → Text
  | null => "None".toList
  | string text => text
  | other _ printed => printed

end JsonValue

abbrev Variables := List (Text × JsonValue)

structure NotificationFields where
  id : Uuid
  projectId : Uuid
  recipientId : Uuid
  transactionId : Uuid
  channel : DeliveryChannel
  category : NotificationCategory
  content : NotificationContent
  sendTimeBasis : SendTimeBasis
  status : NotificationStatus := .pending
  topicId : Option Uuid := none
  templateId : Option Uuid := none
  templateVariables : Option Variables := none
  groupKey : Option Text := none
  idempotencyKey : Option Text := none
  sendAt : Option Instant := none
  suppressionReason : Option String := none
  cancellationReason : Option String := none
  failureReason : Option String := none
  deliveredAt : Option Instant := none
  createdAt : Instant
  updatedAt : Instant
  deriving DecidableEq

namespace NotificationFields

/-- Each reason and time stands exactly where its status allows it. -/
def Consistent (fields : NotificationFields) : Prop :=
  (fields.status = .suppressed ↔ fields.suppressionReason.isSome) ∧
  (fields.cancellationReason.isSome → fields.status = .cancelled) ∧
  (fields.status = .failed ∨ fields.status = .bounced ↔ fields.failureReason.isSome) ∧
  (fields.status = .delivered ↔ fields.deliveredAt.isSome) ∧
  (fields.status = .postponed → fields.sendAt.isSome)

instance (fields : NotificationFields) : Decidable fields.Consistent :=
  inferInstanceAs (Decidable (_ ∧ _ ∧ _ ∧ _ ∧ _))

def complaint (fields : NotificationFields) : Option String :=
  if fields.status = .suppressed ∧ fields.suppressionReason = none then
    some "`suppression_reason` is required when status is SUPPRESSED."
  else if fields.status ≠ .suppressed ∧ fields.suppressionReason ≠ none then
    some "`suppression_reason` must only be set when status is SUPPRESSED"
  else if fields.status ≠ .cancelled ∧ fields.cancellationReason ≠ none then
    some "`cancellation_reason` must only be set when status is CANCELLED"
  else if (fields.status = .failed ∨ fields.status = .bounced) ∧ fields.failureReason = none then
    some "`failure_reason` is required when status is FAILED or BOUNCED."
  else if ¬ (fields.status = .failed ∨ fields.status = .bounced) ∧ fields.failureReason ≠ none then
    some "`failure_reason` must only be set when status is FAILED or BOUNCED."
  else if fields.status = .delivered ∧ fields.deliveredAt = none then
    some "`delivered_at` is required when status is DELIVERED"
  else if fields.status ≠ .delivered ∧ fields.deliveredAt ≠ none then
    some "`delivered_at` must only be set when status is DELIVERED"
  else if fields.status = .postponed ∧ fields.sendAt = none then
    some "`send_at` is required when status is POSTPONED (the resume time)"
  else none

theorem complaint_eq_none_iff (fields : NotificationFields) :
    fields.complaint = none ↔ fields.Consistent := by
  unfold complaint Consistent
  simp only [Option.isSome_iff_ne_none]
  constructor
  · intro silent
    split_ifs at silent with bare stray early unexplained excuse undated dated timeless
    exact ⟨⟨fun status absent => bare ⟨status, absent⟩, fun given => by_contra fun other => stray ⟨other, given⟩⟩,
      fun given => by_contra fun other => early ⟨other, given⟩,
      ⟨fun status absent => unexplained ⟨status, absent⟩, fun given => by_contra fun other => excuse ⟨other, given⟩⟩,
      ⟨fun status absent => undated ⟨status, absent⟩, fun given => by_contra fun other => dated ⟨other, given⟩⟩,
      fun status absent => timeless ⟨status, absent⟩⟩
  · rintro ⟨suppressed, cancelled, failed, delivered, postponed⟩
    rw [if_neg fun h => suppressed.mp h.1 h.2, if_neg fun h => h.1 (suppressed.mpr h.2),
      if_neg fun h => h.1 (cancelled h.2), if_neg fun h => failed.mp h.1 h.2,
      if_neg fun h => h.1 (failed.mpr h.2), if_neg fun h => delivered.mp h.1 h.2,
      if_neg fun h => h.1 (delivered.mpr h.2), if_neg fun h => postponed h.1 h.2]

end NotificationFields

structure Notification extends NotificationFields where
  consistent : toNotificationFields.Consistent

namespace Notification

theorem ext_fields {first second : Notification}
    (same : first.toNotificationFields = second.toNotificationFields) : first = second := by
  cases first; cases second; cases same; rfl

instance : DecidableEq Notification := fun first second =>
  decidable_of_iff (first.toNotificationFields = second.toNotificationFields)
    ⟨ext_fields, congrArg _⟩

/-- The constructor, and `dataclasses.replace`. -/
def build : NotificationFields → Checked Notification :=
  construct NotificationFields.complaint fun fields quiet => ⟨fields, fields.complaint_eq_none_iff.mp quiet⟩

theorem build_eq_ok {fields : NotificationFields} {result : Notification} :
    build fields = .ok result ↔ result.toNotificationFields = fields :=
  construct_eq_ok toNotificationFields (fun _ _ => rfl)
    (fun n => n.complaint_eq_none_iff.mpr n.consistent) (fun _ _ => ext_fields)

variable (notification : Notification)

def requireStatus (legal : List NotificationStatus) (target : NotificationStatus) : Checked Unit :=
  if notification.status ∈ legal then .ok ()
  else .error (.invalidStateTransition notification.status.value target.value)

def requireReason (reason message : String) : Checked Unit :=
  if reason = "" then .error (.invalidEntityAttribute message) else .ok ()

/-- `_transition`, with the changes to the other fields already made. -/
def transition (changed : NotificationFields) (status : NotificationStatus) (now : Instant) :
    Checked Notification :=
  build { changed with status, updatedAt := now }

theorem requireStatus_eq_ok {notification : Notification} {legal : List NotificationStatus}
    {target : NotificationStatus} {done : Unit} :
    notification.requireStatus legal target = .ok done ↔ notification.status ∈ legal := by
  unfold requireStatus
  split <;> simp_all

theorem requireReason_eq_ok {reason message : String} {done : Unit} :
    requireReason reason message = .ok done ↔ reason ≠ "" := by
  unfold requireReason
  split <;> simp_all

theorem transition_eq_ok {changed : NotificationFields} {status : NotificationStatus} {now : Instant}
    {result : Notification} :
    transition changed status now = .ok result ↔
      result.toNotificationFields = { changed with status, updatedAt := now } :=
  build_eq_ok

def withContent (content : NotificationContent) (now : Instant) : Checked Notification :=
  build { notification.toNotificationFields with content, updatedAt := now }

def schedule (sendAt : Timestamp) (now : Instant) : Checked Notification :=
  if notification.sendTimeBasis ≠ .mlPredicted then
    .error (.invalidEntityAttribute "`schedule` is only valid for ML_PREDICTED notifications")
  else if notification.status ≠ .pending then
    .error (.invalidEntityAttribute "`schedule` is only valid while the notification is PENDING")
  else match sendAt with
    | .naive _ => .error (.invalidEntityAttribute "`send_at` must be timezone-aware (UTC or other)")
    | .aware instant => build { notification.toNotificationFields with sendAt := some instant, updatedAt := now }

def markProcessing (now : Instant) : Checked Notification := do
  notification.requireStatus [.pending, .postponed] .processing
  transition notification.toNotificationFields .processing now

def retryDelivery (now : Instant) : Checked Notification := do
  notification.requireStatus [.processing] .pending
  transition notification.toNotificationFields .pending now

def reclaimProcessing (now : Instant) : Checked Notification := do
  notification.requireStatus [.processing] .processing
  transition notification.toNotificationFields .processing now

def markCancelled (reason : Option String) (now : Instant) : Checked Notification := do
  notification.requireStatus [.pending] .cancelled
  transition { notification.toNotificationFields with cancellationReason := reason } .cancelled now

def markSuppressed (reason : String) (now : Instant) : Checked Notification := do
  notification.requireStatus [.pending, .processing] .suppressed
  requireReason reason "suppression_reason is required when suppressing"
  transition { notification.toNotificationFields with suppressionReason := some reason } .suppressed now

/-- The resume time is an instant: the policy computes aware datetimes only. -/
def markPostponed (resumeAt now : Instant) : Checked Notification := do
  notification.requireStatus [.pending, .processing] .postponed
  transition { notification.toNotificationFields with sendAt := some resumeAt } .postponed now

def resume (now : Instant) : Checked Notification := do
  notification.requireStatus [.postponed] .pending
  transition notification.toNotificationFields .pending now

def markDelivered (deliveredAt now : Instant) : Checked Notification := do
  notification.requireStatus [.pending, .processing] .delivered
  transition { notification.toNotificationFields with deliveredAt := some deliveredAt } .delivered now

def markFailed (reason : String) (now : Instant) : Checked Notification := do
  notification.requireStatus [.pending, .processing] .failed
  requireReason reason "failure_reason is required when failing"
  transition { notification.toNotificationFields with failureReason := some reason } .failed now

/-! ## When a transition succeeds, and what it returns -/

variable {notification} {result : Notification}

theorem withContent_eq_ok {content : NotificationContent} {now : Instant} :
    notification.withContent content now = .ok result ↔
      result.toNotificationFields = { notification.toNotificationFields with content, updatedAt := now } :=
  build_eq_ok

theorem schedule_eq_ok {sendAt : Timestamp} {now : Instant} :
    notification.schedule sendAt now = .ok result ↔
      notification.sendTimeBasis = .mlPredicted ∧ notification.status = .pending ∧
      ∃ instant, sendAt = .aware instant ∧ result.toNotificationFields =
        { notification.toNotificationFields with sendAt := some instant, updatedAt := now } := by
  unfold schedule
  split_ifs with basis status
  · simp [basis]
  · simp [status]
  · simp only [ne_eq, not_not] at basis status
    cases sendAt with
    | naive wall => simp
    | aware instant => simp [build_eq_ok, basis, status]

theorem markProcessing_eq_ok {now : Instant} :
    notification.markProcessing now = .ok result ↔
      (notification.status = .pending ∨ notification.status = .postponed) ∧
      result.toNotificationFields =
        { notification.toNotificationFields with status := .processing, updatedAt := now } := by
  simp [markProcessing, Checked.bind_eq_ok, requireStatus_eq_ok, transition_eq_ok]

theorem retryDelivery_eq_ok {now : Instant} :
    notification.retryDelivery now = .ok result ↔
      notification.status = .processing ∧
      result.toNotificationFields =
        { notification.toNotificationFields with status := .pending, updatedAt := now } := by
  simp [retryDelivery, Checked.bind_eq_ok, requireStatus_eq_ok, transition_eq_ok]

theorem reclaimProcessing_eq_ok {now : Instant} :
    notification.reclaimProcessing now = .ok result ↔
      notification.status = .processing ∧
      result.toNotificationFields =
        { notification.toNotificationFields with status := .processing, updatedAt := now } := by
  simp [reclaimProcessing, Checked.bind_eq_ok, requireStatus_eq_ok, transition_eq_ok]

theorem markCancelled_eq_ok {reason : Option String} {now : Instant} :
    notification.markCancelled reason now = .ok result ↔
      notification.status = .pending ∧
      result.toNotificationFields =
        { notification.toNotificationFields with
          status := .cancelled, cancellationReason := reason, updatedAt := now } := by
  simp [markCancelled, Checked.bind_eq_ok, requireStatus_eq_ok, transition_eq_ok]

theorem markSuppressed_eq_ok {reason : String} {now : Instant} :
    notification.markSuppressed reason now = .ok result ↔
      (notification.status = .pending ∨ notification.status = .processing) ∧ reason ≠ "" ∧
      result.toNotificationFields =
        { notification.toNotificationFields with
          status := .suppressed, suppressionReason := some reason, updatedAt := now } := by
  simp [markSuppressed, Checked.bind_eq_ok, requireStatus_eq_ok, requireReason_eq_ok, transition_eq_ok]

theorem markPostponed_eq_ok {resumeAt now : Instant} :
    notification.markPostponed resumeAt now = .ok result ↔
      (notification.status = .pending ∨ notification.status = .processing) ∧
      result.toNotificationFields =
        { notification.toNotificationFields with
          status := .postponed, sendAt := some resumeAt, updatedAt := now } := by
  simp [markPostponed, Checked.bind_eq_ok, requireStatus_eq_ok, transition_eq_ok]

theorem resume_eq_ok {now : Instant} :
    notification.resume now = .ok result ↔
      notification.status = .postponed ∧
      result.toNotificationFields =
        { notification.toNotificationFields with status := .pending, updatedAt := now } := by
  simp [resume, Checked.bind_eq_ok, requireStatus_eq_ok, transition_eq_ok]

theorem markDelivered_eq_ok {deliveredAt now : Instant} :
    notification.markDelivered deliveredAt now = .ok result ↔
      (notification.status = .pending ∨ notification.status = .processing) ∧
      result.toNotificationFields =
        { notification.toNotificationFields with
          status := .delivered, deliveredAt := some deliveredAt, updatedAt := now } := by
  simp [markDelivered, Checked.bind_eq_ok, requireStatus_eq_ok, transition_eq_ok]

theorem markFailed_eq_ok {reason : String} {now : Instant} :
    notification.markFailed reason now = .ok result ↔
      (notification.status = .pending ∨ notification.status = .processing) ∧ reason ≠ "" ∧
      result.toNotificationFields =
        { notification.toNotificationFields with
          status := .failed, failureReason := some reason, updatedAt := now } := by
  simp [markFailed, Checked.bind_eq_ok, requireStatus_eq_ok, requireReason_eq_ok, transition_eq_ok]

/-! ## Transitions that cannot fail -/

theorem clean (live : notification.status.terminal = false) :
    notification.suppressionReason = none ∧ notification.cancellationReason = none ∧
      notification.failureReason = none ∧ notification.deliveredAt = none := by
  obtain ⟨suppressed, cancelled, failed, delivered, -⟩ := notification.consistent
  simp only [Option.isSome_iff_ne_none] at suppressed cancelled failed delivered
  cases status : notification.status <;> simp_all [NotificationStatus.terminal]

theorem open_live (waiting : notification.status = .pending ∨ notification.status = .processing) :
    notification.status.terminal = false := by
  rcases waiting with status | status <;> rw [status] <;> rfl

theorem markSuppressed_total {reason : String} (now : Instant)
    (waiting : notification.status = .pending ∨ notification.status = .processing) (given : reason ≠ "") :
    ∃ updated, notification.markSuppressed reason now = .ok updated := by
  obtain ⟨-, cancelled, failed, delivered⟩ := clean (open_live waiting)
  refine ⟨⟨{ notification.toNotificationFields with
      status := .suppressed, suppressionReason := some reason, updatedAt := now }, ?_⟩,
    markSuppressed_eq_ok.mpr ⟨waiting, given, rfl⟩⟩
  simp [NotificationFields.Consistent, cancelled, failed, delivered]

theorem markPostponed_total (resumeAt now : Instant)
    (waiting : notification.status = .pending ∨ notification.status = .processing) :
    ∃ updated, notification.markPostponed resumeAt now = .ok updated := by
  obtain ⟨suppressed, cancelled, failed, delivered⟩ := clean (open_live waiting)
  refine ⟨⟨{ notification.toNotificationFields with
      status := .postponed, sendAt := some resumeAt, updatedAt := now }, ?_⟩,
    markPostponed_eq_ok.mpr ⟨waiting, rfl⟩⟩
  simp [NotificationFields.Consistent, suppressed, cancelled, failed, delivered]

theorem markFailed_total {reason : String} (now : Instant)
    (waiting : notification.status = .pending ∨ notification.status = .processing) (given : reason ≠ "") :
    ∃ updated, notification.markFailed reason now = .ok updated := by
  obtain ⟨suppressed, cancelled, -, delivered⟩ := clean (open_live waiting)
  refine ⟨⟨{ notification.toNotificationFields with
      status := .failed, failureReason := some reason, updatedAt := now }, ?_⟩,
    markFailed_eq_ok.mpr ⟨waiting, given, rfl⟩⟩
  simp [NotificationFields.Consistent, suppressed, cancelled, delivered]

theorem markDelivered_total (deliveredAt now : Instant)
    (waiting : notification.status = .pending ∨ notification.status = .processing) :
    ∃ updated, notification.markDelivered deliveredAt now = .ok updated := by
  obtain ⟨suppressed, cancelled, failed, -⟩ := clean (open_live waiting)
  refine ⟨⟨{ notification.toNotificationFields with
      status := .delivered, deliveredAt := some deliveredAt, updatedAt := now }, ?_⟩,
    markDelivered_eq_ok.mpr ⟨waiting, rfl⟩⟩
  simp [NotificationFields.Consistent, suppressed, cancelled, failed]

theorem schedule_total (instant now : Instant) (basis : notification.sendTimeBasis = .mlPredicted)
    (pending : notification.status = .pending) :
    ∃ updated, notification.schedule (.aware instant) now = .ok updated := by
  obtain ⟨suppressed, cancelled, failed, delivered⟩ := clean (by rw [pending]; rfl)
  refine ⟨⟨{ notification.toNotificationFields with sendAt := some instant, updatedAt := now }, ?_⟩,
    schedule_eq_ok.mpr ⟨basis, pending, instant, rfl, rfl⟩⟩
  simp [NotificationFields.Consistent, suppressed, cancelled, failed, delivered, pending]

/-- From one live status to another, with a time to wait for where the target needs one. -/
theorem transition_total (status : NotificationStatus) (now : Instant)
    (live : notification.status.terminal = false) (onward : status.terminal = false)
    (timed : status = .postponed → notification.sendAt.isSome = true) :
    ∃ updated, transition notification.toNotificationFields status now = .ok updated := by
  obtain ⟨suppressed, cancelled, failed, delivered⟩ := clean live
  refine ⟨⟨{ notification.toNotificationFields with status, updatedAt := now }, ?_⟩, transition_eq_ok.mpr rfl⟩
  cases status <;> simp_all [NotificationFields.Consistent, NotificationStatus.terminal]

theorem withContent_total (content : NotificationContent) (now : Instant) :
    ∃ updated, notification.withContent content now = .ok updated :=
  ⟨⟨{ notification.toNotificationFields with content, updatedAt := now }, notification.consistent⟩,
    withContent_eq_ok.mpr rfl⟩

theorem resume_total (now : Instant) (postponed : notification.status = .postponed) :
    ∃ updated, notification.resume now = .ok updated := by
  obtain ⟨updated, moved⟩ := transition_total .pending now (by rw [postponed]; rfl) rfl nofun
  exact ⟨updated, resume_eq_ok.mpr ⟨postponed, transition_eq_ok.mp moved⟩⟩

theorem markProcessing_total (now : Instant)
    (waiting : notification.status = .pending ∨ notification.status = .postponed) :
    ∃ updated, notification.markProcessing now = .ok updated := by
  have live : notification.status.terminal = false := by rcases waiting with status | status <;> rw [status] <;> rfl
  obtain ⟨updated, moved⟩ := transition_total .processing now live rfl nofun
  exact ⟨updated, markProcessing_eq_ok.mpr ⟨waiting, transition_eq_ok.mp moved⟩⟩

theorem retryDelivery_total (now : Instant) (processing : notification.status = .processing) :
    ∃ updated, notification.retryDelivery now = .ok updated := by
  obtain ⟨updated, moved⟩ := transition_total .pending now (by rw [processing]; rfl) rfl nofun
  exact ⟨updated, retryDelivery_eq_ok.mpr ⟨processing, transition_eq_ok.mp moved⟩⟩

theorem reclaimProcessing_total (now : Instant) (processing : notification.status = .processing) :
    ∃ updated, notification.reclaimProcessing now = .ok updated := by
  obtain ⟨updated, moved⟩ := transition_total .processing now (by rw [processing]; rfl) rfl nofun
  exact ⟨updated, reclaimProcessing_eq_ok.mpr ⟨processing, transition_eq_ok.mp moved⟩⟩

end Notification

end Tiber
