import Mathlib.Algebra.Group.Nat.Defs
import Tiber.Application.Delivery

/-! The delivery task: one execution of `process_notification`.

The broker hands it a job; it runs the processor, and then marks a failure,
retries, defers the job or is done. Each place that reads the clock has its own
reading, and the infrastructure may fail in every transaction and in every publication.
-/

set_option autoImplicit false

namespace Tiber

open Library

/-- The `notification_retry_*` settings, delays in seconds. -/
structure RetrySettings where
  maxAttempts : Nat := 4
  baseDelay : Nat := 30
  backoffFactor : Nat := 2
  maxDelay : Nat := 3600

def exponentialBackoff (settings : RetrySettings) (attempt : Nat) : Nat :=
  min settings.maxDelay (settings.baseDelay * settings.backoffFactor ^ attempt)

/-- A broker message: the payload's schedule and retry state, and Celery's own count of
retries. A retry advances both counts, a re-dispatch starts Celery's anew. -/
structure NotificationJob where
  sendAt : Option Instant := none
  attempt : Nat := 0
  retries : Nat := 0
  counted : retries ≤ attempt

namespace NotificationJob

variable (job : NotificationJob)

/-- `apply_async` with the same payload. -/
def redispatched : NotificationJob := { job with retries := 0, counted := Nat.zero_le _ }

/-- `task.retry` with `payload.retry.next_attempt()`. -/
def retried : NotificationJob :=
  { job with attempt := job.attempt + 1, retries := job.retries + 1, counted := Nat.succ_le_succ job.counted }

end NotificationJob

structure Scheduled where
  job : NotificationJob
  countdown : Int

/-- An exception that ends a transaction or a publication from outside. It has `landed` when the
commit, or the message, has gone through and only the confirmation is lost. -/
structure Fault where
  name : String
  message : String
  landed : Bool := false
  deriving DecidableEq

def Fault.error (fault : Fault) : PyError := .raised fault.name fault.message

def Fault.undoes (fault : Option Fault) : Bool := fault.any fun fault => !fault.landed

/-- Everything one execution meets. `rival` is another worker's write between the read and
the claim; `answer` is what the provider would say. The four faults end the processor's first
transaction, its second, that of `_mark_permanent_failure`, and a publication. -/
structure JobSurroundings where
  lookup : Lookup
  entry : Instant
  clock : Readings
  answer : ProviderAnswer
  recording : Recording
  failed : Instant
  deferred : Instant
  dispatched : Instant
  rival : Option Notification := none
  interruption : Option Fault := none
  loss : Option Fault := none
  marking : Option Fault := none
  sending : Option Fault := none

def JobSurroundings.found (around : JobSurroundings) (loaded : Notification) : Notification :=
  around.rival.getD loaded

def transaction {Row Result : Type} (before : Row) (body : Checked (Row × Result)) :
    Option Fault → Row × Checked Result
  | none =>
      match body with
      | .error failure => (before, .error failure)
      | .ok (after, result) => (after, .ok result)
  | some fault =>
      match body with
      | .error failure => (before, .error (if fault.landed then failure else fault.error))
      | .ok (after, _) => (if fault.landed then after else before, .error fault.error)

/-! ## `_process` -/

structure Ended where
  row : Option NotificationFields
  result : Checked (Option Notification)

namespace NotificationDeliveryProcessor

variable (processor : NotificationDeliveryProcessor)

def takeOver (loaded : Notification) (around : JobSurroundings) :
    Checked (NotificationFields × (Claim ⊕ Notification)) := do
  let found := around.found loaded
  match ← processor.prepare loaded around.lookup around.clock with
  | .returned notification => return (found.toNotificationFields, .inr notification)
  | .verdict updated => return (updated.toNotificationFields, .inr updated)
  | .claim claim =>
      match ← claimForDelivery found.toNotificationFields claim.processing claim.expectedStatus
          claim.staleBefore with
      | none => return (found.toNotificationFields, .inr found)
      | some claimed => return (claimed, .inl claim)

def deliver (claim : Claim) (claimed : NotificationFields) (around : JobSurroundings) : Ended :=
  let answer := if claim.usableAddress.isSome then some around.answer else none
  let write := (processor.outcome claim answer around.recording).map fun (_, updated) =>
    (updated.toNotificationFields, updated)
  match transaction claimed write around.loss with
  | (row, .error failure) => ⟨some row, .error failure⟩
  | (row, .ok updated) => ⟨some row, match answer with
      | some (.raised failure) => .error failure
      | _ => .ok (some updated)⟩

def process (loaded : Notification) (around : JobSurroundings) : Ended :=
  match transaction (around.found loaded).toNotificationFields (processor.takeOver loaded around)
      around.interruption with
  | (row, .error failure) => ⟨some row, .error failure⟩
  | (row, .ok (.inr notification)) => ⟨some row, .ok (some notification)⟩
  | (row, .ok (.inl claim)) => processor.deliver claim row around

/-- `_process` -/
def processStored (stored : Option Notification) (around : JobSurroundings) : Ended :=
  match stored with
  | some loaded => processor.process loaded around
  | none => ⟨none, match around.interruption with
      | some fault => .error fault.error
      | none => .ok none⟩

end NotificationDeliveryProcessor

/-! ## The task -/

structure Execution where
  row : Option NotificationFields
  scheduled : Option Scheduled := none
  raised : Option PyError := none

def secondsUntil (sendAt now : Instant) : Int := max 0 ((sendAt - now) / Clock.second)

def shouldDefer (notification : Notification) (now : Instant) : Bool :=
  match notification.status with
  | .postponed | .processing => true
  | .pending => notification.sendAt.any (now < ·)
  | .delivered | .failed | .bounced | .suppressed | .cancelled => false

def markPermanentFailure (row : Option NotificationFields) (reason : String) (stamp : Instant) :
    Checked (Option NotificationFields) :=
  match row with
  | none => .ok none
  | some fields => do
      let notification ← Notification.build fields
      if notification.status = .pending ∨ notification.status = .processing then
        let failed ← notification.markFailed reason stamp
        return some failed.toNotificationFields
      else return row

section Task

variable (settings : RetrySettings) (processingLease : Int) (job : NotificationJob)
  (row : Option NotificationFields) (around : JobSurroundings)

/-- `apply_async`: a publication that fails raises, whether its message is lost or not. -/
def applyAsync (next : Scheduled) : Execution :=
  { row
    scheduled := if Fault.undoes around.sending then none else some next
    raised := around.sending.map Fault.error }

/-- `_mark_permanent_failure` in its own transaction, then what is raised behind it. -/
def failPermanently (reason : String) (behind : Option PyError) : Execution :=
  match transaction row ((markPermanentFailure row reason around.failed).map fun marked => (marked, ()))
      around.marking with
  | (row, .error other) => { row, raised := some other }
  | (row, .ok ()) => { row, raised := behind }

/-- `_retry_or_dead_letter`. Celery raises the exception itself once its own budget is spent, and
wraps that of a failed publication in its `Reject`. -/
def retryOrDeadLetter (failure : PyError) : Execution :=
  if settings.maxAttempts ≤ job.attempt then
    failPermanently row around ("retry budget exhausted: " ++ failure.name ++ ": " ++ failure.text) (some failure)
  else if settings.maxAttempts < job.retries + 1 then { row, raised := some failure }
  else applyAsync row around ⟨job.retried, exponentialBackoff settings job.attempt⟩

def defer (updated : Notification) : Execution :=
  if updated.status = .processing then
    applyAsync row around ⟨job.redispatched,
      max 1 ((updated.updatedAt + processingLease - around.dispatched) / Clock.second)⟩
  else
    match updated.sendAt with
    | none => { row, raised := some (.valueError
        ("Notification " ++ uuidText updated.id ++ " was deferred without a send time")) }
    | some sendAt => applyAsync row around ⟨job.redispatched, secondsUntil sendAt around.dispatched⟩

/-- From the end of `_process` on. -/
def finish (ended : Ended) : Execution :=
  match ended.result with
  | .error failure =>
      if failure.isPermanentDelivery then failPermanently ended.row around failure.text none
      else retryOrDeadLetter settings job ended.row around failure
  | .ok none => { row := ended.row }
  | .ok (some updated) =>
      if shouldDefer updated around.deferred then defer processingLease job ended.row around updated
      else { row := ended.row }

end Task

def processNotification (settings : RetrySettings) (processor : NotificationDeliveryProcessor)
    (job : NotificationJob) (stored : Option Notification) (around : JobSurroundings) : Execution :=
  match job.sendAt.filter (around.entry < ·) with
  | some sendAt =>
      applyAsync (stored.map Notification.toNotificationFields) around
        ⟨job.redispatched, secondsUntil sendAt around.dispatched⟩
  | none => finish settings processor.processingLease job around (processor.processStored stored around)

/-! ## How an execution can finish -/

variable {settings : RetrySettings} {processingLease : Int} {job : NotificationJob}
  {around : JobSurroundings} {notification : Notification}

/-- The notification is gone or terminal, or somebody will look at it again. -/
def Execution.Covered (execution : Execution) (others : Bool) : Prop :=
  (∀ row ∈ execution.row, row.status.terminal = true) ∨ execution.scheduled.isSome = true ∨ others = true

/-- What becomes of a failure when the row is live and in this status: it is not marked FAILED, and the
job is not retried. -/
def Dropped (settings : RetrySettings) (job : NotificationJob) (around : JobSurroundings)
    (status : NotificationStatus) (failure : PyError) : Prop :=
  status.terminal = false ∧
    if failure.isPermanentDelivery then
      status = .postponed ∨ failure.text = "" ∨ Fault.undoes around.marking = true
    else if settings.maxAttempts ≤ job.attempt then status = .postponed ∨ Fault.undoes around.marking = true
    else Fault.undoes around.sending = true

theorem transaction_row {Row Result : Type} {before : Row} {body : Checked (Row × Result)} {fault : Option Fault} :
    (transaction before body fault).1 =
      if Fault.undoes fault then before else body.toOption.elim before Prod.fst := by
  unfold transaction Fault.undoes
  cases fault with
  | none => cases body <;> rfl
  | some fault => cases body <;> cases landed : fault.landed <;> simp [Except.toOption, landed]

theorem build_self (notification : Notification) :
    Notification.build notification.toNotificationFields = .ok notification :=
  Notification.build_eq_ok.mpr rfl

theorem markPermanentFailure_open (reason : String) (stamp : Instant)
    (waiting : notification.status = .pending ∨ notification.status = .processing) (given : reason ≠ "") :
    ∃ marked, markPermanentFailure (some notification.toNotificationFields) reason stamp = .ok (some marked) ∧
      marked.status = .failed := by
  obtain ⟨failed, done⟩ := notification.markFailed_total stamp waiting given
  refine ⟨failed.toNotificationFields, ?_, by rw [(Notification.markFailed_eq_ok.mp done).2.2]⟩
  refine Checked.bind_eq_ok.mpr ⟨notification, build_self notification, ?_⟩
  rw [if_pos waiting]
  exact Checked.bind_eq_ok.mpr ⟨failed, done, rfl⟩

/-- Anything but PENDING and PROCESSING is left as it is: POSTPONED too. -/
theorem markPermanentFailure_skips (reason : String) (stamp : Instant)
    (other : ¬ (notification.status = .pending ∨ notification.status = .processing)) :
    markPermanentFailure (some notification.toNotificationFields) reason stamp =
      .ok (some notification.toNotificationFields) := by
  refine Checked.bind_eq_ok.mpr ⟨notification, build_self notification, ?_⟩
  rw [if_neg other]
  rfl

theorem markPermanentFailure_nameless (stamp : Instant)
    (waiting : notification.status = .pending ∨ notification.status = .processing) :
    ∃ failure, markPermanentFailure (some notification.toNotificationFields) "" stamp = .error failure := by
  refine ⟨.invalidEntityAttribute "failure_reason is required when failing", ?_⟩
  unfold markPermanentFailure
  simp only [build_self, bind, Except.bind, if_pos waiting]
  unfold Notification.markFailed
  have legal : notification.status ∈ [NotificationStatus.pending, .processing] := by simpa using waiting
  simp [Notification.requireStatus, legal, Notification.requireReason, bind, Except.bind]

theorem covered_row {row : NotificationFields} {raised : Option PyError} {others : Bool} :
    Execution.Covered ⟨some row, none, raised⟩ others ↔ others = true ∨ row.status.terminal = true := by
  simp [Execution.Covered, or_comm]

theorem waiting_iff_live : (notification.status = .pending ∨ notification.status = .processing) ↔
    notification.status.terminal = false ∧ notification.status ≠ .postponed := by
  cases notification.status <;> simp [NotificationStatus.terminal]

theorem settled_or_postponed (other : ¬ (notification.status = .pending ∨ notification.status = .processing)) :
    notification.status.terminal = true ∨ notification.status = .postponed := by
  rw [waiting_iff_live] at other
  by_contra neither
  simp only [not_or, Bool.not_eq_true] at neither
  exact other neither

theorem applyAsync_covered {row : NotificationFields} {next : Scheduled} {others : Bool} :
    (applyAsync (some row) around next).Covered others ↔
      others = true ∨ row.status.terminal = true ∨ Fault.undoes around.sending = false := by
  unfold applyAsync Execution.Covered
  cases Fault.undoes around.sending <;> simp [or_comm]

theorem failPermanently_scheduled {row : Option NotificationFields} {reason : String} {behind : Option PyError} :
    (failPermanently row around reason behind).scheduled = none := by
  unfold failPermanently
  split <;> rfl

theorem failPermanently_row {row : Option NotificationFields} {reason : String} {behind : Option PyError} :
    (failPermanently row around reason behind).row =
      if Fault.undoes around.marking then row
      else (markPermanentFailure row reason around.failed).toOption.getD row := by
  have left : (failPermanently row around reason behind).row =
      (transaction row ((markPermanentFailure row reason around.failed).map fun marked => (marked, ()))
        around.marking).1 := by
    unfold failPermanently
    split <;> simp_all only
  rw [left, transaction_row]
  cases markPermanentFailure row reason around.failed <;> rfl

theorem failPermanently_covered {reason : String} {behind : Option PyError} {others : Bool} :
    (failPermanently (some notification.toNotificationFields) around reason behind).Covered others ↔
      others = true ∨ notification.status.terminal = true ∨
        notification.status ≠ .postponed ∧ reason ≠ "" ∧ Fault.undoes around.marking = false := by
  unfold Execution.Covered
  rw [failPermanently_row, failPermanently_scheduled]
  cases undone : Fault.undoes around.marking with
  | true => simp [or_comm]
  | false =>
      by_cases waiting : notification.status = .pending ∨ notification.status = .processing
      · obtain ⟨live, unpostponed⟩ := waiting_iff_live.mp waiting
        -- marking needs a text
        by_cases nameless : reason = ""
        · obtain ⟨other, failed⟩ := markPermanentFailure_nameless around.failed waiting
          rw [nameless, failed]
          simp [Except.toOption, live]
        · obtain ⟨marked, done, status⟩ := markPermanentFailure_open reason around.failed waiting nameless
          rw [done]
          simp [Except.toOption, status, NotificationStatus.terminal, unpostponed, nameless]
      · rw [markPermanentFailure_skips _ _ waiting]
        rcases settled_or_postponed waiting with terminal | postponed
        · simp [Except.toOption, terminal]
        · simp [Except.toOption, postponed, NotificationStatus.terminal]

theorem finish_failed {failure : PyError} {others : Bool} :
    (finish settings processingLease job around
      ⟨some notification.toNotificationFields, .error failure⟩).Covered others ↔
      others = true ∨ ¬ Dropped settings job around notification.status failure := by
  unfold finish Dropped
  dsimp only
  -- a permanent failure is marked on the row, any other is retried while the budget lasts
  by_cases permanent : failure.isPermanentDelivery = true
  · rw [if_pos permanent, if_pos permanent, failPermanently_covered]
    simp only [not_and_or, not_or, Bool.not_eq_false, Bool.not_eq_true, ne_eq]
  · rw [if_neg permanent, if_neg permanent]
    unfold retryOrDeadLetter
    -- the last attempt marks the row like a permanent failure, under a text of its own
    by_cases spent : settings.maxAttempts ≤ job.attempt
    · rw [if_pos spent, if_pos spent, failPermanently_covered]
      simp only [not_and_or, not_or, Bool.not_eq_false, Bool.not_eq_true, ne_eq, String.append_eq_empty_iff,
        String.reduceEq, false_and, and_false, not_false_iff, true_and]
    · have counted := job.counted
      rw [if_neg spent, if_neg spent, if_neg (by omega), applyAsync_covered]
      simp only [not_and_or, Bool.not_eq_false, Bool.not_eq_true]

theorem finish_returned {row : NotificationFields} {others : Bool} :
    (finish settings processingLease job around ⟨some row, .ok (some notification)⟩).Covered others ↔
      others = true ∨ row.status.terminal = true ∨
        shouldDefer notification around.deferred = true ∧ Fault.undoes around.sending = false := by
  unfold finish
  dsimp only
  split
  · rename_i deferred
    simp only [deferred, true_and]
    unfold defer
    split
    · exact applyAsync_covered
    · rename_i working
      split
      · rename_i timeless
        unfold shouldDefer at deferred
        split at deferred
        · rename_i postponed
          have timed := notification.consistent.2.2.2.2 postponed
          rw [timeless] at timed
          cases timed
        · exact absurd ‹_› working
        · rw [timeless] at deferred; cases deferred
        all_goals cases deferred
      · exact applyAsync_covered
  · rename_i done
    simp [covered_row, done]

theorem covered_none {scheduled : Option Scheduled} {raised : Option PyError} (others : Bool) :
    Execution.Covered ⟨none, scheduled, raised⟩ others := .inl fun _ absent => nomatch absent

theorem failPermanently_missing {reason : String} {behind : Option PyError} (others : Bool) :
    (failPermanently none around reason behind).Covered others := by
  unfold failPermanently transaction
  simp only [markPermanentFailure, Except.map]
  cases around.marking with
  | none => exact covered_none others
  | some fault =>
      simp only [ite_self]
      exact covered_none others

theorem finish_missing {result : Checked (Option Notification)} (others : Bool)
    (nothing : result = .ok none ∨ ∃ fault : Fault, result = .error fault.error) :
    (finish settings processingLease job around ⟨none, result⟩).Covered others := by
  obtain rfl | ⟨fault, rfl⟩ := nothing
  · exact covered_none others
  · have transient : ¬ fault.error.isPermanentDelivery = true := Bool.false_ne_true
    unfold finish
    dsimp only
    rw [if_neg transient]
    unfold retryOrDeadLetter
    split
    · exact failPermanently_missing others
    · split
      · exact covered_none others
      · exact covered_none others

end Tiber
