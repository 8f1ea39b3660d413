import Tiber.Domain.Policy
import Tiber.Domain.Template

/-! Delivery of one notification: what a worker decides inside each transaction.

`prepare` is the first transaction up to its write, `outcome` the second one.
The provider is called between the two, under no transaction. Clock readings
are arguments, one for each place the code reads the clock.
-/

set_option autoImplicit false

namespace Tiber

open Library

/-! ## Delivery attempts -/

structure DeliveryAttemptFields where
  id : Uuid
  notificationId : Uuid
  status : DeliveryAttemptStatus
  channel : DeliveryChannel
  provider : Text
  recipientAddress : Option Text := none
  providerMessageId : Option String := none
  error : Option String := none
  createdAt : Instant
  deriving DecidableEq

structure DeliveryAttempt extends DeliveryAttemptFields where
  provider_solid : Text.blank provider = false
  contacted : status = .success → recipientAddress ≠ none

def DeliveryAttempt.build (fields : DeliveryAttemptFields) : Checked DeliveryAttempt :=
  if solid : Text.blank fields.provider = false then
    if contacted : fields.status = .success → fields.recipientAddress ≠ none then
      .ok ⟨fields, solid, contacted⟩
    else .error (.invalidEntityAttribute
      "DeliveryAttempt.recipient_address is required when status is success.")
  else .error (.invalidEntityAttribute "DeliveryAttempt provider must not be empty")

structure Contact where
  success : Bool
  providerMessageId : Option String := none
  error : Option String := none
  recipientAddress : Option Text := none
  deriving DecidableEq

def Contact.status (contact : Contact) : DeliveryAttemptStatus :=
  if contact.success then .success else .fail

def DeliveryAttempt.create (notification : Notification) (provider : Text) (contact : Contact)
    (id : Uuid) (createdAt : Instant) : Checked DeliveryAttempt :=
  build {
    id, createdAt, provider
    notificationId := notification.id
    status := contact.status
    channel := notification.channel
    recipientAddress := contact.recipientAddress
    providerMessageId := contact.providerMessageId
    error := contact.error }

/-! ## Template resolution -/

/-- `NotificationTemplateResolver.resolve_content`, given the template row. A missing
variant is raised with one argument more than the exception class takes. -/
def resolveContent (notification : Notification) (template : Option Template) : Checked NotificationContent :=
  match notification.templateId with
  | none => .ok notification.content
  | some templateId =>
      match template with
      | none => .error (.entityNotFound "Template" (uuidText templateId))
      | some template =>
          match template.variants notification.channel with
          | none => .error (.typeError
              "TemplateChannelMismatchError.__init__() takes 3 positional arguments but 4 were given")
          | some variant => TemplateRenderer.render variant.content notification.templateVariables

/-! ## The notifications table -/

/-- `claim_for_delivery`: the row after the conditional update, `none` when the condition misses it. -/
def claimForDelivery (row : NotificationFields) (processing : Notification) (expected : NotificationStatus)
    (staleBefore : Option Instant) : Checked (Option NotificationFields) :=
  let claimed := { row with
    status := processing.status, content := processing.content, updatedAt := processing.updatedAt }
  if expected = .processing then
    match staleBefore with
    | none => .error (.valueError "A stale_before cutoff is required to reclaim work")
    | some cutoff =>
        .ok (if row.status = expected ∧ row.updatedAt ≤ cutoff then some claimed else none)
  else .ok (if row.status = expected then some claimed else none)

def cancelPending (row : NotificationFields) (cancelled : Notification) : Option NotificationFields :=
  if row.status = .pending then
    some { row with
      status := cancelled.status
      cancellationReason := cancelled.cancellationReason
      updatedAt := cancelled.updatedAt }
  else none

/-! ## The processor -/

structure Lookup where
  recipient : Option Recipient
  constraint : Option DeliveryConstraint := none
  template : Option Template := none

/-- Clock readings of the first transaction, in the order they are taken. -/
structure Readings where
  now : Instant
  resumed : Instant
  policy : Instant
  verdict : Instant
  content : Instant
  claimed : Instant
  deriving DecidableEq

structure Recording where
  attemptId : Uuid
  attempted : Instant
  delivered : Instant
  updated : Instant
  deriving DecidableEq

/-- A call of `_provider.send`, as the processor sees it end. -/
inductive ProviderAnswer where
  | result (success : Bool) (providerMessageId errorMessage : Option String)
  | raised (error : PyError)
  deriving DecidableEq

/-- `policy_guard.check`, with the instant its resolver reads. -/
abbrev PolicyGuard := Notification → Recipient → Option DeliveryConstraint → Instant → PolicyDecision

structure NotificationDeliveryProcessor where
  policyGuard : Option PolicyGuard := none
  resolvesTemplates : Bool := false
  readsConstraints : Bool := false
  processingLease : Int := 300 * Clock.second
  provider : Text
  saveAttempt : DeliveryAttempt → Checked Unit

/-- The processor as the worker task wires it. `PolicyResolver()` runs the intake chain. -/
def workerProcessor (provider : Text) (processingLease : Int) (saveAttempt : DeliveryAttempt → Checked Unit) :
    NotificationDeliveryProcessor where
  policyGuard := some (PolicyResolver.evaluate intakeRules)
  resolvesTemplates := true
  readsConstraints := true
  processingLease
  provider
  saveAttempt

structure Claim where
  processing : Notification
  expectedStatus : NotificationStatus
  staleBefore : Option Instant
  content : NotificationContent
  address : Option Text
  deriving DecidableEq

/-- The address a provider is called with: an empty one counts as none. -/
def Claim.usableAddress (claim : Claim) : Option Text :=
  claim.address.filter fun address => !address.isEmpty

inductive Prepared where
  | returned (notification : Notification)
  | verdict (updated : Notification)
  | claim (claim : Claim)
  deriving DecidableEq

def PolicyDecision.reasonText (decision : PolicyDecision) : String :=
  match decision.reason with
  | none => "policy violation"
  | some reason => if reason = "" then "policy violation" else reason

theorem PolicyDecision.reasonText_ne_empty (decision : PolicyDecision) : decision.reasonText ≠ "" := by
  unfold PolicyDecision.reasonText
  split
  · decide
  · split
    · decide
    · assumption

namespace NotificationDeliveryProcessor

variable (processor : NotificationDeliveryProcessor)

/-- The status branches and the schedule check. `none` returns the notification as it was
loaded; otherwise the notification to send and the cutoff of an expired lease. -/
def eligible (notification : Notification) (clock : Readings) :
    Checked (Option (Notification × Option Instant)) :=
  let due (candidate : Notification) (staleBefore : Option Instant) :=
    if candidate.sendAt.any (clock.now < ·) then none else some (candidate, staleBefore)
  match notification.status with
  | .processing =>
      let staleBefore := clock.now - processor.processingLease
      .ok (if staleBefore < notification.updatedAt then none else due notification (some staleBefore))
  | .postponed =>
      if notification.sendAt.all (clock.now < ·) then .ok none
      else (notification.resume clock.resumed).map fun resumed => due resumed none
  | .pending => .ok (due notification none)
  | _ => .ok none

def judge (notification : Notification) (recipient : Recipient) (lookup : Lookup) (clock : Readings) :
    PolicyDecision :=
  match processor.policyGuard with
  | none => .allow
  | some check =>
      check notification recipient (if processor.readsConstraints then lookup.constraint else none) clock.policy

def applyVerdict (notification : Notification) (decision : PolicyDecision) (stamp : Instant) :
    Checked Notification :=
  if decision.consequence = some .postpone then
    match decision.resumeAt with
    | none => .error (.valueError "policy returned POSTPONE without a resume time")
    | some resumeAt => notification.markPostponed resumeAt stamp
  else notification.markSuppressed decision.reasonText stamp

def contentFor (notification : Notification) (lookup : Lookup) : Checked NotificationContent :=
  if processor.resolvesTemplates then resolveContent notification lookup.template
  else .ok notification.content

def snapshot (notification : Notification) (content : NotificationContent) (clock : Readings) :
    Checked Notification :=
  if processor.resolvesTemplates ∧ notification.templateId ≠ none then
    notification.withContent content clock.content
  else .ok notification

def takeUp (notification : Notification) (expectedStatus : NotificationStatus) (clock : Readings) :
    Checked Notification :=
  if expectedStatus = .processing then notification.reclaimProcessing clock.claimed
  else notification.markProcessing clock.claimed

def claimFor (notification : Notification) (expectedStatus : NotificationStatus)
    (staleBefore : Option Instant) (recipient : Recipient) (lookup : Lookup) (clock : Readings) :
    Checked Claim := do
  let content ← processor.contentFor notification lookup
  let current ← processor.snapshot notification content clock
  let processing ← takeUp current expectedStatus clock
  return { processing, expectedStatus, staleBefore, content
           address := recipient.addresses notification.channel }

/-- The first transaction of `process`, up to its write. -/
def prepare (loaded : Notification) (lookup : Lookup) (clock : Readings) : Checked Prepared := do
  match ← processor.eligible loaded clock with
  | none => return .returned loaded
  | some (notification, staleBefore) =>
      match lookup.recipient with
      | none => .error (.entityNotFound "Recipient" (uuidText notification.recipientId))
      | some recipient =>
          let decision := processor.judge notification recipient lookup clock
          if decision.allowed then
            return .claim (← processor.claimFor notification loaded.status staleBefore recipient lookup clock)
          else return .verdict (← applyVerdict notification decision clock.verdict)

/-- `_record_attempt`: the attempt, once the repository has taken it. -/
def recordAttempt (notification : Notification) (contact : Contact) (recording : Recording) :
    Checked DeliveryAttempt := do
  let attempt ← DeliveryAttempt.create notification processor.provider contact recording.attemptId recording.attempted
  processor.saveAttempt attempt
  return attempt

def succeed (processing : Notification) (providerMessageId : Option String) (recipientAddress : Option Text)
    (recording : Recording) : Checked (DeliveryAttempt × Notification) := do
  let attempt ← processor.recordAttempt processing
    { success := true, providerMessageId, recipientAddress } recording
  let updated ← processing.markDelivered recording.delivered recording.updated
  return (attempt, updated)

def fail (processing : Notification) (error : String) (recipientAddress : Option Text)
    (recording : Recording) : Checked (DeliveryAttempt × Notification) := do
  let attempt ← processor.recordAttempt processing
    { success := false, error := some error, recipientAddress } recording
  let updated ← processing.markFailed error recording.updated
  return (attempt, updated)

def retry (processing : Notification) (error : String) (recipientAddress : Option Text)
    (recording : Recording) : Checked (DeliveryAttempt × Notification) := do
  let attempt ← processor.recordAttempt processing
    { success := false, error := some error, recipientAddress } recording
  let updated ← processing.retryDelivery recording.updated
  return (attempt, updated)

def errorText : Option String → String
  | none => "delivery failed"
  | some message => if message = "" then "delivery failed" else message

/-- The second transaction of `process`; no answer means no address, so nothing was sent. -/
def outcome (claim : Claim) (answer : Option ProviderAnswer) (recording : Recording) :
    Checked (DeliveryAttempt × Notification) :=
  match answer with
  | none => processor.fail claim.processing
      ("no " ++ claim.processing.channel.value ++ " address for recipient") none recording
  | some (.raised error) => processor.retry claim.processing error.text claim.usableAddress recording
  | some (.result true providerMessageId _) =>
      processor.succeed claim.processing providerMessageId claim.usableAddress recording
  | some (.result false _ errorMessage) =>
      processor.fail claim.processing (errorText errorMessage) claim.usableAddress recording

/-! ## What each transaction can do -/

variable {processor}

theorem eligible_eq_some {loaded notification : Notification} {clock : Readings}
    {staleBefore : Option Instant}
    (taken : processor.eligible loaded clock = .ok (some (notification, staleBefore))) :
    (notification = loaded ∧ loaded.status = .pending ∧ staleBefore = none ∨
      notification = loaded ∧ loaded.status = .processing ∧
        staleBefore = some (clock.now - processor.processingLease) ∧
        loaded.updatedAt ≤ clock.now - processor.processingLease ∨
      loaded.status = .postponed ∧ staleBefore = none ∧
        loaded.resume clock.resumed = .ok notification) ∧
      notification.sendAt.all (· ≤ clock.now) = true := by
  unfold eligible at taken
  -- every branch ends in the same test of the schedule
  have due {candidate : Notification} {cutoff : Option Instant}
      (passed : (if candidate.sendAt.any (clock.now < ·) then none else some (candidate, cutoff)) =
        some (notification, staleBefore)) :
      candidate = notification ∧ cutoff = staleBefore ∧ notification.sendAt.all (· ≤ clock.now) = true := by
    split at passed
    · cases passed
    · rename_i late
      cases passed
      refine ⟨rfl, rfl, ?_⟩
      cases schedule : notification.sendAt with
      | none => rfl
      | some sendAt => simpa [schedule] using late
  split at taken
  · rename_i status
    rw [Except.ok.injEq] at taken
    split at taken
    · cases taken
    · rename_i stale
      obtain ⟨rfl, rfl, timely⟩ := due taken
      -- a lapsed lease
      exact ⟨.inr (.inl ⟨rfl, status, rfl, Int.not_lt.mp stale⟩), timely⟩
  · rename_i status
    split at taken
    · cases taken
    · cases resumed : loaded.resume clock.resumed with
      | error failure => simp only [resumed, Except.map, reduceCtorEq] at taken
      | ok candidate =>
          simp only [resumed, Except.map, Except.ok.injEq] at taken
          obtain ⟨rfl, rfl, timely⟩ := due taken
          -- the only branch that changes the entity
          exact ⟨.inr (.inr ⟨status, rfl, rfl⟩), timely⟩
  · rename_i status
    rw [Except.ok.injEq] at taken
    obtain ⟨rfl, rfl, timely⟩ := due taken
    exact ⟨.inl ⟨rfl, status, rfl⟩, timely⟩
  · cases taken

theorem applyVerdict_moves {notification updated : Notification} {decision : PolicyDecision}
    {stamp : Instant} (applied : applyVerdict notification decision stamp = .ok updated) :
    updated.status = if decision.consequence = some .postpone then .postponed else .suppressed := by
  unfold applyVerdict at applied
  split at applied
  · rename_i postpones
    rw [if_pos postpones]
    split at applied
    · cases applied
    · obtain ⟨-, fields⟩ := Notification.markPostponed_eq_ok.mp applied
      exact congrArg NotificationFields.status fields
  · rename_i suppresses
    rw [if_neg suppresses]
    obtain ⟨-, -, fields⟩ := Notification.markSuppressed_eq_ok.mp applied
    exact congrArg NotificationFields.status fields

theorem applyVerdict_status {notification updated : Notification} {decision : PolicyDecision}
    {stamp : Instant} (applied : applyVerdict notification decision stamp = .ok updated) :
    updated.status = .postponed ∨ updated.status = .suppressed := by
  rw [applyVerdict_moves applied]
  split
  · exact .inl rfl
  · exact .inr rfl

theorem snapshot_eq_ok {notification current : Notification} {content : NotificationContent} {clock : Readings}
    (kept : processor.snapshot notification content clock = .ok current) :
    current.toNotificationFields = { notification.toNotificationFields with
      content := current.content, updatedAt := current.updatedAt } := by
  unfold snapshot at kept
  split at kept
  · rw [Notification.withContent_eq_ok.mp kept]
  · cases kept; rfl

theorem takeUp_eq_ok {notification processing : Notification} {expectedStatus : NotificationStatus}
    {clock : Readings} (taken : takeUp notification expectedStatus clock = .ok processing) :
    processing.toNotificationFields =
      { notification.toNotificationFields with status := .processing, updatedAt := clock.claimed } := by
  unfold takeUp at taken
  split at taken
  · exact (Notification.reclaimProcessing_eq_ok.mp taken).2
  · exact (Notification.markProcessing_eq_ok.mp taken).2

theorem claimFor_eq_ok {notification : Notification} {expectedStatus : NotificationStatus}
    {staleBefore : Option Instant} {recipient : Recipient} {lookup : Lookup} {clock : Readings}
    {claim : Claim}
    (claimed : processor.claimFor notification expectedStatus staleBefore recipient lookup clock = .ok claim) :
    claim.expectedStatus = expectedStatus ∧ claim.staleBefore = staleBefore ∧
      claim.address = recipient.addresses notification.channel ∧
      claim.processing.toNotificationFields =
        { notification.toNotificationFields with
          content := claim.processing.content, status := .processing, updatedAt := clock.claimed } := by
  simp only [claimFor, Checked.bind_eq_ok] at claimed
  obtain ⟨content, -, current, kept, processing, taken, made⟩ := claimed
  cases made
  refine ⟨rfl, rfl, rfl, ?_⟩
  have moved := takeUp_eq_ok taken
  have content : processing.content = current.content := by rw [moved]
  rw [content, moved, snapshot_eq_ok kept]

theorem claimFor_content {notification : Notification} {expectedStatus : NotificationStatus}
    {staleBefore : Option Instant} {recipient : Recipient} {lookup : Lookup} {clock : Readings} {claim : Claim}
    (claimed : processor.claimFor notification expectedStatus staleBefore recipient lookup clock = .ok claim) :
    processor.contentFor notification lookup = .ok claim.content ∧ claim.processing.content = claim.content := by
  simp only [claimFor, Checked.bind_eq_ok] at claimed
  obtain ⟨content, resolved, current, kept, processing, taken, made⟩ := claimed
  cases made
  refine ⟨resolved, ?_⟩
  have carried : processing.content = current.content := by rw [takeUp_eq_ok taken]
  rw [carried]
  unfold snapshot at kept
  split at kept
  · rw [Notification.withContent_eq_ok.mp kept]
  · -- without a template the content is the notification's own
    rename_i direct
    cases kept
    unfold contentFor at resolved
    split at resolved
    · rename_i resolves
      unfold resolveContent at resolved
      split at resolved
      · exact Except.ok.inj resolved
      · rename_i templateId referenced
        exact absurd ⟨resolves, by rw [referenced]; nofun⟩ direct
    · exact Except.ok.inj resolved

inductive PreparedAs (processor : NotificationDeliveryProcessor) (loaded : Notification) (lookup : Lookup)
    (clock : Readings) : Prepared → Prop
  | returned (ineligible : processor.eligible loaded clock = .ok none) :
      PreparedAs processor loaded lookup clock (.returned loaded)
  | claim {notification : Notification} {staleBefore : Option Instant} {recipient : Recipient} {claim : Claim}
      (eligible : processor.eligible loaded clock = .ok (some (notification, staleBefore)))
      (found : lookup.recipient = some recipient)
      (allowed : (processor.judge notification recipient lookup clock).allowed = true)
      (claimed : processor.claimFor notification loaded.status staleBefore recipient lookup clock = .ok claim) :
      PreparedAs processor loaded lookup clock (.claim claim)
  | verdict {notification updated : Notification} {staleBefore : Option Instant} {recipient : Recipient}
      (eligible : processor.eligible loaded clock = .ok (some (notification, staleBefore)))
      (found : lookup.recipient = some recipient)
      (rejected : (processor.judge notification recipient lookup clock).allowed = false)
      (applied : applyVerdict notification (processor.judge notification recipient lookup clock) clock.verdict =
        .ok updated) :
      PreparedAs processor loaded lookup clock (.verdict updated)

theorem prepare_as {loaded : Notification} {lookup : Lookup} {clock : Readings} {ended : Prepared}
    (prepared : processor.prepare loaded lookup clock = .ok ended) :
    PreparedAs processor loaded lookup clock ended := by
  unfold prepare at prepared
  obtain ⟨branch, eligible, rest⟩ := Checked.bind_eq_ok.mp prepared
  cases branch with
  | none =>
      cases rest
      exact .returned eligible
  | some candidate =>
      obtain ⟨notification, staleBefore⟩ := candidate
      simp only at rest
      split at rest
      · cases rest
      · rename_i recipient found
        split at rest
        · rename_i allowed
          obtain ⟨made, claimed, same⟩ := Checked.bind_eq_ok.mp rest
          cases same
          exact .claim eligible found allowed claimed
        · rename_i rejected
          obtain ⟨made, applied, same⟩ := Checked.bind_eq_ok.mp rest
          cases same
          exact .verdict eligible found (by simpa using rejected) applied

/-- Everything that lies behind a claim. -/
theorem prepare_claim {loaded : Notification} {lookup : Lookup} {clock : Readings} {claim : Claim}
    (prepared : processor.prepare loaded lookup clock = .ok (.claim claim)) :
    ∃ notification staleBefore recipient,
      processor.eligible loaded clock = .ok (some (notification, staleBefore)) ∧
      lookup.recipient = some recipient ∧
      (processor.judge notification recipient lookup clock).allowed = true ∧
      processor.claimFor notification loaded.status staleBefore recipient lookup clock = .ok claim := by
  cases prepare_as prepared with
  | claim eligible found allowed claimed => exact ⟨_, _, _, eligible, found, allowed, claimed⟩

theorem prepare_verdict {loaded : Notification} {lookup : Lookup} {clock : Readings}
    {updated : Notification}
    (prepared : processor.prepare loaded lookup clock = .ok (.verdict updated)) :
    ∃ notification staleBefore recipient,
      processor.eligible loaded clock = .ok (some (notification, staleBefore)) ∧
      lookup.recipient = some recipient ∧
      (processor.judge notification recipient lookup clock).allowed = false ∧
      applyVerdict notification (processor.judge notification recipient lookup clock) clock.verdict =
        .ok updated := by
  cases prepare_as prepared with
  | verdict eligible found rejected applied => exact ⟨_, _, _, eligible, found, rejected, applied⟩

theorem eligible_live {loaded notification : Notification} {clock : Readings} {staleBefore : Option Instant}
    (taken : processor.eligible loaded clock = .ok (some (notification, staleBefore))) :
    loaded.status.terminal = false := by
  obtain ⟨⟨-, status, -⟩ | ⟨-, status, -⟩ | ⟨status, -⟩, -⟩ := eligible_eq_some taken <;> rw [status] <;> rfl

theorem outcome_status {claim : Claim} {answer : Option ProviderAnswer} {recording : Recording}
    {attempt : DeliveryAttempt} {updated : Notification}
    (recorded : processor.outcome claim answer recording = .ok (attempt, updated)) :
    updated.status = .delivered ∨ updated.status = .failed ∨ updated.status = .pending := by
  have failing {error : String} {address : Option Text}
      (failed : processor.fail claim.processing error address recording = .ok (attempt, updated)) :
      updated.status = .failed := by
    simp only [fail, Checked.bind_eq_ok] at failed
    obtain ⟨_, -, moved, marked, same⟩ := failed
    cases same
    exact congrArg NotificationFields.status (Notification.markFailed_eq_ok.mp marked).2.2
  unfold outcome at recorded
  split at recorded
  · exact .inr (.inl (failing recorded))
  · simp only [retry, Checked.bind_eq_ok] at recorded
    obtain ⟨_, -, moved, marked, same⟩ := recorded
    cases same
    exact .inr (.inr (congrArg NotificationFields.status (Notification.retryDelivery_eq_ok.mp marked).2))
  · simp only [succeed, Checked.bind_eq_ok] at recorded
    obtain ⟨_, -, moved, marked, same⟩ := recorded
    cases same
    exact .inl (congrArg NotificationFields.status (Notification.markDelivered_eq_ok.mp marked).2)
  · exact .inr (.inl (failing recorded))

theorem outcome_fields {claim : Claim} {answer : Option ProviderAnswer} {recording : Recording}
    {attempt : DeliveryAttempt} {updated : Notification}
    (recorded : processor.outcome claim answer recording = .ok (attempt, updated)) :
    updated.toNotificationFields = { claim.processing.toNotificationFields with
      status := updated.status, failureReason := updated.failureReason, deliveredAt := updated.deliveredAt
      updatedAt := updated.updatedAt } := by
  have failing {error : String} {address : Option Text}
      (failed : processor.fail claim.processing error address recording = .ok (attempt, updated)) :
      updated.toNotificationFields = { claim.processing.toNotificationFields with
        status := updated.status, failureReason := updated.failureReason, deliveredAt := updated.deliveredAt
        updatedAt := updated.updatedAt } := by
    simp only [fail, Checked.bind_eq_ok] at failed
    obtain ⟨_, -, moved, marked, same⟩ := failed
    cases same
    rw [(Notification.markFailed_eq_ok.mp marked).2.2]
  unfold outcome at recorded
  split at recorded
  · exact failing recorded
  · simp only [retry, Checked.bind_eq_ok] at recorded
    obtain ⟨_, -, moved, marked, same⟩ := recorded
    cases same
    rw [(Notification.retryDelivery_eq_ok.mp marked).2]
  · simp only [succeed, Checked.bind_eq_ok] at recorded
    obtain ⟨_, -, moved, marked, same⟩ := recorded
    cases same
    rw [(Notification.markDelivered_eq_ok.mp marked).2]
  · exact failing recorded

theorem applyVerdict_fields {notification updated : Notification} {decision : PolicyDecision}
    {stamp : Instant} (applied : applyVerdict notification decision stamp = .ok updated) :
    updated.toNotificationFields = { notification.toNotificationFields with
      status := updated.status, sendAt := updated.sendAt, suppressionReason := updated.suppressionReason
      updatedAt := updated.updatedAt } := by
  unfold applyVerdict at applied
  split at applied
  · split at applied
    · cases applied
    · rw [(Notification.markPostponed_eq_ok.mp applied).2]
  · rw [(Notification.markSuppressed_eq_ok.mp applied).2.2]

/-! ## Transactions that cannot fail -/

variable {processor : NotificationDeliveryProcessor} {loaded notification : Notification} {lookup : Lookup}
  {clock : Readings} {row : NotificationFields} {staleBefore : Option Instant}

theorem claimForDelivery_isSome_iff {processing : Notification} {expected : NotificationStatus} :
    (∃ claimed, claimForDelivery row processing expected staleBefore = .ok (some claimed)) ↔
      row.status = expected ∧
        (expected = .processing → ∃ cutoff ∈ staleBefore, row.updatedAt ≤ cutoff) := by
  unfold claimForDelivery
  split
  · rename_i reclaim
    cases staleBefore <;> simp [reclaim]
  · rename_i first
    simp [first]

theorem claimForDelivery_fields {processing : Notification} {expected : NotificationStatus}
    {claimed : NotificationFields}
    (done : claimForDelivery row processing expected staleBefore = .ok (some claimed)) :
    claimed = { row with
      status := processing.status, content := processing.content, updatedAt := processing.updatedAt } := by
  unfold claimForDelivery at done
  simp only at done
  split at done
  · split at done
    · cases done
    · split at done <;> cases done
      rfl
  · split at done <;> cases done
    rfl

theorem eligible_fields (taken : processor.eligible loaded clock = .ok (some (notification, staleBefore))) :
    notification.toNotificationFields = { loaded.toNotificationFields with
      status := notification.status, updatedAt := notification.updatedAt } := by
  obtain ⟨⟨rfl, -⟩ | ⟨rfl, -⟩ | ⟨-, -, resumed⟩, -⟩ := eligible_eq_some taken
  · rfl
  · rfl
  · rw [(Notification.resume_eq_ok.mp resumed).2]

/-- A claim rests on a notification that was due, and writes it back with its content resolved. -/
theorem prepare_claim_fields {claim : Claim}
    (prepared : processor.prepare loaded lookup clock = .ok (.claim claim)) :
    claim.expectedStatus = loaded.status ∧ loaded.sendAt.all (· ≤ clock.now) = true ∧
      claim.processing.toNotificationFields = { loaded.toNotificationFields with
        content := claim.processing.content, status := .processing, updatedAt := clock.claimed } ∧
      (loaded.status = .processing → claim.staleBefore = some (clock.now - processor.processingLease)) := by
  obtain ⟨notification, staleBefore, recipient, taken, -, -, claimed⟩ := prepare_claim prepared
  obtain ⟨expected, cutoff, -, fields⟩ := claimFor_eq_ok claimed
  have same := eligible_fields taken
  obtain ⟨branch, due⟩ := eligible_eq_some taken
  refine ⟨expected, ?_, ?_, fun processing => ?_⟩
  · rwa [show notification.sendAt = loaded.sendAt by rw [same]] at due
  · rw [fields, same]
  · -- the other two branches are of other statuses
    rw [cutoff]
    rcases branch with ⟨-, pending, -⟩ | ⟨-, -, stale, -⟩ | ⟨postponed, -⟩
    · rw [processing] at pending; cases pending
    · exact stale
    · rw [processing] at postponed; cases postponed

theorem applyVerdict_total {decision : PolicyDecision} (stamp : Instant)
    (waiting : notification.status = .pending ∨ notification.status = .processing)
    (justified : decision.Justified) (rejected : decision.allowed = false) :
    ∃ updated, applyVerdict notification decision stamp = .ok updated := by
  unfold applyVerdict
  split
  · rename_i postpone
    rcases justified with allowed | ⟨suppress, -⟩ | ⟨-, resumes⟩
    · rw [allowed] at rejected; cases rejected
    · rw [suppress] at postpone; cases postpone
    · obtain ⟨resumeAt, resume⟩ := Option.isSome_iff_exists.mp resumes
      rw [resume]
      exact Notification.markPostponed_total resumeAt stamp waiting
  · exact Notification.markSuppressed_total stamp waiting decision.reasonText_ne_empty

theorem contentFor_congr (same : notification.toNotificationFields = { loaded.toNotificationFields with
      status := notification.status, updatedAt := notification.updatedAt }) :
    processor.contentFor notification lookup = processor.contentFor loaded lookup := by
  have content : notification.content = loaded.content := by rw [same]
  have channel : notification.channel = loaded.channel := by rw [same]
  have templateId : notification.templateId = loaded.templateId := by rw [same]
  have mapping : notification.templateVariables = loaded.templateVariables := by rw [same]
  simp only [contentFor, resolveContent, content, channel, templateId, mapping]

theorem eligible_total (processor : NotificationDeliveryProcessor) (due : loaded.sendAt.all (· ≤ clock.now) = true)
    (live : loaded.status = .pending ∨ loaded.status = .postponed ∨
      loaded.status = .processing ∧ loaded.updatedAt ≤ clock.now - processor.processingLease) :
    ∃ notification staleBefore, processor.eligible loaded clock = .ok (some (notification, staleBefore)) ∧
      (notification.status = .processing ↔ loaded.status = .processing) ∧
      (loaded.status ≠ .processing → notification.status = .pending) ∧
      (loaded.status = .processing → staleBefore = some (clock.now - processor.processingLease)) := by
  have timely {sendAt : Option Instant} (passed : sendAt.all (· ≤ clock.now) = true) :
      sendAt.any (clock.now < ·) = false := by
    cases sendAt with
    | none => rfl
    | some sendAt => simpa using passed
  -- PENDING goes on as it is, POSTPONED is resumed first, PROCESSING needs a lapsed lease
  rcases live with pending | postponed | ⟨processing, stale⟩
  · refine ⟨loaded, none, ?_, by simp [pending], fun _ => pending, fun other => ?_⟩
    · simp [eligible, pending, timely due]
    · rw [pending] at other; cases other
  · obtain ⟨resumed, moved⟩ := loaded.resume_total clock.resumed postponed
    obtain ⟨-, fields⟩ := Notification.resume_eq_ok.mp moved
    have status : resumed.status = .pending := by rw [fields]
    have sendAt : resumed.sendAt = loaded.sendAt := by rw [fields]
    have scheduled := loaded.consistent.2.2.2.2 postponed
    refine ⟨resumed, none, ?_, by simp [status, postponed], fun _ => status, fun other => ?_⟩
    · have elapsed : loaded.sendAt.all (clock.now < ·) = false := by
        cases time : loaded.sendAt with
        | none => rw [time] at scheduled; cases scheduled
        | some sendAt => simpa [time] using due
      simp [eligible, postponed, elapsed, moved, Except.map, sendAt, timely due]
    · rw [postponed] at other; cases other
  · refine ⟨loaded, some (clock.now - processor.processingLease), ?_, Iff.rfl, fun other => absurd processing other,
      fun _ => rfl⟩
    simp [eligible, processing, Int.not_lt.mpr stale, timely due]

theorem claimFor_total {recipient : Recipient} (expectedStatus : NotificationStatus)
    (content : (processor.contentFor notification lookup).isOk = true)
    (waiting : expectedStatus ≠ .processing → notification.status = .pending)
    (working : expectedStatus = .processing → notification.status = .processing) :
    ∃ claim, processor.claimFor notification expectedStatus staleBefore recipient lookup clock = .ok claim := by
  cases resolved : processor.contentFor notification lookup with
  | error failure => rw [resolved] at content; cases content
  | ok content =>
      obtain ⟨current, kept⟩ : ∃ current, processor.snapshot notification content clock = .ok current := by
        unfold snapshot
        split
        · exact Notification.withContent_total content clock.content
        · exact ⟨notification, rfl⟩
      have status : current.status = notification.status := by rw [snapshot_eq_ok kept]
      obtain ⟨processing, taken⟩ : ∃ processing, takeUp current expectedStatus clock = .ok processing := by
        unfold takeUp
        split
        · rename_i reclaim
          exact Notification.reclaimProcessing_total clock.claimed (status.trans (working reclaim))
        · rename_i first
          exact Notification.markProcessing_total clock.claimed (.inl (status.trans (waiting first)))
      exact ⟨_, Checked.bind_eq_ok.mpr ⟨content, resolved, Checked.bind_eq_ok.mpr
        ⟨current, kept, Checked.bind_eq_ok.mpr ⟨processing, taken, rfl⟩⟩⟩⟩

theorem prepare_of_claimFor {recipient : Recipient} {claim : Claim}
    (eligible : processor.eligible loaded clock = .ok (some (notification, staleBefore)))
    (found : lookup.recipient = some recipient)
    (allowed : (processor.judge notification recipient lookup clock).allowed = true)
    (claimed : processor.claimFor notification loaded.status staleBefore recipient lookup clock = .ok claim) :
    processor.prepare loaded lookup clock = .ok (.claim claim) := by
  refine Checked.bind_eq_ok.mpr ⟨_, eligible, ?_⟩
  simp only [found, allowed, if_true]
  exact Checked.bind_eq_ok.mpr ⟨claim, claimed, rfl⟩

end NotificationDeliveryProcessor

end Tiber
