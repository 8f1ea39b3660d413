import Tiber.Application.Delivery
import Tiber.Domain.Restrictions

/-! The two transactions of the worker's processor, by what they read.

Each way the first one can end has its condition on the notification, the
recipient, the template and the clock; the second depends on the provider's
answer and on the attempt store.
-/

set_option autoImplicit false

namespace Tiber

open Library

/-- The run has work to do: a live status, an expired lease if it is PROCESSING, and a send time that has come. -/
def Notification.Eligible (notification : Notification) (lease : Int) (now : Instant) : Prop :=
  (notification.status = .pending ∨ notification.status = .postponed ∨
    notification.status = .processing ∧ notification.updatedAt ≤ now - lease) ∧
  notification.sendAt.all (· ≤ now) = true

instance (notification : Notification) (lease : Int) (now : Instant) :
    Decidable (notification.Eligible lease now) := inferInstanceAs (Decidable (_ ∧ _))

def Recipient.Admits (recipient : Recipient) (notification : Notification)
    (constraint : Option DeliveryConstraint) (policy : Instant) : Prop :=
  notification.category = .critical ∨
    (recipient.addresses.usable notification.channel).isSome = true ∧ recipient.Consents notification ∧
    refused recipient constraint notification.channel (notification.sendAt.getD policy) = false

namespace NotificationDeliveryProcessor

variable {provider : Text} {lease : Int} {save : DeliveryAttempt → Checked Unit}
  {loaded notification : Notification} {lookup : Lookup} {clock : Readings} {recipient : Recipient}

theorem judge_worker (notification : Notification) (recipient : Recipient) :
    (workerProcessor provider lease save).judge notification recipient lookup clock =
      PolicyResolver.evaluate intakeRules notification recipient lookup.constraint clock.policy := rfl

/-- The guard looks at nothing a resumption changes. -/
theorem judge_allowed (same : notification.toNotificationFields = { loaded.toNotificationFields with
      status := notification.status, updatedAt := notification.updatedAt }) :
    ((workerProcessor provider lease save).judge notification recipient lookup clock).allowed = true ↔
      recipient.Admits loaded lookup.constraint clock.policy := by
  have channel : notification.channel = loaded.channel := by rw [same]
  have category : notification.category = loaded.category := by rw [same]
  have sendAt : notification.sendAt = loaded.sendAt := by rw [same]
  have topicId : notification.topicId = loaded.topicId := by rw [same]
  rw [judge_worker, Recipient.Admits]
  by_cases critical : loaded.category = .critical
  · rw [PolicyResolver.evaluate_critical (category.trans critical)]
    simp [critical, PolicyDecision.allow]
  · rw [intake_chain_allows (by rwa [category])]
    simp only [critical, false_or, Recipient.Consents, channel, category, sendAt, topicId]

theorem ahead_iff {sendAt : Option Instant} {now : Instant} :
    sendAt.any (now < ·) = true ↔ ¬ sendAt.all (· ≤ now) = true := by
  cases sendAt <;> simp

theorem eligible_of_taken {processor : NotificationDeliveryProcessor} {staleBefore : Option Instant}
    (taken : processor.eligible loaded clock = .ok (some (notification, staleBefore))) :
    loaded.Eligible processor.processingLease clock.now := by
  have scheduled : notification.sendAt = loaded.sendAt := by rw [eligible_fields taken]
  obtain ⟨branch, due⟩ := eligible_eq_some taken
  rw [scheduled] at due
  refine ⟨?_, due⟩
  rcases branch with ⟨-, pending, -⟩ | ⟨-, processing, -, lapsed⟩ | ⟨postponed, -⟩
  · exact .inl pending
  · exact .inr (.inr ⟨processing, lapsed⟩)
  · exact .inr (.inl postponed)

theorem prepare_ineligible {processor : NotificationDeliveryProcessor}
    (idle : ¬ loaded.Eligible processor.processingLease clock.now) :
    processor.prepare loaded lookup clock = .ok (.returned loaded) := by
  have nothing : processor.eligible loaded clock = .ok none := by
    unfold eligible
    dsimp only
    simp only [Notification.Eligible, ← ahead_iff, not_and] at idle
    split
    · rename_i status
      split
      · rfl
      · rename_i stale
        rw [if_pos (idle (.inr (.inr ⟨status, Int.not_lt.mp stale⟩)))]
    · rename_i status
      have ahead := idle (.inr (.inl status))
      cases sendAt : loaded.sendAt with
      | none => rfl
      | some time => exact if_pos (by simpa [sendAt] using ahead)
    · rename_i status
      rw [if_pos (idle (.inl status))]
    · rfl
  exact Checked.bind_eq_ok.mpr ⟨_, nothing, rfl⟩

theorem prepare_orphan {processor : NotificationDeliveryProcessor}
    (eligible : loaded.Eligible processor.processingLease clock.now) (missing : lookup.recipient = none) :
    processor.prepare loaded lookup clock = .error (.entityNotFound "Recipient" (uuidText loaded.recipientId)) := by
  obtain ⟨notification, staleBefore, taken, -⟩ :=
    eligible_total processor eligible.2 eligible.1
  have recipientId : notification.recipientId = loaded.recipientId := by rw [eligible_fields taken]
  unfold prepare
  rw [taken]
  simp only [bind, Except.bind, missing, recipientId]

theorem prepare_rejected (eligible : loaded.Eligible lease clock.now) (found : lookup.recipient = some recipient)
    (rejected : ¬ recipient.Admits loaded lookup.constraint clock.policy) :
    ∃ updated, (workerProcessor provider lease save).prepare loaded lookup clock = .ok (.verdict updated) ∧
      updated.status = if (PolicyResolver.evaluate intakeRules loaded recipient lookup.constraint
        clock.policy).consequence = some .postpone then .postponed else .suppressed := by
  obtain ⟨notification, staleBefore, taken, working, waiting, -⟩ :=
    eligible_total (workerProcessor provider lease save) eligible.2 eligible.1
  have refused : ((workerProcessor provider lease save).judge notification recipient lookup clock).allowed = false := by
    rw [← Bool.not_eq_true, judge_allowed (eligible_fields taken)]
    exact rejected
  have status : notification.status = .pending ∨ notification.status = .processing := by
    by_cases processing : loaded.status = .processing
    · exact .inr (working.mpr processing)
    · exact .inl (waiting processing)
  obtain ⟨updated, applied⟩ := applyVerdict_total clock.verdict status
    (PolicyResolver.evaluate_justified intakeRules notification recipient lookup.constraint clock.policy) refused
  have same := eligible_fields taken
  have judged : PolicyResolver.evaluate intakeRules notification recipient lookup.constraint clock.policy =
      PolicyResolver.evaluate intakeRules loaded recipient lookup.constraint clock.policy :=
    PolicyResolver.evaluate_congr (by rw [same]) (by rw [same]) (by rw [same]) (by rw [same])
  refine ⟨updated, Checked.bind_eq_ok.mpr ⟨_, taken, ?_⟩, by rw [← judged]; exact applyVerdict_moves applied⟩
  simp only [found, refused, Bool.false_eq_true, if_false]
  exact Checked.bind_eq_ok.mpr ⟨updated, applied, rfl⟩

theorem prepare_unresolved {failure : PyError} (eligible : loaded.Eligible lease clock.now)
    (found : lookup.recipient = some recipient)
    (admitted : recipient.Admits loaded lookup.constraint clock.policy)
    (unresolved : (workerProcessor provider lease save).contentFor loaded lookup = .error failure) :
    (workerProcessor provider lease save).prepare loaded lookup clock = .error failure := by
  obtain ⟨notification, staleBefore, taken, -⟩ :=
    eligible_total (workerProcessor provider lease save) eligible.2 eligible.1
  have fields := eligible_fields taken
  unfold prepare
  rw [taken]
  simp only [bind, Except.bind, found, (judge_allowed fields).mpr admitted, if_true, claimFor,
    contentFor_congr fields, unresolved]

/-- Resolved content of an admitted run is claimed. -/
theorem prepare_admitted (eligible : loaded.Eligible lease clock.now) (found : lookup.recipient = some recipient)
    (admitted : recipient.Admits loaded lookup.constraint clock.policy)
    (resolved : ((workerProcessor provider lease save).contentFor loaded lookup).isOk = true) :
    ∃ claim, (workerProcessor provider lease save).prepare loaded lookup clock = .ok (.claim claim) ∧
      claim.expectedStatus = loaded.status ∧
      (loaded.status = .processing → claim.staleBefore = some (clock.now - lease)) ∧
      claim.usableAddress = recipient.addresses.usable loaded.channel ∧
      claim.processing.toNotificationFields = { loaded.toNotificationFields with
        content := claim.processing.content, status := .processing, updatedAt := clock.claimed } := by
  obtain ⟨notification, staleBefore, taken, working, waiting, cutoff⟩ :=
    eligible_total (workerProcessor provider lease save) eligible.2 eligible.1
  have fields := eligible_fields taken
  obtain ⟨claim, claimed⟩ := claimFor_total loaded.status
    (by rwa [contentFor_congr fields]) waiting working.mpr
  obtain ⟨expected, limit, address, processing⟩ := claimFor_eq_ok claimed
  refine ⟨claim, prepare_of_claimFor taken found ((judge_allowed fields).mpr admitted) claimed, expected,
    fun reclaim => limit.trans (cutoff reclaim), ?_, ?_⟩
  · rw [Claim.usableAddress, address, fields]
    rfl
  · rw [processing, fields]

/-! ## The second transaction -/

def contactOf (channel : DeliveryChannel) (address : Option Text) : Option ProviderAnswer → Contact
  | none => { success := false, error := some ("no " ++ channel.value ++ " address for recipient") }
  | some (.raised failure) => { success := false, error := some failure.text, recipientAddress := address }
  | some (.result true providerMessageId _) => { success := true, providerMessageId, recipientAddress := address }
  | some (.result false _ errorMessage) =>
      { success := false, error := some (errorText errorMessage), recipientAddress := address }

def statusAfter : Option ProviderAnswer → NotificationStatus
  | none | some (.result false _ _) => .failed
  | some (.result true _ _) => .delivered
  | some (.raised _) => .pending

variable {processor : NotificationDeliveryProcessor} {claim : Claim} {answer : Option ProviderAnswer}
  {recording : Recording}

theorem recordAttempt_congr {contact : Contact} (id : notification.id = loaded.id)
    (channel : notification.channel = loaded.channel) :
    processor.recordAttempt notification contact recording = processor.recordAttempt loaded contact recording := by
  simp only [recordAttempt, DeliveryAttempt.create, id, channel]

theorem outcome_unrecorded {failure : PyError}
    (lost : processor.recordAttempt claim.processing
      (contactOf claim.processing.channel claim.usableAddress answer) recording = .error failure) :
    processor.outcome claim answer recording = .error failure := by
  match answer with
  | none | some (.raised _) | some (.result true _ _) | some (.result false _ _) =>
      simp only [contactOf] at lost
      simp only [outcome, fail, retry, succeed, lost, bind, Except.bind]

/-- A recorded contact of a PROCESSING notification always finds its new status. -/
theorem outcome_recorded {attempt : DeliveryAttempt} (processing : claim.processing.status = .processing)
    (taken : processor.recordAttempt claim.processing
      (contactOf claim.processing.channel claim.usableAddress answer) recording = .ok attempt) :
    ∃ updated, processor.outcome claim answer recording = .ok (attempt, updated) ∧
      updated.status = statusAfter answer := by
  have failing (error : String) (given : error ≠ "") :=
    Notification.markFailed_total recording.updated (.inr processing) given
  -- one outcome for each kind of answer; the failing ones need a text to store
  match answer with
  | none =>
      obtain ⟨updated, marked⟩ := failing ("no " ++ claim.processing.channel.value ++ " address for recipient")
        (by simp)
      exact ⟨updated, Checked.bind_eq_ok.mpr ⟨attempt, taken, Checked.bind_eq_ok.mpr ⟨updated, marked, rfl⟩⟩,
        by rw [(Notification.markFailed_eq_ok.mp marked).2.2]; rfl⟩
  | some (.raised failure) =>
      obtain ⟨updated, marked⟩ := Notification.retryDelivery_total recording.updated processing
      exact ⟨updated, Checked.bind_eq_ok.mpr ⟨attempt, taken, Checked.bind_eq_ok.mpr ⟨updated, marked, rfl⟩⟩,
        by rw [(Notification.retryDelivery_eq_ok.mp marked).2]; rfl⟩
  | some (.result true identifier message) =>
      obtain ⟨updated, marked⟩ := Notification.markDelivered_total recording.delivered recording.updated
        (.inr processing)
      exact ⟨updated, Checked.bind_eq_ok.mpr ⟨attempt, taken, Checked.bind_eq_ok.mpr ⟨updated, marked, rfl⟩⟩,
        by rw [(Notification.markDelivered_eq_ok.mp marked).2]; rfl⟩
  | some (.result false identifier message) =>
      have given : errorText message ≠ "" := by
        unfold errorText
        split
        · decide
        · split
          · decide
          · assumption
      obtain ⟨updated, marked⟩ := failing _ given
      exact ⟨updated, Checked.bind_eq_ok.mpr ⟨attempt, taken, Checked.bind_eq_ok.mpr ⟨updated, marked, rfl⟩⟩,
        by rw [(Notification.markFailed_eq_ok.mp marked).2.2]; rfl⟩

theorem outcome_eq_ok {attempt : DeliveryAttempt} {updated : Notification}
    (processing : claim.processing.status = .processing)
    (recorded : processor.outcome claim answer recording = .ok (attempt, updated)) :
    processor.recordAttempt claim.processing
        (contactOf claim.processing.channel claim.usableAddress answer) recording = .ok attempt ∧
      updated.status = statusAfter answer := by
  cases taken : processor.recordAttempt claim.processing
      (contactOf claim.processing.channel claim.usableAddress answer) recording with
  | error failure =>
      rw [outcome_unrecorded taken] at recorded
      cases recorded
  | ok stored =>
      obtain ⟨moved, done, status⟩ := outcome_recorded processing taken
      rw [done] at recorded
      cases recorded
      exact ⟨rfl, status⟩

theorem recordAttempt_contact {contact : Contact} {attempt : DeliveryAttempt}
    (taken : processor.recordAttempt notification contact recording = .ok attempt) :
    attempt.status = contact.status ∧ attempt.recipientAddress = contact.recipientAddress := by
  obtain ⟨stored, created, saved⟩ := Checked.bind_eq_ok.mp taken
  obtain ⟨_, -, same⟩ := Checked.bind_eq_ok.mp saved
  cases same
  simp only [DeliveryAttempt.create, DeliveryAttempt.build] at created
  split at created
  · split at created
    · cases created
      exact ⟨rfl, rfl⟩
    · cases created
  · cases created

end NotificationDeliveryProcessor

end Tiber
