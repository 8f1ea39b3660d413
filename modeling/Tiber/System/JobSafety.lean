import Tiber.Application.Dispatch
import Tiber.System.DeliverySafety
import Tiber.Worker.NotificationTask

/-! No live notification is stranded by its own job, but for the leaks listed here.

A leak is a kind of input on which an execution of the task ends with the row
live, nothing scheduled and nobody else responsible.
-/

set_option autoImplicit false

namespace Tiber

open Library

/-! ## The leaks -/

/-- The row that a claim finds has kept the status, and the lapsed lease, that the run read. -/
def Claimable (found loaded : Notification) (lease : Int) (now : Instant) : Prop :=
  found.status = loaded.status ∧ (loaded.status = .processing → found.updatedAt ≤ now - lease)

instance (found loaded : Notification) (lease : Int) (now : Instant) : Decidable (Claimable found loaded lease now) :=
  inferInstanceAs (Decidable (_ ∧ _))

open NotificationDeliveryProcessor in
/-- How a run ends after its claim: the status of the row, and the exception if there is one. -/
def contactEnd (processor : NotificationDeliveryProcessor) (loaded : Notification) (recipient : Recipient)
    (around : JobSurroundings) : NotificationStatus × Option PyError :=
  let address := recipient.addresses.usable loaded.channel
  let answer := if address.isSome then some around.answer else none
  let recorded := processor.recordAttempt loaded (contactOf loaded.channel address answer) around.recording
  match transaction .processing (recorded.map fun _ => (statusAfter answer, ())) around.loss with
  | (status, .error failure) => (status, some failure)
  | (status, .ok ()) => (status, match answer with
      | some (.raised failure) => some failure
      | _ => none)

structure Reaches (processor : NotificationDeliveryProcessor) (loaded : Notification) (around : JobSurroundings)
    (recipient : Recipient) : Prop where
  eligible : loaded.Eligible processor.processingLease around.clock.now
  found : around.lookup.recipient = some recipient
  admitted : recipient.Admits loaded around.lookup.constraint around.clock.policy
  resolved : (processor.contentFor loaded around.lookup).isOk = true

structure Contends (processor : NotificationDeliveryProcessor) (loaded : Notification) (around : JobSurroundings)
    (recipient : Recipient) : Prop extends Reaches processor loaded around recipient where
  calm : around.interruption = none

def Recipient.Postpones (recipient : Recipient) (notification : Notification)
    (constraint : Option DeliveryConstraint) (policy : Instant) : Prop :=
  (PolicyResolver.evaluate intakeRules notification recipient constraint policy).consequence = some .postpone

instance (recipient : Recipient) (notification : Notification) (constraint : Option DeliveryConstraint)
    (policy : Instant) : Decidable (recipient.Postpones notification constraint policy) :=
  inferInstanceAs (Decidable (_ = _))

/-- The status the first transaction commits, by the way it ends. -/
inductive Commits (processor : NotificationDeliveryProcessor) (loaded : Notification) (around : JobSurroundings) :
    NotificationStatus → Prop where
  | idle (idle : ¬ loaded.Eligible processor.processingLease around.clock.now) :
      Commits processor loaded around (around.found loaded).status
  | postponed {recipient : Recipient} (eligible : loaded.Eligible processor.processingLease around.clock.now)
      (found : around.lookup.recipient = some recipient)
      (rejected : ¬ recipient.Admits loaded around.lookup.constraint around.clock.policy)
      (postpones : recipient.Postpones loaded around.lookup.constraint around.clock.policy) :
      Commits processor loaded around .postponed
  | suppressed {recipient : Recipient} (eligible : loaded.Eligible processor.processingLease around.clock.now)
      (found : around.lookup.recipient = some recipient)
      (rejected : ¬ recipient.Admits loaded around.lookup.constraint around.clock.policy)
      (unpostponed : ¬ recipient.Postpones loaded around.lookup.constraint around.clock.policy) :
      Commits processor loaded around .suppressed
  | outrun {recipient : Recipient} (reaches : Reaches processor loaded around recipient)
      (lost : ¬ Claimable (around.found loaded) loaded processor.processingLease around.clock.now) :
      Commits processor loaded around (around.found loaded).status
  | claimed {recipient : Recipient} (reaches : Reaches processor loaded around recipient)
      (won : Claimable (around.found loaded) loaded processor.processingLease around.clock.now) :
      Commits processor loaded around .processing

/-- A notification that a run returns is not looked at again: it is not deferred, or its message is lost. -/
def JobSurroundings.Unfollowed (around : JobSurroundings) (returned : Notification) : Prop :=
  shouldDefer returned around.deferred = false ∨ Fault.undoes around.sending = true

inductive Leak (settings : RetrySettings) (processor : NotificationDeliveryProcessor) (job : NotificationJob)
    (loaded : Notification) (around : JobSurroundings) : Prop where
  /-- The infrastructure fails before the first transaction is committed. -/
  | interrupted {fault : Fault} (raised : around.interruption = some fault) (undone : fault.landed = false)
      (dropped : Dropped settings job around (around.found loaded).status fault.error)
  /-- It fails in the commit, which goes through. -/
  | unconfirmed {fault : Fault} {status : NotificationStatus} (raised : around.interruption = some fault)
      (landed : fault.landed = true) (committed : Commits processor loaded around status)
      (dropped : Dropped settings job around status fault.error)
  /-- A notification comes due and its recipient is gone. -/
  | orphaned (kept : Fault.undoes around.interruption = false)
      (eligible : loaded.Eligible processor.processingLease around.clock.now)
      (missing : around.lookup.recipient = none)
      (dropped : Dropped settings job around (around.found loaded).status
        (.entityNotFound "Recipient" (uuidText loaded.recipientId)))
  /-- It comes due and its content cannot be resolved. -/
  | unresolved {recipient : Recipient} {failure : PyError} (kept : Fault.undoes around.interruption = false)
      (eligible : loaded.Eligible processor.processingLease around.clock.now)
      (found : around.lookup.recipient = some recipient)
      (admitted : recipient.Admits loaded around.lookup.constraint around.clock.policy)
      (failed : processor.contentFor loaded around.lookup = .error failure)
      (dropped : Dropped settings job around (around.found loaded).status failure)
  /-- There is nothing to do yet, and the task does not defer it, or in vain. -/
  | idle (calm : around.interruption = none)
      (idle : ¬ loaded.Eligible processor.processingLease around.clock.now)
      (live : (around.found loaded).status.terminal = false) (unfollowed : around.Unfollowed loaded)
  /-- The policy postpones it, and the message for the resume time is lost. -/
  | postponed {recipient : Recipient} (calm : around.interruption = none)
      (eligible : loaded.Eligible processor.processingLease around.clock.now)
      (found : around.lookup.recipient = some recipient)
      (rejected : ¬ recipient.Admits loaded around.lookup.constraint around.clock.policy)
      (postpones : recipient.Postpones loaded around.lookup.constraint around.clock.policy)
      (unsent : Fault.undoes around.sending = true)
  /-- The claim is lost to a worker that leaves the row live, and the task does not defer it, or in vain. -/
  | outrun {recipient : Recipient} (contends : Contends processor loaded around recipient)
      (lost : ¬ Claimable (around.found loaded) loaded processor.processingLease around.clock.now)
      (live : (around.found loaded).status.terminal = false)
      (unfollowed : around.Unfollowed (around.found loaded))
  /-- The contact, or its record, fails. -/
  | unfinished {recipient : Recipient} {status : NotificationStatus} {failure : PyError}
      (contends : Contends processor loaded around recipient)
      (won : Claimable (around.found loaded) loaded processor.processingLease around.clock.now)
      (ended : contactEnd processor loaded recipient around = (status, some failure))
      (dropped : Dropped settings job around status failure)

/-! ## What an execution does, leaks apart -/

variable {settings : RetrySettings} {provider : Text} {lease : Int} {save : DeliveryAttempt → Checked Unit}
  {job : NotificationJob} {loaded : Notification} {around : JobSurroundings} {recipient : Recipient}

theorem claimForDelivery_found {found processing : Notification} {expected : NotificationStatus}
    {staleBefore : Option Instant} {now : Instant} (status : expected = loaded.status)
    (cutoff : loaded.status = .processing → staleBefore = some (now - lease)) :
    claimForDelivery found.toNotificationFields processing expected staleBefore =
      .ok (if Claimable found loaded lease now then some { found.toNotificationFields with
        status := processing.status, content := processing.content, updatedAt := processing.updatedAt }
      else none) := by
  subst status
  unfold claimForDelivery Claimable
  by_cases working : loaded.status = .processing
  · rw [if_pos working, cutoff working]
    simp only [working, true_implies]
  · rw [if_neg working]
    simp only [working, false_implies, and_true]

theorem claimed_entity {found processing : Notification} (live : found.status.terminal = false)
    (status : processing.status = .processing) :
    ∃ claimed : Notification, claimed.status = .processing ∧ claimed.toNotificationFields =
      { found.toNotificationFields with
        status := processing.status, content := processing.content, updatedAt := processing.updatedAt } := by
  obtain ⟨suppressed, cancelled, failed, delivered⟩ := Notification.clean live
  refine ⟨⟨{ found.toNotificationFields with
      status := processing.status, content := processing.content, updatedAt := processing.updatedAt }, ?_⟩,
    status, rfl⟩
  simp [NotificationFields.Consistent, status, suppressed, cancelled, failed, delivered]

theorem Notification.Eligible.live {now : Instant} (eligible : loaded.Eligible lease now) :
    loaded.status.terminal = false := by
  rcases eligible.1 with status | status | ⟨status, -⟩ <;> rw [status] <;> rfl

section Delivered

variable {processor : NotificationDeliveryProcessor} {claim : Claim} {claimed : Notification}

/-- After a won claim: a contact that does not fail leaves its row terminal. -/
theorem deliver_ends (id : claim.processing.id = loaded.id) (channel : claim.processing.channel = loaded.channel)
    (status : claim.processing.status = .processing) (working : claimed.status = .processing)
    (address : claim.usableAddress = recipient.addresses.usable loaded.channel) :
    ∃ left : Notification, left.status = (contactEnd processor loaded recipient around).1 ∧
      match (contactEnd processor loaded recipient around).2 with
      | some failure => processor.deliver claim claimed.toNotificationFields around =
          ⟨some left.toNotificationFields, .error failure⟩
      | none => left.status.terminal = true ∧ processor.deliver claim claimed.toNotificationFields around =
          ⟨some left.toNotificationFields, .ok (some left)⟩ := by
  unfold contactEnd NotificationDeliveryProcessor.deliver
  dsimp only
  rw [← address, ← channel]
  simp only [← NotificationDeliveryProcessor.recordAttempt_congr id channel]
  -- without an address there is no answer to wait for
  generalize (if claim.usableAddress.isSome = true then some around.answer else none) = answer
  cases recorded : processor.recordAttempt claim.processing
      (NotificationDeliveryProcessor.contactOf claim.processing.channel claim.usableAddress answer)
      around.recording with
  | error failure =>
      rw [NotificationDeliveryProcessor.outcome_unrecorded recorded]
      refine ⟨claimed, ?_⟩
      cases around.loss with
      | none => exact ⟨working, rfl⟩
      | some fault => exact ⟨working, rfl⟩
  | ok attempt =>
      obtain ⟨updated, done, left⟩ := NotificationDeliveryProcessor.outcome_recorded status recorded
      rw [done]
      cases around.loss with
      | none =>
          refine ⟨updated, left, ?_⟩
          rcases answer with _ | ⟨success | success, _, _⟩ | failure
          case some.raised => rfl
          all_goals
            refine ⟨?_, rfl⟩
            rw [left]
            rfl
      | some fault =>
          -- the record is there when the commit is only reported as failed
          cases landed : fault.landed with
          | true => refine ⟨updated, ?_, ?_⟩ <;> simp [transaction, Except.map, landed, left]
          | false => refine ⟨claimed, ?_, ?_⟩ <;> simp [transaction, Except.map, landed, working]

end Delivered

/-! ## How the first transaction ends -/

section FirstTransaction

theorem takeOver_idle {processor : NotificationDeliveryProcessor}
    (idle : ¬ loaded.Eligible processor.processingLease around.clock.now) :
    processor.takeOver loaded around = .ok ((around.found loaded).toNotificationFields, .inr loaded) :=
  Checked.bind_eq_ok.mpr ⟨_, NotificationDeliveryProcessor.prepare_ineligible idle, rfl⟩

theorem takeOver_failed {processor : NotificationDeliveryProcessor} {failure : PyError}
    (failed : processor.prepare loaded around.lookup around.clock = .error failure) :
    processor.takeOver loaded around = .error failure := by
  unfold NotificationDeliveryProcessor.takeOver
  rw [failed]
  rfl

theorem takeOver_rejected (eligible : loaded.Eligible lease around.clock.now)
    (found : around.lookup.recipient = some recipient)
    (rejected : ¬ recipient.Admits loaded around.lookup.constraint around.clock.policy) :
    ∃ updated : Notification,
      (workerProcessor provider lease save).takeOver loaded around = .ok (updated.toNotificationFields, .inr updated) ∧
      updated.status = if recipient.Postpones loaded around.lookup.constraint around.clock.policy then .postponed
        else .suppressed := by
  obtain ⟨updated, prepared, status⟩ := NotificationDeliveryProcessor.prepare_rejected eligible found rejected
  exact ⟨updated, Checked.bind_eq_ok.mpr ⟨_, prepared, rfl⟩, status⟩

theorem takeOver_reaches (reaches : Reaches (workerProcessor provider lease save) loaded around recipient) :
    (¬ Claimable (around.found loaded) loaded lease around.clock.now →
      (workerProcessor provider lease save).takeOver loaded around =
        .ok ((around.found loaded).toNotificationFields, .inr (around.found loaded))) ∧
    (Claimable (around.found loaded) loaded lease around.clock.now → ∃ claim, ∃ claimed : Notification,
      (workerProcessor provider lease save).takeOver loaded around =
        .ok (claimed.toNotificationFields, .inl claim) ∧
      claimed.status = .processing ∧ claim.processing.status = .processing ∧
      claim.processing.id = loaded.id ∧ claim.processing.channel = loaded.channel ∧
      claim.usableAddress = recipient.addresses.usable loaded.channel) := by
  have eligible : loaded.Eligible lease around.clock.now := reaches.eligible
  obtain ⟨claim, prepared, expected, cutoff, address, fields⟩ :=
    NotificationDeliveryProcessor.prepare_admitted eligible reaches.found reaches.admitted reaches.resolved
  unfold NotificationDeliveryProcessor.takeOver
  rw [prepared]
  simp only [bind, Except.bind, claimForDelivery_found expected cutoff]
  constructor
  · intro lost
    rw [if_neg lost]
    rfl
  · intro won
    have live : (around.found loaded).status.terminal = false := by rw [won.1]; exact reaches.eligible.live
    obtain ⟨claimed, working, same⟩ := claimed_entity live (by rw [fields] : claim.processing.status = .processing)
    refine ⟨claim, claimed, ?_, working, by rw [fields], by rw [fields], by rw [fields], address⟩
    rw [if_pos won, ← same]
    rfl

end FirstTransaction

/-! ## Which leak each way through the task has -/

section Stages

variable {processor : NotificationDeliveryProcessor} {fault : Fault}

theorem leak_interrupted (raised : around.interruption = some fault) (undone : fault.landed = false) :
    Leak settings processor job loaded around ↔
      Dropped settings job around (around.found loaded).status fault.error := by
  have lost : Fault.undoes around.interruption = true := by rw [raised]; simp [Fault.undoes, undone]
  constructor
  · intro leak
    cases leak with
    | interrupted again _ dropped =>
        rw [raised] at again
        cases again
        exact dropped
    | unconfirmed again landed =>
        rw [raised] at again
        cases again
        rw [undone] at landed
        cases landed
    | orphaned kept | unresolved kept => rw [lost] at kept; cases kept
    | idle calm | postponed calm => rw [raised] at calm; cases calm
    | outrun contends | unfinished contends => have calm := contends.calm; rw [raised] at calm; cases calm
  · exact .interrupted raised undone

theorem leak_unconfirmed {status : NotificationStatus} (raised : around.interruption = some fault)
    (landed : fault.landed = true) (committed : ∀ other, Commits processor loaded around other ↔ other = status) :
    Leak settings processor job loaded around ↔ Dropped settings job around status fault.error := by
  constructor
  · intro leak
    -- something has been committed, so the recipient is there and the content resolved
    cases leak with
    | interrupted again undone =>
        rw [raised] at again
        cases again
        rw [landed] at undone
        cases undone
    | unconfirmed again _ commits dropped =>
        rw [raised] at again
        cases again
        rwa [(committed _).mp commits] at dropped
    | orphaned _ eligible missing =>
        have commits := (committed status).mpr rfl
        cases commits with
        | idle idle => exact absurd eligible idle
        | postponed _ found | suppressed _ found => rw [missing] at found; cases found
        | outrun reaches | claimed reaches => have found := reaches.found; rw [missing] at found; cases found
    | unresolved _ eligible found admitted failed =>
        have commits := (committed status).mpr rfl
        cases commits with
        | idle idle => exact absurd eligible idle
        | postponed _ again rejected | suppressed _ again rejected =>
            rw [found] at again
            cases again
            exact absurd admitted rejected
        | outrun reaches | claimed reaches => have resolved := reaches.resolved; rw [failed] at resolved; cases resolved
    | idle calm | postponed calm => rw [raised] at calm; cases calm
    | outrun contends | unfinished contends => have calm := contends.calm; rw [raised] at calm; cases calm
  · exact .unconfirmed raised landed ((committed status).mpr rfl)

theorem commits_idle (idle : ¬ loaded.Eligible processor.processingLease around.clock.now)
    (status : NotificationStatus) : Commits processor loaded around status ↔ status = (around.found loaded).status := by
  constructor
  · intro commits
    cases commits with
    | idle => rfl
    | postponed eligible | suppressed eligible => exact absurd eligible idle
    | outrun reaches | claimed reaches => exact absurd reaches.eligible idle
  · rintro rfl
    exact .idle idle

theorem commits_rejected (eligible : loaded.Eligible processor.processingLease around.clock.now)
    (found : around.lookup.recipient = some recipient)
    (rejected : ¬ recipient.Admits loaded around.lookup.constraint around.clock.policy) (status : NotificationStatus) :
    Commits processor loaded around status ↔
      status = if recipient.Postpones loaded around.lookup.constraint around.clock.policy then .postponed
        else .suppressed := by
  constructor
  · intro commits
    cases commits with
    | idle idle => exact absurd eligible idle
    | postponed _ again _ postpones =>
        rw [found] at again
        cases again
        rw [if_pos postpones]
    | suppressed _ again _ unpostponed =>
        rw [found] at again
        cases again
        rw [if_neg unpostponed]
    | outrun reaches | claimed reaches =>
        have again := reaches.found
        rw [found] at again
        cases again
        exact absurd reaches.admitted rejected
  · rintro rfl
    split
    · exact .postponed eligible found rejected ‹_›
    · exact .suppressed eligible found rejected ‹_›

theorem commits_reaches (reaches : Reaches processor loaded around recipient) (status : NotificationStatus) :
    Commits processor loaded around status ↔
      status = if Claimable (around.found loaded) loaded processor.processingLease around.clock.now then .processing
        else (around.found loaded).status := by
  constructor
  · intro commits
    cases commits with
    | idle idle => exact absurd reaches.eligible idle
    | postponed _ found rejected | suppressed _ found rejected =>
        rw [reaches.found] at found
        cases found
        exact absurd reaches.admitted rejected
    | outrun _ lost => rw [if_neg lost]
    | claimed _ won => rw [if_pos won]
  · rintro rfl
    split
    · exact .claimed reaches ‹_›
    · exact .outrun reaches ‹_›

theorem leak_orphan (kept : Fault.undoes around.interruption = false)
    (eligible : loaded.Eligible processor.processingLease around.clock.now)
    (missing : around.lookup.recipient = none) :
    Leak settings processor job loaded around ↔ Dropped settings job around (around.found loaded).status
      (.entityNotFound "Recipient" (uuidText loaded.recipientId)) := by
  constructor
  · intro leak
    cases leak with
    | interrupted raised undone => rw [raised] at kept; simp [Fault.undoes, undone] at kept
    | unconfirmed _ _ commits =>
        cases commits with
        | idle idle => exact absurd eligible idle
        | postponed _ found | suppressed _ found => rw [missing] at found; cases found
        | outrun reaches | claimed reaches => have found := reaches.found; rw [missing] at found; cases found
    | orphaned _ _ _ dropped => exact dropped
    | unresolved _ _ found | postponed _ _ found => rw [missing] at found; cases found
    | idle _ idle => exact absurd eligible idle
    | outrun contends | unfinished contends => have found := contends.found; rw [missing] at found; cases found
  · exact .orphaned kept eligible missing

theorem leak_unresolved {failure : PyError} (kept : Fault.undoes around.interruption = false)
    (eligible : loaded.Eligible processor.processingLease around.clock.now)
    (found : around.lookup.recipient = some recipient)
    (admitted : recipient.Admits loaded around.lookup.constraint around.clock.policy)
    (failed : processor.contentFor loaded around.lookup = .error failure) :
    Leak settings processor job loaded around ↔
      Dropped settings job around (around.found loaded).status failure := by
  have unreached {other : Recipient} (reaches : Reaches processor loaded around other) : False := by
    have resolved := reaches.resolved
    rw [failed] at resolved
    cases resolved
  constructor
  · intro leak
    cases leak with
    | interrupted raised undone => rw [raised] at kept; simp [Fault.undoes, undone] at kept
    | unconfirmed _ _ commits =>
        cases commits with
        | idle idle => exact absurd eligible idle
        | postponed _ again rejected | suppressed _ again rejected =>
            rw [found] at again
            cases again
            exact absurd admitted rejected
        | outrun reaches | claimed reaches => exact (unreached reaches).elim
    | orphaned _ _ missing => rw [found] at missing; cases missing
    | unresolved _ _ _ _ again dropped =>
        rw [failed] at again
        cases again
        exact dropped
    | idle _ idle => exact absurd eligible idle
    | postponed _ _ again rejected =>
        rw [found] at again
        cases again
        exact absurd admitted rejected
    | outrun contends | unfinished contends => exact (unreached contends.toReaches).elim
  · exact .unresolved kept eligible found admitted failed

theorem leak_idle (calm : around.interruption = none)
    (idle : ¬ loaded.Eligible processor.processingLease around.clock.now) :
    Leak settings processor job loaded around ↔
      (around.found loaded).status.terminal = false ∧ around.Unfollowed loaded := by
  constructor
  · intro leak
    cases leak with
    | interrupted raised | unconfirmed raised => rw [calm] at raised; cases raised
    | orphaned _ eligible | unresolved _ eligible | postponed _ eligible => exact absurd eligible idle
    | idle _ _ live unfollowed => exact ⟨live, unfollowed⟩
    | outrun contends | unfinished contends => exact absurd contends.eligible idle
  · rintro ⟨live, unfollowed⟩
    exact .idle calm idle live unfollowed

theorem leak_rejected (calm : around.interruption = none)
    (eligible : loaded.Eligible processor.processingLease around.clock.now)
    (found : around.lookup.recipient = some recipient)
    (rejected : ¬ recipient.Admits loaded around.lookup.constraint around.clock.policy) :
    Leak settings processor job loaded around ↔
      recipient.Postpones loaded around.lookup.constraint around.clock.policy ∧
        Fault.undoes around.sending = true := by
  have same {other : Recipient} (again : around.lookup.recipient = some other) : other = recipient :=
    Option.some.inj (again.symm.trans found)
  constructor
  · intro leak
    cases leak with
    | interrupted raised | unconfirmed raised => rw [calm] at raised; cases raised
    | orphaned _ _ missing => rw [found] at missing; cases missing
    | unresolved _ _ again admitted => exact absurd (same again ▸ admitted) rejected
    | idle _ idle => exact absurd eligible idle
    | postponed _ _ again _ postpones unsent => exact ⟨same again ▸ postpones, unsent⟩
    | outrun contends | unfinished contends => exact absurd (same contends.found ▸ contends.admitted) rejected
  · rintro ⟨postpones, unsent⟩
    exact .postponed calm eligible found rejected postpones unsent

theorem leak_contending (contends : Contends processor loaded around recipient) :
    Leak settings processor job loaded around ↔
      if Claimable (around.found loaded) loaded processor.processingLease around.clock.now then
        ∃ failure, (contactEnd processor loaded recipient around).2 = some failure ∧
          Dropped settings job around (contactEnd processor loaded recipient around).1 failure
      else (around.found loaded).status.terminal = false ∧ around.Unfollowed (around.found loaded) := by
  have same {other : Recipient} (again : around.lookup.recipient = some other) : other = recipient :=
    Option.some.inj (again.symm.trans contends.found)
  constructor
  · intro leak
    -- every other way to leak needs a step this execution did not take
    cases leak with
    | interrupted raised | unconfirmed raised => rw [contends.calm] at raised; cases raised
    | orphaned _ _ missing => rw [contends.found] at missing; cases missing
    | unresolved _ _ _ _ failed =>
        have resolved := contends.resolved
        rw [failed] at resolved
        cases resolved
    | idle _ idle => exact absurd contends.eligible idle
    | postponed _ _ again rejected => exact absurd contends.admitted (same again ▸ rejected)
    | outrun _ lost live unfollowed => rw [if_neg lost]; exact ⟨live, unfollowed⟩
    | unfinished again won ended dropped =>
        rw [if_pos won]
        obtain rfl := same again.found
        exact ⟨_, by rw [ended], by rw [ended]; exact dropped⟩
  · intro leaks
    split at leaks
    · rename_i won
      obtain ⟨failure, ended, dropped⟩ := leaks
      exact .unfinished contends won (Prod.ext rfl ended) dropped
    · rename_i beaten
      exact .outrun contends beaten leaks.1 leaks.2

end Stages

/-! ## Every execution -/

section Executions

variable {processor : NotificationDeliveryProcessor} {fault : Fault} {row : NotificationFields}
  {returned : Notification}

theorem process_interrupted (raised : around.interruption = some fault) (undone : fault.landed = false) :
    processor.process loaded around = ⟨some (around.found loaded).toNotificationFields, .error fault.error⟩ := by
  unfold NotificationDeliveryProcessor.process
  rw [raised]
  cases processor.takeOver loaded around with
  | error failure => simp [transaction, undone]
  | ok written => simp [transaction, undone]

theorem process_failed {failure : PyError} (kept : Fault.undoes around.interruption = false)
    (failed : processor.takeOver loaded around = .error failure) :
    processor.process loaded around = ⟨some (around.found loaded).toNotificationFields, .error failure⟩ := by
  unfold NotificationDeliveryProcessor.process
  rw [failed]
  cases raised : around.interruption with
  | none => rfl
  | some fault =>
      rw [raised] at kept
      have landed : fault.landed = true := by simpa [Fault.undoes] using kept
      simp [transaction, landed]

theorem process_unconfirmed {next : Claim ⊕ Notification} (raised : around.interruption = some fault)
    (landed : fault.landed = true) (taken : processor.takeOver loaded around = .ok (row, next)) :
    processor.process loaded around = ⟨some row, .error fault.error⟩ := by
  unfold NotificationDeliveryProcessor.process
  rw [raised, taken]
  simp [transaction, landed]

theorem process_returned (calm : around.interruption = none)
    (taken : processor.takeOver loaded around = .ok (row, .inr returned)) :
    processor.process loaded around = ⟨some row, .ok (some returned)⟩ := by
  unfold NotificationDeliveryProcessor.process
  rw [calm, taken]
  rfl

theorem process_claimed {claim : Claim} (calm : around.interruption = none)
    (taken : processor.takeOver loaded around = .ok (row, .inl claim)) :
    processor.process loaded around = processor.deliver claim row around := by
  unfold NotificationDeliveryProcessor.process
  rw [calm, taken]
  rfl

theorem covered_failed {failure : PyError} {others : Bool} {left : Notification}
    (failed : processor.process loaded around = ⟨some left.toNotificationFields, .error failure⟩)
    (leaks : Leak settings processor job loaded around ↔ Dropped settings job around left.status failure) :
    (finish settings lease job around (processor.process loaded around)).Covered others ↔
      others = true ∨ ¬ Leak settings processor job loaded around := by
  rw [failed, finish_failed, leaks]

theorem not_unfollowed : ¬ around.Unfollowed returned ↔
    shouldDefer returned around.deferred = true ∧ Fault.undoes around.sending = false := by
  unfold JobSurroundings.Unfollowed
  rw [not_or, Bool.not_eq_false, Bool.not_eq_true]

/-- After a commit that is reported as failed, or else as the run goes on. -/
theorem covered_committed {others : Bool} {left : Notification} {next : Claim ⊕ Notification}
    (kept : Fault.undoes around.interruption = false)
    (taken : processor.takeOver loaded around = .ok (left.toNotificationFields, next))
    (committed : ∀ status, Commits processor loaded around status ↔ status = left.status)
    (onward : around.interruption = none →
      ((finish settings lease job around (processor.process loaded around)).Covered others ↔
        others = true ∨ ¬ Leak settings processor job loaded around)) :
    (finish settings lease job around (processor.process loaded around)).Covered others ↔
      others = true ∨ ¬ Leak settings processor job loaded around := by
  cases raised : around.interruption with
  | none => exact onward raised
  | some fault =>
      rw [raised] at kept
      have landed : fault.landed = true := by simpa [Fault.undoes] using kept
      exact covered_failed (process_unconfirmed raised landed taken) (leak_unconfirmed raised landed committed)

theorem covered_returned {others : Bool} (calm : around.interruption = none)
    (taken : processor.takeOver loaded around = .ok (row, .inr returned))
    (leaks : Leak settings processor job loaded around ↔
      row.status.terminal = false ∧ around.Unfollowed returned) :
    (finish settings lease job around (processor.process loaded around)).Covered others ↔
      others = true ∨ ¬ Leak settings processor job loaded around := by
  rw [process_returned calm taken, finish_returned, leaks, not_and_or, Bool.not_eq_false, not_unfollowed]

theorem covered_claimed {others : Bool} {claim : Claim} {claimed : Notification}
    (contends : Contends processor loaded around recipient)
    (won : Claimable (around.found loaded) loaded processor.processingLease around.clock.now)
    (taken : processor.takeOver loaded around = .ok (claimed.toNotificationFields, .inl claim))
    (working : claimed.status = .processing) (status : claim.processing.status = .processing)
    (id : claim.processing.id = loaded.id) (channel : claim.processing.channel = loaded.channel)
    (address : claim.usableAddress = recipient.addresses.usable loaded.channel) :
    (finish settings lease job around (processor.process loaded around)).Covered others ↔
      others = true ∨ ¬ Leak settings processor job loaded around := by
  rw [leak_contending contends, if_pos won, process_claimed contends.calm taken]
  obtain ⟨left, same, ends⟩ := @deliver_ends loaded around recipient processor claim claimed id channel status
    working address
  cases ended : (contactEnd processor loaded recipient around).2 with
  | none =>
      rw [ended] at ends
      obtain ⟨terminal, delivered⟩ := ends
      rw [delivered, finish_returned]
      simp [terminal]
  | some failure =>
      rw [ended] at ends
      rw [ends, finish_failed, same]
      simp

end Executions

/-- The stages of `_process` in the order of the code. -/
theorem finish_covered_iff {others : Bool} :
    (finish settings lease job around ((workerProcessor provider lease save).process loaded around)).Covered others ↔
      others = true ∨ ¬ Leak settings (workerProcessor provider lease save) job loaded around := by
  cases kept : Fault.undoes around.interruption with
  | true =>
      cases raised : around.interruption with
      | none => rw [raised] at kept; cases kept
      | some fault =>
          rw [raised] at kept
          have undone : fault.landed = false := by simpa [Fault.undoes] using kept
          exact covered_failed (process_interrupted raised undone) (leak_interrupted raised undone)
  | false =>
  by_cases eligible : loaded.Eligible lease around.clock.now
  swap
  · exact covered_committed kept (takeOver_idle eligible) (commits_idle eligible)
      fun calm => covered_returned calm (takeOver_idle eligible) (leak_idle calm eligible)
  cases found : around.lookup.recipient with
  | none =>
      have failed : (workerProcessor provider lease save).takeOver loaded around = .error _ :=
        takeOver_failed (NotificationDeliveryProcessor.prepare_orphan eligible found)
      exact covered_failed (process_failed kept failed) (leak_orphan kept eligible found)
  | some recipient =>
  by_cases admitted : recipient.Admits loaded around.lookup.constraint around.clock.policy
  swap
  · obtain ⟨updated, taken, status⟩ := takeOver_rejected eligible found admitted
    refine covered_committed kept taken (by rw [status]; exact commits_rejected eligible found admitted) fun calm =>
      covered_returned calm taken ((leak_rejected calm eligible found admitted).trans ?_)
    -- a verdict is POSTPONED, and deferred as such, or terminal
    unfold JobSurroundings.Unfollowed shouldDefer
    rw [status]
    split
    · simp [*, NotificationStatus.terminal]
    · simp [*, NotificationStatus.terminal]
  cases content : (workerProcessor provider lease save).contentFor loaded around.lookup with
  | error failure =>
      have failed := takeOver_failed
        (NotificationDeliveryProcessor.prepare_unresolved eligible found admitted content)
      exact covered_failed (process_failed kept failed) (leak_unresolved kept eligible found admitted content)
  | ok resolved =>
      have reaches : Reaches (workerProcessor provider lease save) loaded around recipient :=
        ⟨eligible, found, admitted, by rw [content]; rfl⟩
      obtain ⟨beaten, winner⟩ := takeOver_reaches reaches
      by_cases won : Claimable (around.found loaded) loaded (workerProcessor provider lease save).processingLease
          around.clock.now
      · obtain ⟨claim, claimed, taken, working, status, id, channel, address⟩ := winner won
        refine covered_committed kept taken (fun status => ?_) fun calm =>
          covered_claimed ⟨reaches, calm⟩ won taken working status id channel address
        rw [working, commits_reaches reaches, if_pos won]
      · refine covered_committed kept (beaten won) (fun status => ?_) fun calm =>
          covered_returned calm (beaten won) ?_
        · rw [commits_reaches reaches, if_neg won]
        · rw [leak_contending ⟨reaches, calm⟩, if_neg won]

namespace DeliveryRuns

def postponedPush : NotificationFields :=
  { reminder with channel := .push, status := .postponed, sendAt := some (8 * Clock.hour + 5 * Clock.minute) }

/-- The last attempt, at nine o'clock: the provider cannot be built. -/
def unconfigured : JobSurroundings where
  lookup := { recipient := some sleeper }
  entry := 9 * Clock.hour
  clock := ⟨9 * Clock.hour, 9 * Clock.hour, 9 * Clock.hour, 9 * Clock.hour, 9 * Clock.hour, 9 * Clock.hour⟩
  answer := .result true none none
  recording := ⟨0, 9 * Clock.hour, 9 * Clock.hour, 9 * Clock.hour⟩
  failed := 9 * Clock.hour
  deferred := 9 * Clock.hour
  dispatched := 9 * Clock.hour
  interruption := some { name := "ValueError", message := "FCM requires FCM_PROJECT_ID" }

end DeliveryRuns

end Tiber
