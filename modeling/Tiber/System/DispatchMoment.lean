import Tiber.Application.Dispatch
import Tiber.System.DeliverySafety

/-! Restrictions at the moment of dispatch.

A run of `process` reads the clock when it begins, but the rules judge the
scheduled instant where there is one, and compare wall clocks. The restriction
itself is stated here on instants; a run respects it exactly when the rules see
it too.
-/

set_option autoImplicit false

namespace Tiber

open Library

/-! ## Runs that reach the provider -/

namespace NotificationDeliveryProcessor

/-- The claim under which a run calls the provider, `row` being what its claim finds. -/
def dispatched (processor : NotificationDeliveryProcessor) (loaded : Notification) (lookup : Lookup)
    (clock : Readings) (row : NotificationFields) : Option Claim :=
  match processor.prepare loaded lookup clock with
  | .ok (.claim claim) =>
      match claimForDelivery row claim.processing claim.expectedStatus claim.staleBefore with
      | .ok (some _) => if claim.usableAddress.isSome then some claim else none
      | .ok none | .error _ => none
  | .ok (.verdict _) | .ok (.returned _) | .error _ => none

def RespectsRestrictions (processor : NotificationDeliveryProcessor) (loaded : Notification) (lookup : Lookup)
    (clock : Readings) (row : NotificationFields) : Prop :=
  ∀ claim ∈ processor.dispatched loaded lookup clock row, ∀ recipient ∈ lookup.recipient,
    restricted recipient lookup.constraint claim.processing.channel clock.now = false

/-- Nothing but a restriction keeps the run from the provider. -/
structure Unhindered (processor : NotificationDeliveryProcessor) (loaded : Notification) (lookup : Lookup)
    (now : Instant) (row : NotificationFields) (recipient : Recipient) : Prop where
  found : lookup.recipient = some recipient
  live : loaded.status = .pending ∨ loaded.status = .postponed ∨
    loaded.status = .processing ∧ loaded.updatedAt ≤ now - processor.processingLease
  due : loaded.sendAt.all (· ≤ now) = true
  reachable : (recipient.addresses.usable loaded.channel).isSome = true
  consents : recipient.Consents loaded
  content : (processor.contentFor loaded lookup).isOk = true
  unclaimed : row.status = loaded.status
  lapsed : loaded.status = .processing → row.updatedAt ≤ now - processor.processingLease

variable {provider : Text} {lease : Int} {save : DeliveryAttempt → Checked Unit} {loaded : Notification}
  {lookup : Lookup} {clock : Readings} {row : NotificationFields}

theorem dispatched_eq_some {processor : NotificationDeliveryProcessor} {claim : Claim} :
    processor.dispatched loaded lookup clock row = some claim ↔
      processor.prepare loaded lookup clock = .ok (.claim claim) ∧
      (∃ claimed, claimForDelivery row claim.processing claim.expectedStatus claim.staleBefore =
        .ok (some claimed)) ∧
      claim.usableAddress.isSome = true := by
  unfold dispatched
  split
  · rename_i prepared ready
    rw [ready, Except.ok.injEq, Prepared.claim.injEq]
    split
    · rename_i claimed done
      constructor
      · intro sent
        split at sent
        · rename_i usable
          cases sent
          exact ⟨rfl, ⟨claimed, done⟩, usable⟩
        · cases sent
      · rintro ⟨rfl, -, usable⟩
        rw [if_pos usable]
    all_goals
      -- a lost claim sends nothing
      rename_i missed
      refine ⟨nofun, ?_⟩
      rintro ⟨rfl, ⟨claimed, done⟩, -⟩
      rw [missed] at done
      cases done
  all_goals
    -- so does every other end of the first transaction
    rename_i other
    refine ⟨nofun, ?_⟩
    rintro ⟨ready, -⟩
    rw [other] at ready
    cases ready

theorem unhindered_of_dispatched {claim : Claim} (ordinary : loaded.category ≠ .critical)
    (sent : (workerProcessor provider lease save).dispatched loaded lookup clock row = some claim) :
    claim.processing.channel = loaded.channel ∧ ∃ recipient,
      (workerProcessor provider lease save).Unhindered loaded lookup clock.now row recipient ∧
      refused recipient lookup.constraint loaded.channel (loaded.sendAt.getD clock.policy) = false := by
  obtain ⟨prepared, open_, usable⟩ := dispatched_eq_some.mp sent
  obtain ⟨notification, staleBefore, recipient, eligible, found, allowed, claimed⟩ := prepare_claim prepared
  have fields := eligible_fields eligible
  obtain ⟨expected, cutoff, address, processing⟩ := claimFor_eq_ok claimed
  have channel : notification.channel = loaded.channel := by rw [fields]
  have category : notification.category = loaded.category := by rw [fields]
  have sendAt : notification.sendAt = loaded.sendAt := by rw [fields]
  have topicId : notification.topicId = loaded.topicId := by rw [fields]
  -- the guard judges the entity that goes on, which differs from the loaded one in its status only
  rw [judge_worker] at allowed
  obtain ⟨reachable, consents, clear⟩ := (intake_chain_allows (by rwa [category])).mp allowed
  obtain ⟨matched, lapsed⟩ := claimForDelivery_isSome_iff.mp open_
  obtain ⟨origin, due⟩ := eligible_eq_some eligible
  refine ⟨by rw [processing, channel], recipient, ?_, by simpa only [channel, sendAt] using clear⟩
  exact {
    found
    live := by
      obtain ⟨-, pending, -⟩ | ⟨-, processing, -, stale⟩ | ⟨postponed, -⟩ := origin
      · exact .inl pending
      · exact .inr (.inr ⟨processing, stale⟩)
      · exact .inr (.inl postponed)
    due := by rwa [sendAt] at due
    reachable := by rwa [channel] at reachable
    consents := by simpa only [Recipient.Consents, channel, category, topicId] using consents
    content := by
      obtain ⟨content, resolved, -⟩ := Checked.bind_eq_ok.mp claimed
      rw [← contentFor_congr fields, resolved]
      rfl
    unclaimed := matched.trans expected
    lapsed := fun working => by
      obtain ⟨limit, given, stale⟩ := lapsed (expected.trans working)
      obtain ⟨-, pending, -⟩ | ⟨-, -, before, -⟩ | ⟨postponed, -⟩ := origin
      · rw [pending] at working; cases working
      · -- the cutoff of a takeover is the lease
        rw [cutoff, before] at given; cases given; exact stale
      · rw [postponed] at working; cases working }

theorem dispatched_of_unhindered {recipient : Recipient} (ordinary : loaded.category ≠ .critical)
    (unhindered : (workerProcessor provider lease save).Unhindered loaded lookup clock.now row recipient)
    (clear : refused recipient lookup.constraint loaded.channel (loaded.sendAt.getD clock.policy) = false) :
    ∃ claim, (workerProcessor provider lease save).dispatched loaded lookup clock row = some claim := by
  obtain ⟨notification, staleBefore, eligible, working, waiting, cutoff⟩ :=
    eligible_total (workerProcessor provider lease save) unhindered.due unhindered.live
  have fields := eligible_fields eligible
  have channel : notification.channel = loaded.channel := by rw [fields]
  have category : notification.category = loaded.category := by rw [fields]
  have sendAt : notification.sendAt = loaded.sendAt := by rw [fields]
  have topicId : notification.topicId = loaded.topicId := by rw [fields]
  have allowed : ((workerProcessor provider lease save).judge notification recipient lookup clock).allowed = true := by
    refine (intake_chain_allows (by rwa [category])).mpr ⟨?_, ?_, ?_⟩
    · rw [channel]; exact unhindered.reachable
    · simpa only [Recipient.Consents, channel, category, topicId] using unhindered.consents
    · rw [channel, sendAt]; exact clear
  obtain ⟨claim, claimed⟩ := claimFor_total loaded.status
    (by rw [contentFor_congr fields]; exact unhindered.content) waiting working.mpr
  obtain ⟨expected, limit, address, -⟩ := claimFor_eq_ok claimed
  refine ⟨claim, dispatched_eq_some.mpr ⟨?_, claimForDelivery_isSome_iff.mpr ⟨?_, fun reclaim => ?_⟩, ?_⟩⟩
  · exact prepare_of_claimFor eligible unhindered.found allowed claimed
  · rw [unhindered.unclaimed, expected]
  · rw [expected] at reclaim
    exact ⟨_, by rw [limit, cutoff reclaim]; rfl, unhindered.lapsed reclaim⟩
  · rw [Claim.usableAddress, address, channel]
    exact unhindered.reachable

/-- Restrictions hold at the dispatch moment exactly when the rules refuse at the instant they
judge whatever is restricted at the instant the run began. -/
theorem restrictions_hold_at_dispatch (ordinary : loaded.category ≠ .critical) :
    (workerProcessor provider lease save).RespectsRestrictions loaded lookup clock row ↔
      ∀ recipient, (workerProcessor provider lease save).Unhindered loaded lookup clock.now row recipient →
        restricted recipient lookup.constraint loaded.channel clock.now = true →
        refused recipient lookup.constraint loaded.channel (loaded.sendAt.getD clock.policy) = true := by
  constructor
  · intro respects recipient unhindered forbidden
    by_contra passed
    obtain ⟨claim, sent⟩ := dispatched_of_unhindered ordinary unhindered (by simpa using passed)
    have clear := respects claim sent recipient unhindered.found
    rw [(unhindered_of_dispatched ordinary sent).1, forbidden] at clear
    cases clear
  · intro seen claim sent recipient found
    obtain ⟨channel, same, unhindered, clear⟩ := unhindered_of_dispatched ordinary sent
    obtain rfl : same = recipient := Option.some.inj (unhindered.found.symm.trans found)
    rw [channel]
    by_contra forbidden
    rw [seen same unhindered (by simpa using forbidden)] at clear
    cases clear

end NotificationDeliveryProcessor

namespace DeliveryRuns

/-! ## A reminder for eleven at night, taken from the queue at one -/

def overdue : NotificationFields := { reminder with sendAt := some (-Clock.hour) }

def standing (now : Instant) : Readings := ⟨now, now, now, now, now, now⟩

theorem overdue_reminder_sent_at_night :
    ∃ loaded, Notification.build overdue = .ok loaded ∧ loaded.category ≠ .critical ∧
      ¬ worker.RespectsRestrictions loaded { recipient := some sleeper } (standing Clock.hour) overdue := by
  refine ⟨_, rfl, by decide, fun respects => ?_⟩
  have clear := respects _ rfl sleeper rfl
  revert clear
  decide

theorem reminder_sent_in_the_morning :
    ∃ loaded, Notification.build overdue = .ok loaded ∧ loaded.category ≠ .critical ∧
      (∃ claim, worker.dispatched loaded { recipient := some sleeper } (standing (9 * Clock.hour)) overdue =
        some claim) ∧
      worker.RespectsRestrictions loaded { recipient := some sleeper } (standing (9 * Clock.hour)) overdue := by
  obtain ⟨loaded, built, ordinary, sent⟩ : ∃ loaded, Notification.build overdue = .ok loaded ∧
      loaded.category ≠ .critical ∧ loaded.channel = .sms ∧
      ∃ claim, worker.dispatched loaded { recipient := some sleeper } (standing (9 * Clock.hour)) overdue =
        some claim := ⟨_, rfl, by decide, rfl, _, rfl⟩
  refine ⟨loaded, built, ordinary, sent.2, ?_⟩
  apply (NotificationDeliveryProcessor.restrictions_hold_at_dispatch ordinary).mpr
  intro recipient unhindered forbidden
  obtain rfl : sleeper = recipient := Option.some.inj unhindered.found
  rw [sent.1] at forbidden
  exact absurd forbidden (by decide)

end DeliveryRuns

end Tiber
