import Tiber.Application.Dispatch
import Tiber.System.Punctuality

/-! Delivery while leases are respected: one holder, one call and one success at a time.

A worker that brings its claim to a recorded outcome before the lease lapses leaves the row
PROCESSING under its own time stamp all along. No first claim matches such a row, and a reclaim
needs a time stamp that is a lease old, so the row points at the one party at work on it.
-/

set_option autoImplicit false

namespace Tiber

open Library

def NotificationDeliveryProcessor.Permissive (processor : NotificationDeliveryProcessor) : Prop :=
  ∀ check ∈ processor.policyGuard, ∀ notification recipient constraint now,
    (check notification recipient constraint now).allowed = true

theorem NotificationDeliveryProcessor.Permissive.judge {processor : NotificationDeliveryProcessor}
    (permissive : processor.Permissive) (notification : Notification) (recipient : Recipient) (lookup : Lookup)
    (clock : Readings) : (processor.judge notification recipient lookup clock).allowed = true := by
  unfold NotificationDeliveryProcessor.judge
  split
  · rfl
  · rename_i check guarded
    exact permissive check guarded ..

namespace DeliveryRuns

variable (processor : NotificationDeliveryProcessor)

def Phase.claimed : Phase → Option Claim
  | .toSend claim | .sending claim | .toRecord claim _ => some claim
  | .idle | .judged .. | .claiming _ | .cancelling _ | .failing .. => none

def Event.atWork : Event → Bool
  | .send _ | .answer .. | .record .. | .abandon _ => true
  | .read .. | .saveVerdict _ | .claim _ | .readCancel .. | .cancel _ | .readFailure .. | .saveFailure _ => false

def Event.answers : Event → Bool
  | .answer .. => true
  | .read .. | .saveVerdict _ | .claim _ | .send _ | .record .. | .readCancel .. | .cancel _ | .readFailure ..
  | .saveFailure _ | .abandon _ => false

def Phase.Commits (recording : Recording) : Phase → Prop
  | .toRecord claim answer => (processor.outcome claim answer recording).isOk = true
  | .idle | .judged .. | .claiming _ | .toSend _ | .sending _ | .cancelling _ | .failing .. => True

/-- An execution of `process` or `cancel` goes on: at work it neither vanishes nor fails to record its outcome. -/
def Event.Finishes (state : State) : Event → Prop
  | .readFailure .. => False
  | .abandon party => (state.phase party).claimed = none
  | .record party recording => (state.phase party).Commits processor recording
  | .read .. | .saveVerdict _ | .claim _ | .send _ | .answer .. | .readCancel .. | .cancel _ | .saveFailure _ => True

/-- Besides, nothing happens once the lease of the worker that holds the claim has lapsed. -/
structure Leased (clocked : Clocked State Nat) (moment : Moment Event) : Prop where
  finishes : moment.event.Finishes processor clocked.state
  inTime : ∀ party ∈ clocked.state.holder, ∀ claim ∈ (clocked.state.phase party).claimed,
    moment.time < claim.processing.updatedAt + processor.processingLease

instance (recording : Recording) : (phase : Phase) → Decidable (phase.Commits processor recording)
  | .toRecord claim answer => inferInstanceAs (Decidable ((processor.outcome claim answer recording).isOk = true))
  | .idle | .judged .. | .claiming _ | .toSend _ | .sending _ | .cancelling _ | .failing .. =>
      inferInstanceAs (Decidable True)

instance (state : State) : (event : Event) → Decidable (event.Finishes processor state)
  | .readFailure .. => inferInstanceAs (Decidable False)
  | .abandon party => inferInstanceAs (Decidable ((state.phase party).claimed = none))
  | .record party recording => inferInstanceAs (Decidable ((state.phase party).Commits processor recording))
  | .read .. | .saveVerdict _ | .claim _ | .send _ | .answer .. | .readCancel .. | .cancel _ | .saveFailure _ =>
      inferInstanceAs (Decidable True)

instance (clocked : Clocked State Nat) (moment : Moment Event) : Decidable (Leased processor clocked moment) :=
  decidable_of_iff (moment.event.Finishes processor clocked.state ∧
      ∀ party ∈ clocked.state.holder, ∀ claim ∈ (clocked.state.phase party).claimed,
        moment.time < claim.processing.updatedAt + processor.processingLease)
    ⟨fun both => ⟨both.1, both.2⟩, fun leased => ⟨leased.finishes, leased.inTime⟩⟩

/-! ## The invariant -/

/-- What is known of a party by itself. `seen` is the latest time it has read. -/
def Phase.Regular (lease : Int) (seen : Instant) : Phase → Prop
  | .judged .. | .failing .. => False
  | .claiming claim => claim.expectedStatus = .processing →
      ∃ now, now ≤ seen ∧ claim.staleBefore = some (now - lease)
  | .toSend claim | .sending claim | .toRecord claim (some _) => claim.usableAddress.isSome = true
  | .toRecord _ none | .idle | .cancelling _ => True

/-- The row is PROCESSING exactly while one party is at work on it, under that party's time stamp. -/
structure Exclusive (lease : Int) (clocked : Clocked State Nat) : Prop where
  sound : Sound clocked.state
  regular : ∀ party, (clocked.state.phase party).Regular lease (clocked.seen party)
  holds : ∀ party, ∀ claim ∈ (clocked.state.phase party).claimed,
    clocked.state.holder = some party ∧ clocked.state.row.updatedAt = claim.processing.updatedAt
  works : ∀ party, clocked.state.holder = some party → (clocked.state.phase party).claimed.isSome = true
  held : clocked.state.row.status = .processing → clocked.state.holder.isSome = true
  successes : clocked.state.attempts.countP (·.status = .success) =
    if clocked.state.row.status = .delivered then 1 else 0

/-- Before its first execution: a notification that nobody has worked on. -/
structure Untouched (state : State) : Prop where
  fresh : state.Fresh
  unclaimed : state.row.status ≠ .processing
  undelivered : state.row.status ≠ .delivered
  unrecorded : state.attempts = []

variable {processor} {state next : State} {event : Event} {clocked after : Clocked State Nat}
  {moment : Moment Event} {lease : Int}

theorem Untouched.exclusive (untouched : Untouched clocked.state) : Exclusive lease clocked where
  sound := .of_fresh untouched.fresh
  regular party := by rw [untouched.fresh.1 party]; trivial
  holds party claim carried := by rw [untouched.fresh.1 party] at carried; cases carried
  works party holds := by rw [untouched.fresh.2] at holds; cases holds
  held processing := absurd processing untouched.unclaimed
  successes := by rw [untouched.unrecorded, if_neg untouched.undelivered]; rfl

namespace Exclusive

variable (exclusive : Exclusive lease clocked)

include exclusive

theorem processing {party : Nat} {claim : Claim} (carried : claim ∈ (clocked.state.phase party).claimed) :
    clocked.state.row.status = .processing :=
  exclusive.sound.held party (exclusive.holds party claim carried).1

theorem single {first second : Nat} {claim other : Claim} (one : claim ∈ (clocked.state.phase first).claimed)
    (two : other ∈ (clocked.state.phase second).claimed) : first = second :=
  Option.some.inj ((exclusive.holds first claim one).1.symm.trans (exclusive.holds second other two).1)

theorem nobody (status : clocked.state.row.status ≠ .processing) (party : Nat) :
    (clocked.state.phase party).claimed = none :=
  Option.eq_none_iff_forall_not_mem.mpr fun _ carried => status (exclusive.processing carried)

theorem free (status : clocked.state.row.status ≠ .processing) : clocked.state.holder = none := by
  cases holder : clocked.state.holder with
  | none => rfl
  | some party => exact absurd (exclusive.sound.held party holder) status

end Exclusive

/-! ## One step -/

theorem Leased.records {party : Nat} {recording : Recording} {time : Instant} {claim : Claim}
    {answer : Option ProviderAnswer} (leased : Leased processor clocked ⟨.record party recording, time⟩)
    (stands : clocked.state.phase party = .toRecord claim answer) :
    ∃ attempt updated, processor.outcome claim answer recording = .ok (attempt, updated) := by
  have commits : (clocked.state.phase party).Commits processor recording := leased.finishes
  rw [stands] at commits
  cases recorded : processor.outcome claim answer recording with
  | error failure =>
      simp only [Phase.Commits, recorded] at commits
      cases commits
  | ok result => exact ⟨result.1, result.2, rfl⟩

theorem step_aside (taken : step processor state event = some next) (aside : event.atWork = false) :
    (state.phase event.timing.party).claimed = none := by
  cases event <;> simp only [Event.atWork, reduceCtorEq] at aside <;> simp only [step] at taken <;>
    split at taken <;> rename_i stands <;> first
    | exact congrArg Phase.claimed stands
    | cases taken

theorem readPhase_regular (permissive : processor.Permissive) {lookup : Lookup} {clock : Readings} {seen : Instant}
    (now : clock.now ≤ seen) :
    (readPhase processor state lookup clock).Regular processor.processingLease seen ∧
      (readPhase processor state lookup clock).claimed = none := by
  cases read : readPhase processor state lookup clock with
  | idle => exact ⟨trivial, rfl⟩
  | claiming claim =>
      obtain ⟨loaded, -, prepared⟩ := readPhase_eq_claiming processor read
      obtain ⟨expected, -, -, cutoff⟩ := NotificationDeliveryProcessor.prepare_claim_fields prepared
      exact ⟨fun reclaim => ⟨clock.now, now, cutoff (expected ▸ reclaim)⟩, rfl⟩
  | judged loaded updated =>
      -- a guard that lets everything pass has no verdict to save
      have known := readPhase_as processor state lookup clock
      rw [read] at known
      cases known with
      | judged row prepared =>
          obtain ⟨notification, -, recipient, -, -, rejected, -⟩ :=
            NotificationDeliveryProcessor.prepare_verdict prepared
          rw [permissive.judge] at rejected
          cases rejected
  | toSend | sending | toRecord | cancelling | failing =>
      unfold readPhase at read
      split at read <;> cases read

theorem cancelPhase_regular (stamp seen : Instant) :
    (cancelPhase state stamp).Regular lease seen ∧ (cancelPhase state stamp).claimed = none := by
  unfold cancelPhase
  split
  · exact ⟨trivial, rfl⟩
  · exact ⟨trivial, rfl⟩

theorem claimedPhase_regular (claim : Claim) (seen : Instant) :
    (claimedPhase claim).Regular lease seen ∧ (claimedPhase claim).claimed = some claim := by
  unfold claimedPhase
  split
  · rename_i address
    exact ⟨address, rfl⟩
  · exact ⟨trivial, rfl⟩

theorem regular_update {phases : Nat → Phase} {seen later : Nat → Instant} {party : Nat} {phase : Phase}
    (regular : ∀ other, (phases other).Regular lease (seen other))
    (others : ∀ other, other ≠ party → later other = seen other) (own : phase.Regular lease (later party))
    (other : Nat) : (Function.update phases party phase other).Regular lease (later other) := by
  by_cases same : other = party
  · subst same
    rwa [Function.update_self]
  · rw [Function.update_of_ne same, others other same]
    exact regular other

/-- A committed outcome leaves the row out of PROCESSING, with a success stored exactly if it delivered. -/
theorem outcome_tally {claim : Claim} {answer : Option ProviderAnswer} {recording : Recording}
    {attempt : DeliveryAttempt} {updated : Notification} (processing : claim.processing.status = .processing)
    (recorded : processor.outcome claim answer recording = .ok (attempt, updated)) :
    updated.status ≠ .processing ∧ (attempt.status = .success ↔ updated.status = .delivered) ∧
      attempt.recipientAddress = if answer.isSome then claim.usableAddress else none := by
  obtain ⟨taken, status⟩ := NotificationDeliveryProcessor.outcome_eq_ok processing recorded
  obtain ⟨kind, address⟩ := NotificationDeliveryProcessor.recordAttempt_contact taken
  rw [status, kind, address]
  -- what the provider answered decides both statuses
  rcases answer with _ | ⟨_ | _, _, _⟩ | _ <;> refine ⟨?_, ?_, rfl⟩ <;>
    simp [NotificationDeliveryProcessor.contactOf, Contact.status, NotificationDeliveryProcessor.statusAfter]

namespace Exclusive

variable (exclusive : Exclusive lease clocked)

include exclusive

theorem goesOn {party : Nat} {phase : Phase} (same : after.state.phase = Function.update clocked.state.phase party phase)
    (row : after.state.row = clocked.state.row) (holder : after.state.holder = clocked.state.holder)
    (attempts : after.state.attempts = clocked.state.attempts) (sound : Sound after.state)
    (regular : phase.Regular lease (after.seen party)) (carries : phase.claimed = (clocked.state.phase party).claimed)
    (others : ∀ other, other ≠ party → after.seen other = clocked.seen other) : Exclusive lease after := by
  have still (other : Nat) : (after.state.phase other).claimed = (clocked.state.phase other).claimed := by
    rw [same, Function.update_apply]
    split
    · rename_i own
      rw [carries, own]
    · rfl
  refine ⟨sound, ?_, ?_, ?_, ?_, ?_⟩
  · rw [same]
    exact regular_update exclusive.regular others regular
  · intro other claim carried
    rw [still other] at carried
    rw [row, holder]
    exact exclusive.holds other claim carried
  · intro other holds
    rw [still other]
    exact exclusive.works other (holder ▸ holds)
  · rw [row, holder]
    exact exclusive.held
  · rw [row, attempts]
    exact exclusive.successes

/-- A claim that matches the row finds nobody at work on it. -/
theorem claimable (leased : Leased processor clocked moment) (same : processor.processingLease = lease)
    {party : Nat} {claim : Claim} {row : NotificationFields} (stands : clocked.state.phase party = .claiming claim)
    (now : clocked.seen party ≤ moment.time)
    (done : claimForDelivery clocked.state.row claim.processing claim.expectedStatus claim.staleBefore = .ok (some row)) :
    clocked.state.row.status ≠ .processing := by
  intro processing
  obtain ⟨matched, reclaimed⟩ := NotificationDeliveryProcessor.claimForDelivery_isSome_iff.mp ⟨row, done⟩
  -- a reclaim needs a row that is a lease old, and the lease of the party at work is not
  obtain ⟨cutoff, stale, old⟩ := reclaimed (matched ▸ processing)
  have regular := exclusive.regular party
  rw [stands] at regular
  obtain ⟨earlier, read, cut⟩ := regular (matched ▸ processing)
  obtain ⟨holder, holds⟩ := Option.isSome_iff_exists.mp (exclusive.held processing)
  obtain ⟨other, carried⟩ := Option.isSome_iff_exists.mp (exclusive.works holder holds)
  have inTime := leased.inTime holder holds other carried
  have stamp := (exclusive.holds holder other carried).2
  rw [cut] at stale
  cases stale
  rw [stamp, ← same] at old
  exact absurd inTime (Int.not_lt.mpr
    (Int.le_trans (Int.add_le_of_le_sub_right old) (Int.le_trans read now)))

theorem claims {party : Nat} {claim : Claim} {row : NotificationFields}
    (matched : clocked.state.row.status ≠ .processing) (live : clocked.state.row.status ≠ .delivered)
    (done : claimForDelivery clocked.state.row claim.processing claim.expectedStatus claim.staleBefore = .ok (some row))
    (same : after.state = { clocked.state.enter party (claimedPhase claim) with row, holder := some party })
    (sound : Sound after.state) (others : ∀ other, other ≠ party → after.seen other = clocked.seen other) :
    Exclusive lease after := by
  have phases : after.state.phase = Function.update clocked.state.phase party (claimedPhase claim) := by rw [same]; rfl
  have fields := NotificationDeliveryProcessor.claimForDelivery_fields done
  obtain ⟨regular, carries⟩ := claimedPhase_regular claim (after.seen party)
  have processing : after.state.row.status = .processing := sound.held party (by rw [same])
  refine ⟨sound, ?_, ?_, ?_, fun _ => by rw [same]; rfl, ?_⟩
  · rw [phases]
    exact regular_update exclusive.regular others regular
  · intro other carried member
    rw [phases, Function.update_apply] at member
    split at member
    · rename_i own
      rw [carries] at member
      cases member
      rw [same, own, fields]
      exact ⟨rfl, rfl⟩
    · rw [exclusive.nobody matched other] at member
      cases member
  · intro other holds
    rw [same] at holds
    cases holds
    rw [phases, Function.update_self, carries]
    rfl
  · rw [if_neg (by rw [processing]; nofun), same]
    exact exclusive.successes.trans (if_neg live)

theorem writes {party : Nat} {row : NotificationFields} {attempts : List DeliveryAttempt}
    (alone : ∀ other, other ≠ party → (clocked.state.phase other).claimed = none)
    (same : after.state = { clocked.state.write party row with attempts })
    (status : row.status ≠ .processing) (sound : Sound after.state)
    (successes : attempts.countP (·.status = .success) = if row.status = .delivered then 1 else 0)
    (others : ∀ other, other ≠ party → after.seen other = clocked.seen other) : Exclusive lease after := by
  have phases : after.state.phase = Function.update clocked.state.phase party .idle := by rw [same]; rfl
  have written : after.state.row = row := by rw [same]; rfl
  refine ⟨sound, ?_, ?_, fun other holds => ?_, fun processing => absurd (written ▸ processing) status, ?_⟩
  · rw [phases]
    exact regular_update exclusive.regular others trivial
  · intro other claim carried
    rw [phases, Function.update_apply] at carried
    split at carried
    · cases carried
    · rename_i different
      rw [alone other different] at carried
      cases carried
  · rw [same] at holds
    cases holds
  · rw [written, same]
    exact successes

theorem recorded {party : Nat} {recording : Recording} {time : Instant}
    (leased : Leased processor clocked ⟨.record party recording, time⟩)
    (taken : DeliveryRuns.step processor clocked.state (.record party recording) =
      some (clocked.state.enter party .idle)) : False := by
  simp only [DeliveryRuns.step] at taken
  split at taken
  · rename_i claim answer stands
    obtain ⟨attempt, updated, recorded⟩ := leased.records stands
    rw [recorded] at taken
    -- a committed outcome is no claim
    have given_up : none = clocked.state.holder := congrArg State.holder (Option.some.inj taken)
    have holder := (exclusive.holds party claim (by rw [stands]; rfl)).1
    cases given_up.trans holder
  · cases taken

/-- Whoever saves a snapshot is at work, so the row is as it left it. -/
theorem savesCurrent (event : Event) : SavesCurrent clocked.state event := by
  intro party _
  have regular := exclusive.regular party
  cases stands : clocked.state.phase party with
  | judged | failing => rw [stands] at regular; exact regular.elim
  | toRecord claim answer =>
      have known := exclusive.sound.phases party
      rw [stands] at known
      exact (exclusive.processing (by rw [stands]; rfl)).trans known.symm
  | idle | claiming | toSend | sending | cancelling => trivial

theorem step (permissive : processor.Permissive) (same : processor.processingLease = lease)
    (leased : Leased processor clocked moment) (taken : clockedStep processor clocked moment = some after) :
    Exclusive lease after := by
  obtain ⟨done, advance⟩ := Clocked.step_eq_some taken
  obtain ⟨event, time⟩ := moment
  obtain ⟨next, now, seen⟩ := after
  have sound : Sound next := exclusive.sound.step done
  have others := advance.others
  -- a step aside leaves the row alone
  have aside {party : Nat} {phase : Phase} (own : event.timing.party = party)
      (idle : (clocked.state.phase party).claimed = none) (moved : next = clocked.state.enter party phase)
      (regular : phase.Regular lease (seen party) ∧ phase.claimed = none) : Exclusive lease ⟨next, now, seen⟩ :=
    exclusive.goesOn (by rw [moved]; rfl) (by rw [moved]; rfl) (by rw [moved]; rfl)
      (by rw [moved]; rfl) sound regular.1 (regular.2.trans idle.symm) (own ▸ others)
  cases step_move done with
  | read party lookup clock =>
      refine aside rfl (step_aside done rfl) rfl (same ▸ readPhase_regular permissive ?_)
      exact (advance.after clock.now (.head _)).2
  | judged party loaded updated stands =>
      have regular := exclusive.regular party
      rw [stands] at regular
      exact regular.elim
  | claimed party claim row stands claimed =>
      have free := exclusive.claimable leased same stands advance.known claimed
      refine exclusive.claims free ?_ claimed rfl sound others
      have known := exclusive.sound.phases party
      rw [stands] at known
      have live : claim.expectedStatus.terminal = false := known.1
      intro delivered
      rw [← (claimForDelivery_eq_some claimed).1, delivered] at live
      cases live
  | contended party => exact aside rfl (step_aside done rfl) rfl ⟨trivial, rfl⟩
  | sent party claim stands =>
      refine exclusive.goesOn rfl rfl rfl rfl sound ?_ (by rw [stands]; rfl) others
      have regular := exclusive.regular party
      rwa [stands] at regular
  | answered party answer claim stands =>
      refine exclusive.goesOn rfl rfl rfl rfl sound ?_ (by rw [stands]; rfl) others
      have regular := exclusive.regular party
      rwa [stands] at regular
  | recorded party recording claim answer attempt updated stands recorded =>
      have known := exclusive.sound.phases party
      rw [stands] at known
      have carried : claim ∈ (clocked.state.phase party).claimed := by rw [stands]; rfl
      obtain ⟨status, success, -⟩ := outcome_tally known recorded
      refine exclusive.writes (fun other different => ?_) rfl status sound ?_ others
      · exact Option.eq_none_iff_forall_not_mem.mpr fun _ working =>
          different (exclusive.single working carried)
      · have before := exclusive.successes
        rw [if_neg (by rw [exclusive.processing carried]; nofun)] at before
        rw [List.countP_cons, before]
        simp only [decide_eq_true_eq, success, Nat.zero_add]
  | unrecorded party recording => exact (exclusive.recorded leased done).elim
  | readCancel party stamp =>
      exact aside rfl (step_aside done rfl) rfl (cancelPhase_regular stamp _)
  | cancelled party cancelled row stands cancelling =>
      obtain ⟨pending, fields⟩ := cancelPending_eq_some cancelling
      have known := exclusive.sound.phases party
      rw [stands] at known
      have status : row.status = .cancelled := by rw [fields]; exact known
      refine exclusive.writes (fun other _ => exclusive.nobody (by rw [pending]; nofun) other) rfl
        (by rw [status]; nofun) sound ?_ others
      rw [exclusive.successes, pending, status]
      rfl
  | uncancelled party => exact aside rfl (step_aside done rfl) rfl ⟨trivial, rfl⟩
  | readFailure party reason stamp => exact leased.finishes.elim
  | failed party loaded failed stands =>
      have regular := exclusive.regular party
      rw [stands] at regular
      exact regular.elim
  | abandoned party => exact aside rfl leased.finishes rfl ⟨trivial, rfl⟩

end Exclusive

/-! ## After a success and after a cancellation -/

def Settled (state : State) : Prop :=
  state.row.status.terminal = true ∨
    ∃ party claim identifier message, state.phase party = .toRecord claim (some (.result true identifier message))

theorem Settled.silent (exclusive : Exclusive lease clocked) (settled : Settled clocked.state)
    (taken : step processor clocked.state event = some next) (party : Nat) : event ≠ .send party := by
  rintro rfl
  obtain ⟨claim, ready⟩ := step_sent taken
  have carried : claim ∈ (clocked.state.phase party).claimed := by rw [ready]; rfl
  rcases settled with terminal | ⟨other, recording, identifier, message, stands⟩
  · rw [exclusive.processing carried] at terminal
    cases terminal
  · have same := exclusive.single (by rw [stands]; rfl) carried
    rw [← same, stands] at ready
    cases ready

theorem Settled.step (exclusive : Exclusive lease clocked) (settled : Settled clocked.state)
    (leased : Leased processor clocked moment) (taken : step processor clocked.state moment.event = some next) :
    Settled next := by
  rcases settled with terminal | ⟨party, claim, identifier, message, stands⟩
  · exact .inl (by rw [terminal_step exclusive.sound (exclusive.savesCurrent _) terminal taken]; exact terminal)
  · obtain ⟨phase, moved⟩ := step_phase taken
    by_cases own : party = moment.event.timing.party
    · -- the one thing left to do is to record the success
      obtain ⟨event, time⟩ := moment
      have carried : (clocked.state.phase party).claimed ≠ none := by rw [stands]; nofun
      cases event with
      | record other recording =>
          obtain rfl : party = other := own
          obtain ⟨attempt, updated, recorded⟩ := leased.records stands
          simp only [DeliveryRuns.step, stands, recorded] at taken
          cases taken
          have known := exclusive.sound.phases party
          rw [stands] at known
          refine .inl ?_
          rw [State.write, (NotificationDeliveryProcessor.outcome_eq_ok known recorded).2]
          rfl
      | abandon other => exact absurd (own ▸ leased.finishes) carried
      | send other | answer other answer =>
          obtain rfl : party = other := own
          simp only [DeliveryRuns.step, stands] at taken
          cases taken
      | read | saveVerdict | claim | readCancel | cancel | readFailure | saveFailure =>
          exact absurd (own ▸ step_aside taken rfl) carried
    · exact .inr ⟨party, claim, identifier, message, by rw [moved, Function.update_of_ne own, stands]⟩

/-! ## Calls and attempts -/

def Phase.answered : Phase → Bool
  | .toRecord _ (some _) => true
  | .toRecord _ none | .idle | .judged .. | .claiming _ | .toSend _ | .sending _ | .cancelling _ | .failing .. => false

/-- Recorded attempts that carry an address, and an answer that waits for its record. -/
def State.contacts (state : State) : Nat :=
  state.attempts.countP (·.recipientAddress.isSome) +
    if state.holder.any fun party => (state.phase party).answered then 1 else 0

theorem carried_of_answered {phase : Phase} (answered : phase.answered = true) : phase.claimed.isSome = true := by
  cases phase with
  | toRecord claim answer => rfl
  | idle | judged | claiming | toSend | sending | cancelling | failing => cases answered

theorem State.contacts_of_free (holder : state.holder = none) :
    state.contacts = state.attempts.countP (·.recipientAddress.isSome) := by
  rw [State.contacts, holder]
  rfl

theorem State.contacts_of_held {party : Nat} (holder : state.holder = some party) :
    state.contacts = state.attempts.countP (·.recipientAddress.isSome) +
      if (state.phase party).answered then 1 else 0 := by
  rw [State.contacts, holder]
  rfl

namespace Exclusive

variable (exclusive : Exclusive lease clocked)

include exclusive

theorem contacts_aside {party : Nat} {phase : Phase} (idle : (clocked.state.phase party).claimed = none) :
    (clocked.state.enter party phase).contacts = clocked.state.contacts := by
  cases holder : clocked.state.holder with
  | none => simp only [State.contacts, State.enter, holder, Option.any_none]
  | some other =>
      have different : other ≠ party := by
        rintro rfl
        have works := exclusive.works other holder
        rw [idle] at works
        cases works
      simp only [State.contacts, State.enter, holder, Option.any_some, Function.update_of_ne different]

theorem contacts_step (leased : Leased processor clocked moment) (same : processor.processingLease = lease)
    (taken : clockedStep processor clocked moment = some after) :
    after.state.contacts = clocked.state.contacts + if moment.event.answers then 1 else 0 := by
  obtain ⟨done, advance⟩ := Clocked.step_eq_some taken
  obtain ⟨event, time⟩ := moment
  obtain ⟨next, now, seen⟩ := after
  have holds {party : Nat} {claim : Claim} (carried : claim ∈ (clocked.state.phase party).claimed) :=
    State.contacts_of_held (exclusive.holds party claim carried).1
  cases step_move done with
  | read party | contended party | readCancel party | uncancelled party =>
      exact exclusive.contacts_aside (step_aside done rfl)
  | abandoned party => exact exclusive.contacts_aside leased.finishes
  | judged party loaded updated stands | failed party loaded updated stands =>
      have regular := exclusive.regular party
      rw [stands] at regular
      exact regular.elim
  | readFailure party reason stamp => exact leased.finishes.elim
  | claimed party claim row stands claimed =>
      have free := exclusive.free (exclusive.claimable leased same stands advance.known claimed)
      have unanswered : (claimedPhase claim).answered = false := by
        unfold claimedPhase
        split <;> rfl
      rw [State.contacts_of_free free, State.contacts_of_held rfl]
      simp only [State.enter, Function.update_self, unanswered]
      rfl
  | sent party claim stands =>
      have holder := (exclusive.holds party claim (by rw [stands]; rfl)).1
      simp only [State.contacts, State.enter, holder, Option.any_some, Function.update_self, stands]
      rfl
  | answered party answer claim stands =>
      have holder := (exclusive.holds party claim (by rw [stands]; rfl)).1
      simp only [State.contacts, holder, Option.any_some, Function.update_self, stands]
      rfl
  | recorded party recording claim answer attempt updated stands recorded =>
      have known := exclusive.sound.phases party
      have regular := exclusive.regular party
      rw [stands] at known regular
      obtain ⟨-, -, address⟩ := outcome_tally known recorded
      rw [holds (by rw [stands]; rfl), State.contacts_of_free rfl, stands,
        List.countP_cons, address]
      cases answer with
      | none => rfl
      | some answer =>
          have addressed : claim.usableAddress.isSome = true := regular
          simp only [Option.isSome_some, if_true, addressed, Phase.answered]
          rfl
  | unrecorded party recording => exact (exclusive.recorded leased done).elim
  | cancelled party cancelled row stands cancelling =>
      obtain ⟨pending, -⟩ := cancelPending_eq_some cancelling
      rw [State.contacts_of_free (exclusive.free (by simp [pending])), State.contacts_of_free rfl]
      rfl

end Exclusive

/-! ## Whole runs -/

structure DeliveredOnce (processor : NotificationDeliveryProcessor) (start : Clocked State Nat)
    (moments : List (Moment Event)) (final : State) : Prop where
  /-- At most one worker holds a claim. -/
  oneHolder : ∀ first second, (final.phase first).inFlight = true → (final.phase second).inFlight = true → first = second
  /-- No two provider calls overlap. -/
  oneCall : ∀ first second claim other, final.phase first = .sending claim → final.phase second = .sending other →
    first = second
  /-- No call begins after one that returned success. -/
  afterSuccess : ∀ before later party identifier message time,
    moments = before ++ ⟨.answer party (.result true identifier message), time⟩ :: later →
    ∀ moment ∈ later, ∀ caller, moment.event ≠ .send caller
  /-- No call begins after a cancellation that returned normally. -/
  afterCancel : ∀ before later party time middle cancelled row,
    moments = before ++ ⟨.cancel party, time⟩ :: later →
    Machine.run (clockedStep processor) start before = some middle →
    middle.state.phase party = .cancelling cancelled → cancelPending middle.state.row cancelled = some row →
    ∀ moment ∈ later, ∀ caller, moment.event ≠ .send caller
  /-- Each finished call is one recorded attempt with an address, or is about to be. -/
  contacts : (∀ party, (final.phase party).answered = false) →
    final.attempts.countP (·.recipientAddress.isSome) = moments.countP (·.event.answers)
  waiting : ∀ party, (final.phase party).answered = true →
    final.attempts.countP (·.recipientAddress.isSome) + 1 = moments.countP (·.event.answers)
  /-- DELIVERED means one recorded success. -/
  delivered : final.row.status = .delivered ↔ final.attempts.countP (·.status = .success) = 1

theorem inFlight_iff_carried {phase : Phase} : phase.inFlight = true ↔ ∃ claim, claim ∈ phase.claimed := by
  cases phase <;> simp [Phase.inFlight, Phase.claimed]

theorem exclusive_keeps (permissive : processor.Permissive) :
    Machine.Keeps (clockedStep processor) (Leased processor) (Exclusive processor.processingLease) :=
  fun _ _ _ exclusive leased taken => exclusive.step permissive rfl leased taken

theorem silent_after {start final : Clocked State Nat} {before later : List (Moment Event)}
    (permissive : processor.Permissive) (exclusive : Exclusive processor.processingLease start)
    (leased : Machine.Along (clockedStep processor) (Leased processor) start (before ++ moment :: later))
    (reached : Machine.run (clockedStep processor) start (before ++ moment :: later) = some final)
    (settles : ∀ middle next, Machine.run (clockedStep processor) start before = some middle →
      Exclusive processor.processingLease middle → step processor middle.state moment.event = some next →
      Settled next) : ∀ other ∈ later, ∀ caller, other.event ≠ .send caller := by
  have keeps : Machine.Keeps (clockedStep processor) (Leased processor) fun clocked =>
      Exclusive processor.processingLease clocked ∧ Settled clocked.state := by
    rintro clocked moment after ⟨exclusive, settled⟩ leased taken
    exact ⟨exclusive.step permissive rfl leased taken,
      settled.step exclusive leased (Clocked.step_eq_some taken).1⟩
  obtain ⟨middle, next, ran, taken, onward⟩ := Machine.run_through.mp reached
  obtain ⟨first, along⟩ := Machine.along_append leased ran
  have held := (exclusive_keeps permissive).run exclusive first ran
  have settled := settles middle next.state ran held (Clocked.step_eq_some taken).1
  refine keeps.events (fun moment => ∀ caller, moment.event ≠ .send caller) ?_
    ⟨held.step permissive rfl along.1 taken, settled⟩ (along.2 next taken) onward
  rintro clocked moment after ⟨exclusive, settled⟩ - taken caller
  exact settled.silent exclusive (Clocked.step_eq_some taken).1 caller

/-- Any number of executions of `process` and `cancel` on an untouched notification deliver it at most
once, one call at a time, as long as every claim is brought to its recorded outcome within its lease. -/
theorem delivered_once {start final : Clocked State Nat} {moments : List (Moment Event)}
    (permissive : processor.Permissive) (untouched : Untouched start.state)
    (leased : Machine.Along (clockedStep processor) (Leased processor) start moments)
    (reached : Machine.run (clockedStep processor) start moments = some final) :
    DeliveredOnce processor start moments final.state := by
  have keeps := exclusive_keeps permissive
  have exclusive := keeps.run untouched.exclusive leased reached
  have contacts := keeps.counts (fun clocked => clocked.state.contacts) (fun moment => moment.event.answers)
    (fun _ _ _ exclusive leased taken => exclusive.contacts_step leased rfl taken) untouched.exclusive leased reached
  have none_before : start.state.contacts = 0 := by
    rw [State.contacts_of_free untouched.fresh.2, untouched.unrecorded]
    rfl
  rw [none_before, Nat.zero_add] at contacts
  constructor
  · intro first second one two
    obtain ⟨claim, one⟩ := inFlight_iff_carried.mp one
    obtain ⟨other, two⟩ := inFlight_iff_carried.mp two
    exact exclusive.single one two
  · intro first second claim other one two
    exact exclusive.single (by rw [one]; rfl) (by rw [two]; rfl)
  · rintro before later party identifier message time rfl
    refine silent_after permissive untouched.exclusive leased reached fun middle next _ _ taken => ?_
    -- the party that has just heard of a success is about to record it
    cases step_move taken with
    | answered _ _ claim stands =>
        exact .inr ⟨party, claim, identifier, message, Function.update_self ..⟩
  · rintro before later party time middle cancelled row rfl ran stands done
    refine silent_after permissive untouched.exclusive leased reached fun other next same held taken => ?_
    cases ran.symm.trans same
    simp only [step, stands, done] at taken
    cases taken
    have known := held.sound.phases party
    rw [stands] at known
    refine .inl ?_
    rw [State.write, (cancelPending_eq_some done).2, show cancelled.status = .cancelled from known]
    rfl
  · intro nobody
    rw [← contacts]
    cases holder : final.state.holder with
    | none => exact (State.contacts_of_free holder).symm
    | some party => rw [State.contacts_of_held holder, nobody party]; rfl
  · intro party answered
    obtain ⟨claim, carried⟩ := Option.isSome_iff_exists.mp (carried_of_answered answered)
    rw [← contacts, State.contacts_of_held (exclusive.holds party claim carried).1, answered]
    rfl
  · rw [exclusive.successes]
    split
    · rename_i delivered
      exact iff_of_true delivered rfl
    · rename_i undelivered
      exact iff_of_false undelivered Nat.zero_ne_one

/-! ## One delivery -/

def unguarded : NotificationDeliveryProcessor where
  provider := "twilio".toList
  saveAttempt _ := .ok ()

def atNine : Clocked State Nat where
  state := accepted
  now := 9 * Clock.hour
  seen _ := 9 * Clock.hour

/-- Nine o'clock: one worker delivers the reminder within a second, and a duplicate job finds it done. -/
def deliveredAtNine : List (Moment Event) :=
  [⟨reading 0 (9 * Clock.hour), 9 * Clock.hour⟩, ⟨.claim 0, 9 * Clock.hour⟩, ⟨.send 0, 9 * Clock.hour⟩,
    ⟨.answer 0 (.result true none none), 9 * Clock.hour⟩, ⟨recording 0 (9 * Clock.hour), 9 * Clock.hour⟩,
    ⟨reading 1 (10 * Clock.hour), 10 * Clock.hour⟩]

theorem reminder_delivered_once :
    ∃ final, Machine.run (clockedStep unguarded) atNine deliveredAtNine = some final ∧
      DeliveredOnce unguarded atNine deliveredAtNine final.state ∧ final.state.row.status = .delivered := by
  refine ⟨_, rfl, ?_, by decide⟩
  refine @delivered_once unguarded atNine _ deliveredAtNine (fun _ guarded => nomatch guarded)
    ⟨⟨fun _ => rfl, rfl⟩, by decide, by decide, rfl⟩ (by decide) rfl

end DeliveryRuns

end Tiber
