import Tiber.Library.Clocked
import Tiber.System.DeliverySafety

/-! Delivery under one clock: whether a provider call can begin before the send time in the row.

A worker compares the send time it read with the clock it reads, and then acts on both later.
The claim in between compares the status alone, so another worker can move the send time on
between the check and the call.
-/

set_option autoImplicit false

namespace Tiber.DeliveryRuns

open Library

/-- A first transaction reads the clock behind its look at the row, an outcome in front of its write. -/
def Event.timing : Event → Timing Nat
  | .read party _ clock =>
      { party, after := [clock.now, clock.resumed, clock.policy, clock.verdict, clock.content, clock.claimed] }
  | .record party recording => { party, before := [recording.attempted, recording.delivered, recording.updated] }
  | .readCancel party stamp | .readFailure party _ stamp => { party, after := [stamp] }
  | .saveVerdict party | .claim party | .send party | .answer party _ | .cancel party | .saveFailure party
  | .abandon party => { party }

variable (processor : NotificationDeliveryProcessor)

def clockedStep : Clocked State Nat → Moment Event → Option (Clocked State Nat) :=
  Clocked.step Event.timing (step processor)

/-! ## The condition -/

/-- No send time at all is the earliest one. -/
def NoLater (first second : Option Instant) : Prop := ∀ sendAt ∈ first, ∃ known ∈ second, sendAt ≤ known

def Phase.underway : Phase → Option Claim
  | .claiming claim | .toSend claim => some claim
  | .idle | .judged .. | .sending _ | .toRecord .. | .cancelling _ | .failing .. => none

def Phase.saves : Phase → Option (Option Instant)
  | .judged _ updated => some updated.sendAt
  | .toRecord claim _ => some claim.processing.sendAt
  | .failing _ failed => some failed.sendAt
  | .idle | .claiming _ | .toSend _ | .sending _ | .cancelling _ => none

/-- A claim that matches the row finds no later send time than its worker read, and no snapshot is
saved with a later one than another worker has claimed the row under and is about to act on. -/
structure Undisturbed (state : State) (event : Event) : Prop where
  claimed : ∀ party claim, event = .claim party → state.phase party = .claiming claim →
    state.row.status = claim.expectedStatus → NoLater state.row.sendAt claim.processing.sendAt
  saved : ∀ party sendAt, event.saver = some party → (state.phase party).saves = some sendAt →
    ∀ other claim, other ≠ party → state.phase other = .toSend claim → NoLater sendAt claim.processing.sendAt

/-! ## The invariant -/

/-- Whoever is on its way to the provider has seen the send time pass, and whoever has claimed the
row on that way still finds no later one in it. -/
structure Punctual (clocked : Clocked State Nat) : Prop where
  due : ∀ party, ∀ claim ∈ (clocked.state.phase party).underway,
    claim.processing.sendAt.all (· ≤ clocked.seen party) = true
  current : ∀ party claim, clocked.state.phase party = .toSend claim →
    NoLater clocked.state.row.sendAt claim.processing.sendAt

variable {processor} {state next : State} {event : Event}

theorem all_le_trans {sendAt : Option Instant} {first second : Instant} (passed : sendAt.all (· ≤ first) = true)
    (onward : first ≤ second) : sendAt.all (· ≤ second) = true := by
  cases sendAt with
  | none => rfl
  | some sendAt =>
      simp only [Option.all_some, decide_eq_true_eq] at passed ⊢
      exact Int.le_trans passed onward

theorem NoLater.passed {first second : Option Instant} {time : Instant} (ordered : NoLater first second)
    (passed : second.all (· ≤ time) = true) : first.all (· ≤ time) = true := by
  cases first with
  | none => rfl
  | some sendAt =>
      obtain ⟨known, rfl, before⟩ := ordered sendAt rfl
      simp only [Option.all_some, decide_eq_true_eq] at passed ⊢
      exact Int.le_trans before passed

theorem step_phase (taken : step processor state event = some next) :
    ∃ phase, next.phase = Function.update state.phase event.timing.party phase := by
  cases step_move taken <;> exact ⟨_, rfl⟩

theorem claiming_sendAt {lookup : Lookup} {clock : Readings} {claim : Claim}
    (read : readPhase processor state lookup clock = .claiming claim) :
    claim.processing.sendAt = state.row.sendAt := by
  obtain ⟨loaded, same, prepared⟩ := readPhase_eq_claiming processor read
  rw [(NotificationDeliveryProcessor.prepare_claim_fields prepared).2.2.1, same]

/-- A party is on its way because it has just checked the send time, or was so before. -/
theorem step_underway (taken : step processor state event = some next) {claim : Claim}
    (underway : (next.phase event.timing.party).underway = some claim) :
    (∃ party lookup clock, event = .read party lookup clock ∧
        claim.processing.sendAt.all (· ≤ clock.now) = true) ∨
      (state.phase event.timing.party).underway = some claim := by
  cases step_move taken with
  | read party lookup clock =>
      refine .inl ⟨party, lookup, clock, rfl, ?_⟩
      simp only [Event.timing, State.enter, Function.update_self] at underway
      -- a first transaction leaves for the provider with a claim only
      cases read : readPhase processor state lookup clock with
      | claiming made =>
          rw [read] at underway
          cases underway
          obtain ⟨loaded, -, prepared⟩ := readPhase_eq_claiming processor read
          obtain ⟨-, due, fields, -⟩ := NotificationDeliveryProcessor.prepare_claim_fields prepared
          rw [fields]
          exact due
      | toSend made =>
          unfold readPhase at read
          split at read <;> cases read
      | idle | judged | sending | toRecord | cancelling | failing => rw [read] at underway; cases underway
  | claimed party made row stands done =>
      simp only [Event.timing, State.enter, Function.update_self, claimedPhase] at underway
      refine .inr ?_
      split at underway
      · cases underway
        simp only [Event.timing, stands, Phase.underway]
      · cases underway
  | readCancel party stamp =>
      simp only [Event.timing, State.enter, Function.update_self, cancelPhase] at underway
      split at underway <;> cases underway
  | readFailure party reason stamp =>
      simp only [Event.timing, State.enter, Function.update_self, failurePhase] at underway
      repeat' split at underway
      all_goals cases underway
  | judged | contended | sent | answered | recorded | unrecorded | cancelled | uncancelled | failed | abandoned =>
      simp [Event.timing, State.enter, State.write, Phase.underway] at underway

/-- What an event writes to the send time: a claim and a cancellation leave it, a snapshot brings its own. -/
theorem step_sendAt (taken : step processor state event = some next) :
    next.row.sendAt = state.row.sendAt ∨
      ∃ party, event.saver = some party ∧ event.timing.party = party ∧
        (state.phase party).saves = some next.row.sendAt := by
  cases step_move taken with
  | judged party loaded updated stands => exact .inr ⟨party, rfl, rfl, by rw [stands]; rfl⟩
  | claimed party claim row stands done =>
      refine .inl ?_
      rw [NotificationDeliveryProcessor.claimForDelivery_fields done]
  | recorded party recording claim answer attempt updated stands done =>
      refine .inr ⟨party, rfl, rfl, ?_⟩
      have same : updated.sendAt = claim.processing.sendAt := by
        rw [NotificationDeliveryProcessor.outcome_fields done]
      rw [stands]
      exact congrArg some same.symm
  | cancelled party cancelled row stands done =>
      refine .inl ?_
      rw [(cancelPending_eq_some done).2]
      rfl
  | failed party loaded failed stands => exact .inr ⟨party, rfl, rfl, by rw [stands]; rfl⟩
  | read | contended | sent | answered | unrecorded | readCancel | uncancelled | readFailure | abandoned =>
      exact .inl rfl

theorem step_sent {party : Nat} (taken : step processor state (.send party) = some next) :
    ∃ claim, state.phase party = .toSend claim := by
  cases step_move taken with
  | sent _ claim stands => exact ⟨claim, stands⟩

theorem step_toSend (taken : step processor state event = some next) {claim : Claim}
    (ready : next.phase event.timing.party = .toSend claim) :
    event = .claim event.timing.party ∧ state.phase event.timing.party = .claiming claim ∧
      state.row.status = claim.expectedStatus := by
  cases step_move taken with
  | claimed party made row stands done =>
      simp only [Event.timing, State.enter, Function.update_self, claimedPhase] at ready
      split at ready
      · cases ready
        exact ⟨rfl, stands, (claimForDelivery_eq_some done).1⟩
      · cases ready
  | read party lookup clock =>
      simp only [Event.timing, State.enter, Function.update_self, readPhase] at ready
      split at ready <;> cases ready
  | readCancel party stamp =>
      simp only [Event.timing, State.enter, Function.update_self, cancelPhase] at ready
      split at ready <;> cases ready
  | readFailure party reason stamp =>
      simp only [Event.timing, State.enter, Function.update_self, failurePhase] at ready
      repeat' split at ready
      all_goals cases ready
  | judged | contended | sent | answered | recorded | unrecorded | cancelled | uncancelled | failed | abandoned =>
      simp [Event.timing, State.enter, State.write] at ready

theorem Punctual.of_fresh {clocked : Clocked State Nat} (fresh : clocked.state.Fresh) : Punctual clocked where
  due party claim underway := by rw [fresh.1 party] at underway; cases underway
  current party claim ready := by rw [fresh.1 party] at ready; cases ready

theorem Punctual.step {clocked after : Clocked State Nat} {moment : Moment Event} (punctual : Punctual clocked)
    (undisturbed : Undisturbed clocked.state moment.event)
    (taken : clockedStep processor clocked moment = some after) : Punctual after := by
  obtain ⟨done, advance⟩ := Clocked.step_eq_some taken
  obtain ⟨phase, moved⟩ := step_phase done
  have still {other : Nat} (different : other ≠ moment.event.timing.party) :
      after.state.phase other = clocked.state.phase other := by
    rw [moved, Function.update_of_ne different]
  constructor
  · intro party claim underway
    by_cases own : party = moment.event.timing.party
    · subst own
      rcases step_underway done underway with ⟨party, lookup, clock, read, due⟩ | before
      · refine all_le_trans due (advance.after clock.now ?_).2
        rw [read]
        exact .head _
      · exact all_le_trans (punctual.due _ claim before) (Int.le_trans advance.known advance.kept)
    · rw [advance.others party own]
      exact punctual.due party claim (still own ▸ underway)
  · intro party claim ready
    by_cases own : party = moment.event.timing.party
    · -- it has claimed the row just now, and the claim left the send time as it was
      subst own
      obtain ⟨claims, stands, matched⟩ := step_toSend done ready
      have known := undisturbed.claimed _ claim claims stands matched
      rcases step_sendAt done with same | ⟨saver, saves, -⟩
      · rwa [same]
      · rw [claims] at saves
        cases saves
    · have before := still own ▸ ready
      rcases step_sendAt done with same | ⟨saver, saves, own', written⟩
      · rw [same]
        exact punctual.current party claim before
      · exact undisturbed.saved saver _ saves written party claim (own' ▸ own) before

/-- No provider call begins before the send time in the row, in any run in which no worker has the
row rescheduled under it. -/
theorem never_early {start middle final : Clocked State Nat} {moments : List (Moment Event)} {party : Nat}
    {time : Instant} (fresh : start.state.Fresh)
    (undisturbed : Machine.Along (clockedStep processor) (fun clocked moment => Undisturbed clocked.state moment.event)
      start moments)
    (reached : Machine.run (clockedStep processor) start moments = some middle)
    (called : clockedStep processor middle ⟨.send party, time⟩ = some final) :
    middle.state.row.sendAt.all (· ≤ time) = true := by
  have keeps : Machine.Keeps (clockedStep processor) (fun clocked moment => Undisturbed clocked.state moment.event)
      Punctual := fun _ _ _ punctual allowed taken => punctual.step allowed taken
  have punctual := keeps.run (.of_fresh fresh) undisturbed reached
  obtain ⟨done, advance⟩ := Clocked.step_eq_some called
  obtain ⟨claim, ready⟩ := step_sent done
  have due := punctual.due party claim (by rw [ready]; rfl)
  exact (punctual.current party claim ready).passed (all_le_trans due advance.known)

/-! ## Nine o'clock: a reminder comes due while the project gets new quiet hours -/

def morningBreak : DeliveryConstraint where
  projectId := 1
  quietHours := [⟨"break", 9 * Clock.hour, 11 * Clock.hour, .sms, by decide⟩]
  timezone := .fixed 0

def dueAtNine : Clocked State Nat where
  state := { row := { reminder with status := .postponed, sendAt := some (9 * Clock.hour) } }
  now := 9 * Clock.hour
  seen _ := 9 * Clock.hour

/-- One worker finds the reminder due; another one finds the new quiet hours and postpones it once
more; then the first one claims it, as POSTPONED as before. -/
def postponedMeanwhile : List (Moment Event) :=
  [⟨reading 0 (9 * Clock.hour), 9 * Clock.hour⟩,
    ⟨.read 1 { recipient := some sleeper, constraint := some morningBreak }
      ⟨9 * Clock.hour, 9 * Clock.hour, 9 * Clock.hour, 9 * Clock.hour, 9 * Clock.hour, 9 * Clock.hour⟩,
      9 * Clock.hour⟩,
    ⟨.saveVerdict 1, 9 * Clock.hour⟩, ⟨.claim 0, 9 * Clock.hour⟩]

theorem postponed_reminder_sent_early :
    dueAtNine.state.Fresh ∧ ∃ middle final,
      Machine.run (clockedStep worker) dueAtNine postponedMeanwhile = some middle ∧
      clockedStep worker middle ⟨.send 0, 9 * Clock.hour⟩ = some final ∧
      middle.state.row.sendAt = some (11 * Clock.hour + 5 * Clock.minute) ∧
      ¬ middle.state.row.sendAt.all (· ≤ 9 * Clock.hour) = true :=
  ⟨⟨fun _ => rfl, rfl⟩, _, _, rfl, rfl, by decide, by decide⟩

theorem reminder_sent_on_time :
    ∃ middle final,
      Machine.run (clockedStep worker) dueAtNine
        [⟨reading 0 (9 * Clock.hour), 9 * Clock.hour⟩, ⟨.claim 0, 9 * Clock.hour⟩] = some middle ∧
      clockedStep worker middle ⟨.send 0, 10 * Clock.hour⟩ = some final ∧
      middle.state.row.sendAt.all (· ≤ 10 * Clock.hour) = true := by
  refine ⟨_, _, rfl, rfl, ?_⟩
  refine @never_early worker dueAtNine _ _
    [⟨reading 0 (9 * Clock.hour), 9 * Clock.hour⟩, ⟨.claim 0, 9 * Clock.hour⟩] 0 (10 * Clock.hour)
    ⟨fun _ => rfl, rfl⟩ ?_ rfl rfl
  refine ⟨⟨fun _ _ same => (nomatch same), fun _ _ same => (nomatch same)⟩, fun next taken =>
    ⟨⟨?_, fun _ _ same => (nomatch same)⟩, fun _ _ => trivial⟩⟩
  -- the claim finds the row that its worker has just read
  have read : _ = next.state := Option.some.inj (Clocked.step_eq_some taken).1
  rintro party claim same stands -
  cases same
  rw [← read] at stands ⊢
  have found : readPhase worker dueAtNine.state { recipient := some sleeper }
      ⟨9 * Clock.hour, 9 * Clock.hour, 9 * Clock.hour, 9 * Clock.hour, 9 * Clock.hour, 9 * Clock.hour⟩ =
      .claiming claim := stands
  rw [claiming_sendAt found]
  exact fun sendAt member => ⟨sendAt, member, Int.le_refl _⟩

end Tiber.DeliveryRuns
