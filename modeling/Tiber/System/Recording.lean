import Tiber.Infrastructure.DeliveryAttemptRow
import Tiber.System.DeliverySafety

/-! Recording contacts with the repository the worker is wired with.

The repository cannot map an attempt, so every outcome transaction rolls back:
a message may have left the building, and the row stays PROCESSING.
-/

set_option autoImplicit false

namespace Tiber

open Library

variable {provider : Text} {lease : Int} {flush : DeliveryAttemptModel → Checked Unit}

/-! ## One outcome transaction -/

/-- The outcome transaction commits one attempt with the new status, and a success means delivered. -/
def NotificationDeliveryProcessor.Records (processor : NotificationDeliveryProcessor) (claim : Claim)
    (answer : Option ProviderAnswer) (recording : Recording) : Prop :=
  ∃ attempt updated, processor.outcome claim answer recording = .ok (attempt, updated) ∧
    ∀ identifier message, answer = some (.result true identifier message) →
      updated.status = .delivered ∧ attempt.status = .success

namespace NotificationDeliveryProcessor

theorem recordAttempt_fails {processing : Notification} {contact : Contact} {recording : Recording}
    {attempt : DeliveryAttempt} :
    (storedWorkerProcessor provider lease flush).recordAttempt processing contact recording ≠ .ok attempt := by
  intro recorded
  obtain ⟨created, -, saving⟩ := Checked.bind_eq_ok.mp recorded
  obtain ⟨_, saved, -⟩ := Checked.bind_eq_ok.mp saving
  obtain ⟨row, mapped, -⟩ := Checked.bind_eq_ok.mp saved
  rw [created.toModel_fails] at mapped
  cases mapped

theorem outcome_fails {claim : Claim} {answer : Option ProviderAnswer} {recording : Recording}
    {result : DeliveryAttempt × Notification} :
    (storedWorkerProcessor provider lease flush).outcome claim answer recording ≠ .ok result := by
  intro recorded
  unfold outcome at recorded
  split at recorded <;>
    (obtain ⟨attempt, saved, -⟩ := Checked.bind_eq_ok.mp recorded
     exact recordAttempt_fails saved)

end NotificationDeliveryProcessor

/-- No attempt is mapped, in either direction, and no contact is recorded, whatever came of it. -/
theorem contact_never_recorded :
    (∀ stored attempt, ¬ DeliveryAttempt.Mapped stored attempt) ∧
    ∀ claim answer recording, ¬ (storedWorkerProcessor provider lease flush).Records claim answer recording := by
  refine ⟨?_, ?_⟩
  · rintro stored attempt ⟨row, mapped, -⟩
    rw [attempt.toModel_fails] at mapped
    cases mapped
  · rintro claim answer recording ⟨attempt, updated, recorded, -⟩
    exact NotificationDeliveryProcessor.outcome_fails recorded

/-! ## Whole runs -/

namespace DeliveryRuns

/-- The status the next write of a phase leaves behind, the outcome transaction apart. -/
def Phase.target : Phase → Option NotificationStatus
  | .judged _ updated => some updated.status
  | .claiming claim => some claim.processing.status
  | .cancelling cancelled => some cancelled.status
  | .failing _ failed => some failed.status
  | .idle | .toSend _ | .sending _ | .toRecord .. => none

structure Unrecorded (attempts : List DeliveryAttempt) (state : State) : Prop where
  attempts : state.attempts = attempts
  row : state.row.status ≠ .delivered
  targets : ∀ party, (state.phase party).target ≠ some .delivered

variable {attempts : List DeliveryAttempt} {state : State}

theorem targets_update (targets : ∀ party, (state.phase party).target ≠ some .delivered) (party : Nat)
    {phase : Phase} (target : phase.target ≠ some .delivered) (other : Nat) :
    (Function.update state.phase party phase other).target ≠ some .delivered := by
  by_cases same : other = party
  · rw [same, Function.update_self]; exact target
  · rw [Function.update_of_ne same]; exact targets other

theorem Unrecorded.enter (unrecorded : Unrecorded attempts state) (party : Nat) {phase : Phase}
    (target : phase.target ≠ some .delivered) : Unrecorded attempts (state.enter party phase) :=
  ⟨unrecorded.attempts, unrecorded.row, targets_update unrecorded.targets party target⟩

theorem Unrecorded.write (unrecorded : Unrecorded attempts state) (party : Nat) {row : NotificationFields}
    (status : row.status ≠ .delivered) : Unrecorded attempts (state.write party row) :=
  ⟨unrecorded.attempts, status, targets_update unrecorded.targets party nofun⟩

theorem readPhase_target (processor : NotificationDeliveryProcessor) (state : State) (lookup : Lookup)
    (clock : Readings) : (readPhase processor state lookup clock).target ≠ some .delivered := by
  have sound := readPhase_sound processor state lookup clock
  have known := readPhase_as processor state lookup clock
  generalize readPhase processor state lookup clock = phase at sound known ⊢
  cases known with
  | ended => simp [Phase.target]
  | judged row prepared =>
      obtain ⟨_, _, _, -, -, -, applied⟩ := NotificationDeliveryProcessor.prepare_verdict prepared
      rcases NotificationDeliveryProcessor.applyVerdict_status applied with status | status <;>
        simp [Phase.target, status]
  | claiming row prepared => simp [Phase.target, sound.2]

theorem failurePhase_target (state : State) (reason : String) (stamp : Instant) :
    (failurePhase state reason stamp).target ≠ some .delivered := by
  unfold failurePhase
  split
  · nofun
  · split
    · split
      · rename_i failed marked
        simp [Phase.target, (Notification.markFailed_eq_ok.mp marked).2.2]
      · nofun
    · nofun

theorem cancelPhase_target (state : State) (stamp : Instant) :
    (cancelPhase state stamp).target ≠ some .delivered := by
  have sound := cancelPhase_sound state stamp
  unfold cancelPhase at sound ⊢
  split
  · rename_i cancelled marked
    rw [marked] at sound
    simp [Phase.target, show cancelled.status = .cancelled from sound]
  · nofun

theorem Unrecorded.step {next : State} {event : Event} (unrecorded : Unrecorded attempts state)
    (taken : DeliveryRuns.step (storedWorkerProcessor provider lease flush) state event = some next) :
    Unrecorded attempts next := by
  -- what a party is about to write leaves the notification undelivered
  have undelivered {party : Nat} {status : NotificationStatus} (target : (state.phase party).target = some status) :
      status ≠ .delivered := by
    intro delivered
    rw [delivered] at target
    exact unrecorded.targets party target
  cases step_move taken with
  | read party lookup clock => exact unrecorded.enter party (readPhase_target _ state lookup clock)
  | judged party loaded updated stands => exact unrecorded.write party (undelivered (by rw [stands]; rfl))
  | claimed party claim row stands done =>
      refine ⟨unrecorded.attempts, ?_, targets_update unrecorded.targets party ?_⟩
      · rw [(claimForDelivery_eq_some done).2]
        exact undelivered (by rw [stands]; rfl)
      · unfold claimedPhase
        split <;> nofun
  | sent party claim stands =>
      exact ⟨unrecorded.attempts, unrecorded.row, targets_update unrecorded.targets party nofun⟩
  | answered party answer claim stands => exact unrecorded.enter party nofun
  | recorded party recording claim answer attempt updated stands done =>
      exact absurd done NotificationDeliveryProcessor.outcome_fails
  | readCancel party stamp => exact unrecorded.enter party (cancelPhase_target state stamp)
  | cancelled party cancelled row stands done =>
      apply unrecorded.write party
      rw [(cancelPending_eq_some done).2]
      exact undelivered (by rw [stands]; rfl)
  | readFailure party reason stamp => exact unrecorded.enter party (failurePhase_target state reason stamp)
  | failed party loaded failed stands => exact unrecorded.write party (undelivered (by rw [stands]; rfl))
  | contended party | unrecorded party recording | uncancelled party | abandoned party =>
      exact unrecorded.enter party nofun

/-- However workers interleave, no attempt is ever stored and the notification is never delivered. -/
theorem runs_record_nothing {start final : State} {events : List Event} (fresh : start.Fresh)
    (undelivered : start.row.status ≠ .delivered)
    (reached : Machine.run (step (storedWorkerProcessor provider lease flush)) start events = some final) :
    final.attempts = start.attempts ∧ final.row.status ≠ .delivered := by
  have keeps : Machine.Keeps (DeliveryRuns.step (storedWorkerProcessor provider lease flush)) (fun _ _ => True)
      (Unrecorded start.attempts) := fun _ _ _ unrecorded _ taken => unrecorded.step taken
  have kept := keeps.run ⟨rfl, undelivered, fun party => by rw [fresh.1 party]; nofun⟩
    (Machine.along_true start events) reached
  exact ⟨kept.attempts, kept.row⟩

/-! ## A reminder that was sent -/

def storedWorker : NotificationDeliveryProcessor :=
  storedWorkerProcessor "twilio".toList (300 * Clock.second) fun _ => .ok ()

theorem sent_reminder_unrecorded :
    ∃ answered final claim attempt,
      Machine.run (step storedWorker) accepted [reading 0 (9 * Clock.hour), .claim 0, .send 0,
        .answer 0 (.result true none none)] = some answered ∧
      answered.phase 0 = .toRecord claim (some (.result true none none)) ∧
      step storedWorker answered (recording 0 (9 * Clock.hour)) = some final ∧
      final.row.status = .processing ∧ final.attempts = [] ∧
      DeliveryAttempt.create claim.processing storedWorker.provider
        { success := true, recipientAddress := claim.usableAddress } 0 (9 * Clock.hour) = .ok attempt ∧
      ¬ DeliveryAttempt.Mapped [] attempt ∧
      ¬ storedWorker.Records claim (some (.result true none none)) ⟨0, 9 * Clock.hour, 9 * Clock.hour, 9 * Clock.hour⟩ := by
  refine ⟨_, _, _, _, rfl, rfl, rfl, rfl, rfl, rfl, ?_, ?_⟩
  · rintro ⟨row, mapped, -⟩
    cases mapped
  · rintro ⟨attempt, updated, recorded, -⟩
    cases recorded

end DeliveryRuns

end Tiber
