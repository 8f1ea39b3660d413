import Tiber.Application.Delivery
import Tiber.Library.Custody
import Mathlib.Logic.Function.Basic

/-! All interleavings of delivery jobs, cancellations and permanent failures on
one notification, one committed transaction at a time.

A party is one execution: of `process`, of `cancel` or of
`_mark_permanent_failure`. It reads in one event and commits in a later one, so
anything can happen in between. Clock readings and answers are free data of the
events; a party may stall for any time and may vanish at any point.
-/

set_option autoImplicit false

namespace Tiber.DeliveryRuns

open Library

inductive Phase where
  | idle
  | judged (loaded updated : Notification)
  | claiming (claim : Claim)
  | toSend (claim : Claim)
  | sending (claim : Claim)
  | toRecord (claim : Claim) (answer : Option ProviderAnswer)
  | cancelling (cancelled : Notification)
  | failing (loaded failed : Notification)

def Phase.inFlight : Phase → Bool
  | toSend _ | sending _ | toRecord .. => true
  | idle | judged .. | claiming _ | cancelling _ | failing .. => false

/-- The stored row, the parties, and three records of what happened: the party whose
claim is the latest write to the row, the provider calls begun, and the stored attempts. -/
structure State where
  row : NotificationFields
  phase : Nat → Phase := fun _ => .idle
  holder : Option Nat := none
  sends : List Nat := []
  attempts : List DeliveryAttempt := []

inductive Event where
  | read (party : Nat) (lookup : Lookup) (clock : Readings)
  | saveVerdict (party : Nat)
  | claim (party : Nat)
  | send (party : Nat)
  | answer (party : Nat) (answer : ProviderAnswer)
  | record (party : Nat) (recording : Recording)
  | readCancel (party : Nat) (stamp : Instant)
  | cancel (party : Nat)
  | readFailure (party : Nat) (reason : String) (stamp : Instant)
  | saveFailure (party : Nat)
  | abandon (party : Nat)

namespace State

def Fresh (state : State) : Prop := (∀ party, state.phase party = .idle) ∧ state.holder = none

def enter (state : State) (party : Nat) (phase : Phase) : State :=
  { state with phase := Function.update state.phase party phase }

/-- A committed write that is not a claim; the party is done. -/
def write (state : State) (party : Nat) (row : NotificationFields) : State :=
  { state with row, holder := none, phase := Function.update state.phase party .idle }

end State

variable (processor : NotificationDeliveryProcessor)

def load (state : State) : Checked Notification := Notification.build state.row

/-- The first transaction up to its write; an exception ends the execution. -/
def readPhase (state : State) (lookup : Lookup) (clock : Readings) : Phase :=
  match load state >>= fun loaded => (processor.prepare loaded lookup clock).map (loaded, ·) with
  | .ok (loaded, .verdict updated) => .judged loaded updated
  | .ok (_, .claim claim) => .claiming claim
  | .ok (_, .returned _) | .error _ => .idle

/-- What follows a committed claim: the provider call, or its failure for want of an address. -/
def claimedPhase (claim : Claim) : Phase :=
  if claim.usableAddress.isSome then .toSend claim else .toRecord claim none

def cancelPhase (state : State) (stamp : Instant) : Phase :=
  match load state >>= fun loaded => loaded.markCancelled none stamp with
  | .ok cancelled => .cancelling cancelled
  | .error _ => .idle

/-- `_mark_permanent_failure` up to its write. -/
def failurePhase (state : State) (reason : String) (stamp : Instant) : Phase :=
  match load state with
  | .error _ => .idle
  | .ok loaded =>
      if loaded.status = .pending ∨ loaded.status = .processing then
        match loaded.markFailed reason stamp with
        | .ok failed => .failing loaded failed
        | .error _ => .idle
      else .idle

/-- One event. A write that fails rolls back and ends its execution. -/
def step (state : State) : Event → Option State
  | .read party lookup clock =>
      match state.phase party with
      | .idle => some (state.enter party (readPhase processor state lookup clock))
      | _ => none
  | .saveVerdict party =>
      match state.phase party with
      | .judged _ updated => some (state.write party updated.toNotificationFields)
      | _ => none
  | .claim party =>
      match state.phase party with
      | .claiming claim =>
          match claimForDelivery state.row claim.processing claim.expectedStatus claim.staleBefore with
          | .ok (some row) =>
              some { state.enter party (claimedPhase claim) with row, holder := some party }
          | .ok none | .error _ => some (state.enter party .idle)
      | _ => none
  | .send party =>
      match state.phase party with
      | .toSend claim => some { state.enter party (.sending claim) with sends := party :: state.sends }
      | _ => none
  | .answer party answer =>
      match state.phase party with
      | .sending claim => some (state.enter party (.toRecord claim (some answer)))
      | _ => none
  | .record party recording =>
      match state.phase party with
      | .toRecord claim answer =>
          match processor.outcome claim answer recording with
          | .ok (attempt, updated) => some { state.write party updated.toNotificationFields with
              attempts := attempt :: state.attempts }
          | .error _ => some (state.enter party .idle)
      | _ => none
  | .readCancel party stamp =>
      match state.phase party with
      | .idle => some (state.enter party (cancelPhase state stamp))
      | _ => none
  | .cancel party =>
      match state.phase party with
      | .cancelling cancelled =>
          match cancelPending state.row cancelled with
          | some row => some (state.write party row)
          | none => some (state.enter party .idle)
      | _ => none
  | .readFailure party reason stamp =>
      match state.phase party with
      | .idle => some (state.enter party (failurePhase state reason stamp))
      | _ => none
  | .saveFailure party =>
      match state.phase party with
      | .failing _ failed => some (state.write party failed.toNotificationFields)
      | _ => none
  | .abandon party => some (state.enter party .idle)

/-! ## What a step can do -/

/-- What each pending write is known to rest on. -/
def Phase.Sound : Phase → Prop
  | .judged loaded _ | .failing loaded _ => loaded.status.terminal = false
  | .claiming claim => claim.expectedStatus.terminal = false ∧ claim.processing.status = .processing
  | .toSend claim | .sending claim | .toRecord claim _ => claim.processing.status = .processing
  | .cancelling cancelled => cancelled.status = .cancelled
  | .idle => True

/-- The phases whose next write saves a whole snapshot, whatever the row has become. -/
def Phase.savesSnapshot : Phase → Bool
  | .judged .. | .failing .. | .toRecord .. => true
  | .idle | .claiming _ | .toSend _ | .sending _ | .cancelling _ => false

def Event.saver : Event → Option Nat
  | .saveVerdict party | .record party _ | .saveFailure party => some party
  | _ => none

def Event.sender : Event → Option Nat
  | .send party => some party
  | _ => none

inductive Effect (state : State) (event : Event) (next : State) : Prop where
  | quiet (party : Nat) (phase : Phase) (sound : (state.phase party).Sound → phase.Sound)
      (same : next = state.enter party phase)
  | claimed (party : Nat) (claim : Claim) (row : NotificationFields)
      (pending : state.phase party = .claiming claim) (matched : state.row.status = claim.expectedStatus)
      (status : row.status = claim.processing.status)
      (same : next = { state.enter party (claimedPhase claim) with row, holder := some party })
  | sent (party : Nat) (claim : Claim) (called : event.sender = some party)
      (ready : state.phase party = .toSend claim)
      (same : next = { state.enter party (.sending claim) with sends := party :: state.sends })
  | written (party : Nat) (row : NotificationFields) (attempts : List DeliveryAttempt)
      (basis : event.saver = some party ∧ (state.phase party).savesSnapshot = true ∨
        state.row.status = .pending)
      (same : next = { state.write party row with attempts })

inductive ReadAs (state : State) (lookup : Lookup) (clock : Readings) : Phase → Prop
  | ended : ReadAs state lookup clock .idle
  | judged {loaded updated : Notification} (row : loaded.toNotificationFields = state.row)
      (prepared : processor.prepare loaded lookup clock = .ok (.verdict updated)) :
      ReadAs state lookup clock (.judged loaded updated)
  | claiming {loaded : Notification} {claim : Claim} (row : loaded.toNotificationFields = state.row)
      (prepared : processor.prepare loaded lookup clock = .ok (.claim claim)) :
      ReadAs state lookup clock (.claiming claim)

theorem readPhase_as (state : State) (lookup : Lookup) (clock : Readings) :
    ReadAs processor state lookup clock (readPhase processor state lookup clock) := by
  have loadedAs {loaded : Notification} {prepared : Prepared}
      (read : (load state >>= fun loaded => (processor.prepare loaded lookup clock).map (loaded, ·)) =
        .ok (loaded, prepared)) :
      loaded.toNotificationFields = state.row ∧ processor.prepare loaded lookup clock = .ok prepared := by
    obtain ⟨found, loading, mapped⟩ := Checked.bind_eq_ok.mp read
    cases done : processor.prepare found lookup clock with
    | error failure => rw [done] at mapped; cases mapped
    | ok ended =>
        rw [done] at mapped
        cases mapped
        exact ⟨Notification.build_eq_ok.mp loading, done⟩
  unfold readPhase
  split
  · rename_i read
    exact .judged (loadedAs read).1 (loadedAs read).2
  · rename_i read
    exact .claiming (loadedAs read).1 (loadedAs read).2
  · exact .ended
  · exact .ended

theorem readPhase_sound (state : State) (lookup : Lookup) (clock : Readings) :
    (readPhase processor state lookup clock).Sound := by
  have known := readPhase_as processor state lookup clock
  generalize readPhase processor state lookup clock = phase at known ⊢
  cases known with
  | ended => trivial
  | judged row prepared =>
      obtain ⟨_, _, _, eligible, -⟩ := NotificationDeliveryProcessor.prepare_verdict prepared
      exact NotificationDeliveryProcessor.eligible_live eligible
  | claiming row prepared =>
      obtain ⟨_, _, _, eligible, -, -, claimed⟩ := NotificationDeliveryProcessor.prepare_claim prepared
      obtain ⟨expected, -, -, fields⟩ := NotificationDeliveryProcessor.claimFor_eq_ok claimed
      refine ⟨?_, by rw [fields]⟩
      rw [expected]
      exact NotificationDeliveryProcessor.eligible_live eligible

theorem readPhase_eq_claiming {state : State} {lookup : Lookup} {clock : Readings} {claim : Claim}
    (read : readPhase processor state lookup clock = .claiming claim) :
    ∃ loaded : Notification, loaded.toNotificationFields = state.row ∧
      processor.prepare loaded lookup clock = .ok (.claim claim) := by
  have known := readPhase_as processor state lookup clock
  rw [read] at known
  cases known with
  | claiming row prepared => exact ⟨_, row, prepared⟩

theorem failurePhase_sound (state : State) (reason : String) (stamp : Instant) :
    (failurePhase state reason stamp).Sound := by
  unfold failurePhase
  split
  · trivial
  · split
    · rename_i loaded _ live
      split
      · rcases live with status | status <;> simp [Phase.Sound, status, NotificationStatus.terminal]
      · trivial
    · trivial

theorem cancelPhase_sound (state : State) (stamp : Instant) :
    (cancelPhase state stamp).Sound := by
  unfold cancelPhase
  split
  · rename_i cancelled marked
    obtain ⟨loaded, -, moved⟩ := Checked.bind_eq_ok.mp marked
    exact congrArg NotificationFields.status (Notification.markCancelled_eq_ok.mp moved).2
  · trivial

theorem claimForDelivery_eq_some {row claimed : NotificationFields} {processing : Notification}
    {expected : NotificationStatus} {staleBefore : Option Instant}
    (done : claimForDelivery row processing expected staleBefore = .ok (some claimed)) :
    row.status = expected ∧ claimed.status = processing.status := by
  unfold claimForDelivery at done
  split at done
  · split at done
    · cases done
    · rw [Except.ok.injEq] at done
      split at done
      · rename_i matched
        cases done
        exact ⟨matched.1, rfl⟩
      · cases done
  · rw [Except.ok.injEq] at done
    split at done
    · rename_i matched
      cases done
      exact ⟨matched, rfl⟩
    · cases done

variable {processor}

/-- Every enabled event, with what its party stands on and where it leads. -/
inductive Move (processor : NotificationDeliveryProcessor) (state : State) : Event → State → Prop where
  | read (party : Nat) (lookup : Lookup) (clock : Readings) :
      Move processor state (.read party lookup clock) (state.enter party (readPhase processor state lookup clock))
  | judged (party : Nat) (loaded updated : Notification) (stands : state.phase party = .judged loaded updated) :
      Move processor state (.saveVerdict party) (state.write party updated.toNotificationFields)
  | claimed (party : Nat) (claim : Claim) (row : NotificationFields) (stands : state.phase party = .claiming claim)
      (done : claimForDelivery state.row claim.processing claim.expectedStatus claim.staleBefore = .ok (some row)) :
      Move processor state (.claim party)
        { state.enter party (claimedPhase claim) with row, holder := some party }
  | contended (party : Nat) : Move processor state (.claim party) (state.enter party .idle)
  | sent (party : Nat) (claim : Claim) (stands : state.phase party = .toSend claim) :
      Move processor state (.send party) { state.enter party (.sending claim) with sends := party :: state.sends }
  | answered (party : Nat) (answer : ProviderAnswer) (claim : Claim) (stands : state.phase party = .sending claim) :
      Move processor state (.answer party answer) (state.enter party (.toRecord claim (some answer)))
  | recorded (party : Nat) (recording : Recording) (claim : Claim) (answer : Option ProviderAnswer)
      (attempt : DeliveryAttempt) (updated : Notification) (stands : state.phase party = .toRecord claim answer)
      (done : processor.outcome claim answer recording = .ok (attempt, updated)) :
      Move processor state (.record party recording) { state.write party updated.toNotificationFields with
        attempts := attempt :: state.attempts }
  | unrecorded (party : Nat) (recording : Recording) :
      Move processor state (.record party recording) (state.enter party .idle)
  | readCancel (party : Nat) (stamp : Instant) :
      Move processor state (.readCancel party stamp) (state.enter party (cancelPhase state stamp))
  | cancelled (party : Nat) (cancelled : Notification) (row : NotificationFields)
      (stands : state.phase party = .cancelling cancelled) (done : cancelPending state.row cancelled = some row) :
      Move processor state (.cancel party) (state.write party row)
  | uncancelled (party : Nat) : Move processor state (.cancel party) (state.enter party .idle)
  | readFailure (party : Nat) (reason : String) (stamp : Instant) :
      Move processor state (.readFailure party reason stamp) (state.enter party (failurePhase state reason stamp))
  | failed (party : Nat) (loaded failed : Notification) (stands : state.phase party = .failing loaded failed) :
      Move processor state (.saveFailure party) (state.write party failed.toNotificationFields)
  | abandoned (party : Nat) : Move processor state (.abandon party) (state.enter party .idle)

theorem step_move {state next : State} {event : Event} (taken : step processor state event = some next) :
    Move processor state event next := by
  -- the branches of `step`: each stands in one phase, and what it writes is in the move it makes
  cases event with
  | read party lookup clock =>
      simp only [step] at taken
      split at taken <;> cases taken
      exact .read party lookup clock
  | saveVerdict party =>
      simp only [step] at taken
      split at taken
      · rename_i loaded updated stands
        cases taken
        exact .judged party loaded updated stands
      · cases taken
  | claim party =>
      simp only [step] at taken
      split at taken
      · rename_i claim stands
        split at taken
        · rename_i row done
          cases taken
          exact .claimed party claim row stands done
        · cases taken
          exact .contended party
        · cases taken
          exact .contended party
      · cases taken
  | send party =>
      simp only [step] at taken
      split at taken
      · rename_i claim stands
        cases taken
        exact .sent party claim stands
      · cases taken
  | answer party answer =>
      simp only [step] at taken
      split at taken
      · rename_i claim stands
        cases taken
        exact .answered party answer claim stands
      · cases taken
  | record party recording =>
      simp only [step] at taken
      split at taken
      · rename_i claim answer stands
        split at taken
        · rename_i attempt updated done
          cases taken
          exact .recorded party recording claim answer attempt updated stands done
        · cases taken
          exact .unrecorded party recording
      · cases taken
  | readCancel party stamp =>
      simp only [step] at taken
      split at taken <;> cases taken
      exact .readCancel party stamp
  | cancel party =>
      simp only [step] at taken
      split at taken
      · rename_i cancelled stands
        split at taken
        · rename_i row done
          cases taken
          exact .cancelled party cancelled row stands done
        · cases taken
          exact .uncancelled party
      · cases taken
  | readFailure party reason stamp =>
      simp only [step] at taken
      split at taken <;> cases taken
      exact .readFailure party reason stamp
  | saveFailure party =>
      simp only [step] at taken
      split at taken
      · rename_i loaded failed stands
        cases taken
        exact .failed party loaded failed stands
      · cases taken
  | abandon party =>
      cases taken
      exact .abandoned party

theorem cancelPending_eq_some {row withdrawn : NotificationFields} {cancelled : Notification}
    (done : cancelPending row cancelled = some withdrawn) :
    row.status = .pending ∧ withdrawn = { row with
      status := cancelled.status, cancellationReason := cancelled.cancellationReason
      updatedAt := cancelled.updatedAt } := by
  unfold cancelPending at done
  split at done
  · rename_i pending
    exact ⟨pending, (Option.some.inj done).symm⟩
  · cases done

/-- Every event either leaves the row alone, claims it, calls the provider, or writes it. -/
theorem step_effect {state next : State} {event : Event} (taken : step processor state event = some next) :
    Effect state event next := by
  -- a transaction that is rolled back or finds the row taken ends its party
  have gives_up (party : Nat) (same : next = state.enter party .idle) : Effect state event next :=
    .quiet party .idle (fun _ => trivial) same
  cases step_move taken with
  | read party lookup clock => exact .quiet party _ (fun _ => readPhase_sound processor state lookup clock) rfl
  | judged party loaded updated stands => exact .written party _ state.attempts (.inl ⟨rfl, by rw [stands]; rfl⟩) rfl
  | claimed party claim row stands done =>
      obtain ⟨matched, status⟩ := claimForDelivery_eq_some done
      exact .claimed party claim row stands matched status rfl
  | contended party => exact gives_up party rfl
  | sent party claim stands => exact .sent party claim rfl stands rfl
  | answered party answer claim stands =>
      exact .quiet party (.toRecord claim (some answer)) (fun sound => by rwa [stands] at sound) rfl
  | recorded party recording claim answer attempt updated stands done =>
      exact .written party _ _ (.inl ⟨rfl, by rw [stands]; rfl⟩) rfl
  | unrecorded party recording => exact gives_up party rfl
  | readCancel party stamp => exact .quiet party _ (fun _ => cancelPhase_sound state stamp) rfl
  | cancelled party cancelled row stands done =>
      exact .written party row state.attempts (.inr (cancelPending_eq_some done).1) rfl
  | uncancelled party => exact gives_up party rfl
  | readFailure party reason stamp => exact .quiet party _ (fun _ => failurePhase_sound state reason stamp) rfl
  | failed party loaded failed stands => exact .written party _ state.attempts (.inl ⟨rfl, by rw [stands]; rfl⟩) rfl
  | abandoned party => exact gives_up party rfl

end Tiber.DeliveryRuns
