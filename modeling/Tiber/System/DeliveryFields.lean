import Tiber.System.DeliverySafety

/-! What delivery leaves alone, whoever writes the row and however late.

A property of the fields that survives every transition of the entity and both conditional
updates holds of the row, of every snapshot a party is about to write, and of what a provider
is given, in every run. Only a first transaction lets anything new in, so only reads are
subject to a condition.
-/

set_option autoImplicit false

namespace Tiber

open Library

def Claim.sent (claim : Claim) : NotificationFields :=
  { claim.processing.toNotificationFields with content := claim.content }

namespace DeliveryRuns

/-- What a party holds in its hands: the entity it will write, and the message it will send. -/
def Phase.carried : Phase → List NotificationFields
  | .idle => []
  | .judged _ updated => [updated.toNotificationFields]
  | .claiming claim | .toSend claim | .sending claim | .toRecord claim _ =>
      [claim.processing.toNotificationFields, claim.sent]
  | .cancelling cancelled => [cancelled.toNotificationFields]
  | .failing _ failed => [failed.toNotificationFields]

def Reading (reads : NotificationFields → Lookup → Readings → Prop) (state : State) (event : Event) : Prop :=
  ∀ party lookup clock, event = .read party lookup clock → reads state.row lookup clock

/-- A property of the fields that every write keeps. -/
structure Stable (processor : NotificationDeliveryProcessor)
    (reads : NotificationFields → Lookup → Readings → Prop) (holds : NotificationFields → Prop) : Prop where
  judged : ∀ {loaded updated : Notification} {lookup clock}, holds loaded.toNotificationFields →
    reads loaded.toNotificationFields lookup clock →
    processor.prepare loaded lookup clock = .ok (.verdict updated) → holds updated.toNotificationFields
  prepared : ∀ {loaded : Notification} {claim lookup clock}, holds loaded.toNotificationFields →
    reads loaded.toNotificationFields lookup clock → processor.prepare loaded lookup clock = .ok (.claim claim) →
    holds claim.processing.toNotificationFields ∧ holds claim.sent
  claimed : ∀ {row : NotificationFields} {processing : Notification} {moved}, holds row →
    holds processing.toNotificationFields → holds { row with
      status := processing.status, content := processing.content, updatedAt := moved }
  recorded : ∀ {claim : Claim} {answer recording attempt} {updated : Notification},
    holds claim.processing.toNotificationFields →
    processor.outcome claim answer recording = .ok (attempt, updated) → holds updated.toNotificationFields
  cancelled : ∀ {row : NotificationFields} {reason moved}, holds row →
    holds { row with status := .cancelled, cancellationReason := reason, updatedAt := moved }
  withdrawn : ∀ {row : NotificationFields} {cancelled : Notification}, holds row →
    holds cancelled.toNotificationFields → holds { row with
      status := cancelled.status, cancellationReason := cancelled.cancellationReason
      updatedAt := cancelled.updatedAt }
  failed : ∀ {row : NotificationFields} {reason moved}, holds row →
    holds { row with status := .failed, failureReason := reason, updatedAt := moved }

structure Throughout (holds : NotificationFields → Prop) (state : State) : Prop where
  row : holds state.row
  carried : ∀ party, ∀ fields ∈ (state.phase party).carried, holds fields

variable {processor : NotificationDeliveryProcessor} {reads : NotificationFields → Lookup → Readings → Prop}
  {holds : NotificationFields → Prop}

theorem Throughout.of_fresh {state : State} (fresh : state.Fresh) (row : holds state.row) :
    Throughout holds state where
  row := row
  carried party fields member := by
    rw [fresh.1 party] at member
    cases member

namespace Stable

variable (stable : Stable processor reads holds)

include stable

theorem readPhase {state : State} {lookup : Lookup} {clock : Readings} (row : holds state.row)
    (allowed : reads state.row lookup clock) :
    ∀ fields ∈ (readPhase processor state lookup clock).carried, holds fields := by
  unfold DeliveryRuns.readPhase
  cases loading : load state with
  | error failure => exact List.forall_mem_nil _
  | ok loaded =>
      have same : loaded.toNotificationFields = state.row := Notification.build_eq_ok.mp loading
      rw [← same] at row allowed
      cases done : processor.prepare loaded lookup clock with
      | error failure =>
          simp only [bind, Except.bind, done, Except.map]
          exact List.forall_mem_nil _
      | ok ended =>
          simp only [bind, Except.bind, done, Except.map]
          cases ended with
          | returned _ => exact List.forall_mem_nil _
          | verdict updated =>
              simp only [Phase.carried, List.mem_singleton, forall_eq]
              exact stable.judged row allowed done
          | claim claim =>
              simp only [Phase.carried, List.forall_mem_cons, List.not_mem_nil, false_implies, implies_true, and_true]
              exact stable.prepared row allowed done

theorem cancelPhase {state : State} {stamp : Instant} (row : holds state.row) :
    ∀ fields ∈ (cancelPhase state stamp).carried, holds fields := by
  unfold DeliveryRuns.cancelPhase
  split
  · rename_i cancelled marked
    obtain ⟨loaded, loading, moved⟩ := Checked.bind_eq_ok.mp marked
    simp only [Phase.carried, List.mem_singleton, forall_eq]
    rw [(Notification.markCancelled_eq_ok.mp moved).2, Notification.build_eq_ok.mp loading]
    exact stable.cancelled row
  · exact List.forall_mem_nil _

theorem failurePhase {state : State} {reason : String} {stamp : Instant} (row : holds state.row) :
    ∀ fields ∈ (failurePhase state reason stamp).carried, holds fields := by
  unfold DeliveryRuns.failurePhase
  split
  · exact List.forall_mem_nil _
  · rename_i loaded loading
    split
    · split
      · rename_i failed marked
        simp only [Phase.carried, List.mem_singleton, forall_eq]
        rw [(Notification.markFailed_eq_ok.mp marked).2.2, Notification.build_eq_ok.mp loading]
        exact stable.failed row
      · exact List.forall_mem_nil _
    · exact List.forall_mem_nil _

theorem claimForDelivery {row claimed : NotificationFields} {processing : Notification}
    {expected : NotificationStatus} {staleBefore : Option Instant} (before : holds row)
    (carried : holds processing.toNotificationFields)
    (done : claimForDelivery row processing expected staleBefore = .ok (some claimed)) : holds claimed := by
  rw [NotificationDeliveryProcessor.claimForDelivery_fields done]
  exact stable.claimed before carried

end Stable

theorem carried_update {state : State} (through : Throughout holds state) (party : Nat) {phase : Phase}
    (entered : ∀ fields ∈ phase.carried, holds fields) (other : Nat) :
    ∀ fields ∈ (Function.update state.phase party phase other).carried, holds fields := by
  rw [Function.update_apply]
  split
  · exact entered
  · exact through.carried other

theorem claimedPhase_carried (claim : Claim) :
    (claimedPhase claim).carried = [claim.processing.toNotificationFields, claim.sent] := by
  unfold claimedPhase
  split <;> rfl

theorem Throughout.step {state next : State} {event : Event} (stable : Stable processor reads holds)
    (through : Throughout holds state) (allowed : Reading reads state event)
    (taken : step processor state event = some next) : Throughout holds next := by
  have leaving (party : Nat) : ∀ other, ∀ fields ∈ (Function.update state.phase party .idle other).carried,
      holds fields := carried_update through party (List.forall_mem_nil _)
  -- a phase that carries what its party carried before
  have moving {party : Nat} {phase : Phase} (same : phase.carried = (state.phase party).carried) :=
    carried_update through party (same ▸ through.carried party)
  -- the entity its party is about to write
  have carried {party : Nat} {fields : NotificationFields} {rest : List NotificationFields}
      (first : (state.phase party).carried = fields :: rest) : holds fields :=
    through.carried party fields (by rw [first]; exact .head _)
  cases step_move taken with
  | read party lookup clock =>
      exact ⟨through.row, carried_update through party (stable.readPhase through.row (allowed party lookup clock rfl))⟩
  | judged party loaded updated stands => exact ⟨carried (by rw [stands]; rfl), leaving party⟩
  | claimed party claim row stands done =>
      refine ⟨stable.claimForDelivery through.row (carried (by rw [stands]; rfl)) done, moving ?_⟩
      rw [claimedPhase_carried, stands]
      rfl
  | sent party claim stands => exact ⟨through.row, moving (by rw [stands]; rfl)⟩
  | answered party answer claim stands => exact ⟨through.row, moving (by rw [stands]; rfl)⟩
  | recorded party recording claim answer attempt updated stands done =>
      exact ⟨stable.recorded (carried (by rw [stands]; rfl)) done, leaving party⟩
  | readCancel party stamp => exact ⟨through.row, carried_update through party (stable.cancelPhase through.row)⟩
  | cancelled party cancelled row stands done =>
      refine ⟨?_, leaving party⟩
      rw [(cancelPending_eq_some done).2]
      exact stable.withdrawn through.row (carried (by rw [stands]; rfl))
  | readFailure party reason stamp =>
      exact ⟨through.row, carried_update through party (stable.failurePhase through.row)⟩
  | failed party loaded failed stands => exact ⟨carried (by rw [stands]; rfl), leaving party⟩
  | contended party | unrecorded party recording | uncancelled party | abandoned party =>
      exact ⟨through.row, leaving party⟩

theorem Stable.run {start final : State} {events : List Event} (stable : Stable processor reads holds)
    (fresh : start.Fresh) (row : holds start.row)
    (along : Machine.Along (DeliveryRuns.step processor) (Reading reads) start events)
    (reached : Machine.run (DeliveryRuns.step processor) start events = some final) : Throughout holds final := by
  have keeps : Machine.Keeps (DeliveryRuns.step processor) (Reading reads) (Throughout holds) :=
    fun _ _ _ through allowed taken => through.step stable allowed taken
  exact keeps.run (.of_fresh fresh row) along reached

end DeliveryRuns

end Tiber
