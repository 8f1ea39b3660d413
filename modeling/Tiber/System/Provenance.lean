import Tiber.System.IntakeRuns

/-! Where the children of a run come from.

Nothing here depends on leases: whoever writes, and however late, carries the request that
was accepted and a plan that was assembled for it.
-/

set_option autoImplicit false

namespace Tiber.IntakeRuns

open Library

def Assembled (accepted : NotificationIntake) (deciding : Surroundings) (plan : NotificationPlan) : Prop :=
  assemblePlan accepted.payload accepted.constraints
    (consult accepted.payload accepted.constraints deciding.answer deciding.topics accepted.projectId).1
    (consult accepted.payload accepted.constraints deciding.answer deciding.topics accepted.projectId).2
    deciding.planning = .ok plan

structure Descends (accepted intake : NotificationIntake) : Prop where
  request : intake.toNotificationIntakeFields = { accepted.toNotificationIntakeFields with
    status := intake.status, plan := intake.plan, attempts := intake.attempts, claimedAt := intake.claimedAt
    completedAt := intake.completedAt, failureReason := intake.failureReason, updatedAt := intake.updatedAt }
  planned : ∀ plan, intake.plan = some plan → ∃ deciding, Assembled accepted deciding plan

/-- A child as fan-out makes it, from the accepted request, for a recipient as it was then. -/
structure Offspring (processor : IntakeProcessor) (accepted : NotificationIntake) (deciding : Surroundings)
    (plan : NotificationPlan) (recipient : Recipient) (around : Surroundings) (child : Notification) : Prop where
  assembled : Assembled accepted deciding plan
  planned : child.channel ∈ plan.channels
  made : ∃ intake, Descends accepted intake ∧
    processor.makeChild intake plan recipient around child.channel = .ok child

def Bred (processor : IntakeProcessor) (accepted : NotificationIntake) (child : Notification) : Prop :=
  ∃ deciding plan recipient around, Offspring processor accepted deciding plan recipient around child

namespace Descends

variable {accepted intake next : NotificationIntake}

theorem refl (unplanned : accepted.plan = none) : Descends accepted accepted where
  request := rfl
  planned plan stored := by rw [unplanned] at stored; cases stored

theorem onward (descends : Descends accepted intake)
    (kept : next.toNotificationIntakeFields = { intake.toNotificationIntakeFields with
      status := next.status, attempts := next.attempts, claimedAt := next.claimedAt
      completedAt := next.completedAt, failureReason := next.failureReason, updatedAt := next.updatedAt }) :
    Descends accepted next where
  request := by
    rw [kept, descends.request]
  planned plan stored := by
    rw [kept] at stored
    exact descends.planned plan stored

/-- A decision is taken on the request as it was accepted. -/
theorem decided {around : Surroundings} (descends : Descends accepted intake)
    (decided : decidePlan intake around = .ok next) : Descends accepted next := by
  obtain ⟨plan, assembled, stored⟩ := Checked.bind_eq_ok.mp decided
  obtain ⟨-, fields⟩ := NotificationIntake.withPlan_eq_ok.mp stored
  have payload : intake.payload = accepted.payload := by rw [descends.request]
  have constraints : intake.constraints = accepted.constraints := by rw [descends.request]
  have projectId : intake.projectId = accepted.projectId := by rw [descends.request]
  constructor
  · rw [fields, descends.request]
  · intro other kept
    rw [fields] at kept
    obtain rfl : plan = other := Option.some.inj kept
    refine ⟨around, ?_⟩
    unfold Assembled
    rw [← payload, ← constraints, ← projectId]
    exact assembled

end Descends

theorem makeChildren_bred {processor : IntakeProcessor} {accepted intake : NotificationIntake}
    {recipient : Recipient} {around : Surroundings} {children : List Notification}
    (descends : Descends accepted intake)
    (made : processor.makeChildren intake recipient around = .ok children) :
    ∀ child ∈ children, Bred processor accepted child := by
  unfold IntakeProcessor.makeChildren at made
  split at made
  · cases made
  rename_i plan stored
  obtain ⟨deciding, assembled⟩ := descends.planned plan stored
  intro child member
  obtain ⟨channel, chosen, built⟩ := mapM_mem made member
  obtain ⟨fields, -⟩ := IntakeProcessor.makeChild_identity built
  have same : child.channel = channel := by rw [fields]; rfl
  refine ⟨deciding, plan, recipient, around, assembled, ?_, intake, descends, ?_⟩
  · rw [same]
    exact (List.mem_filter.mp chosen).1
  · rwa [same]

/-! ## The invariant -/

structure Rooted (processor : IntakeProcessor) (accepted : NotificationIntake) (state : State) : Prop where
  row : Descends accepted state.row
  snapshots : ∀ worker snapshot, state.snapshot worker = some snapshot → Descends accepted snapshot
  batches : ∀ worker delivery snapshot batch, state.worker worker = some (delivery, .ready snapshot batch) →
    ∀ child ∈ batch, Bred processor accepted child
  children : ∀ child ∈ state.children, Bred processor accepted child
  announced : state.dispatches = dispatchRows state.children

variable {wiring : Wiring} {accepted : NotificationIntake}

theorem Rooted.of_accepted {state : State} (fresh : state.Accepted) : Rooted wiring.processor state.row state := by
  have untouched := fresh.no_snapshot
  obtain ⟨received, -, -, children, dispatches, idle⟩ := fresh
  constructor
  · exact .refl (state.row.unplanned_when_received received)
  · intro worker snapshot carried
    rw [untouched worker] at carried
    cases carried
  · intro worker delivery snapshot batch stands
    rw [idle worker] at stands
    cases stands
  · intro child member
    rw [children] at member
    cases member
  · rw [children, dispatches]
    rfl

/-- The row goes on from the accepted intake, or from the snapshot of the worker that writes it. -/
theorem Rooted.row_step {state next : State} {event : Event} (rooted : Rooted wiring.processor accepted state)
    (taken : step wiring state event = some next) : Descends accepted next.row := by
  cases step_effect taken with
  | kept row =>
      rw [row]
      exact rooted.row
  | claimed worker now stamp same row =>
      obtain ⟨-, fields⟩ := NotificationIntake.claim_eq_ok.mp row
      exact rooted.row.onward (by rw [fields])
  | written worker snapshot whose write carried row =>
      cases row with
      -- a late worker decides on its own snapshot, `_fail` starts from the row
      | planned around undecided done => exact (rooted.snapshots worker snapshot carried).decided done
      | failed reason stamp done => exact rooted.row.onward (by rw [(NotificationIntake.fail_eq_ok.mp done).2.2])
  | completed worker snapshot delivery batch now stamp whose write stands row =>
      obtain ⟨-, -, fields⟩ := NotificationIntake.complete_eq_ok.mp row
      exact (rooted.snapshots worker snapshot (State.snapshot_of stands)).onward (by rw [fields])

theorem Rooted.step {state next : State} {event : Event} (rooted : Rooted wiring.processor accepted state)
    (taken : step wiring state event = some next) : Rooted wiring.processor accepted next := by
  have row := rooted.row_step taken
  constructor
  · exact row
  · intro worker snapshot carried
    rcases step_carried taken carried with before | ⟨same, -⟩
    · exact rooted.snapshots worker snapshot before
    · rw [same]
      exact row
  · intro worker delivery snapshot batch stands
    rcases step_ready taken stands with ⟨held, before⟩ | ⟨-, carried, recipient, around, made⟩
    · exact rooted.batches worker held snapshot batch before
    · exact makeChildren_bred (rooted.snapshots worker snapshot carried) made
  · intro child member
    cases step_effect taken with
    | kept _ _ children => exact rooted.children child (children ▸ member)
    | claimed _ _ _ _ _ _ children => exact rooted.children child (children ▸ member)
    | written _ _ _ _ _ _ _ children => exact rooted.children child (children ▸ member)
    | completed worker snapshot delivery batch now stamp whose write stands _ _ children =>
        -- the batch that is stored was waiting with its worker
        rw [children] at member
        rcases List.mem_append.mp member with fresh | stored
        · exact rooted.batches worker delivery snapshot batch stands child fresh
        · exact rooted.children child stored
  · exact step_announced taken rooted.announced

/-- Every run of every wiring, lost leases included. -/
theorem rooted_run {start final : State} {events : List Event} (fresh : start.Accepted)
    (reached : Machine.run (IntakeRuns.step wiring) start events = some final) :
    Rooted wiring.processor start.row final := by
  have keeps : Machine.Keeps (IntakeRuns.step wiring) (fun _ _ => True) (Rooted wiring.processor start.row) :=
    fun _ _ _ rooted _ taken => rooted.step taken
  exact keeps.run (.of_accepted fresh) (Machine.along_true start events) reached

end Tiber.IntakeRuns
