import Tiber.System.IntakeFence
import Mathlib.Data.List.Forall2

/-! Fan-out over whole runs: one child for each planned channel, once, and one
dispatch row for each child that is to be sent.

The batch is built outside the last transaction, from the children stored at that time. A
worker whose lease nobody has retaken builds it from an intake without children.
-/

set_option autoImplicit false

namespace Tiber.IntakeRuns

open Library

variable {wiring : Wiring}

/-- One child for each channel of the stored plan, of this transaction and as fan-out leaves it. -/
structure Batch (intake : NotificationIntake) (children : List Notification) : Prop where
  channels : ∃ plan, intake.plan = some plan ∧ children.map (·.channel) = plan.channels
  members : ∀ child ∈ children, child.transactionId = intake.transactionId ∧
    (child.status = .pending ∨ child.status = .postponed ∨ child.status = .suppressed)

theorem makeChildren_batch {processor : IntakeProcessor} {intake : NotificationIntake} {recipient : Recipient}
    {around : Surroundings} {children : List Notification} (fresh : around.existing = ∅)
    (made : processor.makeChildren intake recipient around = .ok children) : Batch intake children := by
  unfold IntakeProcessor.makeChildren at made
  split at made
  · cases made
  rename_i plan stored
  have paired := mapM_eq_ok made
  have whole : plan.channels.filter (fun channel => decide (channel ∉ around.existing)) = plan.channels := by
    simp [fresh]
  rw [whole] at paired
  constructor
  · refine ⟨plan, stored, ?_⟩
    have named : List.Forall₂ (· = ·) plan.channels (children.map (·.channel)) := by
      rw [List.forall₂_map_right_iff]
      apply paired.imp
      intro channel child made
      rw [(IntakeProcessor.makeChild_identity made).1]
      rfl
    rw [List.forall₂_eq_eq_eq] at named
    exact named.symm
  · -- every child of the batch was made for some channel
    intro child member
    obtain ⟨channel, -, built⟩ := mapM_mem made member
    obtain ⟨fields, status⟩ := IntakeProcessor.makeChild_identity built
    refine ⟨?_, status⟩
    rw [fields]
    rfl

/-! ## The invariant -/

structure Clean (state : State) : Prop where
  sound : Sound state
  processing : ∀ worker snapshot, state.snapshot worker = some snapshot → snapshot.status = .processing
  ready : ∀ worker delivery snapshot batch, state.worker worker = some (delivery, .ready snapshot batch) →
    snapshot.attempts = state.row.attempts → Batch snapshot batch
  childless : state.row.status ≠ .completed → state.children = []
  expanded : state.row.status = .completed → Batch state.row state.children
  announced : state.dispatches = dispatchRows state.children

theorem Clean.of_accepted {state : State} (accepted : state.Accepted) : Clean state := by
  have sound := Sound.of_accepted accepted
  have untouched := accepted.no_snapshot
  obtain ⟨received, -, -, children, dispatches, idle⟩ := accepted
  constructor
  · exact sound
  · intro worker snapshot carried
    rw [untouched worker] at carried
    cases carried
  · intro worker delivery snapshot batch stands
    rw [idle worker] at stands
    cases stands
  · exact fun _ => children
  · intro completed
    rw [received] at completed
    cases completed
  · rw [children, dispatches]
    rfl

/-- A snapshot that is level after a fenced step was level before it: attempts are only added. -/
theorem Clean.level {state next : State} {event : Event} (clean : Clean state) (fenced : Fenced wiring state event)
    (taken : step wiring state event = some next) {worker : Nat} {snapshot : NotificationIntake}
    (carried : state.snapshot worker = some snapshot) (level : snapshot.attempts = next.row.attempts) :
    snapshot.attempts = state.row.attempts := by
  have bounded : snapshot.attempts ≤ state.row.attempts := clean.sound.fence.bounded worker _ (held_of carried)
  have grown := (step_follows clean.sound fenced taken).attempts
  omega

theorem Clean.ready_step {state next : State} {event : Event} (clean : Clean state) (fenced : Fenced wiring state event)
    (taken : step wiring state event = some next) {worker : Nat} {delivery : Delivery} {snapshot : NotificationIntake}
    {batch : List Notification} (stands : next.worker worker = some (delivery, .ready snapshot batch))
    (level : snapshot.attempts = next.row.attempts) : Batch snapshot batch := by
  rcases step_ready taken stands with ⟨held, before⟩ | ⟨row, carried, recipient, around, made⟩
  · exact clean.ready worker held snapshot batch before (clean.level fenced taken (State.snapshot_of before) level)
  · apply makeChildren_batch ?_ made
    -- a level snapshot is the row itself, and a PROCESSING row has no children yet
    have same := clean.sound.current worker snapshot carried (level.trans (congrArg (·.attempts) row))
    have childless := clean.childless (by rw [same, clean.processing worker snapshot carried]; nofun)
    simp [State.existing, childless]

theorem Clean.children_step {state next : State} {event : Event} (clean : Clean state)
    (fenced : Fenced wiring state event) (taken : step wiring state event = some next) :
    (next.row.status ≠ .completed → next.children = []) ∧
      (next.row.status = .completed → Batch next.row next.children) := by
  cases step_effect taken with
  | kept row holder children =>
      rw [row, children]
      exact ⟨clean.childless, clean.expanded⟩
  | claimed worker now stamp same row holder children =>
      obtain ⟨claimable, fields⟩ := NotificationIntake.claim_eq_ok.mp row
      -- a completed row is never claimed
      have unexpanded : state.row.status ≠ .completed := by
        intro completed
        simp [NotificationIntake.isClaimable, completed] at claimable
      rw [children]
      exact ⟨fun _ => clean.childless unexpanded, fun completed => by rw [fields] at completed; cases completed⟩
  | written worker snapshot whose write carried row holder children dispatches open_row =>
      rw [← clean.sound.row_eq fenced write carried] at row
      refine ⟨fun _ => ?_, fun completed => absurd completed open_row⟩
      rw [children]
      apply clean.childless
      rcases row.amends.live with status | status <;> simp [status]
  | completed worker snapshot delivery batch now stamp whose write stands row holder children =>
      have same := clean.sound.row_eq fenced write (State.snapshot_of stands)
      have built := clean.ready worker delivery snapshot batch stands (fenced snapshot write)
      obtain ⟨processing, -, fields⟩ := NotificationIntake.complete_eq_ok.mp row
      -- the completion finds a row in PROCESSING, so without children
      have childless := clean.childless (by simp [same, processing])
      rw [childless, List.append_nil] at children
      constructor
      · rw [fields]
        intro other
        exact absurd rfl other
      · intro _
        rw [children]
        constructor
        · rw [fields]
          exact built.channels
        · rw [fields]
          exact built.members

theorem Clean.step {state next : State} {event : Event} (clean : Clean state) (fenced : Fenced wiring state event)
    (taken : step wiring state event = some next) : Clean next := by
  obtain ⟨childless, expanded⟩ := clean.children_step fenced taken
  constructor
  · exact clean.sound.step fenced taken
  · intro worker snapshot carried
    rcases step_carried taken carried with before | ⟨rfl, processing⟩
    · exact clean.processing worker snapshot before
    · exact processing
  · intro worker delivery snapshot batch stands level
    exact clean.ready_step fenced taken stands level
  · exact childless
  · exact expanded
  · exact step_announced taken clean.announced

/-- In every run in which no worker writes after its lease has been retaken: a COMPLETED intake has
exactly one child per planned channel and exactly the dispatch rows of its children to be sent, and
a FAILED one has neither children nor dispatch rows. -/
theorem fan_out_exactly_once {start final : State} {events : List Event} (accepted : start.Accepted)
    (fenced : Machine.Along (IntakeRuns.step wiring) (Fenced wiring) start events)
    (reached : Machine.run (IntakeRuns.step wiring) start events = some final) :
    (final.row.status = .completed →
      (∃ plan, final.row.plan = some plan ∧ (final.children.map (·.channel)).Nodup ∧
        ∀ channel, channel ∈ final.children.map (·.channel) ↔ channel ∈ plan.channels) ∧
      (∀ child ∈ final.children, child.transactionId = final.row.transactionId ∧
        (child.status = .pending ∨ child.status = .postponed ∨ child.status = .suppressed)) ∧
      final.dispatches = (final.children.filter fun child =>
        child.status = .pending ∨ child.status = .postponed).map enqueueDispatch) ∧
    (final.row.status = .failed → final.children = [] ∧ final.dispatches = []) := by
  have keeps : Machine.Keeps (IntakeRuns.step wiring) (Fenced wiring) Clean :=
    fun _ _ _ clean fenced taken => clean.step fenced taken
  have clean := keeps.run (.of_accepted accepted) fenced reached
  constructor
  · intro completed
    have batch := clean.expanded completed
    obtain ⟨plan, stored, channels⟩ := batch.channels
    refine ⟨⟨plan, stored, ?_, fun channel => by rw [channels]⟩, batch.members, ?_⟩
    · rw [channels]
      exact plan.channels_nodup
    · -- both filters keep the children that are to be sent
      rw [clean.announced, dispatchRows]
      congr 1
      apply List.filter_congr
      intro child _
      rw [Notification.announced, Bool.eq_iff_iff]
      simp
  · intro failed
    have childless := clean.childless (by simp [failed])
    refine ⟨childless, ?_⟩
    rw [clean.announced, childless]
    rfl

theorem reclaimed_intake_expanded_once :
    ∃ creation final, announced = .ok (.created creation) ∧
      Machine.run (IntakeRuns.step {}) { row := creation.intake } (planned ++ reclaimed) = some final ∧
      final.row.status = .completed ∧ final.children.map (·.channel) = [.sms] ∧
      final.dispatches = (final.children.filter fun child =>
        child.status = .pending ∨ child.status = .postponed).map enqueueDispatch := by
  obtain ⟨creation, final, made, accepted, fenced, reached, completed, channels⟩ : ∃ creation final,
      announced = .ok (.created creation) ∧ State.Accepted { row := creation.intake } ∧
      Machine.Along (IntakeRuns.step {}) (Fenced {}) { row := creation.intake } (planned ++ reclaimed) ∧
      Machine.run (IntakeRuns.step {}) { row := creation.intake } (planned ++ reclaimed) = some final ∧
      final.row.status = .completed ∧ final.children.map (·.channel) = [.sms] :=
    ⟨_, _, rfl, ⟨rfl, rfl, rfl, rfl, rfl, fun _ => rfl⟩, by decide, rfl, by decide, by decide⟩
  exact ⟨creation, final, made, reached, completed, channels,
    ((fan_out_exactly_once accepted fenced reached).1 completed).2.2⟩

end Tiber.IntakeRuns
