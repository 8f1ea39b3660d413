import Tiber.Domain.Verdicts
import Tiber.System.DeliveryRuns

/-! Safety of delivery runs: terminal statuses and successful cancellations.

Two writers of the row are conditional updates. The others save a snapshot, so
what holds of their runs depends on whether that snapshot was still good. Runs
in which it was refine exclusive custody of the notification.
-/

set_option autoImplicit false

namespace Tiber.DeliveryRuns

open Library

variable {processor : NotificationDeliveryProcessor}

/-! ## The invariant of every run -/

structure Sound (state : State) : Prop where
  phases : ∀ party, (state.phase party).Sound
  held : ∀ party, state.holder = some party → state.row.status = .processing

theorem Sound.of_fresh {state : State} (fresh : state.Fresh) : Sound state where
  phases party := by rw [fresh.1 party]; trivial
  held party holds := by rw [fresh.2] at holds; cases holds

theorem claimedPhase_sound {claim : Claim} (status : claim.processing.status = .processing) :
    (claimedPhase claim).Sound := by
  unfold claimedPhase
  split <;> exact status

theorem sound_update {state : State} (sound : ∀ party, (state.phase party).Sound) (party : Nat)
    {phase : Phase} (entered : phase.Sound) (other : Nat) :
    (Function.update state.phase party phase other).Sound := by
  rw [Function.update_apply]
  split
  · exact entered
  · exact sound other

theorem Sound.step {state next : State} {event : Event} (sound : Sound state)
    (taken : step processor state event = some next) : Sound next := by
  cases step_effect taken with
  | quiet party phase entered same =>
      subst same
      exact ⟨sound_update sound.phases party (entered (sound.phases party)), sound.held⟩
  | claimed party claim row pending _ status same =>
      subst same
      have known := sound.phases party
      rw [pending] at known
      exact ⟨sound_update sound.phases party (claimedPhase_sound known.2), fun _ _ => status.trans known.2⟩
  | sent party claim _ ready same =>
      subst same
      have known := sound.phases party
      rw [ready] at known
      exact ⟨sound_update sound.phases party known, sound.held⟩
  | written party row attempts _ same =>
      subst same
      exact ⟨sound_update sound.phases party trivial, fun _ holds => by cases holds⟩

theorem sound_run {allow : State → Event → Prop} {start final : State} {events : List Event}
    (fresh : start.Fresh) (along : Machine.Along (DeliveryRuns.step processor) allow start events)
    (reached : Machine.run (DeliveryRuns.step processor) start events = some final) : Sound final :=
  have keeps : Machine.Keeps (DeliveryRuns.step processor) allow Sound :=
    fun _ _ _ sound _ taken => sound.step taken
  keeps.run (.of_fresh fresh) along reached

/-! ## Snapshots that are still good -/

def Phase.Current (row : NotificationFields) : Phase → Prop
  | .judged loaded _ | .failing loaded _ => row.status = loaded.status
  | .toRecord claim _ => row.status = claim.processing.status
  | .idle | .claiming _ | .toSend _ | .sending _ | .cancelling _ => True

instance (row : NotificationFields) (phase : Phase) : Decidable (phase.Current row) :=
  match phase with
  | .judged loaded _ | .failing loaded _ => inferInstanceAs (Decidable (row.status = loaded.status))
  | .toRecord claim _ => inferInstanceAs (Decidable (row.status = claim.processing.status))
  | .idle | .claiming _ | .toSend _ | .sending _ | .cancelling _ => inferInstanceAs (Decidable True)

def SavesCurrent (state : State) (event : Event) : Prop :=
  ∀ party ∈ event.saver, (state.phase party).Current state.row

/-- In addition, the provider is called only under a claim that is the latest write to the row. -/
def WorksCurrent (state : State) (event : Event) : Prop :=
  SavesCurrent state event ∧ ∀ party ∈ event.sender, state.holder = some party

instance (state : State) (event : Event) : Decidable (SavesCurrent state event) :=
  inferInstanceAs (Decidable (∀ party ∈ event.saver, (state.phase party).Current state.row))

instance (state : State) (event : Event) : Decidable (WorksCurrent state event) :=
  inferInstanceAs (Decidable (_ ∧ ∀ party ∈ event.sender, state.holder = some party))

/-- Snapshots are taken of live rows only. -/
theorem Phase.Current.live {row : NotificationFields} {phase : Phase} (current : phase.Current row)
    (sound : phase.Sound) (saves : phase.savesSnapshot = true) : row.status.terminal = false := by
  cases phase with
  | judged loaded updated | failing loaded failed =>
      rw [show row.status = loaded.status from current]
      exact sound
  | toRecord claim answer =>
      rw [show row.status = claim.processing.status from current, show claim.processing.status = _ from sound]
      rfl
  | idle | claiming | toSend | sending | cancelling => cases saves

theorem terminal_step {state next : State} {event : Event} (sound : Sound state)
    (saves : SavesCurrent state event) (terminal : state.row.status.terminal = true)
    (taken : step processor state event = some next) : next.row = state.row := by
  have dead : state.row.status.terminal ≠ false := by simp [terminal]
  cases step_effect taken with
  | quiet party phase _ same => subst same; rfl
  | sent party claim _ _ same => subst same; rfl
  | claimed party claim row pending matched _ _ =>
      have known := sound.phases party
      rw [pending] at known
      exact absurd (matched ▸ known.1) dead
  | written party row attempts basis _ =>
      obtain ⟨saver, snapshot⟩ | pending := basis
      · exact absurd ((saves party saver).live (sound.phases party) snapshot) dead
      · exact absurd (by rw [pending]; rfl) dead

/-- Terminal statuses are absorbing in every run that saves current snapshots only. -/
theorem terminal_status_absorbing {start middle final : State} {before after : List Event}
    (fresh : start.Fresh) (current : Machine.Along (step processor) SavesCurrent start (before ++ after))
    (reached : Machine.run (step processor) start before = some middle)
    (terminal : middle.row.status.terminal = true)
    (later : Machine.run (step processor) middle after = some final) :
    final.row.status = middle.row.status := by
  obtain ⟨first, onward⟩ := Machine.along_append current reached
  have keeps : Machine.Keeps (step processor) SavesCurrent fun state => Sound state ∧ state.row = middle.row := by
    rintro state event next ⟨sound, same⟩ saves taken
    exact ⟨sound.step taken, (terminal_step sound saves (same ▸ terminal) taken).trans same⟩
  have kept := keeps.run ⟨sound_run fresh first reached, rfl⟩ onward later
  rw [kept.2]

/-! ## One night: a schedule in which a verdict outlives the row it judged -/

def night : QuietHours := ⟨"night", 0, 8 * Clock.hour, .sms, by decide⟩

def sleeper : Recipient where
  id := 7
  projectId := 1
  addresses channel := if channel = .sms then some "+15550100".toList else none
  preferences := { quietHours := some night }
  createdAt := 0
  updatedAt := 0
  reachable := sms_reachable
  opted_out_known := sms_known

def reminder : NotificationFields where
  id := 1
  projectId := 1
  recipientId := 7
  transactionId := 3
  channel := .sms
  category := .informational
  content := ⟨"Hi".toList, none, [], [], greeting_solid⟩
  sendTimeBasis := .immediate
  createdAt := 0
  updatedAt := 0

def accepted : State := { row := reminder }

def worker : NotificationDeliveryProcessor :=
  workerProcessor "twilio".toList (300 * Clock.second) fun _ => .ok ()

def reading (party : Nat) (now : Instant) : Event :=
  .read party { recipient := some sleeper } ⟨now, now, now, now, now, now⟩

def recording (party : Nat) (now : Instant) : Event := .record party ⟨party, now, now, now⟩

def statusAfter (events : List Event) : Option NotificationStatus :=
  (Machine.run (step worker) accepted events).map (·.row.status)

/-- One o'clock: a worker judges the reminder, and a client cancels it. -/
def cancelledMeanwhile : List Event :=
  [reading 0 Clock.hour, .readCancel 1 Clock.hour, .cancel 1]

/-- Nine o'clock: a worker stalls behind its claim until another one, after the lease, has delivered. -/
def deliveredMeanwhile : List Event :=
  [reading 0 (9 * Clock.hour), .claim 0, reading 1 (10 * Clock.hour), .claim 1, .send 1,
    .answer 1 (.result true none none), recording 1 (10 * Clock.hour), .send 0,
    .answer 0 (.result false none none)]

/-- The verdict postpones the cancelled reminder; the late outcome fails the delivered one. -/
theorem terminal_status_overwritten :
    accepted.Fresh ∧
    statusAfter cancelledMeanwhile = some .cancelled ∧
    statusAfter (cancelledMeanwhile ++ [.saveVerdict 0]) = some .postponed ∧
    statusAfter deliveredMeanwhile = some .delivered ∧
    statusAfter (deliveredMeanwhile ++ [recording 0 (10 * Clock.hour)]) = some .failed :=
  ⟨⟨fun _ => rfl, rfl⟩, by decide, by decide, by decide, by decide⟩

theorem delivered_stays_delivered :
    ∃ middle final,
      Machine.run (step worker) accepted [reading 0 (9 * Clock.hour), .claim 0, .send 0,
        .answer 0 (.result true none none), recording 0 (9 * Clock.hour)] = some middle ∧
      Machine.run (step worker) middle [reading 1 (10 * Clock.hour)] = some final ∧
      middle.row.status = .delivered ∧ final.row.status = middle.row.status := by
  refine ⟨_, _, rfl, rfl, by decide, ?_⟩
  exact @terminal_status_absorbing worker accepted _ _
    [reading 0 (9 * Clock.hour), .claim 0, .send 0,
      .answer 0 (.result true none none), recording 0 (9 * Clock.hour)]
    [reading 1 (10 * Clock.hour)]
    ⟨fun _ => rfl, rfl⟩ (by decide) rfl (by decide) rfl

/-! ## Refinement of exclusive custody -/

def Working (state : State) (party : Nat) : Prop :=
  state.holder = some party ∧ (state.phase party).inFlight = true

/-- The result of a closed notification is its terminal status; the work is the provider calls. -/
structure Refines (state : State) (custody : Custody Nat NotificationStatus) : Prop where
  sound : Sound state
  worker : ∀ party, Working state party → custody.hold = .held party
  closed : ∀ status, custody.hold = .closed status ↔ state.row.status = status ∧ status.terminal = true
  worked : custody.worked = state.sends

def holdOf (state : State) : Hold Nat NotificationStatus :=
  if state.row.status.terminal then .closed state.row.status
  else match state.holder with
    | some party => if (state.phase party).inFlight then .held party else .free
    | none => .free

theorem refines_holdOf {state : State} (sound : Sound state) : Refines state ⟨holdOf state, state.sends⟩ where
  sound := sound
  worked := rfl
  worker party works := by
    have live : state.row.status.terminal = false := by rw [sound.held party works.1]; rfl
    simp [holdOf, live, works.1, works.2]
  closed status := by
    unfold holdOf
    split
    · rename_i terminal
      constructor
      · intro same; cases same; exact ⟨rfl, terminal⟩
      · rintro ⟨rfl, -⟩; rfl
    · rename_i live
      constructor
      · intro same
        split at same
        · split at same <;> cases same
        · cases same
      · rintro ⟨rfl, terminal⟩; exact absurd terminal live

theorem Refines.work {state : State} {custody : Custody Nat NotificationStatus} (refines : Refines state custody)
    {party : Nat} {claim : Claim} (ready : state.phase party = .toSend claim)
    (holds : state.holder = some party) :
    Custody.step custody (.work party) = some { custody with worked := party :: custody.worked } ∧
      Refines { state.enter party (.sending claim) with sends := party :: state.sends }
        { custody with worked := party :: custody.worked } := by
  have held := refines.worker party ⟨holds, by rw [ready]; rfl⟩
  have known := refines.sound.phases party
  rw [ready] at known
  refine ⟨by simp [Custody.step, held], ?_⟩
  constructor
  · exact ⟨sound_update refines.sound.phases party known, refines.sound.held⟩
  · intro other both
    obtain rfl : party = other := Option.some.inj (holds.symm.trans both.1)
    exact held
  · exact refines.closed
  · exact congrArg (party :: ·) refines.worked

theorem Refines.move {state next : State} {event : Event} {custody : Custody Nat NotificationStatus}
    (refines : Refines state custody) (saves : SavesCurrent state event)
    (taken : step processor state event = some next) (sends : next.sends = state.sends) :
    ∃ moves after, Machine.run Custody.step custody moves = some after ∧ Refines next after := by
  have sound := refines.sound.step taken
  by_cases terminal : state.row.status.terminal = true
  · have row := terminal_step refines.sound saves terminal taken
    refine ⟨[], custody, rfl, ⟨sound, fun party works => ?_, ?_, ?_⟩⟩
    · have processing := sound.held party works.1
      rw [row] at processing
      rw [processing] at terminal
      cases terminal
    · rw [row]; exact refines.closed
    · rw [sends]; exact refines.worked
  · have unclosed : ∀ status, custody.hold ≠ .closed status := by
      intro status closed
      obtain ⟨rfl, dead⟩ := (refines.closed status).mp closed
      exact terminal dead
    obtain ⟨moves, reached⟩ := Custody.run_open unclosed (holdOf next)
    refine ⟨moves, _, reached, ?_⟩
    have view := refines_holdOf sound
    rwa [sends, ← refines.worked] at view

/-- Runs on current snapshots are runs of exclusive custody. -/
theorem refines_custody :
    Machine.Simulates (step processor) WorksCurrent Custody.step Refines := by
  intro state event next custody refines works taken
  cases step_effect taken with
  | quiet party phase _ same => exact refines.move works.1 taken (by rw [same]; rfl)
  | claimed party claim row _ _ _ same => exact refines.move works.1 taken (by rw [same]; rfl)
  | written party row attempts _ same => exact refines.move works.1 taken (by rw [same]; rfl)
  | sent party claim called ready same =>
      subst same
      obtain ⟨worked, refined⟩ := refines.work ready (works.2 party called)
      exact ⟨[.work party], _, by rw [Machine.run, worked]; rfl, refined⟩

/-- After a cancellation that returned normally no provider call begins, in any later event of
a run that saves current snapshots only and calls the provider under the latest claim only. -/
theorem cancellation_final {start middle next final : State} {before after : List Event} {party : Nat}
    {cancelled : Notification} {row : NotificationFields}
    (fresh : start.Fresh)
    (current : Machine.Along (step processor) WorksCurrent start (before ++ .cancel party :: after))
    (reached : Machine.run (step processor) start before = some middle)
    (calling : middle.phase party = .cancelling cancelled)
    (returned : cancelPending middle.row cancelled = some row)
    (committed : step processor middle (.cancel party) = some next)
    (later : Machine.run (step processor) next after = some final) : final.sends = next.sends := by
  obtain ⟨first, onward⟩ := Machine.along_append current reached
  have sound := sound_run fresh first reached
  have status : next.row.status = .cancelled := by
    simp only [step, calling, returned, Option.some.injEq] at committed
    rw [← committed]
    unfold cancelPending at returned
    split at returned
    · cases returned
      have known := sound.phases party
      rw [calling] at known
      exact known
    · cases returned
  have refines := refines_holdOf (sound.step committed)
  have closed := (refines.closed .cancelled).mpr ⟨status, rfl⟩
  obtain ⟨moves, custody, ran, refined⟩ :=
    refines_custody.run refines (onward.2 next committed) later
  rw [← refined.worked, Custody.run_closed closed ran]

/-- The same night, one day longer: the revived reminder is sent once its postponement has lapsed. -/
theorem cancelled_notification_sent :
    accepted.Fresh ∧ ∃ middle cancelled row next final,
      Machine.run (step worker) accepted [reading 0 Clock.hour, .readCancel 1 Clock.hour] = some middle ∧
      middle.phase 1 = .cancelling cancelled ∧ cancelPending middle.row cancelled = some row ∧
      step worker middle (.cancel 1) = some next ∧
      Machine.run (step worker) next
        [.saveVerdict 0, reading 2 (9 * Clock.hour), .claim 2, .send 2] = some final ∧
      final.sends ≠ next.sends :=
  ⟨⟨fun _ => rfl, rfl⟩, _, _, _, _, _, rfl, rfl, rfl, rfl, rfl, by decide⟩

theorem cancelled_stays_unsent :
    ∃ middle cancelled row next final,
      Machine.run (step worker) accepted [.readCancel 1 Clock.hour] = some middle ∧
      middle.phase 1 = .cancelling cancelled ∧ cancelPending middle.row cancelled = some row ∧
      step worker middle (.cancel 1) = some next ∧
      Machine.run (step worker) next [reading 0 (9 * Clock.hour)] = some final ∧
      final.sends = next.sends := by
  refine ⟨_, _, _, _, _, rfl, rfl, rfl, rfl, rfl, ?_⟩
  exact @cancellation_final worker accepted _ _ _ [.readCancel 1 Clock.hour] [reading 0 (9 * Clock.hour)] 1 _ _
    ⟨fun _ => rfl, rfl⟩ (by decide) rfl rfl rfl rfl rfl

end Tiber.DeliveryRuns
