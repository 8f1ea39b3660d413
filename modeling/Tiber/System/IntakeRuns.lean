import Tiber.Infrastructure.OutboxRow
import Tiber.Library.Machine
import Mathlib.Logic.Function.Basic

/-! All interleavings of the outbox relay, the broker and the workers on one
accepted intake, one committed transaction at a time.

A worker is one execution of the intake task. It holds its message unacknowledged
until it ends, unless the broker took the message back. Clock readings, stored
rows and answers are free data of the events; a worker may stall for any time,
meet an infrastructure error, or die, at any point.
-/

set_option autoImplicit false

namespace Tiber.IntakeRuns

open Library

structure Wiring where
  processor : IntakeProcessor := {}
  maxRetries : Nat := 5
  maxPublications : Nat := 10

/-- A delivered message: Celery's count of retries, whether the broker still waits for it, and whether
it came out of the dead-letter queue, which is among the queues that the workers consume. -/
structure Delivery where
  retries : Nat
  held : Bool := true
  dead : Bool := false

inductive Stage where
  | entered
  | claimed (snapshot : NotificationIntake)
  | planned (snapshot : NotificationIntake) (recipient : Recipient)
  | ready (snapshot : NotificationIntake) (children : List Notification)
  | failing (snapshot : NotificationIntake) (reason : String)
  | raising

def Stage.snapshot : Stage → Option NotificationIntake
  | claimed snapshot | planned snapshot _ | ready snapshot _ | failing snapshot _ => some snapshot
  | entered | raising => none

inductive Outbox where
  | pending (attempts : Nat)
  | published
  | deadLettered

/-- Messages, queued or scheduled, and those in the dead-letter queue are known by their count
of retries. `holder` is the worker that made the latest claim. Where a session was severed, the
server may hold on to its transaction and to the lock on the row. -/
structure State where
  row : NotificationIntake
  outbox : Outbox := .pending 0
  messages : List Nat := []
  deadLetters : List Nat := []
  children : List Notification := []
  dispatches : List OutboxRow := []
  worker : Nat → Option (Delivery × Stage) := fun _ => none
  holder : Option Nat := none
  severed : Bool := false

/-- How the relay fares with the outbox row: the broker may have the message although the row
does not say so. -/
inductive Publication where
  | recorded
  | unrecorded
  | failed (arrived : Bool)

inductive Event where
  | relay (publication : Publication)
  | deliver (worker retries : Nat)
  | deliverDead (worker retries : Nat)
  | claim (worker : Nat) (now stamp : Instant)
  | giveWay (worker : Nat) (holder : Option Nat)
  | decide (worker : Nat) (around : Surroundings)
  | build (worker : Nat) (around : Surroundings)
  | finish (worker : Nat) (around : Surroundings)
  | fail (worker : Nat) (stamp : Instant)
  | fault (worker : Nat)
  | retry (worker : Nat) (sent : Bool)
  | disconnect (worker : Nat)
  | die (worker : Nat)

def Event.worker : Event → Option Nat
  | .relay _ => none
  | .deliver worker _ | .deliverDead worker _ | .claim worker _ _ | .giveWay worker _ | .decide worker _ | .build worker _
  | .finish worker _ | .fail worker _ | .fault worker | .retry worker _ | .disconnect worker
  | .die worker => some worker

namespace State

variable (state : State)

def Accepted : Prop :=
  state.row.status = .received ∧ state.outbox = .pending 0 ∧ state.holder = none ∧
    state.children = [] ∧ state.dispatches = [] ∧ ∀ worker, state.worker worker = none

def enter (worker : Nat) (delivery : Delivery) (stage : Stage) : State :=
  { state with worker := Function.update state.worker worker (some (delivery, stage)) }

/-- The task has ended; what the broker held for it is acknowledged or rejected. -/
def leave (worker : Nat) : State := { state with worker := Function.update state.worker worker none }

/-- A message is back in the queue that its delivery came from. -/
def requeue (delivery : Delivery) (retries : Nat) : State :=
  if delivery.dead then { state with deadLetters := retries :: state.deadLetters }
  else { state with messages := retries :: state.messages }

/-- Another transaction has the row: a running worker's, or one that was severed. -/
def Locked (worker : Nat) : Option Nat → Prop
  | some holder => holder ≠ worker ∧ (state.worker holder).isSome
  | none => state.severed

instance (worker : Nat) : DecidablePred (state.Locked worker)
  | some holder => inferInstanceAs (Decidable (holder ≠ worker ∧ (state.worker holder).isSome))
  | none => inferInstanceAs (Decidable (state.severed = true))

/-- An exception under the two `except` clauses of `process`. -/
def raise (worker : Nat) (delivery : Delivery) (snapshot : NotificationIntake) (error : PyError) : State :=
  match IntakeProcessor.failureReason error with
  | some reason => state.enter worker delivery (.failing snapshot reason)
  | none => state.enter worker delivery .raising

def existing : Finset DeliveryChannel := (state.children.map (·.channel)).toFinset

def snapshot (worker : Nat) : Option NotificationIntake :=
  (state.worker worker).bind fun run => run.2.snapshot

end State

variable (wiring : Wiring)

def step (state : State) : Event → Option State
  | .relay publication =>
      match state.outbox with
      | .pending attempts =>
          match publication with
          | .recorded => some { state with outbox := .published, messages := 0 :: state.messages }
          | .unrecorded => some { state with messages := 0 :: state.messages }
          | .failed arrived => some { state with
              outbox := if wiring.maxPublications ≤ attempts + 1 then .deadLettered else .pending (attempts + 1)
              messages := if arrived then 0 :: state.messages else state.messages }
      | .published | .deadLettered => none
  | .deliver worker retries =>
      if (state.worker worker).isNone ∧ retries ∈ state.messages then
        some { state.enter worker { retries } .entered with messages := state.messages.erase retries }
      else none
  | .deliverDead worker retries =>
      if (state.worker worker).isNone ∧ retries ∈ state.deadLetters then
        some { state.enter worker { retries, dead := true } .entered with
          deadLetters := state.deadLetters.erase retries }
      else none
  | .claim worker now stamp =>
      match state.worker worker with
      | some (delivery, .entered) =>
          if state.row.isClaimable now wiring.processor.lease then
            match state.row.claim now wiring.processor.lease stamp with
            | .ok claimed => some { state.enter worker delivery (.claimed claimed) with
                row := claimed, holder := some worker }
            | .error _ => some (state.enter worker delivery .raising)
          else some (state.leave worker)
      | _ => none
  | .giveWay worker holder =>
      -- `skip_locked`: another transaction has the row, so it reads as missing
      match state.worker worker with
      | some (_, .entered) | some (_, .failing _ _) =>
          if state.Locked worker holder then some (state.leave worker) else none
      | _ => none
  | .decide worker around =>
      match state.worker worker with
      | some (delivery, .claimed snapshot) => some <|
          if wiring.processor.maxAttempts < snapshot.attempts then
            state.enter worker delivery
              (.failing snapshot ("exceeded " ++ toString wiring.processor.maxAttempts ++ " processing attempts"))
          else
            match around.recipient with
            | none => state.raise worker delivery snapshot (.entityNotFound "Recipient" (uuidText snapshot.recipientId))
            | some recipient =>
                if snapshot.plan = none then
                  match decidePlan snapshot around with
                  | .error error => state.raise worker delivery snapshot error
                  | .ok planned => { state.enter worker delivery (.planned planned recipient) with row := planned }
                else state.enter worker delivery (.planned snapshot recipient)
      | _ => none
  | .build worker around =>
      match state.worker worker with
      | some (delivery, .planned snapshot recipient) => some <|
          match wiring.processor.makeChildren snapshot recipient { around with existing := state.existing } with
          | .error error => state.raise worker delivery snapshot error
          | .ok children => state.enter worker delivery (.ready snapshot children)
      | _ => none
  | .finish worker around =>
      match state.worker worker with
      | some (delivery, .ready snapshot children) => some <|
          -- a channel stored meanwhile violates the unique constraint
          if children.any fun child => child.channel ∈ state.existing then
            state.enter worker delivery .raising
          else
            match snapshot.complete around.completing around.completed with
            | .error error => state.raise worker delivery snapshot error
            | .ok completed =>
                { state.leave worker with
                  row := completed
                  children := children ++ state.children
                  dispatches := dispatchRows children ++ state.dispatches }
      | _ => none
  | .fail worker stamp =>
      match state.worker worker with
      | some (delivery, .failing _ reason) => some <|
          if state.row.status = .completed ∨ state.row.status = .failed then state.leave worker
          else
            match state.row.fail reason stamp with
            | .ok failed => { state.leave worker with row := failed }
            | .error _ => state.enter worker delivery .raising
      | _ => none
  | .fault worker =>
      (state.worker worker).map fun run => { state.enter worker run.1 .raising with severed := true }
  | .retry worker sent =>
      -- Celery rejects a message whose retry it cannot send
      match state.worker worker with
      | some (delivery, .raising) => some <|
          if delivery.retries < wiring.maxRetries ∧ sent then (state.leave worker).requeue delivery (delivery.retries + 1)
          else if delivery.held ∧ ¬ delivery.dead then
            { state.leave worker with deadLetters := delivery.retries :: state.deadLetters }
          -- the dead-letter queue has no dead-letter exchange, so what is rejected there is dropped
          else state.leave worker
      | _ => none
  | .disconnect worker =>
      match state.worker worker with
      | some (delivery, stage) =>
          if delivery.held then
            some ((state.enter worker { delivery with held := false } stage).requeue delivery delivery.retries)
          else none
      | none => none
  | .die worker =>
      (state.worker worker).map fun run =>
        let left := { state.leave worker with severed := true }
        if run.1.held then left.requeue run.1 run.1.retries else left

/-! ## What a step does to the row and to the snapshots -/

namespace State

variable {state : State} {worker other : Nat} {delivery : Delivery} {stage : Stage}

@[simp] theorem enter_self : (state.enter worker delivery stage).worker worker = some (delivery, stage) :=
  Function.update_self ..

@[simp] theorem leave_self : (state.leave worker).worker worker = none := Function.update_self ..

theorem requeue_eq (state : State) (delivery : Delivery) (retries : Nat) :
    ∃ messages deadLetters, state.requeue delivery retries = { state with messages, deadLetters } := by
  unfold requeue
  split
  · exact ⟨_, _, rfl⟩
  · exact ⟨_, _, rfl⟩

@[simp] theorem requeue_worker (retries : Nat) : (state.requeue delivery retries).worker = state.worker := by
  obtain ⟨messages, deadLetters, same⟩ := state.requeue_eq delivery retries
  rw [same]

theorem enter_other (different : other ≠ worker) :
    (state.enter worker delivery stage).worker other = state.worker other :=
  Function.update_of_ne different ..

theorem leave_other (different : other ≠ worker) : (state.leave worker).worker other = state.worker other :=
  Function.update_of_ne different ..

theorem enter_elsewhere {event : Event} (whose : event.worker = some worker) (elsewhere : event.worker ≠ some other) :
    (state.enter worker delivery stage).worker other = state.worker other :=
  enter_other fun same => elsewhere (same ▸ whose)

theorem leave_elsewhere {event : Event} (whose : event.worker = some worker) (elsewhere : event.worker ≠ some other) :
    (state.leave worker).worker other = state.worker other := leave_other fun same => elsewhere (same ▸ whose)

theorem raise_eq (state : State) (worker : Nat) (delivery : Delivery) (snapshot : NotificationIntake)
    (error : PyError) :
    ∃ stage : Stage, (stage.snapshot = none ∨ stage.snapshot = some snapshot) ∧
      state.raise worker delivery snapshot error = state.enter worker delivery stage := by
  unfold raise
  split
  · exact ⟨_, .inr rfl, rfl⟩
  · exact ⟨_, .inl rfl, rfl⟩

theorem snapshot_of {run : Delivery × Stage} (stands : state.worker worker = some run) :
    state.snapshot worker = run.2.snapshot := by rw [snapshot, stands]; rfl

theorem snapshot_out (stands : state.worker worker = none) : state.snapshot worker = none := by
  rw [snapshot, stands]; rfl

theorem Accepted.no_snapshot (accepted : state.Accepted) (worker : Nat) : state.snapshot worker = none := by
  obtain ⟨-, -, -, -, -, idle⟩ := accepted
  exact snapshot_out (idle worker)

end State

/-- The snapshot of a worker whose event writes the row from it, or in spite of it. -/
def writes (state : State) : Event → Option NotificationIntake
  | .decide worker around =>
      match state.worker worker with
      | some (_, .claimed snapshot) =>
          if snapshot.attempts ≤ wiring.processor.maxAttempts ∧ around.recipient ≠ none ∧ snapshot.plan = none
          then some snapshot else none
      | _ => none
  | .finish worker _ =>
      match state.worker worker with
      | some (_, .ready snapshot children) =>
          if children.any fun child => child.channel ∈ state.existing then none else some snapshot
      | _ => none
  | .fail worker _ =>
      match state.worker worker with
      | some (_, .failing snapshot _) =>
          if state.row.status = .completed ∨ state.row.status = .failed then none else some snapshot
      | _ => none
  | _ => none

/-- The row as T2 and `_fail` leave it: planned from the snapshot, or failed from the row. -/
inductive Written (row snapshot next : NotificationIntake) : Prop
  | planned (around : Surroundings) (undecided : snapshot.plan = none)
      (done : decidePlan snapshot around = .ok next)
  | failed (reason : String) (stamp : Instant) (done : row.fail reason stamp = .ok next)

inductive Onward (state : State) (worker : Nat) : Option (Delivery × Stage) → Prop where
  | gone : Onward state worker none
  | bare (delivery : Delivery) (stage : Stage) (empty : stage.snapshot = none) :
      Onward state worker (some (delivery, stage))
  | kept (delivery held : Delivery) (stage : Stage) (stands : state.worker worker = some (held, stage)) :
      Onward state worker (some (delivery, stage))
  | failing (delivery : Delivery) (snapshot : NotificationIntake) (reason : String)
      (carried : state.snapshot worker = some snapshot) :
      Onward state worker (some (delivery, .failing snapshot reason))
  | planned (delivery : Delivery) (snapshot : NotificationIntake) (recipient : Recipient)
      (carried : state.snapshot worker = some snapshot) :
      Onward state worker (some (delivery, .planned snapshot recipient))
  | ready (delivery : Delivery) (snapshot : NotificationIntake) (recipient : Recipient) (around : Surroundings)
      (children : List Notification) (carried : state.snapshot worker = some snapshot)
      (made : wiring.processor.makeChildren snapshot recipient { around with existing := state.existing } =
        .ok children) :
      Onward state worker (some (delivery, .ready snapshot children))

inductive Effect (state : State) (event : Event) (next : State) : Prop where
  | kept (row : next.row = state.row) (holder : next.holder = state.holder)
      (children : next.children = state.children) (dispatches : next.dispatches = state.dispatches)
      (own : ∀ worker, event.worker = some worker → Onward wiring state worker (next.worker worker))
      (others : ∀ other, event.worker ≠ some other → next.worker other = state.worker other)
  | claimed (worker : Nat) (now stamp : Instant) (same : event = .claim worker now stamp)
      (row : state.row.claim now wiring.processor.lease stamp = .ok next.row)
      (holder : next.holder = some worker)
      (children : next.children = state.children) (dispatches : next.dispatches = state.dispatches)
      (own : ∃ delivery, next.worker worker = some (delivery, .claimed next.row))
      (others : ∀ other, event.worker ≠ some other → next.worker other = state.worker other)
  | written (worker : Nat) (snapshot : NotificationIntake) (whose : event.worker = some worker)
      (write : writes wiring state event = some snapshot) (carried : state.snapshot worker = some snapshot)
      (row : Written state.row snapshot next.row) (holder : next.holder = state.holder)
      (children : next.children = state.children) (dispatches : next.dispatches = state.dispatches)
      (open_row : next.row.status ≠ .completed)
      (own : next.worker worker = none ∨ next.row.status = .processing ∧
        ∃ delivery recipient, next.worker worker = some (delivery, .planned next.row recipient))
      (others : ∀ other, event.worker ≠ some other → next.worker other = state.worker other)
  | completed (worker : Nat) (snapshot : NotificationIntake) (delivery : Delivery) (batch : List Notification)
      (now stamp : Instant) (whose : event.worker = some worker)
      (write : writes wiring state event = some snapshot)
      (stands : state.worker worker = some (delivery, .ready snapshot batch))
      (row : snapshot.complete now stamp = .ok next.row) (holder : next.holder = state.holder)
      (children : next.children = batch ++ state.children)
      (dispatches : next.dispatches = dispatchRows batch ++ state.dispatches)
      (own : next.worker worker = none)
      (others : ∀ other, event.worker ≠ some other → next.worker other = state.worker other)

theorem Onward.snapshot {state next : State} {worker : Nat}
    (onward : Onward wiring state worker (next.worker worker)) :
    next.snapshot worker = none ∨ next.snapshot worker = state.snapshot worker := by
  unfold State.snapshot
  generalize next.worker worker = after at onward
  cases onward with
  | gone => exact .inl rfl
  | bare delivery stage empty => exact .inl empty
  | kept delivery held stage stands => exact .inr (by rw [stands]; rfl)
  | failing delivery snapshot reason carried => exact .inr carried.symm
  | planned delivery snapshot recipient carried => exact .inr carried.symm
  | ready delivery snapshot recipient around children carried made => exact .inr carried.symm

namespace Effect

variable {state : State} {event : Event} {worker : Nat} {delivery : Delivery} (whose : event.worker = some worker)

include whose

theorem of_enter {stage : Stage} (onward : Onward wiring state worker (some (delivery, stage)))
    (messages deadLetters : List Nat) (severed : Bool) :
    Effect wiring state event { state.enter worker delivery stage with messages, deadLetters, severed } := by
  refine .kept rfl rfl rfl rfl (fun other mine => ?_) fun other elsewhere => State.enter_elsewhere whose elsewhere
  obtain rfl : worker = other := Option.some.inj (whose.symm.trans mine)
  have entered : ({ state.enter worker delivery stage with messages, deadLetters, severed } : State).worker worker =
      some (delivery, stage) := State.enter_self
  rwa [entered]

theorem of_leave (messages deadLetters : List Nat) (severed : Bool) :
    Effect wiring state event { state.leave worker with messages, deadLetters, severed } := by
  refine .kept rfl rfl rfl rfl (fun other mine => ?_) fun other elsewhere => State.leave_elsewhere whose elsewhere
  obtain rfl : worker = other := Option.some.inj (whose.symm.trans mine)
  have left : ({ state.leave worker with messages, deadLetters, severed } : State).worker worker = none :=
    State.leave_self
  rw [left]
  exact .gone

theorem of_raise {snapshot : NotificationIntake} (carried : state.snapshot worker = some snapshot)
    (error : PyError) : Effect wiring state event (state.raise worker delivery snapshot error) := by
  unfold State.raise
  split
  · rename_i reason failing
    exact of_enter wiring whose (.failing delivery snapshot reason carried) state.messages state.deadLetters
      state.severed
  · exact of_enter wiring whose (.bare delivery .raising rfl) state.messages state.deadLetters
      state.severed

end Effect

variable {wiring}

theorem step_effect {state next : State} {event : Event} (taken : step wiring state event = some next) :
    Effect wiring state event next := by
  -- the branches follow `step`; what is written is classified by where it was made from
  cases event with
  | relay publication =>
      simp only [step] at taken
      split at taken
      · split at taken <;> cases taken <;> exact .kept rfl rfl rfl rfl nofun fun _ _ => rfl
      · cases taken
      · cases taken
  | deliver worker retries | deliverDead worker retries =>
      simp only [step] at taken
      split at taken <;> cases taken
      exact .of_enter wiring rfl (.bare _ _ rfl) _ _ _
  | claim worker now stamp =>
      simp only [step] at taken
      split at taken
      · rename_i delivery stands
        split at taken
        · split at taken
          · rename_i claimed done
            cases taken
            exact .claimed worker now stamp rfl done rfl rfl rfl ⟨delivery, State.enter_self⟩
              fun other elsewhere => State.enter_elsewhere rfl elsewhere
          · cases taken; exact .of_enter wiring rfl (.bare _ _ rfl) _ _ _
        · cases taken; exact .of_leave wiring rfl _ _ _
      · cases taken
  | giveWay worker holder =>
      simp only [step] at taken
      split at taken
      · split at taken <;> cases taken; exact .of_leave wiring rfl _ _ _
      · split at taken <;> cases taken; exact .of_leave wiring rfl _ _ _
      · cases taken
  | decide worker around =>
      simp only [step] at taken
      split at taken
      · rename_i delivery snapshot stands
        have carried : state.snapshot worker = some snapshot := State.snapshot_of stands
        cases taken
        split
        · exact .of_enter wiring rfl (.failing delivery snapshot _ carried) _ _ _
        rename_i few
        split
        · exact .of_raise wiring rfl carried _
        rename_i recipient found
        split
        · rename_i undecided
          split
          · exact .of_raise wiring rfl carried _
          · rename_i planned decided
            -- a decision is taken on a claimed intake
            have processing : planned.status = .processing := by
              obtain ⟨processing, plan, fields⟩ := decidePlan_eq_ok decided
              rw [fields]
              exact processing
            refine .written worker snapshot rfl ?_ carried (.planned around undecided decided) rfl rfl rfl ?_
              (.inr ⟨processing, delivery, recipient, State.enter_self⟩)
              fun other elsewhere => State.enter_elsewhere rfl elsewhere
            · simp [writes, stands, found, undecided, Nat.le_of_not_lt few]
            · simp [processing]
        · exact .of_enter wiring rfl (.planned delivery snapshot recipient carried) _ _ _
      · cases taken
  | build worker around =>
      simp only [step] at taken
      split at taken
      · rename_i delivery snapshot recipient stands
        have carried : state.snapshot worker = some snapshot := State.snapshot_of stands
        cases taken
        split
        · exact .of_raise wiring rfl carried _
        · rename_i children made
          exact .of_enter wiring rfl (.ready delivery snapshot recipient around children carried made) _ _ _
      · cases taken
  | finish worker around =>
      simp only [step] at taken
      split at taken
      · rename_i delivery snapshot children stands
        have carried : state.snapshot worker = some snapshot := State.snapshot_of stands
        cases taken
        split
        · exact .of_enter wiring rfl (.bare _ _ rfl) _ _ _
        rename_i free
        split
        · exact .of_raise wiring rfl carried _
        · rename_i completed done
          refine .completed worker snapshot delivery children _ _ rfl ?_ stands done rfl rfl rfl State.leave_self
            fun other elsewhere => State.leave_elsewhere rfl elsewhere
          simp only [writes, stands, free]
          rfl
      · cases taken
  | fail worker stamp =>
      simp only [step] at taken
      split at taken
      · rename_i delivery snapshot reason stands
        have carried : state.snapshot worker = some snapshot := State.snapshot_of stands
        cases taken
        split
        · exact .of_leave wiring rfl _ _ _
        rename_i live
        split
        · rename_i failed done
          refine .written worker snapshot rfl ?_ carried (.failed reason stamp done) rfl rfl rfl ?_
            (.inl State.leave_self) fun other elsewhere => State.leave_elsewhere rfl elsewhere
          · simp only [writes, stands, live, if_false]
          · simp [(NotificationIntake.fail_eq_ok.mp done).2.2]
        · exact .of_enter wiring rfl (.bare _ _ rfl) _ _ _
      · cases taken
  | fault worker =>
      simp only [step, Option.map_eq_some_iff] at taken
      obtain ⟨run, -, rfl⟩ := taken
      exact .of_enter wiring rfl (.bare _ _ rfl) _ _ _
  | retry worker sent =>
      simp only [step] at taken
      split at taken
      · rename_i delivery stands
        cases taken
        split
        · obtain ⟨messages, deadLetters, same⟩ := (state.leave worker).requeue_eq delivery (delivery.retries + 1)
          rw [same]
          exact .of_leave wiring rfl _ _ _
        split
        · exact .of_leave wiring rfl _ _ _
        · exact .of_leave wiring rfl _ _ _
      · cases taken
  | disconnect worker =>
      simp only [step] at taken
      split at taken
      · rename_i delivery stage stands
        split at taken <;> cases taken
        obtain ⟨messages, deadLetters, same⟩ :=
          (state.enter worker { delivery with held := false } stage).requeue_eq delivery delivery.retries
        rw [same]
        exact .of_enter wiring rfl (.kept _ delivery stage stands) _ _ _
      · cases taken
  | die worker =>
      simp only [step, Option.map_eq_some_iff] at taken
      obtain ⟨run, -, rfl⟩ := taken
      split
      · obtain ⟨messages, deadLetters, same⟩ :=
          State.requeue_eq { state.leave worker with severed := true } run.1 run.1.retries
        rw [same]
        exact .of_leave wiring rfl _ _ _
      · exact .of_leave wiring rfl _ _ _

theorem step_others {state next : State} {event : Event} (taken : step wiring state event = some next)
    {other : Nat} (elsewhere : event.worker ≠ some other) : next.worker other = state.worker other := by
  cases step_effect taken with
  | kept row holder children dispatches own others => exact others other elsewhere
  | claimed worker now stamp same row holder children dispatches own others => exact others other elsewhere
  | written worker snapshot whose write carried row holder children dispatches open_row own others =>
      exact others other elsewhere
  | completed worker snapshot delivery batch now stamp whose write stands row holder children dispatches own others =>
      exact others other elsewhere

theorem snapshot_others {state next : State} {event : Event} (taken : step wiring state event = some next)
    {other : Nat} (elsewhere : event.worker ≠ some other) : next.snapshot other = state.snapshot other := by
  rw [State.snapshot, State.snapshot, step_others taken elsewhere]

theorem run_others {state final : State} {events : List Event}
    (reached : Machine.run (step wiring) state events = some final) {other : Nat}
    (elsewhere : ∀ event ∈ events, event.worker ≠ some other) : final.worker other = state.worker other := by
  induction events generalizing state with
  | nil => cases reached; rfl
  | cons event rest ih =>
      obtain ⟨next, taken, later⟩ := Machine.run_cons_eq_some.mp reached
      rw [ih later fun event member => elsewhere event (.tail _ member)]
      exact step_others taken (elsewhere event (.head _))

/-! ## What workers carry after a step -/

/-- A snapshot is an old one, or the row as its worker has just claimed or planned it. -/
theorem step_carried {state next : State} {event : Event} (taken : step wiring state event = some next)
    {worker : Nat} {snapshot : NotificationIntake} (carried : next.snapshot worker = some snapshot) :
    state.snapshot worker = some snapshot ∨ snapshot = next.row ∧ next.row.status = .processing := by
  by_cases mine : event.worker = some worker
  · -- the event is this worker's own
    have own {other : Nat} (whose : event.worker = some other) : worker = other :=
      Option.some.inj (mine.symm.trans whose)
    cases step_effect taken with
    | kept row holder children dispatches onward =>
        rcases (onward worker mine).snapshot with dropped | same
        · rw [dropped] at carried
          cases carried
        · exact .inl (same ▸ carried)
    | claimed other now stamp same row holder children dispatches stands =>
        obtain ⟨delivery, stands⟩ := stands
        obtain rfl : worker = other := own (by rw [same]; rfl)
        rw [State.snapshot_of stands] at carried
        cases carried
        exact .inr ⟨rfl, by rw [(NotificationIntake.claim_eq_ok.mp row).2]⟩
    | written other before whose write held row holder children dispatches open_row stands =>
        obtain rfl := own whose
        rcases stands with gone | ⟨processing, delivery, recipient, stands⟩
        · rw [State.snapshot_out gone] at carried
          cases carried
        · rw [State.snapshot_of stands] at carried
          cases carried
          exact .inr ⟨rfl, processing⟩
    | completed other before delivery batch now stamp whose write stands row holder children dispatches gone =>
        obtain rfl := own whose
        rw [State.snapshot_out gone] at carried
        cases carried
  · exact .inl (snapshot_others taken mine ▸ carried)

/-- A batch is an old one, or its worker has just made it from the children stored by then. -/
theorem step_ready {state next : State} {event : Event} (taken : step wiring state event = some next)
    {worker : Nat} {delivery : Delivery} {snapshot : NotificationIntake} {batch : List Notification}
    (stands : next.worker worker = some (delivery, .ready snapshot batch)) :
    (∃ held, state.worker worker = some (held, .ready snapshot batch)) ∨
      next.row = state.row ∧ state.snapshot worker = some snapshot ∧ ∃ recipient, ∃ around : Surroundings,
        wiring.processor.makeChildren snapshot recipient { around with existing := state.existing } = .ok batch := by
  by_cases mine : event.worker = some worker
  · have own {other : Nat} (whose : event.worker = some other) : worker = other :=
      Option.some.inj (mine.symm.trans whose)
    cases step_effect taken with
    | kept row holder children dispatches onward =>
        have moved := onward worker mine
        rw [stands] at moved
        cases moved with
        | bare _ _ empty => cases empty
        | kept _ held _ before => exact .inl ⟨held, before⟩
        | ready _ _ recipient around _ carried made => exact .inr ⟨row, carried, recipient, around, made⟩
    | claimed other now stamp same row holder children dispatches entered =>
        obtain ⟨claiming, entered⟩ := entered
        obtain rfl : worker = other := own (by rw [same]; rfl)
        cases entered.symm.trans stands
    | written other before whose write held row holder children dispatches open_row entered =>
        obtain rfl := own whose
        rcases entered with gone | ⟨-, planned, recipient, entered⟩
        · cases gone.symm.trans stands
        · cases entered.symm.trans stands
    | completed other before held made now stamp whose write entered row holder children dispatches gone =>
        obtain rfl := own whose
        cases gone.symm.trans stands
  · exact .inl ⟨delivery, step_others taken mine ▸ stands⟩

theorem step_announced {state next : State} {event : Event} (taken : step wiring state event = some next)
    (announced : state.dispatches = dispatchRows state.children) : next.dispatches = dispatchRows next.children := by
  cases step_effect taken with
  | kept row holder children dispatches => rw [children, dispatches, announced]
  | claimed worker now stamp same row holder children dispatches => rw [children, dispatches, announced]
  | written worker snapshot whose write carried row holder children dispatches => rw [children, dispatches, announced]
  | completed worker snapshot delivery batch now stamp whose write stands row holder children dispatches =>
      rw [children, dispatches, announced, dispatchRows_append]

end Tiber.IntakeRuns
