import Tiber.Infrastructure.OutboxRow
import Tiber.Infrastructure.RecipientWrite
import Tiber.Library.Machine
import Tiber.Library.UniqueIndex
import Mathlib.Logic.Function.Basic

/-! All interleavings of any number of accept calls, one statement at a time.

A call is one transaction under READ COMMITTED: each statement reads the rows committed by
then. An update locks its row, and the conditional insert waits for an open transaction that
has entered the same key. What a call computes between two statements is done with the first
of them. Topics, templates and generated values are free data of the events.
-/

set_option autoImplicit false

namespace Tiber.AcceptRuns

open Library

/-- How a call ended: `unheard` is a commit whose confirmation was lost, an aborted call was
refused for what it asks, or met an infrastructure error. -/
inductive Outcome where
  | returned (answer : AcceptedIntake)
  | unheard (answer : AcceptedIntake)
  | raised (error : PyError)
  | aborted (refusal : Option PyError)

inductive Phase where
  | idle
  | looked
  | expanded (creation : Creation) (write : RecipientWrite)
  | written (creation : Creation) (write : RecipientWrite)
  | inserted (creation : Creation) (write : RecipientWrite)
  | lost (creation : Creation) (write : RecipientWrite)
  | answering (answer : AcceptedIntake) (made : Option (Recipient × RecipientWrite))
  | ended (outcome : Outcome)

def Phase.resolved : Phase → Option (Recipient × RecipientWrite)
  | expanded creation write | written creation write | inserted creation write | lost creation write =>
      some (creation.recipient, write)
  | answering _ made => made
  | idle | looked | ended _ => none

def Phase.creation : Phase → Option Creation
  | expanded creation _ | written creation _ | inserted creation _ | lost creation _ => some creation
  | idle | looked | answering _ _ | ended _ => none

theorem Phase.resolved_of_creation {phase : Phase} {creation : Creation} (carried : phase.creation = some creation) :
    ∃ write, phase.resolved = some (creation.recipient, write) := by
  cases phase with
  | expanded made write | written made write | inserted made write | lost made write =>
      cases carried
      exact ⟨write, rfl⟩
  | idle | looked | answering answer made | ended outcome => cases carried

def Phase.write (phase : Phase) : RecipientWrite := phase.resolved.elim .none Prod.snd

/-- The partial unique index on project and idempotency key has no entry without a key. -/
def indexKey (intake : NotificationIntake) : Option (Uuid × Text) :=
  intake.idempotencyKey.map fun key => (intake.projectId, key)

theorem indexKey_eq_some {intake : NotificationIntake} {projectId : Uuid} {key : Text} :
    indexKey intake = some (projectId, key) ↔ intake.Keyed projectId key := by
  simp [indexKey, NotificationIntake.Keyed, and_comm]

def Phase.keys : Phase → List (Uuid × Text)
  | inserted creation _ => (indexKey creation.intake).toList
  | _ => []

structure State where
  recipients : List Recipient := []
  intakes : List NotificationIntake := []
  outbox : List OutboxRow := []
  index : UniqueIndex (Uuid × Text) := {}
  locks : List (Nat × Uuid) := []
  phase : Nat → Phase := fun _ => .idle

inductive Event where
  | look (call : Nat)
  | expand (call : Nat) (topics : List NotificationTopic) (templates : List Template) (minted : Minted)
  | write (call : Nat)
  | insert (call : Nat)
  | relook (call : Nat)
  | commit (call : Nat) (heard : Bool)
  | abort (call : Nat)

namespace State

variable (state : State)

def enter (call : Nat) (phase : Phase) : State :=
  { state with phase := Function.update state.phase call phase }

def leave (call : Nat) (outcome : Outcome) : State :=
  { state.enter call (.ended outcome) with
    index := state.index.abort call
    locks := state.locks.filter (·.1 ≠ call) }

def close (call : Nat) (heard : Bool) (answer : AcceptedIntake) (recipients : List Recipient)
    (intakes : List NotificationIntake) (outbox : List OutboxRow) : State :=
  { state.enter call (.ended (if heard then .returned answer else .unheard answer)) with
    recipients, intakes, outbox
    index := state.index.commit call
    locks := state.locks.filter (·.1 ≠ call) }

@[simp] theorem enter_phase (call : Nat) (phase : Phase) : (state.enter call phase).phase call = phase :=
  Function.update_self ..

@[simp] theorem leave_index (call : Nat) (outcome : Outcome) :
    (state.leave call outcome).index = state.index.abort call := rfl

@[simp] theorem close_index (call : Nat) (heard : Bool) (answer : AcceptedIntake) (recipients : List Recipient)
    (intakes : List NotificationIntake) (outbox : List OutboxRow) :
    (state.close call heard answer recipients intakes outbox).index = state.index.commit call := rfl

@[simp] theorem close_intakes (call : Nat) (heard : Bool) (answer : AcceptedIntake) (recipients : List Recipient)
    (intakes : List NotificationIntake) (outbox : List OutboxRow) :
    (state.close call heard answer recipients intakes outbox).intakes = intakes := rfl

end State

variable (runtime : Runtime) (command : Nat → AcceptNotificationCommand)

def step (state : State) : Event → Option State
  | .look call =>
      match state.phase call with
      | .idle => some <|
          match replay runtime state.intakes (command call) with
          | .ok none => state.enter call .looked
          | .ok (some answer) => state.enter call (.answering answer none)
          | .error error => state.leave call (.raised error)
      | _ => none
  | .expand call topics templates minted =>
      match state.phase call with
      | .looked => some <|
          match expand runtime { recipients := state.recipients, topics, templates } (command call) minted with
          | .ok creation => state.enter call
              (.expanded creation (recipientWrite runtime state.recipients (command call) creation.recipient))
          | .error error => state.leave call (.aborted (some error))
      | _ => none
  | .write call =>
      match state.phase call with
      | .expanded creation (.save updated) =>
          if updated.id ∈ state.locks.map Prod.snd then none
          else some { state.enter call (.written creation (.save updated)) with
            locks := (call, updated.id) :: state.locks }
      | .expanded creation write => some (state.enter call (.written creation write))
      | _ => none
  | .insert call =>
      match state.phase call with
      | .written creation write =>
          match indexKey creation.intake with
          | none => some (state.enter call (.inserted creation write))
          | some key =>
              -- `ON CONFLICT DO NOTHING`
              match state.index.insert call key with
              | .nothing => some (state.enter call (.lost creation write))
              | .waits => none
              | .entered index => some { state.enter call (.inserted creation write) with index }
      | _ => none
  | .relook call =>
      match state.phase call with
      | .lost creation write => some <|
          match replay runtime state.intakes (command call) with
          | .ok none => state.leave call (.raised .intakeAlreadyExists)
          | .ok (some answer) => state.enter call (.answering answer (some (creation.recipient, write)))
          | .error error => state.leave call (.raised error)
      | _ => none
  | .commit call heard =>
      match state.phase call with
      | .inserted creation write =>
          -- a generated identifier that is taken leaves only the abort
          if creation.intake.id ∈ state.intakes.map (·.id) then none
          else (write.store state.recipients).map fun recipients =>
            state.close call heard creation.answer recipients (creation.intake :: state.intakes)
              (enqueueIntake creation.intake creation.priority :: state.outbox)
      | .answering answer made =>
          ((Phase.answering answer made).write.store state.recipients).map fun recipients =>
            state.close call heard answer recipients state.intakes state.outbox
      | _ => none
  | .abort call =>
      match state.phase call with
      | .ended _ => none
      | _ => some (state.leave call (.aborted none))

structure State.Fresh (state : State) : Prop where
  idle : ∀ call, state.phase call = .idle
  calm : state.index.pending = []
  indexed : state.index.committed = state.intakes.filterMap indexKey
  unique : (state.intakes.filterMap indexKey).Nodup
  known : (state.recipients.map (·.id)).Nodup
  identified : (state.intakes.map (·.id)).Nodup
  announced : List.Forall₂ (fun row intake => row.kind = .intake ∧ row.aggregateId = intake.id)
    state.outbox state.intakes

/-! ## What a step does -/

inductive Onward (state : State) (call : Nat) : Phase → Prop where
  | looked (stands : state.phase call = .idle) : Onward state call .looked
  | known (answer : AcceptedIntake) (stands : state.phase call = .idle)
      (found : replay runtime state.intakes (command call) = .ok (some answer)) :
      Onward state call (.answering answer none)
  | expanded (topics : List NotificationTopic) (templates : List Template) (minted : Minted) (creation : Creation)
      (stands : state.phase call = .looked)
      (made : expand runtime { recipients := state.recipients, topics, templates } (command call) minted =
        .ok creation) :
      Onward state call
        (.expanded creation (recipientWrite runtime state.recipients (command call) creation.recipient))
  | written (creation : Creation) (write : RecipientWrite) (stands : state.phase call = .expanded creation write) :
      Onward state call (.written creation write)
  | unkeyed (creation : Creation) (write : RecipientWrite) (stands : state.phase call = .written creation write)
      (free : indexKey creation.intake = none) : Onward state call (.inserted creation write)
  | lost (creation : Creation) (write : RecipientWrite) (key : Uuid × Text)
      (stands : state.phase call = .written creation write) (keyed : indexKey creation.intake = some key)
      (taken : key ∈ state.index.committed) : Onward state call (.lost creation write)
  | replayed (answer : AcceptedIntake) (creation : Creation) (write : RecipientWrite)
      (stands : state.phase call = .lost creation write)
      (found : replay runtime state.intakes (command call) = .ok (some answer)) :
      Onward state call (.answering answer (some (creation.recipient, write)))

inductive Stops (state : State) (call : Nat) : Outcome → Prop where
  | conflicting (error : PyError) (found : replay runtime state.intakes (command call) = .error error) :
      Stops state call (.raised error)
  | vanished (creation : Creation) (write : RecipientWrite) (stands : state.phase call = .lost creation write)
      (found : replay runtime state.intakes (command call) = .ok none) :
      Stops state call (.raised .intakeAlreadyExists)
  | aborted (refusal : Option PyError) : Stops state call (.aborted refusal)

/-- What an event does to its call and to the stored rows. -/
inductive Effect (state : State) (event : Event) : State → Prop where
  | entered (call : Nat) (phase : Phase) (locks : List (Nat × Uuid)) (onward : Onward runtime command state call phase)
      (silent : ∀ other heard, event ≠ .commit other heard) :
      Effect state event { state.enter call phase with locks }
  | keyed (call : Nat) (creation : Creation) (write : RecipientWrite) (key : Uuid × Text)
      (index : UniqueIndex (Uuid × Text)) (stands : state.phase call = .written creation write)
      (key_eq : indexKey creation.intake = some key) (done : state.index.insert call key = .entered index)
      (silent : ∀ other heard, event ≠ .commit other heard) :
      Effect state event { state.enter call (.inserted creation write) with index }
  | left (call : Nat) (outcome : Outcome) (stops : Stops runtime command state call outcome)
      (running : ∀ outcome, state.phase call ≠ .ended outcome)
      (silent : ∀ other heard, event ≠ .commit other heard) : Effect state event (state.leave call outcome)
  | created (call : Nat) (heard : Bool) (creation : Creation) (write : RecipientWrite) (recipients : List Recipient)
      (same : event = .commit call heard) (stands : state.phase call = .inserted creation write)
      (fresh : creation.intake.id ∉ state.intakes.map (·.id))
      (stored : write.store state.recipients = some recipients) :
      Effect state event (state.close call heard creation.answer recipients (creation.intake :: state.intakes)
        (enqueueIntake creation.intake creation.priority :: state.outbox))
  | answered (call : Nat) (heard : Bool) (answer : AcceptedIntake) (made : Option (Recipient × RecipientWrite))
      (recipients : List Recipient) (same : event = .commit call heard)
      (stands : state.phase call = .answering answer made)
      (stored : (Phase.answering answer made).write.store state.recipients = some recipients) :
      Effect state event (state.close call heard answer recipients state.intakes state.outbox)

variable {runtime command}

theorem step_effect {state next : State} {event : Event} (taken : step runtime command state event = some next) :
    Effect runtime command state event next := by
  -- the branches follow `step`
  cases event with
  | look call =>
      simp only [step] at taken
      split at taken
      · rename_i stands
        cases taken
        split
        · exact .entered call .looked state.locks (.looked stands) nofun
        · rename_i answer found
          exact .entered call _ state.locks (.known answer stands found) nofun
        · rename_i error found
          exact .left call _ (.conflicting error found) (by simp [stands]) nofun
      · cases taken
  | expand call topics templates minted =>
      simp only [step] at taken
      split at taken
      · rename_i stands
        cases taken
        split
        · rename_i creation made
          exact .entered call _ state.locks (.expanded topics templates minted creation stands made) nofun
        · exact .left call _ (.aborted _) (by simp [stands]) nofun
      · cases taken
  | write call =>
      simp only [step] at taken
      split at taken
      -- saving a recipient waits for whoever has its row locked
      · rename_i creation updated stands
        split at taken
        · cases taken
        · cases taken
          exact .entered call _ _ (.written creation (.save updated) stands) nofun
      · rename_i creation write _ stands
        cases taken
        exact .entered call _ state.locks (.written creation write stands) nofun
      · cases taken
  | insert call =>
      simp only [step] at taken
      split at taken
      · rename_i creation write stands
        split at taken
        · rename_i free
          cases taken
          exact .entered call _ state.locks (.unkeyed creation write stands free) nofun
        -- the unique index decides: another call has the key, somebody is still inserting it, or it is free
        · rename_i key keyed
          split at taken
          · rename_i done
            cases taken
            exact .entered call _ state.locks
              (.lost creation write key stands keyed (UniqueIndex.insert_nothing done)) nofun
          · cases taken
          · rename_i index done
            cases taken
            exact .keyed call creation write key index stands keyed done nofun
      · cases taken
  | relook call =>
      simp only [step] at taken
      split at taken
      · rename_i creation write stands
        cases taken
        split
        · rename_i found
          exact .left call _ (.vanished creation write stands found) (by simp [stands]) nofun
        · rename_i answer found
          exact .entered call _ state.locks (.replayed answer creation write stands found) nofun
        · rename_i error found
          exact .left call _ (.conflicting error found) (by simp [stands]) nofun
      · cases taken
  | commit call heard =>
      simp only [step] at taken
      split at taken
      · rename_i creation write stands
        split at taken
        · cases taken
        · rename_i fresh
          obtain ⟨recipients, stored, rfl⟩ := Option.map_eq_some_iff.mp taken
          exact .created call heard creation write recipients rfl stands fresh stored
      · rename_i answer made stands
        obtain ⟨recipients, stored, rfl⟩ := Option.map_eq_some_iff.mp taken
        exact .answered call heard answer made recipients rfl stands stored
      · cases taken
  | abort call =>
      simp only [step] at taken
      split at taken
      · cases taken
      · rename_i running
        cases taken
        exact .left call _ (.aborted none) running nofun

/-- Only a commit changes what is stored. -/
theorem step_stored {state next : State} {event : Event} (taken : step runtime command state event = some next)
    (silent : ∀ call heard, event ≠ .commit call heard) :
    next.recipients = state.recipients ∧ next.intakes = state.intakes ∧ next.outbox = state.outbox := by
  cases step_effect taken with
  | entered call phase locks onward _ => exact ⟨rfl, rfl, rfl⟩
  | keyed call creation write key index stands keyed done _ => exact ⟨rfl, rfl, rfl⟩
  | left call outcome stops running _ => exact ⟨rfl, rfl, rfl⟩
  | created call heard creation write recipients same stands fresh stored => exact absurd same (silent call heard)
  | answered call heard answer made recipients same stands stored => exact absurd same (silent call heard)

/-- A commit applies the call's own write to the recipients stored by then. -/
theorem step_commit_recipients {state next : State} {call : Nat} {heard : Bool}
    (taken : step runtime command state (.commit call heard) = some next) :
    (state.phase call).write.store state.recipients = some next.recipients := by
  cases step_effect taken with
  | entered _ _ _ _ silent | keyed _ _ _ _ _ _ _ _ silent | left _ _ _ _ silent => exact absurd rfl (silent call heard)
  | created mover told creation write recipients same stands fresh stored =>
      cases same
      rw [stands]
      exact stored
  | answered mover told answer made recipients same stands stored =>
      cases same
      rw [stands]
      exact stored

theorem Onward.resolved {state : State} {call : Nat} {phase : Phase} (onward : Onward runtime command state call phase)
    {recipient : Recipient} {write : RecipientWrite} (resolved : phase.resolved = some (recipient, write)) :
    (state.phase call).resolved = some (recipient, write) ∨
      ∃ minted, Resolved runtime state.recipients (command call) minted recipient write := by
  cases onward with
  | looked stands | known answer stands found => cases resolved
  | expanded topics templates minted creation stands made =>
      cases resolved
      exact .inr ⟨minted, expand_resolved made⟩
  | written creation write stands | unkeyed creation write stands free | lost creation write key stands keyed taken
  | replayed answer creation write stands found =>
      rw [stands]
      exact .inl resolved

variable (runtime command) in
inductive Moved (state next : State) (call : Nat) : Prop where
  | same (kept : next.phase call = state.phase call)
  | onward (rows : next.recipients = state.recipients) (onward : Onward runtime command state call (next.phase call))
  | keyed (creation : Creation) (write : RecipientWrite) (stands : state.phase call = .written creation write)
      (entered : next.phase call = .inserted creation write)
  | ended (outcome : Outcome) (ended : next.phase call = .ended outcome)

theorem step_moved {state next : State} {event : Event} (taken : step runtime command state event = some next)
    (call : Nat) : Moved runtime command state next call := by
  have elsewhere {mover : Nat} {phase : Phase} (other : call ≠ mover) :
      Function.update state.phase mover phase call = state.phase call := Function.update_of_ne other ..
  -- only the event's own call moves
  cases step_effect taken with
  | entered mover phase locks onward _ =>
      by_cases mine : call = mover
      · cases mine
        exact .onward rfl (by rw [State.enter_phase]; exact onward)
      · exact .same (elsewhere mine)
  | keyed mover creation write key index stands keyed done _ =>
      by_cases mine : call = mover
      · cases mine
        exact .keyed creation write stands (Function.update_self ..)
      · exact .same (elsewhere mine)
  | left mover outcome stops running _ =>
      by_cases mine : call = mover
      · cases mine
        exact .ended outcome (Function.update_self ..)
      · exact .same (elsewhere mine)
  | created mover heard creation write recipients same stands fresh stored =>
      by_cases mine : call = mover
      · cases mine
        exact .ended _ (Function.update_self ..)
      · exact .same (elsewhere mine)
  | answered mover heard answer made recipients same stands stored =>
      by_cases mine : call = mover
      · cases mine
        exact .ended _ (Function.update_self ..)
      · exact .same (elsewhere mine)

/-- A call resolves its recipient once, from the rows stored then. -/
theorem step_resolved {state next : State} {event : Event} (taken : step runtime command state event = some next)
    {call : Nat} {recipient : Recipient} {write : RecipientWrite}
    (resolved : (next.phase call).resolved = some (recipient, write)) :
    (state.phase call).resolved = some (recipient, write) ∨
      next.recipients = state.recipients ∧
        ∃ minted, Resolved runtime state.recipients (command call) minted recipient write := by
  cases step_moved taken call with
  | same kept =>
      rw [kept] at resolved
      exact .inl resolved
  | onward rows onward => exact (onward.resolved resolved).imp_right fun read => ⟨rows, read⟩
  | keyed creation made stands entered =>
      rw [entered] at resolved
      rw [stands]
      exact .inl resolved
  | ended outcome ended =>
      rw [ended] at resolved
      cases resolved

def Named (state : State) : Prop :=
  ∀ call creation, (state.phase call).creation = some creation → creation.intake.recipientId = creation.recipient.id

theorem named_keeps : Machine.Keeps (step runtime command) (fun _ _ => True) Named := by
  intro state event next named _ taken call creation carried
  have before := named call creation
  cases step_moved taken call with
  | same kept =>
      rw [kept] at carried
      exact before carried
  | onward rows onward =>
      generalize next.phase call = phase at onward carried
      cases onward with
      | looked stands | known answer stands found | replayed answer creation write stands found => cases carried
      | expanded topics templates minted creation stands made =>
          cases carried
          exact (expand_established made).recipient
      | written creation write stands | unkeyed creation write stands free
      | lost creation write key stands keyed taken =>
          rw [stands] at before
          exact before carried
  | keyed made write stands entered =>
      rw [entered] at carried
      rw [stands] at before
      exact before carried
  | ended outcome ended =>
      rw [ended] at carried
      cases carried

/-! ## Ended calls -/

theorem Onward.running {state : State} {call : Nat} {phase : Phase} (onward : Onward runtime command state call phase)
    (outcome : Outcome) : state.phase call ≠ .ended outcome := by
  cases onward with
  | looked stands | known answer stands found | expanded topics templates minted creation stands made
  | written creation write stands | unkeyed creation write stands free
  | lost creation write key stands keyed taken | replayed answer creation write stands found => simp [stands]

theorem step_ended {state next : State} {event : Event} (taken : step runtime command state event = some next)
    {call : Nat} {outcome : Outcome} (ended : state.phase call = .ended outcome) :
    next.phase call = .ended outcome := by
  have moved {mover : Nat} (phase : Phase) (running : ∀ outcome, state.phase mover ≠ .ended outcome) :
      Function.update state.phase mover phase call = .ended outcome := by
    have elsewhere : call ≠ mover := by
      rintro rfl
      exact running outcome ended
    rw [Function.update_of_ne elsewhere]
    exact ended
  cases step_effect taken with
  | entered mover phase locks onward _ => exact moved phase onward.running
  | keyed mover creation write key index stands keyed done _ => exact moved _ (by simp [stands])
  | left mover outcome stops running _ => exact moved _ running
  | created mover heard creation write recipients same stands fresh stored => exact moved _ (by simp [stands])
  | answered mover heard answer made recipients same stands stored => exact moved _ (by simp [stands])

theorem step_commit {state next : State} {call : Nat} {heard : Bool}
    (taken : step runtime command state (.commit call heard) = some next) :
    ∃ answer, next.phase call = .ended (if heard then .returned answer else .unheard answer) := by
  cases step_effect taken with
  | entered _ _ _ _ silent | keyed _ _ _ _ _ _ _ _ silent | left _ _ _ _ silent => exact absurd rfl (silent call heard)
  | created mover told creation write recipients same stands fresh stored =>
      cases same
      exact ⟨_, Function.update_self ..⟩
  | answered mover told answer made recipients same stands stored =>
      cases same
      exact ⟨_, Function.update_self ..⟩

theorem run_ended {state final : State} {events : List Event}
    (reached : Machine.run (step runtime command) state events = some final) {call : Nat} {outcome : Outcome}
    (ended : state.phase call = .ended outcome) : final.phase call = .ended outcome := by
  induction events generalizing state with
  | nil => cases reached; exact ended
  | cons event rest ih =>
      obtain ⟨next, taken, later⟩ := Machine.run_cons_eq_some.mp reached
      exact ih later (step_ended taken ended)

/-- A call that has committed returns, if the confirmation arrives. -/
theorem run_commit {state final : State} {events : List Event}
    (reached : Machine.run (step runtime command) state events = some final) {call : Nat} {heard : Bool}
    (committed : .commit call heard ∈ events) :
    ∃ answer, final.phase call = .ended (if heard then .returned answer else .unheard answer) := by
  induction events generalizing state with
  | nil => cases committed
  | cons event rest ih =>
      obtain ⟨next, taken, later⟩ := Machine.run_cons_eq_some.mp reached
      rcases List.mem_cons.mp committed with rfl | elsewhere
      · obtain ⟨answer, ended⟩ := step_commit taken
        exact ⟨answer, run_ended later ended⟩
      · exact ih later elsewhere

/-! ## A call on its own -/

def alone (call : Nat) (topics : List NotificationTopic) (templates : List Template) (minted : Minted) : List Event :=
  [.look call, .expand call topics templates minted, .write call, .insert call, .commit call true]

section Alone

variable {state : State} {call : Nat} {creation : Creation} {write : RecipientWrite}

theorem step_look (stands : state.phase call = .idle) (found : replay runtime state.intakes (command call) = .ok none) :
    step runtime command state (.look call) = some (state.enter call .looked) := by
  simp only [step, stands, found]

theorem step_expand {topics : List NotificationTopic} {templates : List Template} {minted : Minted}
    (stands : state.phase call = .looked)
    (made : expand runtime { recipients := state.recipients, topics, templates } (command call) minted = .ok creation) :
    step runtime command state (.expand call topics templates minted) = some (state.enter call
      (.expanded creation (recipientWrite runtime state.recipients (command call) creation.recipient))) := by
  simp only [step, stands, made]

theorem step_write (stands : state.phase call = .expanded creation write) (unlocked : state.locks = []) :
    ∃ next, step runtime command state (.write call) = some next ∧ next.phase call = .written creation write ∧
      next.index = state.index := by
  cases write with
  | save updated =>
      simp only [step, stands, unlocked, List.map_nil, List.not_mem_nil, if_false]
      exact ⟨_, rfl, Function.update_self .., rfl⟩
  | none | add recipient =>
      simp only [step, stands]
      exact ⟨_, rfl, Function.update_self .., rfl⟩

theorem step_insert (stands : state.phase call = .written creation write) (calm : state.index.pending = [])
    (free : ∀ key, indexKey creation.intake = some key → key ∉ state.index.committed) :
    ∃ next, step runtime command state (.insert call) = some next ∧ next.phase call = .inserted creation write := by
  simp only [step, stands]
  cases keyed : indexKey creation.intake with
  | none => exact ⟨_, rfl, Function.update_self ..⟩
  | some key =>
      simp only [UniqueIndex.insert, free key keyed, calm, List.map_nil, List.not_mem_nil, if_false]
      exact ⟨_, rfl, Function.update_self ..⟩

theorem step_create (stands : state.phase call = .inserted creation write)
    (fresh : creation.intake.id ∉ state.intakes.map (·.id)) {recipients : List Recipient}
    (stored : write.store state.recipients = some recipients) :
    step runtime command state (.commit call true) =
      some (state.close call true creation.answer recipients (creation.intake :: state.intakes)
        (enqueueIntake creation.intake creation.priority :: state.outbox)) := by
  simp only [step, stands, fresh, stored, if_false, Option.map_some]

end Alone

/-- A call whose transaction runs alone does what `accept` says of a new request. -/
theorem alone_creates {state : State} {call : Nat} {topics : List NotificationTopic} {templates : List Template}
    {minted : Minted} {creation : Creation} (idle : state.phase call = .idle) (calm : state.index.pending = [])
    (unlocked : state.locks = []) (indexed : state.index.committed = state.intakes.filterMap indexKey)
    (newRecipient : minted.recipientId ∉ state.recipients.map (·.id))
    (newIntake : minted.intakeId ∉ state.intakes.map (·.id))
    (accepted : accept runtime { recipients := state.recipients, topics, templates, intakes := state.intakes }
      (command call) minted = .ok (.created creation)) :
    ∃ final, Machine.run (step runtime command) state (alone call topics templates minted) = some final ∧
      final.recipients = creation.registry.recipients ∧ final.intakes = creation.registry.intakes ∧
      final.outbox = enqueueIntake creation.intake creation.priority :: state.outbox ∧
      final.phase call = .ended (.returned creation.answer) := by
  obtain ⟨found, fresh, intakes, expanded, added, rfl⟩ := accept_created accepted
  obtain ⟨rfl, absent⟩ := addIntake_eq_ok added
  obtain ⟨id, stored⟩ := expand_store expanded newRecipient
  -- the call makes up the same rows without a look at the intakes
  obtain ⟨own, made, intake, recipient, priority⟩ : ∃ own : Creation,
      expand runtime { recipients := state.recipients, topics, templates } (command call) minted = .ok own ∧
        own.intake = fresh.intake ∧ own.recipient = fresh.recipient ∧ own.priority = fresh.priority :=
    ⟨_, expand_intakes expanded [], rfl, rfl, rfl⟩
  rw [← intake] at id absent
  rw [← recipient] at stored
  have looked := step_look idle found
  have read := step_expand (state.enter_phase call .looked) made
  obtain ⟨written, wrote, stands, index⟩ := @step_write runtime command _ _ _ _
    (State.enter_phase (state.enter call .looked) call _) unlocked
  have free : ∀ key, indexKey own.intake = some key → key ∉ written.index.committed := by
    rintro ⟨project, name⟩ keyed taken
    rw [index, show ((state.enter call .looked).enter call _).index = state.index from rfl, indexed,
      List.mem_filterMap] at taken
    obtain ⟨other, member, same⟩ := taken
    obtain ⟨rfl, named⟩ := indexKey_eq_some.mp keyed
    exact absent name named other member (indexKey_eq_some.mp same)
  obtain ⟨inserted, entered, last⟩ := @step_insert runtime command _ _ _ _ stands (by rw [index]; exact calm) free
  obtain ⟨rows, intakes, outbox⟩ := step_stored entered nofun
  obtain ⟨rows', intakes', outbox'⟩ := step_stored wrote nofun
  have committed := @step_create runtime command _ _ _ _ last (by rw [intakes, intakes', id]; exact newIntake) _
    (by rw [rows, rows']; exact stored)
  refine ⟨inserted.close call true own.answer fresh.registry.recipients (own.intake :: inserted.intakes)
    (enqueueIntake own.intake own.priority :: inserted.outbox), ?_, rfl, ?_, ?_, ?_⟩
  · refine Machine.run_cons_eq_some.mpr ⟨_, looked, Machine.run_cons_eq_some.mpr ⟨_, read, ?_⟩⟩
    refine Machine.run_cons_eq_some.mpr ⟨_, wrote, Machine.run_cons_eq_some.mpr ⟨_, entered, ?_⟩⟩
    exact Machine.run_cons_eq_some.mpr ⟨_, committed, rfl⟩
  · rw [State.close_intakes, intakes, intakes', intake]
    rfl
  · show enqueueIntake own.intake own.priority :: inserted.outbox = _
    rw [outbox, outbox', intake, priority]
    rfl
  · rw [State.close, Creation.answer, intake]
    exact Function.update_self ..

end Tiber.AcceptRuns
