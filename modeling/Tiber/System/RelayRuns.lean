import Tiber.Application.OutboxRelay
import Tiber.Library.Clocked

/-! Any number of outbox relays on one table, one committed transaction at a time.

A relay claims the first due row, hands it to the publisher and commits what came of it, under the
lock of the row all along. Requests insert rows meanwhile, and a relay can crash at any point.
-/

set_option autoImplicit false

namespace Tiber.RelayRuns

open Library

/-- Where a relay stands. `left` counts the turns of the pass behind the current one, `published`
its successes; a relay at rest knows the result of its last pass, unless it has crashed. -/
inductive Phase where
  | resting (published : Option Nat)
  | ready (left published : Nat)
  | claimed (left published : Nat) (message : OutboxMessage)
  | publishing (left published : Nat) (message : OutboxMessage)
  | done (left published : Nat) (message : OutboxMessage) (failure : Option PyError)

def Phase.message : Phase → Option OutboxMessage
  | .claimed _ _ message | .publishing _ _ message | .done _ _ message _ => some message
  | .resting _ | .ready .. => none

/-- The head of the loop: the next turn, or the end of the pass. -/
def turn : Nat → Nat → Phase
  | 0, published => .resting (some published)
  | left + 1, published => .ready left published

/-- The table, the relays, and two records: the rows handed to the publisher and the failures committed. -/
structure State where
  table : OutboxTable := {}
  phase : Nat → Phase := fun _ => .resting none
  handed : List Nat := []
  failures : List Nat := []

inductive Event where
  | insert (key : Nat) (row : OutboxRow) (projectId : Option Text) (stamp : Instant)
  | start (relay : Nat)
  | claim (relay : Nat) (now : Instant)
  | hand (relay : Nat) (found : Checked (Option Notification))
  | answer (relay : Nat) (failure : Option PyError)
  | commit (relay : Nat) (stamp : Instant)
  | crash (relay : Nat)

def State.enter (state : State) (relay : Nat) (phase : Phase) : State :=
  { state with phase := Function.update state.phase relay phase }

def outcome (settings : RelaySettings) (message : OutboxMessage) (failure : Option PyError) (stamp : Instant) :
    OutboxModel → OutboxModel :=
  match failure with
  | none => .markPublished stamp
  | some failure => .markFailed stamp (failure.name ++ ": " ++ failure.text) (settings.retryAt message stamp)

variable (settings : RelaySettings)

def step (state : State) : Event → Option State
  | .insert key row projectId stamp =>
      match state.table.rows key with
      | none => some { state with table := state.table.insert key (row.toModel projectId stamp) }
      | some _ => none
  | .start relay =>
      match state.phase relay with
      | .resting _ => some (state.enter relay (turn settings.batchSize 0))
      | _ => none
  | .claim relay now =>
      match state.phase relay with
      | .ready left published =>
          match claimNext state.table relay now with
          | none => some (state.enter relay (.resting (some published)))
          | some (message, table) => some { state.enter relay (.claimed left published message) with table }
      | _ => none
  | .hand relay found =>
      match state.phase relay with
      | .claimed left published message =>
          match publish message found with
          | .ok _ => some { state.enter relay (.publishing left published message) with
              handed := message.id :: state.handed }
          | .error failure => some (state.enter relay (.done left published message (some failure)))
      | _ => none
  | .answer relay failure =>
      match state.phase relay with
      | .publishing left published message => some (state.enter relay (.done left published message failure))
      | _ => none
  | .commit relay stamp =>
      match state.phase relay with
      | .done left published message failure => some {
          state.enter relay (turn left (if failure.isNone then published + 1 else published)) with
          table := state.table.commit message.id (outcome settings message failure stamp)
          failures := if failure.isNone then state.failures else message.id :: state.failures }
      | _ => none
  | .crash relay => some { state.enter relay (.resting none) with
      table := match (state.phase relay).message with
        | some message => state.table.release message.id
        | none => state.table }

/-- A claim and a commit read the clock before their statement; requests are no relay. -/
def Event.timing : Event → Timing (Option Nat)
  | .insert _ _ _ stamp => { party := none, before := [stamp] }
  | .claim relay now => { party := some relay, before := [now] }
  | .commit relay stamp => { party := some relay, before := [stamp] }
  | .start relay | .hand relay _ | .answer relay _ | .crash relay => { party := some relay }

def clockedStep : Clocked State (Option Nat) → Moment Event → Option (Clocked State (Option Nat)) :=
  Clocked.step Event.timing (step settings)

/-! ## What a step can do -/

variable {settings}

/-- Every enabled event, with what its relay stands on and where it leads. -/
inductive Move (settings : RelaySettings) (state : State) : Event → State → Prop where
  | inserted (key : Nat) (row : OutboxRow) (projectId : Option Text) (stamp : Instant)
      (absent : state.table.rows key = none) :
      Move settings state (.insert key row projectId stamp)
        { state with table := state.table.insert key (row.toModel projectId stamp) }
  | started (relay : Nat) (result : Option Nat) (stands : state.phase relay = .resting result) :
      Move settings state (.start relay) (state.enter relay (turn settings.batchSize 0))
  | claimed (relay : Nat) (now : Instant) (left published key : Nat) (row : OutboxModel)
      (stands : state.phase relay = .ready left published)
      (found : state.table.first (OutboxModel.due now) OutboxModel.rank = some (key, row)) :
      Move settings state (.claim relay now)
        { state.enter relay (.claimed left published (row.message key)) with table := state.table.lock key relay }
  | ended (relay : Nat) (now : Instant) (left published : Nat) (stands : state.phase relay = .ready left published)
      (nothing : state.table.first (OutboxModel.due now) OutboxModel.rank = none) :
      Move settings state (.claim relay now) (state.enter relay (.resting (some published)))
  | handed (relay : Nat) (found : Checked (Option Notification)) (left published : Nat) (message : OutboxMessage)
      (publication : Publication) (stands : state.phase relay = .claimed left published message)
      (made : publish message found = .ok publication) :
      Move settings state (.hand relay found)
        { state.enter relay (.publishing left published message) with handed := message.id :: state.handed }
  | refused (relay : Nat) (found : Checked (Option Notification)) (left published : Nat) (message : OutboxMessage)
      (failure : PyError) (stands : state.phase relay = .claimed left published message) :
      Move settings state (.hand relay found) (state.enter relay (.done left published message (some failure)))
  | answered (relay : Nat) (failure : Option PyError) (left published : Nat) (message : OutboxMessage)
      (stands : state.phase relay = .publishing left published message) :
      Move settings state (.answer relay failure) (state.enter relay (.done left published message failure))
  | committed (relay : Nat) (stamp : Instant) (left published : Nat) (message : OutboxMessage)
      (failure : Option PyError) (stands : state.phase relay = .done left published message failure) :
      Move settings state (.commit relay stamp) {
        state.enter relay (turn left (if failure.isNone then published + 1 else published)) with
        table := state.table.commit message.id (outcome settings message failure stamp)
        failures := if failure.isNone then state.failures else message.id :: state.failures }
  | crashed (relay : Nat) (message : OutboxMessage) (stands : (state.phase relay).message = some message) :
      Move settings state (.crash relay)
        { state.enter relay (.resting none) with table := state.table.release message.id }
  | stopped (relay : Nat) (stands : (state.phase relay).message = none) :
      Move settings state (.crash relay) (state.enter relay (.resting none))

theorem step_move {state next : State} {event : Event} (taken : step settings state event = some next) :
    Move settings state event next := by
  cases event with
  | insert key row projectId stamp =>
      simp only [step] at taken
      split at taken
      · rename_i absent
        cases taken
        exact .inserted key row projectId stamp absent
      · cases taken
  | start relay =>
      simp only [step] at taken
      split at taken
      · rename_i result stands
        cases taken
        exact .started relay result stands
      · cases taken
  | claim relay now =>
      simp only [step, claimNext] at taken
      split at taken
      · rename_i left published stands
        -- nothing due ends the pass, otherwise the first due message is claimed
        cases found : state.table.first (OutboxModel.due now) OutboxModel.rank with
        | none =>
            rw [found] at taken
            cases taken
            exact .ended relay now left published stands found
        | some entry =>
            rw [found] at taken
            cases taken
            exact .claimed relay now left published entry.1 entry.2 stands found
      · cases taken
  | hand relay found =>
      simp only [step] at taken
      split at taken
      · rename_i left published message stands
        split at taken
        · rename_i publication made
          cases taken
          exact .handed relay found left published message publication stands made
        · rename_i failure made
          cases taken
          exact .refused relay found left published message failure stands
      · cases taken
  | answer relay failure =>
      simp only [step] at taken
      split at taken
      · rename_i left published message stands
        cases taken
        exact .answered relay failure left published message stands
      · cases taken
  | commit relay stamp =>
      simp only [step] at taken
      split at taken
      · rename_i left published message failure stands
        cases taken
        exact .committed relay stamp left published message failure stands
      · cases taken
  | crash relay =>
      simp only [step] at taken
      -- a message that was claimed is free again
      cases stands : (state.phase relay).message with
      | none =>
          rw [stands] at taken
          cases taken
          exact .stopped relay stands
      | some message =>
          rw [stands] at taken
          cases taken
          exact .crashed relay message stands

end Tiber.RelayRuns
