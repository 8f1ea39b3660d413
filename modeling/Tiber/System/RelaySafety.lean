import Tiber.System.RelayRuns

/-! What the relays keep, whatever the publisher does and wherever a relay crashes.

The lock of a row belongs to the relay whose message it is, so the row is as it was claimed until
that relay commits. Every row counts its committed failures, and the last one allowed buries it.
-/

set_option autoImplicit false

namespace Tiber

open Library

/-! ## One row -/

structure OutboxModel.Counted (settings : RelaySettings) (failures : Nat) (row : OutboxModel) : Prop where
  attempts : row.attempts = failures
  exclusive : row.publishedAt = none ∨ row.deadLetteredAt = none
  ceiling : failures ≤ settings.maxAttempts
  buried : row.deadLetteredAt ≠ none ↔ failures = settings.maxAttempts

namespace OutboxModel.Counted

variable {settings : RelaySettings} {failures : Nat} {row : OutboxModel}

theorem inserted (entry : OutboxRow) (projectId : Option Text) (now : Instant) :
    (entry.toModel projectId now).Counted settings 0 where
  attempts := rfl
  exclusive := .inl rfl
  ceiling := Nat.zero_le _
  buried := by
    have allowed := settings.maxAttempts_pos
    exact iff_of_false (fun buried => buried rfl) (by omega)

theorem states_eq (counted : row.Counted settings failures) : ∃ state, row.states = [state] := by
  unfold OutboxModel.states
  rcases counted.exclusive with unpublished | unburied
  · by_cases buried : row.deadLetteredAt = none
    · exact ⟨.pending, by simp [unpublished, buried]⟩
    · exact ⟨.deadLettered, by simp [unpublished, buried]⟩
  · by_cases published : row.publishedAt = none
    · exact ⟨.pending, by simp [unburied, published]⟩
    · exact ⟨.published, by simp [unburied, published]⟩

theorem outcome {message : OutboxMessage} {failure : Option PyError} {stamp : Instant}
    (counted : row.Counted settings failures) (unpublished : row.publishedAt = none)
    (unburied : row.deadLetteredAt = none) (same : row.attempts = message.attempts) :
    (RelayRuns.outcome settings message failure stamp row).Counted settings
      (if failure.isNone then failures else failures + 1) := by
  have spare : failures ≠ settings.maxAttempts := fun spent => counted.buried.mpr spent unburied
  have ceiling := counted.ceiling
  have attempts := counted.attempts
  cases failure with
  | none =>
      exact ⟨counted.attempts, .inr unburied, ceiling, counted.buried⟩
  | some failure =>
      simp only [RelayRuns.outcome, RelaySettings.retryAt, OutboxModel.markFailed, Option.isNone_some,
        Bool.false_eq_true, if_false]
      -- the snapshot and the column agree on the number of this failure
      by_cases last : settings.maxAttempts ≤ message.attempts + 1
      · simp only [last, if_true]
        exact ⟨by rw [attempts], .inl unpublished, by omega, iff_of_true nofun (by omega)⟩
      · simp only [last, if_false]
        exact ⟨by rw [attempts], .inl unpublished, by omega, iff_of_false (fun buried => buried unburied) (by omega)⟩

end OutboxModel.Counted

theorem OutboxModel.due_mono {row : OutboxModel} {first second : Instant} (due : row.due first = true)
    (onward : first ≤ second) : row.due second = true := by
  obtain ⟨unpublished, unburied, available⟩ := due_iff.mp due
  exact due_iff.mpr ⟨unpublished, unburied, Int.le_trans available onward⟩

namespace RelayRuns

/-! ## The invariant -/

def State.held (state : State) (relay : Nat) : Option Nat := (state.phase relay).message.map (·.id)

structure Sound (settings : RelaySettings) (clocked : Clocked State (Option Nat)) : Prop where
  issued : clocked.state.table.Issued
  held : clocked.state.table.Held clocked.state.held
  pending : ∀ relay, ∀ message ∈ (clocked.state.phase relay).message, ∃ row,
    clocked.state.table.rows message.id = some row ∧ row.due (clocked.seen (some relay)) = true ∧
      row.attempts = message.attempts
  counted : ∀ key row, clocked.state.table.rows key = some row →
    row.Counted settings (clocked.state.failures.count key)
  uncounted : ∀ key, clocked.state.table.rows key = none → clocked.state.failures.count key = 0

theorem Sound.initial (settings : RelaySettings) (now : Instant) (seen : Option Nat → Instant) :
    Sound settings ⟨{}, now, seen⟩ where
  issued _ _ present := nomatch present
  held _ _ := iff_of_false nofun nofun
  pending _ _ message := nomatch message
  counted _ _ present := nomatch present
  uncounted _ _ := rfl

variable {settings : RelaySettings} {clocked after : Clocked State (Option Nat)} {state : State} {relay : Nat}
  {phase : Phase}

theorem held_enter : (state.enter relay phase).held = Function.update state.held relay (phase.message.map (·.id)) := by
  funext other
  simp only [State.held, State.enter, Function.update_apply]
  split <;> rfl

theorem turn_message (left published : Nat) : (turn left published).message = none := by
  cases left <;> rfl

namespace Sound

variable (sound : Sound settings clocked)

include sound

theorem apart {other : Nat} {message theirs : OutboxMessage} (own : message ∈ (clocked.state.phase relay).message)
    (others : theirs ∈ (clocked.state.phase other).message) (different : other ≠ relay) : theirs.id ≠ message.id := by
  intro same
  have first := (sound.held message.id relay).mpr (by rw [State.held, own]; rfl)
  have second := (sound.held theirs.id other).mpr (by rw [State.held, others]; rfl)
  rw [same, first] at second
  exact different (Option.some.inj second).symm

theorem goesOn (table : after.state.table = clocked.state.table)
    (phases : after.state.phase = Function.update clocked.state.phase relay phase)
    (failures : after.state.failures = clocked.state.failures)
    (message : phase.message = (clocked.state.phase relay).message)
    (onward : ∀ other, clocked.seen other ≤ after.seen other) : Sound settings after := by
  have still (other : Nat) : (after.state.phase other).message = (clocked.state.phase other).message := by
    rw [phases, Function.update_apply]
    split
    · rename_i own
      rw [message, own]
    · rfl
  have held : after.state.held = clocked.state.held := by
    funext other
    rw [State.held, still]
    rfl
  refine ⟨by rw [table]; exact sound.issued, by rw [table, held]; exact sound.held, ?_, ?_, ?_⟩
  · intro other message carried
    rw [still] at carried
    obtain ⟨row, present, due, same⟩ := sound.pending other message carried
    exact ⟨row, by rw [table]; exact present, OutboxModel.due_mono due (onward (some other)), same⟩
  · rw [table, failures]
    exact sound.counted
  · rw [table, failures]
    exact sound.uncounted

theorem inserts {key : Nat} {row : OutboxRow} {projectId : Option Text} {stamp : Instant}
    (absent : clocked.state.table.rows key = none)
    (same : after.state = { clocked.state with
      table := clocked.state.table.insert key (row.toModel projectId stamp) })
    (onward : ∀ other, clocked.seen other ≤ after.seen other) : Sound settings after := by
  have rows (other : Nat) : after.state.table.rows other =
      if other = key then some (row.toModel projectId stamp) else clocked.state.table.rows other := by
    rw [same]
    exact Function.update_apply ..
  refine ⟨by rw [same]; exact sound.issued.insert, by rw [same]; exact sound.held, ?_, ?_, ?_⟩
  · intro other message carried
    rw [same] at carried
    obtain ⟨stored, present, due, attempts⟩ := sound.pending other message carried
    refine ⟨stored, ?_, OutboxModel.due_mono due (onward (some other)), attempts⟩
    rw [rows, if_neg, present]
    intro taken
    rw [taken, absent] at present
    cases present
  · intro other stored present
    rw [rows] at present
    rw [same]
    split at present
    · rename_i new
      cases present
      rw [new, sound.uncounted key absent]
      exact .inserted row projectId stamp
    · exact sound.counted other stored present
  · intro other missing
    rw [rows] at missing
    rw [same]
    split at missing
    · cases missing
    · exact sound.uncounted other missing

theorem claims {now : Instant} {left published key : Nat} {row : OutboxModel}
    (stands : clocked.state.phase relay = .ready left published)
    (found : clocked.state.table.first (OutboxModel.due now) OutboxModel.rank = some (key, row))
    (same : after.state = { clocked.state.enter relay (.claimed left published (row.message key)) with
      table := clocked.state.table.lock key relay })
    (read : now ≤ after.seen (some relay)) (onward : ∀ other, clocked.seen other ≤ after.seen other) :
    Sound settings after := by
  obtain ⟨unlocked, present, due⟩ := LockedTable.first_eq_some found
  have phases : after.state.phase = Function.update clocked.state.phase relay (.claimed left published (row.message key)) := by
    rw [same]
    rfl
  refine ⟨by rw [same]; exact sound.issued, ?_, ?_, by rw [same]; exact sound.counted, by rw [same]; exact sound.uncounted⟩
  · have held : after.state.held = Function.update clocked.state.held relay (some key) := by
      rw [same]
      exact held_enter
    rw [held, same]
    exact sound.held.lock unlocked (by rw [State.held, stands]; rfl)
  · intro other message carried
    rw [phases, Function.update_apply] at carried
    split at carried
    · rename_i own
      cases carried
      exact ⟨row, by rw [same]; exact present, OutboxModel.due_mono due (own ▸ read), rfl⟩
    · obtain ⟨stored, kept, older, attempts⟩ := sound.pending other message carried
      exact ⟨stored, by rw [same]; exact kept, OutboxModel.due_mono older (onward (some other)), attempts⟩

theorem releases {message : OutboxMessage} (stands : (clocked.state.phase relay).message = some message)
    (same : after.state = { clocked.state.enter relay (.resting none) with
      table := clocked.state.table.release message.id })
    (onward : ∀ other, clocked.seen other ≤ after.seen other) : Sound settings after := by
  refine ⟨by rw [same]; exact sound.issued, ?_, ?_, by rw [same]; exact sound.counted, by rw [same]; exact sound.uncounted⟩
  · have held : after.state.held = Function.update clocked.state.held relay none := by
      rw [same]
      exact held_enter
    rw [held, same]
    exact sound.held.release (by rw [State.held, stands]; rfl)
  · intro other theirs carried
    rw [same] at carried
    simp only [State.enter, Function.update_apply] at carried
    split at carried
    · cases carried
    · obtain ⟨stored, kept, older, attempts⟩ := sound.pending other theirs carried
      exact ⟨stored, by rw [same]; exact kept, OutboxModel.due_mono older (onward (some other)), attempts⟩

theorem commits {left published : Nat} {message : OutboxMessage} {failure : Option PyError} {stamp : Instant}
    (stands : clocked.state.phase relay = .done left published message failure)
    (same : after.state = {
      clocked.state.enter relay (turn left (if failure.isNone then published + 1 else published)) with
      table := clocked.state.table.commit message.id (outcome settings message failure stamp)
      failures := if failure.isNone then clocked.state.failures else message.id :: clocked.state.failures })
    (onward : ∀ other, clocked.seen other ≤ after.seen other) : Sound settings after := by
  have carried : message ∈ (clocked.state.phase relay).message := by rw [stands]; rfl
  obtain ⟨row, present, due, attempts⟩ := sound.pending relay message carried
  obtain ⟨unpublished, unburied, -⟩ := OutboxModel.due_iff.mp due
  have rows (other : Nat) : after.state.table.rows other = if other = message.id then
      some (outcome settings message failure stamp row) else clocked.state.table.rows other := by
    rw [same]
    refine (Function.update_apply ..).trans ?_
    rw [present]
    rfl
  have failures (other : Nat) : after.state.failures.count other =
      clocked.state.failures.count other + if failure.isNone = false ∧ other = message.id then 1 else 0 := by
    rw [same]
    cases failure with
    | none => rfl
    | some failure =>
        simp only [Option.isNone_some, Bool.false_eq_true, if_false, List.count_cons, true_and]
        by_cases own : other = message.id
        · simp [own]
        · simp [own, Ne.symm own]
  refine ⟨by rw [same]; exact sound.issued.commit, ?_, ?_, ?_, ?_⟩
  · have held : after.state.held = Function.update clocked.state.held relay none := by
      rw [same]
      refine held_enter.trans ?_
      rw [turn_message]
      rfl
    rw [held, same]
    exact sound.held.release (by rw [State.held, stands]; rfl)
  · intro other theirs working
    rw [same] at working
    simp only [State.enter, Function.update_apply] at working
    split at working
    · rw [turn_message] at working
      cases working
    · rename_i different
      obtain ⟨stored, kept, older, counted⟩ := sound.pending other theirs working
      refine ⟨stored, ?_, OutboxModel.due_mono older (onward (some other)), counted⟩
      rw [rows, if_neg (sound.apart carried working different), kept]
  · intro other stored found
    rw [rows] at found
    rw [failures]
    split at found
    · rename_i own
      cases found
      have counted : (outcome settings message failure stamp row).Counted settings
          (if failure.isNone then clocked.state.failures.count message.id
            else clocked.state.failures.count message.id + 1) :=
        (sound.counted message.id row present).outcome unpublished unburied attempts
      rw [own]
      cases failure with
      | none => exact counted
      | some failure => simpa using counted
    · rename_i other
      simp only [other, and_false, if_false, Nat.add_zero]
      exact sound.counted _ stored found
  · intro other missing
    rw [rows] at missing
    rw [failures]
    split at missing
    · cases missing
    · rename_i different
      simp only [different, and_false, if_false, Nat.add_zero]
      exact sound.uncounted other missing

theorem step {moment : Moment Event} (taken : clockedStep settings clocked moment = some after) :
    Sound settings after := by
  obtain ⟨done, advance⟩ := Clocked.step_eq_some taken
  obtain ⟨event, time⟩ := moment
  obtain ⟨next, now, seen⟩ := after
  have onward := advance.seen_le
  cases step_move done with
  | inserted key row projectId stamp absent => exact sound.inserts absent rfl onward
  | claimed relay read left published key row stands found =>
      refine sound.claims stands found rfl (Int.le_trans ?_ advance.kept) onward
      exact (advance.before read (.head _)).2
  | started relay result stands =>
      exact sound.goesOn rfl rfl rfl (by rw [turn_message, stands]; rfl) onward
  | ended relay read left published stands nothing => exact sound.goesOn rfl rfl rfl (by rw [stands]; rfl) onward
  | handed relay found left published message publication stands made =>
      exact sound.goesOn rfl rfl rfl (by rw [stands]; rfl) onward
  | refused relay found left published message failure stands =>
      exact sound.goesOn rfl rfl rfl (by rw [stands]; rfl) onward
  | answered relay failure left published message stands =>
      exact sound.goesOn rfl rfl rfl (by rw [stands]; rfl) onward
  | stopped relay stands => exact sound.goesOn rfl rfl rfl (by rw [stands]; rfl) onward
  | committed relay stamp left published message failure stands => exact sound.commits stands rfl onward
  | crashed relay message stands => exact sound.releases stands rfl onward

end Sound

theorem sound_keeps : Machine.Keeps (clockedStep settings) (fun _ _ => True) (Sound settings) :=
  fun _ _ _ sound _ taken => sound.step taken

/-! ## Rows that are done with -/

def Settled (state : State) (key : Nat) (row : OutboxModel) : Prop :=
  state.table.rows key = some row ∧ ¬ (row.publishedAt = none ∧ row.deadLetteredAt = none)

namespace Sound

variable (sound : Sound settings clocked)

include sound

theorem idle_of_settled {key : Nat} {row : OutboxModel} {message : OutboxMessage} (settled : Settled clocked.state key row)
    (carried : message ∈ (clocked.state.phase relay).message) : key ≠ message.id := by
  rintro rfl
  obtain ⟨stored, present, due, -⟩ := sound.pending relay message carried
  obtain ⟨unpublished, unburied, -⟩ := OutboxModel.due_iff.mp due
  cases settled.1.symm.trans present
  exact settled.2 ⟨unpublished, unburied⟩

theorem settled_step {next : State} {event : Event} {key : Nat} {row : OutboxModel}
    (settled : Settled clocked.state key row) (taken : RelayRuns.step settings clocked.state event = some next) :
    Settled next key row := by
  refine ⟨?_, settled.2⟩
  cases step_move taken with
  | inserted other entry projectId stamp absent =>
      refine (Function.update_of_ne ?_ ..).trans settled.1
      rintro rfl
      cases absent.symm.trans settled.1
  | committed relay stamp left published message failure stands =>
      exact (Function.update_of_ne (sound.idle_of_settled settled (by rw [stands]; rfl)) ..).trans
        settled.1
  | started | claimed | ended | handed | refused | answered | crashed | stopped => exact settled.1

theorem unhanded_step {next : State} {event : Event} {key : Nat} {row : OutboxModel}
    (settled : Settled clocked.state key row) (taken : RelayRuns.step settings clocked.state event = some next) :
    next.handed.count key = clocked.state.handed.count key := by
  cases step_move taken with
  | handed relay found left published message publication stands made =>
      have different := sound.idle_of_settled settled (by rw [stands]; rfl)
      exact List.count_cons_of_ne (Ne.symm different)
  | inserted | started | claimed | ended | refused | answered | committed | crashed | stopped => rfl

end Sound

theorem settled_run {final : Clocked State (Option Nat)} {moments : List (Moment Event)} {key : Nat} {row : OutboxModel}
    (sound : Sound settings clocked) (settled : Settled clocked.state key row)
    (reached : Machine.run (clockedStep settings) clocked moments = some final) :
    Settled final.state key row ∧ final.state.handed.count key = clocked.state.handed.count key := by
  have keeps : Machine.Keeps (clockedStep settings) (fun _ _ => True) fun later =>
      Sound settings later ∧ Settled later.state key row := by
    rintro later moment next ⟨sound, settled⟩ - taken
    exact ⟨sound.step taken, sound.settled_step settled (Clocked.step_eq_some taken).1⟩
  refine ⟨(keeps.run ⟨sound, settled⟩ (Machine.along_true _ moments) reached).2, ?_⟩
  refine keeps.relates (fun first second => second.state.handed.count key = first.state.handed.count key)
    (fun _ => rfl) (fun _ _ _ before later => later.trans before) ?_ ⟨sound, settled⟩
    (Machine.along_true _ moments) reached
  rintro later moment next ⟨sound, settled⟩ - taken
  exact sound.unhanded_step settled (Clocked.step_eq_some taken).1

/-! ## A pass -/

/-- While the batch lasts, the next claim takes the first due row that nobody has locked. -/
theorem claim_due {left published key : Nat} {now : Instant} {row : OutboxModel} (issued : state.table.Issued)
    (stands : state.phase relay = .ready left published) (unlocked : state.table.locked key = none)
    (present : state.table.rows key = some row) (due : row.due now = true) :
    ∃ taken stored next, step settings state (.claim relay now) = some next ∧
      next.phase relay = .claimed left published (stored.message taken) ∧
      state.table.rows taken = some stored ∧ stored.due now = true ∧
      OutboxModel.rank (taken, stored) ≤ OutboxModel.rank (key, row) := by
  obtain ⟨⟨taken, stored⟩, found, before⟩ : ∃ taken, state.table.first (OutboxModel.due now) OutboxModel.rank =
      some taken ∧ OutboxModel.rank taken ≤ OutboxModel.rank (key, row) :=
    LockedTable.first_le issued unlocked present due
  obtain ⟨-, kept, wanted⟩ := LockedTable.first_eq_some found
  refine ⟨taken, stored, { state.enter relay (.claimed left published (stored.message taken)) with
    table := state.table.lock taken relay }, ?_, ?_, kept, wanted, before⟩
  · simp only [step, stands, claimNext, found, Option.map_some]
  · exact Function.update_self ..

/-- A failure that is due again waits for its delay; the last one is never due again. -/
theorem failed_not_due {message : OutboxMessage} {failure : PyError} {stamp now : Instant} {row : OutboxModel}
    (waiting : now < stamp + settings.retryDelay message.attempts * Clock.second) :
    (outcome settings message (some failure) stamp row).due now = false := by
  rw [← Bool.not_eq_true, OutboxModel.due_iff]
  rintro ⟨-, unburied, available⟩
  simp only [outcome, RelaySettings.retryAt, OutboxModel.markFailed] at unburied available
  split at unburied
  · cases unburied
  · rename_i retry again
    rw [again] at available
    split at again
    · cases again
    · cases again
      exact absurd waiting (Int.not_lt.mpr available)

/-! ## Whole runs -/

structure RelaySafe (settings : RelaySettings) (start : Clocked State (Option Nat)) (moments : List (Moment Event))
    (final : Clocked State (Option Nat)) : Prop where
  /-- Every row is pending, published or dead-lettered, and no two of these. -/
  oneState : ∀ key row, final.state.table.rows key = some row → ∃ state, row.states = [state]
  /-- A row that is published or dead-lettered stays as it is. -/
  settledFinal : ∀ first rest middle key row, moments = first ++ rest →
    Machine.run (clockedStep settings) start first = some middle →
    middle.state.table.rows key = some row → row.states ≠ [.pending] → final.state.table.rows key = some row
  /-- No row is handed to the publisher before its time. -/
  inTime : ∀ first rest middle relay found time left published message publication,
    moments = first ++ ⟨.hand relay found, time⟩ :: rest →
    Machine.run (clockedStep settings) start first = some middle →
    middle.state.phase relay = .claimed left published message → publish message found = .ok publication →
    ∃ row, middle.state.table.rows message.id = some row ∧ row.availableAt ≤ time
  /-- Attempts are committed failures, no more of them than allowed, and the last one allowed buries the row. -/
  counted : ∀ key row, final.state.table.rows key = some row →
    row.attempts = final.state.failures.count key ∧ row.attempts ≤ settings.maxAttempts ∧
      (row.deadLetteredAt ≠ none ↔ final.state.failures.count key = settings.maxAttempts)
  /-- A publish that is committed is the last time its row is handed to the publisher. -/
  once : ∀ first rest middle relay stamp time left published message,
    moments = first ++ ⟨.commit relay stamp, time⟩ :: rest →
    Machine.run (clockedStep settings) start first = some middle →
    middle.state.phase relay = .done left published message none →
    final.state.handed.count message.id = middle.state.handed.count message.id
  /-- A failure commits, and while the batch lasts the next claim takes a due row all the same, the
  failed one not before its delay. -/
  unobstructed : ∀ relay left published message failure stamp,
    final.state.phase relay = .done (left + 1) published message (some failure) →
    ∃ next, step settings final.state (.commit relay stamp) = some next ∧
      ∀ now key row, next.table.rows key = some row → row.due now = true → next.table.locked key = none →
        ∃ taken stored after, step settings next (.claim relay now) = some after ∧
          after.phase relay = .claimed left published (stored.message taken) ∧
          OutboxModel.rank (taken, stored) ≤ OutboxModel.rank (key, row) ∧
          (now < stamp + settings.retryDelay message.attempts * Clock.second → taken ≠ message.id)
  /-- Delays are positive, grow with the attempts and are bounded. -/
  delays : ∀ attempts, 0 < settings.retryDelay attempts ∧
    settings.retryDelay attempts ≤ settings.retryDelay (attempts + 1) ∧ settings.retryDelay attempts ≤ settings.retryMax

theorem settled_of_states {row : OutboxModel} (other : row.states ≠ [.pending]) :
    ¬ (row.publishedAt = none ∧ row.deadLetteredAt = none) := by
  rintro ⟨unpublished, unburied⟩
  exact other (by simp [OutboxModel.states, unpublished, unburied])

theorem Sound.unobstructed (sound : Sound settings clocked) {left published : Nat} {message : OutboxMessage}
    {failure : PyError} (stamp : Instant)
    (stands : clocked.state.phase relay = .done (left + 1) published message (some failure)) :
    ∃ next, RelayRuns.step settings clocked.state (.commit relay stamp) = some next ∧
      ∀ now key row, next.table.rows key = some row → row.due now = true → next.table.locked key = none →
        ∃ taken stored after, RelayRuns.step settings next (.claim relay now) = some after ∧
          after.phase relay = .claimed left published (stored.message taken) ∧
          OutboxModel.rank (taken, stored) ≤ OutboxModel.rank (key, row) ∧
          (now < stamp + settings.retryDelay message.attempts * Clock.second → taken ≠ message.id) := by
  refine ⟨_, by simp only [RelayRuns.step, stands]; rfl, fun now key row present due unlocked => ?_⟩
  obtain ⟨taken, stored, after, claimed, phase, kept, wanted, before⟩ :=
    claim_due sound.issued.commit (Function.update_self ..) unlocked present due
  refine ⟨taken, stored, after, claimed, phase, before, fun waiting same => ?_⟩
  -- the failed row has just been put off
  obtain ⟨before, was, -⟩ := sound.pending relay message (by rw [stands]; rfl)
  have written := (Function.update_self (f := clocked.state.table.rows) ..).symm.trans (same ▸ kept)
  rw [was] at written
  cases written
  rw [failed_not_due waiting] at wanted
  cases wanted

/-- Outbox relays are safe, from an empty table on. -/
theorem relay_safe {now : Instant} {seen : Option Nat → Instant} {moments : List (Moment Event)}
    {final : Clocked State (Option Nat)}
    (reached : Machine.run (clockedStep settings) ⟨{}, now, seen⟩ moments = some final) :
    RelaySafe settings ⟨{}, now, seen⟩ moments final := by
  have sound {moments : List (Moment Event)} {later : Clocked State (Option Nat)}
      (ran : Machine.run (clockedStep settings) ⟨{}, now, seen⟩ moments = some later) : Sound settings later :=
    sound_keeps.run (.initial settings now seen) (Machine.along_true _ moments) ran
  constructor
  · intro key row present
    exact ((sound reached).counted key row present).states_eq
  · rintro first rest middle key row rfl ran present other
    rw [Machine.run_append, ran] at reached
    exact (settled_run (sound ran) ⟨present, settled_of_states other⟩ reached).1.1
  · rintro first rest middle relay found time left published message publication rfl ran stands made
    obtain ⟨again, next, same, taken, -⟩ := Machine.run_through.mp reached
    cases ran.symm.trans same
    obtain ⟨row, present, due, -⟩ := (sound ran).pending relay message (by rw [stands]; rfl)
    exact ⟨row, present,
      Int.le_trans (OutboxModel.due_iff.mp due).2.2 (Clocked.step_eq_some taken).2.known⟩
  · intro key row present
    have counted := (sound reached).counted key row present
    exact ⟨counted.attempts, counted.attempts ▸ counted.ceiling, counted.buried⟩
  · rintro first rest middle relay stamp time left published message rfl ran stands
    obtain ⟨again, next, same, taken, later⟩ := Machine.run_through.mp reached
    cases ran.symm.trans same
    have done := (Clocked.step_eq_some taken).1
    obtain ⟨row, present, -⟩ := (sound ran).pending relay message (by rw [stands]; rfl)
    simp only [step, stands] at done
    have moved := Option.some.inj done
    have settled : Settled next.state message.id (outcome settings message none stamp row) := by
      rw [← moved]
      refine ⟨(Function.update_self ..).trans (by rw [present]; rfl), fun pending => ?_⟩
      cases pending.1
    rw [(settled_run ((sound ran).step taken) settled later).2, ← moved]
    rfl
  · intro relay left published message failure stamp stands
    exact (sound reached).unobstructed stamp stands
  · intro attempts
    exact ⟨settings.retryDelay_pos attempts, settings.retryDelay_mono (Nat.le_succ attempts),
      settings.retryDelay_le attempts⟩

/-! ## Two rows, and a broker that is down for the first of them -/

/-- One pass: the first row fails and waits, the second one is published. -/
def brokenPass (first second : OutboxRow) : List (Moment Event) :=
  [⟨.insert 0 first none 0, 0⟩, ⟨.insert 1 second none 0, 0⟩, ⟨.start 0, 0⟩,
    ⟨.claim 0 0, 0⟩, ⟨.hand 0 (.ok none), 0⟩, ⟨.answer 0 (some (.raised "OperationalError" "broker down")), 0⟩,
    ⟨.commit 0 0, 0⟩, ⟨.claim 0 0, 0⟩, ⟨.hand 0 (.ok none), 0⟩, ⟨.answer 0 none, 0⟩, ⟨.commit 0 0, 0⟩]

def announced (id : Uuid) : OutboxRow := ⟨.intake, id, .normal, none⟩

theorem broken_pass_safe :
    ∃ final, Machine.run (clockedStep {}) ⟨{}, 0, fun _ => 0⟩ (brokenPass (announced 1) (announced 2)) = some final ∧
      RelaySafe {} ⟨{}, 0, fun _ => 0⟩ (brokenPass (announced 1) (announced 2)) final ∧
      final.state.handed = [1, 0] ∧ final.state.failures = [0] := by
  refine ⟨_, rfl, relay_safe rfl, by decide, by decide⟩

end RelayRuns

end Tiber
