import Tiber.Library.Fence
import Tiber.Library.Machine
import Tiber.System.IntakeRuns
import Tiber.System.Acceptance

/-! The attempts count of an intake as a fencing token.

A claim counts one attempt more, so the count in a snapshot says whether its worker still
holds the latest claim. Nothing in the code compares the two. Where every write comes from
a worker whose count is current, a worker that lost its lease changes nothing.
-/

set_option autoImplicit false

namespace Tiber.IntakeRuns

open Library

variable (wiring : Wiring)

def State.fence (state : State) : Fence Nat where
  token := state.row.attempts
  holder := state.holder
  held worker := (state.snapshot worker).map (·.attempts)

/-- A snapshot is written, or written off, only while no later claim has been made. -/
def Fenced (state : State) (event : Event) : Prop :=
  ∀ snapshot ∈ writes wiring state event, snapshot.attempts = state.row.attempts

instance (state : State) (event : Event) : Decidable (Fenced wiring state event) :=
  inferInstanceAs (Decidable (∀ snapshot ∈ writes wiring state event, _ = _))

variable {wiring}

/-! ## The invariant of fenced runs -/

structure Sound (state : State) : Prop where
  fence : state.fence.Sound
  current : ∀ worker snapshot, state.snapshot worker = some snapshot →
    snapshot.attempts = state.row.attempts → state.row = snapshot

theorem Sound.of_accepted {state : State} (accepted : state.Accepted) : Sound state := by
  constructor
  · exact .of_unheld fun worker => by simp [State.fence, accepted.no_snapshot worker]
  · intro worker snapshot carried
    rw [accepted.no_snapshot worker] at carried
    cases carried

theorem held_of {state : State} {worker : Nat} {snapshot : NotificationIntake}
    (carried : state.snapshot worker = some snapshot) : state.fence.held worker = some snapshot.attempts := by
  simp [State.fence, carried]

/-- What a fenced write starts from is the row itself. -/
theorem Sound.row_eq {state : State} {event : Event} {worker : Nat} {snapshot : NotificationIntake}
    (sound : Sound state) (fenced : Fenced wiring state event) (write : writes wiring state event = some snapshot)
    (carried : state.snapshot worker = some snapshot) : state.row = snapshot :=
  sound.current worker snapshot carried (fenced snapshot write)

structure Amends (row next : NotificationIntake) : Prop where
  attempts : next.attempts = row.attempts
  claimedAt : next.claimedAt = row.claimedAt
  live : row.status = .received ∨ row.status = .processing
  plan : ∀ plan, row.plan = some plan → next.plan = some plan

theorem Written.amends {row next : NotificationIntake} (written : Written row row next) : Amends row next := by
  cases written with
  | planned around undecided done =>
      obtain ⟨processing, plan, fields⟩ := decidePlan_eq_ok done
      refine ⟨by rw [fields], by rw [fields], .inr processing, fun plan stored => ?_⟩
      rw [undecided] at stored
      cases stored
  | failed reason stamp done =>
      obtain ⟨live, -, fields⟩ := NotificationIntake.fail_eq_ok.mp done
      exact ⟨by rw [fields], by rw [fields], live, fun plan stored => by rw [fields]; exact stored⟩

theorem complete_amends {row next : NotificationIntake} {now stamp : Instant}
    (done : row.complete now stamp = .ok next) : Amends row next := by
  obtain ⟨processing, -, fields⟩ := NotificationIntake.complete_eq_ok.mp done
  exact ⟨by rw [fields], by rw [fields], .inr processing, fun plan stored => by rw [fields]; exact stored⟩

theorem Sound.keep {state next : State} (sound : Sound state) (row : next.row = state.row)
    (holder : next.holder = state.holder)
    (carried : ∀ worker, next.snapshot worker = none ∨ next.snapshot worker = state.snapshot worker) :
    Sound next := by
  constructor
  · apply sound.fence.keep (congrArg (·.attempts) row) holder
    intro worker
    simp only [State.fence]
    rcases carried worker with dropped | kept
    · exact .inl (by rw [dropped]; rfl)
    · exact .inr (by rw [kept])
  · intro worker snapshot holds level
    rw [row] at level ⊢
    rcases carried worker with dropped | kept
    · rw [dropped] at holds; cases holds
    · exact sound.current worker snapshot (kept ▸ holds) level

/-- The only worker level with the fence writes the row, and goes on with what it wrote or gives up. -/
theorem Sound.write {state next : State} {worker : Nat} {snapshot : NotificationIntake} (sound : Sound state)
    (carried : state.snapshot worker = some snapshot) (level : snapshot.attempts = state.row.attempts)
    (attempts : next.row.attempts = state.row.attempts) (holder : next.holder = state.holder)
    (own : next.snapshot worker = none ∨ next.snapshot worker = some next.row)
    (others : ∀ other, other ≠ worker → next.snapshot other = state.snapshot other) : Sound next := by
  constructor
  · apply sound.fence.keep attempts holder
    intro other
    by_cases mine : other = worker
    · subst mine
      rcases own with dropped | renewed
      · exact .inl (by simp [State.fence, dropped])
      · exact .inr (by simp [State.fence, renewed, carried, attempts, level])
    · exact .inr (by simp only [State.fence, others other mine])
  · intro other held holds equal
    by_cases mine : other = worker
    · subst mine
      rcases own with dropped | renewed
      · rw [dropped] at holds; cases holds
      · exact Option.some.inj (renewed.symm.trans holds)
    · rw [attempts] at equal
      have first := (sound.fence.latest other _ (held_of (others other mine ▸ holds))).mp equal
      have second := (sound.fence.latest worker _ (held_of carried)).mp level
      exact absurd (Option.some.inj (first.symm.trans second)) mine

theorem Sound.step {state next : State} {event : Event} (sound : Sound state) (fenced : Fenced wiring state event)
    (taken : step wiring state event = some next) : Sound next := by
  have others {worker : Nat} (whose : event.worker = some worker) (other : Nat) (different : other ≠ worker) :
      next.snapshot other = state.snapshot other :=
    snapshot_others taken fun mine => different (Option.some.inj (mine.symm.trans whose))
  cases step_effect taken with
  | kept row holder children dispatches own =>
      apply sound.keep row holder
      intro worker
      by_cases mine : event.worker = some worker
      · exact (own worker mine).snapshot
      · exact .inr (snapshot_others taken mine)
  | claimed worker now stamp same row holder children dispatches own =>
      obtain ⟨delivery, stands⟩ := own
      have renewed : next.snapshot worker = some next.row := State.snapshot_of stands
      have before := others (by rw [same]; rfl : event.worker = some worker)
      have counted : next.row.attempts = state.row.attempts + 1 := by
        rw [(NotificationIntake.claim_eq_ok.mp row).2]
      constructor
      · exact sound.fence.grant counted holder (held_of renewed) fun other different => by
          simp only [State.fence, before other different]
      · intro other snapshot holds level
        by_cases mine : other = worker
        · subst mine
          exact Option.some.inj (renewed.symm.trans holds)
        · -- whoever claimed earlier is behind the new count
          have behind := sound.fence.bounded other _ (held_of (before other mine ▸ holds))
          simp only [State.fence] at behind
          omega
  | written worker snapshot whose write carried row holder children dispatches open_row own =>
      -- the snapshot that is written is the row itself
      rw [← sound.row_eq fenced write carried] at row
      refine sound.write carried (fenced snapshot write) row.amends.attempts holder ?_ (others whose)
      rcases own with gone | ⟨-, delivery, recipient, stands⟩
      · exact .inl (State.snapshot_out gone)
      · exact .inr (State.snapshot_of stands)
  | completed worker snapshot delivery batch now stamp whose write stands row holder children dispatches own =>
      have carried : state.snapshot worker = some snapshot := State.snapshot_of stands
      rw [← sound.row_eq fenced write carried] at row
      exact sound.write carried (fenced snapshot write) (complete_amends row).attempts holder
        (.inl (State.snapshot_out own)) (others whose)

theorem sound_run {start final : State} {events : List Event} (accepted : start.Accepted)
    (fenced : Machine.Along (IntakeRuns.step wiring) (Fenced wiring) start events)
    (reached : Machine.run (IntakeRuns.step wiring) start events = some final) : Sound final :=
  have keeps : Machine.Keeps (IntakeRuns.step wiring) (Fenced wiring) Sound :=
    fun _ _ _ sound fenced taken => sound.step fenced taken
  keeps.run (.of_accepted accepted) fenced reached

/-! ## What a later row owes to an earlier one -/

structure Follows (earlier later : NotificationIntake) : Prop where
  plan : ∀ plan, earlier.plan = some plan → later.plan = some plan
  status : earlier.status = .completed ∨ earlier.status = .failed → later.status = earlier.status
  attempts : earlier.attempts ≤ later.attempts
  claimedAt : later.attempts = earlier.attempts → later.claimedAt = earlier.claimedAt

theorem Follows.refl (row : NotificationIntake) : Follows row row :=
  ⟨fun _ stored => stored, fun _ => rfl, Nat.le_refl _, fun _ => rfl⟩

theorem Follows.trans {first second third : NotificationIntake} (early : Follows first second)
    (late : Follows second third) : Follows first third where
  plan plan stored := late.plan plan (early.plan plan stored)
  status closed := (late.status (by rw [early.status closed]; exact closed)).trans (early.status closed)
  attempts := Nat.le_trans early.attempts late.attempts
  claimedAt level := by
    have := early.attempts
    have := late.attempts
    exact (late.claimedAt (by omega)).trans (early.claimedAt (by omega))

theorem claim_follows {row next : NotificationIntake} {now stamp : Instant} {lease : Int}
    (claimed : row.claim now lease stamp = .ok next) : Follows row next := by
  obtain ⟨claimable, fields⟩ := NotificationIntake.claim_eq_ok.mp claimed
  constructor
  · intro plan stored
    rw [fields]
    exact stored
  · rintro (status | status) <;> simp [NotificationIntake.isClaimable, status] at claimable
  · rw [fields]
    exact Nat.le_succ _
  · intro level
    rw [fields] at level
    simp at level

theorem Amends.follows {row next : NotificationIntake} (amends : Amends row next) : Follows row next := by
  refine ⟨amends.plan, fun closed => ?_, Nat.le_of_eq amends.attempts.symm, fun _ => amends.claimedAt⟩
  rcases amends.live with status | status <;> simp [status] at closed

theorem step_follows {state next : State} {event : Event} (sound : Sound state) (fenced : Fenced wiring state event)
    (taken : step wiring state event = some next) : Follows state.row next.row := by
  cases step_effect taken with
  | kept row => rw [row]; exact .refl _
  | claimed worker now stamp same row => exact claim_follows row
  | written worker snapshot whose write carried row =>
      rw [← sound.row_eq fenced write carried] at row
      exact row.amends.follows
  | completed worker snapshot delivery batch now stamp whose write stands row =>
      rw [← sound.row_eq fenced write (State.snapshot_of stands)] at row
      exact (complete_amends row).follows

theorem step_by_holder {state next : State} {event : Event} (sound : Sound state) (fenced : Fenced wiring state event)
    (taken : step wiring state event = some next) : next.row = state.row ∨ event.worker = next.holder := by
  have latest {worker : Nat} {snapshot : NotificationIntake} (write : writes wiring state event = some snapshot)
      (carried : state.snapshot worker = some snapshot) : state.holder = some worker :=
    (sound.fence.latest worker _ (held_of carried)).mp (fenced snapshot write)
  cases step_effect taken with
  | kept row => exact .inl row
  | claimed worker now stamp same row holder => exact .inr (by rw [same, holder]; rfl)
  | written worker snapshot whose write carried row holder =>
      exact .inr (by rw [whose, holder, latest write carried])
  | completed worker snapshot delivery batch now stamp whose write stands row holder =>
      exact .inr (by rw [whose, holder, latest write (State.snapshot_of stands)])

/-- A write from behind the fence is made without the lease, and takes back an attempt unless it
fails the intake. -/
theorem unfenced_write {state next : State} {event : Event} (sound : Sound state)
    (taken : step wiring state event = some next) (stale : ¬ Fenced wiring state event)
    (changed : next.row ≠ state.row) :
    event.worker ≠ next.holder ∧ (next.row.attempts < state.row.attempts ∨ next.row.status = .failed) := by
  have behind {worker : Nat} {snapshot : NotificationIntake} (write : writes wiring state event = some snapshot)
      (carried : state.snapshot worker = some snapshot) :
      snapshot.attempts < state.row.attempts ∧ state.holder ≠ some worker := by
    have below : snapshot.attempts ≠ state.row.attempts := fun level => stale fun other due => by
      rw [← Option.some.inj (write.symm.trans due)]
      exact level
    exact ⟨Nat.lt_of_le_of_ne (sound.fence.bounded worker _ (held_of carried)) below,
      fun holder => below ((sound.fence.latest worker _ (held_of carried)).mpr holder)⟩
  cases step_effect taken with
  | kept row => exact absurd row changed
  | claimed worker now stamp same => exact absurd (by rw [same]; rintro _ ⟨⟩) stale
  | written worker snapshot whose write carried row holder =>
      obtain ⟨fewer, unheld⟩ := behind write carried
      refine ⟨by rw [whose, holder]; exact Ne.symm unheld, ?_⟩
      cases row with
      | planned around undecided done =>
          obtain ⟨-, plan, fields⟩ := decidePlan_eq_ok done
          rw [fields]
          exact .inl fewer
      | failed reason stamp done =>
          rw [(NotificationIntake.fail_eq_ok.mp done).2.2]
          exact .inr rfl
  | completed worker snapshot delivery batch now stamp whose write stands row holder =>
      obtain ⟨fewer, unheld⟩ := behind write (State.snapshot_of stands)
      refine ⟨by rw [whose, holder]; exact Ne.symm unheld, .inl ?_⟩
      rw [(NotificationIntake.complete_eq_ok.mp row).2.2]
      exact fewer

/-- In every run whose writes are fenced a worker that lost its lease changes nothing: plans and
terminal statuses stay, attempts never fall, and the lease moves only with a new attempt. -/
theorem lost_lease_changes_nothing {start middle final : State} {before after : List Event}
    (accepted : start.Accepted)
    (fenced : Machine.Along (step wiring) (Fenced wiring) start (before ++ after))
    (reached : Machine.run (step wiring) start before = some middle)
    (later : Machine.run (step wiring) middle after = some final) :
    Follows middle.row final.row ∧
      ∀ event rest next, after = event :: rest → step wiring middle event = some next →
        next.row = middle.row ∨ event.worker = next.holder := by
  obtain ⟨first, onward⟩ := Machine.along_append fenced reached
  have sound := sound_run accepted first reached
  have keeps : Machine.Keeps (step wiring) (Fenced wiring) Sound :=
    fun _ _ _ sound fenced taken => sound.step fenced taken
  constructor
  · exact keeps.relates (fun state next => Follows state.row next.row) (fun _ => .refl _)
      (fun _ _ _ early late => early.trans late)
      (fun _ _ _ sound fenced taken => step_follows sound fenced taken) sound onward later
  · rintro event rest next rfl taken
    exact step_by_holder sound onward.1 taken

/-! ## An announcement over two channels, of which the model picks one -/

def subscriber : Recipient where
  id := 7
  projectId := 1
  addresses channel := match channel with
    | .sms => some "+15550100".toList
    | .push => some "token".toList
    | .email | .inApp => none
  preferences := {}
  externalId := some "ada".toList
  createdAt := 0
  updatedAt := 0
  reachable := by decide
  opted_out_known := by decide

def announcement : AcceptNotificationCommand where
  projectId := 1
  recipientId := some "ada".toList
  addresses _ := none
  channels := none
  category := none
  topicSlug := none
  templateSlug := none
  templateVariables := none
  content := some ⟨"Half price today".toList, none, [], [], offer_solid⟩
  groupKey := none
  sendAt := none
  idempotencyKey := none

def announced : Checked Acceptance := accept cpython { recipients := [subscriber] } announcement firstIds

def asking (channel : DeliveryChannel) (now : Instant) : Surroundings where
  recipient := some subscriber
  answer := some { channels := [channel] }
  child other := ⟨if other = .sms then 20 else 21, now, now, now, now, now⟩
  claiming := now
  claimed := now
  planning := now
  planned := now
  completing := now
  completed := now
  failed := now

def expanding (worker : Nat) (channel : DeliveryChannel) (now : Instant) : List Event :=
  [.decide worker (asking channel now), .build worker (asking channel now), .finish worker (asking channel now)]

/-- The first worker stalls behind its claim and loses its message; a second one, six minutes
later, completes the intake. -/
def overtaken : List Event :=
  [.relay .recorded, .deliver 0 0, .claim 0 0 0, .disconnect 0, .deliver 1 0,
    .claim 1 (6 * Clock.minute) (6 * Clock.minute)] ++ expanding 1 .sms (6 * Clock.minute)

def State.view (state : State) : IntakeStatus × Nat × Option Instant × Option (List DeliveryChannel) ×
    List DeliveryChannel :=
  (state.row.status, state.row.attempts, state.row.claimedAt, state.row.plan.map (·.channels),
    state.children.map (·.channel))

/-- The first worker resumes: the completed intake is PROCESSING again under the first claim and with
another plan, and in the end both channels have a child. -/
theorem stalled_worker_rewrites_intake :
    ∃ creation middle replanned final, announced = .ok (.created creation) ∧
      State.Accepted { row := creation.intake } ∧
      Machine.run (step {}) { row := creation.intake } overtaken = some middle ∧
      step {} middle (.decide 0 (asking .push (7 * Clock.minute))) = some replanned ∧
      Machine.run (step {}) middle (expanding 0 .push (7 * Clock.minute)) = some final ∧
      middle.view = (.completed, 2, some (6 * Clock.minute), some [.sms], [.sms]) ∧
      replanned.view = (.processing, 1, some 0, some [.push], [.sms]) ∧
      final.view = (.completed, 1, some 0, some [.push], [.push, .sms]) :=
  ⟨_, _, _, _, rfl, ⟨rfl, rfl, rfl, rfl, rfl, fun _ => rfl⟩, rfl, rfl, rfl, by decide, by decide, by decide⟩

def planned : List Event :=
  [.relay .recorded, .deliver 0 0, .claim 0 0 0, .decide 0 (asking .sms 0), .die 0]

def reclaimed : List Event :=
  [.deliver 1 0, .claim 1 (6 * Clock.minute) (6 * Clock.minute)] ++ expanding 1 .push (6 * Clock.minute)

theorem reclaimed_intake_keeps_plan :
    ∃ creation middle final, announced = .ok (.created creation) ∧
      Machine.run (step {}) { row := creation.intake } planned = some middle ∧
      Machine.run (step {}) middle reclaimed = some final ∧
      middle.row.plan.map (·.channels) = some [.sms] ∧ Follows middle.row final.row := by
  obtain ⟨creation, middle, final, made, reached, later, chosen, accepted, fenced⟩ : ∃ creation middle final,
      announced = .ok (.created creation) ∧
      Machine.run (step {}) { row := creation.intake } planned = some middle ∧
      Machine.run (step {}) middle reclaimed = some final ∧
      middle.row.plan.map (·.channels) = some [.sms] ∧
      State.Accepted { row := creation.intake } ∧
      Machine.Along (step {}) (Fenced {}) { row := creation.intake } (planned ++ reclaimed) :=
    ⟨_, _, _, rfl, rfl, rfl, by decide, ⟨rfl, rfl, rfl, rfl, rfl, fun _ => rfl⟩, by decide⟩
  exact ⟨creation, middle, final, made, reached, later, chosen,
    (lost_lease_changes_nothing accepted fenced reached later).1⟩

end Tiber.IntakeRuns
