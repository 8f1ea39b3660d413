import Tiber.System.IntakeFence

/-! Whether somebody still answers for an accepted intake.

The outbox row, the messages of the broker and the workers hand an intake to one
another. Five of these steps let go of it without a successor: a return in front of an
unexpired lease, a return in front of a lock that nobody is left behind, the end of a worker
whose message the broker has given to somebody else, the last failure of a dead letter, and
the relay's last failed publication.
-/

set_option autoImplicit false

namespace Tiber.IntakeRuns

open Library

variable (wiring : Wiring)

namespace State

variable (state : State)

def Live : Prop := state.row.status = .received ∨ state.row.status = .processing

/-- The broker holds a message, be it in the dead-letter queue. -/
def Queued : Prop := state.messages ≠ [] ∨ state.deadLetters ≠ []

/-- Somebody answers for the intake: the outbox, the broker or a worker. -/
def Covered : Prop :=
  (∃ attempts, state.outbox = .pending attempts) ∨ state.Queued ∨ ∃ worker, (state.worker worker).isSome = true

def CoveredWithout (gone : Nat) : Prop :=
  (∃ attempts, state.outbox = .pending attempts) ∨ state.Queued ∨
    ∃ other, other ≠ gone ∧ (state.worker other).isSome = true

/-- The broker has taken the worker's message back. -/
def Unheld (worker : Nat) : Prop := ∃ delivery stage, state.worker worker = some (delivery, stage) ∧ ¬ delivery.held

def Revives (worker : Nat) : Prop := ∃ delivery stage, state.worker worker = some (delivery, stage) ∧ delivery.dead

end State

/-- Whoever lets go of a live intake leaves it to somebody else. -/
def HandsOver (state : State) (event : Event) : Prop :=
  state.Live →
  match event with
  | .relay (.failed false) => ∀ attempts, state.outbox = .pending attempts →
      wiring.maxPublications ≤ attempts + 1 → state.Queued ∨ ∃ worker, (state.worker worker).isSome = true
  | .claim worker now _ => state.row.isClaimable now wiring.processor.lease = false → state.CoveredWithout worker
  | .giveWay worker none => state.CoveredWithout worker
  | .retry worker sent => state.Unheld worker ∨ state.Revives worker →
      (∃ delivery stage, state.worker worker = some (delivery, stage) ∧ (wiring.maxRetries ≤ delivery.retries ∨ ¬ sent)) →
      state.CoveredWithout worker
  | .die worker => state.Unheld worker → state.CoveredWithout worker
  | _ => True

variable {wiring}

/-! ## What each step leaves behind -/

namespace State

variable {state : State} {worker : Nat} {delivery : Delivery} {stage : Stage}

theorem covered_worker {run : Delivery × Stage} (stands : state.worker worker = some run) : state.Covered :=
  .inr (.inr ⟨worker, by rw [stands]; rfl⟩)

theorem covered_enter : (state.enter worker delivery stage).Covered := covered_worker enter_self

theorem covered_message {message : Nat} {rest : List Nat} (queued : state.messages = message :: rest) :
    state.Covered := .inr (.inl (.inl (by rw [queued]; exact List.cons_ne_nil _ _)))

theorem covered_requeue (delivery : Delivery) (retries : Nat) : (state.requeue delivery retries).Covered := by
  unfold requeue
  split
  · exact .inr (.inl (.inr (List.cons_ne_nil _ _)))
  · exact .inr (.inl (.inl (List.cons_ne_nil _ _)))

theorem covered_leave : (state.leave worker).Covered ↔ state.CoveredWithout worker := by
  have others : (∃ other, ((state.leave worker).worker other).isSome = true) ↔
      ∃ other, other ≠ worker ∧ (state.worker other).isSome = true := by
    constructor
    · rintro ⟨other, stands⟩
      by_cases same : other = worker
      · rw [same, leave_self] at stands
        cases stands
      · exact ⟨other, same, leave_other same ▸ stands⟩
    · rintro ⟨other, different, stands⟩
      exact ⟨other, (leave_other different).symm ▸ stands⟩
  exact or_congr Iff.rfl (or_congr Iff.rfl others)

theorem covered_raise (snapshot : NotificationIntake) (error : PyError) :
    (state.raise worker delivery snapshot error).Covered := by
  obtain ⟨stage, -, same⟩ := state.raise_eq worker delivery snapshot error
  rw [same]
  exact covered_enter

theorem not_live (closed : state.row.status = .completed ∨ state.row.status = .failed) : ¬ state.Live := by
  rintro (live | live) <;> rcases closed with status | status <;> rw [live] at status <;> cases status

end State

variable {state next : State}

theorem covered_relay {publication : Publication} (taken : step wiring state (.relay publication) = some next)
    (live : next.Live) :
    next.Covered ↔ HandsOver wiring state (.relay publication) := by
  simp only [step] at taken
  split at taken
  · rename_i attempts pending
    split at taken
    · cases taken
      exact iff_of_true (State.covered_message rfl) fun _ => trivial
    · cases taken
      exact iff_of_true (State.covered_message rfl) fun _ => trivial
    · rename_i arrived
      cases taken
      cases arrived with
      | true => exact iff_of_true (State.covered_message rfl) fun _ => trivial
      | false =>
          -- only its last publication makes the relay give up
          by_cases spent : wiring.maxPublications ≤ attempts + 1
          · simp only [spent, if_true]
            constructor
            · rintro (⟨_, still⟩ | rest) _ other same -
              · cases still
              · exact rest
            · exact fun handed => .inr (handed live attempts pending spent)
          · apply iff_of_true (.inl ⟨attempts + 1, if_neg spent⟩)
            intro _ other same limit
            cases pending.symm.trans same
            exact absurd limit spent
  · cases taken
  · cases taken

theorem covered_claim {worker : Nat} {now stamp : Instant}
    (taken : step wiring state (.claim worker now stamp) = some next) (live : next.Live) :
    next.Covered ↔ HandsOver wiring state (.claim worker now stamp) := by
  simp only [step] at taken
  split at taken
  · split at taken
    · rename_i claimable
      have free : HandsOver wiring state (.claim worker now stamp) := fun _ leased => by
        rw [claimable] at leased; cases leased
      split at taken
      · cases taken
        exact iff_of_true (State.covered_worker State.enter_self) free
      · cases taken
        exact iff_of_true State.covered_enter free
    · rename_i leased
      cases taken
      -- the row is not claimable, so the task is dropped
      rw [State.covered_leave]
      exact ⟨fun covered _ _ => covered, fun handed => handed live (by simpa using leased)⟩
  · cases taken

/-- A worker gives way to a running one, or to nobody. -/
theorem covered_giveWay {worker : Nat} {holder : Option Nat} (taken : step wiring state (.giveWay worker holder) = some next)
    (live : next.Live) : next.Covered ↔ HandsOver wiring state (.giveWay worker holder) := by
  have passed (locked : state.Locked worker holder) (left : next = state.leave worker) :
      next.Covered ↔ HandsOver wiring state (.giveWay worker holder) := by
    subst left
    rw [State.covered_leave]
    cases holder with
    | some other => exact iff_of_true (.inr (.inr ⟨other, locked⟩)) fun _ => trivial
    | none => exact ⟨fun covered _ => covered, fun handed => handed live⟩
  simp only [step] at taken
  split at taken
  · split at taken
    · rename_i locked
      exact passed locked (Option.some.inj taken).symm
    · cases taken
  · split at taken
    · rename_i locked
      exact passed locked (Option.some.inj taken).symm
    · cases taken
  · cases taken

/-- A retry is a new message; without one the message goes to the dead letters, if the broker still waits for
it and it has not been there. -/
theorem covered_retry {worker : Nat} {sent : Bool} (taken : step wiring state (.retry worker sent) = some next)
    (live : next.Live) : next.Covered ↔ HandsOver wiring state (.retry worker sent) := by
  simp only [step] at taken
  split at taken
  · rename_i delivery stands
    cases taken
    by_cases left : delivery.retries < wiring.maxRetries ∧ sent = true
    · rw [if_pos left] at live ⊢
      apply iff_of_true (State.covered_requeue _ _)
      rintro - - ⟨other, stage, same, spent | lost⟩
      · cases stands.symm.trans same
        exact absurd left.1 (Nat.not_lt.mpr spent)
      · exact absurd left.2 lost
    · rw [if_neg left] at live ⊢
      by_cases kept : delivery.held = true ∧ ¬ delivery.dead = true
      · rw [if_pos kept]
        apply iff_of_true (.inr (.inl (.inr (List.cons_ne_nil _ _))))
        rintro - (⟨other, stage, same, unheld⟩ | ⟨other, stage, same, dead⟩)
        · cases stands.symm.trans same
          exact absurd kept.1 unheld
        · cases stands.symm.trans same
          exact absurd dead kept.2
      · rw [if_neg kept] at live ⊢
        rw [State.covered_leave]
        have dropped : state.Unheld worker ∨ state.Revives worker := by
          by_cases held : delivery.held = true
          · exact .inr ⟨delivery, _, stands, not_not.mp fun alive => kept ⟨held, alive⟩⟩
          · exact .inl ⟨delivery, _, stands, held⟩
        have unsent : wiring.maxRetries ≤ delivery.retries ∨ ¬ sent = true :=
          (not_and_or.mp left).imp_left Nat.not_lt.mp
        exact ⟨fun covered _ _ _ => covered, fun handed => handed live dropped ⟨delivery, _, stands, unsent⟩⟩
  · cases taken

/-- A worker that dies lets go of the row, and of its message if the broker has it no more. -/
theorem covered_die {worker : Nat} (taken : step wiring state (.die worker) = some next) (live : next.Live) :
    next.Covered ↔ HandsOver wiring state (.die worker) := by
  simp only [step, Option.map_eq_some_iff] at taken
  obtain ⟨⟨delivery, stage⟩, stands, rfl⟩ := taken
  by_cases held : delivery.held = true
  · rw [if_pos held]
    apply iff_of_true (State.covered_requeue _ _)
    rintro - ⟨other, stage, same, unheld⟩
    cases stands.symm.trans same
    exact absurd held unheld
  · rw [if_neg held] at live ⊢
    have same : ({ state.leave worker with severed := true } : State).Covered ↔ (state.leave worker).Covered := Iff.rfl
    rw [same, State.covered_leave]
    exact ⟨fun covered _ _ => covered, fun handed => handed live ⟨delivery, stage, stands, held⟩⟩

/-- Leaving a row that stays live needs a successor, and nothing else does. -/
theorem covered_step {event : Event} (taken : step wiring state event = some next)
    (live : next.Live) : next.Covered ↔ HandsOver wiring state event := by
  have always {state next : State} {event : Event} (covered : next.Covered) (free : HandsOver wiring state event) :
      next.Covered ↔ HandsOver wiring state event := iff_of_true covered free
  -- the five events above let go of the message or of the worker; the others leave a worker behind
  cases event with
  | relay publication => exact covered_relay taken live
  | deliver worker retries | deliverDead worker retries =>
      simp only [step] at taken
      split at taken <;> cases taken
      exact always (State.covered_worker State.enter_self) fun _ => trivial
  | claim worker now stamp => exact covered_claim taken live
  | giveWay worker holder => exact covered_giveWay taken live
  | decide worker around =>
      simp only [step] at taken
      split at taken
      · cases taken
        refine always ?_ fun _ => trivial
        split
        · exact State.covered_enter
        split
        · exact State.covered_raise _ _
        split
        · split
          · exact State.covered_raise _ _
          · exact State.covered_worker State.enter_self
        · exact State.covered_enter
      · cases taken
  | build worker around =>
      simp only [step] at taken
      split at taken
      · cases taken
        refine always ?_ fun _ => trivial
        split
        · exact State.covered_raise _ _
        · exact State.covered_enter
      · cases taken
  | finish worker around =>
      simp only [step] at taken
      split at taken
      · rename_i delivery snapshot children stands
        refine always ?_ fun _ => trivial
        split at taken
        · cases taken
          exact State.covered_enter
        split at taken
        · cases taken
          exact State.covered_raise _ _
        · rename_i completed done
          cases taken
          -- what is completed or failed needs nobody
          exact absurd live (State.not_live (.inl (by rw [(NotificationIntake.complete_eq_ok.mp done).2.2])))
      · cases taken
  | fail worker stamp =>
      simp only [step] at taken
      split at taken
      · refine always ?_ fun _ => trivial
        split at taken
        · rename_i closed
          cases taken
          exact absurd live (State.not_live closed)
        split at taken
        · rename_i failed done
          cases taken
          exact absurd live (State.not_live (.inr (by rw [(NotificationIntake.fail_eq_ok.mp done).2.2])))
        · cases taken
          exact State.covered_enter
      · cases taken
  | fault worker =>
      simp only [step, Option.map_eq_some_iff] at taken
      obtain ⟨run, -, rfl⟩ := taken
      exact always (State.covered_worker State.enter_self) fun _ => trivial
  | retry worker sent => exact covered_retry taken live
  | disconnect worker =>
      simp only [step] at taken
      split at taken
      · split at taken <;> cases taken
        exact always (State.covered_requeue _ _) fun _ => trivial
      · cases taken
  | die worker => exact covered_die taken live

/-- In every run whose steps hand a live intake over, no reachable state has it stranded. -/
theorem intake_never_stranded {start final : State} {events : List Event} (accepted : start.Accepted)
    (handed : Machine.Along (step wiring) (HandsOver wiring) start events)
    (reached : Machine.run (step wiring) start events = some final) (live : final.Live) : final.Covered := by
  have keeps : Machine.Keeps (step wiring) (HandsOver wiring) fun state => state.Live → state.Covered :=
    fun _ _ _ _ handed taken live => (covered_step taken live).mpr handed
  exact keeps.run (fun _ => .inl ⟨0, accepted.2.1⟩) handed reached live

/-! ## One failure after the claim -/

/-- The worker meets an infrastructure error behind its claim. Celery's retry, thirty seconds later,
finds the lease of the failed attempt unexpired and is acknowledged. -/
def retriedTooSoon : List Event :=
  [.relay .recorded, .deliver 0 0, .claim 0 0 0, .fault 0, .retry 0 true, .deliver 0 1,
    .claim 0 (30 * Clock.second) (30 * Clock.second)]

theorem faulted_intake_stranded :
    ∃ creation final, announced = .ok (.created creation) ∧ State.Accepted { row := creation.intake } ∧
      Machine.run (step {}) { row := creation.intake } retriedTooSoon = some final ∧
      final.row.status = .processing ∧ ¬ final.Covered := by
  obtain ⟨creation, final, made, accepted, reached, status, outbox, messages, deadLetters, gone⟩ : ∃ creation final,
      announced = .ok (.created creation) ∧ State.Accepted { row := creation.intake } ∧
      Machine.run (step {}) { row := creation.intake } retriedTooSoon = some final ∧
      final.row.status = .processing ∧ final.outbox = .published ∧ final.messages = [] ∧
      final.deadLetters = [] ∧ final.worker 0 = none :=
    ⟨_, _, rfl, ⟨rfl, rfl, rfl, rfl, rfl, fun _ => rfl⟩, rfl, by decide, rfl, rfl, rfl, rfl⟩
  refine ⟨creation, final, made, accepted, reached, status, ?_⟩
  rintro (⟨_, pending⟩ | (queued | dead) | ⟨worker, stands⟩)
  · rw [outbox] at pending; cases pending
  · exact queued messages
  · exact dead deadLetters
  · by_cases same : worker = 0
    · rw [same, gone] at stands; cases stands
    · have idle : final.worker worker = none := by
        refine (run_others reached fun event member mine => same ?_).trans (accepted.2.2.2.2.2 worker)
        simp only [retriedTooSoon, List.mem_cons, List.not_mem_nil, or_false] at member
        rcases member with rfl | rfl | rfl | rfl | rfl | rfl | rfl <;> cases mine <;> rfl
      rw [idle] at stands; cases stands

theorem orphaned_message_returns :
    ∃ creation final, announced = .ok (.created creation) ∧
      Machine.run (step {}) { row := creation.intake } [.relay .recorded, .deliver 0 0, .claim 0 0 0, .die 0] =
        some final ∧
      final.row.status = .processing ∧ final.Covered := by
  obtain ⟨creation, final, made, accepted, handed, reached, status⟩ : ∃ creation final,
      announced = .ok (.created creation) ∧ State.Accepted { row := creation.intake } ∧
      Machine.Along (step {}) (HandsOver {}) { row := creation.intake }
        [.relay .recorded, .deliver 0 0, .claim 0 0 0, .die 0] ∧
      Machine.run (step {}) { row := creation.intake } [.relay .recorded, .deliver 0 0, .claim 0 0 0, .die 0] =
        some final ∧
      final.row.status = .processing := by
    refine ⟨_, _, rfl, ⟨rfl, rfl, rfl, rfl, rfl, fun _ => rfl⟩, ?_, rfl, by decide⟩
    refine ⟨fun _ => trivial, fun _ relayed => ?_⟩
    cases relayed
    refine ⟨fun _ => trivial, fun _ delivered => ?_⟩
    cases delivered
    refine ⟨fun _ leased => (by cases leased), fun _ claimed => ?_⟩
    cases claimed
    refine ⟨?_, fun _ _ => trivial⟩
    rintro - ⟨delivery, stage, stands, unheld⟩
    cases stands
    exact absurd rfl unheld
  exact ⟨creation, final, made, reached, status, intake_never_stranded accepted handed reached (.inr status)⟩

end Tiber.IntakeRuns
