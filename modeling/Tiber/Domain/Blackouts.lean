import Tiber.Domain.Verdicts

/-! Blackout periods, stated on instants and compared on wall clocks.

Where a zone's clock is set back, a later instant may read an earlier wall clock. The two
comparisons with the bounds of a period then come out differently from those on instants.
-/

set_option autoImplicit false

namespace Library.Zone

def setBack (zone : Zone) (earlier later : Instant) : Int := zone.offsetAt earlier - zone.offsetAt later

/-- Walls are in the order of their instants unless the clock is set back by more than the time between. -/
theorem wall_le_iff (zone : Zone) (earlier later : Instant) :
    zone.wall earlier ≤ zone.wall later ↔ zone.setBack earlier later ≤ later - earlier := by
  simp only [wall, setBack, Wall]
  omega

end Library.Zone

namespace Tiber

open Library

namespace BlackoutPeriod

/-- The clock is nowhere set back so far that one bound of the period alone changes sides. -/
structure ReadRight (period : BlackoutPeriod) (zone : Zone) (t : Instant) : Prop where
  inside : period.start ≤ t → t ≤ period.finish →
    zone.setBack period.start t ≤ t - period.start ∧ zone.setBack t period.finish ≤ period.finish - t
  before : t < period.start → period.start - t ≤ zone.setBack t period.start →
    period.finish - t < zone.setBack t period.finish
  after : period.finish < t → t - period.finish ≤ zone.setBack period.finish t →
    t - period.start < zone.setBack period.start t

theorem covers_iff (period : BlackoutPeriod) (t : Instant) :
    period.covers t = true ↔ period.start ≤ t ∧ t ≤ period.finish := by
  simp [covers]

theorem coversWall_iff (period : BlackoutPeriod) (zone : Zone) (t : Instant) :
    period.coversWall zone t = true ↔
      zone.setBack period.start t ≤ t - period.start ∧ zone.setBack t period.finish ≤ period.finish - t := by
  simp only [coversWall, Bool.and_eq_true, decide_eq_true_eq, zone.wall_le_iff]

theorem readRight_iff (period : BlackoutPeriod) (zone : Zone) (t : Instant) :
    period.ReadRight zone t ↔ period.coversWall zone t = period.covers t := by
  have ordered := period.ordered
  have start : zone.setBack t period.start = - zone.setBack period.start t := by unfold Zone.setBack; omega
  have finish : zone.setBack period.finish t = - zone.setBack t period.finish := by unfold Zone.setBack; omega
  rw [Bool.eq_iff_iff, covers_iff, coversWall_iff]
  dsimp only [Instant] at *
  constructor
  · rintro ⟨inside, before, after⟩
    dsimp only [Instant] at *
    omega
  · intro same
    constructor <;> dsimp only [Instant] <;> omega

end BlackoutPeriod

/-- A period that holds the send is read right, or one that does not hold it is misread in its place; and
where none holds it, all are read right. -/
def BlackoutsReadRight (periods : List BlackoutPeriod) (zone : Zone) (t : Instant) : Prop :=
  if ∃ period ∈ periods, period.start ≤ t ∧ t ≤ period.finish then
    ∃ period ∈ periods, period.start ≤ t ∧ t ≤ period.finish ↔ period.ReadRight zone t
  else ∀ period ∈ periods, period.ReadRight zone t

structure PolicyContext.BlackoutsAsInstants (ctx : PolicyContext) : Prop where
  project : (PolicyRule.projectBlackoutPeriod.evaluate ctx).allowed = false ↔
    ∃ constraint ∈ ctx.deliveryConstraint, ∃ period ∈ constraint.blackoutPeriods,
      period.start ≤ ctx.judged ∧ ctx.judged ≤ period.finish
  recipient : (PolicyRule.evaluateRecipientTimes ctx).Suppresses ↔
    ∃ period ∈ ctx.recipient.preferences.blackoutPeriod, period.start ≤ ctx.judged ∧ ctx.judged ≤ period.finish

theorem blackoutsReadRight_iff (periods : List BlackoutPeriod) (zone : Zone) (t : Instant) :
    ((∃ period ∈ periods, period.coversWall zone t = true) ↔
      ∃ period ∈ periods, period.start ≤ t ∧ t ≤ period.finish) ↔ BlackoutsReadRight periods zone t := by
  -- a period is read as holding the send when it does and is read right, or neither
  have read (period : BlackoutPeriod) : period.coversWall zone t = true ↔
      (period.start ≤ t ∧ t ≤ period.finish ↔ period.ReadRight zone t) := by
    rw [period.readRight_iff, ← period.covers_iff]
    cases period.coversWall zone t <;> cases period.covers t <;> simp
  unfold BlackoutsReadRight
  simp only [read]
  split
  · rename_i held
    simp only [held, iff_true]
  · rename_i free
    simp only [free, iff_false, not_exists, not_and]
    apply forall₂_congr
    intro period listed
    have outside : ¬ (period.start ≤ t ∧ t ≤ period.finish) := fun inside => free ⟨period, listed, inside⟩
    simp only [outside, false_iff, not_not]

/-- The rules judge blackouts as instants exactly when the clock of each rule's zone leaves the periods
readable at the judged instant. -/
theorem blackouts_as_instants_iff (ctx : PolicyContext) :
    ctx.BlackoutsAsInstants ↔
      (∀ constraint ∈ ctx.deliveryConstraint,
        BlackoutsReadRight constraint.blackoutPeriods constraint.timezone ctx.judged) ∧
      BlackoutsReadRight ctx.recipient.preferences.blackoutPeriod.toList ctx.recipient.zone ctx.judged := by
  have project : ((PolicyRule.projectBlackoutPeriod.evaluate ctx).allowed = false ↔
      ∃ constraint ∈ ctx.deliveryConstraint, ∃ period ∈ constraint.blackoutPeriods,
        period.start ≤ ctx.judged ∧ ctx.judged ≤ period.finish) ↔
      ∀ constraint ∈ ctx.deliveryConstraint,
        BlackoutsReadRight constraint.blackoutPeriods constraint.timezone ctx.judged := by
    rw [PolicyRule.evaluate, ← Bool.not_eq_true, PolicyRule.evaluateBlackout_allowed]
    simp only [← blackoutsReadRight_iff]
    cases ctx.deliveryConstraint with
    | none => simp
    | some constraint => simp
  have recipient : ((PolicyRule.evaluateRecipientTimes ctx).Suppresses ↔
      ∃ period ∈ ctx.recipient.preferences.blackoutPeriod, period.start ≤ ctx.judged ∧ ctx.judged ≤ period.finish) ↔
      BlackoutsReadRight ctx.recipient.preferences.blackoutPeriod.toList ctx.recipient.zone ctx.judged := by
    rw [PolicyRule.evaluateRecipientTimes_suppresses, ← blackoutsReadRight_iff, Recipient.blackedOut,
      Option.any_eq_true]
    simp only [Option.mem_toList, Option.mem_def]
  rw [← project, ← recipient]
  exact ⟨fun judged => ⟨judged.project, judged.recipient⟩, fun both => ⟨both.1, both.2⟩⟩

def away (timezone : Zone) (start finish : Instant) (ordered : start ≤ finish) : Recipient where
  id := 7
  projectId := 1
  addresses channel := if channel = .sms then some "+15550100".toList else none
  preferences := { blackoutPeriod := some ⟨"away", start, finish, ordered⟩ }
  timezone := some timezone
  createdAt := 0
  updatedAt := 0
  reachable := sms_reachable
  opted_out_known := sms_known

/-- The period from ten to twelve until twenty past, in the zone whose clock goes back an hour at twelve. -/
def lunch (notification : Notification) (zone : Zone) (now : Instant) : PolicyContext where
  notification
  recipient := away zone (12 * Clock.hour - 10 * Clock.minute) (12 * Clock.hour + 20 * Clock.minute) (by decide)
  deliveryConstraint := some
    (shut zone (12 * Clock.hour - 10 * Clock.minute) (12 * Clock.hour + 20 * Clock.minute) (by decide))
  now

/-- At twelve, inside the period, both rules let the message pass where the clock goes back, and reject it
where it stays. -/
theorem blackouts_misread :
    ∃ notification, Notification.build news = .ok notification ∧
      ¬ (lunch notification fallingBack (12 * Clock.hour)).BlackoutsAsInstants ∧
      (PolicyRule.projectBlackoutPeriod.evaluate (lunch notification fallingBack (12 * Clock.hour))).allowed = true ∧
      ¬ (PolicyRule.evaluateRecipientTimes (lunch notification fallingBack (12 * Clock.hour))).Suppresses ∧
      (PolicyRule.projectBlackoutPeriod.evaluate (lunch notification (.fixed 0) (12 * Clock.hour))).allowed = false ∧
      (PolicyRule.evaluateRecipientTimes (lunch notification (.fixed 0) (12 * Clock.hour))).Suppresses := by
  refine ⟨_, rfl, ?_, by decide, by decide, by decide, by decide⟩
  intro judged
  have rejected := judged.project.mpr
    ⟨_, rfl, ⟨"holidays", 12 * Clock.hour - 10 * Clock.minute, 12 * Clock.hour + 20 * Clock.minute, by decide⟩,
      .head _, by decide⟩
  revert rejected
  decide

end Tiber
