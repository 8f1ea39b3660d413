import Tiber.Domain.Postponement
import Tiber.Library.WallClock

/-! When a quiet-hours window ends next, and whether that is later than the send it postpones. -/

set_option autoImplicit false

namespace Tiber

open Library

/-! ## The next end -/

/-- `result` is the first instant from `after` on at which the window ends, and until then it lasts. -/
structure QuietHours.EndsNext (window : QuietHours) (zone : Zone) (after result : Instant) : Prop where
  reached : after ≤ result
  ends : Zone.timeOfDay (zone.wall result) = window.windowEnd
  least : ∀ t, after ≤ t → Zone.timeOfDay (zone.wall t) = window.windowEnd → result ≤ t
  lasts : window.covers (Zone.timeOfDay (zone.wall after)) = true →
    ∀ t, after ≤ t → t ≤ result → window.covers (Zone.timeOfDay (zone.wall t)) = true

@[simp] theorem Zone.wallOffset_fixed (offset : Int) (wall : Wall) (fold : Bool) :
    (Zone.fixed offset).wallOffset wall fold = offset := rfl

namespace QuietHours

variable {window : QuietHours}

/-- What is left of the wall clock until a window's next end: a whole day at the end itself. -/
def remaining (window : QuietHours) (time : Int) : Int :=
  (window.windowEnd - window.windowEnd % Clock.second - time - 1) % Clock.day + 1

theorem nextEnd_eq (ofDay : window.OfDay) (zone : Zone) (after : Instant) :
    window.nextEnd zone after = zone.wall after + window.remaining (Zone.timeOfDay (zone.wall after)) := by
  obtain ⟨-, -, starts, ends⟩ := ofDay
  unfold nextEnd remaining
  dsimp only
  split <;>
  · rename_i placed
    simp only [Zone.timeOfDay, Clock.day, Clock.hour, Clock.minute, Clock.second, Wall] at *
    omega

theorem remaining_bounds (window : QuietHours) (time : Int) :
    0 < window.remaining time ∧ window.remaining time ≤ Clock.day := by
  unfold remaining
  simp only [Clock.day, Clock.hour, Clock.minute, Clock.second]
  omega

/-- In a zone without transitions the next end is the least instant at which the window ends, except
from the very end of a window: that is the next day's. -/
theorem nextEnd_endsNext_iff (ofDay : window.OfDay) (whole : window.windowEnd % Clock.second = 0) (offset : Int)
    (after : Instant) :
    window.EndsNext (.fixed offset) after ((Zone.fixed offset).instantOf (window.nextEnd (.fixed offset) after) false) ↔
      Zone.timeOfDay ((Zone.fixed offset).wall after) ≠ window.windowEnd := by
  have read : (Zone.fixed offset).instantOf (window.nextEnd (.fixed offset) after) false =
      after + window.remaining (Zone.timeOfDay (after + offset)) := by
    rw [nextEnd_eq ofDay, Zone.wall_fixed, Zone.instantOf, Zone.wallOffset_fixed]
    rw [Int.add_right_comm]
    exact Int.add_sub_cancel ..
  have bounds := window.remaining_bounds (Zone.timeOfDay (after + offset))
  rw [read]
  constructor
  · intro next atEnd
    -- the window ends at `after` itself
    have least := next.least after (Int.le_refl _) atEnd
    dsimp only [Instant] at least
    omega
  · intro elsewhere
    obtain ⟨startsDay, startsIn, endsDay, endsIn⟩ := ofDay
    simp only [remaining, whole, Int.sub_zero, Zone.wall_fixed, Zone.timeOfDay, Clock.day, Clock.hour,
      Clock.minute, Clock.second, Instant] at *
    constructor
    · dsimp only [Instant]
      omega
    · simp only [Zone.wall_fixed, Zone.timeOfDay, Clock.day, Clock.hour, Clock.minute, Clock.second]
      omega
    · intro t later atEnd
      simp only [Zone.wall_fixed, Zone.timeOfDay, Clock.day, Clock.hour, Clock.minute, Clock.second, Instant] at *
      omega
    · intro covered t later earlier
      rw [covers_iff] at covered ⊢
      simp only [Zone.wall_fixed, Zone.timeOfDay, Clock.day, Clock.hour, Clock.minute, Clock.second, Instant] at *
      split at covered
      · rename_i ordinary
        rw [if_pos ordinary]
        omega
      · rename_i overnight
        rw [if_neg overnight]
        omega

end QuietHours

theorem nightly_ofDay : nightly.OfDay := ⟨by decide, by decide, by decide, by decide⟩

/-- At the end of the night to the microsecond the next end is said to be tomorrow's. -/
theorem nightly_end_missed :
    ¬ nightly.EndsNext (.fixed 0) (8 * Clock.hour)
      ((Zone.fixed 0).instantOf (nightly.nextEnd (.fixed 0) (8 * Clock.hour)) false) := by
  intro next
  exact absurd (next.least (8 * Clock.hour) (Int.le_refl _) rfl) (by decide)

theorem nightly_ends_next :
    nightly.EndsNext (.fixed 0) (2 * Clock.hour)
      ((Zone.fixed 0).instantOf (nightly.nextEnd (.fixed 0) (2 * Clock.hour)) false) :=
  (QuietHours.nextEnd_endsNext_iff nightly_ofDay rfl 0 (2 * Clock.hour)).mpr (by decide)

/-! ## A postponement and the clock -/

/-- Up to `t` the clock has never been ahead of its reading there by as much as `lead`. -/
def NeverAhead (zone : Zone) (t : Instant) (lead : Int) : Prop := ∀ s ≤ t, zone.wall s < zone.wall t + lead

def QuietHours.delay (window : QuietHours) (zone : Zone) (t : Instant) : Int :=
  window.remaining (Zone.timeOfDay (zone.wall t)) + graceMinutes * Clock.minute

namespace QuietHours

variable {window : QuietHours} {zone : Zone} {t : Instant}

theorem resumeAt_eq (ofDay : window.OfDay) :
    window.resumeAt zone t = zone.instantOf (zone.wall t + window.delay zone t) false := by
  rw [resumeAt, nextEnd_eq ofDay, delay]
  exact congrArg (zone.instantOf · false) (Int.add_assoc ..)

theorem delay_pos (window : QuietHours) (zone : Zone) (t : Instant) : 0 < window.delay zone t := by
  have bounds := window.remaining_bounds (Zone.timeOfDay (zone.wall t))
  unfold delay
  simp only [graceMinutes, Clock.minute, Clock.second]
  omega

theorem lt_resumeAt (ofDay : window.OfDay) (never : NeverAhead zone t (window.delay zone t)) :
    t < window.resumeAt zone t := by
  rw [resumeAt_eq ofDay]
  exact Zone.lt_instantOf never

theorem neverAhead_of_lt (ofDay : window.OfDay) (spaced : zone.Spaced) (onward : t < window.resumeAt zone t) :
    NeverAhead zone t (window.delay zone t) := by
  rw [resumeAt_eq ofDay] at onward
  have ahead : zone.wall t < zone.wall t + window.delay zone t := Int.lt_add_of_pos_right _ (window.delay_pos zone t)
  exact (Zone.lt_instantOf_iff spaced ahead).mp onward

end QuietHours

def PolicyRule.silencedBy (ctx : PolicyContext) : PolicyRule → Option (QuietHours × Zone)
  | .projectQuietHours => ctx.deliveryConstraint.bind fun constraint =>
      (constraint.quietHours.find? (·.silences ctx.notification.channel constraint.timezone ctx.judged)).map
        (·, constraint.timezone)
  | .recipientPreference =>
      (ctx.recipient.preferences.quietHours.filter
        (·.silences ctx.notification.channel ctx.recipient.zone ctx.judged)).map (·, ctx.recipient.zone)
  | _ => none

theorem PolicyRule.postpones {rule : PolicyRule} {ctx : PolicyContext} {resume : Instant}
    (postponed : (rule.evaluate ctx).resumeAt = some resume) :
    ∃ window zone, rule.silencedBy ctx = some (window, zone) ∧ resume = window.resumeAt zone ctx.judged := by
  cases rule with
  | recipientAddress =>
      unfold evaluate evaluateAddress at postponed
      dsimp only at postponed
      split at postponed <;> cases postponed
  | projectBlackoutPeriod =>
      unfold evaluate evaluateBlackout at postponed
      dsimp only at postponed
      split at postponed
      · cases postponed
      · split at postponed <;> cases postponed
  | projectQuietHours =>
      unfold evaluate evaluateQuietHours at postponed
      dsimp only at postponed
      split at postponed
      · cases postponed
      · rename_i constraint given
        simp only [QuietHours.silences_eq] at postponed
        split at postponed
        · rename_i window found
          refine ⟨window, constraint.timezone, ?_, (Option.some.inj postponed).symm⟩
          simp [silencedBy, given, found]
        · cases postponed
  | recipientPreference =>
      unfold evaluate evaluatePreference evaluateRecipientTimes at postponed
      dsimp only at postponed
      split at postponed
      · cases postponed
      split at postponed
      · cases postponed
      split at postponed
      · cases postponed
      split at postponed
      · cases postponed
      simp only [show recipientZone ctx = ctx.recipient.zone from rfl, QuietHours.silences_eq] at postponed
      split at postponed
      · rename_i window found
        refine ⟨window, ctx.recipient.zone, ?_, (Option.some.inj postponed).symm⟩
        simp [silencedBy, found]
      · cases postponed

/-- A postponement leads forward when the clock of the rule's zone was never ahead of its reading at the
judged instant by the delay that the window asks for; with spaced transitions only then. -/
theorem postponement_moves_forward {rule : PolicyRule} {ctx : PolicyContext} {resume : Instant}
    (postponed : (rule.evaluate ctx).resumeAt = some resume)
    (ofDay : ∀ window zone, rule.silencedBy ctx = some (window, zone) → window.OfDay) :
    ∃ window zone, rule.silencedBy ctx = some (window, zone) ∧
      (NeverAhead zone ctx.judged (window.delay zone ctx.judged) → ctx.judged < resume) ∧
      (zone.Spaced → ctx.judged < resume → NeverAhead zone ctx.judged (window.delay zone ctx.judged)) := by
  obtain ⟨window, zone, found, rfl⟩ := PolicyRule.postpones postponed
  have ofDay := ofDay window zone found
  exact ⟨window, zone, found, QuietHours.lt_resumeAt ofDay, QuietHours.neverAhead_of_lt ofDay⟩

/-! A window at midday, in the zone whose clock goes back from two to one. -/

def midday : QuietHours := ⟨"midday", 12 * Clock.hour, 13 * Clock.hour + 20 * Clock.minute, .sms, by decide⟩

def napping : Recipient where
  id := 7
  projectId := 1
  addresses channel := if channel = .sms then some "+15550100".toList else none
  preferences := { quietHours := some midday }
  timezone := some fallingBack
  createdAt := 0
  updatedAt := 0
  reachable := sms_reachable
  opted_out_known := sms_known

def atMidday (notification : Notification) (now : Instant) : PolicyContext where
  notification
  recipient := napping
  deliveryConstraint := some { projectId := 1, quietHours := [midday], timezone := fallingBack }
  now

/-- Ten past one for the second time: both rules resume at five and twenty past one for the first time,
three quarters of an hour before the send they judge. -/
theorem postponed_into_the_past :
    ∃ notification, Notification.build news = .ok notification ∧
      (atMidday notification (12 * Clock.hour + 10 * Clock.minute)).judged = 12 * Clock.hour + 10 * Clock.minute ∧
      ∀ rule ∈ [PolicyRule.projectQuietHours, .recipientPreference], ∃ resume,
        (rule.evaluate (atMidday notification (12 * Clock.hour + 10 * Clock.minute))).resumeAt = some resume ∧
          resume < (atMidday notification (12 * Clock.hour + 10 * Clock.minute)).judged := by
  refine ⟨_, rfl, rfl, ?_⟩
  intro rule listed
  refine ⟨11 * Clock.hour + 25 * Clock.minute, ?_, by decide⟩
  simp only [List.mem_cons, List.not_mem_nil, or_false] at listed
  rcases listed with rfl | rfl <;> decide

theorem midday_moves_forward :
    ∃ notification, Notification.build news = .ok notification ∧
      ∀ rule ∈ [PolicyRule.projectQuietHours, .recipientPreference], ∃ resume,
        (rule.evaluate (atMidday notification (10 * Clock.hour + 30 * Clock.minute))).resumeAt = some resume ∧
          10 * Clock.hour + 30 * Clock.minute < resume := by
  have ofDay : midday.OfDay := ⟨by decide, by decide, by decide, by decide⟩
  have never : NeverAhead fallingBack (10 * Clock.hour + 30 * Clock.minute)
      (midday.delay fallingBack (10 * Clock.hour + 30 * Clock.minute)) := by
    intro s early
    have before : ¬ 12 * Clock.hour ≤ s := by
      simp only [Clock.hour, Clock.minute, Clock.second, Instant] at *
      omega
    have reads : fallingBack.wall s = s + 2 * Clock.hour := by
      simp [Zone.wall, Zone.offsetAt, Zone.valueAt, fallingBack, before]
    rw [reads]
    exact Int.lt_of_le_of_lt (Int.add_le_add_right early _) (by decide)
  refine ⟨_, rfl, ?_⟩
  intro rule listed
  have window : rule.silencedBy (atMidday ⟨news, by decide⟩ (10 * Clock.hour + 30 * Clock.minute)) =
      some (midday, fallingBack) := by
    simp only [List.mem_cons, List.not_mem_nil, or_false] at listed
    rcases listed with rfl | rfl <;> rfl
  have postponed : (rule.evaluate (atMidday ⟨news, by decide⟩ (10 * Clock.hour + 30 * Clock.minute))).resumeAt =
      some (11 * Clock.hour + 25 * Clock.minute) := by
    simp only [List.mem_cons, List.not_mem_nil, or_false] at listed
    rcases listed with rfl | rfl <;> decide
  refine ⟨_, postponed, ?_⟩
  obtain ⟨_, _, found, forward, -⟩ := @postponement_moves_forward rule
    (atMidday ⟨news, by decide⟩ (10 * Clock.hour + 30 * Clock.minute)) _ postponed (by
      intro other zone found
      cases window.symm.trans found
      exact ofDay)
  cases window.symm.trans found
  exact forward never

end Tiber
