import Tiber.Domain.Verdicts
import Tiber.Library.Orbit
import Mathlib.Data.Set.Finite.Basic
import Mathlib.Tactic.Ring

/-! Postponement by the project's quiet hours, evaluated again and again.

Every postponement ends at the first covering window's end and the grace margin. In a zone
without transitions the time of day of that instant depends on the window alone, so the
evaluations pass from window to window.
-/

set_option autoImplicit false

namespace Tiber

open Library

/-- The time of day at which a window lets go: its end in whole seconds, and the grace margin. -/
def QuietHours.landing (window : QuietHours) : Int :=
  Zone.timeOfDay (window.windowEnd - window.windowEnd % Clock.second + graceMinutes * Clock.minute)

namespace DeliveryConstraint

variable (constraint : DeliveryConstraint) (channel : DeliveryChannel)

def firstWindow (time : Int) : Option QuietHours :=
  constraint.quietHours.find? fun window => window.channel == channel && window.covers time

def nextWindow (window : QuietHours) : Option QuietHours := constraint.firstWindow channel window.landing

/-- No window leads, five minutes after its end, round to itself. -/
def NoRound : Prop := Orbit.Acyclic (constraint.nextWindow channel)

def LeavesGap : Prop :=
  ∃ after upTo, 0 ≤ after ∧ after + 1 < upTo ∧ upTo ≤ Clock.day ∧
    ∀ time, after < time → time < upTo → constraint.firstWindow channel time = none

end DeliveryConstraint

/-! ## One evaluation -/

def Notification.scheduledAt (notification : Notification) (t : Instant) : Notification where
  toNotificationFields := { notification.toNotificationFields with sendAt := some t }
  consistent := by
    obtain ⟨suppressed, cancelled, failed, delivered, -⟩ := notification.consistent
    exact ⟨suppressed, cancelled, failed, delivered, fun _ => rfl⟩

def PolicyContext.decisionAt (ctx : PolicyContext) (t : Instant) : PolicyDecision :=
  PolicyRule.projectQuietHours.evaluate { ctx with notification := ctx.notification.scheduledAt t }

def PolicyContext.resumption (ctx : PolicyContext) (t : Instant) : Instant := ((ctx.decisionAt t).resumeAt).getD t

namespace PolicyContext

def windowAt (ctx : PolicyContext) (constraint : DeliveryConstraint) (t : Instant) : Option QuietHours :=
  constraint.firstWindow ctx.notification.channel (Zone.timeOfDay (constraint.timezone.wall t))

variable {ctx : PolicyContext} {constraint : DeliveryConstraint} {t : Instant}

theorem decisionAt_clear (given : ctx.deliveryConstraint = some constraint)
    (clear : ctx.windowAt constraint t = none) : ctx.decisionAt t = .allow := by
  unfold decisionAt PolicyRule.evaluate PolicyRule.evaluateQuietHours
  simp only [given]
  split
  · rename_i window found
    cases clear.symm.trans found
  · rfl

/-- A postponement names the end of the window it is due to. -/
theorem decisionAt_covered (given : ctx.deliveryConstraint = some constraint) {window : QuietHours}
    (covered : ctx.windowAt constraint t = some window) :
    (ctx.decisionAt t).allowed = false ∧
      (ctx.decisionAt t).resumeAt = some (window.resumeAt constraint.timezone t) := by
  unfold decisionAt PolicyRule.evaluate PolicyRule.evaluateQuietHours
  simp only [given]
  split
  · rename_i other found
    obtain rfl : window = other := Option.some.inj (covered.symm.trans found)
    exact ⟨rfl, rfl⟩
  · rename_i clear
    cases covered.symm.trans clear

theorem decisionAt_allowed (given : ctx.deliveryConstraint = some constraint) :
    (ctx.decisionAt t).allowed = true ↔ ctx.windowAt constraint t = none := by
  cases covered : ctx.windowAt constraint t with
  | none => simp [decisionAt_clear given covered, PolicyDecision.allow]
  | some window => simp [(decisionAt_covered given covered).1]

end PolicyContext

/-! ## From evaluation to evaluation -/

theorem QuietHours.resumeAt_timeOfDay (window : QuietHours) (offset : Int) (t : Instant) :
    Zone.timeOfDay ((Zone.fixed offset).wall (window.resumeAt (.fixed offset) t)) = window.landing := by
  have midnight : ∃ days, (Zone.fixed offset).wall t - Zone.timeOfDay ((Zone.fixed offset).wall t) =
      Clock.day * days := by
    refine ⟨(Zone.fixed offset).wall t / Clock.day, ?_⟩
    rw [Zone.timeOfDay, Int.emod_def]
    exact Int.sub_sub_self _ _
  obtain ⟨days, midnight⟩ := midnight
  have ends : ∃ days, window.nextEnd (.fixed offset) t =
      window.windowEnd - window.windowEnd % Clock.second + Clock.day * days := by
    unfold nextEnd
    simp only [midnight]
    split
    · exact ⟨days + 1, by ring⟩
    · exact ⟨days, by ring⟩
  obtain ⟨days, ends⟩ := ends
  have read (wall : Wall) : (Zone.fixed offset).wall ((Zone.fixed offset).instantOf wall false) = wall :=
    Int.sub_add_cancel wall offset
  unfold resumeAt landing Zone.timeOfDay
  rw [read, ends, show window.windowEnd - window.windowEnd % Clock.second + Clock.day * days +
      graceMinutes * Clock.minute =
      window.windowEnd - window.windowEnd % Clock.second + graceMinutes * Clock.minute + Clock.day * days by ring,
    Int.add_mul_emod_self_left]

namespace PolicyContext

variable {ctx : PolicyContext} {constraint : DeliveryConstraint} {offset : Int}

theorem tracks (given : ctx.deliveryConstraint = some constraint) (zone : constraint.timezone = .fixed offset) :
    Orbit.Tracks ctx.resumption (ctx.windowAt constraint) (constraint.nextWindow ctx.notification.channel) := by
  intro t window covered
  have resumed : ctx.resumption t = window.resumeAt (.fixed offset) t := by
    rw [resumption, (decisionAt_covered given covered).2, zone]
    rfl
  rw [resumed, windowAt, zone, window.resumeAt_timeOfDay, DeliveryConstraint.nextWindow]

theorem nextWindow_finite (constraint : DeliveryConstraint) (channel : DeliveryChannel) :
    {there | ∃ here, constraint.nextWindow channel here = some there}.Finite := by
  apply (List.finite_toSet constraint.quietHours).subset
  rintro window ⟨here, found⟩
  exact List.mem_of_find?_eq_some found

theorem windowAt_landing (zone : constraint.timezone = .fixed offset) (window : QuietHours) :
    ctx.windowAt constraint (window.landing - offset) = constraint.nextWindow ctx.notification.channel window := by
  have same : Zone.timeOfDay ((Zone.fixed offset).wall (window.landing - offset)) = window.landing := by
    rw [Zone.wall_fixed, Int.sub_add_cancel]
    exact Int.emod_emod_of_dvd _ (Int.dvd_refl _)
  rw [windowAt, zone, same, DeliveryConstraint.nextWindow]

theorem progress_iff (given : ctx.deliveryConstraint = some constraint) (zone : constraint.timezone = .fixed offset) :
    (∀ t, ∃ n, (ctx.decisionAt (ctx.resumption^[n] t)).allowed = true) ↔
      constraint.NoRound ctx.notification.channel := by
  simp only [decisionAt_allowed given]
  apply Orbit.leaves_iff (tracks given zone) (nextWindow_finite constraint _)
  intro here there leads
  exact ⟨here.landing - offset, (windowAt_landing zone here).trans leads⟩

end PolicyContext

/-! ## A gap longer than the grace margin -/

def QuietHours.OfDay (window : QuietHours) : Prop :=
  0 ≤ window.windowStart ∧ window.windowStart < Clock.day ∧ 0 ≤ window.windowEnd ∧ window.windowEnd < Clock.day

theorem QuietHours.covers_iff (window : QuietHours) (time : Int) :
    window.covers time = true ↔
      if window.windowStart ≤ window.windowEnd then window.windowStart ≤ time ∧ time ≤ window.windowEnd
      else window.windowStart ≤ time ∨ time ≤ window.windowEnd := by
  unfold covers
  split <;> simp

/-- From inside a window to its landing the time left until the far end of a free gap shrinks: the window
ends before the gap, and the margin does not reach across it. -/
theorem QuietHours.landing_advances (window : QuietHours) (ofDay : window.OfDay) {after upTo time : Int}
    (early : 0 ≤ after) (late : upTo ≤ Clock.day) (wide : after + graceMinutes * Clock.minute < upTo)
    (today : 0 ≤ time ∧ time < Clock.day) (covered : window.covers time = true)
    (free : window.covers (after + 1) = false) (outside : ¬ (after < time ∧ time < upTo)) :
    (upTo - 1 - window.landing) % Clock.day < (upTo - 1 - time) % Clock.day := by
  obtain ⟨startsDay, startsIn, endsDay, endsIn⟩ := ofDay
  rw [covers_iff] at covered
  rw [← Bool.not_eq_true, covers_iff] at free
  simp only [landing, Zone.timeOfDay, graceMinutes, Clock.day, Clock.hour, Clock.minute, Clock.second] at *
  split at covered <;> split at free <;> omega

theorem DeliveryConstraint.noRound_of_gap {constraint : DeliveryConstraint} {channel : DeliveryChannel}
    (ofDay : ∀ window ∈ constraint.quietHours, window.OfDay) {after upTo : Int} (early : 0 ≤ after)
    (late : upTo ≤ Clock.day) (wide : after + graceMinutes * Clock.minute < upTo)
    (free : ∀ time, after < time → time < upTo → constraint.firstWindow channel time = none) :
    constraint.NoRound channel := by
  refine Orbit.Acyclic.of_measure (fun window => (upTo - 1 - window.landing) % Clock.day) ?_
  intro here there leads
  have listed := List.mem_of_find?_eq_some leads
  have covering := List.find?_some leads
  simp only [Bool.and_eq_true, beq_iff_eq] at covering
  have today : 0 ≤ here.landing ∧ here.landing < Clock.day :=
    ⟨Int.emod_nonneg _ (by decide), Int.emod_lt_of_pos _ (by decide)⟩
  refine there.landing_advances (ofDay there listed) early late wide today covering.2 ?_ ?_
  · -- the window is no part of the gap
    have some_room : after + 1 < upTo := by
      simp only [graceMinutes, Clock.minute, Clock.second] at wide
      omega
    have clear := List.find?_eq_none.mp (free (after + 1) (by omega) some_room) there listed
    simpa [covering.1] using clear
  · rintro ⟨inside, before⟩
    cases (free _ inside before).symm.trans leads

/-! ## Progress -/

/-- With a gap in the day, every chain of postponements ends exactly when no window leads round to itself. -/
theorem postponement_progresses {ctx : PolicyContext} {constraint : DeliveryConstraint} {offset : Int}
    (given : ctx.deliveryConstraint = some constraint) (zone : constraint.timezone = .fixed offset) :
    (constraint.LeavesGap ctx.notification.channel →
      ∀ t, ∃ n, (ctx.decisionAt (ctx.resumption^[n] t)).allowed = true) ↔
    (constraint.LeavesGap ctx.notification.channel → constraint.NoRound ctx.notification.channel) :=
  imp_congr_right fun _ => PolicyContext.progress_iff given zone

/-! Text messages, which the project sends for three minutes in the morning, or by day. -/

def sendingOutside (window : QuietHours) : DeliveryConstraint where
  projectId := 1
  quietHours := [window]
  timezone := .fixed 0

def mostly : QuietHours :=
  ⟨"all but three minutes", 10 * Clock.hour + 3 * Clock.minute, 10 * Clock.hour, .sms, by decide⟩

def judging (constraint : DeliveryConstraint) : PolicyContext where
  notification := ⟨news, by decide⟩
  recipient := resting none
  deliveryConstraint := some constraint
  now := 0

theorem firstWindow_single {window : QuietHours} {channel : DeliveryChannel} {time : Int}
    (clear : window.covers time = false) : (sendingOutside window).firstWindow channel time = none := by
  simp [DeliveryConstraint.firstWindow, sendingOutside, clear]

/-- The end of the window and five minutes are inside it again: no chain that begins at nine ends. -/
theorem postponed_forever :
    (sendingOutside mostly).LeavesGap .sms ∧
      ∀ n, ((judging (sendingOutside mostly)).decisionAt
        ((judging (sendingOutside mostly)).resumption^[n] (9 * Clock.hour))).allowed = false := by
  constructor
  · refine ⟨10 * Clock.hour, 10 * Clock.hour + 3 * Clock.minute, by decide, by decide, by decide, ?_⟩
    intro time after before
    apply firstWindow_single
    rw [← Bool.not_eq_true, QuietHours.covers_iff, if_neg (by decide)]
    simp only [mostly, Clock.hour, Clock.minute, Clock.second] at *
    omega
  · intro n
    have round : Relation.TransGen (Orbit.Leads ((sendingOutside mostly).nextWindow .sms)) mostly mostly := .single rfl
    have stands : (judging (sendingOutside mostly)).windowAt (sendingOutside mostly) (9 * Clock.hour) = some mostly := rfl
    rw [← Bool.not_eq_true, PolicyContext.decisionAt_allowed rfl]
    exact Orbit.never_leaves (PolicyContext.tracks rfl rfl) stands round n

theorem nightly_progresses :
    (sendingOutside nightly).LeavesGap .sms ∧
      ∀ t, ∃ n, ((judging (sendingOutside nightly)).decisionAt
        ((judging (sendingOutside nightly)).resumption^[n] t)).allowed = true := by
  have free (time : Int) (after : 8 * Clock.hour < time) (before : time < 22 * Clock.hour) :
      (sendingOutside nightly).firstWindow .sms time = none := by
    apply firstWindow_single
    rw [← Bool.not_eq_true, QuietHours.covers_iff, if_neg (by decide)]
    simp only [nightly, Clock.hour, Clock.minute, Clock.second] at *
    omega
  have ofDay : ∀ window ∈ (sendingOutside nightly).quietHours, window.OfDay := by
    intro window listed
    rw [List.mem_singleton.mp listed]
    exact ⟨by decide, by decide, by decide, by decide⟩
  have gap : (sendingOutside nightly).LeavesGap .sms :=
    ⟨8 * Clock.hour, 22 * Clock.hour, by decide, by decide, by decide, free⟩
  exact ⟨gap, (postponement_progresses rfl rfl).mpr
    (fun _ => DeliveryConstraint.noRound_of_gap ofDay (by decide) (by decide) (by decide) free) gap⟩

end Tiber
