import Tiber.Application.IntakeProcessor
import Tiber.Domain.Blackouts
import Tiber.Domain.DateRange

/-! The verdict of the intake chain as a matter of facts.

The rules stop at the first objection they find, and so do the loops inside them. Whether
there is an objection depends neither on the order of the rules nor on that of the windows,
as long as every local time the rules may come across is a date.
-/

set_option autoImplicit false

namespace Tiber

open Library

def FixedOffset (zone : Zone) : Prop := ∃ offset, zone = .fixed offset

/-- A window is a closed range of times of day, or the rest of the day when it spans midnight. -/
def QuietHours.Contains (window : QuietHours) (time : Int) : Prop :=
  window.windowStart ≤ time ∧ time ≤ window.windowEnd ∨
    window.windowEnd < window.windowStart ∧ (window.windowStart ≤ time ∨ time ≤ window.windowEnd)

/-- The facts that stand against sending a notification at `t`. -/
inductive Objection (notification : Notification) (recipient : Recipient)
    (constraint : Option DeliveryConstraint) (t : Instant) : Prop where
  | unreachable (absent : recipient.addresses.usable notification.channel = none)
  | category (withdrawn : notification.category ∈ recipient.preferences.unsubscribedCategories)
  | channel (withdrawn : notification.channel ∈ recipient.preferences.optedOutChannels)
  | topic (topic : Uuid) (about : notification.topicId = some topic)
      (withdrawn : topic ∈ recipient.preferences.unsubscribedTopics)
  | ownBlackout (period : BlackoutPeriod) (kept : recipient.preferences.blackoutPeriod = some period)
      (inside : period.start ≤ t ∧ t ≤ period.finish)
  | ownQuietHours (window : QuietHours) (kept : recipient.preferences.quietHours = some window)
      (same : window.channel = notification.channel)
      (inside : window.Contains (Zone.timeOfDay (recipient.zone.wall t)))
  | projectBlackout (project : DeliveryConstraint) (given : constraint = some project)
      (period : BlackoutPeriod) (listed : period ∈ project.blackoutPeriods)
      (inside : period.start ≤ t ∧ t ≤ period.finish)
  | projectQuietHours (project : DeliveryConstraint) (given : constraint = some project)
      (window : QuietHours) (listed : window ∈ project.quietHours) (same : window.channel = notification.channel)
      (inside : window.Contains (Zone.timeOfDay (project.timezone.wall t)))

structure DeliveryConstraint.Reordered (first second : DeliveryConstraint) : Prop where
  project : second.projectId = first.projectId
  timezone : second.timezone = first.timezone
  blackoutPeriods : second.blackoutPeriods.Perm first.blackoutPeriods
  quietHours : second.quietHours.Perm first.quietHours

/-! ## The rules' own tests -/

theorem QuietHours.silences_iff (window : QuietHours) (channel : DeliveryChannel) (zone : Zone) (t : Instant) :
    window.silences channel zone t = true ↔
      window.channel = channel ∧ window.Contains (Zone.timeOfDay (zone.wall t)) := by
  unfold silences covers Contains
  rw [Bool.and_eq_true, beq_iff_eq]
  split <;> simp <;> omega

/-- One offset is added to both sides of each comparison. -/
theorem BlackoutPeriod.coversWall_fixed (period : BlackoutPeriod) {zone : Zone} (fixed : FixedOffset zone)
    (t : Instant) : period.coversWall zone t = period.covers t := by
  obtain ⟨offset, rfl⟩ := fixed
  simp [coversWall, covers]

theorem Recipient.zone_fixed {recipient : Recipient} (fixed : ∀ zone ∈ recipient.timezone, FixedOffset zone) :
    FixedOffset recipient.zone := by
  unfold zone
  cases own : recipient.timezone with
  | none => exact ⟨0, rfl⟩
  | some zone => exact fixed zone own

/-- What the rules compare on walls they might as well compare on instants. -/
theorem refused_fixed {recipient : Recipient} {constraint : Option DeliveryConstraint}
    (own : ∀ zone ∈ recipient.timezone, FixedOffset zone)
    (project : ∀ project ∈ constraint, FixedOffset project.timezone) (channel : DeliveryChannel) (t : Instant) :
    refused recipient constraint channel t = restricted recipient constraint channel t := by
  have same (zone : Zone) (fixed : FixedOffset zone) :
      (fun period : BlackoutPeriod => period.coversWall zone t) = fun period => period.covers t := by
    funext period
    exact period.coversWall_fixed fixed t
  unfold refused restricted restrictedBy
  rw [same recipient.zone (Recipient.zone_fixed own)]
  cases constraint with
  | none => rfl
  | some project' => rw [Option.any_some, Option.any_some, same project'.timezone (project project' rfl)]

/-! ## The chain and the facts -/

theorem no_objection_iff {notification : Notification} {recipient : Recipient}
    {constraint : Option DeliveryConstraint} {t : Instant} :
    ¬ Objection notification recipient constraint t ↔
      (recipient.addresses.usable notification.channel).isSome = true ∧ recipient.Consents notification ∧
        restricted recipient constraint notification.channel t = false := by
  constructor
  · intro silent
    refine ⟨?_, ⟨?_, ?_, ?_⟩, ?_⟩
    · rw [Option.isSome_iff_ne_none]
      exact fun absent => silent (.unreachable absent)
    · exact fun withdrawn => silent (.category withdrawn)
    · exact fun withdrawn => silent (.channel withdrawn)
    · exact fun topic about withdrawn => silent (.topic topic about withdrawn)
    · rw [← Bool.not_eq_true, restricted, restrictedBy]
      simp only [Bool.or_eq_true, Option.any_eq_true, List.any_eq_true]
      rintro ((⟨period, kept, inside⟩ | ⟨window, kept, inside⟩) | ⟨project, given, inside⟩)
      · exact silent (.ownBlackout period kept ((period.covers_iff t).mp inside))
      · obtain ⟨same, inside⟩ := (window.silences_iff _ _ t).mp inside
        exact silent (.ownQuietHours window kept same inside)
      · rcases inside with ⟨period, listed, inside⟩ | ⟨window, listed, inside⟩
        · exact silent (.projectBlackout project given period listed ((period.covers_iff t).mp inside))
        · obtain ⟨same, inside⟩ := (window.silences_iff _ _ t).mp inside
          exact silent (.projectQuietHours project given window listed same inside)
  · rintro ⟨reachable, ⟨categories, channels, topics⟩, free⟩ objection
    simp only [restricted, restrictedBy, Bool.or_eq_false_iff, Option.any_eq_false, List.any_eq_false] at free
    obtain ⟨⟨noBlackout, noWindow⟩, project⟩ := free
    cases objection with
    | unreachable absent => simp [absent] at reachable
    | category withdrawn => exact categories withdrawn
    | channel withdrawn => exact channels withdrawn
    | topic topic about withdrawn => exact topics topic about withdrawn
    | ownBlackout period kept inside =>
        rw [← period.covers_iff, noBlackout period kept] at inside
        cases inside
    | ownQuietHours window kept same inside =>
        have silenced := (window.silences_iff _ recipient.zone t).mpr ⟨same, inside⟩
        rw [noWindow window kept] at silenced
        cases silenced
    | projectBlackout constraint given period listed inside =>
        exact (project constraint given).1 period listed ((period.covers_iff t).mpr inside)
    | projectQuietHours constraint given window listed same inside =>
        exact (project constraint given).2 window listed ((window.silences_iff _ _ t).mpr ⟨same, inside⟩)

/-- A chain passes a notification when each of its rules does, in whatever order they stand. -/
theorem PolicyResolver.evaluate_perm {rules : List PolicyRule} (reordered : rules.Perm intakeRules)
    (notification : Notification) (recipient : Recipient) (constraint : Option DeliveryConstraint) (now : Instant) :
    (evaluate rules notification recipient constraint now).allowed =
      (evaluate intakeRules notification recipient constraint now).allowed := by
  unfold evaluate
  split
  · rfl
  · rw [Bool.eq_iff_iff, firstRejection_allowed, firstRejection_allowed]
    apply forall_congr'
    intro rule
    rw [reordered.mem_iff]

/-- Which window is found may depend on the order; whether one is found does not. -/
theorem refused_reordered {first second : Option DeliveryConstraint}
    (reordered : Option.Rel DeliveryConstraint.Reordered first second) (recipient : Recipient)
    (channel : DeliveryChannel) (t : Instant) :
    refused recipient second channel t = refused recipient first channel t := by
  cases reordered with
  | none => rfl
  | some same =>
      unfold refused restrictedBy
      simp only [Option.any_some]
      rw [same.timezone, same.blackoutPeriods.any_eq, same.quietHours.any_eq]

theorem applyPolicy_rejects {rules : List PolicyRule} {notification : Notification} {recipient : Recipient}
    {constraint : Option DeliveryConstraint} {readings : ChildReadings} (pending : notification.status = .pending)
    (rejected : (PolicyResolver.evaluate rules notification recipient constraint readings.policy).allowed = false) :
    ∃ judged, applyPolicy rules notification recipient constraint readings = .ok judged ∧
      (judged.status = .postponed ∨ judged.status = .suppressed) := by
  obtain ⟨judged, applied⟩ :=
    @applyPolicy_total rules notification recipient constraint readings pending
  refine ⟨judged, applied, ?_⟩
  simp only [applyPolicy, rejected, Bool.false_eq_true, if_false] at applied
  exact NotificationDeliveryProcessor.applyVerdict_status applied

/-- With fixed offsets the chain of the unbounded clock allows exactly what nothing stands against,
whatever the order of rules, blackout periods and windows. -/
theorem evaluate_of_facts {rules : List PolicyRule} {notification : Notification} {recipient : Recipient}
    {constraint reordered : Option DeliveryConstraint} {now : Instant}
    (own : ∀ zone ∈ recipient.timezone, FixedOffset zone)
    (project : ∀ project ∈ constraint, FixedOffset project.timezone) (order : rules.Perm intakeRules)
    (same : Option.Rel DeliveryConstraint.Reordered constraint reordered) :
    (PolicyResolver.evaluate rules notification recipient reordered now).allowed = true ↔
      notification.category = .critical ∨
        ¬ Objection notification recipient constraint (notification.sendAt.getD now) := by
  rw [PolicyResolver.evaluate_perm order]
  by_cases critical : notification.category = .critical
  · simp [PolicyResolver.evaluate_critical critical, critical]
  · rw [intake_chain_allows critical, refused_reordered same, refused_fixed own project, no_objection_iff]
    simp only [critical, false_or]

/-! ## On dates -/

/-- `_apply_policy`, with the range of a date. -/
def Dated.applyPolicy (rules : List PolicyRule) (notification : Notification) (recipient : Recipient)
    (constraint : Option DeliveryConstraint) (readings : ChildReadings) : Checked Notification := do
  let decision ← evaluate rules notification recipient constraint readings.policy
  if decision.allowed then return notification
  else NotificationDeliveryProcessor.applyVerdict notification decision readings.verdict

/-- In every order of rules, periods and windows there is a verdict, it is the one of the facts, and a
rejection of a fresh notification is recorded. -/
def DecidedByFacts (notification : Notification) (recipient : Recipient) (constraint : Option DeliveryConstraint)
    (now : Instant) : Prop :=
  ∀ rules reordered, rules.Perm intakeRules → Option.Rel DeliveryConstraint.Reordered constraint reordered →
    ∃ decision, Dated.evaluate rules notification recipient reordered now = .ok decision ∧
      (decision.allowed = true ↔ notification.category = .critical ∨
        ¬ Objection notification recipient constraint (notification.sendAt.getD now)) ∧
      (decision.allowed = false → notification.status = .pending → ∀ readings : ChildReadings, readings.policy = now →
        ∃ judged, Dated.applyPolicy rules notification recipient reordered readings = .ok judged ∧
          (judged.status = .postponed ∨ judged.status = .suppressed))

/-- Every local time the rules may look at is a date. -/
structure TimesInRange (notification : Notification) (recipient : Recipient) (constraint : Option DeliveryConstraint)
    (t : Instant) : Prop where
  own : recipient.Consents notification → recipient.TimesInRange notification.channel t
  project : ∀ project ∈ constraint, project.TimesInRange notification.channel t

theorem DeliveryConstraint.TimesInRange.reordered {first second : DeliveryConstraint}
    (same : first.Reordered second) {channel : DeliveryChannel} {t : Instant}
    (inRange : first.TimesInRange channel t) : second.TimesInRange channel t := by
  constructor
  · intro period listed
    rw [same.timezone]
    exact inRange.blackouts period (same.blackoutPeriods.mem_iff.mp listed)
  · rw [same.timezone]
    exact inRange.shown
  · intro window listed
    rw [same.timezone]
    exact inRange.quiet window (same.quietHours.mem_iff.mp listed)

theorem DeliveryConstraint.reordered_self (constraint : DeliveryConstraint) : constraint.Reordered constraint :=
  ⟨rfl, rfl, .refl _, .refl _⟩

theorem Dated.evaluateRule_inRange {ctx : PolicyContext}
    (own : ctx.recipient.Consents ctx.notification → ctx.recipient.TimesInRange ctx.notification.channel ctx.judged)
    (project : ∀ project ∈ ctx.deliveryConstraint, project.TimesInRange ctx.notification.channel ctx.judged)
    (rule : PolicyRule) : evaluateRule ctx rule = .ok (rule.evaluate ctx) := by
  cases rule with
  | recipientAddress => rfl
  | recipientPreference => exact evaluatePreference_eq_ok.mpr ⟨own, rfl⟩
  | projectBlackoutPeriod => exact evaluateBlackout_inRange project
  | projectQuietHours => exact evaluateQuietHours_inRange project

section Decided

variable {notification : Notification} {recipient : Recipient} {constraint : Option DeliveryConstraint}
  {now : Instant}

theorem Dated.evaluate_inRange (rules : List PolicyRule) {reordered : Option DeliveryConstraint}
    (inRange : notification.category = .critical ∨
      TimesInRange notification recipient constraint (notification.sendAt.getD now))
    (same : Option.Rel DeliveryConstraint.Reordered constraint reordered) :
    evaluate rules notification recipient reordered now =
      .ok (PolicyResolver.evaluate rules notification recipient reordered now) := by
  unfold evaluate PolicyResolver.evaluate
  split
  · rfl
  · rename_i ordinary
    obtain ⟨own, project⟩ := inRange.resolve_left ordinary
    refine firstRejection_inRange fun rule _ => evaluateRule_inRange own ?_ rule
    cases same with
    | none => exact project
    | some same =>
        rintro _ ⟨⟩
        exact (project _ rfl).reordered same

theorem DecidedByFacts.evaluates (decided : DecidedByFacts notification recipient constraint now)
    (ordinary : notification.category ≠ .critical) (rule : PolicyRule) (rest : List PolicyRule)
    (order : (rule :: rest).Perm intakeRules) {reordered : Option DeliveryConstraint}
    (same : Option.Rel DeliveryConstraint.Reordered constraint reordered) :
    ∃ own, Dated.evaluateRule ⟨notification, recipient, reordered, now⟩ rule = .ok own := by
  obtain ⟨decision, evaluated, -⟩ := decided _ _ order same
  rw [Dated.evaluate, if_neg ordinary] at evaluated
  exact Dated.firstRejection_head evaluated

/-- Whatever some order puts first has to be in range. -/
theorem DecidedByFacts.timesInRange (decided : DecidedByFacts notification recipient constraint now)
    (ordinary : notification.category ≠ .critical) :
    TimesInRange notification recipient constraint (notification.sendAt.getD now) := by
  have self : Option.Rel DeliveryConstraint.Reordered constraint constraint := by
    cases constraint with
    | none => exact .none
    | some project => exact .some project.reordered_self
  constructor
  · obtain ⟨own, evaluated⟩ := decided.evaluates ordinary .recipientPreference
      [.recipientAddress, .projectBlackoutPeriod, .projectQuietHours] (by decide) self
    exact (Dated.evaluatePreference_eq_ok.mp evaluated).1
  · rintro project given
    obtain rfl : constraint = some project := given
    constructor
    · intro period listed
      obtain ⟨before, after, periods⟩ := List.append_of_mem listed
      have moved : project.Reordered { project with blackoutPeriods := period :: (before ++ after) } :=
        ⟨rfl, rfl, by rw [periods]; exact List.perm_middle.symm, .refl _⟩
      obtain ⟨own, evaluated⟩ := decided.evaluates ordinary .projectBlackoutPeriod
        [.recipientAddress, .recipientPreference, .projectQuietHours] (by decide) (.some moved)
      exact Dated.firstBlackout_head evaluated
    · obtain ⟨own, evaluated⟩ := decided.evaluates ordinary .projectQuietHours
        [.recipientAddress, .recipientPreference, .projectBlackoutPeriod] (by decide) self
      obtain ⟨here, shown, -⟩ := Checked.bind_eq_ok.mp evaluated
      exact (Dated.astimezone_eq_ok.mp shown).1
    · intro window listed silent
      obtain ⟨before, after, windows⟩ := List.append_of_mem listed
      have moved : project.Reordered { project with quietHours := window :: (before ++ after) } :=
        ⟨rfl, rfl, .refl _, by rw [windows]; exact List.perm_middle.symm⟩
      obtain ⟨own, evaluated⟩ := decided.evaluates ordinary .projectQuietHours
        [.recipientAddress, .recipientPreference, .projectBlackoutPeriod] (by decide) (.some moved)
      obtain ⟨here, shown, found⟩ := Checked.bind_eq_ok.mp evaluated
      obtain ⟨-, rfl⟩ := Dated.astimezone_eq_ok.mp shown
      exact Dated.firstWindow_head found silent

end Decided

/-- With fixed offsets the facts decide exactly when nothing that some order of rules and windows looks at
is out of the range of a date. -/
theorem decided_by_facts_iff {notification : Notification} {recipient : Recipient}
    {constraint : Option DeliveryConstraint} {now : Instant} (own : ∀ zone ∈ recipient.timezone, FixedOffset zone)
    (project : ∀ project ∈ constraint, FixedOffset project.timezone) :
    DecidedByFacts notification recipient constraint now ↔
      notification.category = .critical ∨
        TimesInRange notification recipient constraint (notification.sendAt.getD now) := by
  constructor
  · intro decided
    exact or_iff_not_imp_left.mpr decided.timesInRange
  · intro inRange rules reordered order same
    have evaluated := Dated.evaluate_inRange rules inRange same
    refine ⟨_, evaluated, evaluate_of_facts own project order same, ?_⟩
    rintro rejected pending readings rfl
    obtain ⟨judged, applied, status⟩ := applyPolicy_rejects pending rejected
    refine ⟨judged, ?_, status⟩
    rw [← applied]
    unfold Dated.applyPolicy applyPolicy
    rw [evaluated]
    rfl

/-! ## The last night of 9999 -/

theorem news_stored : ∃ notification, Notification.build news = .ok notification ∧
    notification.toNotificationFields = news := ⟨_, rfl, rfl⟩

theorem holidays_decided :
    ∃ notification, Notification.build news = .ok notification ∧
      DecidedByFacts notification (resting none) (some (shut (.fixed 0) 0 (9 * Clock.day) (by decide)))
        Clock.hour := by
  obtain ⟨notification, built, fields⟩ := news_stored
  have scheduled : notification.sendAt = none := by rw [fields]; rfl
  have fixed : ∀ project ∈ some (shut (.fixed 0) 0 (9 * Clock.day) (by decide)), FixedOffset project.timezone := by
    rintro project ⟨⟩
    exact ⟨0, rfl⟩
  have inRange : TimesInRange notification (resting none) (some (shut (.fixed 0) 0 (9 * Clock.day) (by decide)))
      (notification.sendAt.getD Clock.hour) := by
    rw [scheduled]
    refine ⟨fun _ => ⟨nofun, fun _ => nofun⟩, ?_⟩
    rintro project ⟨⟩
    refine ⟨?_, ⟨by decide, by decide⟩, nofun⟩
    intro period listed
    obtain rfl := List.mem_singleton.mp listed
    exact ⟨⟨by decide, by decide⟩, ⟨by decide, by decide⟩, fun _ => ⟨by decide, by decide⟩⟩
  exact ⟨notification, built, (@decided_by_facts_iff notification (resting none)
    (some (shut (.fixed 0) 0 (9 * Clock.day) (by decide))) Clock.hour nofun fixed).mpr (.inr inRange)⟩

/-- Half an hour before the last date ends in UTC. -/
def lastNight : NotificationFields :=
  { news with sendAt := some (Clock.lastWall + 1 - 30 * Clock.minute), sendTimeBasis := .explicit }

/-- Nine hours ahead of UTC the new year has begun, far from the window at noon. -/
def ahead : DeliveryConstraint where
  projectId := 1
  quietHours := [⟨"lunch", 12 * Clock.hour, 13 * Clock.hour, .sms, by decide⟩]
  timezone := .fixed (9 * Clock.hour)

/-- Nothing stands against the notification, and the rules raise. -/
theorem last_night_undecided :
    ∃ notification, Notification.build lastNight = .ok notification ∧
      ¬ Objection notification (resting none) (some ahead) (notification.sendAt.getD 0) ∧
      Dated.evaluate intakeRules notification (resting none) (some ahead) 0 = .error dateOutOfRange ∧
      ¬ DecidedByFacts notification (resting none) (some ahead) 0 := by
  refine ⟨_, rfl, ?_, rfl, ?_⟩
  · rw [no_objection_iff]
    exact ⟨by decide, ⟨by decide, by decide, nofun⟩, by decide⟩
  · intro decided
    obtain ⟨decision, evaluated, -⟩ := decided intakeRules _ (.refl _) (.some ahead.reordered_self)
    cases evaluated

end Tiber
