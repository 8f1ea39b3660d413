import Tiber.Domain.Policy

/-! Restrictions on the moment of sending, and what the intake chain makes of them.

A blackout is stated on instants, a quiet-hours window on the wall clock of its
zone. The rules compare wall clocks for both, at the instant they judge.
-/

set_option autoImplicit false

namespace Tiber

open Library

/-! ## What a recipient and a project forbid -/

/-- A blackout is an absolute range: an instant is inside it in every zone or in none. -/
def BlackoutPeriod.covers (period : BlackoutPeriod) (t : Instant) : Bool :=
  period.start ≤ t && t ≤ period.finish

def QuietHours.silences (window : QuietHours) (channel : DeliveryChannel) (zone : Zone) (t : Instant) : Bool :=
  window.channel == channel && window.covers (Zone.timeOfDay (zone.wall t))

def Recipient.zone (recipient : Recipient) : Zone := recipient.timezone.getD (.fixed 0)

def restrictedBy (covers : BlackoutPeriod → Zone → Instant → Bool) (recipient : Recipient)
    (constraint : Option DeliveryConstraint) (channel : DeliveryChannel) (t : Instant) : Bool :=
  recipient.preferences.blackoutPeriod.any (covers · recipient.zone t) ||
  recipient.preferences.quietHours.any (·.silences channel recipient.zone t) ||
  constraint.any fun constraint =>
    constraint.blackoutPeriods.any (covers · constraint.timezone t) ||
    constraint.quietHours.any (·.silences channel constraint.timezone t)

def restricted : Recipient → Option DeliveryConstraint → DeliveryChannel → Instant → Bool :=
  restrictedBy fun period _ t => period.covers t

/-- The rules' own tests find a window that covers `t`. -/
def refused : Recipient → Option DeliveryConstraint → DeliveryChannel → Instant → Bool :=
  restrictedBy BlackoutPeriod.coversWall

def Recipient.Consents (recipient : Recipient) (notification : Notification) : Prop :=
  notification.category ∉ recipient.preferences.unsubscribedCategories ∧
  notification.channel ∉ recipient.preferences.optedOutChannels ∧
  ∀ topic ∈ notification.topicId, topic ∉ recipient.preferences.unsubscribedTopics

/-! ## When the chain of rules lets a notification pass -/

theorem QuietHours.silences_eq (window : QuietHours) (channel : DeliveryChannel) (zone : Zone) (t : Instant) :
    (window.channel == channel && window.covers (Zone.timeOfDay (zone.wall t))) =
      window.silences channel zone t := rfl

namespace PolicyRule

variable (ctx : PolicyContext)

@[simp] theorem reject_allowed (reason rule : String) (consequence : PolicyConsequence)
    (resumeAt : Option Instant) : (PolicyDecision.reject reason rule consequence resumeAt).allowed = false := rfl

@[simp] theorem allow_allowed : PolicyDecision.allow.allowed = true := rfl

theorem evaluateAddress_allowed :
    (evaluateAddress ctx).allowed = true ↔
      (ctx.recipient.addresses.usable ctx.notification.channel).isSome = true := by
  unfold evaluateAddress
  split <;> simp_all

theorem filter_eq_none {α : Type} {test : α → Bool} {value : Option α} :
    value.filter test = none ↔ value.any test = false := by
  cases value <;> simp

theorem evaluateRecipientTimes_allowed :
    (evaluateRecipientTimes ctx).allowed = true ↔
      ctx.recipient.preferences.blackoutPeriod.any (·.coversWall ctx.recipient.zone ctx.judged) = false ∧
      ctx.recipient.preferences.quietHours.any
        (·.silences ctx.notification.channel ctx.recipient.zone ctx.judged) = false := by
  rw [← filter_eq_none, ← filter_eq_none]
  unfold evaluateRecipientTimes
  dsimp only
  split
  · rename_i blackout found
    rw [show recipientZone ctx = ctx.recipient.zone from rfl] at found
    simp [found]
  · rename_i clear
    rw [show recipientZone ctx = ctx.recipient.zone from rfl] at clear
    split
    · rename_i window found
      simp only [show recipientZone ctx = ctx.recipient.zone from rfl, QuietHours.silences_eq] at found
      simp [found]
    · rename_i quiet
      simp only [show recipientZone ctx = ctx.recipient.zone from rfl, QuietHours.silences_eq] at quiet
      simp [clear, quiet]

theorem evaluatePreference_allowed :
    (evaluatePreference ctx).allowed = true ↔
      ctx.recipient.Consents ctx.notification ∧ (evaluateRecipientTimes ctx).allowed = true := by
  unfold evaluatePreference Recipient.Consents
  dsimp only
  split_ifs with unsubscribed out
  · simp [unsubscribed]
  · simp [out]
  · split
    · rename_i topic found
      rw [Option.filter_eq_some_iff] at found
      simp_all
    · rename_i clear
      rw [filter_eq_none] at clear
      cases topicId : ctx.notification.topicId <;> simp_all

theorem evaluateBlackout_allowed :
    (evaluateBlackout ctx).allowed = true ↔
      ∀ constraint ∈ ctx.deliveryConstraint,
        constraint.blackoutPeriods.any (·.coversWall constraint.timezone ctx.judged) = false := by
  unfold evaluateBlackout
  cases ctx.deliveryConstraint with
  | none => simp
  | some constraint =>
      dsimp only
      split
      · rename_i period found
        have covers := List.find?_some found
        have listed := List.mem_of_find?_eq_some found
        simp only [reject_allowed, Option.mem_def, Option.some.injEq, forall_eq', List.any_eq_false]
        refine ⟨nofun, fun clear => absurd covers (clear period listed)⟩
      · rename_i clear
        simp_all

theorem evaluateQuietHours_allowed :
    (evaluateQuietHours ctx).allowed = true ↔
      ∀ constraint ∈ ctx.deliveryConstraint,
        constraint.quietHours.any (·.silences ctx.notification.channel constraint.timezone ctx.judged) = false := by
  unfold evaluateQuietHours
  simp only [QuietHours.silences_eq]
  cases ctx.deliveryConstraint with
  | none => simp
  | some constraint =>
      dsimp only
      split
      · rename_i window found
        have covers := List.find?_some found
        have listed := List.mem_of_find?_eq_some found
        simp only [reject_allowed, Option.mem_def, Option.some.injEq, forall_eq', List.any_eq_false]
        refine ⟨nofun, fun clear => absurd covers (clear window listed)⟩
      · rename_i clear
        simp_all

end PolicyRule

/-- The whole intake chain, for a notification that does not bypass it. -/
theorem intake_chain_allows {notification : Notification} {recipient : Recipient}
    {constraint : Option DeliveryConstraint} {now : Instant} (ordinary : notification.category ≠ .critical) :
    (PolicyResolver.evaluate intakeRules notification recipient constraint now).allowed = true ↔
      (recipient.addresses.usable notification.channel).isSome = true ∧ recipient.Consents notification ∧
      refused recipient constraint notification.channel (notification.sendAt.getD now) = false := by
  rw [PolicyResolver.evaluate, if_neg ordinary, PolicyResolver.firstRejection_allowed]
  simp only [intakeRules, List.forall_mem_cons, PolicyRule.evaluate, PolicyRule.evaluateAddress_allowed,
    PolicyRule.evaluatePreference_allowed, PolicyRule.evaluateRecipientTimes_allowed,
    PolicyRule.evaluateBlackout_allowed, PolicyRule.evaluateQuietHours_allowed, PolicyContext.judged]
  cases constraint <;> simp [refused, restrictedBy, and_assoc]

end Tiber
