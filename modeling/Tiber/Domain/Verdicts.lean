import Tiber.Domain.Restrictions

/-! What the chains of rules decide on an ordinary notification.

A chain ends at its first rejection. The recipient's rule postpones as well as
suppresses, and it stands before the rule on the project's blackouts.
-/

set_option autoImplicit false

namespace Tiber

open Library

def PolicyDecision.Suppresses (decision : PolicyDecision) : Prop :=
  decision.allowed = false ∧ decision.consequence = some .suppress

instance (decision : PolicyDecision) : Decidable decision.Suppresses := inferInstanceAs (Decidable (_ ∧ _))

def Recipient.blackedOut (recipient : Recipient) (t : Instant) : Bool :=
  recipient.preferences.blackoutPeriod.any (·.coversWall recipient.zone t)

def Recipient.silenced (recipient : Recipient) (channel : DeliveryChannel) (t : Instant) : Bool :=
  recipient.preferences.quietHours.any (·.silences channel recipient.zone t)

def DeliveryConstraint.blackedOut (constraint : DeliveryConstraint) (t : Instant) : Bool :=
  constraint.blackoutPeriods.any (·.coversWall constraint.timezone t)

/-- Some blackout period, of the recipient or of the project, contains the instant. -/
def inBlackout (recipient : Recipient) (constraint : Option DeliveryConstraint) (t : Instant) : Bool :=
  recipient.preferences.blackoutPeriod.any (·.covers t) ||
    constraint.any fun constraint => constraint.blackoutPeriods.any (·.covers t)

/-! ## Rule by rule -/

namespace PolicyRule

@[simp] theorem reject_suppresses (reason rule : String) (resumeAt : Option Instant) :
    (PolicyDecision.reject reason rule .suppress resumeAt).Suppresses := ⟨rfl, rfl⟩

@[simp] theorem reject_postpones (reason rule : String) (resumeAt : Option Instant) :
    ¬ (PolicyDecision.reject reason rule .postpone resumeAt).Suppresses := by
  rintro ⟨-, consequence⟩
  cases consequence

@[simp] theorem allow_not_suppresses : ¬ PolicyDecision.allow.Suppresses := by
  rintro ⟨rejected, -⟩
  cases rejected

variable (ctx : PolicyContext)

theorem evaluateAddress_suppresses :
    (evaluateAddress ctx).Suppresses ↔ ctx.recipient.addresses.usable ctx.notification.channel = none := by
  unfold evaluateAddress
  split <;> simp_all

theorem evaluateRecipientTimes_suppresses :
    (evaluateRecipientTimes ctx).Suppresses ↔ ctx.recipient.blackedOut ctx.judged = true := by
  unfold evaluateRecipientTimes
  dsimp only
  split
  · rename_i blackout found
    -- the blackout is looked at before the quiet hours
    have covers : ctx.recipient.blackedOut ctx.judged = true := by
      rw [← Bool.not_eq_false, Recipient.blackedOut, ← filter_eq_none]
      exact fun clear => nomatch found.symm.trans clear
    simp [covers]
  · rename_i clear
    have clear : ctx.recipient.blackedOut ctx.judged = false := filter_eq_none.mp clear
    rw [clear]
    split <;> simp

theorem evaluatePreference_suppresses :
    (evaluatePreference ctx).Suppresses ↔
      ¬ ctx.recipient.Consents ctx.notification ∨ ctx.recipient.blackedOut ctx.judged = true := by
  rw [← evaluateRecipientTimes_suppresses]
  unfold evaluatePreference Recipient.Consents
  dsimp only
  split_ifs with unsubscribed out
  · simp [unsubscribed]
  · simp [out]
  · split
    · rename_i topic found
      rw [Option.filter_eq_some_iff] at found
      simp_all
    · rename_i clear
      rw [filter_eq_none] at clear
      cases topicId : ctx.notification.topicId <;> simp_all

theorem evaluateBlackout_suppresses :
    (evaluateBlackout ctx).Suppresses ↔
      ctx.deliveryConstraint.any (·.blackedOut ctx.judged) = true := by
  unfold evaluateBlackout
  cases ctx.deliveryConstraint with
  | none => simp
  | some constraint =>
      dsimp only
      split
      · rename_i period found
        have covers := List.find?_some found
        have listed := List.mem_of_find?_eq_some found
        simp only [reject_suppresses, Option.any_some, DeliveryConstraint.blackedOut, List.any_eq_true, true_iff]
        exact ⟨period, listed, covers⟩
      · rename_i clear
        simp_all [DeliveryConstraint.blackedOut]

theorem evaluateQuietHours_suppresses : ¬ (evaluateQuietHours ctx).Suppresses := by
  unfold evaluateQuietHours
  split
  · simp
  · split <;> simp

end PolicyRule

/-! ## The chains -/

namespace PolicyResolver

/-- A chain suppresses at the first rule that does not let the notification pass. -/
theorem firstRejection_suppresses (ctx : PolicyContext) (rule : PolicyRule) (rest : List PolicyRule) :
    (firstRejection ctx (rule :: rest)).Suppresses ↔
      (rule.evaluate ctx).Suppresses ∨
        (rule.evaluate ctx).allowed = true ∧ (firstRejection ctx rest).Suppresses := by
  have onward : firstRejection ctx (rule :: rest) =
      if (rule.evaluate ctx).allowed then firstRejection ctx rest else rule.evaluate ctx := rfl
  rw [onward]
  split
  · rename_i passed
    have kept : ¬ (rule.evaluate ctx).Suppresses := fun rejected => by rw [rejected.1] at passed; cases passed
    simp [passed, kept]
  · rename_i rejected
    simp [rejected]

end PolicyResolver

theorem guard_suppresses (ctx : PolicyContext) :
    (PolicyResolver.firstRejection ctx dispatchGuardRules).Suppresses ↔
      ¬ ctx.recipient.Consents ctx.notification ∨ ctx.recipient.blackedOut ctx.judged = true ∨
        ctx.recipient.silenced ctx.notification.channel ctx.judged = false ∧
          ctx.deliveryConstraint.any (·.blackedOut ctx.judged) = true := by
  have ended : ¬ (PolicyResolver.firstRejection ctx []).Suppresses := PolicyRule.allow_not_suppresses
  simp only [dispatchGuardRules, PolicyResolver.firstRejection_suppresses, PolicyRule.evaluate,
    PolicyRule.evaluatePreference_suppresses, PolicyRule.evaluatePreference_allowed,
    PolicyRule.evaluateRecipientTimes_allowed, PolicyRule.evaluateBlackout_suppresses,
    PolicyRule.evaluateQuietHours_suppresses, ended, and_false, or_false]
  simp only [Recipient.blackedOut, Recipient.silenced]
  by_cases consents : ctx.recipient.Consents ctx.notification
  · cases ctx.recipient.preferences.blackoutPeriod.any (·.coversWall ctx.recipient.zone ctx.judged) <;>
      simp [consents]
  · simp [consents]

theorem chain_suppresses {rules : List PolicyRule} (listed : rules = intakeRules ∨ rules = dispatchGuardRules)
    {notification : Notification} {recipient : Recipient} {constraint : Option DeliveryConstraint}
    {now : Instant} (ordinary : notification.category ≠ .critical) :
    (PolicyResolver.evaluate rules notification recipient constraint now).Suppresses ↔
      (.recipientAddress ∈ rules ∧ recipient.addresses.usable notification.channel = none) ∨
        ¬ recipient.Consents notification ∨ recipient.blackedOut (notification.sendAt.getD now) = true ∨
          recipient.silenced notification.channel (notification.sendAt.getD now) = false ∧
            constraint.any (·.blackedOut (notification.sendAt.getD now)) = true := by
  rw [PolicyResolver.evaluate, if_neg ordinary]
  have guard := guard_suppresses ⟨notification, recipient, constraint, now⟩
  simp only [PolicyContext.judged] at guard
  rcases listed with rfl | rfl
  · rw [← guard, show intakeRules = .recipientAddress :: dispatchGuardRules from rfl,
      PolicyResolver.firstRejection_suppresses, PolicyRule.evaluate, PolicyRule.evaluateAddress_suppresses,
      PolicyRule.evaluateAddress_allowed]
    simp only [List.mem_cons, true_or, true_and]
    cases recipient.addresses.usable notification.channel <;> simp
  · rw [← guard]
    simp [dispatchGuardRules]

/-- Consent always comes first. A blackout does exactly when no other rejection for good is due, the
rules' own comparison of walls finds it, and, for the project's, no quiet hours of the recipient are
in force. -/
theorem blackout_and_consent_dominate {rules : List PolicyRule}
    (listed : rules = intakeRules ∨ rules = dispatchGuardRules) {notification : Notification}
    (recipient : Recipient) (constraint : Option DeliveryConstraint) (now : Instant)
    (ordinary : notification.category ≠ .critical) :
    (inBlackout recipient constraint (notification.sendAt.getD now) = true ∨ ¬ recipient.Consents notification →
      (PolicyResolver.evaluate rules notification recipient constraint now).Suppresses) ↔
    (inBlackout recipient constraint (notification.sendAt.getD now) = true →
      recipient.Consents notification →
      (.recipientAddress ∈ rules → recipient.addresses.usable notification.channel ≠ none) →
      recipient.blackedOut (notification.sendAt.getD now) = true ∨
        recipient.silenced notification.channel (notification.sendAt.getD now) = false ∧
          constraint.any (·.blackedOut (notification.sendAt.getD now)) = true) := by
  rw [chain_suppresses listed ordinary]
  constructor
  · intro dominates inside consents reachable
    rcases dominates (.inl inside) with ⟨checked, absent⟩ | withdrawn | seen
    · exact absurd absent (reachable checked)
    · exact absurd consents withdrawn
    · exact seen
  · rintro seen (inside | withdrawn)
    · by_cases consents : recipient.Consents notification
      · by_cases unreachable : .recipientAddress ∈ rules ∧ recipient.addresses.usable notification.channel = none
        · exact .inl unreachable
        · exact .inr (.inr (seen inside consents fun checked absent => unreachable ⟨checked, absent⟩))
      · exact .inr (.inl consents)
    · exact .inr (.inl withdrawn)

/-! A project that is closed for the holidays. -/

def shut (timezone : Zone) (start finish : Instant) (ordered : start ≤ finish) : DeliveryConstraint where
  projectId := 1
  blackoutPeriods := [⟨"holidays", start, finish, ordered⟩]
  timezone

/-- Sample recipients have one phone number, which reaches them. -/
theorem sms_reachable :
    Addresses.channels (fun channel => if channel = .sms then some "+15550100".toList else none) ≠ ∅ := by decide

theorem sms_known : ∅ ⊆
    Addresses.channels (fun channel => if channel = .sms then some "+15550100".toList else none) :=
  Finset.empty_subset _

theorem greeting_solid : Text.blank "Hi".toList = false := rfl

def resting (quietHours : Option QuietHours) : Recipient where
  id := 7
  projectId := 1
  addresses channel := if channel = .sms then some "+15550100".toList else none
  preferences := { quietHours }
  createdAt := 0
  updatedAt := 0
  reachable := sms_reachable
  opted_out_known := sms_known

def news : NotificationFields where
  id := 1
  projectId := 1
  recipientId := 7
  transactionId := 3
  channel := .sms
  category := .informational
  content := ⟨"Hi".toList, none, [], [], greeting_solid⟩
  sendTimeBasis := .immediate
  createdAt := 0
  updatedAt := 0

def nightly : QuietHours := ⟨"night", 22 * Clock.hour, 8 * Clock.hour, .sms, by decide⟩

/-- Two hours east until the clocks go back an hour at noon. -/
def fallingBack : Zone := ⟨2 * Clock.hour, [(12 * Clock.hour, 1 * Clock.hour)], by decide⟩

/-- During the holidays a message is postponed by the recipient's quiet hours, and it passes right after
the clocks have gone back over the start of them. -/
theorem blackout_overridden :
    ∃ notification, Notification.build news = .ok notification ∧ notification.category ≠ .critical ∧
      inBlackout (resting (some nightly)) (some (shut (.fixed 0) 0 (9 * Clock.day) (by decide))) Clock.hour = true ∧
      (∀ rules ∈ [intakeRules, dispatchGuardRules],
        (PolicyResolver.evaluate rules notification (resting (some nightly))
          (some (shut (.fixed 0) 0 (9 * Clock.day) (by decide))) Clock.hour).consequence = some .postpone) ∧
      inBlackout (resting none)
        (some (shut fallingBack (12 * Clock.hour - 10 * Clock.minute) (12 * Clock.hour + 20 * Clock.minute) (by decide)))
        (12 * Clock.hour) = true ∧
      ∀ rules ∈ [intakeRules, dispatchGuardRules],
        (PolicyResolver.evaluate rules notification (resting none)
          (some (shut fallingBack (12 * Clock.hour - 10 * Clock.minute) (12 * Clock.hour + 20 * Clock.minute)
            (by decide))) (12 * Clock.hour)).allowed = true :=
  ⟨_, rfl, by decide, by decide, by decide, by decide, by decide⟩

theorem holidays_kept :
    ∃ notification, Notification.build news = .ok notification ∧
      (PolicyResolver.evaluate intakeRules notification (resting none)
        (some (shut (.fixed 0) 0 (9 * Clock.day) (by decide))) Clock.hour).Suppresses := by
  obtain ⟨notification, built, ordinary, channel, scheduled⟩ : ∃ notification,
      Notification.build news = .ok notification ∧ notification.category ≠ .critical ∧
      notification.channel = .sms ∧ notification.sendAt = none := ⟨_, rfl, by decide, rfl, rfl⟩
  refine ⟨notification, built, (blackout_and_consent_dominate (.inl rfl) (resting none)
    (some (shut (.fixed 0) 0 (9 * Clock.day) (by decide))) Clock.hour ordinary).mpr ?_ (.inl ?_)⟩
  · intro _ _ _
    rw [channel, scheduled]
    decide
  · rw [scheduled]
    decide

end Tiber
