import Tiber.Domain.Recipient

/-! Delivery policy: the four rules, their chains and the resolver.

Comparisons between datetimes that carry the same zone object compare wall
clocks, so the blackout tests below are tests on walls, not on instants.
-/

set_option autoImplicit false

namespace Tiber

open Library

structure PolicyDecision where
  allowed : Bool
  consequence : Option PolicyConsequence := none
  reason : Option String := none
  rule : Option String := none
  resumeAt : Option Instant := none
  deriving DecidableEq, Repr

namespace PolicyDecision

def allow : PolicyDecision := { allowed := true }

def reject (reason rule : String) (consequence : PolicyConsequence) (resumeAt : Option Instant := none) :
    PolicyDecision :=
  { allowed := false, consequence := some consequence, reason := some reason, rule := some rule, resumeAt }

end PolicyDecision

structure PolicyContext where
  notification : Notification
  recipient : Recipient
  deliveryConstraint : Option DeliveryConstraint
  now : Instant

/-- `notification.send_at or ctx.now`: the instant the time rules judge. -/
def PolicyContext.judged (ctx : PolicyContext) : Instant := ctx.notification.sendAt.getD ctx.now

def graceMinutes : Int := 5

/-- `str(time)`: hours, minutes and seconds, then the microseconds unless they are zero. -/
def timeText (time : Int) : String :=
  let pad (width : Nat) (n : Int) : String :=
    let digits := toString n
    String.ofList (List.replicate (width - digits.length) '0') ++ digits
  let micros := time % Clock.second
  pad 2 (time / Clock.hour) ++ ":" ++ pad 2 (time / Clock.minute % 60) ++ ":" ++
    pad 2 (time / Clock.second % 60) ++ (if micros = 0 then "" else "." ++ pad 6 micros)

namespace QuietHours

/-- `_covers` of both rules: an ordinary window, or one that spans midnight. -/
def covers (window : QuietHours) (time : Int) : Bool :=
  if window.windowStart ≤ window.windowEnd then
    window.windowStart ≤ time && time ≤ window.windowEnd
  else window.windowStart ≤ time || time ≤ window.windowEnd

/-- `next_window_end`, on the wall clock. The end keeps whole seconds only. -/
def nextEnd (window : QuietHours) (zone : Zone) (after : Instant) : Wall :=
  let here := zone.wall after
  let candidate := here - Zone.timeOfDay here + (window.windowEnd - window.windowEnd % Clock.second)
  if candidate ≤ here then candidate + Clock.day else candidate

/-- The next window end plus the grace margin. Adding a timedelta resets the fold. -/
def resumeAt (window : QuietHours) (zone : Zone) (after : Instant) : Instant :=
  zone.instantOf (window.nextEnd zone after + graceMinutes * Clock.minute) false

end QuietHours

def BlackoutPeriod.coversWall (period : BlackoutPeriod) (zone : Zone) (t : Instant) : Bool :=
  zone.wall period.start ≤ zone.wall t && zone.wall t ≤ zone.wall period.finish

inductive PolicyRule where
  | recipientAddress
  | recipientPreference
  | projectBlackoutPeriod
  | projectQuietHours
  deriving DecidableEq, Repr

namespace PolicyRule

def name : PolicyRule → String
  | recipientAddress => "recipient_address_rule"
  | recipientPreference => "recipient_preference_rule"
  | projectBlackoutPeriod => "blackout_period"
  | projectQuietHours => "quiet_hours"

def evaluateAddress (ctx : PolicyContext) : PolicyDecision :=
  match ctx.recipient.addresses.usable ctx.notification.channel with
  | none => .reject ("recipient has no " ++ ctx.notification.channel.value ++ " address")
      recipientAddress.name .suppress
  | some _ => .allow

abbrev recipientBlackoutRejection (blackout : BlackoutPeriod) : PolicyDecision :=
  .reject ("recipient blackout period " ++ blackout.name ++ " covers the send time") recipientPreference.name .suppress

abbrev recipientQuietHoursRejection (window : QuietHours) (resumeAt : Instant) : PolicyDecision :=
  .reject
    ("recipient quiet hours (" ++ timeText window.windowStart ++ " - " ++ timeText window.windowEnd ++
      ") cover the send time for channel " ++ window.channel.value)
    recipientPreference.name .postpone (some resumeAt)

abbrev blackoutRejection (period : BlackoutPeriod) : PolicyDecision :=
  .reject ("notification cannot be sent within " ++ period.name ++ " blackout period")
    projectBlackoutPeriod.name .suppress

abbrev quietHoursRejection (window : QuietHours) (resumeAt : Instant) : PolicyDecision :=
  .reject
    ("notification cannot be sent within configured restricted window (" ++ timeText window.windowStart ++
      " - " ++ timeText window.windowEnd ++ ") for channel " ++ window.channel.value)
    projectQuietHours.name .postpone (some resumeAt)

def recipientZone (ctx : PolicyContext) : Zone := ctx.recipient.timezone.getD (.fixed 0)

/-- `_evaluate_blackout_and_quiet_hours` -/
def evaluateRecipientTimes (ctx : PolicyContext) : PolicyDecision :=
  let zone := recipientZone ctx
  let sendAt := ctx.judged
  match ctx.recipient.preferences.blackoutPeriod.filter fun period => period.coversWall zone sendAt with
  | some blackout => recipientBlackoutRejection blackout
  | none =>
      match ctx.recipient.preferences.quietHours.filter fun window =>
          window.channel == ctx.notification.channel &&
            window.covers (Zone.timeOfDay (zone.wall sendAt)) with
      | some window => recipientQuietHoursRejection window (window.resumeAt zone sendAt)
      | none => .allow

def evaluatePreference (ctx : PolicyContext) : PolicyDecision :=
  let preferences := ctx.recipient.preferences
  let notification := ctx.notification
  if notification.category ∈ preferences.unsubscribedCategories then
    .reject ("recipient unsubscribed from " ++ notification.category.value ++ " notifications")
      recipientPreference.name .suppress
  else if notification.channel ∈ preferences.optedOutChannels then
    .reject ("recipient opted out of " ++ notification.channel.value ++ " delivery channel")
      recipientPreference.name .suppress
  else
    match notification.topicId.filter fun topic => decide (topic ∈ preferences.unsubscribedTopics) with
    | some topic => .reject ("recipient unsubscribed from topic " ++ uuidText topic)
        recipientPreference.name .suppress
    | none => evaluateRecipientTimes ctx

def evaluateBlackout (ctx : PolicyContext) : PolicyDecision :=
  match ctx.deliveryConstraint with
  | none => .allow
  | some constraint =>
      match constraint.blackoutPeriods.find? fun period =>
          period.coversWall constraint.timezone ctx.judged with
      | some period => blackoutRejection period
      | none => .allow

def evaluateQuietHours (ctx : PolicyContext) : PolicyDecision :=
  match ctx.deliveryConstraint with
  | none => .allow
  | some constraint =>
      match constraint.quietHours.find? fun window =>
          window.channel == ctx.notification.channel &&
            window.covers (Zone.timeOfDay (constraint.timezone.wall ctx.judged)) with
      | some window => quietHoursRejection window (window.resumeAt constraint.timezone ctx.judged)
      | none => .allow

def evaluate : PolicyRule → PolicyContext → PolicyDecision
  | recipientAddress => evaluateAddress
  | recipientPreference => evaluatePreference
  | projectBlackoutPeriod => evaluateBlackout
  | projectQuietHours => evaluateQuietHours

end PolicyRule

def intakeRules : List PolicyRule :=
  [.recipientAddress, .recipientPreference, .projectBlackoutPeriod, .projectQuietHours]

def dispatchGuardRules : List PolicyRule :=
  [.recipientPreference, .projectBlackoutPeriod, .projectQuietHours]

namespace PolicyResolver

def firstRejection (ctx : PolicyContext) : List PolicyRule → PolicyDecision
  | [] => .allow
  | rule :: rest =>
      if (rule.evaluate ctx).allowed then firstRejection ctx rest else rule.evaluate ctx

/-- `PolicyResolver.evaluate`. A CRITICAL notification bypasses the chain. -/
def evaluate (rules : List PolicyRule) (notification : Notification) (recipient : Recipient)
    (constraint : Option DeliveryConstraint) (now : Instant) : PolicyDecision :=
  if notification.category = .critical then .allow
  else firstRejection ⟨notification, recipient, constraint, now⟩ rules

theorem evaluate_congr {rules : List PolicyRule} {first second : Notification} {recipient : Recipient}
    {constraint : Option DeliveryConstraint} {now : Instant} (channel : first.channel = second.channel)
    (category : first.category = second.category) (topicId : first.topicId = second.topicId)
    (sendAt : first.sendAt = second.sendAt) :
    evaluate rules first recipient constraint now = evaluate rules second recipient constraint now := by
  have judges (rule : PolicyRule) :
      rule.evaluate ⟨first, recipient, constraint, now⟩ = rule.evaluate ⟨second, recipient, constraint, now⟩ := by
    cases rule <;>
      simp only [PolicyRule.evaluate, PolicyRule.evaluateAddress, PolicyRule.evaluatePreference,
        PolicyRule.evaluateRecipientTimes, PolicyRule.recipientZone, PolicyRule.evaluateBlackout,
        PolicyRule.evaluateQuietHours, PolicyContext.judged, channel, category, topicId, sendAt]
  have chain : firstRejection ⟨first, recipient, constraint, now⟩ rules =
      firstRejection ⟨second, recipient, constraint, now⟩ rules := by
    induction rules with
    | nil => rfl
    | cons rule rest ih => rw [firstRejection, firstRejection, judges rule, ih]
  unfold evaluate
  rw [category, chain]

theorem firstRejection_allowed (ctx : PolicyContext) (rules : List PolicyRule) :
    (firstRejection ctx rules).allowed = true ↔ ∀ rule ∈ rules, (rule.evaluate ctx).allowed = true := by
  induction rules with
  | nil => simp [firstRejection, PolicyDecision.allow]
  | cons rule rest ih =>
      simp only [firstRejection, List.forall_mem_cons]
      split
      · rename_i passed
        simp only [passed, true_and, ih]
      · rename_i rejected
        simp only [Bool.not_eq_true] at rejected
        simp [rejected]

theorem evaluate_critical {rules : List PolicyRule} {notification : Notification} {recipient : Recipient}
    {constraint : Option DeliveryConstraint} {now : Instant}
    (critical : notification.category = .critical) :
    evaluate rules notification recipient constraint now = .allow := if_pos critical

end PolicyResolver

/-! ## A rejection names its consequence, and a postponement its resume time -/

def PolicyDecision.Justified (decision : PolicyDecision) : Prop :=
  decision.allowed = true ∨
  (decision.consequence = some .suppress ∧ ∃ reason, decision.reason = some reason ∧ reason ≠ "") ∨
  (decision.consequence = some .postpone ∧ decision.resumeAt.isSome = true)

theorem PolicyRule.evaluate_justified (rule : PolicyRule) (ctx : PolicyContext) :
    (rule.evaluate ctx).Justified := by
  have suppressed (reason name : String) (given : reason ≠ "") :
      (PolicyDecision.reject reason name .suppress).Justified :=
    .inr (.inl ⟨rfl, reason, rfl, given⟩)
  have postponed (reason name : String) (resume : Instant) :
      (PolicyDecision.reject reason name .postpone (some resume)).Justified := .inr (.inr ⟨rfl, rfl⟩)
  have passed : PolicyDecision.allow.Justified := .inl rfl
  -- the rules build their decisions in these three ways only
  cases rule with
  | recipientAddress =>
      simp only [evaluate, evaluateAddress]
      split
      · exact suppressed _ _ (by simp)
      · exact passed
  | recipientPreference =>
      simp only [evaluate, evaluatePreference, evaluateRecipientTimes]
      split
      · exact suppressed _ _ (by simp)
      split
      · exact suppressed _ _ (by simp)
      split
      · exact suppressed _ _ (by simp)
      split
      · exact suppressed _ _ (by simp)
      split
      · exact postponed _ _ _
      · exact passed
  | projectBlackoutPeriod =>
      simp only [evaluate, evaluateBlackout]
      split
      · exact passed
      split
      · exact suppressed _ _ (by simp)
      · exact passed
  | projectQuietHours =>
      simp only [evaluate, evaluateQuietHours]
      split
      · exact passed
      split
      · exact postponed _ _ _
      · exact passed

theorem PolicyResolver.evaluate_justified (rules : List PolicyRule) (notification : Notification)
    (recipient : Recipient) (constraint : Option DeliveryConstraint) (now : Instant) :
    (evaluate rules notification recipient constraint now).Justified := by
  unfold evaluate
  split
  · exact .inl rfl
  · induction rules with
    | nil => exact .inl rfl
    | cons rule rest ih =>
        unfold firstRejection
        split
        · exact ih
        · exact rule.evaluate_justified _

end Tiber
