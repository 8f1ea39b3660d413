import Tiber.Domain.Verdicts
import Tiber.System.Critical

/-! Consent to a topic, from the request that names it to the child that is judged.

The preferences answer for a topic by its id and its category. The chain of rules looks at
the topic's id too, but at the category of the notification.
-/

set_option autoImplicit false

namespace Tiber

open Library

namespace RecipientPreferences

variable (preferences : RecipientPreferences)

/-- `is_topic_subscribed`. CRITICAL is always subscribed. -/
def isTopicSubscribed (topic : NotificationTopic) : Bool :=
  if topic.category = .critical then true
  else topic.id ∉ preferences.unsubscribedTopics && topic.category ∉ preferences.unsubscribedCategories

theorem isTopicSubscribed_eq_false {preferences : RecipientPreferences} {topic : NotificationTopic} :
    preferences.isTopicSubscribed topic = false ↔ topic.category ≠ .critical ∧
      (topic.id ∈ preferences.unsubscribedTopics ∨ topic.category ∈ preferences.unsubscribedCategories) := by
  unfold isTopicSubscribed
  split
  · rename_i critical
    simp [critical]
  · rename_i ordinary
    simp only [ordinary, Bool.and_eq_false_iff, decide_eq_false_iff_not, not_not, ne_eq, not_false_eq_true, true_and]

end RecipientPreferences

theorem accept_topic {runtime : Runtime} {registry : Registry} {command : AcceptNotificationCommand}
    {minted : Minted} {creation : Creation}
    (accepted : accept runtime registry command minted = .ok (.created creation)) :
    requireTopic registry.topics command = .ok creation.intake.payload.topic := by
  obtain ⟨fresh, expanded, intake, -, -⟩ := accept_expanded accepted
  rw [intake]
  simp only [expand, Checked.bind_eq_ok, Prod.exists] at expanded
  obtain ⟨topic, found, template, -, recipient, recipients, -, constraints, -, payload, built, intake, made,
    same⟩ := expanded
  cases same
  simp only [NotificationIntake.build_eq_ok.mp made, IntakePayload.build_eq_ok.mp built]
  exact found

/-! ## The instant at which a child is judged -/

/-- The request's own send time, else the model's for the channel if it lies ahead. -/
def effectiveSendAt (command : AcceptNotificationCommand) (answer : Option MlSuggestion) (channel : DeliveryChannel)
    (planning : Instant) : Option Instant :=
  match command.sendAt with
  | some time => time.instant?
  | none => ((answer.bind (·.sendAt channel)).bind Timestamp.instant?).filter (planning < ·)

theorem planSendAt_instant {payload : IntakePayload} {ml : Option MlSuggestion} {category : NotificationCategory}
    {channels : List DeliveryChannel} {now : Instant} {channel : DeliveryChannel}
    (unscheduled : payload.sendAt = none) (ordinary : category ≠ .critical) (planned : channel ∈ channels) :
    (planSendAt payload ml category channels now channel).bind Timestamp.instant? =
      ((ml.bind (·.sendAt channel)).bind Timestamp.instant?).filter (now < ·) := by
  unfold planSendAt
  cases ml with
  | none => rfl
  | some ml =>
      simp only [unscheduled, ordinary, planned, ne_eq, not_false_eq_true, and_self, if_true, Option.bind_some]
      cases suggested : ml.sendAt channel with
      | none => rfl
      | some time =>
          cases time with
          | naive wall => rfl
          | aware instant =>
              by_cases ahead : now < instant <;> simp [Timestamp.instant?, Option.filter, ahead]

namespace IntakeRuns

variable {command : AcceptNotificationCommand} {creation : Creation} {deciding around : Surroundings}
  {plan : NotificationPlan} {recipient : Recipient} {child : Notification}

theorem built_sendAt (established : Established command creation) {intake : NotificationIntake}
    (descends : Descends creation.intake intake) (assembled : Assembled creation.intake deciding plan)
    {channel : DeliveryChannel} (planned : channel ∈ plan.channels) (ordinary : plan.category ≠ .critical)
    {template : Option Template} {readings : ChildReadings} {built : Notification}
    (building : buildChild intake plan channel template readings = .ok built) :
    built.sendAt = effectiveSendAt command deciding.answer channel deciding.planning := by
  have payload : intake.payload = creation.intake.payload := by rw [descends.request]
  obtain ⟨topic, fields⟩ := established.payload
  have requested : creation.intake.payload.sendAt = command.sendAt := by rw [fields]; rfl
  rw [buildChild_sendAt building, sendTimeBasis, payload, requested, effectiveSendAt]
  cases given : command.sendAt with
  | some time => simp
  | none =>
      rw [given] at requested
      obtain ⟨category, -, -, sendAt⟩ := assemblePlan_eq_ok assembled
      -- a send time is open, so the engine has been asked
      have wanted : wantedDecisions creation.intake.payload creation.intake.constraints ≠ [] := by
        have declared : creation.intake.payload.category ≠ some .critical := by
          intro explicit
          apply ordinary
          rw [category]
          simp [planCategory, explicit]
        simp [wantedDecisions, requested, declared]
      simp only [ne_eq, not_true_eq_false, if_false, ordinary, if_true]
      rw [sendAt, planSendAt_instant requested ordinary planned]
      simp only [consult, wanted, if_false]

theorem applyPolicy_suppressed_iff {rules : List PolicyRule} {notification judged : Notification}
    {constraint : Option DeliveryConstraint} {readings : ChildReadings} (pending : notification.status = .pending)
    (applied : applyPolicy rules notification recipient constraint readings = .ok judged) :
    judged.status = .suppressed ↔
      (PolicyResolver.evaluate rules notification recipient constraint readings.policy).Suppresses := by
  unfold applyPolicy at applied
  simp only at applied
  split at applied
  · rename_i allowed
    cases applied
    simp [pending, PolicyDecision.Suppresses, allowed]
  · rename_i rejected
    simp only [Bool.not_eq_true] at rejected
    have justified := PolicyResolver.evaluate_justified rules notification recipient constraint readings.policy
    unfold NotificationDeliveryProcessor.applyVerdict at applied
    split at applied
    · rename_i postpone
      split at applied
      · cases applied
      · rw [(Notification.markPostponed_eq_ok.mp applied).2]
        simp [PolicyDecision.Suppresses, postpone]
    · rename_i other
      rw [(Notification.markSuppressed_eq_ok.mp applied).2.2]
      rcases justified with allowed | ⟨suppress, -⟩ | ⟨postpone, -⟩
      · rw [rejected] at allowed; cases allowed
      · simp [PolicyDecision.Suppresses, rejected, suppress]
      · exact absurd postpone other

end IntakeRuns

/-- A reason for good not to send to the recipient on the channel, as the chain of rules sees it. -/
def Withheld (command : AcceptNotificationCommand) (topic : NotificationTopic) (answer : Option MlSuggestion)
    (planning policy : Instant) (recipient : Recipient) (constraint : Option DeliveryConstraint)
    (channel : DeliveryChannel) : Prop :=
  let judged := (effectiveSendAt command answer channel planning).getD policy
  recipient.addresses.usable channel = none ∨
  effectiveCategory command.category answer ∈ recipient.preferences.unsubscribedCategories ∨
  channel ∈ recipient.preferences.optedOutChannels ∨
  topic.id ∈ recipient.preferences.unsubscribedTopics ∨
  recipient.blackedOut judged = true ∨
  recipient.silenced channel judged = false ∧ constraint.any (·.blackedOut judged) = true

namespace IntakeRuns

variable {runtime : Runtime} {registry : Registry} {minted : Minted} {command : AcceptNotificationCommand}
  {creation : Creation} {deciding around : Surroundings} {plan : NotificationPlan} {recipient : Recipient}
  {child : Notification}

theorem named_ordinary (established : Established command creation) {topic : ResolvedTopic}
    (named : creation.intake.payload.topic = some topic) (ordinary : topic.category ≠ .critical)
    (answer : Option MlSuggestion) : effectiveCategory command.category answer ≠ .critical := by
  intro critical
  obtain ⟨client, fields⟩ := established.payload
  have declared : creation.intake.payload.category = some .critical := by
    rw [fields]
    exact effectiveCategory_critical critical
  exact ordinary (creation.intake.payload.category_of_topic declared named)

theorem Offspring.suppressed_iff (established : Established command creation) {topic : NotificationTopic}
    (named : creation.intake.payload.topic = some topic.resolved) (ordinary : topic.category ≠ .critical)
    (offspring : Offspring intakeWorker creation.intake deciding plan recipient around child) :
    child.status = .suppressed ↔
      Withheld command topic deciding.answer deciding.planning (around.child child.channel).policy recipient
        around.constraint child.channel := by
  have category := offspring.category_effective established
  have open_category := named_ordinary established named ordinary deciding.answer
  obtain ⟨assembled, planned, intake, descends, made⟩ := offspring
  obtain ⟨built, building, fields, applied⟩ := IntakeProcessor.makeChild_built made
  have chosen : plan.category ≠ .critical := by
    rw [← makeChild_category made, category]
    exact open_category
  have sendAt := built_sendAt established descends assembled planned chosen building
  have topicId : built.topicId = some topic.id := by
    rw [fields]
    simp [childFields, (assemblePlan_eq_ok assembled).2.1, planTopic_fst, named, NotificationTopic.resolved]
  have channel : built.channel = child.channel := by rw [fields]; rfl
  have sent : built.category = effectiveCategory command.category deciding.answer := by
    rw [← category, makeChild_category made, fields]
    rfl
  have pending : built.status = .pending := by rw [fields]; rfl
  rw [applyPolicy_suppressed_iff pending applied, show intakeWorker.policyRules = intakeRules from rfl,
    show (if intakeWorker.readsConstraints then around.constraint else none) = around.constraint from rfl,
    chain_suppresses (.inl rfl) (by rw [sent]; exact open_category)]
  simp only [Withheld, Recipient.Consents, channel, sent, topicId, sendAt, intakeRules, List.mem_cons, true_or,
    true_and, Option.mem_def, Option.some.injEq, forall_eq', not_and_or, not_not, or_assoc]

end IntakeRuns

/-- A child for a recipient who is not subscribed to the topic of the request is suppressed exactly when
the chain itself has a reason: the topic's id, the category the request ends up with, or one that has
nothing to do with the topic. -/
theorem topic_consent_respected {runtime : Runtime} {registry : Registry} {command : AcceptNotificationCommand}
    {minted : Minted} {creation : Creation}
    (accepted : accept runtime registry command minted = .ok (.created creation)) {topic : NotificationTopic}
    (named : requireTopic registry.topics command = .ok (some topic.resolved))
    {deciding around : Surroundings} {plan : NotificationPlan} {recipient : Recipient} {child : Notification}
    (offspring : IntakeRuns.Offspring intakeWorker creation.intake deciding plan recipient around child) :
    (recipient.preferences.isTopicSubscribed topic = false → child.status = .suppressed) ↔
    (recipient.preferences.isTopicSubscribed topic = false →
      Withheld command topic deciding.answer deciding.planning (around.child child.channel).policy recipient
        around.constraint child.channel) := by
  have carried : creation.intake.payload.topic = some topic.resolved :=
    Except.ok.inj ((accept_topic accepted).symm.trans named)
  apply imp_congr_right
  intro unsubscribed
  obtain ⟨ordinary, -⟩ := RecipientPreferences.isTopicSubscribed_eq_false.mp unsubscribed
  exact offspring.suppressed_iff (accept_established accepted) carried ordinary

/-- With its category spelled out, the request cannot miss a recipient's consent. -/
theorem spelled_category_withheld {runtime : Runtime} {registry : Registry} {command : AcceptNotificationCommand}
    {minted : Minted} {creation : Creation}
    (accepted : accept runtime registry command minted = .ok (.created creation)) {topic : NotificationTopic}
    (named : requireTopic registry.topics command = .ok (some topic.resolved))
    {category : NotificationCategory} (spelled : command.category = some category) {recipient : Recipient}
    (unsubscribed : recipient.preferences.isTopicSubscribed topic = false) (answer : Option MlSuggestion)
    (planning policy : Instant) (constraint : Option DeliveryConstraint) (channel : DeliveryChannel) :
    Withheld command topic answer planning policy recipient constraint channel := by
  obtain ⟨client, fields⟩ := (accept_established accepted).payload
  have carried : creation.intake.payload.topic = some topic.resolved :=
    Except.ok.inj ((accept_topic accepted).symm.trans named)
  have explicit : creation.intake.payload.category = some category := by rw [fields]; exact spelled
  have same : topic.category = category := creation.intake.payload.category_of_topic explicit carried
  obtain ⟨-, byId | byCategory⟩ := RecipientPreferences.isTopicSubscribed_eq_false.mp unsubscribed
  · exact .inr (.inr (.inr (.inl byId)))
  · refine .inr (.inl ?_)
    rw [effectiveCategory, spelled, Option.getD_some, ← same]
    exact byCategory

/-! The promotional offer once more, to a recipient who wants no promotions. -/

def unwilling : Recipient where
  id := 12
  projectId := 1
  addresses channel := if channel = .sms then some "+15550100".toList else none
  preferences := { unsubscribedCategories := {.promotional} }
  createdAt := 0
  updatedAt := 0
  reachable := sms_reachable
  opted_out_known := sms_known

def midnight : Surroundings where
  recipient := some unwilling
  topics := [offers]
  child _ := ⟨20, 0, 0, 0, 0, 0⟩
  claiming := 0
  claimed := 0
  planning := 0
  planned := 0
  completing := 0
  completed := 0
  failed := 0

/-- The request names its topic only: the plan is INFORMATIONAL, and the child is to be sent. -/
theorem unsubscribed_topic_sent :
    ∃ creation final child,
      accept cpython { recipients := [unwilling], topics := [offers] } (offer none) firstIds = .ok (.created creation) ∧
      requireTopic [offers] (offer none) = .ok (some offers.resolved) ∧
      unwilling.preferences.isTopicSubscribed offers = false ∧
      Machine.run (IntakeRuns.step {}) { row := creation.intake }
        [.relay .recorded, .deliver 0 0, .claim 0 0 0, .decide 0 midnight, .build 0 midnight, .finish 0 midnight] =
        some final ∧
      final.children = [child] ∧ child.recipientId = unwilling.id ∧ child.status = .pending ∧
      final.dispatches = [enqueueDispatch child] :=
  ⟨_, _, _, rfl, rfl, by decide, rfl, rfl, rfl, rfl, rfl⟩

def spelledPlan : NotificationPlan where
  category := .promotional
  categorySource := .client
  topic := some offers.resolved
  topicSource := some .client
  channels := [.sms]
  channelSource := .addresses
  quiet := rfl

theorem unsubscribed_topic_suppressed :
    ∃ creation child, accept cpython { recipients := [unwilling], topics := [offers] } (offer (some .promotional))
        firstIds = .ok (.created creation) ∧
      IntakeRuns.Offspring intakeWorker creation.intake midnight spelledPlan unwilling midnight child ∧
      child.status = .suppressed := by
  obtain ⟨creation, child, accepted, named, assembled, unplanned, made, channel, unsubscribed⟩ : ∃ creation child,
      accept cpython { recipients := [unwilling], topics := [offers] } (offer (some .promotional))
        firstIds = .ok (.created creation) ∧
      requireTopic [offers] (offer (some .promotional)) = .ok (some offers.resolved) ∧
      IntakeRuns.Assembled creation.intake midnight spelledPlan ∧ creation.intake.plan = none ∧
      intakeWorker.makeChild creation.intake spelledPlan unwilling midnight .sms = .ok child ∧
      child.channel = .sms ∧ unwilling.preferences.isTopicSubscribed offers = false :=
    ⟨_, _, rfl, rfl, rfl, rfl, rfl, rfl, by decide⟩
  have offspring : IntakeRuns.Offspring intakeWorker creation.intake midnight spelledPlan unwilling midnight child :=
    ⟨assembled, by rw [channel]; exact .head _, creation.intake, .refl unplanned, by rw [channel]; exact made⟩
  exact ⟨creation, child, accepted, offspring, (topic_consent_respected accepted named offspring).mpr
    (fun _ => spelled_category_withheld accepted named rfl unsubscribed none 0 _ none _) unsubscribed⟩

end Tiber
