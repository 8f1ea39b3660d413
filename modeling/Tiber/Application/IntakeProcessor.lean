import Tiber.Application.Accept
import Tiber.Application.Delivery

/-! The worker half: claim the intake, decide, build one notification per
planned channel, complete.

Everything read from outside between the claim and the last commit is one
record: stored rows, the engine's answer, generated ids and clock readings.
-/

set_option autoImplicit false

namespace Tiber

open Library
open TemplateRenderer (Renderable)

structure IntakeProcessor where
  policyRules : List PolicyRule := intakeRules
  readsConstraints : Bool := true
  lease : Int := 5 * Clock.minute
  maxAttempts : Nat := 5

structure ChildReadings where
  id : Uuid
  created : Instant
  rendered : Instant
  scheduled : Instant
  policy : Instant
  verdict : Instant

structure Surroundings where
  recipient : Option Recipient
  answer : Option MlSuggestion := none
  topics : List NotificationTopic := []
  template : Option Template := none
  constraint : Option DeliveryConstraint := none
  existing : Finset DeliveryChannel := ∅
  child : DeliveryChannel → ChildReadings
  claiming : Instant
  claimed : Instant
  planning : Instant
  planned : Instant
  completing : Instant
  completed : Instant
  failed : Instant

/-! ## Decision -/

/-- The engine is asked only when something is open, and its topic must exist in the project. -/
def consult (payload : IntakePayload) (constraints : DecisionConstraints) (answer : Option MlSuggestion)
    (topics : List NotificationTopic) (projectId : Uuid) : Option MlSuggestion × Option ResolvedTopic :=
  let want := wantedDecisions payload constraints
  if want = [] then (none, none)
  else
    let slug := (answer.bind (·.topicSlug)).filter fun slug => decide (.topic ∈ want) && !slug.isEmpty
    (answer, slug.bind fun slug =>
      (topics.find? fun topic => topic.projectId = projectId ∧ topic.topicSlug = slug).map (·.resolved))

/-- `_decide`, up to the commit of the plan. -/
def decidePlan (intake : NotificationIntake) (around : Surroundings) : Checked NotificationIntake := do
  let (suggestion, mlTopic) :=
    consult intake.payload intake.constraints around.answer around.topics intake.projectId
  let plan ← assemblePlan intake.payload intake.constraints suggestion mlTopic around.planning
  intake.withPlan plan around.planned

/-! ## Children -/

/-- An explicit send time wins, CRITICAL is immediate, everything else may be predicted. -/
def sendTimeBasis (payload : IntakePayload) (plan : NotificationPlan) : SendTimeBasis :=
  if payload.sendAt ≠ none then .explicit
  else if plan.category = .critical then .immediate
  else .mlPredicted

def childFields (intake : NotificationIntake) (plan : NotificationPlan) (channel : DeliveryChannel)
    (content : NotificationContent) (readings : ChildReadings) : NotificationFields where
  id := readings.id
  projectId := intake.projectId
  recipientId := intake.recipientId
  transactionId := intake.transactionId
  channel
  category := plan.category
  content
  sendTimeBasis := sendTimeBasis intake.payload plan
  topicId := plan.topic.map (·.id)
  templateId := intake.payload.templateId
  templateVariables := intake.payload.templateVariables
  groupKey := intake.payload.groupKey
  idempotencyKey := intake.idempotencyKey
  sendAt := intake.payload.sendAt.bind Timestamp.instant?
  createdAt := readings.created
  updatedAt := readings.created

/-- Stands in for the content until the template is rendered; never stored. -/
def templatePending (channel : DeliveryChannel) : NotificationContent where
  title := if channel = .email then some "[template pending]".toList else none
  body := "[template pending]".toList
  actions := []
  images := []
  body_solid := by decide

def childContent (intake : NotificationIntake) (plan : NotificationPlan) (channel : DeliveryChannel)
    (template : Option Template) (readings : ChildReadings) : Checked Notification :=
  match intake.payload.templateId with
  | some _ => do
      let provisional ← Notification.build (childFields intake plan channel (templatePending channel) readings)
      let content ← resolveContent provisional template
      provisional.withContent content readings.rendered
  | none =>
      match intake.payload.content with
      | none => .error (.raised "Exception" "Payload content is None.")
      | some content => do
          validateContent channel content
          Notification.build (childFields intake plan channel content readings)

def buildChild (intake : NotificationIntake) (plan : NotificationPlan) (channel : DeliveryChannel)
    (template : Option Template) (readings : ChildReadings) : Checked Notification := do
  let child ← childContent intake plan channel template readings
  match plan.sendAt channel with
  | some predicted =>
      if child.sendTimeBasis = .mlPredicted then child.schedule predicted readings.scheduled else .ok child
  | none => .ok child

def applyPolicy (rules : List PolicyRule) (notification : Notification) (recipient : Recipient)
    (constraint : Option DeliveryConstraint) (readings : ChildReadings) : Checked Notification :=
  let decision := PolicyResolver.evaluate rules notification recipient constraint readings.policy
  if decision.allowed then .ok notification
  else NotificationDeliveryProcessor.applyVerdict notification decision readings.verdict

namespace IntakeProcessor

variable (processor : IntakeProcessor)

def makeChild (intake : NotificationIntake) (plan : NotificationPlan) (recipient : Recipient)
    (around : Surroundings) (channel : DeliveryChannel) : Checked Notification := do
  let child ← buildChild intake plan channel around.template (around.child channel)
  applyPolicy processor.policyRules child recipient
    (if processor.readsConstraints then around.constraint else none) (around.child channel)

/-- `_fan_out`, up to its transaction. -/
def makeChildren (intake : NotificationIntake) (recipient : Recipient) (around : Surroundings) :
    Checked (List Notification) :=
  match intake.plan with
  | none => .error (.raised "Exception" "Plan is None.")
  | some plan => (plan.channels.filter (· ∉ around.existing)).mapM
      (processor.makeChild intake plan recipient around)

inductive Processed where
  | skipped
  | completed (intake : NotificationIntake) (children : List Notification)
  | failed (intake : NotificationIntake)
  | raised (error : PyError)

/-- `_fail` on the row as this call left it. -/
def failWith (row : NotificationIntake) (reason : String) (around : Surroundings) : Processed :=
  match row.fail reason around.failed with
  | .ok failed => .failed failed
  | .error error => .raised error

/-- The two `except` clauses: a deterministic error fails the intake, any other propagates. -/
def failureReason (error : PyError) : Option String :=
  match error with
  | .templateRender _ => some error.text
  | _ => if error.isDeterministic then some (error.name ++ ": " ++ error.text) else none

def settle (row : NotificationIntake) (error : PyError) (around : Surroundings) : Processed :=
  match failureReason error with
  | some reason => failWith row reason around
  | none => .raised error

/-- The last transaction: children, dispatch rows, COMPLETED. -/
def fanOut (planned : NotificationIntake) (recipient : Recipient) (around : Surroundings) : Processed :=
  match processor.makeChildren planned recipient around with
  | .error error => settle planned error around
  | .ok children =>
      match planned.complete around.completing around.completed with
      | .error error => settle planned error around
      | .ok completed => .completed completed children

def carryOut (claimed : NotificationIntake) (around : Surroundings) : Processed :=
  match around.recipient with
  | none => settle claimed (.entityNotFound "Recipient" (uuidText claimed.recipientId)) around
  | some recipient =>
      if claimed.plan = none then
        match decidePlan claimed around with
        | .error error => settle claimed error around
        | .ok planned => processor.fanOut planned recipient around
      else processor.fanOut claimed recipient around

/-- `IntakeProcessor.process`, undisturbed. -/
def process (intake : NotificationIntake) (around : Surroundings) : Processed :=
  if intake.isClaimable around.claiming processor.lease then
    match intake.claim around.claiming processor.lease around.claimed with
    | .error error => .raised error
    | .ok claimed =>
        if processor.maxAttempts < claimed.attempts then
          failWith claimed ("exceeded " ++ toString processor.maxAttempts ++ " processing attempts") around
        else processor.carryOut claimed around
  else .skipped

end IntakeProcessor

/-! ## What becomes of a decision -/

theorem decidePlan_eq_ok {intake planned : NotificationIntake} {around : Surroundings}
    (decided : decidePlan intake around = .ok planned) :
    intake.status = .processing ∧ ∃ plan, planned.toNotificationIntakeFields =
      { intake.toNotificationIntakeFields with plan := some plan, updatedAt := around.planned } := by
  obtain ⟨plan, -, stored⟩ := Checked.bind_eq_ok.mp decided
  obtain ⟨processing, fields⟩ := NotificationIntake.withPlan_eq_ok.mp stored
  exact ⟨processing, plan, fields⟩

/-! ## What becomes of a child -/

theorem childFields_total (intake : NotificationIntake) (plan : NotificationPlan) (channel : DeliveryChannel)
    (content : NotificationContent) (readings : ChildReadings) :
    ∃ child, Notification.build (childFields intake plan channel content readings) = .ok child :=
  ⟨⟨childFields intake plan channel content readings, by simp [NotificationFields.Consistent, childFields]⟩,
    Notification.build_eq_ok.mpr rfl⟩

theorem childContent_fields {intake : NotificationIntake} {plan : NotificationPlan} {channel : DeliveryChannel}
    {template : Option Template} {readings : ChildReadings} {child : Notification}
    (made : childContent intake plan channel template readings = .ok child) :
    child.toNotificationFields =
      { childFields intake plan channel child.content readings with updatedAt := child.updatedAt } := by
  unfold childContent at made
  split at made
  · simp only [Checked.bind_eq_ok] at made
    obtain ⟨provisional, created, content, -, rendered⟩ := made
    have fields := Notification.withContent_eq_ok.mp rendered
    rw [Notification.build_eq_ok.mp created] at fields
    rw [fields]
    rfl
  · split at made
    · cases made
    · obtain ⟨_, -, created⟩ := Checked.bind_eq_ok.mp made
      rw [Notification.build_eq_ok.mp created]
      rfl

/-- A templated child exists exactly when its variant can be rendered. -/
theorem childContent_template {intake : NotificationIntake} {plan : NotificationPlan} {channel : DeliveryChannel}
    {template : Template} {variant : TemplateVariant} {readings : ChildReadings} {templateId : Uuid}
    (referenced : intake.payload.templateId = some templateId)
    (found : template.variants channel = some variant) :
    (∃ child, childContent intake plan channel (some template) readings = .ok child) ↔
      Renderable variant.content intake.payload.templateVariables := by
  obtain ⟨provisional, created⟩ :=
    childFields_total intake plan channel (templatePending channel) readings
  have fields := Notification.build_eq_ok.mp created
  have resolved : resolveContent provisional (some template) =
      TemplateRenderer.render variant.content intake.payload.templateVariables := by
    simp [resolveContent, fields, childFields, referenced, found]
  rw [← TemplateRenderer.render_isOk_iff]
  simp only [childContent, referenced, Checked.bind_eq_ok, created, Except.ok.injEq, exists_eq_left', resolved]
  constructor
  · rintro ⟨child, content, rendered, -⟩
    exact ⟨content, rendered⟩
  · rintro ⟨content, rendered⟩
    refine ⟨⟨{ childFields intake plan channel content readings with updatedAt := readings.rendered }, ?_⟩,
      content, rendered, ?_⟩
    · simp [NotificationFields.Consistent, childFields]
    · rw [Notification.withContent_eq_ok, fields]
      rfl

theorem childContent_direct {intake : NotificationIntake} {plan : NotificationPlan} {channel : DeliveryChannel}
    {template : Option Template} {content : NotificationContent} {readings : ChildReadings}
    (direct : intake.payload.templateId = none) (given : intake.payload.content = some content)
    (valid : validateContent channel content = .ok ()) :
    ∃ child, childContent intake plan channel template readings = .ok child := by
  obtain ⟨child, created⟩ := childFields_total intake plan channel content readings
  refine ⟨child, ?_⟩
  simp only [childContent, direct, given, valid]
  exact created

/-- Scheduling never stands in the way of a child. -/
theorem buildChild_isOk_iff {intake : NotificationIntake} {plan : NotificationPlan} {channel : DeliveryChannel}
    {template : Option Template} {readings : ChildReadings} :
    (∃ child, buildChild intake plan channel template readings = .ok child) ↔
      ∃ child, childContent intake plan channel template readings = .ok child := by
  simp only [buildChild, Checked.bind_eq_ok]
  constructor
  · rintro ⟨_, child, made, -⟩
    exact ⟨child, made⟩
  · rintro ⟨child, made⟩
    cases planned : plan.sendAt channel with
    | none => exact ⟨child, child, made, rfl⟩
    | some predicted =>
        by_cases basis : child.sendTimeBasis = .mlPredicted
        · obtain ⟨instant, rfl⟩ := plan.sendAt_aware planned
          have pending : child.status = .pending := by rw [childContent_fields made]; rfl
          obtain ⟨scheduled, done⟩ := Notification.schedule_total instant readings.scheduled basis pending
          exact ⟨scheduled, child, made, by simp only [basis, if_true, done]⟩
        · exact ⟨child, child, made, by simp only [basis, if_false]⟩

theorem applyPolicy_total {rules : List PolicyRule} {notification : Notification} {recipient : Recipient}
    {constraint : Option DeliveryConstraint} {readings : ChildReadings} (pending : notification.status = .pending) :
    ∃ judged, applyPolicy rules notification recipient constraint readings = .ok judged := by
  unfold applyPolicy
  simp only
  split
  · exact ⟨notification, rfl⟩
  · rename_i rejected
    exact NotificationDeliveryProcessor.applyVerdict_total readings.verdict (.inl pending)
      (PolicyResolver.evaluate_justified rules notification recipient constraint readings.policy)
      (by simpa using rejected)

theorem applyPolicy_eq_ok {rules : List PolicyRule} {notification judged : Notification} {recipient : Recipient}
    {constraint : Option DeliveryConstraint} {readings : ChildReadings}
    (applied : applyPolicy rules notification recipient constraint readings = .ok judged) :
    judged = notification ∨
      (∃ resumeAt, judged.toNotificationFields = { notification.toNotificationFields with
        status := .postponed, sendAt := some resumeAt, updatedAt := readings.verdict }) ∨
      ∃ reason, judged.toNotificationFields = { notification.toNotificationFields with
        status := .suppressed, suppressionReason := some reason, updatedAt := readings.verdict } := by
  unfold applyPolicy NotificationDeliveryProcessor.applyVerdict at applied
  simp only at applied
  split at applied
  · cases applied; exact .inl rfl
  · split at applied
    · split at applied
      · cases applied
      · exact .inr (.inl ⟨_, (Notification.markPostponed_eq_ok.mp applied).2⟩)
    · exact .inr (.inr ⟨_, (Notification.markSuppressed_eq_ok.mp applied).2.2⟩)

theorem buildChild_eq_ok {intake : NotificationIntake} {plan : NotificationPlan} {channel : DeliveryChannel}
    {template : Option Template} {readings : ChildReadings} {child : Notification}
    (built : buildChild intake plan channel template readings = .ok child) :
    ∃ created, childContent intake plan channel template readings = .ok created ∧
      child.toNotificationFields = { created.toNotificationFields with
        sendAt := child.sendAt, updatedAt := child.updatedAt } := by
  obtain ⟨created, made, scheduled⟩ := Checked.bind_eq_ok.mp built
  refine ⟨created, made, ?_⟩
  split at scheduled
  · split at scheduled
    · obtain ⟨-, -, _, -, fields⟩ := Notification.schedule_eq_ok.mp scheduled
      rw [fields]
    · cases scheduled; rfl
  · cases scheduled; rfl

/-- A child is scheduled by the plan where its time may be predicted, else by the request. -/
theorem buildChild_sendAt {intake : NotificationIntake} {plan : NotificationPlan} {channel : DeliveryChannel}
    {template : Option Template} {readings : ChildReadings} {child : Notification}
    (built : buildChild intake plan channel template readings = .ok child) :
    child.sendAt = if sendTimeBasis intake.payload plan = .mlPredicted
      then (plan.sendAt channel).bind Timestamp.instant? else intake.payload.sendAt.bind Timestamp.instant? := by
  obtain ⟨created, made, scheduled⟩ := Checked.bind_eq_ok.mp built
  have fields := childContent_fields made
  have basis : created.sendTimeBasis = sendTimeBasis intake.payload plan := by rw [fields]; rfl
  have requested : created.sendAt = intake.payload.sendAt.bind Timestamp.instant? := by rw [fields]; rfl
  -- a time is predicted only for a request that names none
  have unscheduled (predicted : sendTimeBasis intake.payload plan = .mlPredicted) : intake.payload.sendAt = none := by
    by_contra given
    simp [sendTimeBasis, given] at predicted
  split at scheduled
  · rename_i time planned
    rw [basis] at scheduled
    split at scheduled
    · rename_i predicted
      obtain ⟨-, -, instant, same, moved⟩ := Notification.schedule_eq_ok.mp scheduled
      rw [moved, if_pos predicted, planned, same]
      rfl
    · rename_i otherwise
      rw [if_neg otherwise, ← Except.ok.inj scheduled, requested]
  · rename_i unplanned
    rw [← Except.ok.inj scheduled, requested]
    split
    · rename_i predicted
      rw [unscheduled predicted, unplanned]
    · rfl

namespace IntakeProcessor

variable {processor : IntakeProcessor}

theorem makeChild_built {intake : NotificationIntake} {plan : NotificationPlan} {recipient : Recipient}
    {around : Surroundings} {channel : DeliveryChannel} {child : Notification}
    (made : processor.makeChild intake plan recipient around channel = .ok child) :
    ∃ built, buildChild intake plan channel around.template (around.child channel) = .ok built ∧
      built.toNotificationFields = { childFields intake plan channel built.content (around.child channel) with
        sendAt := built.sendAt, updatedAt := built.updatedAt } ∧
      applyPolicy processor.policyRules built recipient
        (if processor.readsConstraints then around.constraint else none) (around.child channel) = .ok child := by
  obtain ⟨built, done, applied⟩ := Checked.bind_eq_ok.mp made
  obtain ⟨created, content, kept⟩ := buildChild_eq_ok done
  refine ⟨built, done, ?_, applied⟩
  rw [kept, childContent_fields content]
  rfl

theorem makeChild_identity {intake : NotificationIntake} {plan : NotificationPlan} {recipient : Recipient}
    {around : Surroundings} {channel : DeliveryChannel} {child : Notification}
    (made : processor.makeChild intake plan recipient around channel = .ok child) :
    child.toNotificationFields = { childFields intake plan channel child.content (around.child channel) with
        status := child.status, sendAt := child.sendAt, suppressionReason := child.suppressionReason
        updatedAt := child.updatedAt } ∧
      (child.status = .pending ∨ child.status = .postponed ∨ child.status = .suppressed) := by
  obtain ⟨built, -, fields, applied⟩ := makeChild_built made
  rcases applyPolicy_eq_ok applied with rfl | ⟨resumeAt, postponed⟩ | ⟨reason, suppressed⟩
  · refine ⟨?_, .inl (by rw [fields]; rfl)⟩
    rw [fields]
    rfl
  · refine ⟨?_, .inr (.inl (by rw [postponed]))⟩
    rw [postponed, fields]
    rfl
  · refine ⟨?_, .inr (.inr (by rw [suppressed]))⟩
    rw [suppressed, fields]
    rfl

theorem makeChild_created {intake : NotificationIntake} {plan : NotificationPlan} {recipient : Recipient}
    {around : Surroundings} {channel : DeliveryChannel} {child : Notification}
    (made : processor.makeChild intake plan recipient around channel = .ok child) :
    ∃ created, childContent intake plan channel around.template (around.child channel) = .ok created ∧
      child.channel = channel ∧ child.content = created.content := by
  obtain ⟨built, building, -, applied⟩ := makeChild_built made
  obtain ⟨created, creating, kept⟩ := buildChild_eq_ok building
  have before : built.channel = channel ∧ built.content = created.content := by
    rw [kept, childContent_fields creating]
    exact ⟨rfl, rfl⟩
  refine ⟨created, creating, ?_⟩
  rcases applyPolicy_eq_ok applied with rfl | ⟨_, fields⟩ | ⟨_, fields⟩
  · exact before
  · rw [fields]; exact before
  · rw [fields]; exact before

theorem makeChild_isOk_iff {intake : NotificationIntake} {plan : NotificationPlan} {recipient : Recipient}
    {around : Surroundings} {channel : DeliveryChannel} :
    (∃ child, processor.makeChild intake plan recipient around channel = .ok child) ↔
      ∃ child, childContent intake plan channel around.template (around.child channel) = .ok child := by
  rw [← buildChild_isOk_iff]
  simp only [makeChild, Checked.bind_eq_ok]
  constructor
  · rintro ⟨_, child, built, -⟩
    exact ⟨child, built⟩
  · rintro ⟨child, built⟩
    obtain ⟨created, made, kept⟩ := buildChild_eq_ok built
    have pending : child.status = .pending := by rw [kept, childContent_fields made]; rfl
    obtain ⟨judged, applied⟩ := applyPolicy_total pending
    exact ⟨judged, child, built, applied⟩

theorem failWith_not_completed {row intake : NotificationIntake} {reason : String} {around : Surroundings}
    {children : List Notification} : failWith row reason around ≠ .completed intake children := by
  unfold failWith
  split <;> simp

theorem settle_not_completed {row intake : NotificationIntake} {error : PyError} {around : Surroundings}
    {children : List Notification} : settle row error around ≠ .completed intake children := by
  unfold settle
  split
  · exact failWith_not_completed
  · simp

/-- Fan-out completes exactly when every planned child that is not there yet can be built. -/
theorem fanOut_completes {planned : NotificationIntake} {plan : NotificationPlan} {recipient : Recipient}
    {around : Surroundings} (processing : planned.status = .processing) (stored : planned.plan = some plan) :
    (∃ intake children, processor.fanOut planned recipient around = .completed intake children) ↔
      ∀ channel ∈ plan.channels, channel ∉ around.existing →
        ∃ child, childContent planned plan channel around.template (around.child channel) = .ok child := by
  have every : (∃ children, processor.makeChildren planned recipient around = .ok children) ↔
      ∀ channel ∈ plan.channels, channel ∉ around.existing →
        ∃ child, childContent planned plan channel around.template (around.child channel) = .ok child := by
    simp only [makeChildren, stored, mapM_isOk_iff, makeChild_isOk_iff, List.mem_filter, decide_eq_true_eq, and_imp]
  rw [← every]
  unfold fanOut
  constructor
  · rintro ⟨intake, children, completed⟩
    split at completed
    · exact absurd completed settle_not_completed
    · rename_i made; exact ⟨_, made⟩
  · rintro ⟨children, made⟩
    obtain ⟨completed, done⟩ := NotificationIntake.complete_total around.completing around.completed processing
      (by rw [stored]; simp)
    exact ⟨completed, children, by simp only [made, done]⟩

/-- An untouched intake is claimed, gets its plan and is fanned out. -/
theorem process_received (processor : IntakeProcessor) {intake : NotificationIntake} {recipient : Recipient}
    {around : Surroundings}
    (received : intake.status = .received ∧ intake.attempts = 0 ∧ intake.plan = none)
    (agrees : Agrees intake.payload intake.constraints) (known : around.recipient = some recipient)
    (allowance : 1 ≤ processor.maxAttempts) :
    ∃ plan planned, processor.process intake around = processor.fanOut planned recipient around ∧
      assemblePlan intake.payload intake.constraints
          (consult intake.payload intake.constraints around.answer around.topics intake.projectId).1
          (consult intake.payload intake.constraints around.answer around.topics intake.projectId).2
          around.planning = .ok plan ∧
      planned.toNotificationIntakeFields = { intake.toNotificationIntakeFields with
        status := .processing, claimedAt := some around.claiming, attempts := 1, plan := some plan,
        updatedAt := around.planned } := by
  obtain ⟨status, attempts, unplanned⟩ := received
  have claimable : intake.isClaimable around.claiming processor.lease = true := by
    simp [NotificationIntake.isClaimable, status]
  obtain ⟨claimed, taken⟩ := NotificationIntake.claim_total around.claimed claimable
  have fields := (NotificationIntake.claim_eq_ok.mp taken).2
  have processing : claimed.status = .processing := by rw [fields]
  -- the decision cannot fail, whatever the engine answers
  obtain ⟨plan, assembled, -⟩ := assemblePlan_total agrees
    (consult intake.payload intake.constraints around.answer around.topics intake.projectId).1
    (consult intake.payload intake.constraints around.answer around.topics intake.projectId).2 around.planning
  obtain ⟨planned, stored⟩ := NotificationIntake.withPlan_total plan around.planned processing
  have decided : decidePlan claimed around = .ok planned := by
    simp only [decidePlan, fields, assembled]
    exact stored
  refine ⟨plan, planned, ?_, assembled, ?_⟩
  · have few : ¬ processor.maxAttempts < claimed.attempts := by rw [fields]; simp only [attempts]; omega
    have unplanned' : claimed.plan = none := by rw [fields]; exact unplanned
    simp only [process, claimable, taken, few, carryOut, known, unplanned', decided, if_true, if_false]
  · rw [(NotificationIntake.withPlan_eq_ok.mp stored).2, fields, attempts]

end IntakeProcessor

end Tiber
