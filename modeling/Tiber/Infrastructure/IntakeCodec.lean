import Tiber.Infrastructure.JsonDocument

/-! The notification_intakes table: the row of an intake, with its payload, its decision space and
its plan as JSON documents, and the way back.
-/

set_option autoImplicit false

namespace Tiber

open Library

/-! ## Maps -/

def entriesOf {α β : Type} (keys : List α) (map : α → Option β) : List (α × β) :=
  keys.filterMap fun key => (map key).map fun value => (key, value)

/-- A dict built entry by entry: a later entry replaces an earlier one. -/
def collect {α β : Type} [DecidableEq α] (entries : List (α × β)) (known : α → Option β) : α → Option β :=
  entries.foldl (fun map entry => Function.update map entry.1 (some entry.2)) known

theorem collect_entriesOf {α β : Type} [DecidableEq α] (keys : List α) (map known : α → Option β) (key : α) :
    collect (entriesOf keys map) known key = if key ∈ keys ∧ (map key).isSome then map key else known key := by
  induction keys generalizing known with
  | nil => simp [entriesOf, collect]
  | cons first rest ih =>
      cases present : map first with
      | none =>
          have skipped : entriesOf (first :: rest) map = entriesOf rest map := by simp [entriesOf, present]
          rw [skipped, ih]
          by_cases same : key = first
          · subst same
            simp [present]
          · simp [same]
      | some value =>
          have listed : entriesOf (first :: rest) map = (first, value) :: entriesOf rest map := by
            simp [entriesOf, present]
          have next : collect (entriesOf (first :: rest) map) known =
              collect (entriesOf rest map) (Function.update known first (some value)) := by rw [listed]; rfl
          rw [next, ih]
          by_cases same : key = first
          · subst same
            simp [present]
          · simp [same]

section Documents

variable (conv : Conversions)

/-! ## The documents -/

def asCategory (json : Json) : Checked NotificationCategory :=
  ofValue "NotificationCategory" NotificationCategory.spelling (json.str conv)

def asChannel (json : Json) : Checked DeliveryChannel :=
  ofValue "DeliveryChannel" DeliveryChannel.spelling (json.str conv)

def asCategories (name : String) (json : Json) : Checked (List NotificationCategory) := do
  (← asArray json name).mapM (asCategory conv)

def asChannels (name : String) (json : Json) : Checked (List DeliveryChannel) := do
  (← asArray json name).mapM (asChannel conv)

def Json.ofCategories (categories : List NotificationCategory) : Json :=
  .array (categories.map (.ofValue NotificationCategory.spelling))

def Json.ofChannels (channels : List DeliveryChannel) : Json :=
  .array (channels.map (.ofValue DeliveryChannel.spelling))

def topicToJson (topic : ResolvedTopic) : Json :=
  .object [("id", .ofUuid conv topic.id),
    ("slug", .string topic.slug),
    ("category", .ofValue NotificationCategory.spelling topic.category)]

def topicFromJson (json : Json) : Checked ResolvedTopic := do
  let data ← asObject json "topic"
  let id ← asUuid conv "topic.id" (.get data "id")
  let slug ← Json.require data "slug"
  let category ← asCategory conv (← Json.require data "category")
  return { id, slug := slug.str conv, category }

/-- The JSON object of the template variables is passed on as it is. -/
def variableMembers (mapping : Variables) : JsonObject :=
  mapping.map fun entry => (String.ofList entry.1, .value entry.2)

def asVariables (members : JsonObject) : Variables :=
  members.map fun member => (member.1.toList, member.2.leaf conv)

/-- `_payload_to_json`. None of the values its truth tests see is a false one. -/
def payloadToJson (payload : IntakePayload) : Json :=
  .object [("category", .nullable (.ofValue NotificationCategory.spelling) payload.category),
    ("topic", .nullable (topicToJson conv) payload.topic),
    ("channels", .nullable .ofChannels payload.channels),
    ("adhoc_channels", .nullable (fun channels => .ofChannels (sortedChannels channels)) payload.adhocChannels),
    ("template_id", .nullable (.ofUuid conv) payload.templateId),
    ("template_slug", .nullable .string payload.templateSlug),
    ("template_variables", .nullable (fun mapping => .object (variableMembers mapping)) payload.templateVariables),
    ("content", .nullable (fun content => .object content.toDict) payload.content),
    ("group_key", .nullable .string payload.groupKey),
    ("send_at", .nullable (.ofTime conv) payload.sendAt)]

def objectOrNull (name : String) : Json → Checked (Option JsonObject) :=
  Json.optional fun json =>
    match json with
    | .object members => .ok members
    | _ => .error (.valueError (name ++ " must be a JSON object or null"))

def payloadFromJson (json : Json) : Checked IntakePayload := do
  let data ← asObject json "payload"
  let rawVariables ← objectOrNull "payload.template_variables" (.get data "template_variables")
  let rawContent ← objectOrNull "payload.content" (.get data "content")
  let category ← (Json.get data "category").optional (asCategory conv)
  let topic ← (Json.get data "topic").optional (topicFromJson conv)
  let channels ← (Json.get data "channels").optional (asChannels conv "payload.channels")
  let adhocChannels ← (Json.get data "adhoc_channels").optional (asChannels conv "payload.adhoc_channels")
  let templateId ← (Json.get data "template_id").optional (asUuid conv "payload.template_id")
  let templateSlug ← (Json.get data "template_slug").optional (asText "template_slug")
  let content ← rawContent.mapM (NotificationContent.fromDict conv)
  let groupKey ← (Json.get data "group_key").optional (asText "group_key")
  let sendAt ← (Json.get data "send_at").optional (asDatetime conv "payload.send_at")
  IntakePayload.build {
    category, topic, channels
    adhocChannels := adhocChannels.map List.toFinset
    templateId, templateSlug
    templateVariables := rawVariables.map (asVariables conv)
    content, groupKey, sendAt }

def constraintsToJson (constraints : DecisionConstraints) : Json :=
  .object [("allowed_categories", .ofCategories (sortedCategories constraints.allowedCategories)),
    ("default_category", .ofValue NotificationCategory.spelling constraints.defaultCategory),
    ("channel_mode", .ofValue ChannelMode.spelling constraints.channelMode),
    ("feasible_channels", .ofChannels (sortedChannels constraints.feasibleChannels)),
    ("max_channels", .number constraints.maxChannels)]

/-- `_constraints_from_json`. A number below zero fails the same check as zero. -/
def constraintsFromJson (json : Json) : Checked DecisionConstraints := do
  let data ← asObject json "constraints"
  let allowedCategories ← asCategories conv "constraints.allowed_categories" (.get data "allowed_categories")
  let defaultCategory ← asCategory conv (← Json.require data "default_category")
  let channelMode ← asLiteral ChannelMode.spelling "channel_mode" (← Json.require data "channel_mode")
  let feasibleChannels ← asChannels conv "constraints.feasible_channels" (.get data "feasible_channels")
  let maxChannels ← (← Json.require data "max_channels").int conv
  DecisionConstraints.build {
    allowedCategories := allowedCategories.toFinset
    defaultCategory, channelMode
    feasibleChannels := feasibleChannels.toFinset
    maxChannels := maxChannels.toNat }

def sendTimeToJson (entry : DeliveryChannel × Timestamp) : String × Json := (entry.1.value, .ofTime conv entry.2)

def sendTimeFromJson (member : String × Json) : Checked (DeliveryChannel × Timestamp) := do
  let channel ← ofValue "DeliveryChannel" DeliveryChannel.spelling member.1.toList
  let time ← asDatetime conv ("plan.send_at." ++ member.1) member.2
  return (channel, time)

def planToJson (plan : NotificationPlan) : Json :=
  .object [("category", .ofValue NotificationCategory.spelling plan.category),
    ("category_source", .ofValue DecisionSource.spelling plan.categorySource),
    ("topic", .nullable (topicToJson conv) plan.topic),
    ("topic_source", .nullable (.ofValue DecisionSource.spelling) plan.topicSource),
    ("channels", .ofChannels plan.channels),
    ("channel_source", .ofValue ChannelSource.spelling plan.channelSource),
    ("send_at", .object ((entriesOf DeliveryChannel.byValue plan.sendAt).map (sendTimeToJson conv))),
    ("model_version", .nullable (fun version => .string version.toList) plan.modelVersion)]

def planFromJson (json : Json) : Checked NotificationPlan := do
  let data ← asObject json "plan"
  let rawSendAt ← asObject (.get data "send_at") "plan.send_at"
  let category ← asCategory conv (← Json.require data "category")
  let categorySource ← asLiteral DecisionSource.spelling "category_source" (← Json.require data "category_source")
  let topic ← (Json.get data "topic").optional (topicFromJson conv)
  let topicSource ← (Json.get data "topic_source").optional (asLiteral DecisionSource.spelling "topic_source")
  let channels ← asChannels conv "plan.channels" (.get data "channels")
  let channelSource ← asLiteral ChannelSource.spelling "channel_source" (← Json.require data "channel_source")
  let sendAt ← rawSendAt.mapM (sendTimeFromJson conv)
  let modelVersion ← (Json.get data "model_version").optional (asText "model_version")
  NotificationPlan.build {
    category, categorySource, topic, topicSource, channels, channelSource
    sendAt := collect sendAt fun _ => none
    modelVersion := modelVersion.map String.ofList }

/-! ## Every document is read back -/

variable {conv}

theorem asCategory_ofValue (category : NotificationCategory) :
    asCategory conv (.ofValue NotificationCategory.spelling category) = .ok category := ofValue_write _ _ _

theorem asChannel_ofValue (channel : DeliveryChannel) :
    asChannel conv (.ofValue DeliveryChannel.spelling channel) = .ok channel := ofValue_write _ _ _

theorem asCategories_ofCategories (name : String) (categories : List NotificationCategory) :
    asCategories conv name (.ofCategories categories) = .ok categories :=
  mapM_map_eq_ok fun category _ => asCategory_ofValue category

theorem asChannels_ofChannels (name : String) (channels : List DeliveryChannel) :
    asChannels conv name (.ofChannels channels) = .ok channels :=
  mapM_map_eq_ok fun channel _ => asChannel_ofValue channel

theorem topicFromJson_topicToJson (topic : ResolvedTopic) : topicFromJson conv (topicToJson conv topic) = .ok topic := by
  have members : topicFromJson conv (topicToJson conv topic) = (do
      let id ← asUuid conv "topic.id" (.ofUuid conv topic.id)
      let category ← asCategory conv (.ofValue NotificationCategory.spelling topic.category)
      return { id, slug := topic.slug, category }) := rfl
  rw [members, asUuid_ofUuid, asCategory_ofValue]
  rfl

theorem asVariables_members (mapping : Variables) : asVariables conv (variableMembers mapping) = mapping := by
  have entry : (fun member => (member.1.toList, Json.leaf conv member.2)) ∘
      (fun entry : Text × JsonValue => (String.ofList entry.1, Json.value entry.2)) = id := by
    funext entry
    exact Prod.ext String.toList_ofList rfl
  rw [asVariables, variableMembers, List.map_map, entry, List.map_id]

theorem objectOrNull_nullable {α : Type} (name : String) (members : α → JsonObject) (field : Option α) :
    objectOrNull name (.nullable (fun value => .object (members value)) field) = .ok (field.map members) := by
  cases field <;> rfl

theorem content_fromDict {content : Option NotificationContent}
    (admitted : ∀ value ∈ content, value.Admitted conv) :
    (content.map NotificationContent.toDict).mapM (NotificationContent.fromDict conv) = .ok content := by
  cases content with
  | none => rfl
  | some value =>
      rw [Option.map_some, Option.mapM_some, NotificationContent.fromDict_toDict (admitted value rfl)]
      rfl

theorem payloadFromJson_payloadToJson {payload : IntakePayload}
    (admitted : ∀ content ∈ payload.content, content.Admitted conv) :
    payloadFromJson conv (payloadToJson conv payload) = .ok payload := by
  have adhoc : Json.nullable (fun channels => .ofChannels (sortedChannels channels)) payload.adhocChannels =
      .nullable .ofChannels (payload.adhocChannels.map sortedChannels) := by
    cases payload.adhocChannels <;> rfl
  have members : payloadFromJson conv (payloadToJson conv payload) = (do
      let rawVariables ← objectOrNull "payload.template_variables"
        (.nullable (fun mapping => .object (variableMembers mapping)) payload.templateVariables)
      let rawContent ← objectOrNull "payload.content" (.nullable (fun content => .object content.toDict) payload.content)
      let category ← Json.optional (asCategory conv) (.nullable (.ofValue NotificationCategory.spelling) payload.category)
      let topic ← Json.optional (topicFromJson conv) (.nullable (topicToJson conv) payload.topic)
      let channels ← Json.optional (asChannels conv "payload.channels") (.nullable .ofChannels payload.channels)
      let adhocChannels ← Json.optional (asChannels conv "payload.adhoc_channels")
        (.nullable (fun channels => .ofChannels (sortedChannels channels)) payload.adhocChannels)
      let templateId ← Json.optional (asUuid conv "payload.template_id") (.nullable (.ofUuid conv) payload.templateId)
      let templateSlug ← Json.optional (asText "template_slug") (.nullable .string payload.templateSlug)
      let content ← rawContent.mapM (NotificationContent.fromDict conv)
      let groupKey ← Json.optional (asText "group_key") (.nullable .string payload.groupKey)
      let sendAt ← Json.optional (asDatetime conv "payload.send_at") (.nullable (.ofTime conv) payload.sendAt)
      IntakePayload.build {
        category, topic, channels
        adhocChannels := adhocChannels.map List.toFinset
        templateId, templateSlug
        templateVariables := rawVariables.map (asVariables conv)
        content, groupKey, sendAt }) := rfl
  rw [members, objectOrNull_nullable, objectOrNull_nullable,
    Json.optional_nullable (fun _ _ => rfl) fun category _ => asCategory_ofValue category,
    Json.optional_nullable (fun _ _ => rfl) fun topic _ => topicFromJson_topicToJson topic,
    Json.optional_nullable (fun _ _ => rfl) fun channels _ => asChannels_ofChannels _ channels,
    adhoc, Json.optional_nullable (fun _ _ => rfl) fun channels _ => asChannels_ofChannels _ channels,
    Json.optional_nullable (fun _ _ => rfl) fun id _ => asUuid_ofUuid conv _ id,
    optional_text, optional_text,
    Json.optional_nullable (fun _ _ => rfl) fun time _ => asDatetime_ofTime conv _ time]
  simp only [bind, Except.bind, content_fromDict admitted]
  have channels : (payload.adhocChannels.map sortedChannels).map List.toFinset = payload.adhocChannels := by
    cases payload.adhocChannels <;> simp [sortedChannels_toFinset]
  have mapping : (payload.templateVariables.map variableMembers).map (asVariables conv) = payload.templateVariables := by
    cases payload.templateVariables <;> simp [asVariables_members]
  rw [channels, mapping]
  exact IntakePayload.build_eq_ok.mpr rfl

theorem constraintsFromJson_constraintsToJson (constraints : DecisionConstraints) :
    constraintsFromJson conv (constraintsToJson constraints) = .ok constraints := by
  have members : constraintsFromJson conv (constraintsToJson constraints) = (do
      let allowedCategories ← asCategories conv "constraints.allowed_categories"
        (.ofCategories (sortedCategories constraints.allowedCategories))
      let defaultCategory ← asCategory conv (.ofValue NotificationCategory.spelling constraints.defaultCategory)
      let channelMode ← asLiteral ChannelMode.spelling "channel_mode" (.ofValue ChannelMode.spelling constraints.channelMode)
      let feasibleChannels ← asChannels conv "constraints.feasible_channels"
        (.ofChannels (sortedChannels constraints.feasibleChannels))
      DecisionConstraints.build {
        allowedCategories := allowedCategories.toFinset
        defaultCategory, channelMode
        feasibleChannels := feasibleChannels.toFinset
        maxChannels := constraints.maxChannels }) := rfl
  rw [members, asCategories_ofCategories, asCategory_ofValue, asLiteral_ofValue, asChannels_ofChannels]
  simp only [bind, Except.bind, sortedCategories_toFinset, sortedChannels_toFinset]
  exact DecisionConstraints.build_eq_ok.mpr rfl

theorem sendTimeFromJson_sendTimeToJson (entry : DeliveryChannel × Timestamp) :
    sendTimeFromJson conv (sendTimeToJson conv entry) = .ok entry := by
  have channel : ofValue "DeliveryChannel" DeliveryChannel.spelling entry.1.value.toList = .ok entry.1 :=
    ofValue_write _ _ _
  simp only [sendTimeToJson, sendTimeFromJson, channel, asDatetime_ofTime, bind, Except.bind]
  rfl

theorem planFromJson_planToJson (plan : NotificationPlan) : planFromJson conv (planToJson conv plan) = .ok plan := by
  have version : Json.nullable (fun version => .string version.toList) plan.modelVersion =
      .nullable .string (plan.modelVersion.map String.toList) := by cases plan.modelVersion <;> rfl
  have sendTimes : ((entriesOf DeliveryChannel.byValue plan.sendAt).map (sendTimeToJson conv)).mapM
      (sendTimeFromJson conv) = .ok (entriesOf DeliveryChannel.byValue plan.sendAt) :=
    mapM_map_eq_ok fun entry _ => sendTimeFromJson_sendTimeToJson entry
  have members : planFromJson conv (planToJson conv plan) = (do
      let category ← asCategory conv (.ofValue NotificationCategory.spelling plan.category)
      let categorySource ← asLiteral DecisionSource.spelling "category_source"
        (.ofValue DecisionSource.spelling plan.categorySource)
      let topic ← Json.optional (topicFromJson conv) (.nullable (topicToJson conv) plan.topic)
      let topicSource ← Json.optional (asLiteral DecisionSource.spelling "topic_source")
        (.nullable (.ofValue DecisionSource.spelling) plan.topicSource)
      let channels ← asChannels conv "plan.channels" (.ofChannels plan.channels)
      let channelSource ← asLiteral ChannelSource.spelling "channel_source"
        (.ofValue ChannelSource.spelling plan.channelSource)
      let sendAt ← ((entriesOf DeliveryChannel.byValue plan.sendAt).map (sendTimeToJson conv)).mapM
        (sendTimeFromJson conv)
      let modelVersion ← Json.optional (asText "model_version")
        (.nullable (fun version => .string version.toList) plan.modelVersion)
      NotificationPlan.build {
        category, categorySource, topic, topicSource, channels, channelSource
        sendAt := collect sendAt fun _ => none
        modelVersion := modelVersion.map String.ofList }) := rfl
  rw [members, asCategory_ofValue, asLiteral_ofValue,
    Json.optional_nullable (fun _ _ => rfl) fun topic _ => topicFromJson_topicToJson topic,
    Json.optional_nullable (fun _ _ => rfl) fun source _ => asLiteral_ofValue _ _ source,
    asChannels_ofChannels, asLiteral_ofValue, sendTimes, version, optional_text]
  simp only [bind, Except.bind]
  have times : (collect (entriesOf DeliveryChannel.byValue plan.sendAt) fun _ => none) = plan.sendAt := by
    funext channel
    rw [collect_entriesOf]
    cases planned : plan.sendAt channel with
    | none => simp
    | some time => simp [channel.mem_byValue]
  have versions : (plan.modelVersion.map String.toList).map String.ofList = plan.modelVersion := by
    cases plan.modelVersion <;> simp
  rw [times, versions]
  exact NotificationPlan.build_eq_ok.mpr rfl

end Documents

/-! ## The row -/

/-- Documents come back from their columns as they were stored; no plan is NULL, not a JSON null. -/
structure NotificationIntakeModel where
  id : Uuid
  projectId : Uuid
  transactionId : Uuid
  recipientId : Uuid
  requestFingerprint : String
  idempotencyKey : Option Text
  payload : Json
  constraints : Json
  plan : Option Json
  status : String
  attempts : Nat
  claimedAt : Option Instant
  completedAt : Option Instant
  failureReason : Option String
  createdAt : Instant
  updatedAt : Instant

namespace NotificationIntakeModel

variable (row : NotificationIntakeModel)

/-- Every CHECK of `__table_args__`; the one on attempts has nothing to reject. -/
structure Storable : Prop where
  payload : row.payload.isObject = true
  constraints : row.constraints.isObject = true
  plan : ∀ plan ∈ row.plan, plan.isObject = true
  processing : row.status = "processing" → row.claimedAt ≠ none
  received : row.status = "received" → row.plan = none ∧ row.claimedAt = none ∧ row.completedAt = none
  completed : row.status = "completed" → row.plan ≠ none ∧ row.completedAt ≠ none
  completedAt : row.completedAt ≠ none → row.status = "completed"
  failure : row.failureReason ≠ none ↔ row.status = "failed"

end NotificationIntakeModel

namespace NotificationIntake

variable (conv : Conversions)

def toModel (entity : NotificationIntake) : NotificationIntakeModel where
  id := entity.id
  projectId := entity.projectId
  transactionId := entity.transactionId
  recipientId := entity.recipientId
  requestFingerprint := entity.requestFingerprint
  idempotencyKey := entity.idempotencyKey
  payload := payloadToJson conv entity.payload
  constraints := constraintsToJson entity.constraints
  plan := entity.plan.map (planToJson conv)
  status := entity.status.value
  attempts := entity.attempts
  claimedAt := entity.claimedAt
  completedAt := entity.completedAt
  failureReason := entity.failureReason
  createdAt := entity.createdAt
  updatedAt := entity.updatedAt

def toEntity (model : NotificationIntakeModel) : Checked NotificationIntake := do
  let payload ← payloadFromJson conv model.payload
  let constraints ← constraintsFromJson conv model.constraints
  let status ← ofValue "IntakeStatus" IntakeStatus.spelling model.status.toList
  let plan ← model.plan.mapM (planFromJson conv)
  build {
    id := model.id
    projectId := model.projectId
    transactionId := model.transactionId
    recipientId := model.recipientId
    payload, constraints
    requestFingerprint := model.requestFingerprint
    idempotencyKey := model.idempotencyKey
    status, plan
    attempts := model.attempts
    claimedAt := model.claimedAt
    completedAt := model.completedAt
    failureReason := model.failureReason
    createdAt := model.createdAt
    updatedAt := model.updatedAt }

variable {conv}

/-- What the constructors let through: the entity's own fields say the rest. -/
def Admitted (conv : Conversions) (intake : NotificationIntake) : Prop :=
  ∀ content ∈ intake.payload.content, content.Admitted conv

theorem toEntity_row {intake : NotificationIntake} (admitted : intake.Admitted conv) :
    toEntity conv (intake.toModel conv) = .ok intake := by
  have status : ofValue "IntakeStatus" IntakeStatus.spelling intake.status.value.toList = .ok intake.status :=
    ofValue_write _ _ _
  have plan : (intake.plan.map (planToJson conv)).mapM (planFromJson conv) = .ok intake.plan := by
    cases intake.plan with
    | none => rfl
    | some plan =>
        rw [Option.map_some, Option.mapM_some, planFromJson_planToJson]
        rfl
  simp only [toEntity, toModel, payloadFromJson_payloadToJson admitted, constraintsFromJson_constraintsToJson,
    status, plan, bind, Except.bind]
  exact build_eq_ok.mpr rfl

/-- The entity's own invariants cover every CHECK. -/
theorem toModel_storable (intake : NotificationIntake) : (intake.toModel conv).Storable := by
  have named (status : IntakeStatus) (same : intake.status.value = status.value) : intake.status = status :=
    IntakeStatus.spelling.write_injective (congrArg String.toList same)
  have quiet := intake.quiet
  unfold NotificationIntakeFields.complaint at quiet
  split_ifs at quiet with _ early unclaimed unfinished finished unexplained explained
  simp only [not_and_or, not_or, not_not] at early unclaimed unfinished finished unexplained explained
  constructor
  case payload | constraints => rfl
  case plan =>
    intro document listed
    obtain ⟨plan, -, rfl⟩ := Option.mem_map.mp listed
    rfl
  case processing =>
    intro status
    exact unclaimed.resolve_left (not_not.mpr (named .processing status))
  case received =>
    intro status
    have received := named .received status
    obtain ⟨plan, claimedAt⟩ := early.resolve_left (not_not.mpr received)
    have completedAt := finished.resolve_left (by simp [received])
    exact ⟨by simpa [toModel] using plan, claimedAt, completedAt⟩
  case completed =>
    intro status
    obtain ⟨plan, completedAt⟩ := unfinished.resolve_left (not_not.mpr (named .completed status))
    exact ⟨by simpa [toModel] using plan, completedAt⟩
  case completedAt =>
    intro present
    exact congrArg IntakeStatus.value (finished.resolve_right present)
  case failure =>
    constructor
    · intro present
      exact congrArg IntakeStatus.value (explained.resolve_right present)
    · intro status missing
      have reason : intake.failureReason = none := missing
      rw [reason] at unexplained
      exact unexplained.resolve_left (not_not.mpr (named .failed status)) rfl

end NotificationIntake

end Tiber
