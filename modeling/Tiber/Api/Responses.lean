import Tiber.Api.ContentModel
import Tiber.Domain.Recipient

/-! What a status query and a project listing answer with. -/

set_option autoImplicit false

namespace Tiber

open Library

def maskAddress (channel : DeliveryChannel) (address : Option Text) : Option Text :=
  match address with
  | none => none
  | some [] => none
  | some address =>
      match channel with
      | .email => some ((address.takeWhile (· ≠ '@')).take 1 ++ "***@".toList ++ (address.dropWhile (· ≠ '@')).tail)
      | .sms =>
          if 6 < address.length then some (address.take 2 ++ "***".toList ++ address.drop (address.length - 2))
          else some "***".toList
      | _ => none

structure NotificationResponse where
  id : Uuid
  projectId : Uuid
  transactionId : Uuid
  recipientId : Option Text
  channel : DeliveryChannel
  address : Option Text
  category : NotificationCategory
  templateSlug : Option Text
  topicSlug : Option Text
  groupKey : Option Text
  content : NotificationContentModel
  status : NotificationStatus
  sendAt : Option Instant
  sendTimeBasis : SendTimeBasis
  deliveredAt : Option Instant
  suppressionReason : Option String
  cancellationReason : Option String
  failureReason : Option String
  createdAt : Instant
  updatedAt : Instant

/-- `from_entity`: the content is validated again, the other fields have the types of the entity's. -/
def NotificationResponse.fromEntity (notification : Notification) (address recipientId templateSlug topicSlug : Option Text) :
    Checked NotificationResponse := do
  let content ← NotificationContentModel.validate notification.content.toDict
  return {
    id := notification.id
    projectId := notification.projectId
    transactionId := notification.transactionId
    recipientId
    channel := notification.channel
    address := maskAddress notification.channel address
    category := notification.category
    templateSlug, topicSlug
    groupKey := notification.groupKey
    content
    status := notification.status
    sendAt := notification.sendAt
    sendTimeBasis := notification.sendTimeBasis
    deliveredAt := notification.deliveredAt
    suppressionReason := notification.suppressionReason
    cancellationReason := notification.cancellationReason
    failureReason := notification.failureReason
    createdAt := notification.createdAt
    updatedAt := notification.updatedAt }

def listNotifications (notifications : List Notification) : Checked (List NotificationResponse) :=
  notifications.mapM fun notification => NotificationResponse.fromEntity notification none none none none

structure DecisionSummary where
  category : NotificationCategory
  categorySource : DecisionSource
  topicSlug : Option Text
  topicSource : Option DecisionSource
  channelSource : ChannelSource
  modelVersion : Option String

structure IntakeStatusResponse where
  transactionId : Uuid
  projectId : Uuid
  status : IntakeStatus
  failureReason : Option String
  decisions : Option DecisionSummary
  notifications : List NotificationResponse

namespace IntakeStatusResponse

def summary (plan : NotificationPlan) : DecisionSummary where
  category := plan.category
  categorySource := plan.categorySource
  topicSlug := plan.topic.map (·.slug)
  topicSource := plan.topicSource
  channelSource := plan.channelSource
  modelVersion := plan.modelVersion

/-- A child with its address, where the request supplied addresses, and its slugs, where they are still its own. -/
def fromChild (intake : NotificationIntake) (recipient : Recipient) (notification : Notification) :
    Checked NotificationResponse :=
  let topic := (intake.plan.bind (·.topic)).or intake.payload.topic
  NotificationResponse.fromEntity notification
    (if intake.constraints.channelMode = .addresses then recipient.addresses notification.channel else none)
    recipient.externalId
    (if notification.templateId ≠ none ∧ notification.templateId = intake.payload.templateId
      then intake.payload.templateSlug else none)
    ((topic.filter fun topic => notification.topicId = some topic.id).map (·.slug))

def fromIntake (intake : NotificationIntake) (notifications : List Notification) (recipient : Recipient) :
    Checked IntakeStatusResponse := do
  let responses ← notifications.mapM (fromChild intake recipient)
  return {
    transactionId := intake.transactionId
    projectId := intake.projectId
    status := intake.status
    failureReason := intake.failureReason
    decisions := intake.plan.map summary
    notifications := responses }

end IntakeStatusResponse

/-! ## When an answer can be built -/

theorem NotificationResponse.fromEntity_eq_ok {notification : Notification}
    {address recipientId templateSlug topicSlug : Option Text} {response : NotificationResponse}
    (made : fromEntity notification address recipientId templateSlug topicSlug = .ok response) :
    notification.content.Measured ∧ response.content = notification.content.trimmed := by
  obtain ⟨content, valid, made⟩ := Checked.bind_eq_ok.mp made
  cases made
  exact NotificationContentModel.validate_toDict.mp valid

theorem NotificationResponse.fromEntity_isOk {notification : Notification}
    {address recipientId templateSlug topicSlug : Option Text} :
    (∃ response, fromEntity notification address recipientId templateSlug topicSlug = .ok response) ↔
      notification.content.Measured := by
  constructor
  · rintro ⟨response, made⟩
    exact (fromEntity_eq_ok made).1
  · intro measured
    rw [fromEntity, NotificationContentModel.validate_toDict.mpr ⟨measured, rfl⟩]
    exact ⟨_, rfl⟩

/-- A status query is answered exactly when every child's content is within the bounds, and shows it stripped. -/
theorem IntakeStatusResponse.fromIntake_isOk {intake : NotificationIntake} {notifications : List Notification}
    {recipient : Recipient} :
    (∃ response, fromIntake intake notifications recipient = .ok response ∧
      response.notifications.map (·.content) = notifications.map (·.content.trimmed)) ↔
      ∀ notification ∈ notifications, notification.content.Measured := by
  constructor
  · rintro ⟨response, made, -⟩ notification listed
    obtain ⟨responses, each, -⟩ := Checked.bind_eq_ok.mp made
    obtain ⟨shown, -, done⟩ := mapM_has each listed
    exact (NotificationResponse.fromEntity_eq_ok done).1
  · intro measured
    obtain ⟨responses, each⟩ := (mapM_isOk_iff (fromChild intake recipient) notifications).mpr fun notification listed =>
      NotificationResponse.fromEntity_isOk.mpr (measured notification listed)
    refine ⟨_, by rw [fromIntake, each]; rfl, ?_⟩
    -- the responses in step with the children they were made from
    have paired := mapM_eq_ok each
    clear each
    induction paired with
    | nil => rfl
    | cons first _ ih =>
        rw [List.map_cons, List.map_cons, (NotificationResponse.fromEntity_eq_ok first).2]
        exact congrArg _ (ih fun notification later => measured notification (.tail _ later))

theorem listNotifications_isOk {notifications : List Notification} :
    (∃ responses, listNotifications notifications = .ok responses) ↔
      ∀ notification ∈ notifications, notification.content.Measured :=
  (mapM_isOk_iff _ notifications).trans (forall₂_congr fun _ _ => NotificationResponse.fromEntity_isOk)

/-! ## Responses that cannot be built -/

/-- Whatever fails in a model's validation is a `ValidationError`, which no handler expects. -/
def Checked.Validating {α : Type} (checked : Checked α) : Prop :=
  ∀ error, checked = .error error → ∃ message, error = .raised "ValidationError" message

namespace Checked.Validating

variable {α β : Type}

theorem ok (value : α) : Validating (.ok value) := fun _ failed => by cases failed

theorem error (field kind : String) : Validating (.error (validationError field kind) : Checked α) := by
  rintro _ ⟨⟩
  exact ⟨_, rfl⟩

theorem bind {first : Checked α} {next : α → Checked β} (start : first.Validating) (rest : ∀ value, (next value).Validating) :
    Validating (first >>= next) := by
  intro error failed
  cases ran : first with
  | error stop =>
      rw [ran] at failed
      cases failed
      exact start _ ran
  | ok value =>
      rw [ran] at failed
      exact rest value error failed

theorem map {checked : Checked α} (f : α → β) (start : checked.Validating) : Validating (checked.map f) := by
  cases checked with
  | ok value => exact ok _
  | error stop =>
      rintro _ ⟨⟩
      exact start stop rfl

theorem mapM {f : α → Checked β} (each : ∀ item, (f item).Validating) (items : List α) : Validating (items.mapM f) := by
  intro error failed
  obtain ⟨-, item, -, -, -, stop⟩ := mapM_error failed
  exact each item error stop

theorem strField (field : String) (maxLength : Option Nat) (json : Json) :
    Validating (Tiber.strField field maxLength json) := by
  unfold Tiber.strField
  split
  · split
    · exact error _ _
    · split
      · exact error _ _
      · exact ok _
  · exact error _ _

theorem nullableField (field : String) (maxLength : Option Nat) (members : JsonObject) :
    Validating (Tiber.nullableField field maxLength members) := by
  unfold Tiber.nullableField Json.optional
  split
  · exact ok none
  · exact map some (strField _ _ _)

theorem requiredField (field : String) (members : JsonObject) : Validating (Tiber.requiredField field members) := by
  unfold Tiber.requiredField
  split
  · exact strField _ _ _
  · exact error _ _

theorem listField {validate : Json → Checked α} (each : ∀ json, (validate json).Validating) (field : String)
    (members : JsonObject) : Validating (Tiber.listField field validate members) := by
  unfold Tiber.listField
  split
  · exact mapM each _
  · exact error _ _

theorem forbidExtra (fields : List String) (members : JsonObject) : Validating (Tiber.forbidExtra fields members) := by
  unfold Tiber.forbidExtra
  split
  · exact error _ _
  · exact ok _

theorem action (json : Json) : Validating (ContentActionModel.validate json) := by
  unfold ContentActionModel.validate
  split
  · apply bind (forbidExtra _ _)
    intro _
    apply bind (requiredField _ _)
    intro _
    apply bind (requiredField _ _)
    exact fun _ => ok _
  · exact error _ _

theorem image (json : Json) : Validating (ContentImageModel.validate json) := by
  unfold ContentImageModel.validate
  split
  · apply bind (forbidExtra _ _)
    intro _
    apply bind (requiredField _ _)
    intro _
    apply bind (nullableField _ _ _)
    exact fun _ => ok _
  · exact error _ _

theorem content (members : JsonObject) : Validating (NotificationContentModel.validate members) := by
  unfold NotificationContentModel.validate
  apply bind (forbidExtra _ _)
  intro _
  apply bind (nullableField _ _ _)
  intro _
  apply bind (requiredField _ _)
  intro _
  apply bind (listField action _ _)
  intro _
  apply bind (listField image _ _)
  exact fun _ => ok _

theorem fromEntity (notification : Notification) (address recipientId templateSlug topicSlug : Option Text) :
    Validating (NotificationResponse.fromEntity notification address recipientId templateSlug topicSlug) := by
  unfold NotificationResponse.fromEntity
  apply bind (content _)
  exact fun _ => ok _

theorem listNotifications (notifications : List Notification) : Validating (Tiber.listNotifications notifications) :=
  mapM (fun _ => fromEntity _ _ _ _ _) notifications

theorem fromIntake (intake : NotificationIntake) (notifications : List Notification) (recipient : Recipient) :
    Validating (IntakeStatusResponse.fromIntake intake notifications recipient) := by
  unfold IntakeStatusResponse.fromIntake
  apply bind (mapM (fun _ => fromEntity _ _ _ _ _) _)
  exact fun _ => ok _

end Checked.Validating

end Tiber
