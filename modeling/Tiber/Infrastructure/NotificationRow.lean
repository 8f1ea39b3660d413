import Tiber.Domain.Notification

/-! The notifications table: the row of an entity, and the CHECK constraints. -/

set_option autoImplicit false

namespace Tiber

open Library

inductive Jsonb where
  | object (entries : Variables)
  | array (items : List Variables)
  deriving DecidableEq

def Jsonb.typeOf : Jsonb → String
  | object _ => "object"
  | array _ => "array"

structure NotificationModel where
  id : Uuid
  projectId : Uuid
  recipientId : Uuid
  templateId : Option Uuid
  topicId : Option Uuid
  transactionId : Uuid
  channel : DeliveryChannel
  category : NotificationCategory
  status : NotificationStatus
  idempotencyKey : Option Text
  groupKey : Option Text
  subject : Option Text
  body : Text
  actions : Jsonb
  images : Jsonb
  templateVariables : Option Jsonb
  sendAt : Option Instant
  sendTimeBasis : SendTimeBasis
  suppressionReason : Option String
  cancellationReason : Option String
  failureReason : Option String
  deliveredAt : Option Instant
  createdAt : Instant
  updatedAt : Instant
  deriving DecidableEq

def ContentAction.toJson (action : ContentAction) : Variables :=
  [("label".toList, .string action.label), ("url".toList, .string action.url)]

def ContentImage.toJson (image : ContentImage) : Variables :=
  [("url".toList, .string image.url),
    ("alt".toList, match image.alt with
      | some alt => .string alt
      | none => .null)]

def Notification.toModel (entity : Notification) : NotificationModel where
  id := entity.id
  projectId := entity.projectId
  recipientId := entity.recipientId
  templateId := entity.templateId
  topicId := entity.topicId
  transactionId := entity.transactionId
  channel := entity.channel
  category := entity.category
  status := entity.status
  idempotencyKey := entity.idempotencyKey
  groupKey := entity.groupKey
  subject := entity.content.title
  body := entity.content.body
  actions := .array (entity.content.actions.map ContentAction.toJson)
  images := .array (entity.content.images.map ContentImage.toJson)
  templateVariables := entity.templateVariables.map .object
  sendAt := entity.sendAt
  sendTimeBasis := entity.sendTimeBasis
  suppressionReason := entity.suppressionReason
  cancellationReason := entity.cancellationReason
  failureReason := entity.failureReason
  deliveredAt := entity.deliveredAt
  createdAt := entity.createdAt
  updatedAt := entity.updatedAt

/-! ## CHECK constraints -/

namespace NotificationModel

variable (row : NotificationModel)

def templateVariablesCheck : Prop := row.templateVariables = none ∨ ∃ value ∈ row.templateVariables, value.typeOf = "object"

def actionsCheck : Prop := row.actions.typeOf = "array"

def imagesCheck : Prop := row.images.typeOf = "array"

def suppressionReasonCheck : Prop :=
  row.status = .suppressed ∧ row.suppressionReason ≠ none ∨
    row.status ≠ .suppressed ∧ row.suppressionReason = none

def subjectCheck : Prop :=
  row.channel = .email ∧ row.subject ≠ none ∨ row.channel ≠ .email ∧ row.subject = none

def failureReasonCheck : Prop :=
  (row.status = .failed ∨ row.status = .bounced) ∧ row.failureReason ≠ none ∨
    ¬ (row.status = .failed ∨ row.status = .bounced) ∧ row.failureReason = none

def postponedSendAtCheck : Prop :=
  row.status = .postponed ∧ row.sendAt ≠ none ∨ row.status ≠ .postponed

/-- Every CHECK of `__table_args__`. -/
structure Storable : Prop where
  templateVariables : row.templateVariablesCheck
  actions : row.actionsCheck
  images : row.imagesCheck
  suppressionReason : row.suppressionReasonCheck
  subject : row.subjectCheck
  failureReason : row.failureReasonCheck
  postponedSendAt : row.postponedSendAtCheck

end NotificationModel

theorem filled_exactly {α : Type} {certain : Prop} {column : Option α} :
    certain ∧ column ≠ none ∨ ¬ certain ∧ column = none ↔ (certain ↔ column ≠ none) := by
  constructor
  · intro spelled
    rcases spelled with ⟨holds, filled⟩ | ⟨fails, empty⟩
    · exact iff_of_true holds filled
    · exact iff_of_false fails (not_not_intro empty)
  · intro exactly
    by_cases holds : certain
    · exact .inl ⟨holds, exactly.mp holds⟩
    · exact .inr ⟨holds, not_not.mp fun filled => holds (exactly.mpr filled)⟩

/-- The entity's own invariants cover every CHECK but the one on the subject. -/
theorem Notification.toModel_storable_iff (entity : Notification) :
    entity.toModel.Storable ↔ (entity.channel = .email ↔ entity.content.title ≠ none) := by
  obtain ⟨suppressed, -, failed, -, postponed⟩ := entity.consistent
  simp only [Option.isSome_iff_ne_none] at suppressed failed postponed
  have subject : entity.toModel.subjectCheck ↔ (entity.channel = .email ↔ entity.content.title ≠ none) := by
    unfold NotificationModel.subjectCheck
    simp only [toModel]
    exact filled_exactly
  rw [← subject]
  refine ⟨fun storable => storable.subject, fun checked => ⟨?_, rfl, rfl, ?_, checked, ?_, ?_⟩⟩
  · unfold NotificationModel.templateVariablesCheck
    simp only [toModel]
    cases entity.templateVariables with
    | none => exact .inl rfl
    | some mapping => exact .inr ⟨_, rfl, rfl⟩
  · unfold NotificationModel.suppressionReasonCheck
    simp only [toModel]
    exact filled_exactly.mpr suppressed
  · unfold NotificationModel.failureReasonCheck
    simp only [toModel]
    exact filled_exactly.mpr failed
  · unfold NotificationModel.postponedSendAtCheck
    simp only [toModel]
    by_cases waiting : entity.status = .postponed
    · exact .inl ⟨waiting, postponed waiting⟩
    · exact .inr waiting

end Tiber
