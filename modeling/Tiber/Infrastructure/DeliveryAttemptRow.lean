import Mathlib.Algebra.Group.Int.Defs
import Tiber.Application.Delivery

/-! The delivery_attempts table: the mapping of an attempt and the constraints of its row.

Python resolves attributes and keywords by name when the line runs. The mapping
uses one name the entity does not have, in both directions, so the outcome
transaction of a contact always rolls back.
-/

set_option autoImplicit false

namespace Tiber

open Library

/-! ## Names -/

inductive PyValue where
  | none
  | uuid (id : Uuid)
  | number (n : Int)
  | text (text : Text)
  | attemptStatus (status : DeliveryAttemptStatus)
  | channel (channel : DeliveryChannel)
  | instant (t : Instant)
  deriving DecidableEq

def PyValue.number? : PyValue → Option Int
  | number n => some n
  | _ => Option.none

/-- `type.name`, with the attributes of the instance. -/
def getAttribute (type : String) (attributes : List (String × PyValue)) (name : String) : Checked PyValue :=
  match attributes.lookup name with
  | some value => .ok value
  | none => .error (.attributeError ("'" ++ type ++ "' object has no attribute '" ++ name ++ "'"))

/-- A call by keywords, before its body runs. -/
def acceptKeywords (callee : String) (parameters keywords : List String) : Checked Unit :=
  match keywords.find? (· ∉ parameters) with
  | some name => .error (.typeError (callee ++ " got an unexpected keyword argument '" ++ name ++ "'"))
  | none => .ok ()

/-! ## The mapping -/

/-- A row, or an instance about to be flushed: the number may still be missing. -/
structure DeliveryAttemptModel where
  id : Uuid
  notificationId : Uuid
  attemptNumber : Option Int
  status : DeliveryAttemptStatus
  channel : DeliveryChannel
  provider : Text
  recipientAddress : Option Text
  providerMessageId : Option String
  error : Option String
  createdAt : Instant
  deriving DecidableEq

namespace DeliveryAttempt

def attributes (entity : DeliveryAttempt) : List (String × PyValue) :=
  let optional : Option Text → PyValue := fun
    | some text => .text text
    | none => .none
  [("id", .uuid entity.id), ("notification_id", .uuid entity.notificationId),
    ("status", .attemptStatus entity.status), ("channel", .channel entity.channel),
    ("provider", .text entity.provider), ("recipient_address", optional entity.recipientAddress),
    ("provider_message_id", optional (entity.providerMessageId.map String.toList)),
    ("error", optional (entity.error.map String.toList)), ("created_at", .instant entity.createdAt)]

def toModel (entity : DeliveryAttempt) : Checked DeliveryAttemptModel := do
  let attemptNumber ← getAttribute "DeliveryAttempt" entity.attributes "attempt_number"
  return {
    id := entity.id
    notificationId := entity.notificationId
    attemptNumber := attemptNumber.number?
    status := entity.status
    channel := entity.channel
    provider := entity.provider
    recipientAddress := entity.recipientAddress
    providerMessageId := entity.providerMessageId
    error := entity.error
    createdAt := entity.createdAt }

def reconstituteParameters : List String :=
  ["id", "notification_id", "status", "channel", "provider", "recipient_address", "provider_message_id",
    "error", "created_at"]

def reconstituteKeywords : List String :=
  ["id", "notification_id", "attempt_number", "status", "channel", "provider", "recipient_address",
    "provider_message_id", "error", "created_at"]

def toEntity (model : DeliveryAttemptModel) : Checked DeliveryAttempt := do
  acceptKeywords "DeliveryAttempt.reconstitute()" reconstituteParameters reconstituteKeywords
  build {
    id := model.id
    notificationId := model.notificationId
    status := model.status
    channel := model.channel
    provider := model.provider
    recipientAddress := model.recipientAddress
    providerMessageId := model.providerMessageId
    error := model.error
    createdAt := model.createdAt }

end DeliveryAttempt

structure DeliveryAttemptModel.Storable (stored : List DeliveryAttemptModel) (row : DeliveryAttemptModel) :
    Prop where
  id : ∀ other ∈ stored, other.id ≠ row.id
  attemptNumber : ∃ number ∈ row.attemptNumber, 0 < number ∧ number < 2 ^ 15
  numbered : ∀ other ∈ stored, other.notificationId = row.notificationId →
    other.attemptNumber ≠ row.attemptNumber
  provider : row.provider.length ≤ 100
  recipientAddress : ∀ address ∈ row.recipientAddress, address.length ≤ 255
  providerMessageId : ∀ identifier ∈ row.providerMessageId, identifier.length ≤ 255

/-- `SQLAlchemyDeliveryAttemptRepository.save`, over what the session's flush does with a row. -/
def DeliveryAttemptRepository.save (flush : DeliveryAttemptModel → Checked Unit) (attempt : DeliveryAttempt) :
    Checked Unit := do
  let model ← attempt.toModel
  flush model

/-- The worker's processor with the repository it is wired with. -/
def storedWorkerProcessor (provider : Text) (processingLease : Int)
    (flush : DeliveryAttemptModel → Checked Unit) : NotificationDeliveryProcessor :=
  workerProcessor provider processingLease (DeliveryAttemptRepository.save flush)

/-! ## Both directions fail on the name -/

/-- The attempt has a storable row that reads back as the attempt. -/
def DeliveryAttempt.Mapped (stored : List DeliveryAttemptModel) (attempt : DeliveryAttempt) : Prop :=
  ∃ row, attempt.toModel = .ok row ∧ row.Storable stored ∧ toEntity row = .ok attempt

theorem DeliveryAttempt.toModel_fails (attempt : DeliveryAttempt) :
    attempt.toModel = .error (.attributeError "'DeliveryAttempt' object has no attribute 'attempt_number'") := by
  have unknown : attempt.attributes.lookup "attempt_number" = none := rfl
  simp only [toModel, getAttribute, unknown]
  rfl

end Tiber
