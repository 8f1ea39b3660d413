import Tiber.Api.ContentModel
import Tiber.Application.Accept

/-! A create request on the API wire, and the command it becomes.

Each field has been read as its declared type; what its annotation asks of a text is checked here, and
what the validators ask. Addresses are checked by the library.
-/

set_option autoImplicit false

namespace Tiber

open Library

/-- A body whose members have the declared types. -/
structure CreateBody where
  recipientId : Option Text := none
  channels : Option (List DeliveryChannel) := none
  email : Option Text := none
  sms : Option Text := none
  push : Option Text := none
  inApp : Option Text := none
  category : Option NotificationCategory := none
  groupKey : Option Text := none
  topicSlug : Option Text := none
  templateSlug : Option Text := none
  templateVariables : Option Variables := none
  content : Option JsonObject := none
  sendAt : Option Timestamp := none

/-- `EmailStr`, and the pattern of phone numbers. -/
structure AddressTypes where
  email : Text → Option Text
  phone : Text → Bool

def requestError (field kind : String) : PyError := .raised "RequestValidationError" (field ++ ": " ++ kind)

def inRequest {α : Type} (checked : Checked α) : Checked α :=
  checked.mapError fun error => .raised "RequestValidationError" error.text

def optionalText (field : String) (maxLength : Option Nat) (given : Option Text) : Checked (Option Text) :=
  given.mapM fun text => inRequest (strField field maxLength (.string text))

structure NotificationCreateFields where
  recipientId : Option Text
  channels : Option (List DeliveryChannel)
  email : Option Text
  sms : Option Text
  push : Option Text
  inApp : Option Text
  category : Option NotificationCategory
  groupKey : Option Text
  topicSlug : Option Text
  templateSlug : Option Text
  templateVariables : Option Variables
  content : Option NotificationContentModel
  sendAt : Option Timestamp

def NotificationCreateFields.addressMap (fields : NotificationCreateFields) : Addresses
  | .email => fields.email
  | .sms => fields.sms
  | .push => fields.push
  | .inApp => fields.inApp

structure NotificationCreateFields.WellFormed (fields : NotificationCreateFields) : Prop where
  addressed : fields.recipientId = none ↔ fields.addressMap.channels ≠ ∅
  selected : ∀ listed ∈ fields.channels, fields.recipientId ≠ none ∧ listed ≠ [] ∧ listed.Nodup
  said : fields.templateSlug = none → fields.content ≠ none ∧ fields.templateVariables = none
  immediate : fields.category = some .critical → fields.sendAt = none
  aware : ∀ time ∈ fields.sendAt, time.instant?.isSome = true

structure NotificationCreateRequest extends NotificationCreateFields where
  wellFormed : toNotificationCreateFields.WellFormed

namespace NotificationCreateRequest

/-- `_validate_channels`, behind `min_length=1`. The recipient is looked up among the fields that were found
valid. -/
def validateChannels (recipientId : Checked (Option Text)) : Option (List DeliveryChannel) → Checked Unit
  | none => .ok ()
  | some [] => .error (requestError "channels" "too_short")
  | some listed =>
      match recipientId with
      | .error _ => .error (.raised "KeyError" "'recipient_id'")
      | .ok none => .error (requestError "channels" ("`channels` can only be used with `recipient_id`. " ++
          "For channel addresses, omit the ones you don't want delivered to."))
      | .ok (some _) =>
          if listed.Nodup then .ok () else .error (requestError "channels" "`channels` must not contain duplicates.")

def validateSendAt (sendAt : Option Timestamp) : Checked Unit :=
  if ∀ time ∈ sendAt, time.instant?.isSome = true then .ok ()
  else .error (requestError "send_at" "`send_at` must be timezone-aware (UTC or other)")

def emailField (types : AddressTypes) (text : Text) : Checked Text :=
  match types.email (Text.trim text) with
  | none => .error (requestError "email" "value_error")
  | some address => .ok address

def phoneField (types : AddressTypes) (text : Text) : Checked Text := do
  let number ← inRequest (strField "sms" none (.string text))
  if types.phone number then .ok number else .error (requestError "sms" "string_pattern_mismatch")

def validateRequest (fields : NotificationCreateFields) : Checked Unit :=
  let adhoc := fields.addressMap.channels
  if fields.recipientId ≠ none ∧ adhoc ≠ ∅ then
    .error (requestError "" "Provide either `recipient_id` or channel addresses, not both.")
  else if fields.recipientId = none ∧ adhoc = ∅ then
    .error (requestError "" "Provide `recipient_id` or at least one channel address.")
  else if fields.templateSlug = none ∧ fields.content = none then
    .error (requestError "" "Provide `content` when `template_slug` is not set.")
  else if fields.templateVariables ≠ none ∧ fields.templateSlug = none then
    .error (requestError "" "`template_variables` requires `template_slug`.")
  else if fields.category = some .critical ∧ fields.sendAt ≠ none then
    .error (requestError "" "`send_at` must not be set for CRITICAL notifications. They are sent immediately.")
  else .ok ()

/-- The fields in their order, then the request as a whole. A failed validation names one field here, the library
names all that fail. -/
def validate (types : AddressTypes) (body : CreateBody) : Checked NotificationCreateFields := do
  let named := optionalText "recipient_id" none body.recipientId
  validateChannels named body.channels
  let recipientId ← named
  let email ← body.email.mapM (emailField types)
  let sms ← body.sms.mapM (phoneField types)
  let push ← optionalText "push" none body.push
  let inApp ← optionalText "in_app" none body.inApp
  let groupKey ← optionalText "group_key" (some 255) body.groupKey
  let topicSlug ← optionalText "topic_slug" none body.topicSlug
  let templateSlug ← optionalText "template_slug" none body.templateSlug
  let content ← body.content.mapM fun members => inRequest (NotificationContentModel.validate members)
  validateSendAt body.sendAt
  let fields : NotificationCreateFields := {
    recipientId, email, sms, push, inApp, groupKey, topicSlug, templateSlug, content
    channels := body.channels
    category := body.category
    templateVariables := body.templateVariables
    sendAt := body.sendAt }
  validateRequest fields
  return fields

/-! ## What a valid request is -/

theorem validateChannels_eq_ok {recipientId : Option Text} {channels : Option (List DeliveryChannel)}
    (valid : validateChannels (.ok recipientId) channels = .ok ()) :
    ∀ listed ∈ channels, recipientId ≠ none ∧ listed ≠ [] ∧ listed.Nodup := by
  rintro listed ⟨⟩
  unfold validateChannels at valid
  cases listed with
  | nil => cases valid
  | cons first rest =>
      cases recipientId with
      | none => cases valid
      | some named =>
          dsimp only at valid
          split at valid
          · rename_i distinct
            exact ⟨Option.some_ne_none named, List.cons_ne_nil first rest, distinct⟩
          · cases valid

theorem validateSendAt_eq_ok {sendAt : Option Timestamp} (valid : validateSendAt sendAt = .ok ()) :
    ∀ time ∈ sendAt, time.instant?.isSome = true := by
  unfold validateSendAt at valid
  split at valid
  · assumption
  · cases valid

theorem validateRequest_eq_ok {fields : NotificationCreateFields} (valid : validateRequest fields = .ok ()) :
    (fields.recipientId = none ↔ fields.addressMap.channels ≠ ∅) ∧
      (fields.templateSlug = none → fields.content ≠ none ∧ fields.templateVariables = none) ∧
      (fields.category = some .critical → fields.sendAt = none) := by
  unfold validateRequest at valid
  dsimp only at valid
  split at valid
  · cases valid
  split at valid
  · cases valid
  split at valid
  · cases valid
  split at valid
  · cases valid
  split at valid
  · cases valid
  rename_i both neither said unused late
  refine ⟨⟨fun unnamed reachable => ?_, fun reachable => ?_⟩, fun direct => ⟨fun unsaid => ?_, ?_⟩, fun urgent => ?_⟩
  · exact neither ⟨unnamed, reachable⟩
  · exact not_not.mp fun named => both ⟨named, reachable⟩
  · exact said ⟨direct, unsaid⟩
  · exact not_not.mp fun given => unused ⟨given, direct⟩
  · exact not_not.mp fun given => late ⟨urgent, given⟩

theorem validate_wellFormed {types : AddressTypes} {body : CreateBody} {fields : NotificationCreateFields}
    (valid : validate types body = .ok fields) : fields.WellFormed := by
  unfold validate at valid
  dsimp only at valid
  obtain ⟨_, channels, valid⟩ := Checked.bind_eq_ok.mp valid
  obtain ⟨recipientId, named, valid⟩ := Checked.bind_eq_ok.mp valid
  obtain ⟨email, -, valid⟩ := Checked.bind_eq_ok.mp valid
  obtain ⟨sms, -, valid⟩ := Checked.bind_eq_ok.mp valid
  obtain ⟨push, -, valid⟩ := Checked.bind_eq_ok.mp valid
  obtain ⟨inApp, -, valid⟩ := Checked.bind_eq_ok.mp valid
  obtain ⟨groupKey, -, valid⟩ := Checked.bind_eq_ok.mp valid
  obtain ⟨topicSlug, -, valid⟩ := Checked.bind_eq_ok.mp valid
  obtain ⟨templateSlug, -, valid⟩ := Checked.bind_eq_ok.mp valid
  obtain ⟨content, -, valid⟩ := Checked.bind_eq_ok.mp valid
  obtain ⟨_, timely, valid⟩ := Checked.bind_eq_ok.mp valid
  obtain ⟨_, whole, made⟩ := Checked.bind_eq_ok.mp valid
  obtain ⟨addressed, said, immediate⟩ := validateRequest_eq_ok whole
  rw [named] at channels
  cases made
  exact ⟨addressed, validateChannels_eq_ok channels, said, immediate, validateSendAt_eq_ok timely⟩

/-- `NotificationCreateRequest(**body)` -/
def parse (types : AddressTypes) (body : CreateBody) : Checked NotificationCreateRequest :=
  match valid : validate types body with
  | .error error => .error error
  | .ok fields => .ok ⟨fields, validate_wellFormed valid⟩

def toAcceptCommand (conv : Conversions) (request : NotificationCreateRequest) (projectId : Uuid) (idempotencyKey : Text) :
    Checked AcceptNotificationCommand := do
  let content ← request.content.mapM (NotificationContentModel.toDomain conv)
  return {
    projectId
    recipientId := request.recipientId
    addresses := request.addressMap
    channels := request.channels
    category := request.category
    topicSlug := request.topicSlug
    templateSlug := request.templateSlug
    templateVariables := request.templateVariables
    content
    groupKey := request.groupKey
    sendAt := request.sendAt
    idempotencyKey := some idempotencyKey }

end NotificationCreateRequest

end Tiber
