import Tiber.Api.CreateRequest
import Tiber.Api.Responses
import Tiber.Application.ProjectCalls

/-! The notification routes, from a request of an authorized project to its response.

The router's own dependency comes first: the limiter may stop a request before its parameters are looked at.
-/

set_option autoImplicit false

namespace Tiber

open Library

/-! ## Errors -/

def PyError.errorCode : PyError → String
  | .entityNotFound .. => "not_found_error"
  | .templateChannelMismatch .. => "template_channel_mismatch"
  | .templateRender _ => "template_render_failed"
  | .channelNotAvailable _ => "channel_not_available"
  | .ambiguousRecipient _ => "ambiguous_recipient"
  | .addressConflict _ => "address_conflict"
  | .recipientAddressTaken _ => "recipient_address_taken"
  | .intakeAlreadyExists => "intake_already_exists"
  | .projectScopeViolation .. => "project_scope_violated"
  | .idempotencyKeyConflict => "idempotency_key_conflict"
  | .invalidStateTransition .. => "invalid_state_transition"
  | .invalidEntityAttribute _ => "invalid_entity_attribute"
  | .valueError _ | .typeError _ | .attributeError _ | .raised .. => "internal_error"

def tiberErrorStatus : List (String × Nat) :=
  [("not_found_error", 404), ("invalid_entity_attribute", 422), ("invalid_state_transition", 409),
    ("idempotency_key_conflict", 409), ("project_name_conflict", 409), ("project_scope_violated", 403),
    ("template_channel_mismatch", 422), ("delivery_failed", 502), ("provider_unavailable", 503),
    ("rate_limiter_unavailable", 503)]

structure HttpException where
  statusCode : Nat
  detail : String
  deriving DecidableEq

structure ErrorResponse where
  error : String
  message : String
  status : Nat
  details : Option String := none
  deriving DecidableEq

/-- `tiber_exception_handler`, and `validation_exception_handler` for requests that are not valid. -/
def exceptionHandler (error : PyError) : ErrorResponse :=
  if error.isTiberError then
    { error := error.errorCode, message := error.text, status := (tiberErrorStatus.lookup error.errorCode).getD 500 }
  else if error.name = "RequestValidationError" then
    { error := "validation_error", message := "Request validation failed.", status := 422, details := some error.text }
  else { error := "internal_error", message := "An unexpected error occurred.", status := 500 }

/-- `tiber_exception_handler` on an `HTTPException`. -/
def HttpException.response (exception : HttpException) : ErrorResponse where
  error := "http_error"
  message := exception.detail
  status := exception.statusCode

/-- What the limiter of `enforce_authenticated_rate_limit` does with a request: the library's exceptions are
errors, `429` past the project's quota and whatever it makes of a Redis that does not answer. -/
inductive RateLimit where
  | passed
  | refused (exception : HttpException) (error : 400 ≤ exception.statusCode)
  | failed (error : PyError)

def RateLimit.stop : RateLimit → Option ErrorResponse
  | passed => none
  | refused exception _ => some exception.response
  | failed error => some (exceptionHandler error)

/-! ## Responses -/

inductive ApiBody where
  | empty
  | created (projectId transactionId : Uuid)
  | requestStatus (response : IntakeStatusResponse)
  | notification (response : NotificationResponse)
  | notifications (responses : List NotificationResponse)
  | error (response : ErrorResponse)

/-- The location is given by the path parameters it is made of. -/
structure ApiResponse where
  status : Nat
  body : ApiBody
  location : Option (Uuid × Uuid) := none
  idempotentReplayed : Bool := false

def ErrorResponse.response (error : ErrorResponse) : ApiResponse := { status := error.status, body := .error error }

/-! ## Routes -/

inductive ApiRequest where
  | createNotification (body : CreateBody) (idempotencyKey : Text) (minted : Minted)
  | getNotificationRequest (transactionId : Uuid)
  | getNotification (notificationId : Uuid)
  | listNotifications (limit offset : Int)
  | cancelNotification (notificationId : Uuid) (stamp : Instant)

structure Api where
  services : Services
  conv : Conversions
  types : AddressTypes

def requireParameter (name kind : String) (within : Bool) : Checked Unit :=
  if within then .ok () else .error (requestError name kind)

namespace Api

variable (api : Api) (projectId : Uuid)

def createNotification (body : CreateBody) (idempotencyKey : Text) (minted : Minted) : Call ApiResponse := do
  let request ← Program.lift (NotificationCreateRequest.parse api.types body)
  Program.lift (requireParameter "Idempotency-Key" "string_too_short" (!idempotencyKey.isEmpty))
  let command ← Program.lift (request.toAcceptCommand api.conv projectId idempotencyKey)
  let accepted ← acceptCall api.services.runtime command minted
  return {
    status := 202
    body := .created accepted.projectId accepted.transactionId
    location := some (accepted.projectId, accepted.transactionId)
    idempotentReplayed := accepted.replayed }

def getNotificationRequest (transactionId : Uuid) : Call ApiResponse := do
  let view ← getRequestStatusCall projectId transactionId
  let response ← Program.lift (IntakeStatusResponse.fromIntake view.intake view.notifications view.recipient)
  return { status := 200, body := .requestStatus response }

def getNotification (notificationId : Uuid) : Call ApiResponse := do
  let notification ← getNotificationCall projectId notificationId
  let response ← Program.lift (NotificationResponse.fromEntity notification none none none none)
  return { status := 200, body := .notification response }

/-- The driver sends `OFFSET` as a 32-bit integer. -/
def bindOffset (offset : Int) : Checked Unit :=
  if offset < 2 ^ 31 then .ok () else .error (.raised "DBAPIError" "value out of int32 range")

/-- A number of more than 4300 digits is not read. -/
def listNotifications (limit offset : Int) : Call ApiResponse := do
  Program.lift (requireParameter "limit" "greater_than_equal" (1 ≤ limit))
  Program.lift (requireParameter "limit" "less_than_equal" (limit ≤ 100))
  Program.lift (requireParameter "offset" "greater_than_equal" (0 ≤ offset))
  Program.lift (requireParameter "offset" "int_parsing_size" (offset < 10 ^ 4300))
  Program.lift (bindOffset offset)
  let notifications ← listNotificationsCall projectId limit.toNat offset.toNat
  let responses ← Program.lift (Tiber.listNotifications notifications)
  return { status := 200, body := .notifications responses }

def cancelNotification (notificationId : Uuid) (stamp : Instant) : Call ApiResponse := do
  cancelCall projectId notificationId stamp
  return { status := 204, body := .empty }

def handle : ApiRequest → Call ApiResponse
  | .createNotification body idempotencyKey minted => api.createNotification projectId body idempotencyKey minted
  | .getNotificationRequest transactionId => getNotificationRequest projectId transactionId
  | .getNotification notificationId => getNotification projectId notificationId
  | .listNotifications limit offset => listNotifications projectId limit offset
  | .cancelNotification notificationId stamp => cancelNotification projectId notificationId stamp

/-- The answer to a request that the limiter has let pass. -/
def respond (request : ApiRequest) (world : World) : ApiResponse :=
  match (api.handle projectId request).outcome world with
  | .ok response => response
  | .error error => (exceptionHandler error).response

def route (limit : RateLimit) (request : ApiRequest) (world : World) : ApiResponse × World :=
  match limit.stop with
  | some error => (error.response, world)
  | none => (api.respond projectId request world, (api.handle projectId request).final world)

end Api

end Tiber
