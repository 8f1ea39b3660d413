import Tiber.Api.NotificationRouter
import Tiber.System.IntakeReload
import Tiber.System.Reading

/-! What the notification routes answer at the end of a history, and what they have done then.

Every response is one that `Answers` allows. Its cases are apart from each other, so a status says
which of them it was, and a response with an error has changed nothing.
-/

set_option autoImplicit false

namespace Tiber

open Library

/-! ## Looking up a notification -/

def NotificationFields.Named (row : NotificationFields) (projectId notificationId : Uuid) : Prop :=
  row.projectId = projectId ∧ row.id = notificationId

theorem find?_named {rows : List NotificationFields} {notificationId : Uuid} {row : NotificationFields}
    (found : rows.find? (fun row => row.id = notificationId) = some row) : row ∈ rows ∧ row.id = notificationId := by
  have named := List.find?_some found
  rw [decide_eq_true_eq] at named
  exact ⟨List.mem_of_find?_eq_some found, named⟩

theorem Tables.notificationById_absent {tables : Tables} {notificationId projectId : Uuid}
    (absent : ∀ row ∈ tables.notifications, ¬ row.Named projectId notificationId) :
    tables.notificationById notificationId projectId = .ok none := by
  have nothing : ((tables.notifications.find? fun row => row.id = notificationId).filter
      fun row => row.projectId = projectId) = none := by
    cases found : tables.notifications.find? fun row => row.id = notificationId with
    | none => rfl
    | some row =>
        obtain ⟨stored, named⟩ := find?_named found
        rw [Option.filter_some, if_neg]
        intro own
        exact absent row stored ⟨of_decide_eq_true own, named⟩
  unfold notificationById
  rw [nothing]
  rfl

theorem Tables.notificationById_stored {tables : Tables} {row : NotificationFields}
    (unique : (tables.notifications.map (·.id)).Nodup) (stored : row ∈ tables.notifications) (whole : row.Consistent) :
    tables.notificationById row.id row.projectId = .ok (some ⟨row, whole⟩) := by
  have found : (tables.notifications.find? fun known => known.id = row.id) = some row := by
    cases found : tables.notifications.find? fun known => known.id = row.id with
    | none => exact absurd (decide_eq_true rfl) (List.find?_eq_none.mp found row stored)
    | some other =>
        obtain ⟨there, same⟩ := find?_named found
        rw [List.inj_on_of_nodup_map unique there stored same]
  have built : Notification.build row = .ok ⟨row, whole⟩ := Notification.build_eq_ok.mpr rfl
  unfold notificationById
  rw [found, Option.filter_some, if_pos (decide_eq_true rfl), Option.mapM_some, built]
  rfl

theorem getNotificationCall_absent {world : World} {projectId notificationId : Uuid}
    (absent : ∀ row ∈ world.notifications, ¬ row.Named projectId notificationId) :
    getNotificationCall projectId notificationId world =
      (.error (.entityNotFound "Notification" (uuidText notificationId)), world) := by
  have nothing := Tables.notificationById_absent absent
  simp only [getNotificationCall, Bind.bind, Call.find, Program.statement, nothing, Except.map, Program.fail]

theorem getNotificationCall_stored {world : World} {row : NotificationFields}
    (unique : (world.notifications.map (·.id)).Nodup) (stored : row ∈ world.notifications) (whole : row.Consistent) :
    getNotificationCall row.projectId row.id world = (.ok ⟨row, whole⟩, world) := by
  have found := Tables.notificationById_stored unique stored whole
  simp only [getNotificationCall, Bind.bind, Call.find, Program.statement, found, Except.map]
  rw [if_neg (not_not.mpr rfl)]
  rfl

/-! ## Cancelling -/

section Cancelling

variable {world : World} {projectId notificationId : Uuid} {row : NotificationFields} (stamp : Instant)

def NotificationFields.cancelled (row : NotificationFields) (stamp : Instant) : NotificationFields :=
  { row with status := .cancelled, cancellationReason := none, updatedAt := stamp }

theorem NotificationFields.cancelled_consistent (whole : row.Consistent) (pending : row.status = .pending) :
    (row.cancelled stamp).Consistent := by
  unfold Consistent cancelled at *
  rw [pending] at whole
  simp_all

theorem cancelCall_absent (absent : ∀ row ∈ world.notifications, ¬ row.Named projectId notificationId) :
    cancelCall projectId notificationId stamp world =
      (.error (.entityNotFound "Notification" (uuidText notificationId)), world) := by
  have nothing := Tables.notificationById_absent absent
  unfold cancelCall Program.transaction
  simp only [Bind.bind, Call.find, Program.statement, nothing, Except.map, Program.fail]

theorem cancelCall_late (unique : (world.notifications.map (·.id)).Nodup) (stored : row ∈ world.notifications)
    (whole : row.Consistent) (late : row.status ≠ .pending) :
    cancelCall row.projectId row.id stamp world =
      (.error (.invalidStateTransition row.status.value NotificationStatus.cancelled.value), world) := by
  have found := Tables.notificationById_stored unique stored whole
  have refused : Notification.markCancelled ⟨row, whole⟩ none stamp =
      .error (.invalidStateTransition row.status.value NotificationStatus.cancelled.value) := by
    unfold Notification.markCancelled Notification.requireStatus
    rw [if_neg fun legal => late (List.mem_singleton.mp legal)]
    rfl
  unfold cancelCall Program.transaction
  simp only [Bind.bind, Call.find, Program.statement, found, Except.map, Program.lift, refused]

theorem cancelCall_pending (unique : (world.notifications.map (·.id)).Nodup) (stored : row ∈ world.notifications)
    (whole : row.Consistent) (pending : row.status = .pending) :
    cancelCall row.projectId row.id stamp world = (.ok (), { world with
      notifications := upsert (·.id) (row.cancelled stamp) world.notifications }) := by
  have found := Tables.notificationById_stored unique stored whole
  have marked : Notification.markCancelled ⟨row, whole⟩ none stamp =
      .ok ⟨row.cancelled stamp, NotificationFields.cancelled_consistent stamp whole pending⟩ :=
    Notification.markCancelled_eq_ok.mpr ⟨pending, rfl⟩
  -- the conditional UPDATE meets the row that was read
  have written : world.cancelPending ⟨row.cancelled stamp, NotificationFields.cancelled_consistent stamp whole pending⟩ =
      (true, { world with notifications := upsert (·.id) (row.cancelled stamp) world.notifications }) := by
    have target : world.targetOf ⟨row.cancelled stamp, NotificationFields.cancelled_consistent stamp whole pending⟩ =
        some row := by
      cases held : world.targetOf ⟨row.cancelled stamp, NotificationFields.cancelled_consistent stamp whole pending⟩ with
      | none => exact absurd (decide_eq_true ⟨rfl, rfl⟩) (List.find?_eq_none.mp held row stored)
      | some other =>
          obtain ⟨there, -, same⟩ := World.targetOf_eq_some held
          rw [List.inj_on_of_nodup_map unique there stored same]
    unfold World.cancelPending
    rw [target, Option.bind_some, cancelPending, if_pos pending]
    rfl
  unfold cancelCall Program.transaction
  simp only [Bind.bind, Call.find, Program.statement, found, Except.map, Program.lift, marked, written]
  rfl

end Cancelling

/-! ## The answers -/

def Api.asked (api : Api) (projectId : Uuid) (body : CreateBody) (idempotencyKey : Text) :
    Checked AcceptNotificationCommand := do
  let request ← NotificationCreateRequest.parse api.types body
  requireParameter "Idempotency-Key" "string_too_short" (!idempotencyKey.isEmpty)
  request.toAcceptCommand api.conv projectId idempotencyKey

/-- The `202`, with its `Location` and whether it is `Idempotent-Replayed`. -/
def ApiResponse.accepted (projectId transactionId : Uuid) (replayed : Bool) : ApiResponse where
  status := 202
  body := .created projectId transactionId
  location := some (projectId, transactionId)
  idempotentReplayed := replayed

def ApiResponse.keyTaken : ApiResponse := (exceptionHandler .idempotencyKeyConflict).response

def ApiResponse.notFound (entityName : String) (id : Uuid) : ApiResponse :=
  (exceptionHandler (.entityNotFound entityName (uuidText id))).response

def ApiResponse.notPending (status : NotificationStatus) : ApiResponse :=
  (exceptionHandler (.invalidStateTransition status.value NotificationStatus.cancelled.value)).response

def ApiResponse.unexpected : ApiResponse :=
  ErrorResponse.response { error := "internal_error", message := "An unexpected error occurred.", status := 500 }

theorem ApiResponse.keyTaken_status : keyTaken.status = 409 := rfl

def Tables.Page (tables : Tables) (projectId : Uuid) (limit offset : Nat) (page : List Notification) : Prop :=
  page.map (·.toNotificationFields) = (((tables.notifications.filter fun row => row.projectId = projectId).insertionSort
    NotificationFields.Newer).drop offset).take limit

/-- What a response says of the world before the request and of the world behind it. -/
inductive Api.Answers (api : Api) (projectId : Uuid) (world : World) : ApiRequest → ApiResponse → World → Prop where
  | invalid {body : CreateBody} {idempotencyKey : Text} {minted : Minted} {error : PyError}
      (asked : api.asked projectId body idempotencyKey = .error error) :
      Answers api projectId world (.createNotification body idempotencyKey minted) (exceptionHandler error).response world
  | replayed {body : CreateBody} {idempotencyKey : Text} {minted : Minted} {command : AcceptNotificationCommand}
      {intake : NotificationIntake} (asked : api.asked projectId body idempotencyKey = .ok command)
      (stored : intake ∈ world.intakes) (keyed : intake.Keyed projectId idempotencyKey)
      (same : intake.requestFingerprint = api.services.runtime.fingerprint command) :
      Answers api projectId world (.createNotification body idempotencyKey minted)
        (.accepted projectId intake.transactionId true) world
  | conflicting {body : CreateBody} {idempotencyKey : Text} {minted : Minted} {command : AcceptNotificationCommand}
      {intake : NotificationIntake} (asked : api.asked projectId body idempotencyKey = .ok command)
      (stored : intake ∈ world.intakes) (keyed : intake.Keyed projectId idempotencyKey)
      (differs : intake.requestFingerprint ≠ api.services.runtime.fingerprint command) :
      Answers api projectId world (.createNotification body idempotencyKey minted) .keyTaken world
  | created {body : CreateBody} {idempotencyKey : Text} {minted : Minted} {command : AcceptNotificationCommand}
      {transactionId : Uuid} {next : World} (asked : api.asked projectId body idempotencyKey = .ok command)
      (unkeyed : ∀ intake ∈ world.intakes, ¬ intake.Keyed projectId idempotencyKey)
      (accepts : Accepts world api.services.runtime command ⟨transactionId, projectId, false⟩ next) :
      Answers api projectId world (.createNotification body idempotencyKey minted)
        (.accepted projectId transactionId false) next
  | refused {body : CreateBody} {idempotencyKey : Text} {minted : Minted} {command : AcceptNotificationCommand}
      {response : ApiResponse} (asked : api.asked projectId body idempotencyKey = .ok command)
      (unkeyed : ∀ intake ∈ world.intakes, ¬ intake.Keyed projectId idempotencyKey)
      (failed : response.status ∈ [403, 404, 409, 422, 500]) :
      Answers api projectId world (.createNotification body idempotencyKey minted) response world
  | request {transactionId : Uuid} {view : NotificationRequestView} {response : IntakeStatusResponse}
      (truthful : view.Truthful world projectId transactionId)
      (shown : IntakeStatusResponse.fromIntake view.intake view.notifications view.recipient = .ok response) :
      Answers api projectId world (.getNotificationRequest transactionId)
        { status := 200, body := .requestStatus response } world
  | requestUnshown {transactionId : Uuid} {view : NotificationRequestView}
      (truthful : view.Truthful world projectId transactionId)
      (unshown : ∃ notification ∈ view.notifications, ¬ notification.content.Measured) :
      Answers api projectId world (.getNotificationRequest transactionId) .unexpected world
  | requestMissing {transactionId : Uuid}
      (missing : ∀ intake ∈ world.intakes, ¬ (intake.projectId = projectId ∧ intake.transactionId = transactionId)) :
      Answers api projectId world (.getNotificationRequest transactionId) (.notFound "NotificationIntake" transactionId) world
  | recipientMissing {transactionId : Uuid} {intake : NotificationIntake} (stored : intake ∈ world.intakes)
      (named : intake.projectId = projectId ∧ intake.transactionId = transactionId)
      (missing : world.recipientById intake.recipientId projectId = none) :
      Answers api projectId world (.getNotificationRequest transactionId) (.notFound "Recipient" intake.recipientId) world
  | notification {notificationId : Uuid} {notification : Notification} {response : NotificationResponse}
      (stored : notification.toNotificationFields ∈ world.notifications) (named : notification.Named projectId notificationId)
      (shown : NotificationResponse.fromEntity notification none none none none = .ok response) :
      Answers api projectId world (.getNotification notificationId) { status := 200, body := .notification response } world
  | notificationUnshown {notificationId : Uuid} {row : NotificationFields} (stored : row ∈ world.notifications)
      (named : row.Named projectId notificationId) (unshown : ¬ row.content.Measured) :
      Answers api projectId world (.getNotification notificationId) .unexpected world
  | notificationMissing {notificationId : Uuid}
      (missing : ∀ row ∈ world.notifications, ¬ row.Named projectId notificationId) :
      Answers api projectId world (.getNotification notificationId) (.notFound "Notification" notificationId) world
  | page {limit offset : Nat} {page : List Notification} {responses : List NotificationResponse}
      (bounds : 1 ≤ limit ∧ limit ≤ 100 ∧ offset < 2 ^ 31) (listed : world.Page projectId limit offset page)
      (shown : Tiber.listNotifications page = .ok responses) :
      Answers api projectId world (.listNotifications limit offset) { status := 200, body := .notifications responses } world
  | pageUnshown {limit offset : Nat} {page : List Notification} (bounds : 1 ≤ limit ∧ limit ≤ 100 ∧ offset < 2 ^ 31)
      (listed : world.Page projectId limit offset page)
      (unshown : ∃ notification ∈ page, ¬ notification.content.Measured) :
      Answers api projectId world (.listNotifications limit offset) .unexpected world
  | pageUnbounded {limit offset : Int} {response : ApiResponse}
      (invalid : limit < 1 ∨ 100 < limit ∨ offset < 0 ∨ 10 ^ 4300 ≤ offset) (told : response.status = 422) :
      Answers api projectId world (.listNotifications limit offset) response world
  | pageUnbound {limit offset : Int} (bounds : 1 ≤ limit ∧ limit ≤ 100)
      (beyond : 2 ^ 31 ≤ offset ∧ offset < 10 ^ 4300) :
      Answers api projectId world (.listNotifications limit offset) .unexpected world
  | cancelled {notificationId : Uuid} {stamp : Instant} {row : NotificationFields} (stored : row ∈ world.notifications)
      (named : row.Named projectId notificationId) (pending : row.status = .pending) :
      Answers api projectId world (.cancelNotification notificationId stamp) { status := 204, body := .empty }
        { world with notifications := upsert (·.id) (row.cancelled stamp) world.notifications }
  | cancelledLate {notificationId : Uuid} {stamp : Instant} {row : NotificationFields} (stored : row ∈ world.notifications)
      (named : row.Named projectId notificationId) (late : row.status ≠ .pending) :
      Answers api projectId world (.cancelNotification notificationId stamp) (.notPending row.status) world
  | cancelledMissing {notificationId : Uuid} {stamp : Instant}
      (missing : ∀ row ∈ world.notifications, ¬ row.Named projectId notificationId) :
      Answers api projectId world (.cancelNotification notificationId stamp) (.notFound "Notification" notificationId) world

/-- The limiter stops a request, and nothing is done for it; or the route answers. -/
inductive Api.Routes (api : Api) (projectId : Uuid) (world : World) (limit : RateLimit) (request : ApiRequest) :
    ApiResponse → World → Prop where
  | stopped {error : ErrorResponse} (stops : limit.stop = some error) :
      Routes api projectId world limit request error.response world
  | answered {response : ApiResponse} {next : World} (passes : limit.stop = none)
      (answers : api.Answers projectId world request response next) :
      Routes api projectId world limit request response next

def ApiRequest.writes : ApiRequest → Bool
  | createNotification .. | cancelNotification .. => true
  | getNotificationRequest _ | getNotification _ | listNotifications .. => false

theorem Api.Answers.quiet {api : Api} {projectId : Uuid} {world next : World} {request : ApiRequest} {response : ApiResponse}
    (answers : api.Answers projectId world request response next) (reads : request.writes = false) : next = world := by
  cases answers with
  | created | cancelled => cases reads
  | _ => rfl

theorem exceptionHandler_status (error : PyError) : (exceptionHandler error).status ∈ [403, 404, 409, 422, 500] := by
  cases error with
  | raised name message =>
      unfold exceptionHandler
      rw [if_neg (show ¬ (PyError.raised name message).isTiberError = true from Bool.false_ne_true)]
      split <;> simp
  | _ => exact List.elem_iff.mp rfl

theorem Accepts.projectId {start next : World} {runtime : Runtime} {command : AcceptNotificationCommand}
    {answer : AcceptedIntake} (accepts : Accepts start runtime command answer next) :
    answer.projectId = command.projectId := by
  cases accepts with
  | replayed named stored keyed same => exact keyed.1
  | created new fresh free => exact new.project

theorem NotificationCreateRequest.toAcceptCommand_eq_ok {conv : Conversions} {request : NotificationCreateRequest}
    {projectId : Uuid} {idempotencyKey : Text} {command : AcceptNotificationCommand}
    (made : request.toAcceptCommand conv projectId idempotencyKey = .ok command) :
    command.projectId = projectId ∧ command.idempotencyKey = some idempotencyKey := by
  obtain ⟨content, -, made⟩ := Checked.bind_eq_ok.mp made
  cases made
  exact ⟨rfl, rfl⟩

theorem ApiResponse.unexpected_eq (message : String) :
    (exceptionHandler (.raised "ValidationError" message)).response = unexpected := rfl

namespace Api

variable {api : Api} {projectId : Uuid} {world next : World} {request : ApiRequest}

theorem answers_ok {response : ApiResponse} (ran : api.handle projectId request world = (.ok response, next))
    (allowed : api.Answers projectId world request response next) :
    api.Answers projectId world request (api.respond projectId request world)
      ((api.handle projectId request).final world) := by
  unfold respond Program.outcome Program.final
  rw [ran]
  exact allowed

theorem answers_error {error : PyError} {response : ApiResponse}
    (ran : api.handle projectId request world = (.error error, next))
    (handled : (exceptionHandler error).response = response) (allowed : api.Answers projectId world request response next) :
    api.Answers projectId world request (api.respond projectId request world)
      ((api.handle projectId request).final world) := by
  subst handled
  unfold respond Program.outcome Program.final
  rw [ran]
  exact allowed

theorem createNotification_eq (body : CreateBody) (idempotencyKey : Text) (minted : Minted) :
    api.handle projectId (.createNotification body idempotencyKey minted) = (do
      let command ← Program.lift (api.asked projectId body idempotencyKey)
      let accepted ← acceptCall api.services.runtime command minted
      return .accepted accepted.projectId accepted.transactionId accepted.replayed : Call ApiResponse) := by
  simp only [handle, createNotification, asked]
  cases NotificationCreateRequest.parse api.types body with
  | error error => rfl
  | ok request =>
      cases requireParameter "Idempotency-Key" "string_too_short" (!idempotencyKey.isEmpty) with
      | error error => rfl
      | ok _ => rfl

theorem asked_eq_ok {body : CreateBody} {idempotencyKey : Text} {command : AcceptNotificationCommand}
    (asked : api.asked projectId body idempotencyKey = .ok command) :
    command.projectId = projectId ∧ command.idempotencyKey = some idempotencyKey := by
  obtain ⟨request, -, asked⟩ := Checked.bind_eq_ok.mp asked
  obtain ⟨_, -, made⟩ := Checked.bind_eq_ok.mp asked
  exact NotificationCreateRequest.toAcceptCommand_eq_ok made

section

variable {body : CreateBody} {idempotencyKey : Text} {minted : Minted} {command : AcceptNotificationCommand}

theorem create_ok {answer : AcceptedIntake} (asked : api.asked projectId body idempotencyKey = .ok command)
    (ran : acceptCall api.services.runtime command minted world = (.ok answer, next)) :
    api.handle projectId (.createNotification body idempotencyKey minted) world =
      (.ok (.accepted answer.projectId answer.transactionId answer.replayed), next) := by
  rw [createNotification_eq, asked]
  exact Program.bind_ok ran

theorem create_error {error : PyError} (asked : api.asked projectId body idempotencyKey = .ok command)
    (ran : acceptCall api.services.runtime command minted world = (.error error, next)) :
    api.handle projectId (.createNotification body idempotencyKey minted) world = (.error error, next) := by
  rw [createNotification_eq, asked]
  have read : Program.lift (Except.ok command) world = ((Except.ok command : Checked _), world) := rfl
  exact (Program.bind_ok read).trans (Program.bind_error ran)

theorem createNotification_answers (body : CreateBody) (idempotencyKey : Text) (minted : Minted) :
    api.Answers projectId world (.createNotification body idempotencyKey minted)
      (api.respond projectId (.createNotification body idempotencyKey minted) world)
      ((api.handle projectId (.createNotification body idempotencyKey minted)).final world) := by
  cases asked : api.asked projectId body idempotencyKey with
  | error error =>
      have stopped : api.handle projectId (.createNotification body idempotencyKey minted) world = (.error error, world) := by
        rw [createNotification_eq, asked]
        rfl
      exact answers_error stopped rfl (.invalid asked)
  | ok command =>
      obtain ⟨own, key⟩ := asked_eq_ok asked
      subst own
      cases found : replay api.services.runtime world.intakes command with
      | error error =>
          obtain ⟨rfl, _, named, intake, stored, keyed, differs⟩ := replay_eq_error found
          obtain rfl := Option.some.inj (key.symm.trans named)
          exact answers_error (create_error asked (acceptCall_conflicting found minted)) rfl
            (.conflicting asked stored keyed differs)
      | ok known =>
          cases known with
          | some answer =>
              have ran := create_ok asked (acceptCall_known found minted)
              obtain ⟨_, named, intake, stored, keyed, same, rfl⟩ := replay_eq_known found
              obtain rfl := Option.some.inj (key.symm.trans named)
              rw [keyed.1] at ran
              exact answers_ok ran (.replayed asked stored keyed same)
          | none =>
              have unkeyed := replay_eq_none found key
              obtain ⟨returned, failed⟩ := acceptCall_accepts api.services.runtime command minted world world rfl
              unfold Program.outcome Program.final at returned failed
              rcases ran : acceptCall api.services.runtime command minted world with ⟨error | answer, next⟩
              · rw [ran] at failed
                obtain rfl := failed error rfl
                exact answers_error (create_error asked ran) rfl (.refused asked unkeyed (exceptionHandler_status error))
              · rw [ran] at returned
                have accepts := returned answer rfl
                have fresh : answer.replayed = false := by
                  cases accepts with
                  | replayed named stored keyed =>
                      obtain rfl := Option.some.inj (key.symm.trans named)
                      exact absurd keyed (unkeyed _ stored)
                  | created => rfl
                have same : answer = ⟨answer.transactionId, command.projectId, false⟩ := by
                  rw [← fresh, ← accepts.projectId]
                have done := create_ok asked ran
                rw [same] at done accepts
                exact answers_ok done (.created asked unkeyed accepts)

end

theorem getNotificationRequest_answers (reached : world.Reached api.services) (transactionId : Uuid) :
    api.Answers projectId world (.getNotificationRequest transactionId)
      (api.respond projectId (.getNotificationRequest transactionId) world)
      ((api.handle projectId (.getNotificationRequest transactionId)).final world) := by
  have status := reached.status projectId transactionId
  have quiet := (getRequestStatusCall_reads projectId transactionId world).final rfl
  unfold Program.outcome at status
  unfold Program.final at quiet
  rcases ran : getRequestStatusCall projectId transactionId world with ⟨error | view, next⟩ <;> rw [ran] at status quiet
  · obtain rfl : next = world := quiet
    have stopped : api.handle projectId (.getNotificationRequest transactionId) next = (.error error, next) := by
      simp only [handle, getNotificationRequest, Bind.bind, ran]
    rcases status with ⟨missing, rfl⟩ | ⟨intake, stored, own, named, missing, rfl⟩
    · exact answers_error stopped rfl (.requestMissing missing)
    · exact answers_error stopped rfl (.recipientMissing stored ⟨own, named⟩ missing)
  · obtain rfl : next = world := quiet
    have built : api.handle projectId (.getNotificationRequest transactionId) next =
        ((IntakeStatusResponse.fromIntake view.intake view.notifications view.recipient).map fun response =>
          { status := 200, body := .requestStatus response }, next) := Program.checked_apply ran
    cases shown : IntakeStatusResponse.fromIntake view.intake view.notifications view.recipient with
    | ok response =>
        rw [shown] at built
        exact answers_ok built (.request status shown)
    | error error =>
        rw [shown] at built
        obtain ⟨message, rfl⟩ := Checked.Validating.fromIntake _ _ _ _ shown
        refine answers_error built (ApiResponse.unexpected_eq message) (.requestUnshown status ?_)
        by_contra all
        push Not at all
        obtain ⟨response, made, -⟩ := IntakeStatusResponse.fromIntake_isOk.mpr all
        rw [shown] at made
        cases made

theorem getNotification_answers (reached : world.Reached api.services) (notificationId : Uuid) :
    api.Answers projectId world (.getNotification notificationId)
      (api.respond projectId (.getNotification notificationId) world)
      ((api.handle projectId (.getNotification notificationId)).final world) := by
  by_cases known : ∃ row ∈ world.notifications, row.Named projectId notificationId
  · obtain ⟨row, stored, named⟩ := known
    obtain ⟨rfl, rfl⟩ := named
    have whole := reached.whole row stored
    have built : api.handle row.projectId (.getNotification row.id) world =
        ((NotificationResponse.fromEntity ⟨row, whole⟩ none none none none).map fun response =>
          { status := 200, body := .notification response }, world) :=
      Program.checked_apply (getNotificationCall_stored reached.keyed.notifications stored whole)
    cases shown : NotificationResponse.fromEntity ⟨row, whole⟩ none none none none with
    | ok response =>
        rw [shown] at built
        exact answers_ok built (.notification stored ⟨rfl, rfl⟩ shown)
    | error error =>
        rw [shown] at built
        obtain ⟨message, rfl⟩ := Checked.Validating.fromEntity _ _ _ _ _ _ shown
        refine answers_error built (ApiResponse.unexpected_eq message) (.notificationUnshown stored ⟨rfl, rfl⟩ ?_)
        intro (measured : (Notification.mk row whole).content.Measured)
        obtain ⟨response, made⟩ := NotificationResponse.fromEntity_isOk.mpr measured
        rw [shown] at made
        cases made
  · push Not at known
    have stopped : api.handle projectId (.getNotification notificationId) world =
        (.error (.entityNotFound "Notification" (uuidText notificationId)), world) :=
      Program.bind_error (getNotificationCall_absent known)
    exact answers_error stopped rfl (.notificationMissing known)

theorem cancelNotification_answers (reached : world.Reached api.services) (notificationId : Uuid) (stamp : Instant) :
    api.Answers projectId world (.cancelNotification notificationId stamp)
      (api.respond projectId (.cancelNotification notificationId stamp) world)
      ((api.handle projectId (.cancelNotification notificationId stamp)).final world) := by
  by_cases known : ∃ row ∈ world.notifications, row.Named projectId notificationId
  · obtain ⟨row, stored, named⟩ := known
    obtain ⟨rfl, rfl⟩ := named
    have whole := reached.whole row stored
    by_cases pending : row.status = .pending
    · have done : api.handle row.projectId (.cancelNotification row.id stamp) world =
          (.ok { status := 204, body := .empty },
            { world with notifications := upsert (·.id) (row.cancelled stamp) world.notifications }) :=
        Program.bind_ok (cancelCall_pending stamp reached.keyed.notifications stored whole pending)
      exact answers_ok done (.cancelled stored ⟨rfl, rfl⟩ pending)
    · have stopped : api.handle row.projectId (.cancelNotification row.id stamp) world =
          (.error (.invalidStateTransition row.status.value NotificationStatus.cancelled.value), world) :=
        Program.bind_error (cancelCall_late stamp reached.keyed.notifications stored whole pending)
      exact answers_error stopped rfl (.cancelledLate stored ⟨rfl, rfl⟩ pending)
  · push Not at known
    have stopped : api.handle projectId (.cancelNotification notificationId stamp) world =
        (.error (.entityNotFound "Notification" (uuidText notificationId)), world) :=
      Program.bind_error (cancelCall_absent stamp known)
    exact answers_error stopped rfl (.cancelledMissing known)

theorem requireParameter_true {name kind : String} {within : Bool} (met : within = true) :
    requireParameter name kind within = .ok () := if_pos met

theorem requireParameter_false {name kind : String} {within : Bool} (unmet : within = false) :
    requireParameter name kind within = .error (requestError name kind) := by
  rw [requireParameter, if_neg (by rw [unmet]; exact Bool.false_ne_true)]

theorem listNotifications_unbounded {limit offset : Int}
    (invalid : limit < 1 ∨ 100 < limit ∨ offset < 0 ∨ 10 ^ 4300 ≤ offset) :
    ∃ name kind, api.handle projectId (.listNotifications limit offset) world = (.error (requestError name kind), world) := by
  simp only [handle, listNotifications]
  by_cases low : 1 ≤ limit
  · by_cases high : limit ≤ 100
    · rw [requireParameter_true (decide_eq_true low), requireParameter_true (decide_eq_true high)]
      by_cases ahead : 0 ≤ offset
      · have long : ¬ offset < 10 ^ 4300 :=
          Int.not_lt.mpr ((((invalid.resolve_left (Int.not_lt.mpr low)).resolve_left (Int.not_lt.mpr high)).resolve_left
            (Int.not_lt.mpr ahead)))
        refine ⟨"offset", "int_parsing_size", ?_⟩
        rw [requireParameter_true (decide_eq_true ahead), requireParameter_false (decide_eq_false long)]
        rfl
      · refine ⟨"offset", "greater_than_equal", ?_⟩
        rw [requireParameter_false (decide_eq_false ahead)]
        rfl
    · refine ⟨"limit", "less_than_equal", ?_⟩
      rw [requireParameter_true (decide_eq_true low), requireParameter_false (decide_eq_false high)]
      rfl
  · refine ⟨"limit", "greater_than_equal", ?_⟩
    rw [requireParameter_false (decide_eq_false low)]
    rfl

theorem listNotifications_read {limit offset : Int} (bounds : 1 ≤ limit ∧ limit ≤ 100) (ahead : 0 ≤ offset)
    (short : offset < 10 ^ 4300) :
    api.handle projectId (.listNotifications limit offset) world =
      (do
        Program.lift (bindOffset offset)
        let notifications ← listNotificationsCall projectId limit.toNat offset.toNat
        let responses ← Program.lift (Tiber.listNotifications notifications)
        return { status := 200, body := .notifications responses } : Call ApiResponse) world := by
  simp only [handle, listNotifications]
  rw [requireParameter_true (decide_eq_true bounds.1), requireParameter_true (decide_eq_true bounds.2),
    requireParameter_true (decide_eq_true ahead), requireParameter_true (decide_eq_true short)]
  rfl

theorem listNotifications_unbound {limit offset : Int} (bounds : 1 ≤ limit ∧ limit ≤ 100)
    (beyond : 2 ^ 31 ≤ offset ∧ offset < 10 ^ 4300) :
    api.handle projectId (.listNotifications limit offset) world =
      (.error (.raised "DBAPIError" "value out of int32 range"), world) := by
  have ahead : 0 ≤ offset := Int.le_trans (by decide) beyond.1
  rw [listNotifications_read bounds ahead beyond.2, bindOffset, if_neg (Int.not_lt.mpr beyond.1)]
  rfl

theorem two_pow_lt_ten_pow : (2 : Int) ^ 31 ≤ 10 ^ 4300 :=
  Int.le_trans (by decide : (2 : Int) ^ 31 ≤ 10 ^ 10) (pow_le_pow_right₀ (by decide) (by decide))

theorem listNotifications_bounded {limit offset : Nat} (bounds : 1 ≤ limit ∧ limit ≤ 100 ∧ offset < 2 ^ 31) :
    api.handle projectId (.listNotifications limit offset) world =
      (do
        let notifications ← listNotificationsCall projectId limit offset
        let responses ← Program.lift (Tiber.listNotifications notifications)
        return { status := 200, body := .notifications responses } : Call ApiResponse) world := by
  obtain ⟨low, high, near⟩ := bounds
  have near : (offset : Int) < 2 ^ 31 := by exact_mod_cast near
  rw [listNotifications_read ⟨by omega, by omega⟩ (Int.natCast_nonneg offset) (Int.lt_of_lt_of_le near two_pow_lt_ten_pow),
    bindOffset, if_pos near]
  rfl

theorem listNotifications_answers (reached : world.Reached api.services) (limit offset : Int) :
    api.Answers projectId world (.listNotifications limit offset)
      (api.respond projectId (.listNotifications limit offset) world)
      ((api.handle projectId (.listNotifications limit offset)).final world) := by
  by_cases invalid : limit < 1 ∨ 100 < limit ∨ offset < 0 ∨ 10 ^ 4300 ≤ offset
  · have refused : ∃ name kind, api.handle projectId (.listNotifications limit offset) world =
        (.error (requestError name kind), world) := listNotifications_unbounded invalid
    obtain ⟨name, kind, stopped⟩ := refused
    exact answers_error stopped rfl (.pageUnbounded invalid rfl)
  · simp only [not_or, Int.not_lt, Int.not_le] at invalid
    obtain ⟨low, high, ahead, short⟩ := invalid
    by_cases beyond : 2 ^ 31 ≤ offset
    · exact answers_error (listNotifications_unbound ⟨low, high⟩ ⟨beyond, short⟩) rfl
        (.pageUnbound ⟨low, high⟩ ⟨beyond, short⟩)
    · obtain ⟨size, rfl⟩ := Int.eq_ofNat_of_zero_le (show 0 ≤ limit by omega)
      obtain ⟨start, rfl⟩ := Int.eq_ofNat_of_zero_le ahead
      have near : start < 2 ^ 31 := by exact_mod_cast Int.not_le.mp beyond
      have bounds : 1 ≤ size ∧ size ≤ 100 ∧ start < 2 ^ 31 := ⟨by omega, by omega, near⟩
      obtain ⟨page, ran, listed⟩ := reached.whole.listNotificationsCall projectId size start
      have built : api.handle projectId (.listNotifications size start) world =
          ((Tiber.listNotifications page).map fun responses => { status := 200, body := .notifications responses }, world) :=
        (listNotifications_bounded bounds).trans (Program.checked_apply ran)
      cases shown : Tiber.listNotifications page with
      | ok responses =>
          rw [shown] at built
          exact answers_ok built (.page bounds listed shown)
      | error error =>
          rw [shown] at built
          obtain ⟨message, rfl⟩ := Checked.Validating.listNotifications _ _ shown
          refine answers_error built (ApiResponse.unexpected_eq message) (.pageUnshown bounds listed ?_)
          by_contra all
          push Not at all
          obtain ⟨responses, made⟩ := listNotifications_isOk.mpr all
          rw [shown] at made
          cases made

/-- What a request that the limiter lets pass is answered with, and what it has done then. -/
theorem handle_answers (reached : world.Reached api.services) (projectId : Uuid) (request : ApiRequest) :
    api.Answers projectId world request (api.respond projectId request world)
      ((api.handle projectId request).final world) := by
  cases request with
  | createNotification body idempotencyKey minted => exact createNotification_answers body idempotencyKey minted
  | getNotificationRequest transactionId => exact getNotificationRequest_answers reached transactionId
  | getNotification notificationId => exact getNotification_answers reached notificationId
  | listNotifications limit offset => exact listNotifications_answers reached limit offset
  | cancelNotification notificationId stamp => exact cancelNotification_answers reached notificationId stamp

theorem route_stopped {limit : RateLimit} {error : ErrorResponse} (stops : limit.stop = some error) :
    api.route projectId limit request world = (error.response, world) := by
  rw [route, stops]

theorem route_passed {limit : RateLimit} (passes : limit.stop = none) :
    api.route projectId limit request world =
      (api.respond projectId request world, (api.handle projectId request).final world) := by
  rw [route, passes]

theorem stop_status {limit : RateLimit} {error : ErrorResponse} (stops : limit.stop = some error) :
    400 ≤ error.status := by
  cases limit with
  | passed => cases stops
  | refused exception bad =>
      cases stops
      exact bad
  | failed failure =>
      cases stops
      have listed := exceptionHandler_status failure
      simp only [List.mem_cons, List.not_mem_nil, or_false] at listed
      omega

end Api

/-! The greeting, read and cancelled over the API when it has been sent. -/

def wiredApi : Api where
  services := wired
  conv := departureConversions
  types := { email := fun text => if '@' ∈ text then some text else none, phone := fun text => text.head? = some '+' }

def greetBody : CreateBody where
  sms := some "+15550100".toList
  templateSlug := some "greeting".toList
  templateVariables := some [("name".toList, .string "Ada".toList)]

end Tiber
