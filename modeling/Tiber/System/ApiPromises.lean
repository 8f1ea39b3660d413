import Tiber.System.ApiContract

/-! What a `202` promises for the rest of every history.

A request stays known by its key, its fingerprint and its transaction, and no key stands for two
requests. So the same request is answered with the same transaction ever after, another one under
its key never, and the `Location` leads to it.
-/

set_option autoImplicit false

namespace Tiber

open Library

/-! ## What a request is known by -/

structure Ticket where
  projectId : Uuid
  idempotencyKey : Option Text
  requestFingerprint : String
  transactionId : Uuid

def NotificationIntake.ticket (intake : NotificationIntake) : Ticket where
  projectId := intake.projectId
  idempotencyKey := intake.idempotencyKey
  requestFingerprint := intake.requestFingerprint
  transactionId := intake.transactionId

def Ticket.Keyed (ticket : Ticket) (projectId : Uuid) (key : Text) : Prop :=
  ticket.projectId = projectId ∧ ticket.idempotencyKey = some key

def World.tickets (world : World) : List Ticket := world.intakes.map (·.ticket)

theorem NotificationIntake.Revises.ticket {revised intake : NotificationIntake} (revises : revised.Revises intake) :
    revised.ticket = intake.ticket :=
  congrArg (fun fields => Ticket.mk fields.projectId fields.idempotencyKey fields.requestFingerprint fields.transactionId)
    revises

theorem Commit.tickets {world next : World} (keyed : world.Keyed) (commit : Commit world next) :
    next.tickets = world.tickets ∨ ∃ ticket, next.tickets = ticket :: world.tickets ∧
      ∀ key, ticket.idempotencyKey = some key → ∀ known ∈ world.tickets, ¬ known.Keyed ticket.projectId key := by
  cases commit with
  | accept _ _ _ unkeyed =>
      refine .inr ⟨_, rfl, fun key named known member => ?_⟩
      obtain ⟨row, stored, rfl⟩ := List.mem_map.mp member
      exact unkeyed row stored key named
  | revise stored revises => exact .inl (World.saveIntake_map _ keyed stored revises revises.ticket)
  | @fanOut _ _ _ children stored _ _ brood revises =>
      have same : (world.bear children).Keyed := ⟨keyed.intakes, keyed.requests, world.bear_unique children keyed.notifications⟩
      exact .inl (World.saveIntake_map _ same stored revises revises.ticket)
  | move | contact | unrecorded => exact .inl rfl
  | configure intakes => exact .inl (congrArg (List.map _) intakes)

def World.Once (world : World) : Prop := ∀ projectId key, AtMostOne world.tickets fun ticket => ticket.Keyed projectId key

theorem World.Once.commit {world next : World} (keyed : world.Keyed) (once : world.Once) (commit : Commit world next) :
    next.Once := by
  intro projectId key
  rcases commit.tickets keyed with same | ⟨ticket, added, unkeyed⟩
  · rw [same]
    exact once projectId key
  · rw [added]
    intro first there second also met alike
    rcases List.mem_cons.mp there with rfl | before <;> rcases List.mem_cons.mp also with rfl | behind
    · rfl
    · exact absurd (met.1 ▸ alike) (unkeyed key met.2 second behind)
    · exact absurd (alike.1 ▸ met) (unkeyed key alike.2 first before)
    · exact once projectId key first before second behind met alike

theorem World.Reached.once {services : Services} {world : World} (reached : world.Reached services) : world.Once := by
  apply reached.keeps
  · intro start blank projectId key first there
    rw [World.tickets, blank.intakes] at there
    cases there
  · exact fun _ _ keyed once commit => once.commit keyed commit

theorem Committed.tickets {world next : World} (keyed : world.Keyed) (committed : Committed world next) :
    ∀ ticket ∈ world.tickets, ticket ∈ next.tickets := by
  have kept : next.Keyed ∧ ∀ ticket ∈ world.tickets, ticket ∈ next.tickets := by
    apply committed.keeps
    · intro between later held commit
      refine ⟨commit.keyed held.1, fun ticket known => ?_⟩
      rcases commit.tickets held.1 with same | ⟨_, added, -⟩
      · rw [same]
        exact held.2 ticket known
      · rw [added]
        exact List.mem_cons_of_mem _ (held.2 ticket known)
    · exact ⟨keyed, fun _ known => known⟩
  exact kept.2

/-! ## The same key again -/

theorem World.Once.byIdempotencyKey {world : World} (once : world.Once) {ticket : Ticket} (known : ticket ∈ world.tickets)
    {projectId : Uuid} {key : Text} (keyed : ticket.Keyed projectId key) :
    ∃ intake, Tiber.byIdempotencyKey world.intakes projectId key = some intake ∧ intake.ticket = ticket := by
  obtain ⟨stored, there, rfl⟩ := List.mem_map.mp known
  cases found : Tiber.byIdempotencyKey world.intakes projectId key with
  | none => exact absurd (decide_eq_true ⟨keyed.1, keyed.2⟩) (List.find?_eq_none.mp found stored there)
  | some intake =>
      obtain ⟨also, same⟩ := byIdempotencyKey_eq_some found
      exact ⟨intake, rfl, once projectId key _ (List.mem_map_of_mem also) _ (List.mem_map_of_mem there) same keyed⟩

/-- The response shows the stored request, unless its recipient is gone or a content is not within the
bounds of the response. -/
inductive World.Locates (world : World) (projectId transactionId : Uuid) : ApiResponse → Prop where
  | shown {view : NotificationRequestView} {response : IntakeStatusResponse}
      (truthful : view.Truthful world projectId transactionId)
      (shown : IntakeStatusResponse.fromIntake view.intake view.notifications view.recipient = .ok response) :
      Locates world projectId transactionId { status := 200, body := .requestStatus response }
  | unshown {view : NotificationRequestView} (truthful : view.Truthful world projectId transactionId)
      (unshown : ∃ notification ∈ view.notifications, ¬ notification.content.Measured) :
      Locates world projectId transactionId .unexpected
  | recipientMissing {intake : NotificationIntake} (stored : intake ∈ world.intakes)
      (named : intake.projectId = projectId ∧ intake.transactionId = transactionId)
      (missing : world.recipientById intake.recipientId projectId = none) :
      Locates world projectId transactionId (.notFound "Recipient" intake.recipientId)

namespace Api

variable {api : Api} {projectId : Uuid} {world : World} {body : CreateBody} {idempotencyKey : Text} {minted : Minted}
  {command : AcceptNotificationCommand} {ticket : Ticket}

def ticketAnswer (api : Api) (command : AcceptNotificationCommand) (ticket : Ticket) : ApiResponse :=
  if ticket.requestFingerprint = api.services.runtime.fingerprint command then
    .accepted ticket.projectId ticket.transactionId true
  else .keyTaken

/-- A request under a known key is answered from what is known, and nothing is stored. -/
theorem create_known (once : world.Once) (known : ticket ∈ world.tickets) (keyed : ticket.Keyed projectId idempotencyKey)
    (asked : api.asked projectId body idempotencyKey = .ok command) (minted : Minted) :
    api.respond projectId (.createNotification body idempotencyKey minted) world = api.ticketAnswer command ticket ∧
      (api.handle projectId (.createNotification body idempotencyKey minted)).final world = world := by
  obtain ⟨own, named⟩ := asked_eq_ok asked
  obtain ⟨intake, found, rfl⟩ := once.byIdempotencyKey known keyed
  have looked : command.idempotencyKey.bind (Tiber.byIdempotencyKey world.intakes command.projectId) = some intake := by
    rw [named, own]
    exact found
  unfold ticketAnswer respond Program.outcome Program.final
  by_cases same : intake.ticket.requestFingerprint = api.services.runtime.fingerprint command
  · have again : replay api.services.runtime world.intakes command =
        .ok (some ⟨intake.transactionId, intake.projectId, true⟩) := by
      unfold replay
      rw [looked]
      exact if_neg (not_not.mpr same)
    rw [create_ok asked (acceptCall_known again minted), if_pos same]
    exact ⟨rfl, rfl⟩
  · have taken : replay api.services.runtime world.intakes command = .error .idempotencyKeyConflict := by
      unfold replay
      rw [looked]
      exact if_pos same
    rw [create_error asked (acceptCall_conflicting taken minted), if_neg same]
    exact ⟨rfl, rfl⟩

/-- A request of the API is a call, or it changes nothing. -/
theorem handle_leads (reached : world.Reached api.services) (projectId : Uuid) (request : ApiRequest) :
    world.Leads api.services ((api.handle projectId request).final world) := by
  have reads (quiet : request.writes = false) :
      world.Leads api.services ((api.handle projectId request).final world) := by
    rw [(handle_answers reached projectId request).quiet quiet]
    exact .refl world
  cases request with
  | createNotification body idempotencyKey minted =>
      rw [createNotification_eq]
      cases api.asked projectId body idempotencyKey with
      | error error => exact .refl world
      | ok command =>
          have accepted : world.Leads api.services
              (((ProjectRequest.accept command minted).call api.services projectId).final world) := .call trivial
          rw [ProjectRequest.call, Program.final_return] at accepted
          have ended := Program.final_return (acceptCall api.services.runtime command minted)
            (fun accepted => ApiResponse.accepted accepted.projectId accepted.transactionId accepted.replayed) world
          exact ended.symm ▸ accepted
  | cancelNotification notificationId stamp =>
      have cancelled : world.Leads api.services
          (((ProjectRequest.cancel notificationId stamp).call api.services projectId).final world) := .call trivial
      have done := Program.final_return (cancelCall projectId notificationId stamp) (fun _ => ProjectAnswer.done) world
      have ended := Program.final_return (cancelCall projectId notificationId stamp)
        (fun _ => ApiResponse.mk 204 .empty none false) world
      exact ended.symm ▸ done ▸ cancelled
  | getNotificationRequest | getNotification | listNotifications => exact reads rfl

theorem Answers.known {next : World} {response : ApiResponse}
    (answers : api.Answers projectId world (.createNotification body idempotencyKey minted) response next)
    (accepted : response.status = 202) :
    ∃ command ticket replayed, api.asked projectId body idempotencyKey = .ok command ∧ ticket ∈ next.tickets ∧
      ticket.Keyed projectId idempotencyKey ∧ ticket.requestFingerprint = api.services.runtime.fingerprint command ∧
      response = .accepted projectId ticket.transactionId replayed := by
  have failing {status : Nat} (told : status ∈ [403, 404, 409, 422, 500]) : status ≠ 202 := by
    rintro rfl
    exact absurd told (by decide)
  cases answers with
  | @invalid _ _ _ error => exact absurd accepted (failing (exceptionHandler_status error))
  | replayed asked stored keyed same => exact ⟨_, _, true, asked, List.mem_map_of_mem stored, keyed, same, rfl⟩
  | conflicting => exact absurd (ApiResponse.keyTaken_status.symm.trans accepted) (by decide)
  | created asked unkeyed accepts =>
      obtain ⟨own, named⟩ := asked_eq_ok asked
      cases accepts with
      | created new fresh free =>
          exact ⟨_, _, false, asked, List.mem_cons_self, ⟨rfl, new.key.trans named⟩, new.fingerprint, rfl⟩
  | refused _ _ failed => exact absurd accepted (failing failed)

theorem Answers.located {next : World} {transactionId : Uuid} {response : ApiResponse}
    (answers : api.Answers projectId world (.getNotificationRequest transactionId) response next)
    (known : ticket ∈ world.tickets) (own : ticket.projectId = projectId) (named : ticket.transactionId = transactionId) :
    world.Locates projectId transactionId response := by
  cases answers with
  | request truthful shown => exact .shown truthful shown
  | requestUnshown truthful unshown => exact .unshown truthful unshown
  | requestMissing missing =>
      obtain ⟨intake, stored, rfl⟩ := List.mem_map.mp known
      exact absurd ⟨own, named⟩ (missing intake stored)
  | recipientMissing stored named missing => exact .recipientMissing stored named missing

theorem route_accepted {limit : RateLimit} {request : ApiRequest}
    (accepted : (api.route projectId limit request world).1.status = 202) : limit.stop = none := by
  cases stops : limit.stop with
  | none => rfl
  | some error =>
      rw [route_stopped stops] at accepted
      have bad := stop_status stops
      simp only [ErrorResponse.response] at accepted
      omega

end Api

/-! A greeting is asked for over the API, and once more when it has been fanned out. -/

def wiredAccepted : World :=
  (wiredApi.route 1 .passed (.createNotification greetBody "ada-1".toList firstIds) shared.opened).2

theorem wiredAccepted_mints : wiredAccepted.Mints dawn where
  fresh channel taken := by
    rw [show wiredAccepted.notifications = [] from rfl] at taken
    cases taken
  distinct := greetingAccepted_mints.distinct

def wiredFannedOut : World := ((ProjectRequest.process 10 dawn).call wired 1).final wiredAccepted

def exceeded : RateLimit := .refused ⟨429, "Too Many Requests"⟩ (by decide)

end Tiber
