import Tiber.Api.Authorization
import Tiber.Library.Interference
import Tiber.System.ApiContract

/-! What a caller of the API is told does not depend on other tenants, and his requests do not touch them.

A caller visits any projects, his own and others'. Between his visits work goes on in all projects.
Two deployments in which his own projects are the same, and the same is done in them, look the same
to him, whatever else they hold and whatever is done there.
-/

set_option autoImplicit false

namespace Tiber

open Library

/-! ## One request -/

def ApiRequest.Concerns (request : ApiRequest) (projectId : Uuid) (tables : Tables) : Prop :=
  match request with
  | .createNotification _ _ minted => tables.Fresh projectId minted
  | .getNotificationRequest _ | .getNotification _ | .listNotifications .. | .cancelNotification .. => True

namespace Api

variable (api : Api) {projectId : Uuid} {start start' : Tables}

/-- Any request of a project keeps two runs together. -/
theorem handle_twins {request : ApiRequest} (concerns : request.Concerns projectId start)
    (concerns' : request.Concerns projectId start') :
    Program.Twins (Together projectId start start') (api.handle projectId request)
      (fun _ => Together projectId start start') (Together projectId start start') := by
  have shown {α β : Type} {call : Call α} {check : α → Checked β} {wrap : β → ApiResponse}
      (twins : Program.Twins (Together projectId start start') call (fun _ => Together projectId start start')
        (Together projectId start start')) :
      Program.Twins (Together projectId start start') (do return wrap (← Program.lift (check (← call))))
        (fun _ => Together projectId start start') (Together projectId start start') := by
    apply Program.Twins.bind _ twins
    intro value
    apply Program.Twins.checking fun _ _ both => both
    exact fun _ _ => Program.Twins.pure fun _ _ both => both
  cases request with
  | createNotification body idempotencyKey minted =>
      rw [createNotification_eq]
      apply Program.Twins.checking fun _ _ both => both
      intro command asked
      obtain ⟨rfl, -⟩ := asked_eq_ok asked
      apply Program.Twins.bind _ (acceptCall_twins api.services.runtime concerns concerns')
      exact fun _ => Program.Twins.pure fun _ _ both => both
  | getNotificationRequest transactionId => exact shown (getRequestStatusCall_twins transactionId)
  | getNotification notificationId => exact shown (getNotificationCall_twins notificationId)
  | listNotifications limit offset =>
      apply Program.Twins.checking fun _ _ both => both
      intro _ _
      apply Program.Twins.checking fun _ _ both => both
      intro _ _
      apply Program.Twins.checking fun _ _ both => both
      intro _ _
      apply Program.Twins.checking fun _ _ both => both
      intro _ _
      apply Program.Twins.checking fun _ _ both => both
      intro _ _
      exact shown (listNotificationsCall_twins limit.toNat offset.toNat)
  | cancelNotification notificationId stamp =>
      apply Program.Twins.bind _ (cancelCall_twins notificationId stamp)
      exact fun _ => Program.Twins.pure fun _ _ both => both

theorem handle_together {request : ApiRequest} {tables tables' : Tables} (sound : tables.Sound) (sound' : tables'.Sound)
    (agree : tables.AgreeOn projectId tables') (concerns : request.Concerns projectId tables)
    (concerns' : request.Concerns projectId tables') :
    api.respond projectId request { tables with } = api.respond projectId request { tables' with } ∧
      Together projectId tables tables' ((api.handle projectId request).final { tables with })
        ((api.handle projectId request).final { tables' with }) := by
  have together : Together projectId tables tables' { tables with } { tables' with } :=
    ⟨.refl sound, .refl sound', agree, rfl, rfl, rfl⟩
  obtain ⟨same, onward, stopped⟩ := api.handle_twins concerns concerns' _ _ together
  refine ⟨by unfold respond; rw [same], ?_⟩
  cases answer : (api.handle projectId request).outcome ({ tables with } : World) with
  | ok value => exact onward value answer
  | error error => exact stopped error answer

theorem route_together {request : ApiRequest} {tables tables' : Tables} (sound : tables.Sound) (sound' : tables'.Sound)
    (agree : tables.AgreeOn projectId tables') (concerns : request.Concerns projectId tables)
    (concerns' : request.Concerns projectId tables') (limit : RateLimit) :
    (api.route projectId limit request { tables with }).1 = (api.route projectId limit request { tables' with }).1 ∧
      Together projectId tables tables' (api.route projectId limit request { tables with }).2
        (api.route projectId limit request { tables' with }).2 := by
  cases stops : limit.stop with
  | some error =>
      rw [route_stopped stops, route_stopped stops]
      exact ⟨rfl, .refl sound, .refl sound', agree, rfl, rfl, rfl⟩
  | none =>
      rw [route_passed stops, route_passed stops]
      exact api.handle_together sound sound' agree concerns concerns'

end Api

/-! ## Deployments -/

/-- The projects by their primary key, and the tables. -/
structure Deployment where
  projects : List Project
  tables : Tables
  unique : (projects.map (·.id)).Nodup

/-- A visit of the caller with what the project's limiter makes of it, or a call of any project. -/
inductive Occasion where
  | visit (projectId : Uuid) (limit : RateLimit) (request : ApiRequest)
  | call (projectId : Uuid) (request : ProjectRequest)

/-- What the caller does, and what is done in projects he may enter. -/
def Occasion.own (entered : Uuid → Bool) : Occasion → Bool
  | visit .. => true
  | call projectId _ => entered projectId

/-- The answer to a visit, and what has been sent, announced and recorded with the occasion. -/
structure Observation where
  served : Option Served
  sent : List ProviderMessage
  announced : List OutboxRow
  attempts : List DeliveryAttempt

namespace Deployment

variable (api : Api) (context : AuthContext)

def occur (deployment : Deployment) : Occasion → Option Served × World
  | .visit projectId limit request =>
      let (served, world) := api.serve deployment.projects context projectId limit request { deployment.tables with }
      (some served, world)
  | .call projectId request => (none, (request.call api.services projectId).final { deployment.tables with })

def responder : Responder Deployment Occasion Observation where
  answer deployment occasion :=
    let (served, world) := deployment.occur api context occasion
    ⟨served, world.sent, world.announced, world.attempts⟩
  next deployment occasion := { deployment with tables := (deployment.occur api context occasion).2.toTables }

def Admits (deployment : Deployment) : Occasion → Prop
  | .visit projectId _ request =>
      context.enters deployment.projects projectId = true → request.Concerns projectId deployment.tables
  | .call projectId request => request.Concerns projectId deployment.tables

structure Alike (entered : Uuid → Bool) (left right : Deployment) : Prop where
  decided : ∀ projectId, context.getAuthenticatedProject left.projects projectId =
    context.getAuthenticatedProject right.projects projectId
  known : ∀ projectId, context.enters left.projects projectId = entered projectId
  sound : left.tables.Sound
  sound' : right.tables.Sound
  agree : ∀ projectId, entered projectId = true → left.tables.AgreeOn projectId right.tables

variable {api context} {entered : Uuid → Bool} {left right : Deployment}

theorem Alike.symm (alike : Alike context entered left right) : Alike context entered right left where
  decided projectId := (alike.decided projectId).symm
  known projectId := by
    rw [← alike.known projectId, AuthContext.enters, AuthContext.enters, alike.decided projectId]
  sound := alike.sound'
  sound' := alike.sound
  agree projectId open_ := (alike.agree projectId open_).symm

theorem Alike.together (alike : Alike context entered left right) {projectId : Uuid} {world other : World}
    (both : Together projectId left.tables right.tables world other) :
    Alike context entered { left with tables := world.toTables } { right with tables := other.toTables } where
  decided := alike.decided
  known := alike.known
  sound := both.left.sound
  sound' := both.right.sound
  agree q open_ := by
    by_cases same : q = projectId
    · subst same
      exact both.agree
    · exact (both.left.kept q same).symm.trans ((alike.agree q open_).trans (both.right.kept q same))

/-- What is done in a project the caller may not enter leaves them alike. -/
theorem Alike.confined (alike : Alike context entered left right) {projectId : Uuid} (closed : entered projectId = false)
    {tables : Tables} (confined : Confined projectId left.tables tables) :
    Alike context entered { left with tables } right where
  decided := alike.decided
  known := alike.known
  sound := confined.sound
  sound' := alike.sound'
  agree q open_ := by
    refine (confined.kept q ?_).symm.trans (alike.agree q open_)
    rintro rfl
    rw [closed] at open_
    cases open_

theorem call_together (services : Services) {request : ProjectRequest} {projectId : Uuid} {tables tables' : Tables} (sound : tables.Sound)
    (sound' : tables'.Sound) (agree : tables.AgreeOn projectId tables') (concerns : request.Concerns projectId tables)
    (concerns' : request.Concerns projectId tables') :
    Together projectId tables tables' ((request.call services projectId).final { tables with })
      ((request.call services projectId).final { tables' with }) := by
  have agree : (Database.mk tables sound).AgreeOn projectId (Database.mk tables' sound').toTables := agree
  exact (ProjectRequest.call_together services agree concerns concerns').2

theorem Alike.visit (alike : Alike context entered left right) {projectId : Uuid} {limit : RateLimit}
    {request : ApiRequest} (admits : left.Admits context (.visit projectId limit request))
    (admits' : right.Admits context (.visit projectId limit request)) :
    (responder api context).answer left (.visit projectId limit request) =
        (responder api context).answer right (.visit projectId limit request) ∧
      Alike context entered ((responder api context).next left (.visit projectId limit request))
        ((responder api context).next right (.visit projectId limit request)) := by
  simp only [responder, occur, Api.serve]
  have decided := alike.decided projectId
  have here := alike.known projectId
  have there := alike.symm.known projectId
  unfold AuthContext.enters at here there
  cases left : context.getAuthenticatedProject left.projects projectId with
  | error exception =>
      rw [left] at decided
      rw [← decided]
      exact ⟨rfl, alike⟩
  | ok project =>
      rw [left] at decided here
      rw [← decided] at there
      obtain ⟨-, rfl, -⟩ := AuthContext.getAuthenticatedProject_eq_ok left
      have concerns := admits (by rw [AuthContext.enters, left]; rfl)
      have concerns' := admits' (by rw [AuthContext.enters, ← decided]; rfl)
      obtain ⟨told, both⟩ :=
        api.route_together alike.sound alike.sound' (alike.agree project.id here.symm) concerns concerns' limit
      rw [← decided]
      dsimp only
      refine ⟨?_, alike.together both⟩
      rw [told, both.sent, both.announced, both.attempts]

theorem unwinding (api : Api) (context : AuthContext) (entered : Uuid → Bool) :
    (responder api context).Unwinding (Occasion.own entered) (Admits context) (Alike context entered) := by
  apply Responder.Unwinding.of_symm Alike.symm
  · intro left right occasion alike own admits admits'
    cases occasion with
    | visit projectId limit request => exact (alike.visit admits admits').1
    | call projectId request =>
        have both := call_together api.services alike.sound alike.sound' (alike.agree projectId own) admits admits'
        simp only [responder, occur]
        rw [both.sent, both.announced, both.attempts]
  · intro left right occasion alike own admits admits'
    cases occasion with
    | visit projectId limit request => exact (alike.visit admits admits').2
    | call projectId request =>
        exact alike.together (call_together api.services alike.sound alike.sound' (alike.agree projectId own) admits admits')
  · intro left right occasion alike foreign admits
    cases occasion with
    | visit => cases foreign
    | call projectId request =>
        exact alike.confined foreign (call_together api.services alike.sound alike.sound .refl admits admits).left

theorem next_kept (api : Api) {deployment : Deployment} {occasion : Occasion} {foreign : Uuid} (sound : deployment.tables.Sound)
    (admits : deployment.Admits context occasion) (closed : context.enters deployment.projects foreign = false)
    (elsewhere : ∀ request, occasion ≠ .call foreign request) :
    ((responder api context).next deployment occasion).tables.Sound ∧
      deployment.tables.AgreeOn foreign ((responder api context).next deployment occasion).tables := by
  cases occasion with
  | visit projectId limit request =>
      simp only [responder, occur, Api.serve]
      cases entering : context.getAuthenticatedProject deployment.projects projectId with
      | error exception => exact ⟨sound, .refl⟩
      | ok project =>
          obtain ⟨-, rfl, -⟩ := AuthContext.getAuthenticatedProject_eq_ok entering
          have open_ : context.enters deployment.projects project.id = true := by
            rw [AuthContext.enters, entering]
            rfl
          have concerns := admits open_
          have confined := (api.route_together sound sound .refl concerns concerns limit).2.left
          refine ⟨confined.sound, confined.kept foreign ?_⟩
          rintro rfl
          rw [open_] at closed
          cases closed
  | call projectId request =>
      have confined := (call_together api.services sound sound .refl admits admits).left
      refine ⟨confined.sound, confined.kept foreign ?_⟩
      rintro rfl
      exact elsewhere request rfl

/-- A project the caller may not enter is as it was, however often he tries. -/
theorem after_kept {deployment : Deployment} {events : List Occasion} {foreign : Uuid} (sound : deployment.tables.Sound)
    (along : (responder api context).Along (Admits context) deployment events)
    (closed : context.enters deployment.projects foreign = false)
    (elsewhere : ∀ request, .call foreign request ∉ events) :
    deployment.tables.AgreeOn foreign ((responder api context).after deployment events).tables := by
  induction events generalizing deployment with
  | nil => exact .refl
  | cons occasion rest ih =>
      obtain ⟨admits, onward⟩ := along
      have other : ∀ request, occasion ≠ .call foreign request := by
        rintro request rfl
        exact elsewhere request List.mem_cons_self
      obtain ⟨sound', kept⟩ := next_kept api sound admits closed other
      exact kept.trans (ih sound' onward closed fun request met => elsewhere request (List.mem_cons_of_mem _ met))

theorem alike_of_owned (owned : ∀ project, context.Owns project → (project ∈ left.projects ↔ project ∈ right.projects))
    (sound : left.tables.Sound) (sound' : right.tables.Sound)
    (agree : ∀ projectId, context.enters left.projects projectId = true → left.tables.AgreeOn projectId right.tables) :
    Alike context (context.enters left.projects) left right where
  decided _ := AuthContext.getAuthenticatedProject_eq right.unique owned
  known _ := rfl
  sound := sound
  sound' := sound'
  agree := agree

/-- Whatever others have and do, a caller who does the same in the same projects of his is answered the
same, and the same is sent, announced and recorded for him. His projects stay the same, and a project he
may not enter stays as it was unless something else is done in it. -/
theorem callers_apart (api : Api) (context : AuthContext) (left right : Deployment)
    (owned : ∀ project, context.Owns project → (project ∈ left.projects ↔ project ∈ right.projects))
    (sound : left.tables.Sound) (sound' : right.tables.Sound)
    (agree : ∀ projectId, context.enters left.projects projectId = true → left.tables.AgreeOn projectId right.tables)
    (events others : List Occasion) (along : (responder api context).Along (Admits context) left events)
    (along' : (responder api context).Along (Admits context) right others)
    (same : events.filter (Occasion.own (context.enters left.projects)) =
      others.filter (Occasion.own (context.enters left.projects))) :
    let own := Occasion.own (context.enters left.projects)
    let system := responder api context
    system.view own left events = system.view own right others ∧
      (∀ projectId, context.enters left.projects projectId = true →
        (system.after left events).tables.AgreeOn projectId (system.after right others).tables) ∧
      ∀ foreign, context.enters left.projects foreign = false → (∀ request, .call foreign request ∉ events) →
        left.tables.AgreeOn foreign (system.after left events).tables := by
  intro own system
  have alike := alike_of_owned owned sound sound' agree
  obtain ⟨seen, ended⟩ := (unwinding api context _).noninterference alike along along' same
  exact ⟨seen, ended.agree, fun foreign closed elsewhere => after_kept sound along closed elsewhere⟩

end Deployment

/-! A key of the greeting project, alone and beside a neighbour who greets as well. -/

def keyHolder : AuthContext where
  projectId := some 1
  method := .apiKey

theorem alone_unique : ([⟨1, 100⟩].map Project.id).Nodup := by decide

theorem housed_unique : ([⟨2, 200⟩, ⟨1, 100⟩].map Project.id).Nodup := by decide

def alone : Deployment where
  projects := [⟨1, 100⟩]
  tables := home.toTables
  unique := alone_unique

def housed : Deployment where
  projects := [⟨2, 200⟩, ⟨1, 100⟩]
  tables := shared.toTables
  unique := housed_unique

def greetAndLook : List Occasion :=
  [.visit 1 .passed (.createNotification greetBody "ada-1".toList firstIds),
    .visit 2 .passed (.listNotifications 10 0), .visit 1 .passed (.getNotificationRequest 11)]

def neighbourGreets : Occasion :=
  .call 2 (.accept { greet [("name".toList, .string "Bob".toList)] with projectId := 2 } ⟨40, 41, 42, 9⟩)

theorem alone_along : (Deployment.responder wiredApi keyHolder).Along (Deployment.Admits keyHolder) alone greetAndLook := by
  refine ⟨fun _ => ⟨?_, ?_⟩, fun _ => trivial, fun _ => trivial, trivial⟩
  · unfold Unclaimed
    decide +kernel
  · unfold Unclaimed
    decide +kernel

theorem housed_along : (Deployment.responder wiredApi keyHolder).Along (Deployment.Admits keyHolder) housed
    (neighbourGreets :: greetAndLook) := by
  refine ⟨⟨rfl, ?_, ?_⟩, fun _ => ⟨?_, ?_⟩, fun _ => trivial, fun _ => trivial, trivial⟩
  all_goals
    unfold Unclaimed
    decide +kernel

theorem alone_housed_agree (projectId : Uuid) (own : keyHolder.enters alone.projects projectId = true) :
    alone.tables.AgreeOn projectId housed.tables := by
  have here : projectId = 1 := by
    by_contra foreign
    have closed : keyHolder.enters alone.projects projectId = false := by
      unfold AuthContext.enters AuthContext.getAuthenticatedProject
      rw [if_pos ⟨rfl, fun same => foreign (Option.some.inj same).symm⟩]
      rfl
    rw [closed] at own
    cases own
  subst here
  exact
    { (.refl : Tables.AgreeOn 1 home.toTables home.toTables) with
      recipients := .cons_other (by decide)
      templates := .cons_other (by decide) }

theorem alone_housed_owned (project : Project) (own : keyHolder.Owns project) :
    project ∈ alone.projects ↔ project ∈ housed.projects := by
  have named : 1 = project.id := Option.some.inj own
  have other : project ≠ ⟨2, 200⟩ := by
    rintro rfl
    cases named
  exact (List.mem_cons.trans (or_iff_right other)).symm

/-- The neighbour greets first, and the key holder notices nothing. -/
theorem neighbour_unnoticed :
    let system := Deployment.responder wiredApi keyHolder
    let own := Occasion.own (keyHolder.enters alone.projects)
    system.view own alone greetAndLook = system.view own housed (neighbourGreets :: greetAndLook) ∧
      (system.view own alone greetAndLook).length = 3 ∧
      alone.tables.AgreeOn 2 (system.after alone greetAndLook).tables := by
  intro system own
  obtain ⟨seen, -, kept⟩ := Deployment.callers_apart wiredApi keyHolder alone housed alone_housed_owned home.sound
    shared.sound alone_housed_agree greetAndLook (neighbourGreets :: greetAndLook) alone_along housed_along rfl
  refine ⟨seen, rfl, kept 2 rfl ?_⟩
  intro request met
  simp [greetAndLook] at met

end Tiber
