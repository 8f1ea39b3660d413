import Tiber.System.Acceptance
import Tiber.System.SingleDelivery
import Tiber.System.TenantDelivery

/-! No project sees or changes another project's rows.

Two databases that hold the same rows of a project are the same to it, whatever else they hold.
-/

set_option autoImplicit false

namespace Tiber

open Library

/-- The request is one of the project, and the identifiers generated for it are no other project's. -/
def ProjectRequest.Concerns (request : ProjectRequest) (projectId : Uuid) (tables : Tables) : Prop :=
  match request with
  | .accept command minted => command.projectId = projectId ∧ tables.Fresh projectId minted
  | .process intakeId given => tables.HoldsIntake projectId intakeId ∧ tables.FreshChildren projectId given
  | .deliver .. | .cancel .. | .getNotification .. | .listNotifications .. | .getRequestStatus .. => True

def Database.opened (database : Database) : World := { database.toTables with }

theorem ProjectRequest.call_twins (services : Services) {projectId : Uuid} {request : ProjectRequest}
    {start start' : Tables} (concerns : request.Concerns projectId start) (concerns' : request.Concerns projectId start') :
    Program.Twins (fun world other => Together projectId start start' world other ∧ world.toTables = start)
      (request.call services projectId) (fun _ => Together projectId start start') (Together projectId start start') := by
  have answered {α : Type} {call : Call α} (wrap : α → ProjectAnswer)
      (twins : Program.Twins (Together projectId start start') call (fun _ => Together projectId start start')
        (Together projectId start start')) :
      Program.Twins (fun world other => Together projectId start start' world other ∧ world.toTables = start)
        (do return wrap (← call)) (fun _ => Together projectId start start') (Together projectId start start') := by
    apply Program.Twins.bind _ (twins.under fun _ _ both => both.1)
    exact fun _ => Program.Twins.pure fun _ _ both => both
  cases request with
  | accept command minted =>
      obtain ⟨rfl, fresh⟩ := concerns
      exact answered .accepted (acceptCall_twins services.runtime fresh concerns'.2)
  | process intakeId given =>
      obtain ⟨holds, fresh⟩ := concerns
      apply Program.Twins.bind (fun _ => Together projectId start start')
      · apply (processCall_twins services.intakes fresh concerns'.2).under
        rintro world other ⟨both, same⟩
        exact ⟨both, by rw [same]; exact holds⟩
      · exact fun _ => Program.Twins.pure fun _ _ both => both
  | deliver notificationId clock recording provider =>
      exact answered .notification (deliverCall_twins services.deliveries provider notificationId clock recording)
  | cancel notificationId stamp => exact answered (fun _ => .done) (cancelCall_twins notificationId stamp)
  | getNotification notificationId => exact answered .notification (getNotificationCall_twins notificationId)
  | listNotifications limit offset => exact answered .notifications (listNotificationsCall_twins limit offset)
  | getRequestStatus transactionId => exact answered .requestStatus (getRequestStatusCall_twins transactionId)

theorem ProjectRequest.call_together (services : Services) {projectId : Uuid} {request : ProjectRequest}
    {database database' : Database} (agree : database.AgreeOn projectId database'.toTables)
    (concerns : request.Concerns projectId database.toTables)
    (concerns' : request.Concerns projectId database'.toTables) :
    (request.call services projectId).outcome database.opened = (request.call services projectId).outcome database'.opened ∧
      Together projectId database.toTables database'.toTables
        ((request.call services projectId).final database.opened)
        ((request.call services projectId).final database'.opened) := by
  have together : Together projectId database.toTables database'.toTables database.opened database'.opened :=
    ⟨.refl database.sound, .refl database'.sound, agree, rfl, rfl, rfl⟩
  obtain ⟨same, onward, stopped⟩ :=
    ProjectRequest.call_twins services concerns concerns' database.opened database'.opened ⟨together, rfl⟩
  refine ⟨same, ?_⟩
  cases answer : (request.call services projectId).outcome database.opened with
  | ok value => exact onward value answer
  | error error => exact stopped error answer

/-- Tenant isolation: a project's call returns, sends, announces, records and stores the same on two
databases with the same rows of the project, and changes no row of another. -/
theorem tenant_isolation (services : Services) (projectId : Uuid) (request : ProjectRequest)
    (database database' : Database) (agree : database.AgreeOn projectId database'.toTables)
    (concerns : request.Concerns projectId database.toTables)
    (concerns' : request.Concerns projectId database'.toTables) :
    let call := request.call services projectId
    let world := call.final database.opened
    let world' := call.final database'.opened
    call.outcome database.opened = call.outcome database'.opened ∧
      world.sent = world'.sent ∧ world.announced = world'.announced ∧ world.attempts = world'.attempts ∧
      world.AgreeOn projectId world'.toTables ∧
      ∀ foreign, foreign ≠ projectId →
        database.AgreeOn foreign world.toTables ∧ database'.AgreeOn foreign world'.toTables := by
  intro call world world'
  obtain ⟨same, ended⟩ := ProjectRequest.call_together services agree concerns concerns'
  exact ⟨same, ended.sent, ended.announced, ended.attempts, ended.agree,
    fun foreign other => ⟨ended.left.kept foreign other, ended.right.kept foreign other⟩⟩

/-! A project that greets, and a neighbour with a template of the same slug and a recipient of the same
address. -/

def wired : Services where
  runtime := cpython
  intakes := {}
  deliveries := DeliveryRuns.unguarded

def neighbour : Recipient where
  id := 30
  projectId := 2
  addresses := (greet []).addresses
  preferences := {}
  createdAt := 0
  updatedAt := 0
  reachable := by decide
  opted_out_known := Finset.empty_subset _

def neighbourly : Template := { addressed with id := 6, projectId := 2 }

def home : Database where
  toTables := { templates := [addressed] }
  sound :=
    { recipients := List.nodup_nil
      externalIds := fun _ _ => .short (by decide)
      topicSlugs := fun _ _ => .short (by decide)
      templates := List.nodup_singleton _
      templateSlugs := fun _ _ => .short (by decide)
      constraints := fun _ => .short (by decide)
      intakes := List.nodup_nil
      idempotencyKeys := fun _ _ => .short (by decide)
      transactions := fun _ _ => .short (by decide)
      notifications := List.nodup_nil
      snapshots := fun _ stored => absurd stored List.not_mem_nil }

theorem slugs_apart (projectId : Uuid) (slug : Text) :
    AtMostOne [neighbourly, addressed] fun row => row.projectId = projectId ∧ row.templateSlug = slug := by
  intro first there second also met alike
  rcases List.mem_pair.mp there with rfl | rfl <;> rcases List.mem_pair.mp also with rfl | rfl
  · rfl
  · exact absurd (met.1.trans alike.1.symm) (by decide)
  · exact absurd (met.1.trans alike.1.symm) (by decide)
  · rfl

def shared : Database where
  toTables := { recipients := [neighbour], templates := [neighbourly, addressed] }
  sound :=
    { home.sound with
      recipients := List.nodup_singleton _
      externalIds := fun _ _ => .short (by decide)
      templates := by decide
      templateSlugs := slugs_apart }

def greetAda : ProjectRequest := .accept (greet [("name".toList, .string "Ada".toList)]) firstIds

theorem neighbour_unseen :
    (greetAda.call wired 1).outcome shared.opened = .ok (.accepted ⟨11, 1, false⟩) ∧
      shared.AgreeOn 2 ((greetAda.call wired 1).final shared.opened).toTables := by
  have agree : home.AgreeOn 1 shared.toTables :=
    { (.refl : Tables.AgreeOn 1 home.toTables home.toTables) with
      recipients := .cons_other (by decide)
      templates := .cons_other (by decide) }
  have fresh : home.Fresh 1 firstIds :=
    ⟨fun _ stored => absurd stored List.not_mem_nil, fun _ stored => absurd stored List.not_mem_nil⟩
  have fresh' : shared.Fresh 1 firstIds := by
    refine ⟨fun row stored taken => ?_, fun _ stored => absurd stored List.not_mem_nil⟩
    rw [List.mem_singleton.mp stored] at taken
    exact absurd taken (by decide)
  obtain ⟨same, -, -, -, -, kept⟩ := tenant_isolation wired 1 greetAda home shared agree ⟨rfl, fresh⟩ ⟨rfl, fresh'⟩
  exact ⟨same.symm.trans rfl, (kept 2 (by decide)).2⟩

end Tiber
