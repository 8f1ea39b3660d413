import Tiber.Library.KeyedRows
import Tiber.Library.Machine
import Tiber.System.CommitDeliveries
import Tiber.System.TenantIsolation

/-! Histories of a deployment: calls of any projects, one after the other, and edits between them.

A history starts with no intake and no notification. The ids generated for a call are new; nothing
else is asked of the calls, each of which has its own answers of the engine and the provider and may fail.
-/

set_option autoImplicit false

namespace Tiber

open Library

/-! ## What commits leave alone -/

namespace NotificationIntake.Revises

variable {revised intake : NotificationIntake}

theorem id (revises : revised.Revises intake) : revised.id = intake.id := congrArg (·.id) revises

theorem projectId (revises : revised.Revises intake) : revised.projectId = intake.projectId := congrArg (·.projectId) revises

theorem transactionId (revises : revised.Revises intake) : revised.transactionId = intake.transactionId :=
  congrArg (·.transactionId) revises

theorem payload (revises : revised.Revises intake) : revised.payload = intake.payload := congrArg (·.payload) revises

end NotificationIntake.Revises

structure World.Keyed (world : World) : Prop where
  intakes : (world.intakes.map (·.id)).Nodup
  requests : (world.intakes.map fun intake => (intake.projectId, intake.transactionId)).Nodup
  notifications : (world.notifications.map (·.id)).Nodup

theorem World.saveIntake_map {world : World} {intake revised : NotificationIntake} {α : Type} (view : NotificationIntake → α)
    (keyed : world.Keyed) (stored : intake ∈ world.intakes) (revises : revised.Revises intake)
    (same : view revised = view intake) : (world.saveIntake revised).intakes.map view = world.intakes.map view :=
  map_upsert view keyed.intakes stored revises.id same

theorem World.bear_notifications {world : World} {intake : NotificationIntake} {plan : NotificationPlan}
    {children : List Notification} (brood : Brood world.toTables intake plan children) :
    (world.bear children).notifications = (children.map (·.toNotificationFields)).reverse ++ world.notifications := by
  have once : ((children.map (·.toNotificationFields)).map (·.id)).Nodup := by
    rw [List.map_map]
    exact brood.ids
  have free : ∀ row ∈ children.map (·.toNotificationFields), row.id ∉ world.notifications.map (·.id) := by
    intro row member
    obtain ⟨child, listed, rfl⟩ := List.mem_map.mp member
    exact brood.free child listed
  rw [← foldl_upsert_fresh once free, List.foldl_map]
  rfl

theorem Commit.keyed {world next : World} (keyed : world.Keyed) (commit : Commit world next) : next.Keyed := by
  have notifications := commit.unique keyed.notifications
  cases commit with
  | accept _ fresh free =>
      refine ⟨List.nodup_cons.mpr ⟨fresh, keyed.intakes⟩, List.nodup_cons.mpr ⟨fun taken => free ?_, keyed.requests⟩, notifications⟩
      obtain ⟨row, stored, same⟩ := List.mem_map.mp taken
      rw [Prod.mk.injEq] at same
      exact ⟨row, stored, same⟩
  | revise stored revises =>
      constructor
      · rw [World.saveIntake_map _ keyed stored revises revises.id]
        exact keyed.intakes
      · rw [World.saveIntake_map _ keyed stored revises (by rw [revises.projectId, revises.transactionId])]
        exact keyed.requests
      · exact notifications
  | @fanOut _ _ _ children stored _ _ _ revises =>
      have same : (world.bear children).Keyed := ⟨keyed.intakes, keyed.requests, notifications⟩
      constructor
      · rw [World.saveIntake_map _ same stored revises revises.id]
        exact keyed.intakes
      · rw [World.saveIntake_map _ same stored revises (by rw [revises.projectId, revises.transactionId])]
        exact keyed.requests
      · exact notifications
  | move | contact | unrecorded => exact ⟨keyed.intakes, keyed.requests, notifications⟩
  | configure same =>
      refine ⟨?_, ?_, notifications⟩
      · rw [show _ = world.intakes from same]
        exact keyed.intakes
      · rw [show _ = world.intakes from same]
        exact keyed.requests

/-! ## Histories -/

structure Configuration where
  recipients : List Recipient
  topics : List NotificationTopic
  templates : List Template
  constraints : List DeliveryConstraint

inductive Moment where
  | call (projectId : Uuid) (request : ProjectRequest)
  | configure (configuration : Configuration)

namespace Moment

def Admitted (world : World) : Moment → Prop
  | call _ request => request.Mints world
  | configure _ => True

end Moment

namespace World

/-- No template or topic is deleted by the code; the database would null the references to it. -/
def configured (world : World) (configuration : Configuration) : World :=
  { world with
    recipients := configuration.recipients
    topics := configuration.topics
    templates := configuration.templates
    constraints := configuration.constraints }

/-- What the moment makes of the world. A call that fails leaves what it has committed. -/
def meet (services : Services) (world : World) : Moment → Option World
  | .call projectId request => some ((request.call services projectId).final world)
  | .configure configuration => some (world.configured configuration)

structure Blank (world : World) : Prop where
  intakes : world.intakes = []
  notifications : world.notifications = []
  sent : world.sent = []
  announced : world.announced = []
  attempts : world.attempts = []

def Leads (services : Services) (world next : World) : Prop :=
  ∃ moments : List Moment, Machine.Along (meet services) Moment.Admitted world moments ∧
    Machine.run (meet services) world moments = some next

def Reached (services : Services) (world : World) : Prop := ∃ start : World, start.Blank ∧ start.Leads services world

variable {services : Services} {world next : World}

theorem meet_committed {moment : Moment} (admitted : moment.Admitted world)
    (unique : (world.notifications.map (·.id)).Nodup) (met : world.meet services moment = some next) :
    Committed world next := by
  cases moment with
  | call projectId request =>
      cases met
      exact request.call_commits services projectId admitted unique
  | configure configuration =>
      cases met
      have edited : Commit world { world with toTables := (world.configured configuration).toTables } := .configure rfl rfl
      exact (Committed.refl world).step edited

theorem along_call {projectId : Uuid} {request : ProjectRequest} {moments : List Moment} (mints : request.Mints world)
    (rest : Machine.Along (meet services) Moment.Admitted ((request.call services projectId).final world) moments) :
    Machine.Along (meet services) Moment.Admitted world (.call projectId request :: moments) := by
  refine ⟨mints, fun next met => ?_⟩
  cases met
  exact rest

theorem Leads.committed (leads : world.Leads services next) (unique : (world.notifications.map (·.id)).Nodup) :
    Committed world next := by
  obtain ⟨moments, admitted, lived⟩ := leads
  have keeps : Machine.Keeps (meet services) Moment.Admitted fun world => (world.notifications.map (·.id)).Nodup :=
    fun _ _ _ unique admitted met => (meet_committed admitted unique met).unique unique
  exact keeps.relates Committed Committed.refl (fun _ _ _ => Committed.trans)
    (fun _ _ _ unique admitted met => meet_committed admitted unique met) unique admitted lived

theorem Leads.refl (world : World) : world.Leads services world := ⟨[], trivial, rfl⟩

theorem Leads.trans {final : World} (first : world.Leads services next) (rest : next.Leads services final) :
    world.Leads services final := by
  obtain ⟨moments, admitted, lived⟩ := first
  obtain ⟨later, admitted', lived'⟩ := rest
  refine ⟨moments ++ later, admitted.append lived admitted', ?_⟩
  rw [Machine.run_append, lived]
  exact lived'

theorem Leads.call {projectId : Uuid} {request : ProjectRequest} (mints : request.Mints world) :
    world.Leads services ((request.call services projectId).final world) :=
  ⟨[.call projectId request], along_call mints trivial, rfl⟩

theorem Reached.onward (reached : world.Reached services) (leads : world.Leads services next) : next.Reached services := by
  obtain ⟨start, blank, before⟩ := reached
  exact ⟨start, blank, before.trans leads⟩

theorem Blank.keyed (blank : world.Blank) : world.Keyed := by
  constructor
  · rw [blank.intakes]
    exact List.nodup_nil
  · rw [blank.intakes]
    exact List.nodup_nil
  · rw [blank.notifications]
    exact List.nodup_nil

/-- What a blank world has and every commit keeps holds at the end of every history. -/
theorem Reached.always {inv : World → Prop} (reached : world.Reached services) (opening : ∀ start : World, start.Blank → inv start)
    (each : ∀ world next, inv world → Commit world next → inv next) : inv world := by
  obtain ⟨start, blank, leads⟩ := reached
  exact (leads.committed blank.keyed.notifications).keeps each (opening start blank)

theorem Reached.keyed (reached : world.Reached services) : world.Keyed :=
  reached.always (fun _ blank => blank.keyed) fun _ _ keyed commit => commit.keyed keyed

theorem Reached.keeps {inv : World → Prop} (reached : world.Reached services) (opening : ∀ start : World, start.Blank → inv start)
    (each : ∀ world next, world.Keyed → inv world → Commit world next → inv next) : inv world := by
  have both : world.Keyed ∧ inv world := by
    apply reached.always
    · exact fun start blank => ⟨blank.keyed, opening start blank⟩
    · exact fun world next held commit => ⟨commit.keyed held.1, each world next held.1 held.2 commit⟩
  exact both.2

end World

/-! A greeting is accepted, fanned out and sent. -/

def dawn : Given where
  engine _ _ _ _ := none
  child channel :=
    ⟨if channel = .sms then 20 else if channel = .email then 21 else if channel = .push then 22 else 23, 0, 0, 0, 0, 0⟩
  claiming := 0
  claimed := 0
  planning := 0
  planned := 0
  completing := 0
  completed := 0
  failed := 0

def received (_ : ProviderMessage) : ProviderAnswer := .result true none none

def sendGreeting : ProjectRequest := .deliver 20 ⟨0, 0, 0, 0, 0, 0⟩ ⟨30, 0, 0, 0⟩ received

def greetingDay : List Moment := [.call 1 greetAda, .call 1 (.process 10 dawn), .call 1 sendGreeting]

def greetingAccepted : World := (greetAda.call wired 1).final shared.opened

def greetingFannedOut : World := ((ProjectRequest.process 10 dawn).call wired 1).final greetingAccepted

def greetingSent : World := (sendGreeting.call wired 1).final greetingFannedOut

theorem greetingAccepted_childless : greetingAccepted.notifications = [] := rfl

theorem greetingAccepted_mints : greetingAccepted.Mints dawn where
  fresh channel taken := by
    rw [greetingAccepted_childless] at taken
    cases taken
  distinct := by
    intro first second same
    revert first second
    decide

theorem greetingFannedOut_reached : greetingFannedOut.Reached wired := by
  refine ⟨shared.opened, ⟨rfl, rfl, rfl, rfl, rfl⟩, greetingDay.take 2, ?_, rfl⟩
  exact World.along_call trivial (World.along_call greetingAccepted_mints trivial)

theorem greetingFannedOut_leads : greetingFannedOut.Leads wired greetingSent :=
  ⟨greetingDay.drop 2, World.along_call trivial trivial, rfl⟩

theorem greetingSent_reached : greetingSent.Reached wired := by
  refine ⟨shared.opened, ⟨rfl, rfl, rfl, rfl, rfl⟩, greetingDay, ?_, rfl⟩
  exact World.along_call trivial (World.along_call greetingAccepted_mints (World.along_call trivial trivial))

end Tiber
