import Mathlib.Logic.Relation
import Tiber.Application.ProjectCalls

/-! What a call may commit.

Whatever a call does to the tables and to the outside it does in commits of six kinds, each said
with all that is known when it is made; the seventh kind is what others do to recipients, topics,
templates and restrictions. What holds along every sequence of commits holds over every history
of calls.
-/

set_option autoImplicit false

namespace Tiber

open Library

/-! ## Children -/

/-- The content is rendered from a template the row names, with the variables of the row. -/
def NotificationFields.Rendering (row : NotificationFields) (content : NotificationContent) : Prop :=
  ∃ (template : Template) (variant : TemplateVariant), row.templateId = some template.id ∧ template.projectId = row.projectId ∧
    template.variants row.channel = some variant ∧
    TemplateRenderer.render variant.content row.templateVariables = .ok content

/-- What the row was asked to say: the content of the request, or what its template says. -/
structure NotificationIntake.Says (intake : NotificationIntake) (row : NotificationFields) (content : NotificationContent) :
    Prop where
  direct : intake.payload.templateId = none → intake.payload.content = some content
  rendered : intake.payload.templateId ≠ none → row.Rendering content

structure ChildOf (intake : NotificationIntake) (plan : NotificationPlan) (row : NotificationFields) : Prop where
  project : row.projectId = intake.projectId
  transaction : row.transactionId = intake.transactionId
  recipient : row.recipientId = intake.recipientId
  idempotencyKey : row.idempotencyKey = intake.idempotencyKey
  groupKey : row.groupKey = intake.payload.groupKey
  template : row.templateId = intake.payload.templateId
  templateVariables : row.templateVariables = intake.payload.templateVariables
  category : row.category = plan.category
  topic : row.topicId = plan.topic.map (·.id)
  channel : row.channel ∈ plan.channels
  content : intake.Says row row.content

def Tables.offspring (tables : Tables) (intake : NotificationIntake) : List NotificationFields :=
  tables.notifications.filter fun row => row.projectId = intake.projectId ∧ row.transactionId = intake.transactionId

/-- The children that are missing, one for each planned channel without a row. -/
structure Brood (tables : Tables) (intake : NotificationIntake) (plan : NotificationPlan) (children : List Notification) :
    Prop where
  covers : ∀ channel, channel ∈ children.map (·.channel) ↔
    channel ∈ plan.channels ∧ channel ∉ (tables.offspring intake).map (·.channel)
  once : (children.map (·.channel)).Nodup
  members : ∀ child ∈ children, ChildOf intake plan child.toNotificationFields
  born : ∀ child ∈ children, child.status = .pending ∨ child.status = .postponed ∨ child.status = .suppressed
  ids : (children.map (·.id)).Nodup
  free : ∀ child ∈ children, child.id ∉ tables.notifications.map (·.id)

def World.bear (world : World) (children : List Notification) : World :=
  { world with
    notifications := children.foldl (fun rows child => upsert (·.id) child.toNotificationFields rows) world.notifications
    announced := world.announced ++ dispatchRows children }

/-! ## Rows on their way -/

/-- A live row is claimed, postponed, suppressed or cancelled. -/
structure Moves (row updated : NotificationFields) : Prop where
  kept : updated = { row with
    status := updated.status, content := updated.content, sendAt := updated.sendAt
    suppressionReason := updated.suppressionReason, cancellationReason := updated.cancellationReason
    updatedAt := updated.updatedAt }
  whole : updated.Consistent
  live : row.status.terminal = false
  onward : updated.status = .processing ∨ updated.status = .postponed ∨ updated.status = .suppressed ∨
    updated.status = .cancelled
  content : updated.content = row.content ∨ row.Rendering updated.content

structure Settles (row updated : NotificationFields) (attempt : DeliveryAttempt) : Prop where
  kept : updated = { row with
    status := updated.status, failureReason := updated.failureReason, deliveredAt := updated.deliveredAt
    updatedAt := updated.updatedAt }
  whole : updated.Consistent
  about : attempt.notificationId = row.id ∧ attempt.channel = row.channel
  ended : attempt.status = .success ∧ updated.status = .delivered ∨
    attempt.status = .fail ∧ updated.status = .failed ∧ updated.failureReason = attempt.error ∨
    attempt.status = .fail ∧ updated.status = .pending

def NotificationFields.message (row : NotificationFields) (address : Text) : ProviderMessage where
  recipientAddress := address
  content := row.content
  notificationId := row.id
  transactionId := row.transactionId

/-- A revision keeps everything of the request. -/
def NotificationIntake.Revises (revised intake : NotificationIntake) : Prop :=
  revised.toNotificationIntakeFields = { intake.toNotificationIntakeFields with
    status := revised.status, plan := revised.plan, attempts := revised.attempts, claimedAt := revised.claimedAt
    completedAt := revised.completedAt, failureReason := revised.failureReason, updatedAt := revised.updatedAt }

def NotificationIntake.outboxPriority (intake : NotificationIntake) : OutboxPriority :=
  if intake.payload.category = some .critical then .high else .normal

/-! ## The commits -/

inductive Commit : World → World → Prop where
  | accept {world : World} {intake : NotificationIntake} {recipients : List Recipient}
      (received : intake.status = .received)
      (fresh : intake.id ∉ world.intakes.map (·.id))
      (free : ¬ ∃ row ∈ world.intakes, row.projectId = intake.projectId ∧ row.transactionId = intake.transactionId)
      (unkeyed : ∀ row ∈ world.intakes, ∀ key, intake.idempotencyKey = some key → ¬ row.Keyed intake.projectId key) :
      Commit world (({ world with recipients, intakes := intake :: world.intakes } : World).announce
        (enqueueIntake intake intake.outboxPriority))
  | revise {world : World} {intake revised : NotificationIntake}
      (stored : intake ∈ world.intakes) (revises : revised.Revises intake)
      (planned : revised.plan = intake.plan ∨ intake.plan = none)
      (live : intake.status = .received ∨ intake.status = .processing)
      (onward : revised.status = .processing ∨ revised.status = .failed) :
      Commit world (world.saveIntake revised)
  | fanOut {world : World} {intake completed : NotificationIntake} {plan : NotificationPlan}
      {children : List Notification}
      (stored : intake ∈ world.intakes) (live : intake.status = .processing) (planned : intake.plan = some plan)
      (brood : Brood world.toTables intake plan children)
      (revises : completed.Revises intake) (kept : completed.plan = intake.plan) (done : completed.status = .completed) :
      Commit world ((world.bear children).saveIntake completed)
  | move {world : World} {row updated : NotificationFields}
      (stored : row ∈ world.notifications) (moves : Moves row updated) :
      Commit world { world with notifications := upsert (·.id) updated world.notifications }
  | contact {world : World} {row updated : NotificationFields} {address : Option Text} {attempt : DeliveryAttempt}
      (stored : row ∈ world.notifications) (processing : row.status = .processing) (usable : address ≠ some [])
      (called : attempt.recipientAddress = address) (settles : Settles row updated attempt) :
      Commit world { world with
        notifications := upsert (·.id) updated world.notifications
        sent := world.sent ++ (address.map row.message).toList
        attempts := world.attempts ++ [attempt] }
  | unrecorded {world : World} {row : NotificationFields} {address : Text}
      (stored : row ∈ world.notifications) (processing : row.status = .processing) (usable : address ≠ []) :
      Commit world (world.send (row.message address))
  | configure {world : World} {tables : Tables} (intakes : tables.intakes = world.intakes)
      (notifications : tables.notifications = world.notifications) : Commit world { world with toTables := tables }

theorem World.bear_unique (world : World) (children : List Notification) (unique : (world.notifications.map (·.id)).Nodup) :
    ((world.bear children).notifications.map (·.id)).Nodup := by
  show ((children.foldl _ world.notifications).map (·.id)).Nodup
  -- one child after the other
  generalize world.notifications = rows at unique
  induction children generalizing rows with
  | nil => exact unique
  | cons child rest ih => exact ih _ (upsert_nodup unique)

theorem Commit.unique {world next : World} (commit : Commit world next) (unique : (world.notifications.map (·.id)).Nodup) :
    (next.notifications.map (·.id)).Nodup := by
  cases commit with
  | accept | revise | unrecorded => exact unique
  | move | contact => exact upsert_nodup unique
  | configure _ same => exact same ▸ unique
  | @fanOut _ _ _ children => exact world.bear_unique children unique

def Committed : World → World → Prop := Relation.ReflTransGen Commit

namespace Committed

theorem refl (world : World) : Committed world world := Relation.ReflTransGen.refl

theorem step {start world next : World} (committed : Committed start world) (commit : Commit world next) :
    Committed start next := .tail committed commit

theorem trans {start world final : World} (first : Committed start world) (second : Committed world final) :
    Committed start final := Relation.ReflTransGen.trans first second

theorem keeps {inv : World → Prop} (each : ∀ world next, inv world → Commit world next → inv next) {start final : World}
    (committed : Committed start final) (holds : inv start) : inv final := by
  induction committed with
  | refl => exact holds
  | tail _ commit ih => exact each _ _ ih commit

theorem unique {world final : World} (committed : Committed world final) (unique : (world.notifications.map (·.id)).Nodup) :
    (final.notifications.map (·.id)).Nodup :=
  committed.keeps (fun _ _ unique commit => commit.unique unique) unique

end Committed

end Tiber
