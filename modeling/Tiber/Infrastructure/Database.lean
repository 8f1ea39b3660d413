import Tiber.Infrastructure.OutboxRow
import Tiber.Infrastructure.RecipientWrite
import Tiber.Library.Tenancy
import Tiber.Library.TwoRuns

/-! The tables all projects share, and the statements of the repositories on them.

A table holds the rows of every project. Some statements name the project in their condition,
`session.get` fetches by primary key and its caller compares the project afterwards, and
`merge` and the lock on an intake go by primary key alone.
-/

set_option autoImplicit false

namespace Tiber

open Library

structure Tables where
  recipients : List Recipient := []
  topics : List NotificationTopic := []
  templates : List Template := []
  constraints : List DeliveryConstraint := []
  intakes : List NotificationIntake := []
  notifications : List NotificationFields := []

structure ProviderMessage where
  recipientAddress : Text
  content : NotificationContent
  notificationId : Uuid
  transactionId : Uuid
  deriving DecidableEq

/-- The tables, and what has been sent, announced and recorded so far. -/
structure World extends Tables where
  sent : List ProviderMessage := []
  announced : List OutboxRow := []
  attempts : List DeliveryAttempt := []

/-! ## Look-ups -/

def NotificationFields.Older (first second : NotificationFields) : Prop :=
  first.createdAt < second.createdAt ∨ first.createdAt = second.createdAt ∧ first.id ≤ second.id

def NotificationFields.Newer (first second : NotificationFields) : Prop := second.Older first

namespace NotificationFields

instance : DecidableRel Older := fun first second =>
  inferInstanceAs (Decidable (first.createdAt < second.createdAt ∨ first.createdAt = second.createdAt ∧ first.id ≤ second.id))

instance : DecidableRel Newer := fun first second => inferInstanceAs (Decidable (second.Older first))

theorem Older.total (first second : NotificationFields) : first.Older second ∨ second.Older first := by
  unfold Older
  dsimp only [Instant, Uuid] at *
  omega

theorem Older.trans {first second third : NotificationFields} (early : first.Older second)
    (late : second.Older third) : first.Older third := by
  unfold Older at *
  dsimp only [Instant, Uuid] at *
  omega

theorem Older.id_eq {first second : NotificationFields} (before : first.Older second) (behind : second.Older first) :
    first.id = second.id := by
  unfold Older at *
  dsimp only [Instant, Uuid] at *
  omega

instance : Std.Total Older := ⟨Older.total⟩

instance : IsTrans NotificationFields Older := ⟨fun _ _ _ => Older.trans⟩

instance : Std.Total Newer := ⟨fun first second => Older.total second first⟩

instance : IsTrans NotificationFields Newer := ⟨fun _ _ _ first second => Older.trans second first⟩

end NotificationFields

namespace Tables

variable (tables : Tables)

def registry : Registry where
  recipients := tables.recipients
  topics := tables.topics
  templates := tables.templates
  intakes := tables.intakes

def recipientById (id projectId : Uuid) : Option Recipient :=
  (tables.recipients.find? fun row => row.id = id).filter fun row => row.projectId = projectId

def templateById (id projectId : Uuid) : Option Template :=
  (tables.templates.find? fun row => row.id = id).filter fun row => row.projectId = projectId

/-- `SQLAlchemyNotificationRepository.get_by_id`, which rebuilds the entity. -/
def notificationById (id projectId : Uuid) : Checked (Option Notification) :=
  ((tables.notifications.find? fun row => row.id = id).filter fun row => row.projectId = projectId).mapM Notification.build

def constraintOf (projectId : Uuid) : Option DeliveryConstraint :=
  tables.constraints.find? fun row => row.projectId = projectId

/-- `get_for_update`; no other transaction has the row. -/
def intakeForUpdate (id : Uuid) : Option NotificationIntake := tables.intakes.find? fun row => row.id = id

def intakeByTransaction (transactionId projectId : Uuid) : Option NotificationIntake :=
  tables.intakes.find? fun row => row.projectId = projectId ∧ row.transactionId = transactionId

def listByTransaction (transactionId projectId : Uuid) : Checked (List Notification) :=
  ((tables.notifications.filter fun row => row.projectId = projectId ∧ row.transactionId = transactionId).insertionSort
    NotificationFields.Older).mapM Notification.build

def listByProject (projectId : Uuid) (limit offset : Nat) : Checked (List Notification) :=
  ((((tables.notifications.filter fun row => row.projectId = projectId).insertionSort
    NotificationFields.Newer).drop offset).take limit).mapM Notification.build

end Tables

/-! ## Writes -/

def integrityError (violated : String) : PyError := .raised "IntegrityError" ("violates " ++ violated)

namespace World

variable (world : World)

/-- The flush behind `recipients.add` and `recipients.save`. -/
def storeRecipient (write : RecipientWrite) : Checked World :=
  match write.store world.recipients with
  | some recipients => .ok { world with recipients }
  | none => .error (integrityError "recipients_pkey")

/-- `intakes.add` past its conflict clause. The recipient's row was read or written just before. -/
def insertIntake (intake : NotificationIntake) : Checked World :=
  if intake.id ∈ world.intakes.map (·.id) then .error (integrityError "notification_intakes_pkey")
  else if ∃ row ∈ world.intakes, row.projectId = intake.projectId ∧ row.transactionId = intake.transactionId then
    .error (integrityError "notification_intakes_project_transaction_unique")
  else .ok { world with intakes := intake :: world.intakes }

/-- `intakes.save` of a row that is there: neither its keys nor its recipient change. -/
def saveIntake (intake : NotificationIntake) : World :=
  { world with intakes := upsert (·.id) intake world.intakes }

/-- `notifications.save`. Of an entity's own fields only title and channel can fail a CHECK
(`toModel_storable_iff`). A new row is held against its topic's key as well; its recipient and its
template were read just before. -/
def saveNotification (notification : Notification) : Checked World :=
  if ¬ (notification.channel = .email ↔ notification.content.title ≠ none) then
    .error (integrityError "notifications_subject_check")
  else if ∃ row ∈ world.notifications, row.id ≠ notification.id ∧ row.projectId = notification.projectId ∧
      row.transactionId = notification.transactionId ∧ row.channel = notification.channel then
    .error (integrityError "notifications_project_transaction_channel_unique")
  else if notification.id ∉ world.notifications.map (·.id) ∧
      ∃ topicId ∈ notification.topicId, topicId ∉ world.topics.map (·.id) then
    .error (integrityError "notifications_topic_id_fkey")
  else .ok { world with notifications := upsert (·.id) notification.toNotificationFields world.notifications }

/-- The row an UPDATE with the id and the project in its condition can meet. -/
def targetOf (notification : Notification) : Option NotificationFields :=
  world.notifications.find? fun row => row.projectId = notification.projectId ∧ row.id = notification.id

def claimForDelivery (processing : Notification) (expected : NotificationStatus) (staleBefore : Option Instant) :
    Checked (Bool × World) :=
  if expected = .processing ∧ staleBefore = none then
    .error (.valueError "A stale_before cutoff is required to reclaim work")
  else
    match world.targetOf processing with
    | none => .ok (false, world)
    | some row =>
        match Tiber.claimForDelivery row processing expected staleBefore with
        | .error error => .error error
        | .ok none => .ok (false, world)
        | .ok (some claimed) => .ok (true, { world with notifications := upsert (·.id) claimed world.notifications })

def cancelPending (cancelled : Notification) : Bool × World :=
  match (world.targetOf cancelled).bind fun row => Tiber.cancelPending row cancelled with
  | none => (false, world)
  | some row => (true, { world with notifications := upsert (·.id) row world.notifications })

def announce (row : OutboxRow) : World := { world with announced := world.announced ++ [row] }

def send (message : ProviderMessage) : World := { world with sent := world.sent ++ [message] }

def record (attempt : DeliveryAttempt) : World := { world with attempts := world.attempts ++ [attempt] }

end World

/-! ## States of the database -/

def NotificationIntake.topics (intake : NotificationIntake) : List ResolvedTopic :=
  intake.payload.topic.toList ++ (intake.plan.bind (·.topic)).toList

def NotificationIntake.TopicsIn (intake : NotificationIntake) (topics : List NotificationTopic) : Prop :=
  ∀ topic ∈ intake.topics, ∃ row ∈ topics, row.id = topic.id ∧ row.projectId = intake.projectId

/-- The keys of the schema, and what an intake's topics stand for: accepting and deciding look
them up in the intake's own project, and no statement deletes a topic. -/
structure Tables.Sound (tables : Tables) : Prop where
  recipients : (tables.recipients.map (·.id)).Nodup
  externalIds : ∀ projectId externalId, AtMostOne tables.recipients fun row =>
    row.projectId = projectId ∧ row.externalId = some externalId
  topicSlugs : ∀ projectId slug, AtMostOne tables.topics fun row => row.projectId = projectId ∧ row.topicSlug = slug
  templates : (tables.templates.map (·.id)).Nodup
  templateSlugs : ∀ projectId slug, AtMostOne tables.templates fun row =>
    row.projectId = projectId ∧ row.templateSlug = slug
  constraints : ∀ projectId, AtMostOne tables.constraints fun row => row.projectId = projectId
  intakes : (tables.intakes.map (·.id)).Nodup
  idempotencyKeys : ∀ projectId key, AtMostOne tables.intakes fun row => row.Keyed projectId key
  transactions : ∀ projectId transactionId, AtMostOne tables.intakes fun row =>
    row.projectId = projectId ∧ row.transactionId = transactionId
  notifications : (tables.notifications.map (·.id)).Nodup
  snapshots : ∀ intake ∈ tables.intakes, intake.TopicsIn tables.topics

structure Database extends Tables where
  sound : toTables.Sound

structure Tables.AgreeOn (projectId : Uuid) (tables others : Tables) : Prop where
  recipients : SameFor Recipient.projectId projectId tables.recipients others.recipients
  topics : SameFor NotificationTopic.projectId projectId tables.topics others.topics
  templates : SameFor Template.projectId projectId tables.templates others.templates
  constraints : SameFor DeliveryConstraint.projectId projectId tables.constraints others.constraints
  intakes : SameFor (fun row : NotificationIntake => row.projectId) projectId tables.intakes others.intakes
  notifications : SameFor NotificationFields.projectId projectId tables.notifications others.notifications

namespace Tables.AgreeOn

variable {projectId : Uuid} {tables others third : Tables}

theorem refl : AgreeOn projectId tables tables := ⟨.refl, .refl, .refl, .refl, .refl, .refl⟩

theorem symm (agree : AgreeOn projectId tables others) : AgreeOn projectId others tables :=
  ⟨agree.recipients.symm, agree.topics.symm, agree.templates.symm, agree.constraints.symm, agree.intakes.symm,
    agree.notifications.symm⟩

theorem trans (first : AgreeOn projectId tables others) (second : AgreeOn projectId others third) :
    AgreeOn projectId tables third :=
  ⟨first.recipients.trans second.recipients, first.topics.trans second.topics, first.templates.trans second.templates,
    first.constraints.trans second.constraints, first.intakes.trans second.intakes,
    first.notifications.trans second.notifications⟩

/-! ## Look-ups see the rows of their project -/

theorem recipientById_eq (agree : AgreeOn projectId tables others) (sound : tables.Sound) (sound' : others.Sound)
    (id : Uuid) : tables.recipientById id projectId = others.recipientById id projectId :=
  agree.recipients.find?_filter_eq sound.recipients sound'.recipients id

theorem templateById_eq (agree : AgreeOn projectId tables others) (sound : tables.Sound) (sound' : others.Sound)
    (id : Uuid) : tables.templateById id projectId = others.templateById id projectId :=
  agree.templates.find?_filter_eq sound.templates sound'.templates id

theorem notificationById_eq (agree : AgreeOn projectId tables others) (sound : tables.Sound) (sound' : others.Sound)
    (id : Uuid) : tables.notificationById id projectId = others.notificationById id projectId :=
  congrArg (Option.mapM Notification.build)
    (agree.notifications.find?_filter_eq sound.notifications sound'.notifications id)

theorem constraintOf_eq (agree : AgreeOn projectId tables others) (sound' : others.Sound) :
    tables.constraintOf projectId = others.constraintOf projectId :=
  agree.constraints.find?_eq (fun _ own => own) (sound'.constraints projectId)

theorem intakeByTransaction_eq (agree : AgreeOn projectId tables others) (sound' : others.Sound) (transactionId : Uuid) :
    tables.intakeByTransaction transactionId projectId = others.intakeByTransaction transactionId projectId :=
  agree.intakes.find?_eq (fun _ both => both.1) (sound'.transactions projectId transactionId)

theorem sorted_eq (agree : AgreeOn projectId tables others) (sound : tables.Sound) (sound' : others.Sound)
    {r : NotificationFields → NotificationFields → Prop} [DecidableRel r] [Std.Total r] [IsTrans NotificationFields r]
    (told : ∀ first second, r first second → r second first → first.id = second.id)
    {condition : NotificationFields → Prop} [DecidablePred condition]
    (own : ∀ row, condition row → row.projectId = projectId) :
    (tables.notifications.filter fun row => condition row).insertionSort r =
      (others.notifications.filter fun row => condition row).insertionSort r := by
  have listed := agree.notifications.filter_perm own (List.Nodup.of_map _ sound.notifications)
    (List.Nodup.of_map _ sound'.notifications)
  refine insertionSort_eq_of_perm listed fun first there second also below above => ?_
  exact List.inj_on_of_nodup_map sound.notifications (List.mem_of_mem_filter there) (List.mem_of_mem_filter also)
    (told first second below above)

theorem listByTransaction_eq (agree : AgreeOn projectId tables others) (sound : tables.Sound) (sound' : others.Sound)
    (transactionId : Uuid) : tables.listByTransaction transactionId projectId = others.listByTransaction transactionId projectId :=
  congrArg (List.mapM Notification.build) (agree.sorted_eq sound sound' (fun _ _ => NotificationFields.Older.id_eq)
    fun _ both => both.1)

theorem listByProject_eq (agree : AgreeOn projectId tables others) (sound : tables.Sound) (sound' : others.Sound)
    (limit offset : Nat) : tables.listByProject projectId limit offset = others.listByProject projectId limit offset := by
  have sorted := agree.sorted_eq sound sound' (r := NotificationFields.Newer)
    (fun _ _ first second => (NotificationFields.Older.id_eq second first)) fun _ own => own
  exact congrArg (fun rows => ((rows.drop offset).take limit).mapM Notification.build) sorted

end Tables.AgreeOn

end Tiber
