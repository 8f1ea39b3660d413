import Tiber.Infrastructure.Database

/-! The calls of one project against the tables of all: accept, process, deliver, cancel and the
queries.

A call is a program over the tables. Its transactions are all or nothing, and what an earlier one
has committed stays when a later one fails. The engine, the provider, the clock and the generated
ids are given.
-/

set_option autoImplicit false

namespace Tiber

open Library

abbrev Call (α : Type) := Program World PyError α

namespace Call

def write (change : World → Checked World) : Call Unit :=
  Program.statement fun world => (change world).map fun changed => ((), changed)

def find {α : Type} (query : Tables → Checked α) : Call α :=
  Program.statement fun world => (query world.toTables).map fun found => (found, world)

end Call

/-! ## Accepting -/

/-- What accepting a request comes to before anything is stored. -/
inductive Accepting where
  | replayed (answer : AcceptedIntake)
  | created (intake : NotificationIntake) (write : RecipientWrite) (priority : OutboxPriority)

def Tables.accepting (tables : Tables) (runtime : Runtime) (command : AcceptNotificationCommand) (minted : Minted) :
    Checked Accepting :=
  (accept runtime tables.registry command minted).map fun acceptance =>
    match acceptance with
    | .replayed answer => .replayed answer
    | .created creation =>
        .created creation.intake (recipientWrite runtime tables.recipients command creation.recipient) creation.priority

/-- `NotificationIntakeService.accept` -/
def acceptCall (runtime : Runtime) (command : AcceptNotificationCommand) (minted : Minted) : Call AcceptedIntake :=
  Program.transaction do
    match ← Call.find fun tables => tables.accepting runtime command minted with
    | .replayed answer => return answer
    | .created intake write priority =>
        Call.write fun world => world.storeRecipient write
        Call.write fun world => world.insertIntake intake
        Program.modify fun world => world.announce (enqueueIntake intake priority)
        return ⟨intake.transactionId, intake.projectId, false⟩

/-! ## Processing -/

structure Given where
  engine : Recipient → IntakePayload → DecisionConstraints → List Want → Option MlSuggestion
  child : DeliveryChannel → ChildReadings
  claiming : Instant
  claimed : Instant
  planning : Instant
  planned : Instant
  completing : Instant
  completed : Instant
  failed : Instant

def Given.surroundings (given : Given) (recipient : Recipient) : Surroundings where
  recipient := some recipient
  child := given.child
  claiming := given.claiming
  claimed := given.claimed
  planning := given.planning
  planned := given.planned
  completing := given.completing
  completed := given.completed
  failed := given.failed

section Process

variable (processor : IntakeProcessor) (given : Given)

def claimCall (intakeId : Uuid) : Call (Option NotificationIntake) :=
  Program.transaction do
    match ← Program.read fun world => world.intakeForUpdate intakeId with
    | none => return none
    | some intake =>
        if intake.isClaimable given.claiming processor.lease then do
          let claimed ← Program.lift (intake.claim given.claiming processor.lease given.claimed)
          Program.modify fun world => world.saveIntake claimed
          return some claimed
        else return none

def failCall (intakeId : Uuid) (reason : String) : Call Unit :=
  Program.transaction do
    match ← Program.read fun world => world.intakeForUpdate intakeId with
    | none => return
    | some current =>
        if current.status = .completed ∨ current.status = .failed then return
        else do
          let failed ← Program.lift (current.fail reason given.failed)
          Program.modify fun world => world.saveIntake failed

/-- `_decide`. The engine is asked only when something is open. -/
def decideCall (intake : NotificationIntake) (recipient : Recipient) : Call NotificationIntake := do
  let want := wantedDecisions intake.payload intake.constraints
  let answer := if want = [] then none else given.engine recipient intake.payload intake.constraints want
  let planned ← Call.find fun tables =>
    decidePlan intake { given.surroundings recipient with answer, topics := tables.topics }
  Program.transaction (Program.modify fun world => world.saveIntake planned)
  return planned

def saveChildren : List Notification → Call Unit
  | [] => return
  | child :: rest => do
      Call.write fun world => world.saveNotification child
      if child.announced then Program.modify fun world => world.announce (enqueueDispatch child)
      saveChildren rest

def fanOutCall (intake : NotificationIntake) (recipient : Recipient) : Call Unit := do
  let known ← Call.find fun tables => tables.listByTransaction intake.transactionId intake.projectId
  let constraint ← Program.read fun world => world.constraintOf intake.projectId
  let template ← Program.read fun world =>
    intake.payload.templateId.bind fun templateId => world.templateById templateId intake.projectId
  let children ← Program.lift (processor.makeChildren intake recipient
    { given.surroundings recipient with constraint, template, existing := (known.map (·.channel)).toFinset })
  Program.transaction do
    saveChildren children
    let completed ← Program.lift (intake.complete given.completing given.completed)
    Program.modify fun world => world.saveIntake completed

def carryOutCall (claimed : NotificationIntake) : Call Unit := do
  match ← Program.read fun world => world.recipientById claimed.recipientId claimed.projectId with
  | none => Program.fail (.entityNotFound "Recipient" (uuidText claimed.recipientId))
  | some recipient =>
      let planned ← if claimed.plan = none then decideCall given claimed recipient else pure claimed
      fanOutCall processor given planned recipient

/-- `IntakeProcessor.process` -/
def processCall (intakeId : Uuid) : Call Unit := do
  match ← claimCall processor given intakeId with
  | none => return
  | some claimed =>
      if processor.maxAttempts < claimed.attempts then
        failCall given claimed.id ("exceeded " ++ toString processor.maxAttempts ++ " processing attempts")
      else
        (carryOutCall processor given claimed).rescue fun error =>
          match IntakeProcessor.failureReason error with
          | some reason => failCall given claimed.id reason
          | none => Program.fail error

end Process

/-! ## Delivering -/

section Deliver

variable (processor : NotificationDeliveryProcessor) (provider : ProviderMessage → ProviderAnswer)

/-- The first transaction: the notification to return, or the claim to deliver under. -/
def prepareCall (notificationId projectId : Uuid) (clock : Readings) : Call (Notification ⊕ Claim) :=
  Program.transaction do
    match ← Call.find fun tables => tables.notificationById notificationId projectId with
    | none => Program.fail (.entityNotFound "Notification" (uuidText notificationId))
    | some loaded =>
        let recipient ← Program.read fun world => world.recipientById loaded.recipientId loaded.projectId
        let constraint ← Program.read fun world => world.constraintOf loaded.projectId
        let template ← Program.read fun world =>
          loaded.templateId.bind fun templateId => world.templateById templateId loaded.projectId
        match ← Program.lift (processor.prepare loaded { recipient, constraint, template } clock) with
        | .returned notification => return .inl notification
        | .verdict updated =>
            Call.write fun world => world.saveNotification updated
            return .inl updated
        | .claim claim =>
            let won ← Program.statement fun world =>
              world.claimForDelivery claim.processing claim.expectedStatus claim.staleBefore
            if won then return .inr claim
            else
              -- the row was read a statement ago, so it is there
              let current ← Call.find fun tables => tables.notificationById notificationId projectId
              return .inl (current.getD loaded)

def recordCall (claim : Claim) (answer : Option ProviderAnswer) (recording : Recording) : Call Notification :=
  Program.transaction do
    let (attempt, updated) ← Program.lift (processor.outcome claim answer recording)
    Program.modify fun world => world.record attempt
    Call.write fun world => world.saveNotification updated
    return updated

def Claim.message (claim : Claim) (address : Text) : ProviderMessage where
  recipientAddress := address
  content := claim.content
  notificationId := claim.processing.id
  transactionId := claim.processing.transactionId

/-- `NotificationDeliveryProcessor.process` -/
def deliverCall (notificationId projectId : Uuid) (clock : Readings) (recording : Recording) : Call Notification := do
  match ← prepareCall processor notificationId projectId clock with
  | .inl notification => return notification
  | .inr claim =>
      match claim.usableAddress with
      | none => recordCall processor claim none recording
      | some address =>
          Program.modify fun world => world.send (claim.message address)
          let recorded ← recordCall processor claim (some (provider (claim.message address))) recording
          match provider (claim.message address) with
          | .raised error => Program.fail error
          | .result .. => return recorded

end Deliver

/-! ## Cancelling and asking -/

/-- `NotificationCancellationService.cancel` -/
def cancelCall (projectId notificationId : Uuid) (stamp : Instant) : Call Unit :=
  Program.transaction do
    match ← Call.find fun tables => tables.notificationById notificationId projectId with
    | none => Program.fail (.entityNotFound "Notification" (uuidText notificationId))
    | some notification =>
        let cancelled ← Program.lift (notification.markCancelled none stamp)
        let done ← Program.statement fun world => .ok (world.cancelPending cancelled)
        if done then return
        else
          match ← Call.find fun tables => tables.notificationById notificationId projectId with
          | none => Program.fail (.entityNotFound "Notification" (uuidText notificationId))
          | some current =>
              Program.fail (.invalidStateTransition current.status.value NotificationStatus.cancelled.value)

def getNotificationCall (projectId notificationId : Uuid) : Call Notification := do
  match ← Call.find fun tables => tables.notificationById notificationId projectId with
  | none => Program.fail (.entityNotFound "Notification" (uuidText notificationId))
  | some notification =>
      if notification.projectId ≠ projectId then Program.fail (.entityNotFound "Notification" (uuidText notificationId))
      else return notification

def listNotificationsCall (projectId : Uuid) (limit offset : Nat) : Call (List Notification) :=
  Call.find fun tables => tables.listByProject projectId limit offset

structure NotificationRequestView where
  intake : NotificationIntake
  notifications : List Notification
  recipient : Recipient

def getRequestStatusCall (projectId transactionId : Uuid) : Call NotificationRequestView := do
  match ← Program.read fun world => world.intakeByTransaction transactionId projectId with
  | none => Program.fail (.entityNotFound "NotificationIntake" (uuidText transactionId))
  | some intake =>
      match ← Program.read fun world => world.recipientById intake.recipientId projectId with
      | none => Program.fail (.entityNotFound "Recipient" (uuidText intake.recipientId))
      | some recipient =>
          let notifications ← Call.find fun tables => tables.listByTransaction transactionId projectId
          return { intake, notifications, recipient }

/-! ## Any of them -/

inductive ProjectRequest where
  | accept (command : AcceptNotificationCommand) (minted : Minted)
  | process (intakeId : Uuid) (given : Given)
  | deliver (notificationId : Uuid) (clock : Readings) (recording : Recording)
      (provider : ProviderMessage → ProviderAnswer)
  | cancel (notificationId : Uuid) (stamp : Instant)
  | getNotification (notificationId : Uuid)
  | listNotifications (limit offset : Nat)
  | getRequestStatus (transactionId : Uuid)

inductive ProjectAnswer where
  | accepted (answer : AcceptedIntake)
  | done
  | notification (notification : Notification)
  | notifications (notifications : List Notification)
  | requestStatus (view : NotificationRequestView)

structure Services where
  runtime : Runtime
  intakes : IntakeProcessor
  deliveries : NotificationDeliveryProcessor

def ProjectRequest.call (services : Services) (projectId : Uuid) : ProjectRequest → Call ProjectAnswer
  | accept command minted => do return .accepted (← acceptCall services.runtime command minted)
  | process intakeId given => do
      processCall services.intakes given intakeId
      return .done
  | deliver notificationId clock recording provider => do
      return .notification (← deliverCall services.deliveries provider notificationId projectId clock recording)
  | cancel notificationId stamp => do
      cancelCall projectId notificationId stamp
      return .done
  | getNotification notificationId => do return .notification (← getNotificationCall projectId notificationId)
  | listNotifications limit offset => do return .notifications (← listNotificationsCall projectId limit offset)
  | getRequestStatus transactionId => do return .requestStatus (← getRequestStatusCall projectId transactionId)

end Tiber
