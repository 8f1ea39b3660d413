import Tiber.Domain.Decision
import Tiber.Domain.Recipient

/-! Accepting a request: replay, lookups, recipient resolution, decision space,
intake. One transaction over the stored rows.

The fingerprint is a hash and lower-casing is Unicode's, so both are given.
Stored rows have distinct identifiers, and a request whose transaction runs
alone meets no creation race.
-/

set_option autoImplicit false

namespace Tiber

open Library

structure AcceptNotificationCommand where
  projectId : Uuid
  recipientId : Option Text
  addresses : Addresses
  channels : Option (List DeliveryChannel)
  category : Option NotificationCategory
  topicSlug : Option Text
  templateSlug : Option Text
  templateVariables : Option Variables
  content : Option NotificationContent
  groupKey : Option Text
  sendAt : Option Timestamp
  idempotencyKey : Option Text

structure Registry where
  recipients : List Recipient := []
  topics : List NotificationTopic := []
  templates : List Template := []
  intakes : List NotificationIntake := []

/-- `str.lower` and `request_fingerprint`. -/
structure Runtime where
  lower : Text → Text
  fingerprint : AcceptNotificationCommand → String

structure Minted where
  intakeId : Uuid
  transactionId : Uuid
  recipientId : Uuid
  now : Instant

/-! ## Recipient resolution -/

def normalizeAddress (runtime : Runtime) (channel : DeliveryChannel) (value : Text) : Text :=
  if channel = .email then runtime.lower (Text.strip value) else Text.strip value

def normalizeAddresses (runtime : Runtime) (addresses : Addresses) : Addresses := fun channel =>
  (addresses channel).map (normalizeAddress runtime channel)

namespace Recipient

def create (projectId : Uuid) (addresses : Addresses) (minted : Minted) : Checked Recipient :=
  if reachable : addresses.channels ≠ ∅ then .ok {
    id := minted.recipientId
    projectId, addresses
    preferences := {}
    createdAt := minted.now
    updatedAt := minted.now
    reachable
    opted_out_known := Finset.empty_subset _ }
  else .error (.invalidEntityAttribute "Recipient addresses must not be empty")

def updateAddresses (recipient : Recipient) (addresses : Addresses) (now : Instant) : Checked Recipient :=
  if reachable : addresses.channels ≠ ∅ then
    if opted_out_known : recipient.preferences.optedOutChannels ⊆ addresses.channels then
      .ok { recipient with addresses, updatedAt := now, reachable, opted_out_known }
    else .error (.valueError
      ("Recipient opted-out channels must have configured destination addresses: " ++
        namesText ((sortedChannels (recipient.preferences.optedOutChannels \ addresses.channels)).map
          DeliveryChannel.value)))
  else .error (.valueError "Addresses must not be empty")

end Recipient

/-- `find_by_addresses`: the live recipients of the project that hold one of the pairs. -/
def findByAddresses (recipients : List Recipient) (projectId : Uuid) (addresses : Addresses) :
    List Recipient :=
  recipients.filter fun recipient => recipient.projectId = projectId ∧ recipient.archivedAt = none ∧
    ∃ channel, (addresses channel).isSome ∧ recipient.addresses channel = addresses channel

def saveRecipient (recipients : List Recipient) (updated : Recipient) : List Recipient :=
  recipients.map fun recipient => if recipient.id = updated.id then updated else recipient

def extend (recipients : List Recipient) (existing : Recipient) (supplied : Addresses) (now : Instant) :
    Checked (Recipient × List Recipient) :=
  let conflicts := supplied.channels.filter fun channel =>
    (existing.addresses channel).isSome ∧ existing.addresses channel ≠ supplied channel
  if conflicts ≠ ∅ then .error (.addressConflict
    ("Recipient already has a different address for: " ++
      namesText ((sortedChannels conflicts).map DeliveryChannel.value)))
  else if supplied.channels ⊆ existing.addresses.channels then .ok (existing, recipients)
  else do
    let updated ← existing.updateAddresses
      (fun channel => (existing.addresses channel).orElse fun _ => supplied channel) now
    return (updated, saveRecipient recipients updated)

def resolveAdhoc (runtime : Runtime) (recipients : List Recipient) (projectId : Uuid) (addresses : Addresses)
    (minted : Minted) : Checked (Recipient × List Recipient) :=
  if addresses.channels = ∅ then .error (.valueError "Address-based requests need at least one address")
  else
    let normalized := normalizeAddresses runtime addresses
    match findByAddresses recipients projectId normalized with
    | [] => do
        let created ← Recipient.create projectId normalized minted
        return (created, created :: recipients)
    | [existing] => extend recipients existing normalized minted.now
    | _ => .error (.ambiguousRecipient
        ("Supplied addresses belong to different recipients. " ++
          "Send them in separate requests or register a recipient."))

/-- `RecipientResolutionService.resolve` -/
def resolveRecipient (runtime : Runtime) (recipients : List Recipient) (command : AcceptNotificationCommand)
    (minted : Minted) : Checked (Recipient × List Recipient) :=
  match command.recipientId with
  | some recipientId =>
      if command.addresses.channels ≠ ∅ then
        .error (.valueError "Provide either `recipient_id` or addresses, not both")
      else
        match recipients.find? fun recipient =>
            recipient.projectId = command.projectId ∧ recipient.externalId = some recipientId with
        | some recipient => .ok (recipient, recipients)
        | none => .error (.entityNotFound "Recipient" (String.ofList recipientId))
  | none => resolveAdhoc runtime recipients command.projectId command.addresses minted

/-! ## Lookups and replay -/

def requireTopic (topics : List NotificationTopic) (command : AcceptNotificationCommand) :
    Checked (Option ResolvedTopic) :=
  match command.topicSlug with
  | none => .ok none
  | some slug =>
      match topics.find? fun topic => topic.projectId = command.projectId ∧ topic.topicSlug = slug with
      | some topic => .ok (some topic.resolved)
      | none => .error (.entityNotFound "NotificationTopic" (String.ofList slug))

def requireTemplate (templates : List Template) (command : AcceptNotificationCommand) :
    Checked (Option Template) :=
  match command.templateSlug with
  | none => .ok none
  | some slug =>
      match templates.find? fun template =>
          template.projectId = command.projectId ∧ template.templateSlug = slug with
      | some template => .ok (some template)
      | none => .error (.entityNotFound "Template" (String.ofList slug))

structure AcceptedIntake where
  transactionId : Uuid
  projectId : Uuid
  replayed : Bool := false
  deriving DecidableEq

def byIdempotencyKey (intakes : List NotificationIntake) (projectId : Uuid) (key : Text) :
    Option NotificationIntake :=
  intakes.find? fun intake => intake.projectId = projectId ∧ intake.idempotencyKey = some key

def replay (runtime : Runtime) (intakes : List NotificationIntake) (command : AcceptNotificationCommand) :
    Checked (Option AcceptedIntake) :=
  match command.idempotencyKey.bind (byIdempotencyKey intakes command.projectId) with
  | none => .ok none
  | some existing =>
      if existing.requestFingerprint ≠ runtime.fingerprint command then .error .idempotencyKeyConflict
      else .ok (some ⟨existing.transactionId, existing.projectId, true⟩)

def NotificationIntake.Keyed (intake : NotificationIntake) (projectId : Uuid) (key : Text) : Prop :=
  intake.projectId = projectId ∧ intake.idempotencyKey = some key

instance {intake : NotificationIntake} {projectId : Uuid} {key : Text} : Decidable (intake.Keyed projectId key) :=
  inferInstanceAs (Decidable (_ ∧ _))

section Replay

variable {runtime : Runtime} {intakes : List NotificationIntake} {command : AcceptNotificationCommand}

theorem byIdempotencyKey_eq_some {projectId : Uuid} {key : Text} {intake : NotificationIntake}
    (found : byIdempotencyKey intakes projectId key = some intake) :
    intake ∈ intakes ∧ intake.Keyed projectId key := by
  unfold byIdempotencyKey at found
  have same := List.find?_some found
  rw [decide_eq_true_eq] at same
  exact ⟨List.mem_of_find?_eq_some found, same⟩

theorem replay_eq_answer {answer : AcceptedIntake} (found : replay runtime intakes command = .ok (some answer)) :
    ∃ key, command.idempotencyKey = some key ∧ ∃ intake ∈ intakes, intake.Keyed command.projectId key ∧
      intake.requestFingerprint = runtime.fingerprint command ∧ answer.transactionId = intake.transactionId := by
  unfold replay at found
  split at found
  · cases found
  · rename_i intake stored
    obtain ⟨key, keyed, stored⟩ := Option.bind_eq_some_iff.mp stored
    obtain ⟨member, same⟩ := byIdempotencyKey_eq_some stored
    split at found
    · cases found
    · rename_i agrees
      cases found
      exact ⟨key, keyed, intake, member, same, not_not.mp agrees, rfl⟩

theorem replay_eq_error {error : PyError} (failed : replay runtime intakes command = .error error) :
    error = .idempotencyKeyConflict ∧ ∃ key, command.idempotencyKey = some key ∧ ∃ intake ∈ intakes,
      intake.Keyed command.projectId key ∧ intake.requestFingerprint ≠ runtime.fingerprint command := by
  unfold replay at failed
  split at failed
  · cases failed
  · rename_i intake stored
    obtain ⟨key, keyed, stored⟩ := Option.bind_eq_some_iff.mp stored
    obtain ⟨member, same⟩ := byIdempotencyKey_eq_some stored
    split at failed
    · rename_i differs
      cases failed
      exact ⟨rfl, key, keyed, intake, member, same, differs⟩
    · cases failed

theorem replay_eq_none (nothing : replay runtime intakes command = .ok none) {key : Text}
    (keyed : command.idempotencyKey = some key) : ∀ intake ∈ intakes, ¬ intake.Keyed command.projectId key := by
  unfold replay at nothing
  split at nothing
  · rename_i absent
    rw [keyed, Option.bind_some] at absent
    simpa [byIdempotencyKey, NotificationIntake.Keyed] using absent
  · split at nothing <;> cases nothing

end Replay

/-! ## The service -/

inductive OutboxPriority where
  | high
  | normal
  deriving DecidableEq, Repr

structure Creation where
  intake : NotificationIntake
  recipient : Recipient
  template : Option Template
  priority : OutboxPriority
  registry : Registry

def Creation.answer (creation : Creation) : AcceptedIntake :=
  ⟨creation.intake.transactionId, creation.intake.projectId, false⟩

inductive Acceptance where
  | replayed (answer : AcceptedIntake)
  | created (creation : Creation)

namespace AcceptNotificationCommand

variable (command : AcceptNotificationCommand)

def constraintRequest (recipient : Recipient) (template : Option Template) : ConstraintRequest where
  availableChannels :=
    if command.recipientId = none then command.addresses.channels else recipient.addresses.channels
  adhoc := command.recipientId.isNone
  requestedChannels := command.channels
  optedOut := recipient.preferences.optedOutChannels
  clientCategory := command.category
  template
  templateVariables := command.templateVariables
  content := command.content

def payload (topic : Option ResolvedTopic) (template : Option Template) : IntakePayloadFields where
  category := command.category
  topic
  channels := command.channels.filter (!·.isEmpty)
  adhocChannels := if command.recipientId = none then some command.addresses.channels else none
  templateId := template.map (·.id)
  templateSlug := template.map (·.templateSlug)
  templateVariables := command.templateVariables
  content := command.content
  groupKey := command.groupKey
  sendAt := command.sendAt

def priority : OutboxPriority := if command.category = some .critical then .high else .normal

end AcceptNotificationCommand

/-- `intakes.add`: the unique index on project and idempotency key. -/
def addIntake (intakes : List NotificationIntake) (intake : NotificationIntake) :
    Checked (List NotificationIntake) :=
  if intake.idempotencyKey.any fun key => (byIdempotencyKey intakes intake.projectId key).isSome then
    .error .intakeAlreadyExists
  else .ok (intake :: intakes)

/-- The rows of a new request, before they are stored. -/
def expand (runtime : Runtime) (registry : Registry) (command : AcceptNotificationCommand) (minted : Minted) :
    Checked Creation := do
  let topic ← requireTopic registry.topics command
  let template ← requireTemplate registry.templates command
  let (recipient, recipients) ← resolveRecipient runtime registry.recipients command minted
  let constraints ← computeConstraints (command.constraintRequest recipient template)
  let payload ← IntakePayload.build (command.payload topic template)
  let intake ← NotificationIntake.build {
    id := minted.intakeId
    projectId := command.projectId
    transactionId := minted.transactionId
    recipientId := recipient.id
    payload, constraints
    requestFingerprint := runtime.fingerprint command
    idempotencyKey := command.idempotencyKey
    createdAt := minted.now
    updatedAt := minted.now }
  return { intake, recipient, template, priority := command.priority
           registry := { registry with recipients } }

/-- `NotificationIntakeService.accept` -/
def accept (runtime : Runtime) (registry : Registry) (command : AcceptNotificationCommand) (minted : Minted) :
    Checked Acceptance := do
  match ← replay runtime registry.intakes command with
  | some answer => return .replayed answer
  | none =>
      let creation ← expand runtime registry command minted
      match addIntake registry.intakes creation.intake with
      | .ok intakes =>
          return .created { creation with registry := { creation.registry with intakes } }
      | .error lost =>
          match ← replay runtime registry.intakes command with
          | some answer => return .replayed answer
          | none => .error lost

/-! ## What acceptance establishes -/

structure Established (command : AcceptNotificationCommand) (creation : Creation) : Prop where
  received : creation.intake.status = .received ∧ creation.intake.attempts = 0 ∧ creation.intake.plan = none
  project : creation.intake.projectId = command.projectId
  recipient : creation.intake.recipientId = creation.recipient.id
  payload : ∃ topic, creation.intake.payload.toIntakePayloadFields = command.payload topic creation.template
  computed : Computed (command.constraintRequest creation.recipient creation.template) creation.intake.constraints

theorem expand_established {runtime : Runtime} {registry : Registry} {command : AcceptNotificationCommand}
    {minted : Minted} {creation : Creation} (expanded : expand runtime registry command minted = .ok creation) :
    Established command creation := by
  simp only [expand, Checked.bind_eq_ok, Prod.exists] at expanded
  obtain ⟨topic, -, template, -, recipient, recipients, -, constraints, computed, payload, built, intake, made,
    same⟩ := expanded
  cases same
  have fields := NotificationIntake.build_eq_ok.mp made
  constructor
  · simp only [fields, and_self]
  · simp only [fields]
  · simp only [fields]
  · exact ⟨topic, by simp only [fields, IntakePayload.build_eq_ok.mp built]⟩
  · simp only [fields]
    exact computeConstraints_eq_ok computed

theorem expand_identity {runtime : Runtime} {registry : Registry} {command : AcceptNotificationCommand}
    {minted : Minted} {creation : Creation} (expanded : expand runtime registry command minted = .ok creation) :
    creation.intake.projectId = command.projectId ∧ creation.intake.idempotencyKey = command.idempotencyKey ∧
      creation.intake.requestFingerprint = runtime.fingerprint command := by
  simp only [expand, Checked.bind_eq_ok, Prod.exists] at expanded
  obtain ⟨topic, -, template, -, recipient, recipients, -, constraints, -, payload, -, intake, made, same⟩ := expanded
  cases same
  simp only [NotificationIntake.build_eq_ok.mp made, and_self]

/-- A new request found no intake to replay and was expanded from the rows it found. -/
theorem accept_created {runtime : Runtime} {registry : Registry} {command : AcceptNotificationCommand}
    {minted : Minted} {creation : Creation}
    (accepted : accept runtime registry command minted = .ok (.created creation)) :
    replay runtime registry.intakes command = .ok none ∧
      ∃ fresh intakes, expand runtime registry command minted = .ok fresh ∧
        addIntake registry.intakes fresh.intake = .ok intakes ∧
        creation = { fresh with registry := { fresh.registry with intakes } } := by
  simp only [accept, Checked.bind_eq_ok] at accepted
  obtain ⟨known, found, accepted⟩ := accepted
  split at accepted
  · cases accepted
  · obtain ⟨fresh, expanded, stored⟩ := Checked.bind_eq_ok.mp accepted
    split at stored
    · rename_i intakes added
      cases stored
      exact ⟨found, fresh, intakes, expanded, added, rfl⟩
    · obtain ⟨again, -, ended⟩ := Checked.bind_eq_ok.mp stored
      split at ended
      · cases ended
      · cases ended

theorem accept_expanded {runtime : Runtime} {registry : Registry} {command : AcceptNotificationCommand}
    {minted : Minted} {creation : Creation}
    (accepted : accept runtime registry command minted = .ok (.created creation)) :
    ∃ fresh, expand runtime registry command minted = .ok fresh ∧ creation.intake = fresh.intake ∧
      creation.recipient = fresh.recipient ∧ creation.template = fresh.template := by
  obtain ⟨-, fresh, intakes, expanded, -, rfl⟩ := accept_created accepted
  exact ⟨fresh, expanded, rfl, rfl, rfl⟩

theorem expand_intakes {runtime : Runtime} {registry : Registry} {command : AcceptNotificationCommand}
    {minted : Minted} {creation : Creation} (expanded : expand runtime registry command minted = .ok creation)
    (intakes : List NotificationIntake) :
    expand runtime { registry with intakes } command minted =
      .ok { creation with registry := { creation.registry with intakes } } := by
  simp only [expand, Checked.bind_eq_ok, Prod.exists] at expanded ⊢
  obtain ⟨topic, found, template, held, recipient, recipients, resolved, constraints, computed, payload, built, intake,
    made, same⟩ := expanded
  cases same
  exact ⟨topic, found, template, held, recipient, recipients, resolved, constraints, computed, payload, built, intake,
    made, rfl⟩

theorem addIntake_eq_ok {intakes after : List NotificationIntake} {intake : NotificationIntake}
    (added : addIntake intakes intake = .ok after) :
    after = intake :: intakes ∧ ∀ key, intake.idempotencyKey = some key →
      ∀ stored ∈ intakes, ¬ stored.Keyed intake.projectId key := by
  unfold addIntake at added
  split at added
  · cases added
  · rename_i absent
    cases added
    refine ⟨rfl, fun key named stored member same => absent ?_⟩
    rw [named, Option.any_some, byIdempotencyKey, List.find?_isSome]
    exact ⟨stored, member, decide_eq_true same⟩

theorem accept_established {runtime : Runtime} {registry : Registry} {command : AcceptNotificationCommand}
    {minted : Minted} {creation : Creation}
    (accepted : accept runtime registry command minted = .ok (.created creation)) :
    Established command creation := by
  obtain ⟨fresh, expanded, intake, recipient, template⟩ := accept_expanded accepted
  obtain ⟨received, project, named, payload, computed⟩ := expand_established expanded
  rw [← intake] at received project named payload computed
  rw [← recipient] at named computed
  rw [← template] at payload computed
  exact ⟨received, project, named, payload, computed⟩

/-- Payload and decision space of an accepted request name the same channels. -/
theorem Established.agrees {command : AcceptNotificationCommand} {creation : Creation}
    (established : Established command creation) :
    Agrees creation.intake.payload creation.intake.constraints := by
  obtain ⟨topic, fields⟩ := established.payload
  constructor
  · intro mode
    obtain ⟨channels, requested, nonempty, feasible⟩ := established.computed.byClient mode
    refine ⟨channels, ?_, feasible⟩
    have named : command.channels = some channels := requested
    simp [fields, AcceptNotificationCommand.payload, named, nonempty]
  · intro mode
    have adhoc : command.recipientId = none := by
      simpa [AcceptNotificationCommand.constraintRequest] using established.computed.adhoc.mpr mode
    have feasible := established.computed.byAddresses mode
    simp only [AcceptNotificationCommand.constraintRequest, adhoc, if_true] at feasible
    simp [fields, AcceptNotificationCommand.payload, adhoc, feasible]

end Tiber
