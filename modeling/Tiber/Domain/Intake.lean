import Tiber.Domain.Template
import Mathlib.Data.Fintype.Basic

/-! The accepted request before it is expanded: payload, decision space, plan
and the intake entity with its lease.
-/

set_option autoImplicit false

namespace Tiber

open Library

inductive ChannelSource where
  | client
  | ml
  | addresses
  | default
  deriving DecidableEq, Repr

inductive DecisionSource where
  | client
  | ml
  | default
  deriving DecidableEq, Repr

inductive ChannelMode where
  | client
  | addresses
  | ml
  deriving DecidableEq, Repr

structure ResolvedTopic where
  id : Uuid
  slug : Text
  category : NotificationCategory
  deriving DecidableEq, Repr

def NotificationTopic.resolved (topic : NotificationTopic) : ResolvedTopic :=
  ⟨topic.id, topic.topicSlug, topic.category⟩

/-! ## The payload -/

structure IntakePayloadFields where
  category : Option NotificationCategory := none
  topic : Option ResolvedTopic := none
  channels : Option (List DeliveryChannel) := none
  adhocChannels : Option (Finset DeliveryChannel) := none
  templateId : Option Uuid := none
  templateSlug : Option Text := none
  templateVariables : Option Variables := none
  content : Option NotificationContent := none
  groupKey : Option Text := none
  sendAt : Option Timestamp := none
  deriving DecidableEq

namespace IntakePayloadFields

def declaredCategory (fields : IntakePayloadFields) : Option NotificationCategory :=
  match fields.category with
  | some category => some category
  | none => fields.topic.map (·.category)

def conflict (fields : IntakePayloadFields) : Option (NotificationCategory × ResolvedTopic) :=
  match fields.category, fields.topic with
  | some category, some topic => if category = topic.category then none else some (category, topic)
  | _, _ => none

def complaint (fields : IntakePayloadFields) : Option String :=
  if fields.channels ≠ none ∧ fields.adhocChannels ≠ none then
    some "`channels` and address-based delivery are mutually exclusive"
  else if fields.channels = some [] then some "`channels` must not be empty"
  else if fields.adhocChannels = some ∅ then some "`adhoc_channels` must not be empty"
  else if fields.templateId = none ∧ fields.content = none then
    some "Either a template or direct content is required"
  else if fields.templateId = none ∧ fields.templateVariables ≠ none then
    some "`template_variables` requires a template"
  else match fields.conflict with
    | some (category, topic) => some
        ("`category` '" ++ category.value ++ "' conflicts with topic '" ++ String.ofList topic.slug ++
          "', which belongs to category '" ++ topic.category.value ++
          "'. Omit `category` to use the topic's, or choose a topic in that category.")
    | none =>
        match fields.sendAt with
        | none => none
        | some (.naive _) => some "`send_at` must be timezone-aware"
        | some (.aware _) =>
            if fields.declaredCategory = some .critical then
              some "`send_at` must not be set for CRITICAL notifications; they are sent immediately"
            else none

end IntakePayloadFields

structure IntakePayload extends IntakePayloadFields where
  quiet : toIntakePayloadFields.complaint = none

namespace IntakePayload

theorem ext_fields {first second : IntakePayload}
    (same : first.toIntakePayloadFields = second.toIntakePayloadFields) : first = second := by
  cases first; cases second; cases same; rfl

instance : DecidableEq IntakePayload := fun first second =>
  decidable_of_iff (first.toIntakePayloadFields = second.toIntakePayloadFields)
    ⟨ext_fields, congrArg _⟩

def build : IntakePayloadFields → Checked IntakePayload :=
  construct IntakePayloadFields.complaint fun fields quiet => ⟨fields, quiet⟩

theorem build_eq_ok {fields : IntakePayloadFields} {result : IntakePayload} :
    build fields = .ok result ↔ result.toIntakePayloadFields = fields :=
  construct_eq_ok toIntakePayloadFields (fun _ _ => rfl) (fun payload => payload.quiet) (fun _ _ => ext_fields)

theorem category_of_topic (payload : IntakePayload) {category : NotificationCategory} {topic : ResolvedTopic}
    (explicit : payload.category = some category) (named : payload.topic = some topic) :
    topic.category = category := by
  by_contra different
  have conflict : payload.conflict = some (category, topic) := by
    simp [IntakePayloadFields.conflict, explicit, named, Ne.symm different]
  have quiet := payload.quiet
  unfold IntakePayloadFields.complaint at quiet
  rw [conflict] at quiet
  split_ifs at quiet

theorem critical_unscheduled (payload : IntakePayload) (critical : payload.declaredCategory = some .critical) :
    payload.sendAt = none := by
  have quiet := payload.quiet
  unfold IntakePayloadFields.complaint at quiet
  split_ifs at quiet
  split at quiet
  · cases quiet
  · split at quiet
    · assumption
    · cases quiet
    · cases quiet

end IntakePayload

/-! ## The decision space -/

structure DecisionConstraintsFields where
  allowedCategories : Finset NotificationCategory
  defaultCategory : NotificationCategory
  channelMode : ChannelMode
  feasibleChannels : Finset DeliveryChannel
  maxChannels : Nat
  deriving DecidableEq

def DecisionConstraintsFields.complaint (fields : DecisionConstraintsFields) : Option String :=
  if fields.feasibleChannels = ∅ then some "`feasible_channels` must not be empty"
  else if fields.maxChannels < 1 then some "`max_channels` must be at least 1"
  else if fields.defaultCategory ∉ fields.allowedCategories then
    some "`default_category` must be one of `allowed_categories`"
  else none

structure DecisionConstraints extends DecisionConstraintsFields where
  quiet : toDecisionConstraintsFields.complaint = none

namespace DecisionConstraints

theorem ext_fields {first second : DecisionConstraints}
    (same : first.toDecisionConstraintsFields = second.toDecisionConstraintsFields) : first = second := by
  cases first; cases second; cases same; rfl

instance : DecidableEq DecisionConstraints := fun first second =>
  decidable_of_iff (first.toDecisionConstraintsFields = second.toDecisionConstraintsFields)
    ⟨ext_fields, congrArg _⟩

def build : DecisionConstraintsFields → Checked DecisionConstraints :=
  construct DecisionConstraintsFields.complaint fun fields quiet => ⟨fields, quiet⟩

theorem build_eq_ok {fields : DecisionConstraintsFields} {result : DecisionConstraints} :
    build fields = .ok result ↔ result.toDecisionConstraintsFields = fields :=
  construct_eq_ok toDecisionConstraintsFields (fun _ _ => rfl) (fun space => space.quiet)
    (fun _ _ => ext_fields)

theorem feasible_nonempty (space : DecisionConstraints) : space.feasibleChannels.Nonempty := by
  have quiet := space.quiet
  unfold DecisionConstraintsFields.complaint at quiet
  split_ifs at quiet with empty
  exact Finset.nonempty_iff_ne_empty.mpr empty

theorem maxChannels_pos (space : DecisionConstraints) : 1 ≤ space.maxChannels := by
  have quiet := space.quiet
  unfold DecisionConstraintsFields.complaint at quiet
  split_ifs at quiet with _ small
  omega

theorem default_allowed (space : DecisionConstraints) :
    space.defaultCategory ∈ space.allowedCategories := by
  have quiet := space.quiet
  unfold DecisionConstraintsFields.complaint at quiet
  split_ifs at quiet with _ _ foreign
  exact foreign

end DecisionConstraints

/-! ## Suggestion and plan -/

/-- Raw model output: nothing about it is trusted. -/
structure MlSuggestion where
  category : Option NotificationCategory := none
  topicSlug : Option Text := none
  channels : List DeliveryChannel := []
  sendAt : DeliveryChannel → Option Timestamp := fun _ => none
  modelVersion : Option String := none

structure NotificationPlanFields where
  category : NotificationCategory
  categorySource : DecisionSource
  topic : Option ResolvedTopic
  topicSource : Option DecisionSource
  channels : List DeliveryChannel
  channelSource : ChannelSource
  sendAt : DeliveryChannel → Option Timestamp := fun _ => none
  modelVersion : Option String := none
  deriving DecidableEq

def NotificationPlanFields.complaint (fields : NotificationPlanFields) : Option String :=
  if fields.channels = [] then some "A plan needs at least one channel"
  else if ¬ fields.channels.Nodup then some "Plan channels must be unique"
  else if ∃ channel, fields.sendAt channel ≠ none ∧ channel ∉ fields.channels then
    some "`send_at` names a channel not in the plan"
  else if ∃ channel, ((fields.sendAt channel).bind Timestamp.instant?).isNone ∧ fields.sendAt channel ≠ none then
    some "Plan send times must be timezone-aware"
  else none

structure NotificationPlan extends NotificationPlanFields where
  quiet : toNotificationPlanFields.complaint = none

namespace NotificationPlan

theorem ext_fields {first second : NotificationPlan}
    (same : first.toNotificationPlanFields = second.toNotificationPlanFields) : first = second := by
  cases first; cases second; cases same; rfl

instance : DecidableEq NotificationPlan := fun first second =>
  decidable_of_iff (first.toNotificationPlanFields = second.toNotificationPlanFields)
    ⟨ext_fields, congrArg _⟩

def build : NotificationPlanFields → Checked NotificationPlan :=
  construct NotificationPlanFields.complaint fun fields quiet => ⟨fields, quiet⟩

theorem build_eq_ok {fields : NotificationPlanFields} {result : NotificationPlan} :
    build fields = .ok result ↔ result.toNotificationPlanFields = fields :=
  construct_eq_ok toNotificationPlanFields (fun _ _ => rfl) (fun plan => plan.quiet) (fun _ _ => ext_fields)

theorem channels_ne_nil (plan : NotificationPlan) : plan.channels ≠ [] := by
  have quiet := plan.quiet
  unfold NotificationPlanFields.complaint at quiet
  split_ifs at quiet with empty
  exact empty

theorem channels_nodup (plan : NotificationPlan) : plan.channels.Nodup := by
  have quiet := plan.quiet
  unfold NotificationPlanFields.complaint at quiet
  split_ifs at quiet with _ repeated
  exact repeated

theorem sendAt_aware (plan : NotificationPlan) {channel : DeliveryChannel} {time : Timestamp}
    (planned : plan.sendAt channel = some time) : ∃ instant, time = .aware instant := by
  have quiet := plan.quiet
  unfold NotificationPlanFields.complaint at quiet
  split_ifs at quiet with _ _ _ naive
  cases time with
  | aware instant => exact ⟨instant, rfl⟩
  | naive wall => exact absurd ⟨channel, by simp [planned, Timestamp.instant?]⟩ naive

end NotificationPlan

/-! ## The intake entity -/

structure NotificationIntakeFields where
  id : Uuid
  projectId : Uuid
  transactionId : Uuid
  recipientId : Uuid
  payload : IntakePayload
  constraints : DecisionConstraints
  requestFingerprint : String
  idempotencyKey : Option Text := none
  status : IntakeStatus := .received
  plan : Option NotificationPlan := none
  attempts : Nat := 0
  claimedAt : Option Instant := none
  completedAt : Option Instant := none
  failureReason : Option String := none
  createdAt : Instant
  updatedAt : Instant
  deriving DecidableEq

namespace NotificationIntakeFields

/-- `__post_init__`. Attempts are a natural number and times are instants, so the
checks on their sign and on awareness have nothing to reject. -/
def complaint (fields : NotificationIntakeFields) : Option String :=
  if fields.idempotencyKey.any Text.blank then
    some "`idempotency_key` must be a non-empty string when provided"
  else if fields.status = .received ∧ (fields.plan ≠ none ∨ fields.claimedAt ≠ none) then
    some "A RECEIVED intake has no plan and has not been claimed"
  else if fields.status = .processing ∧ fields.claimedAt = none then
    some "`claimed_at` is required when status is PROCESSING"
  else if fields.status = .completed ∧ (fields.plan = none ∨ fields.completedAt = none) then
    some "`plan` and `completed_at` are required when status is COMPLETED"
  else if fields.status ≠ .completed ∧ fields.completedAt ≠ none then
    some "`completed_at` must only be set when status is COMPLETED"
  else if fields.status = .failed ∧ (fields.failureReason.all (· == "")) then
    some "`failure_reason` is required when status is FAILED"
  else if fields.status ≠ .failed ∧ fields.failureReason ≠ none then
    some "`failure_reason` must only be set when status is FAILED"
  else none

end NotificationIntakeFields

structure NotificationIntake extends NotificationIntakeFields where
  quiet : toNotificationIntakeFields.complaint = none

namespace NotificationIntake

theorem ext_fields {first second : NotificationIntake}
    (same : first.toNotificationIntakeFields = second.toNotificationIntakeFields) : first = second := by
  cases first; cases second; cases same; rfl

instance : DecidableEq NotificationIntake := fun first second =>
  decidable_of_iff (first.toNotificationIntakeFields = second.toNotificationIntakeFields)
    ⟨ext_fields, congrArg _⟩

def build : NotificationIntakeFields → Checked NotificationIntake :=
  construct NotificationIntakeFields.complaint fun fields quiet => ⟨fields, quiet⟩

theorem build_eq_ok {fields : NotificationIntakeFields} {result : NotificationIntake} :
    build fields = .ok result ↔ result.toNotificationIntakeFields = fields :=
  construct_eq_ok toNotificationIntakeFields (fun _ _ => rfl) (fun intake => intake.quiet)
    (fun _ _ => ext_fields)

theorem unplanned_when_received (intake : NotificationIntake) (received : intake.status = .received) :
    intake.plan = none := by
  have quiet := intake.quiet
  unfold NotificationIntakeFields.complaint at quiet
  split_ifs at quiet with _ early
  exact not_not.mp fun planned => early ⟨received, .inl planned⟩

variable (intake : NotificationIntake)

/-- RECEIVED, or PROCESSING under a lease that has expired. -/
def isClaimable (now : Instant) (lease : Int) : Bool :=
  match intake.status with
  | .received => true
  | .processing => intake.claimedAt.any fun claimedAt => claimedAt + lease ≤ now
  | .completed | .failed => false

/-- Take or retake the lease; a stored plan is kept. `stamp` is the clock reading of `_transition`. -/
def claim (now : Instant) (lease : Int) (stamp : Instant) : Checked NotificationIntake :=
  if intake.isClaimable now lease then
    build { intake.toNotificationIntakeFields with
      status := .processing, claimedAt := some now, attempts := intake.attempts + 1, updatedAt := stamp }
  else .error (.invalidStateTransition intake.status.value IntakeStatus.processing.value)

def withPlan (plan : NotificationPlan) (stamp : Instant) : Checked NotificationIntake :=
  if intake.status ≠ .processing then
    .error (.invalidEntityAttribute "`with_plan` is only valid while the intake is PROCESSING")
  else build { intake.toNotificationIntakeFields with plan := some plan, updatedAt := stamp }

def complete (now stamp : Instant) : Checked NotificationIntake :=
  if intake.status ≠ .processing then
    .error (.invalidStateTransition intake.status.value IntakeStatus.completed.value)
  else if intake.plan = none then
    .error (.invalidEntityAttribute "Cannot complete an intake without a plan")
  else build { intake.toNotificationIntakeFields with
    status := .completed, completedAt := some now, updatedAt := stamp }

def fail (reason : String) (stamp : Instant) : Checked NotificationIntake :=
  if intake.status ∉ [.received, .processing] then
    .error (.invalidStateTransition intake.status.value IntakeStatus.failed.value)
  else if reason = "" then
    .error (.invalidEntityAttribute "failure_reason is required when failing")
  else build { intake.toNotificationIntakeFields with
    status := .failed, failureReason := some reason, updatedAt := stamp }

variable {intake} {result : NotificationIntake}

theorem claim_eq_ok {now stamp : Instant} {lease : Int} :
    intake.claim now lease stamp = .ok result ↔
      intake.isClaimable now lease = true ∧
      result.toNotificationIntakeFields = { intake.toNotificationIntakeFields with
        status := .processing, claimedAt := some now, attempts := intake.attempts + 1, updatedAt := stamp } := by
  unfold claim
  split <;> simp_all [build_eq_ok]

theorem withPlan_eq_ok {plan : NotificationPlan} {stamp : Instant} :
    intake.withPlan plan stamp = .ok result ↔
      intake.status = .processing ∧
      result.toNotificationIntakeFields =
        { intake.toNotificationIntakeFields with plan := some plan, updatedAt := stamp } := by
  unfold withPlan
  split <;> simp_all [build_eq_ok]

theorem complete_eq_ok {now stamp : Instant} :
    intake.complete now stamp = .ok result ↔
      intake.status = .processing ∧ intake.plan ≠ none ∧
      result.toNotificationIntakeFields = { intake.toNotificationIntakeFields with
        status := .completed, completedAt := some now, updatedAt := stamp } := by
  unfold complete
  split
  · simp_all
  · split <;> simp_all [build_eq_ok]

theorem fail_eq_ok {reason : String} {stamp : Instant} :
    intake.fail reason stamp = .ok result ↔
      (intake.status = .received ∨ intake.status = .processing) ∧ reason ≠ "" ∧
      result.toNotificationIntakeFields = { intake.toNotificationIntakeFields with
        status := .failed, failureReason := some reason, updatedAt := stamp } := by
  unfold fail
  split
  · rename_i status
    simp only [List.mem_cons, List.not_mem_nil, or_false, not_or] at status
    simp [status]
  · rename_i status
    simp only [List.mem_cons, List.not_mem_nil, or_false, not_not] at status
    split
    · rename_i empty; simp [empty]
    · rename_i given; simp [build_eq_ok, status, given]

/-! ## Transitions that cannot fail -/

theorem claim_total {now : Instant} {lease : Int} (stamp : Instant)
    (claimable : intake.isClaimable now lease = true) :
    ∃ claimed, intake.claim now lease stamp = .ok claimed := by
  have quiet := intake.quiet
  have live : intake.status = .received ∨ intake.status = .processing := by
    unfold isClaimable at claimable
    split at claimable
    · exact .inl ‹_›
    · exact .inr ‹_›
    · cases claimable
    · cases claimable
  have live' : intake.status ≠ .completed ∧ intake.status ≠ .failed := by
    rcases live with status | status <;> simp [status]
  refine ⟨⟨{ intake.toNotificationIntakeFields with
      status := .processing, claimedAt := some now, attempts := intake.attempts + 1, updatedAt := stamp }, ?_⟩,
    claim_eq_ok.mpr ⟨claimable, rfl⟩⟩
  unfold NotificationIntakeFields.complaint at quiet ⊢
  split_ifs at quiet with blank _ _ _ early _ excuse
  simp only [ne_eq, not_and, not_not] at early excuse
  simp [blank, early live'.1, excuse live'.2]

theorem withPlan_total (plan : NotificationPlan) (stamp : Instant)
    (processing : intake.status = .processing) : ∃ planned, intake.withPlan plan stamp = .ok planned := by
  have quiet := intake.quiet
  refine ⟨⟨{ intake.toNotificationIntakeFields with plan := some plan, updatedAt := stamp }, ?_⟩,
    withPlan_eq_ok.mpr ⟨processing, rfl⟩⟩
  unfold NotificationIntakeFields.complaint at quiet ⊢
  simp only [processing] at quiet ⊢
  simpa using quiet

theorem complete_total (now stamp : Instant)
    (processing : intake.status = .processing) (planned : intake.plan ≠ none) :
    ∃ completed, intake.complete now stamp = .ok completed := by
  have quiet := intake.quiet
  refine ⟨⟨{ intake.toNotificationIntakeFields with
      status := .completed, completedAt := some now, updatedAt := stamp }, ?_⟩,
    complete_eq_ok.mpr ⟨processing, planned, rfl⟩⟩
  unfold NotificationIntakeFields.complaint at quiet ⊢
  simp only [processing] at quiet ⊢
  split_ifs at quiet with blank _ excuse
  simp_all

end NotificationIntake

end Tiber
