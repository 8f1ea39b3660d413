import Tiber.Application.IntakeProcessor
import Tiber.Infrastructure.NotificationRow

/-! From an accepted request to its children: when processing completes, which
category is sent, and whether the children can be stored.
-/

set_option autoImplicit false

namespace Tiber

open Library
open TemplateRenderer (Renderable)
open NotificationContent (titled)

theorem feasible_plannable {payload : IntakePayload} {constraints : DecisionConstraints}
    (agrees : Agrees payload constraints) {channel : DeliveryChannel}
    (feasible : channel ∈ constraints.feasibleChannels) {mlTopic : Option ResolvedTopic} {topics : List NotificationTopic}
    {projectId : Uuid} {now : Instant} {plan : NotificationPlan}
    (made : assemblePlan payload constraints
      (consult payload constraints (some { channels := [channel] }) topics projectId).1 mlTopic now = .ok plan) :
    channel ∈ plan.channels := by
  obtain ⟨-, -, chosen, -⟩ := assemblePlan_eq_ok made
  -- the engine is asked, and one feasible suggestion is within every limit
  have engine (mode : constraints.channelMode = .ml) : suggestedChannels constraints
      (consult payload constraints (some { channels := [channel] }) topics projectId).1 = [channel] := by
    have wanted : wantedDecisions payload constraints ≠ [] := by simp [wantedDecisions, mode]
    obtain ⟨more, limit⟩ : ∃ more, constraints.maxChannels = more + 1 :=
      ⟨constraints.maxChannels - 1, by have := constraints.maxChannels_pos; omega⟩
    simp [suggestedChannels, consult, wanted, feasible, distinct, limit]
  generalize plan.channels = channels, plan.channelSource = source at chosen ⊢
  cases planChannels_eq_ok.mp chosen with
  | client mode given =>
      -- the client has chosen: a feasible channel is one of its channels
      obtain ⟨channels, listed, same⟩ := agrees.client mode
      obtain rfl := Option.some.inj (given.symm.trans listed)
      rw [same, List.mem_toFinset] at feasible
      exact mem_distinct.mpr feasible
  | addresses mode given =>
      obtain rfl := Option.some.inj ((agrees.addresses mode).symm.trans given)
      exact mem_sortedChannels.mpr feasible
  | default mode empty =>
      rw [engine mode] at empty
      cases empty
  | ml mode some =>
      rw [engine mode]
      exact List.mem_singleton.mpr rfl

/-! ## Acceptance and processability -/

/-- The stored rows are as they were at acceptance, and no child exists yet. -/
structure Surroundings.Unchanged (around : Surroundings) (creation : Creation) : Prop where
  recipient : around.recipient = some creation.recipient
  template : around.template = creation.template
  topics : around.topics = creation.registry.topics
  existing : around.existing = ∅

/-- The processor as the worker task wires it. -/
def intakeWorker : IntakeProcessor := {}

def VariantsRender (command : AcceptNotificationCommand) (creation : Creation) : Prop :=
  ∀ template, creation.template = some template →
    ∀ channel ∈ creation.intake.constraints.feasibleChannels, ∀ variant,
      template.variants channel = some variant → Renderable variant.content command.templateVariables

/-- What acceptance knows about a feasible channel decides whether its child can be built. -/
theorem Established.child_isOk_iff {command : AcceptNotificationCommand} {creation : Creation}
    (established : Established command creation) {intake : NotificationIntake}
    (payload : intake.payload = creation.intake.payload) {plan : NotificationPlan} {channel : DeliveryChannel}
    (feasible : channel ∈ creation.intake.constraints.feasibleChannels) {readings : ChildReadings} :
    (∃ child, childContent intake plan channel creation.template readings = .ok child) ↔
      ∀ template, creation.template = some template → ∀ variant, template.variants channel = some variant →
        Renderable variant.content command.templateVariables := by
  obtain ⟨topic, fields⟩ := established.payload
  have deliverable := established.computed.deliverable channel feasible
  simp only [ConstraintRequest.problem, AcceptNotificationCommand.constraintRequest, renderProblem] at deliverable
  cases found : creation.template with
  | none =>
      rw [found] at deliverable
      -- direct content has been validated for the channel
      simp only [reduceCtorEq, false_implies, implies_true, iff_true]
      have direct : intake.payload.templateId = none := by
        rw [payload, fields]; simp [AcceptNotificationCommand.payload, found]
      cases given : command.content with
      | none => simp [given] at deliverable
      | some content =>
          have carried : intake.payload.content = some content := by rw [payload, fields]; exact given
          apply childContent_direct direct carried
          simp only [given] at deliverable
          cases valid : validateContent channel content with
          | ok done => rfl
          | error failure => simp [valid] at deliverable
  | some template =>
      rw [found] at deliverable
      cases held : template.variants channel with
      | none => simp [held] at deliverable
      | some variant =>
          -- a variant has been found, and only rendering is left
          have referenced : intake.payload.templateId = some template.id := by
            rw [payload, fields]; simp [AcceptNotificationCommand.payload, found]
          have mapping : intake.payload.templateVariables = command.templateVariables := by
            rw [payload, fields]; rfl
          rw [childContent_template referenced held, mapping]
          simp [held]

theorem acceptance_processable {runtime : Runtime} {registry : Registry} {command : AcceptNotificationCommand}
    {minted : Minted} {creation : Creation}
    (accepted : accept runtime registry command minted = .ok (.created creation)) :
    (∀ around : Surroundings, around.Unchanged creation →
      ∃ intake children, intakeWorker.process creation.intake around = .completed intake children) ↔
    VariantsRender command creation := by
  have established := accept_established accepted
  have agrees := established.agrees
  constructor
  · intro completes template found channel feasible variant held
    -- the engine suggests the channel in question, so its variant is rendered
    let around : Surroundings := {
      recipient := some creation.recipient
      answer := some { channels := [channel] }
      topics := creation.registry.topics
      template := creation.template
      child := fun _ => ⟨0, 0, 0, 0, 0, 0⟩
      claiming := 0, claimed := 0, planning := 0, planned := 0, completing := 0, completed := 0, failed := 0 }
    have known : around.recipient = some creation.recipient := rfl
    obtain ⟨plan, planned, same, assembled, fields⟩ :=
      IntakeProcessor.process_received intakeWorker established.received agrees known (by decide)
    have done := completes around ⟨rfl, rfl, rfl, rfl⟩
    rw [same, IntakeProcessor.fanOut_completes (by rw [fields]) (by rw [fields])] at done
    have built := done channel (feasible_plannable agrees feasible assembled) (Finset.notMem_empty _)
    exact (established.child_isOk_iff (by rw [fields]) feasible).mp built template found variant held
  · intro renders around unchanged
    obtain ⟨plan, planned, same, assembled, fields⟩ :=
      IntakeProcessor.process_received intakeWorker established.received agrees unchanged.recipient (by decide)
    rw [same, IntakeProcessor.fanOut_completes (by rw [fields]) (by rw [fields])]
    intro channel member _
    obtain ⟨made, total, inside⟩ := assemblePlan_total agrees
      (consult creation.intake.payload creation.intake.constraints around.answer around.topics
        creation.intake.projectId).1
      (consult creation.intake.payload creation.intake.constraints around.answer around.topics
        creation.intake.projectId).2 around.planning
    obtain rfl : made = plan := Except.ok.inj (total.symm.trans assembled)
    have feasible := inside channel member
    rw [unchanged.template, established.child_isOk_iff (by rw [fields]) feasible]
    exact fun template found variant held => renders template found channel feasible variant held

/-! A greeting by text message, accepted from an empty registry. -/

def cpython : Runtime where
  lower := List.map Char.toLower
  fingerprint _ := ""

def greeting (body : Text) (solid : Text.blank body = false) : Template where
  id := 5
  projectId := 1
  name := "Greeting".toList
  templateSlug := "greeting".toList
  variants channel := if channel = .sms then some ⟨.sms, ⟨body, none, [], [], solid⟩, rfl⟩ else none
  keyed channel variant held := by
    split at held
    · cases held
      exact Eq.symm ‹_›
    · cases held

def greet (mapping : Variables) : AcceptNotificationCommand where
  projectId := 1
  recipientId := none
  addresses channel := if channel = .sms then some "+15550100".toList else none
  channels := none
  category := none
  topicSlug := none
  templateSlug := some "greeting".toList
  templateVariables := some mapping
  content := none
  groupKey := none
  sendAt := none
  idempotencyKey := none

def firstIds : Minted := ⟨10, 11, 12, 0⟩

def atOnce (creation : Creation) : Surroundings where
  recipient := some creation.recipient
  template := creation.template
  topics := creation.registry.topics
  child _ := ⟨20, 0, 0, 0, 0, 0⟩
  claiming := 0
  claimed := 0
  planning := 0
  planned := 0
  completing := 0
  completed := 0
  failed := 0

def AcceptedThenFailed (template : Template) (mapping : Variables) : Prop :=
  ∃ creation failed, accept cpython { templates := [template] } (greet mapping) firstIds = .ok (.created creation) ∧
    (atOnce creation).Unchanged creation ∧
    intakeWorker.process creation.intake (atOnce creation) = .failed failed

def addressed : Template := greeting "Hi \x7b\x7bname\x7d\x7d".toList (by decide)

def numbered : Template := greeting "Hi \x7b\x7b1st\x7d\x7d".toList (by decide)

def bare : Template := greeting "\x7b\x7bname\x7d\x7d".toList (by decide)

/-- A variable that is `None`, a placeholder only the renderer sees, and a body that renders blank. -/
theorem accepted_request_fails :
    AcceptedThenFailed addressed [("name".toList, .null)] ∧
    AcceptedThenFailed numbered [] ∧
    AcceptedThenFailed bare [("name".toList, .string " ".toList)] :=
  ⟨⟨_, _, rfl, ⟨rfl, rfl, rfl, rfl⟩, rfl⟩, ⟨_, _, rfl, ⟨rfl, rfl, rfl, rfl⟩, rfl⟩,
    ⟨_, _, rfl, ⟨rfl, rfl, rfl, rfl⟩, rfl⟩⟩

/-- A greeting whose name is given completes, whatever the engine answers. -/
theorem accepted_request_completes :
    ∃ creation, accept cpython { templates := [addressed] } (greet [("name".toList, .string "Ada".toList)]) firstIds =
        .ok (.created creation) ∧
      ∀ around : Surroundings, around.Unchanged creation →
        ∃ intake children, intakeWorker.process creation.intake around = .completed intake children := by
  refine ⟨_, rfl, (@acceptance_processable cpython { templates := [addressed] }
    (greet [("name".toList, .string "Ada".toList)]) firstIds _ rfl).mpr ?_⟩
  rintro template found channel - variant held
  cases found
  cases channel <;> cases held
  decide

/-! ## Acceptance and category -/

theorem makeChild_category {processor : IntakeProcessor} {intake : NotificationIntake} {plan : NotificationPlan}
    {recipient : Recipient} {around : Surroundings} {channel : DeliveryChannel} {child : Notification}
    (made : processor.makeChild intake plan recipient around channel = .ok child) :
    child.category = plan.category := by
  rw [(IntakeProcessor.makeChild_identity made).1]
  rfl

/-- A declared category is the plan's and every child's, and the plan's topic belongs to the plan's category. -/
def CategoryHonoured (intake : NotificationIntake) (plan : NotificationPlan) : Prop :=
  (∀ category, intake.payload.declaredCategory = some category →
    plan.category = category ∧
    ∀ (processor : IntakeProcessor) recipient around channel child,
      processor.makeChild intake plan recipient around channel = .ok child → child.category = category) ∧
  ∀ topic, plan.topic = some topic → topic.category = plan.category

/-- The category a request ends up with: its own, else an answer that is not CRITICAL, else INFORMATIONAL. -/
def effectiveCategory (category : Option NotificationCategory) (answer : Option MlSuggestion) :
    NotificationCategory :=
  category.getD (((answer.bind (·.category)).filter (· ≠ .critical)).getD .informational)

theorem planCategory_effective {command : AcceptNotificationCommand} {creation : Creation}
    (established : Established command creation) (answer : Option MlSuggestion) (topics : List NotificationTopic)
    (projectId : Uuid) :
    (planCategory creation.intake.payload creation.intake.constraints
      (consult creation.intake.payload creation.intake.constraints answer topics projectId).1).1 =
      effectiveCategory command.category answer := by
  obtain ⟨topic, fields⟩ := established.payload
  have explicit : creation.intake.payload.category = command.category := by rw [fields]; rfl
  unfold planCategory effectiveCategory
  rw [explicit]
  cases given : command.category with
  | some category => rfl
  | none =>
      have wanted : wantedDecisions creation.intake.payload creation.intake.constraints ≠ [] := by
        simp [wantedDecisions, explicit, given]
      have allowed : creation.intake.constraints.allowedCategories = mlInferableCategories := by
        rw [established.computed.categories]
        simp [ConstraintRequest.allowedCategories, AcceptNotificationCommand.constraintRequest, given]
      have fallback : creation.intake.constraints.defaultCategory = .informational := by
        rw [established.computed.fallback]
        simp [ConstraintRequest.fallbackCategory, AcceptNotificationCommand.constraintRequest, given, defaultCategory]
      have inferable (category : NotificationCategory) : category ∈ mlInferableCategories ↔ category ≠ .critical := by
        simp [mlInferableCategories]
      simp only [consult, wanted, if_false, allowed, fallback, inferable, Option.getD_none]
      cases (answer.bind (·.category)).filter (· ≠ .critical) <;> rfl

/-- The topic a plan takes: the client's, else the engine's if the project has it. -/
def adoptedTopic (payload : IntakePayload) (constraints : DecisionConstraints) (answer : Option MlSuggestion)
    (topics : List NotificationTopic) (projectId : Uuid) : Option ResolvedTopic :=
  payload.topic.orElse fun _ => (consult payload constraints answer topics projectId).2

/-- The declared category is the one sent exactly when the adopted topic, if any, belongs to the
category the request ends up with. -/
theorem declared_category_honoured {runtime : Runtime} {registry : Registry} {command : AcceptNotificationCommand}
    {minted : Minted} {creation : Creation}
    (accepted : accept runtime registry command minted = .ok (.created creation)) (answer : Option MlSuggestion)
    (topics : List NotificationTopic) (now : Instant) :
    ∃ plan, assemblePlan creation.intake.payload creation.intake.constraints
        (consult creation.intake.payload creation.intake.constraints answer topics creation.intake.projectId).1
        (consult creation.intake.payload creation.intake.constraints answer topics creation.intake.projectId).2
        now = .ok plan ∧
      (CategoryHonoured creation.intake plan ↔
        ∀ topic, adoptedTopic creation.intake.payload creation.intake.constraints answer topics
            creation.intake.projectId = some topic →
          topic.category = effectiveCategory command.category answer) := by
  have established := accept_established accepted
  obtain ⟨plan, made, -⟩ := assemblePlan_total established.agrees
    (consult creation.intake.payload creation.intake.constraints answer topics creation.intake.projectId).1
    (consult creation.intake.payload creation.intake.constraints answer topics creation.intake.projectId).2 now
  obtain ⟨category, topic, -⟩ := assemblePlan_eq_ok made
  rw [planCategory_effective established] at category
  have adopted : plan.topic = adoptedTopic creation.intake.payload creation.intake.constraints answer topics
      creation.intake.projectId := by
    rw [topic, planTopic_fst, adoptedTopic]
  refine ⟨plan, made, ?_⟩
  rw [← adopted, ← category]
  -- a declared category is explicit, or that of the client's topic
  refine ⟨fun honoured => honoured.2, fun fits => ⟨fun declared same => ?_, fits⟩⟩
  have sent : plan.category = declared := by
    obtain ⟨client, fields⟩ := established.payload
    unfold IntakePayloadFields.declaredCategory at same
    split at same
    · rename_i explicit
      cases same
      rw [fields] at explicit
      rw [category, effectiveCategory, show command.category = some declared from explicit]
      rfl
    · obtain ⟨topic, named, rfl⟩ := Option.map_eq_some_iff.mp same
      exact (fits topic (by rw [adopted, adoptedTopic, named]; rfl)).symm
  exact ⟨sent, fun processor recipient around channel child made => (makeChild_category made).trans sent⟩

/-! A promotional offer sent under its topic alone. -/

def offers : NotificationTopic where
  id := 8
  projectId := 1
  category := .promotional
  title := "Offers".toList
  topicSlug := "offers".toList

theorem offer_solid : Text.blank "Half price today".toList = false := rfl

def offer (category : Option NotificationCategory) : AcceptNotificationCommand where
  projectId := 1
  recipientId := none
  addresses channel := if channel = .sms then some "+15550100".toList else none
  channels := none
  category
  topicSlug := some "offers".toList
  templateSlug := none
  templateVariables := none
  content := some ⟨"Half price today".toList, none, [], [], offer_solid⟩
  groupKey := none
  sendAt := none
  idempotencyKey := none

/-- The client declared PROMOTIONAL through its topic; the plan says INFORMATIONAL. -/
theorem topic_category_lost :
    ∃ creation plan, accept cpython { topics := [offers] } (offer none) firstIds = .ok (.created creation) ∧
      assemblePlan creation.intake.payload creation.intake.constraints
        (consult creation.intake.payload creation.intake.constraints (some {}) [offers] 1).1
        (consult creation.intake.payload creation.intake.constraints (some {}) [offers] 1).2 0 = .ok plan ∧
      creation.intake.payload.declaredCategory = some .promotional ∧ plan.category = .informational ∧
      plan.topic = some offers.resolved :=
  ⟨_, _, rfl, rfl, rfl, rfl, rfl⟩

theorem spelled_category_kept :
    ∃ creation plan, accept cpython { topics := [offers] } (offer (some .promotional)) firstIds =
        .ok (.created creation) ∧
      assemblePlan creation.intake.payload creation.intake.constraints
        (consult creation.intake.payload creation.intake.constraints (some {}) [offers] 1).1
        (consult creation.intake.payload creation.intake.constraints (some {}) [offers] 1).2 0 = .ok plan ∧
      CategoryHonoured creation.intake plan := by
  obtain ⟨plan, made, honoured⟩ := @declared_category_honoured cpython { topics := [offers] }
    (offer (some .promotional)) firstIds _ rfl (some {}) [offers] 0
  refine ⟨_, plan, rfl, made, honoured.mpr ?_⟩
  intro topic adopted
  cases adopted
  rfl

/-! ## Acceptance and storage -/

def SourceUntitled (intake : NotificationIntake) (template : Option Template) (channel : DeliveryChannel) : Prop :=
  match intake.payload.templateId with
  | none => ∀ content, intake.payload.content = some content → content.title = none
  | some _ => ∀ held, template = some held → ∀ variant, held.variants channel = some variant →
      titled variant.content.title = false

theorem TemplateVariant.email_titled {variant : TemplateVariant} (email : variant.channel = .email) :
    titled variant.content.title = true := by
  have demand := (validateContent_eq_ok.mp variant.valid).1 email
  cases title : variant.content.title with
  | none => simp [title] at demand
  | some text =>
      cases text with
      | nil => simp [title, Text.blank] at demand
      | cons head tail => rfl

theorem childContent_title {intake : NotificationIntake} {plan : NotificationPlan} {channel : DeliveryChannel}
    {template : Option Template} {readings : ChildReadings} {child : Notification}
    (made : childContent intake plan channel template readings = .ok child) :
    (channel = .email → child.content.title ≠ none) ∧
      (child.content.title = none ↔ SourceUntitled intake template channel) := by
  unfold childContent at made
  unfold SourceUntitled
  split at made
  · rename_i templateId referenced
    simp only [Checked.bind_eq_ok] at made
    obtain ⟨provisional, created, content, resolved, rendered⟩ := made
    have fields := Notification.build_eq_ok.mp created
    have stored : child.content = content := by rw [Notification.withContent_eq_ok.mp rendered]
    simp only [resolveContent, fields, childFields, referenced] at resolved
    rw [stored]
    split at resolved
    · cases resolved
    · rename_i held
      split at resolved
      · cases resolved
      · rename_i variant found
        -- rendering keeps whether there is a title
        have title := TemplateRenderer.render_title resolved
        have keyed := held.keyed channel variant found
        constructor
        · intro email absent
          rw [TemplateVariant.email_titled (keyed.trans email), absent] at title
          cases title
        · simp only [referenced, Option.some.injEq, forall_eq', found, ← title]
          cases content.title <;> simp
  · rename_i direct
    split at made
    · cases made
    · rename_i content given
      obtain ⟨_, valid, created⟩ := Checked.bind_eq_ok.mp made
      have stored : child.content = content := by rw [Notification.build_eq_ok.mp created]; rfl
      rw [stored]
      constructor
      · intro email absent
        have demand := (validateContent_eq_ok.mp valid).1 email
        simp [absent] at demand
      · simp [direct, given]

/-- A child that fan-out builds is storable exactly on email, or when its content has no title. -/
theorem child_storable_iff {processor : IntakeProcessor} {intake : NotificationIntake} {plan : NotificationPlan}
    {recipient : Recipient} {around : Surroundings} {channel : DeliveryChannel} {child : Notification}
    (made : processor.makeChild intake plan recipient around channel = .ok child) :
    child.toModel.Storable ↔ channel = .email ∨ SourceUntitled intake around.template channel := by
  obtain ⟨created, creating, own, same⟩ := IntakeProcessor.makeChild_created made
  obtain ⟨email, title⟩ := childContent_title creating
  rw [Notification.toModel_storable_iff, own, same, ← title]
  tauto

def sale : AcceptNotificationCommand where
  projectId := 1
  recipientId := none
  addresses channel := if channel = .push then some "token".toList else none
  channels := none
  category := none
  topicSlug := none
  templateSlug := none
  templateVariables := none
  content := some ⟨"Half price today".toList, some "Sale".toList, [], [], offer_solid⟩
  groupKey := none
  sendAt := none
  idempotencyKey := none

/-- It is accepted and expanded, and its only child violates the check on the subject. -/
theorem titled_push_unstorable :
    ∃ creation intake child, accept cpython {} sale firstIds = .ok (.created creation) ∧
      (atOnce creation).Unchanged creation ∧
      intakeWorker.process creation.intake (atOnce creation) = .completed intake [child] ∧
      ¬ child.toModel.subjectCheck ∧ ¬ child.toModel.Storable := by
  refine ⟨_, _, _, rfl, ⟨rfl, rfl, rfl, rfl⟩, rfl, ?_, ?_⟩
  · rintro (⟨email, -⟩ | ⟨-, absent⟩)
    · cases email
    · cases absent
  · rw [Notification.toModel_storable_iff]
    decide

def greetingPlan : NotificationPlan where
  category := .informational
  categorySource := .default
  topic := none
  topicSource := none
  channels := [.sms]
  channelSource := .addresses
  quiet := rfl

/-- A text message has no title and is stored. -/
theorem greeting_storable :
    ∃ creation child,
      accept cpython { templates := [addressed] } (greet [("name".toList, .string "Ada".toList)]) firstIds =
        .ok (.created creation) ∧
      intakeWorker.makeChild creation.intake greetingPlan creation.recipient (atOnce creation) .sms = .ok child ∧
      child.toModel.Storable := by
  obtain ⟨creation, child, accepted, made, found, referenced⟩ : ∃ creation child,
      accept cpython { templates := [addressed] } (greet [("name".toList, .string "Ada".toList)]) firstIds =
        .ok (.created creation) ∧
      intakeWorker.makeChild creation.intake greetingPlan creation.recipient (atOnce creation) .sms = .ok child ∧
      creation.template = some addressed ∧ creation.intake.payload.templateId = some 5 :=
    ⟨_, _, rfl, rfl, rfl, rfl⟩
  refine ⟨creation, child, accepted, made, (child_storable_iff made).mpr (.inr ?_)⟩
  simp only [SourceUntitled, referenced, atOnce, found]
  rintro held same variant kept
  cases same
  cases kept
  rfl

end Tiber
