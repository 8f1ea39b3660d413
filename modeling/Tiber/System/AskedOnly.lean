import Tiber.System.Advisory
import Tiber.System.DecisionSpace

/-! The model influences only what it was asked: two answers that agree on the
wanted decisions lead to one plan, and the plan says where each value came from. -/

set_option autoImplicit false

namespace Tiber

open Library

structure AgreeOn (want : List Want) (first second : MlSuggestion) : Prop where
  category : .category ∈ want → first.category = second.category
  topic : .topic ∈ want → first.topicSlug = second.topicSlug
  channels : .channels ∈ want → first.channels = second.channels
  sendAt : .sendTime ∈ want → first.sendAt = second.sendAt

def NotificationPlan.unversioned (plan : NotificationPlan) : NotificationPlanFields :=
  { plan.toNotificationPlanFields with modelVersion := none }

section
variable {payload : IntakePayload} {constraints : DecisionConstraints}

theorem category_wanted : .category ∈ wantedDecisions payload constraints ↔ payload.category = none := by
  unfold wantedDecisions
  split <;> split <;> split <;> simp_all

theorem channels_wanted : .channels ∈ wantedDecisions payload constraints ↔ constraints.channelMode = .ml := by
  unfold wantedDecisions
  split <;> split <;> split <;> simp_all

theorem topic_wanted : .topic ∈ wantedDecisions payload constraints ↔
    payload.category ≠ some .critical ∧ payload.topic = none := by
  unfold wantedDecisions
  split <;> split <;> split <;> simp_all

theorem sendTime_wanted : .sendTime ∈ wantedDecisions payload constraints ↔
    payload.category ≠ some .critical ∧ payload.sendAt = none := by
  unfold wantedDecisions
  split <;> split <;> split <;> simp_all

theorem assemblePlan_fields {ml : Option MlSuggestion} {mlTopic : Option ResolvedTopic} {now : Instant}
    {plan : NotificationPlan} :
    assemblePlan payload constraints ml mlTopic now = .ok plan ↔
      ∃ channels source, planChannels payload constraints ml = .ok (channels, source) ∧
        plan.toNotificationPlanFields = {
          category := (planCategory payload constraints ml).1
          categorySource := (planCategory payload constraints ml).2
          topic := (planTopic payload mlTopic).1
          topicSource := (planTopic payload mlTopic).2
          channels, channelSource := source
          sendAt := planSendAt payload ml (planCategory payload constraints ml).1 channels now
          modelVersion := ml.bind (·.modelVersion) } := by
  unfold assemblePlan
  simp only [Checked.bind_eq_ok, Prod.exists, NotificationPlan.build_eq_ok]

def suggestedTopic (answer : Option MlSuggestion) (topics : List NotificationTopic) (projectId : Uuid) :
    Option ResolvedTopic :=
  ((answer.bind (·.topicSlug)).filter fun slug => !slug.isEmpty).bind fun slug =>
    (topics.find? fun topic => topic.projectId = projectId ∧ topic.topicSlug = slug).map (·.resolved)

theorem consult_answer (answer : Option MlSuggestion) (topics : List NotificationTopic) (projectId : Uuid)
    {want : Want} (open' : want ∈ wantedDecisions payload constraints) :
    (consult payload constraints answer topics projectId).1 = answer := by
  have some : wantedDecisions payload constraints ≠ [] := List.ne_nil_of_mem open'
  simp [consult, some]

theorem consult_topic (answer : Option MlSuggestion) (topics : List NotificationTopic) (projectId : Uuid) :
    (consult payload constraints answer topics projectId).2 =
      if .topic ∈ wantedDecisions payload constraints then suggestedTopic answer topics projectId else none := by
  unfold consult suggestedTopic
  by_cases wanted : .topic ∈ wantedDecisions payload constraints
  · simp [wanted, List.ne_nil_of_mem wanted]
  · by_cases nothing : wantedDecisions payload constraints = []
    · simp [nothing]
    · simp [wanted, nothing]

/-! ## Noninterference -/

variable {first second : MlSuggestion}

theorem planCategory_agrees (agree : AgreeOn (wantedDecisions payload constraints) first second)
    (topics : List NotificationTopic) (projectId : Uuid) :
    planCategory payload constraints (consult payload constraints (some first) topics projectId).1 =
      planCategory payload constraints (consult payload constraints (some second) topics projectId).1 := by
  unfold planCategory
  cases given : payload.category with
  | some category => rfl
  | none =>
      have wanted : .category ∈ wantedDecisions payload constraints := category_wanted.mpr given
      rw [consult_answer _ _ _ wanted, consult_answer _ _ _ wanted]
      simp only [Option.bind_some, agree.category wanted]

theorem consult_topic_agrees (agree : AgreeOn (wantedDecisions payload constraints) first second)
    (topics : List NotificationTopic) (projectId : Uuid) :
    (consult payload constraints (some first) topics projectId).2 =
      (consult payload constraints (some second) topics projectId).2 := by
  rw [consult_topic, consult_topic]
  by_cases wanted : .topic ∈ wantedDecisions payload constraints
  · simp only [suggestedTopic, Option.bind_some, agree.topic wanted]
  · simp [wanted]

theorem planChannels_agrees (agree : AgreeOn (wantedDecisions payload constraints) first second)
    (topics : List NotificationTopic) (projectId : Uuid) :
    planChannels payload constraints (consult payload constraints (some first) topics projectId).1 =
      planChannels payload constraints (consult payload constraints (some second) topics projectId).1 := by
  unfold planChannels
  cases mode : constraints.channelMode with
  | client => rfl
  | addresses => rfl
  | ml =>
      have wanted : .channels ∈ wantedDecisions payload constraints := channels_wanted.mpr mode
      rw [consult_answer _ _ _ wanted, consult_answer _ _ _ wanted]
      have same : suggestedChannels constraints (some first) = suggestedChannels constraints (some second) := by
        simp only [suggestedChannels, Option.map_some, agree.channels wanted]
      rw [same]

/-- A send time counts only where it was wanted: for CRITICAL the category is planned as declared. -/
theorem planSendAt_agrees (agree : AgreeOn (wantedDecisions payload constraints) first second)
    (topics : List NotificationTopic) (projectId : Uuid) (channels : List DeliveryChannel) (now : Instant) :
    planSendAt payload (consult payload constraints (some first) topics projectId).1
        (planCategory payload constraints (consult payload constraints (some first) topics projectId).1).1 channels now =
      planSendAt payload (consult payload constraints (some second) topics projectId).1
        (planCategory payload constraints (consult payload constraints (some second) topics projectId).1).1
        channels now := by
  rw [planCategory_agrees agree]
  funext channel
  by_cases wanted : .sendTime ∈ wantedDecisions payload constraints
  · rw [consult_answer _ _ _ wanted, consult_answer _ _ _ wanted]
    simp only [planSendAt, agree.sendAt wanted]
  · have unused : payload.sendAt = none → (planCategory payload constraints
        (consult payload constraints (some second) topics projectId).1).1 = .critical := by
      intro unset
      have critical : payload.category = some .critical := by
        by_contra ordinary
        exact wanted (sendTime_wanted.mpr ⟨ordinary, unset⟩)
      simp [planCategory, critical]
    have nothing : ∀ ml, planSendAt payload ml (planCategory payload constraints
        (consult payload constraints (some second) topics projectId).1).1 channels now channel = none := by
      intro ml
      unfold planSendAt
      cases ml with
      | none => rfl
      | some ml => exact if_neg fun ⟨unset, ordinary, _⟩ => ordinary (unused unset)
    rw [nothing, nothing]

/-- Two plans for one request differ in the model's version at most. -/
theorem plans_agree (agree : AgreeOn (wantedDecisions payload constraints) first second)
    {topics : List NotificationTopic} {projectId : Uuid} {now : Instant} {one two : NotificationPlan}
    (assembled : assemblePlan payload constraints (consult payload constraints (some first) topics projectId).1
      (consult payload constraints (some first) topics projectId).2 now = .ok one)
    (again : assemblePlan payload constraints (consult payload constraints (some second) topics projectId).1
      (consult payload constraints (some second) topics projectId).2 now = .ok two) :
    one.unversioned = two.unversioned := by
  obtain ⟨channels, source, chosen, fields⟩ := assemblePlan_fields.mp assembled
  obtain ⟨channels', source', chosen', fields'⟩ := assemblePlan_fields.mp again
  rw [planChannels_agrees agree, chosen'] at chosen
  cases chosen
  simp only [NotificationPlan.unversioned, fields, fields']
  rw [planSendAt_agrees agree, planCategory_agrees agree, consult_topic_agrees agree]

/-! ## Where each value comes from -/

/-- The values of a plan and their source tags, next to what the client supplied
and what the model answered. -/
structure Sourced (payload : IntakePayload) (constraints : DecisionConstraints) (answer : Option MlSuggestion)
    (topic : Option ResolvedTopic) (plan : NotificationPlan) : Prop where
  categoryClient : plan.categorySource = .client ↔ payload.category ≠ none
  categoryMl : plan.categorySource = .ml ↔ payload.category = none ∧
    ∃ category ∈ answer.bind (·.category), category ∈ constraints.allowedCategories
  categoryDefault : plan.categorySource = .default ↔ payload.category = none ∧
    ¬ ∃ category ∈ answer.bind (·.category), category ∈ constraints.allowedCategories
  categoryKept : ∀ category ∈ payload.category, plan.category = category
  categoryTaken : plan.categorySource = .ml → answer.bind (·.category) = some plan.category
  categoryFallen : plan.categorySource = .default → plan.category = constraints.defaultCategory
  topicClient : plan.topicSource = some .client ↔ payload.topic ≠ none
  topicMl : plan.topicSource = some .ml ↔ payload.topic = none ∧ payload.category ≠ some .critical ∧ topic ≠ none
  topicAbsent : plan.topicSource = none ↔ plan.topic = none
  topicKept : ∀ supplied ∈ payload.topic, plan.topic = some supplied
  topicTaken : plan.topicSource = some .ml → plan.topic = topic
  channelsClient : plan.channelSource = .client ↔ payload.channels ≠ none
  channelsAddresses : plan.channelSource = .addresses ↔ payload.adhocChannels ≠ none
  channelsMl : plan.channelSource = .ml ↔ payload.channels = none ∧ payload.adhocChannels = none ∧
    ∃ channel ∈ (answer.map (·.channels)).getD [], channel ∈ constraints.feasibleChannels
  channelsDefault : plan.channelSource = .default ↔ payload.channels = none ∧ payload.adhocChannels = none ∧
    ¬ ∃ channel ∈ (answer.map (·.channels)).getD [], channel ∈ constraints.feasibleChannels
  channelsKept : ∀ channels ∈ payload.channels, plan.channels.toFinset = channels.toFinset
  addressesKept : ∀ channels ∈ payload.adhocChannels, plan.channels.toFinset = channels
  channelsTaken : plan.channelSource = .ml →
    ∀ channel ∈ plan.channels, channel ∈ (answer.map (·.channels)).getD []

theorem category_sourced (answer : Option MlSuggestion) (topics : List NotificationTopic) (projectId : Uuid)
    {category : NotificationCategory} {source : DecisionSource}
    (planned : planCategory payload constraints (consult payload constraints answer topics projectId).1 =
      (category, source)) :
    (source = .client ↔ payload.category ≠ none) ∧
    (source = .ml ↔ payload.category = none ∧
      ∃ category ∈ answer.bind (·.category), category ∈ constraints.allowedCategories) ∧
    (source = .default ↔ payload.category = none ∧
      ¬ ∃ category ∈ answer.bind (·.category), category ∈ constraints.allowedCategories) ∧
    (∀ supplied ∈ payload.category, category = supplied) ∧
    (source = .ml → answer.bind (·.category) = some category) ∧
    (source = .default → category = constraints.defaultCategory) := by
  cases given : payload.category with
  | some supplied =>
      simp only [planCategory, given, Prod.mk.injEq] at planned
      obtain ⟨rfl, rfl⟩ := planned
      simp
  | none =>
      have wanted : .category ∈ wantedDecisions payload constraints := category_wanted.mpr given
      rw [consult_answer _ _ _ wanted] at planned
      simp only [planCategory, given] at planned
      cases conformed : (answer.bind (·.category)).filter (· ∈ constraints.allowedCategories) with
      | some suggested =>
          rw [conformed] at planned
          obtain ⟨rfl, rfl⟩ := Prod.mk.inj planned
          obtain ⟨suggested, allowed⟩ := Option.filter_eq_some_iff.mp conformed
          simpa [suggested] using allowed
      | none =>
          rw [conformed] at planned
          obtain ⟨rfl, rfl⟩ := Prod.mk.inj planned
          simpa [Option.filter_eq_none_iff] using conformed

theorem topic_sourced (answer : Option MlSuggestion) (topics : List NotificationTopic) (projectId : Uuid)
    {topic : Option ResolvedTopic} {source : Option DecisionSource}
    (planned : planTopic payload (consult payload constraints answer topics projectId).2 = (topic, source)) :
    (source = some .client ↔ payload.topic ≠ none) ∧
    (source = some .ml ↔ payload.topic = none ∧ payload.category ≠ some .critical ∧
      suggestedTopic answer topics projectId ≠ none) ∧
    (source = none ↔ topic = none) ∧
    (∀ supplied ∈ payload.topic, topic = supplied) ∧
    (source = some .ml → topic = suggestedTopic answer topics projectId) := by
  rw [consult_topic] at planned
  cases given : payload.topic with
  | some supplied =>
      simp only [planTopic, given, Prod.mk.injEq] at planned
      obtain ⟨rfl, rfl⟩ := planned
      simp
  | none =>
      by_cases critical : payload.category = some .critical
      · have unwanted : ¬ .topic ∈ wantedDecisions payload constraints := fun wanted =>
          (topic_wanted.mp wanted).1 critical
        simp only [planTopic, given, unwanted, if_false, Prod.mk.injEq] at planned
        obtain ⟨rfl, rfl⟩ := planned
        simp [critical]
      · have wanted : .topic ∈ wantedDecisions payload constraints := topic_wanted.mpr ⟨critical, given⟩
        simp only [planTopic, given, wanted, if_true] at planned
        cases found : suggestedTopic answer topics projectId with
        | none =>
            rw [found] at planned
            obtain ⟨rfl, rfl⟩ := Prod.mk.inj planned
            simp
        | some suggested =>
            rw [found] at planned
            obtain ⟨rfl, rfl⟩ := Prod.mk.inj planned
            simp [critical]

structure Modes (payload : IntakePayload) (constraints : DecisionConstraints) : Prop where
  client : constraints.channelMode = .client ↔ payload.channels ≠ none
  addresses : constraints.channelMode = .addresses ↔ payload.adhocChannels ≠ none

theorem suggestedChannels_eq_nil {answer : Option MlSuggestion} :
    suggestedChannels constraints answer = [] ↔
      ¬ ∃ channel ∈ (answer.map (·.channels)).getD [], channel ∈ constraints.feasibleChannels := by
  have positive := constraints.maxChannels_pos
  unfold suggestedChannels
  rw [List.take_eq_nil_iff, or_iff_right (by omega)]
  simp only [List.eq_nil_iff_forall_not_mem, mem_distinct, List.mem_filter, decide_eq_true_eq, not_exists]

theorem mem_suggested {answer : Option MlSuggestion} {channel : DeliveryChannel}
    (member : channel ∈ suggestedChannels constraints answer) :
    channel ∈ (answer.map (·.channels)).getD [] := by
  have kept := List.mem_of_mem_take member
  simp only [mem_distinct, List.mem_filter] at kept
  exact kept.1

theorem channels_sourced (modes : Modes payload constraints)
    (answer : Option MlSuggestion) (topics : List NotificationTopic) (projectId : Uuid)
    {channels : List DeliveryChannel} {source : ChannelSource}
    (planned : planChannels payload constraints (consult payload constraints answer topics projectId).1 =
      .ok (channels, source)) :
    (source = .client ↔ payload.channels ≠ none) ∧
    (source = .addresses ↔ payload.adhocChannels ≠ none) ∧
    (source = .ml ↔ payload.channels = none ∧ payload.adhocChannels = none ∧
      ∃ channel ∈ (answer.map (·.channels)).getD [], channel ∈ constraints.feasibleChannels) ∧
    (source = .default ↔ payload.channels = none ∧ payload.adhocChannels = none ∧
      ¬ ∃ channel ∈ (answer.map (·.channels)).getD [], channel ∈ constraints.feasibleChannels) ∧
    (∀ supplied ∈ payload.channels, channels.toFinset = supplied.toFinset) ∧
    (∀ supplied ∈ payload.adhocChannels, channels.toFinset = supplied) ∧
    (source = .ml → ∀ channel ∈ channels, channel ∈ (answer.map (·.channels)).getD []) := by
  have unlisted : payload.channels = none ↔ constraints.channelMode ≠ .client := by
    rw [ne_eq, modes.client, not_not]
  have unaddressed : payload.adhocChannels = none ↔ constraints.channelMode ≠ .addresses := by
    rw [ne_eq, modes.addresses, not_not]
  rw [← modes.client, ← modes.addresses, unlisted, unaddressed]
  have engine (mode : constraints.channelMode = .ml) :
      (consult payload constraints answer topics projectId).1 = answer :=
    consult_answer _ _ _ (channels_wanted.mpr mode)
  cases planChannels_eq_ok.mp planned with
  | client mode given =>
      have registered := unaddressed.mpr (by rw [mode]; nofun)
      simp only [given, registered, mode, Option.mem_some_iff, forall_eq', Option.not_mem_none]
      refine ⟨by simp, by simp, by simp, by simp, ?_, by simp, by simp⟩
      ext channel
      simp
  | addresses mode given =>
      have none := unlisted.mpr (by rw [mode]; nofun)
      simp only [given, none, mode, Option.mem_some_iff, forall_eq', Option.not_mem_none]
      refine ⟨by simp, by simp, by simp, by simp, by simp, ?_, by simp⟩
      ext channel
      simp
  | default mode empty =>
      have none := unlisted.mpr (by rw [mode]; nofun)
      have registered := unaddressed.mpr (by rw [mode]; nofun)
      rw [engine mode] at empty
      simp [none, registered, mode, suggestedChannels_eq_nil.mp empty]
  | ml mode some =>
      have none := unlisted.mpr (by rw [mode]; nofun)
      have registered := unaddressed.mpr (by rw [mode]; nofun)
      rw [engine mode] at some ⊢
      have offered := not_not.mp fun nothing => some (suggestedChannels_eq_nil.mpr nothing)
      simp only [none, registered, mode, Option.not_mem_none, offered]
      refine ⟨by simp, by simp, by simp, by simp, by simp, by simp, fun _ channel member => mem_suggested member⟩

theorem sourced_of_assembled (modes : Modes payload constraints)
    {answer : Option MlSuggestion} {topics : List NotificationTopic} {projectId : Uuid} {now : Instant}
    {plan : NotificationPlan}
    (assembled : assemblePlan payload constraints (consult payload constraints answer topics projectId).1
      (consult payload constraints answer topics projectId).2 now = .ok plan) :
    Sourced payload constraints answer (suggestedTopic answer topics projectId) plan := by
  obtain ⟨channels, source, chosen, fields⟩ := assemblePlan_fields.mp assembled
  obtain ⟨categoryClient, categoryMl, categoryDefault, categoryKept, categoryTaken, categoryFallen⟩ :=
    @category_sourced payload constraints answer topics projectId _ _ rfl
  obtain ⟨topicClient, topicMl, topicAbsent, topicKept, topicTaken⟩ :=
    @topic_sourced payload constraints answer topics projectId _ _ rfl
  obtain ⟨channelsClient, channelsAddresses, channelsMl, channelsDefault, channelsKept, addressesKept,
    channelsTaken⟩ := channels_sourced modes answer topics projectId chosen
  constructor
  all_goals rw [fields]
  all_goals assumption

end

theorem modes_of_accepted {runtime : Runtime} {registry : Registry} {command : AcceptNotificationCommand}
    {minted : Minted} {creation : Creation}
    (accepted : accept runtime registry command minted = .ok (.created creation)) :
    Modes creation.intake.payload creation.intake.constraints := by
  have computed := accept_computed accepted
  have wellFormed := wellFormed_of_computed computed
  have mode := mode_of_computed computed
  obtain ⟨topic, fields⟩ := (accept_established accepted).payload
  have channels : creation.intake.payload.channels = command.channels.filter (!·.isEmpty) := by rw [fields]; rfl
  have addresses : creation.intake.payload.adhocChannels =
      if command.recipientId = none then some command.addresses.channels else none := by rw [fields]; rfl
  by_cases adhoc : command.recipientId = none
  · have asked : (command.constraintRequest creation.recipient creation.template).adhoc = true := by
      simp [AcceptNotificationCommand.constraintRequest, adhoc]
    have plain : command.channels.getD [] = [] := (wellFormed asked).2
    have none : command.channels.filter (!·.isEmpty) = none := by
      rw [Option.filter_eq_none_iff]
      intro listed given
      simpa [given] using plain
    rw [ConstraintRequest.named, if_pos asked] at mode
    rw [if_pos adhoc] at addresses
    exact ⟨by simp [mode, channels, none], by simp [mode, addresses]⟩
  · have asked : ¬ (command.constraintRequest creation.recipient creation.template).adhoc = true := by
      simp [AcceptNotificationCommand.constraintRequest, adhoc]
    have listed : (command.constraintRequest creation.recipient creation.template).requestedChannels =
      command.channels := rfl
    rw [ConstraintRequest.named, if_neg asked, listed] at mode
    rw [if_neg adhoc] at addresses
    cases given : command.channels with
    | none => exact ⟨by simp [mode, channels, given], by simp [mode, addresses, given]⟩
    | some requested =>
        cases requested with
        | nil => exact ⟨by simp [mode, channels, given], by simp [mode, addresses, given]⟩
        | cons first rest => exact ⟨by simp [mode, channels, given], by simp [mode, addresses, given]⟩

/-- A plan is decided from the wanted decisions alone, keeps what the client
supplied and tells where the rest comes from. -/
theorem suggestion_confined {runtime : Runtime} {registry : Registry} {command : AcceptNotificationCommand}
    {minted : Minted} {creation : Creation}
    (accepted : accept runtime registry command minted = .ok (.created creation))
    (claimed : NotificationIntake) (payload : claimed.payload = creation.intake.payload)
    (constraints : claimed.constraints = creation.intake.constraints)
    (processing : claimed.status = .processing) (around : Surroundings) :
    (∀ first second : MlSuggestion, AgreeOn (wantedDecisions claimed.payload claimed.constraints) first second →
      ∃ one two plan plan', decidePlan claimed { around with answer := some first } = .ok one ∧
        decidePlan claimed { around with answer := some second } = .ok two ∧
        one.plan = some plan ∧ two.plan = some plan' ∧ plan.unversioned = plan'.unversioned) ∧
    ∃ planned plan, decidePlan claimed around = .ok planned ∧ planned.plan = some plan ∧
      Sourced claimed.payload claimed.constraints around.answer
        (suggestedTopic around.answer around.topics claimed.projectId) plan := by
  have agrees : Agrees claimed.payload claimed.constraints := by
    rw [payload, constraints]
    exact (accept_established accepted).agrees
  have modes : Modes claimed.payload claimed.constraints := by
    rw [payload, constraints]
    exact modes_of_accepted accepted
  -- the decision never fails, whatever the answer
  have decides : ∀ around : Surroundings, ∃ planned plan, decidePlan claimed around = .ok planned ∧
      planned.plan = some plan ∧ assemblePlan claimed.payload claimed.constraints
        (consult claimed.payload claimed.constraints around.answer around.topics claimed.projectId).1
        (consult claimed.payload claimed.constraints around.answer around.topics claimed.projectId).2
        around.planning = .ok plan := by
    intro around
    obtain ⟨plan, assembled, -⟩ := assemblePlan_total agrees
      (consult claimed.payload claimed.constraints around.answer around.topics claimed.projectId).1
      (consult claimed.payload claimed.constraints around.answer around.topics claimed.projectId).2 around.planning
    obtain ⟨planned, stored⟩ := NotificationIntake.withPlan_total plan around.planned processing
    refine ⟨planned, plan, ?_, ?_, assembled⟩
    · simp only [decidePlan, assembled]
      exact stored
    · rw [(NotificationIntake.withPlan_eq_ok.mp stored).2]
  constructor
  · intro first second agree
    obtain ⟨one, plan, decided, stored, assembled⟩ := decides { around with answer := some first }
    obtain ⟨two, plan', decided', stored', assembled'⟩ := decides { around with answer := some second }
    exact ⟨one, two, plan, plan', decided, decided', stored, stored', plans_agree agree assembled assembled'⟩
  · obtain ⟨planned, plan, decided, stored, assembled⟩ := decides around
    exact ⟨planned, plan, decided, stored, sourced_of_assembled modes assembled⟩

theorem nonsense_confined :
    ∃ creation claimed planned plan, accept cpython { templates := [addressed] }
        (greet [("name".toList, .string "Ada".toList)]) firstIds = .ok (.created creation) ∧
      creation.intake.claim 0 intakeWorker.lease 0 = .ok claimed ∧
      decidePlan claimed { atOnce creation with answer := some nonsense } = .ok planned ∧
      planned.plan = some plan ∧ plan.channelSource = .addresses := by
  obtain ⟨creation, accepted⟩ : ∃ creation, accept cpython { templates := [addressed] }
      (greet [("name".toList, .string "Ada".toList)]) firstIds = .ok (.created creation) := ⟨_, rfl⟩
  obtain ⟨received, -⟩ := (accept_established accepted).received
  obtain ⟨claimed, taken⟩ : ∃ claimed, creation.intake.claim 0 intakeWorker.lease 0 = .ok claimed :=
    NotificationIntake.claim_total 0 (by simp [NotificationIntake.isClaimable, received])
  have fields := (NotificationIntake.claim_eq_ok.mp taken).2
  obtain ⟨-, planned, plan, decided, stored, sourced⟩ := suggestion_confined accepted claimed (by rw [fields])
    (by rw [fields]) (by rw [fields]) { atOnce creation with answer := some nonsense }
  refine ⟨creation, claimed, planned, plan, accepted, taken, decided, stored, sourced.channelsAddresses.mpr ?_⟩
  obtain ⟨topic, payload⟩ := (accept_established accepted).payload
  rw [fields, payload]
  exact Option.some_ne_none _

end Tiber
