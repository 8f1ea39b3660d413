import Tiber.Domain.Intake
import Mathlib.Data.Finset.Card
import Mathlib.Data.Finset.SDiff

/-! The decision space computed when a request is accepted, and the plan
assembled from it later. The model's answer counts only where it falls inside
the space.
-/

set_option autoImplicit false

namespace Tiber

open Library

def defaultCategory : NotificationCategory := .informational

def mlInferableCategories : Finset NotificationCategory := Finset.univ.erase .critical

def namesText (names : List String) : String :=
  "[" ++ ", ".intercalate (names.map fun name => "'" ++ name ++ "'") ++ "]"

def providedVariables (mapping : Option Variables) : List Text := (mapping.getD []).map Prod.fst

def missingVariables (variant : TemplateVariant) (provided : List Text) : List Text :=
  sortedNames (variant.variableNames.filter fun name => decide (name ∉ provided))

/-- `_render_problem`: why a channel cannot deliver, or `none` if it can. -/
def renderProblem (template : Option Template) (provided : List Text) (content : Option NotificationContent)
    (channel : DeliveryChannel) : Option String :=
  match template with
  | some template =>
      match template.variants channel with
      | none => some "the template has no variant for this channel"
      | some variant =>
          if missingVariables variant provided = [] then none
          else some ("missing template variables " ++
            namesText ((missingVariables variant provided).map String.ofList))
  | none =>
      match content with
      | none => some "no content provided"
      | some content =>
          match validateContent channel content with
          | .ok () => none
          | .error failure => some failure.text

structure ConstraintRequest where
  availableChannels : Finset DeliveryChannel
  adhoc : Bool
  requestedChannels : Option (List DeliveryChannel)
  optedOut : Finset DeliveryChannel
  clientCategory : Option NotificationCategory
  template : Option Template
  templateVariables : Option Variables
  content : Option NotificationContent

namespace ConstraintRequest

variable (request : ConstraintRequest)

def problem (channel : DeliveryChannel) : Option String :=
  renderProblem request.template (providedVariables request.templateVariables) request.content channel

def describe (problems : Finset DeliveryChannel) : String :=
  "; ".intercalate ((sortedChannels problems).map fun channel =>
    channel.value ++ ": " ++ (request.problem channel).getD "")

def candidates : Checked (Finset DeliveryChannel × ChannelMode) :=
  if request.adhoc then .ok (request.availableChannels, .addresses)
  else match request.requestedChannels with
    | none | some [] => .ok (request.availableChannels, .ml)
    | some (first :: rest) =>
        let requested := (first :: rest).toFinset
        if requested ⊆ request.availableChannels then .ok (requested, .client)
        else .error (.channelNotAvailable ("No registered address for: " ++
          namesText ((sortedChannels (requested \ request.availableChannels)).map DeliveryChannel.value)))

def feasible (candidates : Finset DeliveryChannel) (mode : ChannelMode) :
    Checked (Finset DeliveryChannel × Nat) :=
  let problems := candidates.filter fun channel => (request.problem channel).isSome
  if mode = .ml then
    let deliverable := candidates \ problems
    if deliverable = ∅ then .error (.channelNotAvailable
      ("No channel can deliver this notification: " ++ request.describe problems))
    else
      let reachable := deliverable \ request.optedOut
      let chosen := if reachable = ∅ then deliverable else reachable
      .ok (chosen, if request.template.isSome then chosen.card else 1)
  else if problems = ∅ then .ok (candidates, candidates.card)
  else .error (.channelNotAvailable (request.describe problems))

def allowedCategories : Finset NotificationCategory :=
  match request.clientCategory with
  | some category => {category}
  | none => mlInferableCategories

def fallbackCategory : NotificationCategory := request.clientCategory.getD defaultCategory

end ConstraintRequest

def computeConstraints (request : ConstraintRequest) : Checked DecisionConstraints :=
  if request.adhoc ∧ request.requestedChannels.any (!·.isEmpty) then
    .error (.valueError "`channels` cannot be combined with addresses")
  else do
    let (candidates, channelMode) ← request.candidates
    let (feasibleChannels, maxChannels) ← request.feasible candidates channelMode
    DecisionConstraints.build {
      allowedCategories := request.allowedCategories
      defaultCategory := request.fallbackCategory
      channelMode, feasibleChannels, maxChannels }

/-- What an accepted decision space promises. -/
structure Computed (request : ConstraintRequest) (space : DecisionConstraints) : Prop where
  categories : space.allowedCategories = request.allowedCategories
  fallback : space.defaultCategory = request.fallbackCategory
  deliverable : ∀ channel ∈ space.feasibleChannels, request.problem channel = none
  adhoc : request.adhoc = true ↔ space.channelMode = .addresses
  byAddresses : space.channelMode = .addresses → space.feasibleChannels = request.availableChannels
  byClient : space.channelMode = .client →
    ∃ channels, request.requestedChannels = some channels ∧ channels ≠ [] ∧
      space.feasibleChannels = channels.toFinset

namespace ConstraintRequest

variable {request : ConstraintRequest}

theorem candidates_eq_ok {candidates : Finset DeliveryChannel} {mode : ChannelMode}
    (found : request.candidates = .ok (candidates, mode)) :
    (request.adhoc = true ↔ mode = .addresses) ∧
      (mode = .addresses → candidates = request.availableChannels) ∧
      (mode = .client → ∃ channels, request.requestedChannels = some channels ∧ channels ≠ [] ∧
        candidates = channels.toFinset) := by
  unfold ConstraintRequest.candidates at found
  split at found
  · rename_i adhoc
    cases found
    exact ⟨⟨fun _ => rfl, fun _ => adhoc⟩, fun _ => rfl, nofun⟩
  · rename_i registered
    split at found
    · cases found
      exact ⟨⟨fun adhoc => absurd adhoc registered, nofun⟩, nofun, nofun⟩
    · cases found
      exact ⟨⟨fun adhoc => absurd adhoc registered, nofun⟩, nofun, nofun⟩
    · rename_i first rest named
      simp only at found
      split at found
      · cases found
        exact ⟨⟨fun adhoc => absurd adhoc registered, nofun⟩, nofun, fun _ => ⟨_, named, by simp, rfl⟩⟩
      · cases found

theorem feasible_eq_ok {candidates feasible : Finset DeliveryChannel} {mode : ChannelMode} {count : Nat}
    (found : request.feasible candidates mode = .ok (feasible, count)) :
    (∀ channel ∈ feasible, request.problem channel = none) ∧ (mode ≠ .ml → feasible = candidates) := by
  unfold ConstraintRequest.feasible at found
  simp only at found
  split at found
  · rename_i ml
    split at found
    · cases found
    · cases found
      refine ⟨fun channel member => ?_, fun other => absurd ml other⟩
      have kept : channel ∈ candidates \ candidates.filter fun channel => (request.problem channel).isSome := by
        split at member
        · exact member
        · exact (Finset.mem_sdiff.mp member).1
      simp only [Finset.mem_sdiff, Finset.mem_filter, not_and, Bool.not_eq_true, Option.isSome_eq_false_iff,
        Option.isNone_iff_eq_none] at kept
      exact kept.2 kept.1
  · split at found
    · rename_i quiet
      cases found
      refine ⟨fun channel member => ?_, fun _ => rfl⟩
      have silent := Finset.filter_eq_empty_iff.mp quiet member
      simpa using silent
    · cases found

end ConstraintRequest

theorem computeConstraints_eq_ok {request : ConstraintRequest} {space : DecisionConstraints}
    (computed : computeConstraints request = .ok space) : Computed request space := by
  unfold computeConstraints at computed
  split at computed
  · cases computed
  · simp only [Checked.bind_eq_ok, Prod.exists] at computed
    obtain ⟨candidates, mode, chosen, feasible, count, kept, built⟩ := computed
    have fields := DecisionConstraints.build_eq_ok.mp built
    obtain ⟨adhoc, byAddresses, byClient⟩ := ConstraintRequest.candidates_eq_ok chosen
    obtain ⟨deliverable, all⟩ := ConstraintRequest.feasible_eq_ok kept
    constructor <;> simp only [fields]
    · exact deliverable
    · exact adhoc
    · intro mode
      rw [all (by simp [mode]), byAddresses mode]
    · intro mode
      rw [all (by simp [mode])]
      exact byClient mode

/-! ## Plan assembly -/

inductive Want where
  | category
  | topic
  | channels
  | sendTime
  deriving DecidableEq, Repr

def wantedDecisions (payload : IntakePayload) (constraints : DecisionConstraints) : List Want :=
  (if payload.category = none then [.category] else []) ++
  (if constraints.channelMode = .ml then [.channels] else []) ++
  (if payload.category = some .critical then [] else
    (if payload.topic = none then [.topic] else []) ++ (if payload.sendAt = none then [.sendTime] else []))

def defaultChannelOrder : List DeliveryChannel := [.inApp, .push, .email, .sms]

def fallbackChannelCount : Nat := 1

/-- Client value, else the model's answer if it is allowed, else the default. -/
def planCategory (payload : IntakePayload) (constraints : DecisionConstraints) (ml : Option MlSuggestion) :
    NotificationCategory × DecisionSource :=
  match payload.category with
  | some category => (category, .client)
  | none =>
      match (ml.bind (·.category)).filter (· ∈ constraints.allowedCategories) with
      | some category => (category, .ml)
      | none => (constraints.defaultCategory, .default)

def planTopic (payload : IntakePayload) (mlTopic : Option ResolvedTopic) :
    Option ResolvedTopic × Option DecisionSource :=
  match payload.topic, mlTopic with
  | some topic, _ => (some topic, some .client)
  | none, some topic => (some topic, some .ml)
  | none, none => (none, none)

theorem planTopic_fst (payload : IntakePayload) (mlTopic : Option ResolvedTopic) :
    (planTopic payload mlTopic).1 = payload.topic.orElse fun _ => mlTopic := by
  unfold planTopic
  cases payload.topic with
  | some topic => rfl
  | none => cases mlTopic <;> rfl

/-- `dict.fromkeys`: the first occurrence of each, in order. -/
def distinct (channels : List DeliveryChannel) : List DeliveryChannel := channels.reverse.dedup.reverse

def suggestedChannels (constraints : DecisionConstraints) (ml : Option MlSuggestion) : List DeliveryChannel :=
  (distinct (((ml.map (·.channels)).getD []).filter (· ∈ constraints.feasibleChannels))).take
    constraints.maxChannels

def defaultChannels (constraints : DecisionConstraints) : List DeliveryChannel :=
  let ordered := (defaultChannelOrder.filter (· ∈ constraints.feasibleChannels)).take fallbackChannelCount
  if ordered = [] then (sortedChannels constraints.feasibleChannels).take fallbackChannelCount else ordered

def planChannels (payload : IntakePayload) (constraints : DecisionConstraints) (ml : Option MlSuggestion) :
    Checked (List DeliveryChannel × ChannelSource) :=
  match constraints.channelMode with
  | .client =>
      match payload.channels with
      | none => .error (.invalidEntityAttribute "client channel mode requires `channels`")
      | some channels => .ok (distinct channels, .client)
  | .addresses =>
      match payload.adhocChannels with
      | none => .error (.invalidEntityAttribute "addresses channel mode requires `adhoc_channels`")
      | some channels => .ok (sortedChannels channels, .addresses)
  | .ml =>
      if suggestedChannels constraints ml = [] then .ok (defaultChannels constraints, .default)
      else .ok (suggestedChannels constraints ml, .ml)

/-- The model's send times that are instants in the future of `now` and on a planned channel. -/
def planSendAt (payload : IntakePayload) (ml : Option MlSuggestion) (category : NotificationCategory)
    (channels : List DeliveryChannel) (now : Instant) (channel : DeliveryChannel) : Option Timestamp :=
  match ml with
  | none => none
  | some ml =>
      if payload.sendAt = none ∧ category ≠ .critical ∧ channel ∈ channels then
        (ml.sendAt channel).filter fun time => time.instant?.any (now < ·)
      else none

def assemblePlan (payload : IntakePayload) (constraints : DecisionConstraints) (ml : Option MlSuggestion)
    (mlTopic : Option ResolvedTopic) (now : Instant) : Checked NotificationPlan := do
  let (category, categorySource) := planCategory payload constraints ml
  let (topic, topicSource) := planTopic payload mlTopic
  let (channels, channelSource) ← planChannels payload constraints ml
  NotificationPlan.build {
    category, categorySource, topic, topicSource, channels, channelSource
    sendAt := planSendAt payload ml category channels now
    modelVersion := ml.bind (·.modelVersion) }

@[simp] theorem mem_distinct {channels : List DeliveryChannel} {channel : DeliveryChannel} :
    channel ∈ distinct channels ↔ channel ∈ channels := by
  simp [distinct]

theorem distinct_nodup (channels : List DeliveryChannel) : (distinct channels).Nodup :=
  List.nodup_reverse.mpr (List.nodup_dedup _)

structure Agrees (payload : IntakePayload) (constraints : DecisionConstraints) : Prop where
  client : constraints.channelMode = .client →
    ∃ channels, payload.channels = some channels ∧ constraints.feasibleChannels = channels.toFinset
  addresses : constraints.channelMode = .addresses →
    payload.adhocChannels = some constraints.feasibleChannels

theorem suggestedChannels_feasible {constraints : DecisionConstraints} {ml : Option MlSuggestion}
    {channel : DeliveryChannel} (member : channel ∈ suggestedChannels constraints ml) :
    channel ∈ constraints.feasibleChannels := by
  have kept := List.mem_of_mem_take member
  simp only [mem_distinct, List.mem_filter, decide_eq_true_eq] at kept
  exact kept.2

theorem defaultChannels_feasible {constraints : DecisionConstraints} {channel : DeliveryChannel}
    (member : channel ∈ defaultChannels constraints) : channel ∈ constraints.feasibleChannels := by
  unfold defaultChannels at member
  simp only at member
  split at member
  · exact mem_sortedChannels.mp (List.mem_of_mem_take member)
  · have kept := List.mem_of_mem_take member
    simp only [List.mem_filter, decide_eq_true_eq] at kept
    exact kept.2

theorem defaultChannels_nodup (constraints : DecisionConstraints) : (defaultChannels constraints).Nodup := by
  unfold defaultChannels
  simp only
  split
  · exact (sortedChannels_nodup _).sublist (List.take_sublist _ _)
  · exact (List.Nodup.filter _ (by decide)).sublist (List.take_sublist _ _)

theorem defaultChannels_ne_nil (constraints : DecisionConstraints) : defaultChannels constraints ≠ [] := by
  obtain ⟨channel, feasible⟩ := constraints.feasible_nonempty
  have listed : channel ∈ defaultChannelOrder.filter (· ∈ constraints.feasibleChannels) := by
    simp only [List.mem_filter, feasible, decide_true, and_true]
    cases channel <;> decide
  intro empty
  unfold defaultChannels at empty
  simp only at empty
  split at empty
  · rename_i none
    rw [List.take_eq_nil_iff] at none
    rcases none with zero | none
    · cases zero
    · rw [none] at listed; cases listed
  · rename_i some
    exact some empty

inductive ChannelChoice (payload : IntakePayload) (constraints : DecisionConstraints) (ml : Option MlSuggestion) :
    List DeliveryChannel → ChannelSource → Prop where
  | client {listed : List DeliveryChannel} : constraints.channelMode = .client → payload.channels = some listed →
      ChannelChoice payload constraints ml (distinct listed) .client
  | addresses {supplied : Finset DeliveryChannel} : constraints.channelMode = .addresses →
      payload.adhocChannels = some supplied → ChannelChoice payload constraints ml (sortedChannels supplied) .addresses
  | default : constraints.channelMode = .ml → suggestedChannels constraints ml = [] →
      ChannelChoice payload constraints ml (defaultChannels constraints) .default
  | ml : constraints.channelMode = .ml → suggestedChannels constraints ml ≠ [] →
      ChannelChoice payload constraints ml (suggestedChannels constraints ml) .ml

theorem planChannels_eq_ok {payload : IntakePayload} {constraints : DecisionConstraints} {ml : Option MlSuggestion}
    {channels : List DeliveryChannel} {source : ChannelSource} :
    planChannels payload constraints ml = .ok (channels, source) ↔
      ChannelChoice payload constraints ml channels source := by
  constructor
  · intro chosen
    unfold planChannels at chosen
    split at chosen
    · rename_i mode
      split at chosen
      · cases chosen
      · rename_i listed given
        cases chosen
        exact .client mode given
    · rename_i mode
      split at chosen
      · cases chosen
      · rename_i supplied given
        cases chosen
        exact .addresses mode given
    · rename_i mode
      split at chosen
      · rename_i empty
        cases chosen
        exact .default mode empty
      · rename_i some
        cases chosen
        exact .ml mode some
  · rintro (⟨mode, given⟩ | ⟨mode, given⟩ | ⟨mode, empty⟩ | ⟨mode, some⟩)
    · simp only [planChannels, mode, given]
    · simp only [planChannels, mode, given]
    · simp only [planChannels, mode, empty, if_true]
    · simp only [planChannels, mode, some, if_false]

/-- The channel choice never fails on an accepted request and stays inside its decision space. -/
theorem planChannels_total {payload : IntakePayload} {constraints : DecisionConstraints}
    (agrees : Agrees payload constraints) (ml : Option MlSuggestion) :
    ∃ channels source, planChannels payload constraints ml = .ok (channels, source) ∧
      channels ≠ [] ∧ channels.Nodup ∧ ∀ channel ∈ channels, channel ∈ constraints.feasibleChannels := by
  obtain ⟨some, feasible⟩ := constraints.feasible_nonempty
  cases mode : constraints.channelMode with
  | client =>
      obtain ⟨channels, given, same⟩ := agrees.client mode
      refine ⟨_, _, planChannels_eq_ok.mpr (.client mode given), ?_, distinct_nodup _, fun channel member => ?_⟩
      · rw [same, List.mem_toFinset] at feasible
        exact List.ne_nil_of_mem (mem_distinct.mpr feasible)
      · rw [same, List.mem_toFinset]; exact mem_distinct.mp member
  | addresses =>
      refine ⟨_, _, planChannels_eq_ok.mpr (.addresses mode (agrees.addresses mode)),
        List.ne_nil_of_mem (mem_sortedChannels.mpr feasible), sortedChannels_nodup _, ?_⟩
      exact fun channel member => mem_sortedChannels.mp member
  | ml =>
      by_cases given : suggestedChannels constraints ml = []
      · exact ⟨_, _, planChannels_eq_ok.mpr (.default mode given), defaultChannels_ne_nil _, defaultChannels_nodup _,
          fun channel member => defaultChannels_feasible member⟩
      · exact ⟨_, _, planChannels_eq_ok.mpr (.ml mode given), given, (distinct_nodup _).sublist (List.take_sublist _ _),
          fun channel member => suggestedChannels_feasible member⟩

theorem planSendAt_some {payload : IntakePayload} {ml : Option MlSuggestion} {category : NotificationCategory}
    {channels : List DeliveryChannel} {now : Instant} {channel : DeliveryChannel} {time : Timestamp}
    (planned : planSendAt payload ml category channels now channel = some time) :
    payload.sendAt = none ∧ category ≠ .critical ∧ channel ∈ channels ∧
      ∃ instant, time = .aware instant ∧ now < instant := by
  unfold planSendAt at planned
  split at planned
  · cases planned
  · split at planned
    · rename_i conditions
      obtain ⟨-, later⟩ := Option.filter_eq_some_iff.mp planned
      refine ⟨conditions.1, conditions.2.1, conditions.2.2, ?_⟩
      cases time with
      | aware instant => exact ⟨instant, rfl, by simpa [Timestamp.instant?] using later⟩
      | naive wall => simp [Timestamp.instant?] at later
    · cases planned

theorem assemblePlan_eq_ok {payload : IntakePayload} {constraints : DecisionConstraints} {ml : Option MlSuggestion}
    {mlTopic : Option ResolvedTopic} {now : Instant} {plan : NotificationPlan}
    (made : assemblePlan payload constraints ml mlTopic now = .ok plan) :
    plan.category = (planCategory payload constraints ml).1 ∧
      plan.topic = (planTopic payload mlTopic).1 ∧
      planChannels payload constraints ml = .ok (plan.channels, plan.channelSource) ∧
      plan.sendAt = planSendAt payload ml plan.category plan.channels now := by
  unfold assemblePlan at made
  obtain ⟨⟨channels, source⟩, chosen, built⟩ := Checked.bind_eq_ok.mp made
  have fields := NotificationPlan.build_eq_ok.mp built
  rw [fields]
  exact ⟨rfl, rfl, chosen, rfl⟩

theorem assemblePlan_total {payload : IntakePayload} {constraints : DecisionConstraints}
    (agrees : Agrees payload constraints) (ml : Option MlSuggestion) (mlTopic : Option ResolvedTopic)
    (now : Instant) :
    ∃ plan, assemblePlan payload constraints ml mlTopic now = .ok plan ∧
      ∀ channel ∈ plan.channels, channel ∈ constraints.feasibleChannels := by
  obtain ⟨channels, source, chosen, nonempty, nodup, feasible⟩ := planChannels_total agrees ml
  let fields : NotificationPlanFields := {
    category := (planCategory payload constraints ml).1
    categorySource := (planCategory payload constraints ml).2
    topic := (planTopic payload mlTopic).1
    topicSource := (planTopic payload mlTopic).2
    channels, channelSource := source
    sendAt := planSendAt payload ml (planCategory payload constraints ml).1 channels now
    modelVersion := ml.bind (·.modelVersion) }
  -- channels come from the decision space, and send times only for them
  have quiet : fields.complaint = none := by
    unfold NotificationPlanFields.complaint
    rw [if_neg nonempty, if_neg (not_not.mpr nodup), if_neg, if_neg]
    · rintro ⟨channel, naive, planned⟩
      obtain ⟨time, planned⟩ := Option.ne_none_iff_exists'.mp planned
      obtain ⟨-, -, -, instant, rfl, -⟩ := planSendAt_some planned
      rw [planned] at naive
      cases naive
    · rintro ⟨channel, planned, foreign⟩
      obtain ⟨time, planned⟩ := Option.ne_none_iff_exists'.mp planned
      exact foreign (planSendAt_some planned).2.2.1
  refine ⟨⟨fields, quiet⟩, ?_, feasible⟩
  unfold assemblePlan
  rw [chosen]
  exact NotificationPlan.build_eq_ok.mpr rfl

end Tiber
