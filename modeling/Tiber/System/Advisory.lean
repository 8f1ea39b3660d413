import Tiber.System.Acceptance

/-! The model is advisory: whatever it answers, an accepted request has a plan inside
the space computed for it when it was accepted.
-/

set_option autoImplicit false

namespace Tiber

open Library

theorem accept_computed {runtime : Runtime} {registry : Registry} {command : AcceptNotificationCommand}
    {minted : Minted} {creation : Creation}
    (accepted : accept runtime registry command minted = .ok (.created creation)) :
    computeConstraints (command.constraintRequest creation.recipient creation.template) =
      .ok creation.intake.constraints := by
  obtain ⟨fresh, expanded, intake, recipient, template⟩ := accept_expanded accepted
  rw [intake, recipient, template]
  simp only [expand, Checked.bind_eq_ok, Prod.exists] at expanded
  obtain ⟨topic, -, template, -, recipient, recipients, -, constraints, computed, payload, built, intake, made,
    same⟩ := expanded
  cases same
  simp only [NotificationIntake.build_eq_ok.mp made]
  exact computed

/-! ## How many channels -/

theorem computeConstraints_count {request : ConstraintRequest} {space : DecisionConstraints}
    (computed : computeConstraints request = .ok space) (explicit : space.channelMode ≠ .ml) :
    space.maxChannels = space.feasibleChannels.card := by
  unfold computeConstraints at computed
  split at computed
  · cases computed
  simp only [Checked.bind_eq_ok, Prod.exists] at computed
  obtain ⟨candidates, mode, -, feasible, count, kept, built⟩ := computed
  have fields := DecisionConstraints.build_eq_ok.mp built
  rw [fields] at explicit ⊢
  unfold ConstraintRequest.feasible at kept
  simp only [if_neg explicit] at kept
  split at kept
  · cases kept; rfl
  · cases kept

theorem distinct_length (channels : List DeliveryChannel) : (distinct channels).length = channels.toFinset.card := by
  rw [distinct, List.length_reverse, ← List.toFinset_card_of_nodup (List.nodup_dedup _)]
  congr 1
  ext channel
  simp

theorem sortedChannels_length (channels : Finset DeliveryChannel) :
    (sortedChannels channels).length = channels.card := by
  rw [← List.toFinset_card_of_nodup (sortedChannels_nodup channels)]
  congr 1
  ext channel
  simp

theorem defaultChannels_length (constraints : DecisionConstraints) : (defaultChannels constraints).length = 1 := by
  have some := List.length_pos_of_ne_nil (defaultChannels_ne_nil constraints)
  have few : (defaultChannels constraints).length ≤ 1 := by
    unfold defaultChannels
    simp only
    split <;> exact List.length_take_le _ _
  omega

/-! ## Plans -/

/-- A plan an accepted request may have, decided at `now`. -/
structure Advised (command : AcceptNotificationCommand) (constraints : DecisionConstraints) (now : Instant)
    (plan : NotificationPlan) : Prop where
  category : plan.category ∈ constraints.allowedCategories
  nonempty : plan.channels ≠ []
  nodup : plan.channels.Nodup
  feasible : ∀ channel ∈ plan.channels, channel ∈ constraints.feasibleChannels
  few : plan.channels.length ≤ constraints.maxChannels
  client : constraints.channelMode = .client →
    ∃ channels, command.channels = some channels ∧ plan.channels.toFinset = channels.toFinset
  addresses : constraints.channelMode = .addresses → plan.channels.toFinset = command.addresses.channels
  fallback : plan.channelSource = .default → plan.channels.length = 1
  sendAt : ∀ channel time, plan.sendAt channel = some time →
    channel ∈ plan.channels ∧ (∃ instant, time = .aware instant ∧ now < instant) ∧
    command.sendAt = none ∧ plan.category ≠ .critical

theorem planChannels_advised {command : AcceptNotificationCommand} {creation : Creation}
    (established : Established command creation)
    (computed : computeConstraints (command.constraintRequest creation.recipient creation.template) =
      .ok creation.intake.constraints)
    {ml : Option MlSuggestion} {channels : List DeliveryChannel} {source : ChannelSource}
    (chosen : planChannels creation.intake.payload creation.intake.constraints ml = .ok (channels, source)) :
    channels.length ≤ creation.intake.constraints.maxChannels ∧
    (creation.intake.constraints.channelMode = .client →
      ∃ given, command.channels = some given ∧ channels.toFinset = given.toFinset) ∧
    (creation.intake.constraints.channelMode = .addresses → channels.toFinset = command.addresses.channels) ∧
    (source = .default → channels.length = 1) := by
  have agrees := established.agrees
  have elsewhere {mode other : ChannelMode} (own : creation.intake.constraints.channelMode = mode)
      (different : mode ≠ other) : creation.intake.constraints.channelMode ≠ other :=
    fun same => different (own.symm.trans same)
  cases planChannels_eq_ok.mp chosen with
  | @client listed mode given =>
      -- the client lists its channels; duplicates are dropped
      obtain ⟨requested, asked, nonempty, feasible⟩ := established.computed.byClient mode
      obtain ⟨_, carried, same⟩ := agrees.client mode
      obtain rfl := Option.some.inj (given.symm.trans carried)
      have whole : (distinct listed).toFinset = requested.toFinset := by
        rw [← feasible, same]
        ext channel
        simp
      refine ⟨?_, fun _ => ⟨requested, asked, whole⟩, fun other => absurd other (elsewhere mode (by decide)), fun other => by cases other⟩
      rw [computeConstraints_count computed (by simp [mode]), same]
      exact Nat.le_of_eq (distinct_length listed)
  | addresses mode given =>
      obtain rfl := Option.some.inj ((agrees.addresses mode).symm.trans given)
      refine ⟨?_, fun other => absurd other (elsewhere mode (by decide)), fun _ => ?_, fun other => by cases other⟩
      · rw [computeConstraints_count computed (by simp [mode])]
        exact Nat.le_of_eq (sortedChannels_length _)
      · have adhoc : command.recipientId = none := by
          simpa [AcceptNotificationCommand.constraintRequest] using established.computed.adhoc.mpr mode
        have supplied := established.computed.byAddresses mode
        simp only [AcceptNotificationCommand.constraintRequest, adhoc, if_true] at supplied
        rw [supplied]
        ext channel
        simp
  | default mode empty =>
      refine ⟨?_, fun other => absurd other (elsewhere mode (by decide)), fun other => absurd other (elsewhere mode (by decide)),
        fun _ => defaultChannels_length _⟩
      rw [defaultChannels_length]
      exact creation.intake.constraints.maxChannels_pos
  | ml mode some =>
      exact ⟨List.length_take_le _ _, fun other => absurd other (elsewhere mode (by decide)),
        fun other => absurd other (elsewhere mode (by decide)), fun other => by cases other⟩

theorem planCategory_allowed {command : AcceptNotificationCommand} {creation : Creation}
    (established : Established command creation) (ml : Option MlSuggestion) :
    (planCategory creation.intake.payload creation.intake.constraints ml).1 ∈
      creation.intake.constraints.allowedCategories := by
  unfold planCategory
  split
  · rename_i category explicit
    obtain ⟨topic, fields⟩ := established.payload
    rw [fields] at explicit
    have declared : command.category = some category := explicit
    rw [established.computed.categories]
    simp [ConstraintRequest.allowedCategories, AcceptNotificationCommand.constraintRequest, declared]
  · split
    · rename_i category suggested
      simpa using (Option.filter_eq_some_iff.mp suggested).2
    · exact creation.intake.constraints.default_allowed

/-- Whatever the model answers to an accepted request, and whenever, the plan is a valid one. -/
theorem ml_is_advisory {runtime : Runtime} {registry : Registry} {command : AcceptNotificationCommand}
    {minted : Minted} {creation : Creation}
    (accepted : accept runtime registry command minted = .ok (.created creation))
    (ml : Option MlSuggestion) (mlTopic : Option ResolvedTopic) (now : Instant) :
    ∃ plan, assemblePlan creation.intake.payload creation.intake.constraints ml mlTopic now = .ok plan ∧
      Advised command creation.intake.constraints now plan := by
  have established := accept_established accepted
  obtain ⟨plan, made, feasible⟩ := assemblePlan_total established.agrees ml mlTopic now
  obtain ⟨category, -, channels, sendAt⟩ := assemblePlan_eq_ok made
  obtain ⟨few, client, addresses, fallback⟩ := planChannels_advised established (accept_computed accepted) channels
  refine ⟨plan, made, ?_, plan.channels_ne_nil, plan.channels_nodup, feasible, few, client, addresses, fallback, ?_⟩
  · rw [category]
    exact planCategory_allowed established ml
  · intro channel time planned
    rw [sendAt] at planned
    obtain ⟨unset, ordinary, member, later⟩ := planSendAt_some planned
    obtain ⟨topic, fields⟩ := established.payload
    rw [fields] at unset
    exact ⟨member, later, unset, ordinary⟩

/-- Channels nobody asked for, twice, and send times in the past or without a zone. -/
def nonsense : MlSuggestion where
  category := some .critical
  channels := [.push, .push, .email]
  sendAt channel := some (if channel = .sms then .aware 0 else .naive 0)

theorem nonsense_ignored :
    ∃ creation plan, accept cpython { templates := [addressed] } (greet [("name".toList, .string "Ada".toList)]) firstIds =
        .ok (.created creation) ∧
      assemblePlan creation.intake.payload creation.intake.constraints (some nonsense) none Clock.hour = .ok plan ∧
      Advised (greet [("name".toList, .string "Ada".toList)]) creation.intake.constraints Clock.hour plan := by
  obtain ⟨creation, accepted⟩ : ∃ creation, accept cpython { templates := [addressed] }
      (greet [("name".toList, .string "Ada".toList)]) firstIds = .ok (.created creation) := ⟨_, rfl⟩
  obtain ⟨plan, made, advised⟩ := ml_is_advisory accepted (some nonsense) none Clock.hour
  exact ⟨creation, plan, accepted, made, advised⟩

end Tiber
