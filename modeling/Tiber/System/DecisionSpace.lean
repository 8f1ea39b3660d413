import Tiber.Domain.Decision

/-! The decision space against its specification: which channels are
deliverable, and what each mode makes of them. -/

set_option autoImplicit false

namespace Tiber

open Library

namespace ConstraintRequest

/-- The template has a variant for the channel and every variable of it is
provided; without a template, the content suits the channel. -/
def Deliverable (request : ConstraintRequest) (channel : DeliveryChannel) : Prop :=
  match request.template with
  | some template => ∃ variant, template.variants channel = some variant ∧
      ∀ name ∈ variant.variableNames, name ∈ providedVariables request.templateVariables
  | none => ∃ content, request.content = some content ∧ validateContent channel content = .ok ()

def named (request : ConstraintRequest) : Option (Finset DeliveryChannel × ChannelMode) :=
  if request.adhoc then some (request.availableChannels, .addresses)
  else match request.requestedChannels with
    | none | some [] => none
    | some (first :: rest) => some ((first :: rest).toFinset, .client)

/-- An address-based request supplies at least one address and no channel list. -/
def WellFormed (request : ConstraintRequest) : Prop :=
  request.adhoc = true → request.availableChannels ≠ ∅ ∧ request.requestedChannels.getD [] = []

variable {request : ConstraintRequest}

theorem missingVariables_eq_nil {variant : TemplateVariant} {provided : List Text} :
    missingVariables variant provided = [] ↔ ∀ name ∈ variant.variableNames, name ∈ provided := by
  simp [missingVariables, List.filter_eq_nil_iff]

theorem problem_eq_none {channel : DeliveryChannel} :
    request.problem channel = none ↔ request.Deliverable channel := by
  unfold problem renderProblem Deliverable
  -- with a template its variant decides, without one the request's content
  cases request.template with
  | some template =>
      cases found : template.variants channel with
      | none => simp [found]
      | some variant => simp [found, missingVariables_eq_nil]
  | none =>
      cases request.content with
      | none => simp
      | some content =>
          cases suits : validateContent channel content with
          | ok done => simp [suits]
          | error failure => simp [suits]

theorem problems_eq_empty {candidates : Finset DeliveryChannel} :
    candidates.filter (fun channel => (request.problem channel).isSome) = ∅ ↔
      ∀ channel ∈ candidates, request.Deliverable channel := by
  simp only [Finset.filter_eq_empty_iff, Bool.not_eq_true, Option.isSome_eq_false_iff,
    Option.isNone_iff_eq_none, problem_eq_none]

theorem mem_deliverable {candidates : Finset DeliveryChannel} {channel : DeliveryChannel} :
    channel ∈ candidates \ candidates.filter (fun channel => (request.problem channel).isSome) ↔
      channel ∈ candidates ∧ request.Deliverable channel := by
  simp only [Finset.mem_sdiff, Finset.mem_filter, not_and, Bool.not_eq_true, Option.isSome_eq_false_iff,
    Option.isNone_iff_eq_none, problem_eq_none]
  exact ⟨fun ⟨candidate, quiet⟩ => ⟨candidate, quiet candidate⟩, fun ⟨candidate, quiet⟩ => ⟨candidate, fun _ => quiet⟩⟩

theorem fallback_allowed : request.fallbackCategory ∈ request.allowedCategories := by
  unfold fallbackCategory allowedCategories
  cases request.clientCategory with
  | some category => simp
  | none => decide

theorem critical_allowed :
    .critical ∈ request.allowedCategories ↔ request.clientCategory = some .critical := by
  unfold allowedCategories
  cases request.clientCategory with
  | some category => simp [eq_comm]
  | none => simp [mlInferableCategories]

theorem build_total (request : ConstraintRequest) (mode : ChannelMode) {feasible : Finset DeliveryChannel} {count : Nat}
    (some : feasible ≠ ∅) (positive : 1 ≤ count) :
    ∃ space, DecisionConstraints.build {
      allowedCategories := request.allowedCategories
      defaultCategory := request.fallbackCategory
      channelMode := mode, feasibleChannels := feasible, maxChannels := count } = .ok space := by
  refine ⟨⟨_, ?_⟩, DecisionConstraints.build_eq_ok.mpr rfl⟩
  simp only [DecisionConstraintsFields.complaint, some, if_false, not_not.mpr fallback_allowed]
  rw [if_neg (by omega)]

theorem feasible_named (request : ConstraintRequest) (named : Finset DeliveryChannel) {mode : ChannelMode} (explicit : mode ≠ .ml) :
    ((∀ channel ∈ named, request.Deliverable channel) → request.feasible named mode = .ok (named, named.card)) ∧
    ((¬ ∀ channel ∈ named, request.Deliverable channel) →
      ∃ message, request.feasible named mode = .error (.channelNotAvailable message)) := by
  unfold feasible
  simp only [explicit, if_false]
  exact ⟨fun all => if_pos (problems_eq_empty.mpr all),
    fun few => ⟨_, if_neg fun quiet => few (problems_eq_empty.mp quiet)⟩⟩

/-- The channels the model may choose from: the deliverable ones the recipient
has not opted out of, or all deliverable ones if none is left. -/
def Open (request : ConstraintRequest) (channel : DeliveryChannel) : Prop :=
  channel ∈ request.availableChannels ∧ request.Deliverable channel ∧
    (channel ∉ request.optedOut ∨
      ∀ other ∈ request.availableChannels, request.Deliverable other → other ∈ request.optedOut)

theorem mem_chosen {deliverable : Finset DeliveryChannel} {channel : DeliveryChannel}
    (listed : ∀ channel, channel ∈ deliverable ↔
      channel ∈ request.availableChannels ∧ request.Deliverable channel) :
    channel ∈ (if deliverable \ request.optedOut = ∅ then deliverable else deliverable \ request.optedOut) ↔
      request.Open channel := by
  have nobody : deliverable \ request.optedOut = ∅ ↔
      ∀ other ∈ request.availableChannels, request.Deliverable other → other ∈ request.optedOut := by
    rw [Finset.sdiff_eq_empty_iff_subset]
    constructor
    · exact fun inside other available deliver => inside ((listed other).mpr ⟨available, deliver⟩)
    · exact fun out other member => out other ((listed other).mp member).1 ((listed other).mp member).2
  unfold Open
  split
  · rename_i empty
    have out := nobody.mp empty
    rw [listed]
    exact ⟨fun ⟨available, deliver⟩ => ⟨available, deliver, .inr out⟩, fun kept => ⟨kept.1, kept.2.1⟩⟩
  · rename_i some
    rw [nobody] at some
    simp only [Finset.mem_sdiff, listed, some, or_false, and_assoc]

theorem feasible_ml :
    ((∀ channel ∈ request.availableChannels, ¬ request.Deliverable channel) →
      ∃ message, request.feasible request.availableChannels .ml = .error (.channelNotAvailable message)) ∧
    ((∃ channel ∈ request.availableChannels, request.Deliverable channel) →
      ∃ chosen count, request.feasible request.availableChannels .ml = .ok (chosen, count) ∧
        (∀ channel, channel ∈ chosen ↔ request.Open channel) ∧ chosen ≠ ∅ ∧ 1 ≤ count ∧ count ≤ chosen.card) := by
  unfold feasible
  generalize same : request.availableChannels \ request.availableChannels.filter (fun channel =>
    (request.problem channel).isSome) = deliverable
  have listed : ∀ channel, channel ∈ deliverable ↔
      channel ∈ request.availableChannels ∧ request.Deliverable channel := by
    intro channel
    rw [← same, mem_deliverable]
  simp only [if_true, same]
  constructor
  · intro nobody
    refine ⟨_, if_pos ?_⟩
    ext channel
    simp only [listed, Finset.notMem_empty, iff_false, not_and]
    exact nobody channel
  · rintro ⟨channel, available, deliver⟩
    have member : channel ∈ deliverable := (listed channel).mpr ⟨available, deliver⟩
    rw [if_neg (Finset.ne_empty_of_mem member)]
    -- opting out of everything counts as opting out of nothing
    have some : (if deliverable \ request.optedOut = ∅ then deliverable else deliverable \ request.optedOut) ≠ ∅ := by
      split
      · exact Finset.ne_empty_of_mem member
      · assumption
    have positive := Finset.card_pos.mpr (Finset.nonempty_iff_ne_empty.mpr some)
    refine ⟨_, _, rfl, fun channel => mem_chosen listed, some, ?_, ?_⟩
    · split <;> omega
    · split <;> omega

theorem candidates_named {named : Finset DeliveryChannel} {mode : ChannelMode}
    (names : request.named = some (named, mode)) :
    mode ≠ .ml ∧ (named ⊆ request.availableChannels → request.candidates = .ok (named, mode)) ∧
      (¬ named ⊆ request.availableChannels →
        ∃ message, request.candidates = .error (.channelNotAvailable message)) := by
  unfold ConstraintRequest.named at names
  split at names
  · rename_i adhoc
    cases names
    simp [candidates, adhoc]
  · rename_i registered
    split at names
    · cases names
    · cases names
    · rename_i first rest listed
      obtain ⟨message, decided⟩ : ∃ message, request.candidates =
          if (first :: rest).toFinset ⊆ request.availableChannels then .ok ((first :: rest).toFinset, .client)
          else .error (.channelNotAvailable message) := by
        unfold candidates
        rw [if_neg registered, listed]
        exact ⟨_, rfl⟩
      cases names
      exact ⟨nofun, fun inside => by rw [decided, if_pos inside],
        fun outside => ⟨message, by rw [decided, if_neg outside]⟩⟩

theorem candidates_unnamed (unnamed : request.named = none) :
    request.adhoc = false ∧ request.candidates = .ok (request.availableChannels, .ml) ∧
      request.requestedChannels.getD [] = [] := by
  unfold named at unnamed
  unfold candidates
  split at unnamed
  · cases unnamed
  · rename_i registered
    split at unnamed
    · rename_i absent
      simp [registered, absent]
    · rename_i empty
      simp [registered, empty]
    · cases unnamed

theorem named_ne_empty (wellFormed : request.WellFormed) {named : Finset DeliveryChannel} {mode : ChannelMode}
    (names : request.named = some (named, mode)) : named ≠ ∅ := by
  unfold ConstraintRequest.named at names
  split at names
  · rename_i adhoc
    cases names
    exact (wellFormed adhoc).1
  · split at names
    · cases names
    · cases names
    · cases names
      simp

/-- On a well-formed request the space is put together from its three steps. -/
theorem computeConstraints_eq (wellFormed : request.WellFormed) :
    computeConstraints request = (do
      let (candidates, channelMode) ← request.candidates
      let (feasibleChannels, maxChannels) ← request.feasible candidates channelMode
      DecisionConstraints.build {
        allowedCategories := request.allowedCategories
        defaultCategory := request.fallbackCategory
        channelMode, feasibleChannels, maxChannels }) := by
  unfold computeConstraints
  rw [if_neg]
  -- the only check before the three steps is for addresses together with a channel list
  rintro ⟨adhoc, listed⟩
  have none := (wellFormed adhoc).2
  cases given : request.requestedChannels with
  | none => simp [given] at listed
  | some channels => simp_all

end ConstraintRequest

open ConstraintRequest

section
variable {request : ConstraintRequest}

/-- Channels the request names: every one of them, or a refusal. -/
theorem computeConstraints_named (wellFormed : request.WellFormed) {named : Finset DeliveryChannel}
    {mode : ChannelMode} (names : request.named = some (named, mode)) :
    ((∀ channel ∈ named, channel ∈ request.availableChannels ∧ request.Deliverable channel) →
      ∃ space, computeConstraints request = .ok space ∧ space.channelMode = mode ∧
        space.feasibleChannels = named ∧ space.maxChannels = named.card) ∧
    ((¬ ∀ channel ∈ named, channel ∈ request.availableChannels ∧ request.Deliverable channel) →
      ∃ message, computeConstraints request = .error (.channelNotAvailable message)) := by
  obtain ⟨explicit, inside, outside⟩ := candidates_named names
  obtain ⟨all, few⟩ := feasible_named request named explicit
  rw [computeConstraints_eq wellFormed]
  constructor
  · intro suits
    have kept := all fun channel member => (suits channel member).2
    have positive := Finset.card_pos.mpr (Finset.nonempty_iff_ne_empty.mpr (named_ne_empty wellFormed names))
    obtain ⟨space, built⟩ := build_total request mode (named_ne_empty wellFormed names) positive
    refine ⟨space, ?_, ?_⟩
    · rw [inside fun channel member => (suits channel member).1]
      simp only [bind, Except.bind, kept]
      exact built
    · simp [DecisionConstraints.build_eq_ok.mp built]
  · intro unsuited
    -- refused for a channel the recipient does not have, or else for one that cannot carry the message
    by_cases available : named ⊆ request.availableChannels
    · obtain ⟨message, refused⟩ := few fun suits =>
        unsuited fun channel member => ⟨available member, suits channel member⟩
      exact ⟨message, by simp only [inside available, bind, Except.bind, refused]⟩
    · obtain ⟨message, refused⟩ := outside available
      exact ⟨message, by simp only [refused, bind, Except.bind]⟩

theorem computeConstraints_unnamed (wellFormed : request.WellFormed) (unnamed : request.named = none) :
    ((∀ channel ∈ request.availableChannels, ¬ request.Deliverable channel) →
      ∃ message, computeConstraints request = .error (.channelNotAvailable message)) ∧
    ((∃ channel ∈ request.availableChannels, request.Deliverable channel) →
      ∃ space, computeConstraints request = .ok space ∧ space.channelMode = .ml ∧
        (∀ channel, channel ∈ space.feasibleChannels ↔ request.Open channel) ∧
        1 ≤ space.maxChannels ∧ space.maxChannels ≤ space.feasibleChannels.card) := by
  obtain ⟨-, chosen, -⟩ := candidates_unnamed unnamed
  rw [computeConstraints_eq wellFormed]
  simp only [chosen, bind, Except.bind]
  constructor
  · intro nobody
    obtain ⟨message, refused⟩ := feasible_ml.1 nobody
    exact ⟨message, by rw [refused]⟩
  · intro someone
    obtain ⟨feasible, count, kept, allOpen, some, positive, few⟩ := feasible_ml.2 someone
    obtain ⟨space, built⟩ := build_total request .ml some positive
    refine ⟨space, by rw [kept]; exact built, ?_⟩
    have fields := DecisionConstraints.build_eq_ok.mp built
    exact ⟨by rw [fields], by rw [fields]; exact allOpen, by rw [fields]; exact positive, by rw [fields]; exact few⟩

theorem wellFormed_of_computed {space : DecisionConstraints} (computed : computeConstraints request = .ok space) :
    request.WellFormed := by
  intro adhoc
  have established := computeConstraints_eq_ok computed
  constructor
  · rw [← established.byAddresses (established.adhoc.mp adhoc)]
    exact space.feasible_nonempty.ne_empty
  · unfold computeConstraints at computed
    split at computed
    · cases computed
    · rename_i plain
      cases given : request.requestedChannels with
      | none => rfl
      | some channels => simpa [adhoc, given] using plain

theorem computed_cases {space : DecisionConstraints} (computed : computeConstraints request = .ok space) :
    (request.named = none ∧ space.channelMode = .ml ∧ space.maxChannels ≤ space.feasibleChannels.card) ∨
      ∃ named mode, request.named = some (named, mode) ∧ space.channelMode = mode ∧
        space.feasibleChannels = named ∧ space.maxChannels = named.card := by
  have wellFormed := wellFormed_of_computed computed
  cases names : request.named with
  | none =>
      obtain ⟨refused, granted⟩ := computeConstraints_unnamed wellFormed names
      by_cases someone : ∃ channel ∈ request.availableChannels, request.Deliverable channel
      · obtain ⟨same, made, mode, -, -, few⟩ := granted someone
        rw [computed] at made
        cases made
        exact .inl ⟨rfl, mode, few⟩
      · simp only [not_exists, not_and] at someone
        obtain ⟨message, failed⟩ := refused someone
        rw [computed] at failed
        cases failed
  | some explicit =>
      obtain ⟨granted, refused⟩ := computeConstraints_named wellFormed names
      by_cases suits : ∀ channel ∈ explicit.1, channel ∈ request.availableChannels ∧ request.Deliverable channel
      · obtain ⟨same, made, mode, all, count⟩ := granted suits
        rw [computed] at made
        cases made
        exact .inr ⟨explicit.1, explicit.2, rfl, mode, all, count⟩
      · obtain ⟨message, failed⟩ := refused suits
        rw [computed] at failed
        cases failed

theorem maxChannels_le_feasible {space : DecisionConstraints} (computed : computeConstraints request = .ok space) :
    space.maxChannels ≤ space.feasibleChannels.card := by
  rcases computed_cases computed with ⟨-, -, few⟩ | ⟨named, mode, -, -, all, count⟩
  · exact few
  · rw [all, count]

theorem mode_of_computed {space : DecisionConstraints} (computed : computeConstraints request = .ok space) :
    space.channelMode = (request.named.map Prod.snd).getD .ml := by
  rcases computed_cases computed with ⟨unnamed, mode, -⟩ | ⟨named, mode, names, same, -⟩
  · rw [unnamed, mode]
    rfl
  · rw [names, same]
    rfl

/-- The decision space is exactly the deliverable one, in each of the three modes. -/
theorem decision_space_exact (request : ConstraintRequest) (wellFormed : request.WellFormed) :
    (∀ named mode, request.named = some (named, mode) →
      ((∀ channel ∈ named, channel ∈ request.availableChannels ∧ request.Deliverable channel) →
        ∃ space, computeConstraints request = .ok space ∧ space.channelMode = mode ∧
          space.feasibleChannels = named) ∧
      ((¬ ∀ channel ∈ named, channel ∈ request.availableChannels ∧ request.Deliverable channel) →
        ∃ message, computeConstraints request = .error (.channelNotAvailable message))) ∧
    (request.named = none →
      ((∀ channel ∈ request.availableChannels, ¬ request.Deliverable channel) →
        ∃ message, computeConstraints request = .error (.channelNotAvailable message)) ∧
      ((∃ channel ∈ request.availableChannels, request.Deliverable channel) →
        ∃ space, computeConstraints request = .ok space ∧ space.channelMode = .ml ∧
          ∀ channel, channel ∈ space.feasibleChannels ↔ request.Open channel)) ∧
    ∀ space, computeConstraints request = .ok space →
      0 < space.maxChannels ∧ space.maxChannels ≤ space.feasibleChannels.card ∧
      (.critical ∈ space.allowedCategories ↔ request.clientCategory = some .critical) := by
  refine ⟨fun named mode names => ?_, fun unnamed => ?_, fun space computed => ?_⟩
  · obtain ⟨granted, refused⟩ := computeConstraints_named wellFormed names
    refine ⟨fun suits => ?_, refused⟩
    obtain ⟨space, made, kind, all, -⟩ := granted suits
    exact ⟨space, made, kind, all⟩
  · obtain ⟨refused, granted⟩ := computeConstraints_unnamed wellFormed unnamed
    refine ⟨refused, fun someone => ?_⟩
    obtain ⟨space, made, kind, allOpen, -, -⟩ := granted someone
    exact ⟨space, made, kind, allOpen⟩
  · rw [(computeConstraints_eq_ok computed).categories]
    exact ⟨space.maxChannels_pos, maxChannels_le_feasible computed, critical_allowed⟩

theorem textMessage_solid : Text.blank "Hi".toList = false := rfl

def textMessage : ConstraintRequest where
  availableChannels := {.sms}
  adhoc := true
  requestedChannels := none
  optedOut := ∅
  clientCategory := none
  template := none
  templateVariables := none
  content := some ⟨"Hi".toList, none, [], [], textMessage_solid⟩

theorem textMessage_space : ∃ space, computeConstraints textMessage = .ok space ∧ space.channelMode = .addresses ∧
    space.feasibleChannels = {.sms} :=
  ((decision_space_exact textMessage (by simp [WellFormed, textMessage])).1 {.sms} .addresses rfl).1
    fun channel member => by
      rw [Finset.mem_singleton.mp member]
      exact ⟨by decide, _, rfl, rfl⟩

end

end Tiber
