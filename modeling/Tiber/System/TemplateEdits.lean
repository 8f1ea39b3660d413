import Tiber.System.Acceptance

/-! Templates edited between acceptance and fan-out.

Rendering is live. What an edit can break is a missing template, a missing variant, a placeholder
without a value, a body that renders blank, and a title for a channel whose rows take none.
-/

set_option autoImplicit false

namespace Tiber

open Library
open TemplateRenderer (Renderable)
open NotificationContent (titled)

instance (entity : Notification) : Decidable entity.toModel.Storable :=
  decidable_of_iff (entity.channel = .email ↔ entity.content.title ≠ none) entity.toModel_storable_iff.symm

namespace IntakeProcessor

/-- The last transaction against the CHECK constraints of the table. -/
def Processed.checked : Processed → Processed
  | .completed intake children =>
      if ∀ child ∈ children, child.toModel.Storable then .completed intake children
      else .raised (.raised "IntegrityError" "new row violates check constraint")
  | ended => ended

/-- `IntakeProcessor.process` on the database. -/
def processStored (processor : IntakeProcessor) (intake : NotificationIntake) (around : Surroundings) : Processed :=
  (processor.process intake around).checked

def Processed.Settles (existing : Finset DeliveryChannel) : Processed → Prop
  | .completed intake children => intake.status = .completed ∧ ∃ plan, intake.plan = some plan ∧
      ∀ channel ∈ plan.channels, channel ∈ existing ∨ ∃ child ∈ children, child.channel = channel
  | .failed intake => intake.status = .failed ∧ ∃ reason, intake.failureReason = some reason ∧ reason ≠ ""
  | _ => False

end IntakeProcessor

/-- The plan's channels, stored or yet to be assembled, that have no child. -/
def plannedChannels (intake : NotificationIntake) (around : Surroundings) : List DeliveryChannel :=
  let asked := consult intake.payload intake.constraints around.answer around.topics intake.projectId
  let plan := match intake.plan with
    | some plan => some plan
    | none => (assemblePlan intake.payload intake.constraints asked.1 asked.2 around.planning).toOption
  (plan.elim [] (·.channels)).filter (· ∉ around.existing)

def Template.renders (template : Template) (mapping : Option Variables) (channel : DeliveryChannel) : Bool :=
  (template.variants channel).any fun variant => decide (Renderable variant.content mapping)

/-- The first channel that the template does not render has a variant all the same; where every channel is
rendered, only an email gets a title. -/
def EditHolds (template : Option Template) (mapping : Option Variables) (channels : List DeliveryChannel) : Prop :=
  ∀ held, template = some held →
    match channels.find? fun channel => !held.renders mapping channel with
    | some channel => held.variants channel ≠ none
    | none => ∀ channel ∈ channels, channel = .email ∨
        ∀ variant, held.variants channel = some variant → titled variant.content.title = false

/-! ## Failures end FAILED -/

theorem NotificationIntake.fail_total {intake : NotificationIntake} {reason : String} (stamp : Instant)
    (processing : intake.status = .processing) (given : reason ≠ "") :
    ∃ failed, intake.fail reason stamp = .ok failed := by
  have quiet := intake.quiet
  refine ⟨⟨{ intake.toNotificationIntakeFields with
      status := .failed, failureReason := some reason, updatedAt := stamp }, ?_⟩,
    fail_eq_ok.mpr ⟨.inr processing, given, rfl⟩⟩
  unfold NotificationIntakeFields.complaint at quiet ⊢
  simp only [processing] at quiet ⊢
  split_ifs at quiet with blank _ excuse
  simp_all

namespace IntakeProcessor

variable {processor : IntakeProcessor}

theorem failWith_settles {row : NotificationIntake} (processing : row.status = .processing) {reason : String}
    (given : reason ≠ "") (around : Surroundings) : (failWith row reason around).checked.Settles around.existing := by
  obtain ⟨failed, done⟩ := NotificationIntake.fail_total around.failed processing given
  unfold failWith
  rw [done]
  have fields := (NotificationIntake.fail_eq_ok.mp done).2.2
  exact ⟨by rw [fields], reason, by rw [fields], given⟩

theorem failureReason_given {error : PyError} (deterministic : error.isDeterministic = true) :
    ∃ reason, failureReason error = some reason ∧ reason ≠ "" := by
  have headed (head tail : String) (solid : head ≠ "") : head ++ tail ≠ "" := by simp [solid]
  have named : error.name ++ ": " ≠ "" := by simp
  unfold failureReason
  split
  · exact ⟨_, rfl, headed _ _ (by decide)⟩
  · rw [if_pos deterministic]
    exact ⟨_, rfl, headed _ _ named⟩

theorem settle_settles {row : NotificationIntake} (processing : row.status = .processing) {error : PyError}
    (deterministic : error.isDeterministic = true) (around : Surroundings) :
    (settle row error around).checked.Settles around.existing := by
  obtain ⟨reason, named, given⟩ := failureReason_given deterministic
  unfold settle
  rw [named]
  exact failWith_settles processing given around

end IntakeProcessor

/-! ## What rendering makes of an edited template -/

/-- What stops a templated child is deterministic, unless the template has no variant for the channel. -/
theorem childContent_error {intake : NotificationIntake} {plan : NotificationPlan} {channel : DeliveryChannel}
    {template : Option Template} {readings : ChildReadings} {templateId : Uuid}
    (referenced : intake.payload.templateId = some templateId) {error : PyError}
    (failed : childContent intake plan channel template readings = .error error) :
    error.isDeterministic = true ↔ ∀ held, template = some held → held.variants channel ≠ none := by
  obtain ⟨provisional, created⟩ := childFields_total intake plan channel (templatePending channel) readings
  have fields := Notification.build_eq_ok.mp created
  simp only [childContent, referenced, created, bind, Except.bind] at failed
  have resolution : resolveContent provisional template = .error error := by
    cases resolved : resolveContent provisional template with
    | error other => simpa [resolved] using failed
    | ok content =>
        -- the content would be taken over
        obtain ⟨updated, done⟩ := @Notification.withContent_total provisional content readings.rendered
        simp [resolved, done] at failed
  simp only [resolveContent, fields, childFields, referenced] at resolution
  cases template with
  | none =>
      cases resolution
      exact iff_of_true rfl fun held other => by cases other
  | some held =>
      dsimp only at resolution
      simp only [Option.some.injEq, forall_eq']
      split at resolution
      · rename_i missing
        cases resolution
        simp [missing, PyError.isDeterministic, PyError.isTiberError, PyError.isValueError]
      · rename_i variant found
        simp [found, TemplateRenderer.render_error resolution]

theorem childContent_renders {intake : NotificationIntake} {plan : NotificationPlan} {channel : DeliveryChannel}
    {held : Template} {readings : ChildReadings} {templateId : Uuid}
    (referenced : intake.payload.templateId = some templateId) :
    (∃ child, childContent intake plan channel (some held) readings = .ok child) ↔
      held.renders intake.payload.templateVariables channel = true := by
  unfold Template.renders
  cases found : held.variants channel with
  | some variant => simp [childContent_template referenced found]
  | none =>
      simp only [Option.any_none, Bool.false_eq_true, iff_false]
      rintro ⟨child, made⟩
      obtain ⟨provisional, created⟩ := childFields_total intake plan channel (templatePending channel) readings
      have fields := Notification.build_eq_ok.mp created
      simp only [childContent, referenced, Checked.bind_eq_ok, created, Except.ok.injEq, exists_eq_left'] at made
      obtain ⟨content, resolved, -⟩ := made
      simp only [resolveContent, fields, childFields, referenced, found] at resolved
      cases resolved

namespace IntakeProcessor

variable {processor : IntakeProcessor}

theorem makeChild_error {intake : NotificationIntake} {plan : NotificationPlan} {recipient : Recipient}
    {around : Surroundings} {channel : DeliveryChannel} {error : PyError}
    (failed : processor.makeChild intake plan recipient around channel = .error error) :
    childContent intake plan channel around.template (around.child channel) = .error error := by
  cases content : childContent intake plan channel around.template (around.child channel) with
  | error other =>
      simp only [makeChild, buildChild, content, bind, Except.bind] at failed
      exact failed
  | ok child =>
      obtain ⟨judged, made⟩ := (@makeChild_isOk_iff processor intake plan recipient around channel).mpr ⟨child, content⟩
      cases failed.symm.trans made

/-! ## One call -/

theorem children_storable_iff {intake : NotificationIntake} {plan : NotificationPlan} {recipient : Recipient}
    {around : Surroundings} {channels : List DeliveryChannel} {children : List Notification}
    (made : channels.mapM (processor.makeChild intake plan recipient around) = .ok children) :
    (∀ child ∈ children, child.toModel.Storable) ↔
      ∀ channel ∈ channels, channel = .email ∨ SourceUntitled intake around.template channel := by
  constructor
  · intro storable channel listed
    obtain ⟨child, member, done⟩ := mapM_has made listed
    exact (child_storable_iff done).mp (storable child member)
  · intro untitled child member
    obtain ⟨channel, listed, done⟩ := mapM_mem made member
    exact (child_storable_iff done).mpr (untitled channel listed)

section Batch

variable {planned : NotificationIntake} {plan : NotificationPlan} {recipient : Recipient} {around : Surroundings}
  {channels : List DeliveryChannel} {templateId : Uuid}

theorem makeChild_renders (referenced : planned.payload.templateId = some templateId) {held : Template}
    (found : around.template = some held) {channel : DeliveryChannel} {child : Notification}
    (made : processor.makeChild planned plan recipient around channel = .ok child) :
    held.renders planned.payload.templateVariables channel = true := by
  obtain ⟨content, created⟩ := makeChild_isOk_iff.mp ⟨child, made⟩
  rw [found] at created
  exact (childContent_renders referenced).mp ⟨content, created⟩

/-- Where every channel is rendered, the edit holds exactly when the rows take what came out. -/
theorem batch_holds_iff (referenced : planned.payload.templateId = some templateId) {children : List Notification}
    (made : channels.mapM (processor.makeChild planned plan recipient around) = .ok children) :
    (∀ child ∈ children, child.toModel.Storable) ↔
      EditHolds around.template planned.payload.templateVariables channels := by
  have rendered (held : Template) (found : around.template = some held) :
      channels.find? (fun channel => !held.renders planned.payload.templateVariables channel) = none := by
    rw [List.find?_eq_none]
    intro channel listed
    obtain ⟨child, -, built⟩ := mapM_has made listed
    simp [makeChild_renders referenced found built]
  rw [children_storable_iff made]
  unfold EditHolds SourceUntitled
  simp only [referenced]
  constructor
  · intro untitled held found
    rw [rendered held found]
    exact fun channel listed => (untitled channel listed).imp_right fun title => title held found
  · intro holds channel listed
    by_cases email : channel = .email
    · exact .inl email
    · refine .inr fun held found => ?_
      have title := holds held found
      rw [rendered held found] at title
      exact (title channel listed).resolve_left email

theorem failureReason_transient {error : PyError} (escapes : error.isDeterministic = false) :
    failureReason error = none := by
  unfold failureReason
  split
  · cases escapes
  · rw [escapes]
    rfl

/-- Where one channel stops the batch, the edit holds exactly when the stop ends the intake FAILED. -/
theorem batch_stops_iff (processing : planned.status = .processing)
    (referenced : planned.payload.templateId = some templateId) {error : PyError}
    (stopped : channels.mapM (processor.makeChild planned plan recipient around) = .error error) :
    (settle planned error around).checked.Settles around.existing ↔
      EditHolds around.template planned.payload.templateVariables channels := by
  -- the error is that of the first channel without content
  obtain ⟨before, channel, after, split, fine, stop⟩ := mapM_error stopped
  have content := makeChild_error stop
  have kind := childContent_error referenced content
  cases found : around.template with
  | none =>
      rw [found] at kind
      exact iff_of_true (settle_settles processing (kind.mpr nofun) around) nofun
  | some held =>
      rw [found] at kind content
      simp only [Option.some.injEq, forall_eq'] at kind
      have unrendered : held.renders planned.payload.templateVariables channel = false := by
        rw [← Bool.not_eq_true, ← childContent_renders referenced]
        rintro ⟨child, created⟩
        cases content.symm.trans created
      have first : channels.find? (fun channel => !held.renders planned.payload.templateVariables channel) = some channel := by
        rw [List.find?_eq_some_iff_append]
        refine ⟨by rw [unrendered]; rfl, before, after, split, ?_⟩
        intro earlier listed
        obtain ⟨child, built⟩ := fine earlier listed
        simp [makeChild_renders referenced found built]
      have holds : EditHolds (some held) planned.payload.templateVariables channels ↔ held.variants channel ≠ none := by
        simp only [EditHolds, Option.some.injEq, forall_eq', first]
      rw [holds]
      by_cases missing : held.variants channel = none
      · -- a missing variant escapes as a TypeError
        have escapes : error.isDeterministic = false := by simpa [missing] using kind
        simp only [settle, failureReason_transient escapes, Processed.checked, Processed.Settles, missing, ne_eq, not_true]
      · exact iff_of_true (settle_settles processing (kind.mpr missing) around) missing

theorem fanOut_settles_iff (processing : planned.status = .processing) (stored : planned.plan = some plan)
    (referenced : planned.payload.templateId = some templateId) :
    (processor.fanOut planned recipient around).checked.Settles around.existing ↔
      EditHolds around.template planned.payload.templateVariables (plan.channels.filter (· ∉ around.existing)) := by
  have batch : processor.makeChildren planned recipient around =
      (plan.channels.filter (· ∉ around.existing)).mapM (processor.makeChild planned plan recipient around) := by
    simp only [makeChildren, stored]
  unfold fanOut
  rw [batch]
  cases made : (plan.channels.filter (· ∉ around.existing)).mapM (processor.makeChild planned plan recipient around) with
  | error error => exact batch_stops_iff processing referenced made
  | ok children =>
      obtain ⟨completed, done⟩ := NotificationIntake.complete_total around.completing around.completed processing
        (by rw [stored]; simp)
      have fields := (NotificationIntake.complete_eq_ok.mp done).2.2
      have whole : (Processed.completed completed children).Settles around.existing := by
        refine ⟨by rw [fields], plan, by rw [fields]; exact stored, ?_⟩
        intro channel listed
        by_cases there : channel ∈ around.existing
        · exact .inl there
        · obtain ⟨child, member, built⟩ := mapM_has made (List.mem_filter.mpr ⟨listed, decide_eq_true there⟩)
          exact .inr ⟨child, member, by rw [(makeChild_identity built).1]; rfl⟩
      rw [← batch_holds_iff referenced made]
      simp only [done, Processed.checked]
      split
      · rename_i fits
        exact ⟨fun _ => fits, fun _ => whole⟩
      · rename_i unfit
        exact ⟨False.elim, fun fits => absurd fits unfit⟩

end Batch

end IntakeProcessor

/-- A call that claims an accepted intake with a template settles it exactly when the attempts are used up, the
recipient is gone, or the template as edited holds for the channels still to be built. -/
theorem template_edit_settles {runtime : Runtime} {registry : Registry} {command : AcceptNotificationCommand}
    {minted : Minted} {creation : Creation}
    (accepted : accept runtime registry command minted = .ok (.created creation)) {templateId : Uuid}
    (templated : creation.intake.payload.templateId = some templateId) {intake : NotificationIntake}
    (payload : intake.payload = creation.intake.payload) (constraints : intake.constraints = creation.intake.constraints)
    (processor : IntakeProcessor) {around : Surroundings}
    (claimable : intake.isClaimable around.claiming processor.lease = true) :
    (processor.processStored intake around).Settles around.existing ↔
      processor.maxAttempts ≤ intake.attempts ∨ around.recipient = none ∨
        EditHolds around.template intake.payload.templateVariables (plannedChannels intake around) := by
  have agrees : Agrees intake.payload intake.constraints := by
    rw [payload, constraints]
    exact (accept_established accepted).agrees
  obtain ⟨claimed, taken⟩ := NotificationIntake.claim_total around.claimed claimable
  have fields := (NotificationIntake.claim_eq_ok.mp taken).2
  have processing : claimed.status = .processing := by rw [fields]
  have referenced : claimed.payload.templateId = some templateId := by rw [fields, ← templated, ← payload]
  have begins : processor.processStored intake around =
      (if processor.maxAttempts < claimed.attempts then
        IntakeProcessor.failWith claimed ("exceeded " ++ toString processor.maxAttempts ++ " processing attempts") around
      else processor.carryOut claimed around).checked := by
    simp only [IntakeProcessor.processStored, IntakeProcessor.process, claimable, taken, if_true]
  have counted : claimed.attempts = intake.attempts + 1 := by rw [fields]
  rw [begins, counted]
  by_cases exhausted : processor.maxAttempts ≤ intake.attempts
  · rw [if_pos (Nat.lt_succ_of_le exhausted)]
    exact iff_of_true (IntakeProcessor.failWith_settles processing (by simp) around) (.inl exhausted)
  rw [if_neg fun used => exhausted (Nat.le_of_lt_succ used)]
  simp only [exhausted, false_or]
  cases known : around.recipient with
  | none =>
      simp only [IntakeProcessor.carryOut, known, true_or, iff_true]
      exact IntakeProcessor.settle_settles processing rfl around
  | some recipient =>
      simp only [IntakeProcessor.carryOut, known, reduceCtorEq, false_or]
      cases stored : intake.plan with
      | some plan =>
          have kept : claimed.plan = some plan := by rw [fields, ← stored]
          rw [if_neg (by rw [kept]; simp), IntakeProcessor.fanOut_settles_iff processing kept referenced]
          simp only [plannedChannels, stored, Option.elim_some, fields]
      | none =>
          have unplanned : claimed.plan = none := by rw [fields, ← stored]
          obtain ⟨plan, assembled, -⟩ := assemblePlan_total agrees
            (consult intake.payload intake.constraints around.answer around.topics intake.projectId).1
            (consult intake.payload intake.constraints around.answer around.topics intake.projectId).2 around.planning
          obtain ⟨planned, kept⟩ := NotificationIntake.withPlan_total plan around.planned processing
          have decided : decidePlan claimed around = .ok planned := by
            simp only [decidePlan, fields, assembled]
            exact kept
          have after := (NotificationIntake.withPlan_eq_ok.mp kept).2
          rw [if_pos unplanned, decided]
          dsimp only
          rw [IntakeProcessor.fanOut_settles_iff (by rw [after, processing]) (by rw [after])
            (show planned.payload.templateId = some templateId by rw [after, referenced])]
          simp only [plannedChannels, stored, assembled, Except.toOption, Option.elim_some, after, fields]

/-! A greeting by text message whose template loses its variants, and one by push that gets a title. -/

theorem nothing_keyed (channel : DeliveryChannel) (variant : TemplateVariant) (held : none = some variant) :
    variant.channel = channel := by cases held

def stripped : Template where
  id := 5
  projectId := 1
  name := "Greeting".toList
  templateSlug := "greeting".toList
  variants _ := none
  keyed := nothing_keyed

theorem alert_solid : Text.blank "Hi".toList = false := rfl

def alert (title : Option Text) : Template where
  id := 5
  projectId := 1
  name := "Greeting".toList
  templateSlug := "greeting".toList
  variants channel := if channel = .push then
    some ⟨.push, ⟨"Hi".toList, title, [], [], alert_solid⟩, by simp [validateContent]⟩ else none
  keyed channel variant held := by
    split at held
    · cases held
      exact Eq.symm ‹_›
    · cases held

def alerted : AcceptNotificationCommand :=
  { greet [] with addresses := fun channel => if channel = .push then some "token".toList else none }

/-- The missing variant escapes as a `TypeError`, and the title as the table's `IntegrityError`. -/
theorem template_edits_wedge :
    (∃ creation, accept cpython { templates := [addressed] } (greet [("name".toList, .string "Ada".toList)]) firstIds =
        .ok (.created creation) ∧
      intakeWorker.processStored creation.intake { atOnce creation with template := some stripped } =
        .raised (.typeError "TemplateChannelMismatchError.__init__() takes 3 positional arguments but 4 were given") ∧
      ¬ (intakeWorker.processStored creation.intake { atOnce creation with template := some stripped }).Settles ∅) ∧
    (∃ creation, accept cpython { templates := [alert none] } alerted firstIds = .ok (.created creation) ∧
      ¬ (intakeWorker.processStored creation.intake
        { atOnce creation with template := some (alert (some "News".toList)) }).Settles ∅) :=
  ⟨⟨_, rfl, rfl, id⟩, ⟨_, rfl, id⟩⟩

def renamed : Template := greeting "Hi \x7b\x7bnick\x7d\x7d".toList (by decide)

theorem renamed_placeholder_settles :
    ∃ creation, accept cpython { templates := [addressed] } (greet [("name".toList, .string "Ada".toList)]) firstIds =
        .ok (.created creation) ∧
      (intakeWorker.processStored creation.intake { atOnce creation with template := some renamed }).Settles ∅ := by
  obtain ⟨creation, accepted, templated, claimable, holds⟩ : ∃ creation,
      accept cpython { templates := [addressed] } (greet [("name".toList, .string "Ada".toList)]) firstIds =
        .ok (.created creation) ∧
      creation.intake.payload.templateId = some 5 ∧
      creation.intake.isClaimable 0 intakeWorker.lease = true ∧
      EditHolds (some renamed) creation.intake.payload.templateVariables
        (plannedChannels creation.intake { atOnce creation with template := some renamed }) := by
    refine ⟨_, rfl, rfl, rfl, ?_⟩
    rintro held ⟨⟩
    exact nofun
  have settles := template_edit_settles accepted templated rfl rfl intakeWorker
    (show creation.intake.isClaimable { atOnce creation with template := some renamed }.claiming
      intakeWorker.lease = true from claimable)
  exact ⟨creation, accepted, settles.mpr (.inr (.inr holds))⟩

end Tiber
