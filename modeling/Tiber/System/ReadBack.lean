import Tiber.Api.Responses
import Tiber.System.IntakeReload
import Tiber.System.TemplateEdits

/-! Reading back what was accepted.

The response validates stored content with the request's model again. Direct content has passed that model
before; what a template renders to has not.
-/

set_option autoImplicit false

namespace Tiber

open Library
open IntakeProcessor (makeChild)

/-- The title comes out of rendering within the bounds, and every alternative text has something in it. -/
def TemplateVariant.Shown (variant : TemplateVariant) (mapping : Option Variables) : Prop :=
  (∀ title ∈ TemplateRenderer.renderTitle mapping variant.content.title, Fits (some 255) title) ∧
    ∀ image ∈ variant.content.images, ∀ alt ∈ image.alt, Fits none alt

/-- The status query is answered with the stored content up to surrounding white space, and no page of these
notifications fails. -/
def ReadsBack (row : NotificationIntake) (current : List Notification) (recipient : Recipient) : Prop :=
  (∃ response, IntakeStatusResponse.fromIntake row current recipient = .ok response ∧
    response.notifications.map (·.content) = current.map (·.content.trimmed)) ∧
  ∀ page : List Notification, (∀ notification ∈ page, notification ∈ current) →
    ∃ responses, listNotifications page = .ok responses

theorem readsBack_iff {row : NotificationIntake} {current : List Notification} {recipient : Recipient} :
    ReadsBack row current recipient ↔ ∀ notification ∈ current, notification.content.Measured := by
  constructor
  · exact fun reads => IntakeStatusResponse.fromIntake_isOk.mp reads.1
  · exact fun measured => ⟨IntakeStatusResponse.fromIntake_isOk.mpr measured, fun page inside =>
      listNotifications_isOk.mpr fun notification listed => measured notification (inside notification listed)⟩

/-! ## What fan-out stores -/

theorem render_presentable {variant : TemplateVariant} {mapping : Option Variables} {content : NotificationContent}
    (rendered : TemplateRenderer.render variant.content mapping = .ok content) :
    content.Presentable ↔ variant.Shown mapping := by
  unfold TemplateRenderer.render at rendered
  split at rendered
  · cases rendered
  · obtain ⟨title, -, -, images⟩ := NotificationContent.create_eq_ok.mp rendered
    rw [NotificationContent.Presentable, title, images]
    rfl

theorem render_admitted {conv : Conversions} {variant : TemplateVariant} {mapping : Option Variables}
    {content : NotificationContent} (rendered : TemplateRenderer.render variant.content mapping = .ok content)
    (admitted : variant.content.Admitted conv) : content.Admitted conv := by
  unfold TemplateRenderer.render at rendered
  split at rendered
  · cases rendered
  · obtain ⟨-, -, actions, images⟩ := NotificationContent.create_eq_ok.mp rendered
    rw [NotificationContent.Admitted, actions, images]
    exact admitted

section
variable {processor : IntakeProcessor} {intake completed : NotificationIntake} {around : Surroundings}
  {children : List Notification}

theorem makeChild_content {plan : NotificationPlan} {recipient : Recipient} {channel : DeliveryChannel} {child : Notification}
    (made : processor.makeChild intake plan recipient around channel = .ok child) :
    (intake.payload.templateId = none ∧ intake.payload.content = some child.content) ∨
      ∃ templateId template variant, intake.payload.templateId = some templateId ∧ around.template = some template ∧
        template.variants channel = some variant ∧
        TemplateRenderer.render variant.content intake.payload.templateVariables = .ok child.content := by
  obtain ⟨created, creating, -, same⟩ := IntakeProcessor.makeChild_created made
  rw [same]
  unfold childContent at creating
  -- a template's child is drafted first and rendered then; a direct one takes the request's content
  split at creating
  · next templateId referenced =>
      simp only [Checked.bind_eq_ok] at creating
      obtain ⟨provisional, drafted, content, resolved, rendered⟩ := creating
      have fields := Notification.build_eq_ok.mp drafted
      have written : created.content = content := by rw [Notification.withContent_eq_ok.mp rendered]
      simp only [resolveContent, fields, childFields, referenced] at resolved
      rw [written]
      cases found : around.template with
      | none => rw [found] at resolved; cases resolved
      | some template =>
          rw [found] at resolved
          dsimp only at resolved
          cases offered : template.variants channel with
          | none => rw [offered] at resolved; cases resolved
          | some variant =>
              rw [offered] at resolved
              exact .inr ⟨templateId, template, variant, referenced, rfl, offered, resolved⟩
  · next direct =>
      split at creating
      · cases creating
      · next content given =>
          obtain ⟨_, -, drafted⟩ := Checked.bind_eq_ok.mp creating
          have written : created.content = content := by rw [Notification.build_eq_ok.mp drafted]; rfl
          exact .inl ⟨direct, by rw [written]; exact given⟩

theorem fanOut_made {planned : NotificationIntake} {recipient : Recipient}
    (done : processor.fanOut planned recipient around = .completed completed children) :
    ∃ plan, planned.plan = some plan ∧ (plan.channels.filter (· ∉ around.existing)).mapM
      (processor.makeChild planned plan recipient around) = .ok children := by
  unfold IntakeProcessor.fanOut at done
  cases made : processor.makeChildren planned recipient around with
  | error failure =>
      rw [made] at done
      exact absurd done IntakeProcessor.settle_not_completed
  | ok batch =>
      rw [made] at done
      dsimp only at done
      split at done
      · exact absurd done IntakeProcessor.settle_not_completed
      · cases done
        cases stored : planned.plan with
        | none => rw [IntakeProcessor.makeChildren, stored] at made; cases made
        | some plan =>
            rw [IntakeProcessor.makeChildren, stored] at made
            exact ⟨plan, rfl, made⟩

/-- A call that completes has made a child for every planned channel without one, from the intake's payload. -/
theorem process_completed (done : processor.process intake around = .completed completed children) :
    ∃ planned plan recipient, planned.payload = intake.payload ∧
      (plannedChannels intake around).mapM (processor.makeChild planned plan recipient around) = .ok children := by
  unfold IntakeProcessor.process at done
  -- an intake that cannot be claimed now is skipped
  split at done
  swap
  · cases done
  cases taken : intake.claim around.claiming processor.lease around.claimed with
  | error failure => rw [taken] at done; cases done
  | ok claimed =>
      rw [taken] at done
      dsimp only at done
      have fields := (NotificationIntake.claim_eq_ok.mp taken).2
      split at done
      · exact absurd done IntakeProcessor.failWith_not_completed
      · unfold IntakeProcessor.carryOut at done
        split at done
        · exact absurd done IntakeProcessor.settle_not_completed
        · next recipient known =>
            cases stored : intake.plan with
            -- planned in an earlier call: the stored plan is carried out
            | some plan =>
                have kept : claimed.plan = some plan := by rw [fields, ← stored]
                rw [if_neg (by rw [kept]; simp)] at done
                obtain ⟨own, same, made⟩ := fanOut_made done
                obtain rfl : plan = own := Option.some.inj (kept.symm.trans same)
                refine ⟨claimed, plan, recipient, by rw [fields], ?_⟩
                simpa only [plannedChannels, stored, Option.elim_some] using made
            -- not planned yet: the decision of this call is carried out, on the same payload and constraints
            | none =>
                have unplanned : claimed.plan = none := by rw [fields, ← stored]
                rw [if_pos unplanned] at done
                cases decided : decidePlan claimed around with
                | error failure =>
                    rw [decided] at done
                    exact absurd done IntakeProcessor.settle_not_completed
                | ok planned =>
                    rw [decided] at done
                    obtain ⟨plan, assembled, kept⟩ := Checked.bind_eq_ok.mp decided
                    have after := (NotificationIntake.withPlan_eq_ok.mp kept).2
                    obtain ⟨own, same, made⟩ := fanOut_made done
                    obtain rfl : plan = own := by rw [after] at same; exact Option.some.inj same
                    refine ⟨planned, plan, recipient, by rw [after, fields], ?_⟩
                    have request : claimed.payload = intake.payload ∧ claimed.constraints = intake.constraints ∧
                        claimed.projectId = intake.projectId := by rw [fields]; exact ⟨rfl, rfl, rfl⟩
                    have chosen : assemblePlan intake.payload intake.constraints
                        (consult intake.payload intake.constraints around.answer around.topics intake.projectId).1
                        (consult intake.payload intake.constraints around.answer around.topics intake.projectId).2
                        around.planning = .ok plan := by
                      rw [← request.1, ← request.2.1, ← request.2.2]
                      exact assembled
                    simpa only [plannedChannels, stored, chosen, Except.toOption, Option.elim_some] using made

variable {conv : Conversions}

structure ContentSourced (conv : Conversions) (intake : NotificationIntake) (around : Surroundings) : Prop where
  direct : ∀ content, intake.payload.content = some content →
    ∃ members model, NotificationContentModel.validate members = .ok model ∧ model.toDomain conv = .ok content
  templates : ∀ template, around.template = some template → ∀ channel variant,
    template.variants channel = some variant → variant.content.Admitted conv

/-- A child is within the bounds exactly when its source is direct or its variant shows. -/
theorem makeChild_measured (sourced : ContentSourced conv intake around) (blank : conv.urlparse [] = .ok ([], []))
    {planned : NotificationIntake} (payload : planned.payload = intake.payload) {plan : NotificationPlan}
    {recipient : Recipient} {channel : DeliveryChannel} {child : Notification}
    (made : processor.makeChild planned plan recipient around channel = .ok child) :
    child.content.Measured ↔ (intake.payload.templateId ≠ none → ∀ template, around.template = some template →
      ∀ variant, template.variants channel = some variant → variant.Shown intake.payload.templateVariables) := by
  rcases makeChild_content made with ⟨direct, given⟩ | ⟨templateId, template, variant, referenced, found, offered, rendered⟩
  · rw [payload] at direct given
    obtain ⟨members, model, valid, own⟩ := sourced.direct _ given
    obtain ⟨admitted, presentable⟩ := NotificationContentModel.toDomain_presentable valid own
    exact iff_of_true ((NotificationContent.measured_iff admitted blank).mpr presentable)
      fun templated => absurd direct templated
  · rw [payload] at referenced rendered
    rw [NotificationContent.measured_iff (render_admitted rendered (sourced.templates template found channel variant offered)) blank,
      render_presentable rendered]
    constructor
    · intro shown _ other same own held
      obtain rfl : template = other := Option.some.inj (found.symm.trans same)
      obtain rfl : variant = own := Option.some.inj (offered.symm.trans held)
      exact shown
    · exact fun shown => shown (by rw [referenced]; simp) template found variant offered

/-- What a completed call has stored is read back, whatever has become of the children's status since, exactly
when the content was supplied directly or every variant rendered for a planned channel shows. -/
theorem stored_reads_back (sourced : ContentSourced conv intake around) (blank : conv.urlparse [] = .ok ([], []))
    (done : processor.process intake around = .completed completed children) (row : NotificationIntake)
    (current : List Notification) (same : (current.map (·.content)).Perm (children.map (·.content)))
    (recipient : Recipient) :
    ReadsBack row current recipient ↔
      (intake.payload.templateId ≠ none → ∀ template, around.template = some template →
        ∀ channel ∈ plannedChannels intake around, ∀ variant, template.variants channel = some variant →
          variant.Shown intake.payload.templateVariables) := by
  obtain ⟨planned, plan, _, payload, made⟩ := process_completed done
  -- being within the bounds depends on the content only, and contents are kept
  have contents : (∀ notification ∈ current, notification.content.Measured) ↔ ∀ child ∈ children, child.content.Measured := by
    have listed : ∀ content, content ∈ current.map (·.content) ↔ content ∈ children.map (·.content) :=
      fun _ => same.mem_iff
    simp only [List.mem_map] at listed
    constructor
    · intro measured child member
      obtain ⟨notification, there, equal⟩ := (listed child.content).mpr ⟨child, member, rfl⟩
      rw [← equal]
      exact measured notification there
    · intro measured notification member
      obtain ⟨child, there, equal⟩ := (listed notification.content).mp ⟨notification, member, rfl⟩
      rw [← equal]
      exact measured child there
  rw [readsBack_iff, contents]
  constructor
  · intro measured templated template found channel chosen
    obtain ⟨child, member, built⟩ := mapM_has made chosen
    exact (makeChild_measured sourced blank payload built).mp (measured child member) templated template found
  · intro shown child member
    obtain ⟨channel, chosen, built⟩ := mapM_mem made member
    exact (makeChild_measured sourced blank payload built).mpr fun templated template found =>
      shown templated template found channel chosen

end

/-! ## A subject that is a variable -/

def subjectNotice : Template where
  id := 5
  projectId := 1
  name := "Greeting".toList
  templateSlug := "greeting".toList
  variants channel := if channel = .email then
    some ⟨.email, ⟨"Hi".toList, some "\x7b\x7bsubject\x7d\x7d".toList, [], [], alert_solid⟩, rfl⟩ else none
  keyed channel variant held := by
    split at held
    · cases held
      exact Eq.symm ‹_›
    · cases held

def noticed (subject : Text) : AcceptNotificationCommand :=
  { greet [("subject".toList, .string subject)] with
    addresses := fun channel => if channel = .email then some "ada@rail.example".toList else none }

/-- Accepted, expanded and stored, and then no status query is answered: the subject renders to a blank. -/
theorem blank_subject_unreadable :
    ∃ creation completed child, accept cpython { templates := [subjectNotice] } (noticed " ".toList) firstIds =
        .ok (.created creation) ∧
      intakeWorker.process creation.intake (atOnce creation) = .completed completed [child] ∧
      child.toModel.Storable ∧ ¬ ReadsBack completed [child] creation.recipient := by
  obtain ⟨creation, completed, child, accepted, done, storable, title⟩ : ∃ creation completed child,
      accept cpython { templates := [subjectNotice] } (noticed " ".toList) firstIds = .ok (.created creation) ∧
      intakeWorker.process creation.intake (atOnce creation) = .completed completed [child] ∧
      (child.channel = .email ↔ child.content.title ≠ none) ∧ child.content.title = some " ".toList :=
    ⟨_, _, _, rfl, rfl, by decide, rfl⟩
  refine ⟨creation, completed, child, accepted, done, child.toModel_storable_iff.mpr storable, fun reads => ?_⟩
  have measured := readsBack_iff.mp reads child (.head _)
  exact (measured.title _ title).1 (by decide)

theorem subject_reads_back :
    ∃ creation completed child, accept cpython { templates := [subjectNotice] } (noticed "Delay".toList) firstIds =
        .ok (.created creation) ∧
      intakeWorker.process creation.intake (atOnce creation) = .completed completed [child] ∧
      ReadsBack completed [child] creation.recipient := by
  obtain ⟨creation, completed, child, accepted, done, template, content, mapping⟩ : ∃ creation completed child,
      accept cpython { templates := [subjectNotice] } (noticed "Delay".toList) firstIds = .ok (.created creation) ∧
      intakeWorker.process creation.intake (atOnce creation) = .completed completed [child] ∧
      (atOnce creation).template = some subjectNotice ∧ creation.intake.payload.content = none ∧
      creation.intake.payload.templateVariables = some [("subject".toList, .string "Delay".toList)] :=
    ⟨_, _, _, rfl, rfl, rfl, rfl, rfl⟩
  have own : ∀ {channel variant}, subjectNotice.variants channel = some variant → variant.content.images = [] ∧
      variant.content.actions = [] ∧ variant.content.title = some "\x7b\x7bsubject\x7d\x7d".toList := by
    intro channel variant held
    simp only [subjectNotice] at held
    split at held
    · cases held
      exact ⟨rfl, rfl, rfl⟩
    · cases held
  have sourced : ContentSourced departureConversions creation.intake (atOnce creation) := by
    constructor
    · intro given held
      rw [content] at held
      cases held
    · intro held same channel variant offered
      rw [template] at same
      cases same
      simp [NotificationContent.Admitted, own offered]
  refine ⟨creation, completed, child, accepted, done,
    (stored_reads_back sourced rfl done completed [child] (.refl _) creation.recipient).mpr ?_⟩
  intro _ held same channel _ variant offered
  rw [template] at same
  cases same
  rw [mapping]
  constructor
  · intro title rendered
    rw [(own offered).2.2] at rendered
    obtain rfl : "Delay".toList = title := by
      have spelled : TemplateRenderer.renderTitle (some [("subject".toList, .string "Delay".toList)])
          (some "\x7b\x7bsubject\x7d\x7d".toList) = some "Delay".toList := by decide
      rw [spelled] at rendered
      exact Option.some.inj rendered
    exact ⟨by decide, fun limit given => by cases given; decide⟩
  · intro image listed
    rw [(own offered).1] at listed
    cases listed

end Tiber
