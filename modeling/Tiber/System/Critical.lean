import Tiber.System.IntakeFence
import Tiber.System.Provenance
import Tiber.System.DeliveryFields

/-! CRITICAL notifications, from the request to the provider: the client alone declares them, and
no policy holds them up, whatever the model answers and the recipient prefers.
-/

set_option autoImplicit false

namespace Tiber

open Library

/-! ## From the request to the child -/

theorem effectiveCategory_critical {category : Option NotificationCategory} {answer : Option MlSuggestion}
    (critical : effectiveCategory category answer = .critical) : category = some .critical := by
  unfold effectiveCategory at critical
  cases category with
  | some category => exact congrArg some critical
  | none =>
      cases kept : (answer.bind (·.category)).filter (· ≠ .critical) with
      | none => rw [kept] at critical; cases critical
      | some suggested =>
          have ordinary := (Option.filter_eq_some_iff.mp kept).2
          rw [kept] at critical
          simp only [Option.getD_some, Option.getD_none] at critical
          simp [critical] at ordinary

namespace IntakeRuns

variable {command : AcceptNotificationCommand} {creation : Creation} {processor : IntakeProcessor}
  {deciding around : Surroundings} {plan : NotificationPlan} {recipient : Recipient} {child : Notification}

theorem Offspring.category_effective (established : Established command creation)
    (offspring : Offspring processor creation.intake deciding plan recipient around child) :
    child.category = effectiveCategory command.category deciding.answer := by
  obtain ⟨assembled, -, intake, -, made⟩ := offspring
  rw [makeChild_category made, (assemblePlan_eq_ok assembled).1, planCategory_effective established]

theorem Offspring.critical (established : Established command creation)
    (offspring : Offspring processor creation.intake deciding plan recipient around child)
    (critical : child.category = .critical) :
    command.category = some .critical ∧ child.sendTimeBasis = .immediate ∧ child.sendAt = none ∧
      child.status = .pending := by
  have declared : command.category = some .critical :=
    effectiveCategory_critical ((offspring.category_effective established).symm.trans critical)
  obtain ⟨-, -, intake, descends, made⟩ := offspring
  have payload : intake.payload = creation.intake.payload := by rw [descends.request]
  have unscheduled : intake.payload.sendAt = none := by
    obtain ⟨topic, fields⟩ := established.payload
    rw [payload]
    apply creation.intake.payload.critical_unscheduled
    rw [fields]
    simp [IntakePayloadFields.declaredCategory, AcceptNotificationCommand.payload, declared]
  obtain ⟨built, building, fields, applied⟩ := IntakeProcessor.makeChild_built made
  have category : plan.category = .critical := by rw [← makeChild_category made]; exact critical
  have basis : sendTimeBasis intake.payload plan = .immediate := by simp [sendTimeBasis, unscheduled, category]
  -- the policy lets it pass before it looks at any rule
  have passed : child = built := by
    unfold applyPolicy at applied
    rw [PolicyResolver.evaluate_critical (by rw [fields]; exact category)] at applied
    exact (Except.ok.inj applied).symm
  subst passed
  refine ⟨declared, ?_, ?_, ?_⟩
  · rw [fields]
    exact basis
  · rw [buildChild_sendAt building, if_neg (by simp [basis]), unscheduled]
    rfl
  · rw [fields]
    rfl

end IntakeRuns

/-! ## From the child to the provider -/

namespace DeliveryRuns

def Unhindered (fields : NotificationFields) : Prop :=
  fields.category = .critical ∧ fields.status ≠ .suppressed ∧ fields.status ≠ .postponed

theorem unhindered_stable {processor : NotificationDeliveryProcessor} {rules : List PolicyRule}
    (guarded : processor.policyGuard = some (PolicyResolver.evaluate rules)) :
    Stable processor (fun _ _ _ => True) Unhindered where
  judged {loaded updated lookup clock} unhindered _ prepared := by
    obtain ⟨notification, staleBefore, recipient, eligible, -, rejected, -⟩ :=
      NotificationDeliveryProcessor.prepare_verdict prepared
    have category : notification.category = .critical := by
      rw [NotificationDeliveryProcessor.eligible_fields eligible]
      exact unhindered.1
    unfold NotificationDeliveryProcessor.judge at rejected
    rw [guarded] at rejected
    simp only [PolicyResolver.evaluate_critical category] at rejected
    -- the chain lets every CRITICAL notification pass
    cases rejected
  prepared {loaded claim lookup clock} unhindered _ prepared := by
    obtain ⟨notification, staleBefore, recipient, eligible, -, -, claimed⟩ :=
      NotificationDeliveryProcessor.prepare_claim prepared
    obtain ⟨-, -, -, fields⟩ := NotificationDeliveryProcessor.claimFor_eq_ok claimed
    have processing : Unhindered claim.processing.toNotificationFields := by
      rw [fields, NotificationDeliveryProcessor.eligible_fields eligible]
      exact ⟨unhindered.1, nofun, nofun⟩
    exact ⟨processing, processing⟩
  claimed before carried := ⟨before.1, carried.2⟩
  recorded {claim answer recording attempt updated} unhindered recorded := by
    refine ⟨?_, ?_⟩
    · rw [NotificationDeliveryProcessor.outcome_fields recorded]
      exact unhindered.1
    · -- an outcome is DELIVERED, FAILED or a return to PENDING
      rcases NotificationDeliveryProcessor.outcome_status recorded with status | status | status <;>
        rw [status] <;> exact ⟨nofun, nofun⟩
  cancelled before := ⟨before.1, nofun, nofun⟩
  withdrawn before carried := ⟨before.1, carried.2⟩
  failed before := ⟨before.1, nofun, nofun⟩

end DeliveryRuns

/-- A CRITICAL child is the client's own doing. It is immediate and announced with high priority, and no
delivery run with a policy guard suppresses or postpones it. -/
theorem critical_unstoppable {runtime : Runtime} {registry : Registry} {command : AcceptNotificationCommand}
    {minted : Minted} {creation : Creation}
    (accepted : accept runtime registry command minted = .ok (.created creation))
    {wiring : IntakeRuns.Wiring} {events : List IntakeRuns.Event} {final : IntakeRuns.State}
    (reached : Machine.run (IntakeRuns.step wiring) { row := creation.intake } events = some final)
    {child : Notification} (member : child ∈ final.children) (critical : child.category = .critical) :
    (command.category = some .critical ∧ child.sendTimeBasis = .immediate ∧ child.sendAt = none ∧
      child.status = .pending) ∧
    (enqueueDispatch child ∈ final.dispatches ∧ (enqueueDispatch child).priority = .high ∧
      (enqueueDispatch child).availableAt = none) ∧
    ∀ (processor : NotificationDeliveryProcessor) (rules : List PolicyRule),
      processor.policyGuard = some (PolicyResolver.evaluate rules) →
      ∀ (start last : DeliveryRuns.State) (deliveries : List DeliveryRuns.Event), start.Fresh →
        start.row = child.toNotificationFields →
        Machine.run (DeliveryRuns.step processor) start deliveries = some last →
        last.row.status ≠ .suppressed ∧ last.row.status ≠ .postponed := by
  have established := accept_established accepted
  have rooted := IntakeRuns.rooted_run
    ⟨established.received.1, rfl, rfl, rfl, rfl, fun _ => rfl⟩ reached
  obtain ⟨deciding, plan, recipient, around, offspring⟩ := rooted.children child member
  have facts := offspring.critical established critical
  obtain ⟨declared, immediate, unscheduled, pending⟩ := facts
  refine ⟨⟨declared, immediate, unscheduled, pending⟩, ⟨?_, ?_, unscheduled⟩, ?_⟩
  · rw [rooted.announced, dispatchRows]
    refine List.mem_map_of_mem (List.mem_filter.mpr ⟨member, ?_⟩)
    simp [Notification.announced, pending]
  · simp [enqueueDispatch, critical]
  · -- from here on the row has a life of its own, in which nothing unhindered is hindered
    intro processor rules guarded start last deliveries fresh same delivered
    have begun : DeliveryRuns.Unhindered start.row := by
      rw [same]
      exact ⟨critical, by simp [pending], by simp [pending]⟩
    have stable := DeliveryRuns.unhindered_stable guarded
    exact (stable.run fresh begun (Machine.along_always (fun _ _ _ _ _ _ => trivial) start deliveries) delivered).row.2

/-! An alarm to the subscriber. -/

def alarm : AcceptNotificationCommand := { IntakeRuns.announcement with category := some .critical }

theorem alarm_unstoppable :
    ∃ creation final child,
      accept cpython { recipients := [IntakeRuns.subscriber] } alarm firstIds = .ok (.created creation) ∧
      Machine.run (IntakeRuns.step {}) { row := creation.intake }
        ([.relay .recorded, .deliver 0 0, .claim 0 0 0] ++ IntakeRuns.expanding 0 .sms 0) = some final ∧
      child ∈ final.children ∧ child.category = .critical ∧ (enqueueDispatch child).priority = .high ∧
      ∀ deliveries last, Machine.run (DeliveryRuns.step DeliveryRuns.worker)
        { row := child.toNotificationFields } deliveries = some last →
        last.row.status ≠ .suppressed ∧ last.row.status ≠ .postponed := by
  obtain ⟨creation, final, child, accepted, reached, member, critical⟩ : ∃ creation final child,
      accept cpython { recipients := [IntakeRuns.subscriber] } alarm firstIds = .ok (.created creation) ∧
      Machine.run (IntakeRuns.step {}) { row := creation.intake }
        ([.relay .recorded, .deliver 0 0, .claim 0 0 0] ++ IntakeRuns.expanding 0 .sms 0) = some final ∧
      child ∈ final.children ∧ child.category = .critical := ⟨_, _, _, rfl, rfl, .head _, rfl⟩
  obtain ⟨-, ⟨-, priority, -⟩, later⟩ := critical_unstoppable accepted reached member critical
  exact ⟨creation, final, child, accepted, reached, member, critical, priority, fun deliveries last delivered =>
    later DeliveryRuns.worker intakeRules rfl _ last deliveries ⟨fun _ => rfl, rfl⟩ rfl delivered⟩

end Tiber
