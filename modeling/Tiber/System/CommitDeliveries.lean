import Tiber.System.CommitCalls

/-! Deliveries, cancellations and queries commit what `Commit` allows, and so does a history of calls. -/

set_option autoImplicit false

namespace Tiber

open Library

/-! ## The first transaction of a delivery -/

structure Delivering (start world : World) : Prop where
  committed : Committed start world
  unique : (world.notifications.map (·.id)).Nodup

/-- The row is stored as the claim has it, and the content of the claim is the row's. -/
structure World.Claims (world : World) (claim : Claim) : Prop where
  stored : claim.processing.toNotificationFields ∈ world.notifications
  processing : claim.processing.status = .processing
  content : claim.content = claim.processing.content

namespace NotificationDeliveryProcessor

variable {processor : NotificationDeliveryProcessor} {loaded : Notification} {lookup : Lookup} {clock : Readings}

theorem prepare_verdict_moves {updated : Notification}
    (prepared : processor.prepare loaded lookup clock = .ok (.verdict updated)) :
    Moves loaded.toNotificationFields updated.toNotificationFields := by
  obtain ⟨notification, staleBefore, recipient, taken, -, -, applied⟩ := prepare_verdict prepared
  have same := eligible_fields taken
  have fields := applyVerdict_fields applied
  refine ⟨?_, updated.consistent, eligible_live taken, ?_, .inl ?_⟩
  · rw [fields, same]
  · rcases applyVerdict_status applied with postponed | suppressed
    · exact .inr (.inl postponed)
    · exact .inr (.inr (.inl suppressed))
  · rw [fields, same]

theorem prepare_claim_moves {claim : Claim}
    (known : ∀ row ∈ lookup.template, loaded.templateId = some row.id ∧ row.projectId = loaded.projectId)
    (prepared : processor.prepare loaded lookup clock = .ok (.claim claim)) :
    Moves loaded.toNotificationFields claim.processing.toNotificationFields ∧
      claim.content = claim.processing.content := by
  obtain ⟨notification, staleBefore, recipient, taken, -, -, claimed⟩ := prepare_claim prepared
  obtain ⟨-, -, fields, -⟩ := prepare_claim_fields prepared
  have same := eligible_fields taken
  obtain ⟨resolved, written⟩ := claimFor_content claimed
  refine ⟨⟨?_, claim.processing.consistent, eligible_live taken, .inl (by rw [fields]), ?_⟩, written.symm⟩
  · rw [fields]
  · rw [written]
    have content : notification.content = loaded.content := by rw [same]
    unfold contentFor at resolved
    split at resolved
    · have template : notification.templateId = loaded.templateId := by rw [same]
      have project : notification.projectId = loaded.projectId := by rw [same]
      rcases resolveContent_eq_ok (by rw [template, project]; exact known) resolved with ⟨-, own⟩ | rendering
      · exact .inl (own.trans content)
      · refine .inr (rendering.of_eq ?_ ?_ ?_ ?_) <;> rw [same]
    · exact .inl ((Except.ok.inj resolved).symm.trans content)

end NotificationDeliveryProcessor

/-- The row that a conditional UPDATE meets is the one that was loaded. -/
theorem World.targetOf_loaded {world : World} {loaded notification : Notification} {row : NotificationFields}
    (unique : (world.notifications.map (·.id)).Nodup) (stored : loaded.toNotificationFields ∈ world.notifications)
    (named : notification.id = loaded.id) (found : world.targetOf notification = some row) :
    row = loaded.toNotificationFields := by
  obtain ⟨there, -, same⟩ := World.targetOf_eq_some found
  exact AtMostOne.of_nodup unique loaded.id row there _ stored (same.trans named) rfl

theorem World.claimForDelivery_won {world later : World} {loaded processing : Notification} {expected : NotificationStatus}
    {staleBefore : Option Instant} (unique : (world.notifications.map (·.id)).Nodup)
    (stored : loaded.toNotificationFields ∈ world.notifications)
    (fields : processing.toNotificationFields = { loaded.toNotificationFields with
      status := processing.status, content := processing.content, updatedAt := processing.updatedAt })
    (won : world.claimForDelivery processing expected staleBefore = .ok (true, later)) :
    later = { world with
      notifications := upsert NotificationFields.id processing.toNotificationFields world.notifications } := by
  unfold World.claimForDelivery at won
  split at won
  · cases won
  · split at won
    · cases won
    · rename_i row found
      split at won
      · cases won
      · cases won
      · rename_i claimed done
        have loadedRow := World.targetOf_loaded unique stored (by rw [fields]) found
        have written := NotificationDeliveryProcessor.claimForDelivery_fields done
        rw [loadedRow, ← fields] at written
        cases won
        rw [written]

theorem World.claimForDelivery_lost {world later : World} {processing : Notification} {expected : NotificationStatus}
    {staleBefore : Option Instant} (lost : world.claimForDelivery processing expected staleBefore = .ok (false, later)) :
    later = world := by
  unfold World.claimForDelivery at lost
  split at lost
  · cases lost
  · split at lost
    · cases lost
      rfl
    · split at lost
      · cases lost
      · cases lost
        rfl
      · cases lost

theorem Delivering.put {start world : World} {row updated : NotificationFields} (delivering : Delivering start world)
    (stored : row ∈ world.notifications) (moves : Moves row updated) :
    Delivering start { world with notifications := upsert NotificationFields.id updated world.notifications } :=
  ⟨delivering.committed.step (.move stored moves), upsert_nodup delivering.unique⟩

theorem prepareCall_commits (processor : NotificationDeliveryProcessor) (notificationId projectId : Uuid)
    (clock : Readings) {start : World} (unique : (start.notifications.map (·.id)).Nodup) :
    Program.Triple (fun world => world = start) (prepareCall processor notificationId projectId clock)
      (fun result world => Delivering start world ∧ ∀ claim, result = .inr claim → world.Claims claim)
      (Committed start) := by
  refine Program.Triple.transaction ?_ (by rintro _ rfl; exact .refl _)
  have here : Delivering start start := ⟨.refl start, unique⟩
  apply Program.Triple.bind _ (Call.find_triple fun _ _ => trivial)
  rintro (_ | loaded)
  · exact Program.Triple.fail fun _ _ => trivial
  · apply Program.Triple.reading
    intro recipient
    apply Program.Triple.reading
    intro constraint
    apply Program.Triple.reading
    intro template
    apply Program.Triple.checking fun _ _ => trivial
    rintro (notification | updated | claim) prepared
    · apply Program.Triple.pure
      rintro _ ⟨⟨⟨⟨rfl, -⟩, -⟩, -⟩, -⟩
      exact ⟨here, fun _ found => absurd found Sum.inl_ne_inr⟩
    · have moves := NotificationDeliveryProcessor.prepare_verdict_moves prepared
      apply Program.Triple.bind fun _ => Delivering start
      · apply Call.write_triple _ fun _ _ => trivial
        rintro _ later ⟨⟨⟨⟨rfl, found⟩, -⟩, -⟩, -⟩ saved
        rw [World.saveNotification_eq_ok saved]
        exact here.put (Tables.notificationById_mem found) moves
      · exact fun _ => Program.Triple.pure fun _ met => ⟨met, fun _ found => absurd found Sum.inl_ne_inr⟩
    · obtain ⟨-, -, fields, -⟩ := NotificationDeliveryProcessor.prepare_claim_fields prepared
      apply Program.Triple.bind fun won world => Delivering start world ∧ (won = true → world.Claims claim)
      · apply Program.Triple.statement _ fun _ _ => trivial
        rintro _ won later ⟨⟨⟨⟨rfl, found⟩, -⟩, -⟩, named⟩ ran
        have stored := Tables.notificationById_mem found
        obtain ⟨moves, content⟩ := NotificationDeliveryProcessor.prepare_claim_moves
          (fun row held => by cases held; exact Tables.template_known named) prepared
        cases won with
        | false =>
            rw [World.claimForDelivery_lost ran]
            exact ⟨here, fun won => by cases won⟩
        | true =>
            rw [World.claimForDelivery_won unique stored (by rw [fields]) ran]
            exact ⟨here.put stored moves, fun _ => ⟨mem_upsert.mpr (.inl rfl), by rw [fields], content⟩⟩
      · intro won
        split
        · rename_i yes
          apply Program.Triple.pure
          rintro world ⟨delivering, claims⟩
          refine ⟨delivering, ?_⟩
          rintro _ ⟨⟩
          exact claims yes
        · apply Program.Triple.bind _ (Call.find_triple fun _ _ => trivial)
          intro current
          apply Program.Triple.pure
          rintro world ⟨⟨delivering, -⟩, -⟩
          exact ⟨delivering, fun _ found => absurd found Sum.inl_ne_inr⟩

/-! ## The second transaction -/

namespace NotificationDeliveryProcessor

variable {processor : NotificationDeliveryProcessor} {claim : Claim} {answer : Option ProviderAnswer}
  {recording : Recording} {attempt : DeliveryAttempt} {updated : Notification}

theorem recordAttempt_eq_ok {notification : Notification} {contact : Contact}
    (recorded : processor.recordAttempt notification contact recording = .ok attempt) :
    attempt.notificationId = notification.id ∧ attempt.channel = notification.channel ∧
      attempt.status = contact.status ∧ attempt.error = contact.error ∧
      attempt.recipientAddress = contact.recipientAddress := by
  obtain ⟨made, created, kept⟩ := Checked.bind_eq_ok.mp recorded
  obtain ⟨-, -, same⟩ := Checked.bind_eq_ok.mp kept
  cases same
  unfold DeliveryAttempt.create DeliveryAttempt.build at created
  split at created
  · split at created
    · cases created
      exact ⟨rfl, rfl, rfl, rfl, rfl⟩
    · cases created
  · cases created

/-- The second transaction settles the claimed row by its attempt, with the address that was contacted. -/
theorem outcome_settles (recorded : processor.outcome claim answer recording = .ok (attempt, updated)) :
    Settles claim.processing.toNotificationFields updated.toNotificationFields attempt ∧
      attempt.recipientAddress = answer.bind fun _ => claim.usableAddress := by
  have fields := outcome_fields recorded
  have failing {error : String} {address : Option Text}
      (failed : processor.fail claim.processing error address recording = .ok (attempt, updated)) :
      Settles claim.processing.toNotificationFields updated.toNotificationFields attempt ∧
        attempt.recipientAddress = address := by
    simp only [fail, Checked.bind_eq_ok] at failed
    obtain ⟨made, kept, moved, marked, same⟩ := failed
    cases same
    obtain ⟨about, channel, status, told, called⟩ := recordAttempt_eq_ok kept
    have written := (Notification.markFailed_eq_ok.mp marked).2.2
    refine ⟨⟨by rw [fields], updated.consistent, ⟨about, channel⟩, .inr (.inl ⟨status, by rw [written], ?_⟩)⟩, called⟩
    rw [written, told]
  unfold outcome at recorded
  split at recorded
  · exact failing recorded
  · simp only [retry, Checked.bind_eq_ok] at recorded
    obtain ⟨made, kept, moved, marked, same⟩ := recorded
    cases same
    obtain ⟨about, channel, status, -, called⟩ := recordAttempt_eq_ok kept
    have written := (Notification.retryDelivery_eq_ok.mp marked).2
    exact ⟨⟨by rw [fields], updated.consistent, ⟨about, channel⟩, .inr (.inr ⟨status, by rw [written]⟩)⟩, called⟩
  · simp only [succeed, Checked.bind_eq_ok] at recorded
    obtain ⟨made, kept, moved, marked, same⟩ := recorded
    cases same
    obtain ⟨about, channel, status, -, called⟩ := recordAttempt_eq_ok kept
    have written := (Notification.markDelivered_eq_ok.mp marked).2
    exact ⟨⟨by rw [fields], updated.consistent, ⟨about, channel⟩, .inl ⟨status, by rw [written]⟩⟩, called⟩
  · exact failing recorded

end NotificationDeliveryProcessor

theorem World.Claims.message {world : World} {claim : Claim} (claims : world.Claims claim) (address : Text) :
    claim.message address = claim.processing.toNotificationFields.message address := by
  rw [Claim.message, claims.content]
  rfl

theorem Claim.usableAddress_ne {claim : Claim} : claim.usableAddress ≠ some [] := by
  intro usable
  have solid := (Option.filter_eq_some_iff.mp usable).2
  simp at solid

/-- What was sent just before is committed with its attempt, or on its own when the attempt is not recorded. -/
theorem recordCall_commits (processor : NotificationDeliveryProcessor) (claim : Claim) (answer : Option ProviderAnswer)
    (recording : Recording) {start world : World} (committed : Committed start world) (claims : world.Claims claim) :
    Program.Triple
      (fun sending => sending = { world with
        sent := world.sent ++
          ((answer.bind fun _ => claim.usableAddress).map claim.processing.toNotificationFields.message).toList })
      (recordCall processor claim answer recording) (fun _ => Committed start) (Committed start) := by
  refine Program.Triple.transaction ?_ ?_
  · apply Program.Triple.checking fun _ _ => trivial
    rintro ⟨attempt, updated⟩ done
    obtain ⟨settles, called⟩ := NotificationDeliveryProcessor.outcome_settles done
    apply Program.Triple.bind fun _ recorded => recorded = { world with
      sent := world.sent ++
        ((answer.bind fun _ => claim.usableAddress).map claim.processing.toNotificationFields.message).toList
      attempts := world.attempts ++ [attempt] }
    · apply Program.Triple.modify
      rintro _ rfl
      rfl
    · intro _
      apply Program.Triple.bind fun _ => Committed start
      · apply Call.write_triple _ fun _ _ => trivial
        rintro _ later rfl saved
        rw [World.saveNotification_eq_ok saved]
        refine committed.step (.contact claims.stored claims.processing ?_ called settles)
        cases answer with
        | none => exact fun usable => by cases usable
        | some answer => exact Claim.usableAddress_ne
      · exact fun _ => Program.Triple.pure fun _ met => met
  · rintro _ rfl
    cases usable : answer.bind fun _ => claim.usableAddress with
    | none =>
        rw [Option.map_none, Option.toList_none, List.append_nil]
        exact committed
    | some address =>
        refine committed.step (.unrecorded claims.stored claims.processing ?_)
        rintro rfl
        cases answer with
        | none => cases usable
        | some answer => exact Claim.usableAddress_ne usable

theorem deliverCall_commits (processor : NotificationDeliveryProcessor) (provider : ProviderMessage → ProviderAnswer)
    (notificationId projectId : Uuid) (clock : Readings) (recording : Recording) {start : World}
    (unique : (start.notifications.map (·.id)).Nodup) :
    Program.Triple (fun world => world = start)
      (deliverCall processor provider notificationId projectId clock recording) (fun _ => Committed start)
      (Committed start) := by
  unfold deliverCall
  apply Program.Triple.bind _ (prepareCall_commits processor notificationId projectId clock unique)
  rintro (notification | claim)
  · exact Program.Triple.pure fun _ met => met.1.committed
  · dsimp only
    apply Program.Triple.each
    rintro world ⟨delivering, claims⟩
    have claims := claims claim rfl
    split
    · apply (recordCall_commits processor claim none recording delivering.committed claims).under
      rintro _ rfl
      simp
    · rename_i address usable
      have message := claims.message address
      apply Program.Triple.bind fun _ sending => sending = { world with
        sent := world.sent ++ [claim.processing.toNotificationFields.message address] }
      · apply Program.Triple.modify
        rintro _ rfl
        rw [message]
        rfl
      · intro _
        apply Program.Triple.bind fun _ => Committed start
        · apply (recordCall_commits processor claim _ recording delivering.committed claims).under
          rintro _ rfl
          simp [usable]
        · intro recorded
          split
          · exact Program.Triple.fail fun _ met => met
          · exact Program.Triple.pure fun _ met => met

/-! ## Cancelling -/

theorem cancelCall_commits (projectId notificationId : Uuid) (stamp : Instant) {start : World}
    (unique : (start.notifications.map (·.id)).Nodup) :
    Program.Triple (fun world => world = start) (cancelCall projectId notificationId stamp) (fun _ => Committed start)
      (Committed start) := by
  refine Program.Triple.transaction ?_ (by rintro _ rfl; exact .refl _)
  apply Program.Triple.bind _ (Call.find_triple fun _ _ => trivial)
  rintro (_ | notification)
  · exact Program.Triple.fail fun _ _ => trivial
  · apply Program.Triple.checking fun _ _ => trivial
    intro cancelled marked
    obtain ⟨pending, fields⟩ := Notification.markCancelled_eq_ok.mp marked
    apply Program.Triple.bind fun _ => Committed start
    · apply Program.Triple.statement _ fun _ _ => trivial
      rintro _ done later ⟨rfl, found⟩ ran
      have stored := Tables.notificationById_mem found
      rw [Except.ok.injEq] at ran
      unfold World.cancelPending at ran
      split at ran
      · cases ran
        exact .refl _
      · rename_i updated written
        cases ran
        obtain ⟨row, held, moved⟩ := Option.bind_eq_some_iff.mp written
        obtain rfl := World.targetOf_loaded unique stored (by rw [fields]) held
        rw [cancelPending, if_pos pending, Option.some.injEq] at moved
        subst moved
        refine (Committed.refl _).step (.move stored ⟨rfl, ?_, by rw [pending]; rfl, ?_, .inl rfl⟩)
        · have same := cancelled.consistent
          rw [fields] at same ⊢
          exact same
        · exact .inr (.inr (.inr (by rw [fields])))
    · intro done
      split
      · exact Program.Triple.pure fun _ met => met
      · apply Program.Triple.bind _ (Call.find_triple fun _ _ => trivial)
        rintro (_ | current)
        · exact Program.Triple.fail fun _ _ => trivial
        · exact Program.Triple.fail fun _ _ => trivial

/-! ## Any call -/

def ProjectRequest.Mints (world : World) : ProjectRequest → Prop
  | .process _ given => world.Mints given
  | .accept .. | .deliver .. | .cancel .. | .getNotification .. | .listNotifications .. | .getRequestStatus .. => True

theorem getRequestStatusCall_reads (projectId transactionId : Uuid) (start : World) :
    Program.Triple (fun world => world = start) (getRequestStatusCall projectId transactionId)
      (fun _ world => world = start) (fun world => world = start) := by
  unfold getRequestStatusCall
  apply Program.Triple.reading
  rintro (_ | intake)
  · exact Program.Triple.fail fun _ met => met.1
  · apply Program.Triple.reading
    rintro (_ | recipient)
    · exact Program.Triple.fail fun _ met => met.1.1
    · apply Program.Triple.bind _ (Call.find_triple fun _ met => met.1.1)
      exact fun notifications => Program.Triple.pure fun _ met => met.1.1.1

/-- What a call has done to the world, however it ended, is a number of commits. -/
theorem ProjectRequest.call_commits (services : Services) (projectId : Uuid) (request : ProjectRequest) {start : World}
    (mints : request.Mints start) (unique : (start.notifications.map (·.id)).Nodup) :
    Committed start ((request.call services projectId).final start) := by
  have ended {α : Type} {call : Call α} (wrap : α → ProjectAnswer)
      (triple : Program.Triple (fun world => world = start) call (fun _ => Committed start) (Committed start)) :
      Committed start ((do return wrap (← call) : Call ProjectAnswer).final start) := by
    have whole : Program.Triple (fun world => world = start) (do return wrap (← call) : Call ProjectAnswer)
        (fun _ => Committed start) (Committed start) := by
      apply Program.Triple.bind _ triple
      exact fun _ => Program.Triple.pure fun _ met => met
    exact whole.final rfl
  have reads {α : Type} {call : Call α} (wrap : α → ProjectAnswer)
      (triple : Program.Triple (fun world => world = start) call (fun _ world => world = start)
        (fun world => world = start)) :
      Committed start ((do return wrap (← call) : Call ProjectAnswer).final start) := by
    apply ended
    intro world met
    obtain ⟨returned, failed⟩ := triple world met
    exact ⟨fun value ran => returned value ran ▸ .refl _, fun error ran => failed error ran ▸ .refl _⟩
  cases request with
  | accept command minted => exact ended .accepted (acceptCall_commits services.runtime command minted start)
  | process intakeId given => exact ended (fun _ => .done) (processCall_commits services.intakes intakeId mints)
  | deliver notificationId clock recording provider =>
      exact ended .notification
        (deliverCall_commits services.deliveries provider notificationId projectId clock recording unique)
  | cancel notificationId stamp => exact ended (fun _ => .done) (cancelCall_commits projectId notificationId stamp unique)
  | getNotification notificationId =>
      apply reads .notification
      unfold getNotificationCall
      apply Program.Triple.bind _ (Call.find_triple fun _ met => met)
      rintro (_ | notification)
      · exact Program.Triple.fail fun _ met => met.1
      · dsimp only
        split
        · exact Program.Triple.fail fun _ met => met.1
        · exact Program.Triple.pure fun _ met => met.1
  | listNotifications limit offset =>
      exact reads .notifications ((Call.find_triple fun _ met => met).relaxed fun _ _ met => met.1)
  | getRequestStatus transactionId => exact reads .requestStatus (getRequestStatusCall_reads projectId transactionId start)

end Tiber
