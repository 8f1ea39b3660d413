import Tiber.System.TenantProcess

/-! Delivering, cancelling and asking: every row is fetched by its id and compared with the project, or
fetched by both.
-/

set_option autoImplicit false

namespace Tiber

open Library

section Rows

variable {projectId id : Uuid} {tables others : Tables}

theorem Tables.Sound.unclaimed (sound : tables.Sound) (has : tables.HasNotification projectId id) :
    Unclaimed NotificationFields.id NotificationFields.projectId projectId id tables.notifications := by
  obtain ⟨row, stored, named, own⟩ := has
  intro known there keyed
  rw [AtMostOne.of_nodup sound.notifications id known there row stored keyed named]
  exact own

theorem Tables.notificationById_eq_some {loaded : Notification}
    (found : tables.notificationById id projectId = .ok (some loaded)) :
    loaded.id = id ∧ loaded.projectId = projectId ∧ tables.HasNotification projectId loaded.id := by
  unfold Tables.notificationById at found
  cases stored : (tables.notifications.find? fun row => row.id = id).filter fun row => row.projectId = projectId with
  | none =>
      rw [stored] at found
      cases found
  | some row =>
      rw [stored] at found
      obtain ⟨notification, built, same⟩ := Checked.bind_eq_ok.mp found
      cases same
      have fields := Notification.build_eq_ok.mp built
      obtain ⟨held, own⟩ := Option.filter_eq_some_iff.mp stored
      have named := List.find?_some held
      rw [decide_eq_true_eq] at named own
      refine ⟨by rw [fields]; exact named, by rw [fields]; exact own, row, List.mem_of_find?_eq_some held, ?_, own⟩
      rw [fields]

theorem Together.targetOf_eq {start start' : Tables} {world other : World}
    (both : Together projectId start start' world other) {notification : Notification}
    (own : notification.projectId = projectId) : world.targetOf notification = other.targetOf notification := by
  apply both.agree.notifications.find?_eq
  · exact fun row met => met.1.trans own
  · intro first there second also met alike
    exact AtMostOne.of_nodup both.right.sound.notifications notification.id first there second also met.2 alike.2

theorem World.targetOf_eq_some {world : World} {notification : Notification} {row : NotificationFields}
    (found : world.targetOf notification = some row) :
    row ∈ world.notifications ∧ row.projectId = notification.projectId ∧ row.id = notification.id := by
  have met := List.find?_some found
  rw [decide_eq_true_eq] at met
  exact ⟨List.mem_of_find?_eq_some found, met⟩

end Rows

section Deliver

variable {projectId : Uuid} {start start' : Tables} {world other : World}

/-- Both runs stand, and the notification is a version of a row of the project. -/
def Together.Knowing (projectId : Uuid) (start start' : Tables) (notification : Notification) (world other : World) : Prop :=
  Together projectId start start' world other ∧ notification.projectId = projectId ∧
    world.HasNotification projectId notification.id

open Together

theorem Together.Knowing.follow {notification updated : Notification}
    (knowing : Knowing projectId start start' notification world other)
    (same : updated.id = notification.id ∧ updated.projectId = notification.projectId) :
    Knowing projectId start start' updated world other := by
  obtain ⟨both, own, has⟩ := knowing
  exact ⟨both, same.2.trans own, by rw [same.1]; exact has⟩

theorem save_twins (notification : Notification) :
    Program.Twins (Knowing projectId start start' notification)
      (Call.write fun world => world.saveNotification notification)
      (fun _ => Together projectId start start') (fun _ _ => True) := by
  apply Call.write_twins
  · rintro world other ⟨both, own, has⟩
    have present : notification.id ∈ world.notifications.map (·.id) :=
      has.elim fun row held => List.mem_map.mpr ⟨row, held.1, held.2.1⟩
    rcases both.saveNotification own (both.left.sound.unclaimed has)
        (both.right.sound.unclaimed (both.agree.hasNotification has)) (.inl present) with
      failed | ⟨later, later', left, right, together, -⟩
    · exact .inl failed
    · exact .inr ⟨later, later', left, right, together⟩
  · exact fun _ _ _ => trivial

/-- A conditional UPDATE that meets a row of the project leaves it under its keys. -/
theorem Together.Knowing.put {notification : Notification} {row updated : NotificationFields}
    (knowing : Knowing projectId start start' notification world other) (found : world.targetOf notification = some row)
    (same : updated.id = row.id ∧ updated.projectId = row.projectId) :
    Knowing projectId start start' notification
      { world with notifications := upsert NotificationFields.id updated world.notifications }
      { other with notifications := upsert NotificationFields.id updated other.notifications } := by
  obtain ⟨both, own, has⟩ := knowing
  obtain ⟨-, mine, named⟩ := World.targetOf_eq_some found
  have keyed : updated.id = notification.id := same.1.trans named
  have project : updated.projectId = projectId := same.2.trans (mine.trans own)
  refine ⟨both.putNotification project ?_ ?_, own, updated, mem_upsert.mpr (.inl rfl), keyed, project⟩
  · rw [keyed]
    exact both.left.sound.unclaimed has
  · rw [keyed]
    exact both.right.sound.unclaimed (both.agree.hasNotification has)

theorem claimForDelivery_twins (processing : Notification) (expected : NotificationStatus) (staleBefore : Option Instant) :
    Program.Twins (Knowing projectId start start' processing)
      (Program.statement fun world => world.claimForDelivery processing expected staleBefore)
      (fun _ => Knowing projectId start start' processing) (fun _ _ => True) := by
  apply Program.Twins.statement
  rintro world other knowing
  have target := knowing.1.targetOf_eq knowing.2.1
  unfold World.claimForDelivery
  rw [← target]
  split
  · exact .inl ⟨_, rfl, rfl, trivial⟩
  · cases found : world.targetOf processing with
    | none => exact .inr ⟨false, world, other, rfl, rfl, knowing⟩
    | some row =>
        dsimp only
        cases done : claimForDelivery row processing expected staleBefore with
        | error error => exact .inl ⟨error, rfl, rfl, trivial⟩
        | ok claimed =>
            cases claimed with
            | none => exact .inr ⟨false, world, other, rfl, rfl, knowing⟩
            | some claimed =>
                have fields := NotificationDeliveryProcessor.claimForDelivery_fields done
                exact .inr ⟨true, _, _, rfl, rfl, knowing.put found ⟨by rw [fields], by rw [fields]⟩⟩

theorem cancelPending_twins (cancelled : Notification) :
    Program.Twins (Knowing projectId start start' cancelled)
      (Program.statement fun world => .ok (world.cancelPending cancelled) : Call Bool)
      (fun _ => Together projectId start start') (fun _ _ => True) := by
  apply Program.Twins.statement
  rintro world other knowing
  have target := knowing.1.targetOf_eq knowing.2.1
  unfold World.cancelPending
  rw [← target]
  cases found : world.targetOf cancelled with
  | none => exact .inr ⟨false, world, other, rfl, rfl, knowing.1⟩
  | some row =>
      rw [Option.bind_some]
      cases done : Tiber.cancelPending row cancelled with
      | none => exact .inr ⟨false, world, other, rfl, rfl, knowing.1⟩
      | some updated =>
          have kept : updated.id = row.id ∧ updated.projectId = row.projectId := by
            unfold Tiber.cancelPending at done
            split at done <;> cases done
            exact ⟨rfl, rfl⟩
          exact .inr ⟨true, _, _, rfl, rfl, (knowing.put found kept).1⟩

theorem load_twins (notificationId : Uuid) {failing : World → World → Prop}
    (fails : ∀ world other, Together projectId start start' world other → failing world other) :
    Program.Twins (Together projectId start start')
      (Call.find fun tables => tables.notificationById notificationId projectId)
      (fun found world other => Together projectId start start' world other ∧
        ∀ loaded, found = some loaded → Knowing projectId start start' loaded world other) failing := by
  apply Call.find_twins
  · exact fun world other both => both.agree.notificationById_eq both.left.sound both.right.sound notificationId
  · rintro found world other both held
    refine ⟨both, ?_⟩
    rintro loaded rfl
    obtain ⟨-, own, has⟩ := Tables.notificationById_eq_some held
    exact ⟨both, own, has⟩
  · exact fails

/-! ## Delivering -/

theorem verdict_follows {processor : NotificationDeliveryProcessor} {loaded updated : Notification} {lookup : Lookup}
    {clock : Readings} (prepared : processor.prepare loaded lookup clock = .ok (.verdict updated)) :
    updated.id = loaded.id ∧ updated.projectId = loaded.projectId := by
  obtain ⟨notification, staleBefore, recipient, taken, -, -, applied⟩ :=
    NotificationDeliveryProcessor.prepare_verdict prepared
  have same := NotificationDeliveryProcessor.eligible_fields taken
  have fields := NotificationDeliveryProcessor.applyVerdict_fields applied
  exact ⟨by rw [fields, same], by rw [fields, same]⟩

theorem claim_follows {processor : NotificationDeliveryProcessor} {loaded : Notification} {lookup : Lookup}
    {clock : Readings} {claim : Claim} (prepared : processor.prepare loaded lookup clock = .ok (.claim claim)) :
    claim.processing.id = loaded.id ∧ claim.processing.projectId = loaded.projectId := by
  obtain ⟨-, -, fields, -⟩ := NotificationDeliveryProcessor.prepare_claim_fields prepared
  exact ⟨by rw [fields], by rw [fields]⟩

theorem prepareCall_twins (processor : NotificationDeliveryProcessor) (notificationId : Uuid) (clock : Readings) :
    Program.Twins (Together projectId start start') (prepareCall processor notificationId projectId clock)
      (fun result world other => Together projectId start start' world other ∧
        ∀ claim, result = .inr claim → Knowing projectId start start' claim.processing world other)
      (Together projectId start start') := by
  refine Program.Twins.transaction ?_ fun _ _ both => both
  apply Program.Twins.bind _ (load_twins notificationId fun _ _ _ => trivial)
  rintro (_ | loaded)
  · exact Program.Twins.fail fun _ _ _ => trivial
  · apply Program.Twins.under _ fun world other both => both.2 loaded rfl
    apply Program.Twins.reading
    · rintro world other ⟨both, own, -⟩
      rw [own]
      exact both.agree.recipientById_eq both.left.sound both.right.sound loaded.recipientId
    intro recipient
    apply Program.Twins.reading
    · rintro world other ⟨both, own, -⟩
      rw [own]
      exact both.agree.constraintOf_eq both.right.sound
    intro constraint
    apply Program.Twins.reading
    · rintro world other ⟨both, own, -⟩
      rw [own]
      cases loaded.templateId with
      | none => rfl
      | some templateId => exact both.agree.templateById_eq both.left.sound both.right.sound templateId
    intro template
    apply Program.Twins.checking (fun _ _ _ => trivial)
    rintro (notification | updated | claim) prepared
    · exact Program.Twins.pure fun _ _ knowing => ⟨knowing.1, fun _ found => absurd found Sum.inl_ne_inr⟩
    · -- a verdict is saved on the row it is about
      apply Program.Twins.bind (fun _ => Together projectId start start')
      · exact (save_twins updated).under fun _ _ knowing => knowing.follow (verdict_follows prepared)
      · exact fun _ => Program.Twins.pure fun _ _ both => ⟨both, fun _ found => absurd found Sum.inl_ne_inr⟩
    · apply Program.Twins.bind (fun _ => Knowing projectId start start' claim.processing)
      · exact (claimForDelivery_twins claim.processing claim.expectedStatus claim.staleBefore).under
          fun _ _ knowing => knowing.follow (claim_follows prepared)
      · intro won
        split
        · apply Program.Twins.pure
          intro world other knowing
          refine ⟨knowing.1, ?_⟩
          rintro _ ⟨⟩
          exact knowing
        · apply Program.Twins.under _ fun world other knowing => knowing.1
          apply Program.Twins.bind _ (load_twins notificationId fun _ _ _ => trivial)
          exact fun current => Program.Twins.pure fun _ _ both => ⟨both.1, fun _ found => absurd found Sum.inl_ne_inr⟩

theorem recordCall_twins (processor : NotificationDeliveryProcessor) (claim : Claim) (answer : Option ProviderAnswer)
    (recording : Recording) :
    Program.Twins (Knowing projectId start start' claim.processing) (recordCall processor claim answer recording)
      (fun _ => Together projectId start start') (Together projectId start start') := by
  refine Program.Twins.transaction ?_ fun _ _ knowing => knowing.1
  apply Program.Twins.checking (fun _ _ _ => trivial)
  rintro ⟨attempt, updated⟩ done
  have fields := NotificationDeliveryProcessor.outcome_fields done
  apply Program.Twins.bind (fun _ => Knowing projectId start start' updated)
  · apply Program.Twins.modify
    intro world other knowing
    obtain ⟨both, own, has⟩ := knowing.follow ⟨by rw [fields], by rw [fields]⟩
    exact ⟨both.record attempt, own, has⟩
  · intro _
    apply Program.Twins.bind _ (save_twins updated)
    exact fun _ => Program.Twins.pure fun _ _ both => both

/-- What is sent depends on the claim alone. -/
theorem deliverCall_twins (processor : NotificationDeliveryProcessor) (provider : ProviderMessage → ProviderAnswer)
    (notificationId : Uuid) (clock : Readings) (recording : Recording) :
    Program.Twins (Together projectId start start')
      (deliverCall processor provider notificationId projectId clock recording)
      (fun _ => Together projectId start start') (Together projectId start start') := by
  unfold deliverCall
  apply Program.Twins.bind _ (prepareCall_twins processor notificationId clock)
  rintro (notification | claim)
  · exact Program.Twins.pure fun _ _ both => both.1
  · apply Program.Twins.under _ fun world other both => both.2 claim rfl
    dsimp only
    split
    · exact recordCall_twins processor claim none recording
    · rename_i address usable
      apply Program.Twins.bind (fun _ => Knowing projectId start start' claim.processing)
      · exact Program.Twins.modify fun _ _ knowing => ⟨knowing.1.send _, knowing.2⟩
      · intro _
        apply Program.Twins.bind _ (recordCall_twins processor claim _ recording)
        intro recorded
        split
        · exact Program.Twins.fail fun _ _ both => both
        · exact Program.Twins.pure fun _ _ both => both

/-! ## Cancelling and asking -/

theorem cancelCall_twins (notificationId : Uuid) (stamp : Instant) :
    Program.Twins (Together projectId start start') (cancelCall projectId notificationId stamp)
      (fun _ => Together projectId start start') (Together projectId start start') := by
  refine Program.Twins.transaction ?_ fun _ _ both => both
  apply Program.Twins.bind _ (load_twins notificationId fun _ _ _ => trivial)
  rintro (_ | notification)
  · exact Program.Twins.fail fun _ _ _ => trivial
  · apply Program.Twins.checking (fun _ _ _ => trivial)
    intro cancelled marked
    have fields := (Notification.markCancelled_eq_ok.mp marked).2
    apply Program.Twins.bind (fun _ => Together projectId start start')
    · apply (cancelPending_twins cancelled).under
      exact fun world other both => (both.2 notification rfl).follow ⟨by rw [fields], by rw [fields]⟩
    · intro done
      split
      · exact Program.Twins.pure fun _ _ both => both
      · apply Program.Twins.bind _ (load_twins notificationId fun _ _ _ => trivial)
        rintro (_ | current)
        · exact Program.Twins.fail fun _ _ _ => trivial
        · exact Program.Twins.fail fun _ _ _ => trivial

theorem getNotificationCall_twins (notificationId : Uuid) :
    Program.Twins (Together projectId start start') (getNotificationCall projectId notificationId)
      (fun _ => Together projectId start start') (Together projectId start start') := by
  unfold getNotificationCall
  apply Program.Twins.bind _ (load_twins notificationId fun _ _ both => both)
  rintro (_ | notification)
  · exact Program.Twins.fail fun _ _ both => both.1
  · dsimp only
    split
    · exact Program.Twins.fail fun _ _ both => both.1
    · exact Program.Twins.pure fun _ _ both => both.1

theorem listNotificationsCall_twins (limit offset : Nat) :
    Program.Twins (Together projectId start start') (listNotificationsCall projectId limit offset)
      (fun _ => Together projectId start start') (Together projectId start start') := by
  apply Call.find_twins
  · exact fun world other both => both.agree.listByProject_eq both.left.sound both.right.sound limit offset
  · exact fun _ _ _ both _ => both
  · exact fun _ _ both => both

theorem getRequestStatusCall_twins (transactionId : Uuid) :
    Program.Twins (Together projectId start start') (getRequestStatusCall projectId transactionId)
      (fun _ => Together projectId start start') (Together projectId start start') := by
  unfold getRequestStatusCall
  apply Program.Twins.reading
  · exact fun world other both => both.agree.intakeByTransaction_eq both.right.sound transactionId
  rintro (_ | intake)
  · exact Program.Twins.fail fun _ _ both => both
  · apply Program.Twins.reading
    · exact fun world other both => both.agree.recipientById_eq both.left.sound both.right.sound intake.recipientId
    rintro (_ | recipient)
    · exact Program.Twins.fail fun _ _ both => both
    · apply Program.Twins.bind (fun _ => Together projectId start start')
      · apply Call.find_twins
        · exact fun world other both => both.agree.listByTransaction_eq both.left.sound both.right.sound transactionId
        · exact fun _ _ _ both _ => both
        · exact fun _ _ both => both
      · exact fun notifications => Program.Twins.pure fun _ _ both => both

end Deliver

end Tiber
