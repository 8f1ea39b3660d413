import Tiber.System.Families

/-! What has been sent and what is recorded at the end of a history.

Every message is that of a stored notification and carries what its request asked for. The attempts
of a notification agree with its status: one succeeded where it is delivered and none where it is
not, and a failed one failed for the reason of its last attempt.
-/

set_option autoImplicit false

namespace Tiber

open Library

/-! ## Messages -/

/-- The message is the row's, and says what the row's request asked for. -/
structure Vouched (world : World) (message : ProviderMessage) (row : NotificationFields) : Prop where
  stored : row ∈ world.notifications
  notification : message.notificationId = row.id
  transaction : message.transactionId = row.transactionId
  address : message.recipientAddress ≠ []
  request : ∃ intake ∈ world.intakes, ∃ plan, intake.status = .completed ∧ ChildOf intake plan row ∧
    intake.Says row message.content

def World.Vouches (world : World) : Prop := ∀ message ∈ world.sent, ∃ row, Vouched world message row

/-- A message stays vouched for while its row stays and completed requests stay. -/
theorem Vouched.mono {world next : World} {message : ProviderMessage} {row : NotificationFields}
    (vouched : Vouched world message row) (kept : row ∈ next.notifications)
    (requests : ∀ intake ∈ world.intakes, intake.status = .completed → intake ∈ next.intakes) : Vouched next message row := by
  obtain ⟨intake, held, plan, done, rest⟩ := vouched.request
  exact ⟨kept, vouched.notification, vouched.transaction, vouched.address, intake, requests intake held done, plan, done, rest⟩

theorem NotificationIntake.Says.of_eq {intake : NotificationIntake} {row updated : NotificationFields}
    {content : NotificationContent} (said : intake.Says row content) (template : updated.templateId = row.templateId)
    (project : updated.projectId = row.projectId) (channel : updated.channel = row.channel)
    (mapping : updated.templateVariables = row.templateVariables) : intake.Says updated content :=
  ⟨said.direct, fun referenced => (said.rendered referenced).of_eq template project channel mapping⟩

namespace World

variable {world : World}

theorem Vouches.mono {next : World} (vouches : world.Vouches) (sent : next.sent = world.sent)
    (kept : ∀ row ∈ world.notifications, row ∈ next.notifications)
    (requests : ∀ intake ∈ world.intakes, intake.status = .completed → intake ∈ next.intakes) : next.Vouches := by
  intro message told
  rw [sent] at told
  obtain ⟨row, vouched⟩ := vouches message told
  exact ⟨row, vouched.mono (kept row vouched.stored) requests⟩

theorem Vouches.put {row updated : NotificationFields} (vouches : world.Vouches) (keyed : world.Keyed)
    (stored : row ∈ world.notifications) (kept : updated = { row with
      status := updated.status, content := updated.content, sendAt := updated.sendAt
      suppressionReason := updated.suppressionReason, cancellationReason := updated.cancellationReason
      failureReason := updated.failureReason, deliveredAt := updated.deliveredAt, updatedAt := updated.updatedAt })
    (child : ∀ intake plan, ChildOf intake plan row → ChildOf intake plan updated) :
    ({ world with notifications := upsert (·.id) updated world.notifications } : World).Vouches := by
  intro message told
  obtain ⟨other, vouched⟩ := vouches message told
  have named : updated.id = row.id := by rw [kept]
  have rows {known : NotificationFields} : known ∈ upsert (·.id) updated world.notifications ↔
      known = updated ∨ known ∈ world.notifications ∧ known ≠ row := upsert_stored keyed.notifications stored named
  by_cases written : other = row
  · subst written
    obtain ⟨intake, held, plan, done, own, said⟩ := vouched.request
    refine ⟨updated, rows.mpr (.inl rfl), vouched.notification.trans named.symm, ?_, vouched.address,
      intake, held, plan, done, child intake plan own, ?_⟩
    · rw [vouched.transaction, kept]
    · apply said.of_eq <;> rw [kept]
  · exact ⟨other, vouched.mono (rows.mpr (.inr ⟨vouched.stored, written⟩)) fun _ held _ => held⟩

/-- A live request may be revised: nothing has been sent for it. -/
theorem Vouches.revise {intake revised : NotificationIntake} (vouches : world.Vouches) (keyed : world.Keyed)
    (stored : intake ∈ world.intakes) (revises : revised.Revises intake) (live : intake.status ≠ .completed) :
    (world.saveIntake revised).Vouches := by
  refine vouches.mono rfl (fun _ there => there) fun owner held done => ?_
  refine (upsert_stored keyed.intakes stored revises.id).mpr (.inr ⟨held, ?_⟩)
  rintro rfl
  exact live done

theorem Vouches.send {row : NotificationFields} {address : Text} (vouches : world.Vouches) (families : world.Families)
    (stored : row ∈ world.notifications) (usable : address ≠ []) : (world.send (row.message address)).Vouches := by
  intro message told
  rcases List.mem_append.mp told with before | now
  · obtain ⟨other, vouched⟩ := vouches message before
    exact ⟨other, vouched.mono vouched.stored fun _ held _ => held⟩
  · obtain rfl := List.mem_singleton.mp now
    obtain ⟨intake, held, plan, done, -, child⟩ := families.belongs row stored
    exact ⟨row, stored, rfl, rfl, usable, intake, held, plan, done, child, child.content⟩

theorem Vouches.commit {next : World} (keyed : world.Keyed) (families : world.Families) (vouches : world.Vouches)
    (commit : Commit world next) : next.Vouches := by
  cases commit with
  | accept => exact vouches.mono rfl (fun _ there => there) fun _ held _ => .tail _ held
  | revise stored revises _ live =>
      apply vouches.revise keyed stored revises
      rcases live with live | live <;> rw [live] <;> decide
  | @fanOut _ _ _ children stored live _ brood revises =>
      have grown : (world.bear children).Vouches := by
        refine vouches.mono rfl (fun row there => ?_) fun _ held _ => held
        rw [World.bear_notifications brood]
        exact List.mem_append_right _ there
      have same : (world.bear children).Keyed := ⟨keyed.intakes, keyed.requests, world.bear_unique children keyed.notifications⟩
      apply grown.revise same stored revises
      rw [live]
      decide
  | move stored moves =>
      apply vouches.put keyed stored _ fun _ _ child => child.moves moves
      rw [moves.kept]
  | @contact row updated address _ stored _ usable _ settles =>
      have kept : ({ world with notifications := upsert (·.id) updated world.notifications } : World).Vouches := by
        apply vouches.put keyed stored _ fun _ _ child => child.settles settles
        rw [settles.kept]
      have grown : ({ world with notifications := upsert (·.id) updated world.notifications } : World).Families :=
        families.put keyed stored (by rw [settles.kept]) ⟨by rw [settles.kept], by rw [settles.kept]⟩
          (by rw [settles.kept]) fun _ _ child => child.settles settles
      cases address with
      | none =>
          refine kept.mono ?_ (fun _ there => there) fun _ held _ => held
          exact List.append_nil _
      | some address =>
          have sending : (World.send _ (updated.message address)).Vouches :=
            kept.send grown (mem_upsert.mpr (.inl rfl)) fun empty => usable (by rw [empty])
          refine sending.mono ?_ (fun _ there => there) fun _ held _ => held
          have same : row.message address = updated.message address := by rw [settles.kept]; rfl
          show world.sent ++ [row.message address] = world.sent ++ [updated.message address]
          rw [same]
  | unrecorded stored _ usable => exact vouches.send families stored usable
  | configure intakes notifications =>
      refine vouches.mono rfl (fun row there => ?_) fun intake held _ => ?_
      · rw [show _ = world.notifications from notifications]
        exact there
      · rw [show _ = world.intakes from intakes]
        exact held

theorem Reached.vouches {services : Services} (reached : world.Reached services) : world.Vouches := by
  have both : world.Families ∧ world.Vouches := by
    apply reached.keeps
    · intro start blank
      refine ⟨(show start.Reached services from ⟨start, blank, [], trivial, rfl⟩).families, ?_⟩
      intro message told
      rw [blank.sent] at told
      cases told
    · exact fun _ _ keyed held commit => ⟨commit.families keyed held.1, Vouches.commit keyed held.1 held.2 commit⟩
  exact both.2

end World

/-- Whatever a provider was given in a history belongs to a notification that is stored, is addressed to
someone, and is the content of the request or a rendering of the template the request named. -/
theorem sent_as_requested {services : Services} {world : World} (reached : world.Reached services) :
    ∀ message ∈ world.sent, ∃ row ∈ world.notifications, message.notificationId = row.id ∧
      message.transactionId = row.transactionId ∧ message.recipientAddress ≠ [] ∧
      ∃ intake ∈ world.intakes, row ∈ world.offspring intake ∧
        (intake.payload.templateId = none → intake.payload.content = some message.content) ∧
        (intake.payload.templateId ≠ none → row.Rendering message.content) := by
  intro message told
  obtain ⟨row, vouched⟩ := reached.vouches message told
  obtain ⟨intake, held, plan, -, child, said⟩ := vouched.request
  exact ⟨row, vouched.stored, vouched.notification, vouched.transaction, vouched.address, intake, held,
    Tables.mem_offspring.mpr ⟨vouched.stored, child.project, child.transaction⟩, said.direct, said.rendered⟩

theorem greeting_as_requested : ∃ message ∈ greetingSent.sent, ∃ row ∈ greetingSent.notifications,
    message.notificationId = row.id ∧ message.recipientAddress ≠ [] := by
  have spoken : greetingSent.sent ≠ [] := by decide +kernel
  obtain ⟨message, told⟩ := List.exists_mem_of_ne_nil _ spoken
  obtain ⟨row, stored, same, -, solid, -⟩ := sent_as_requested greetingSent_reached message told
  exact ⟨message, told, row, stored, same, solid⟩

/-! ## Attempts -/

def World.attemptsOf (world : World) (id : Uuid) : List DeliveryAttempt :=
  world.attempts.filter (·.notificationId = id)

structure NotificationFields.Tallies (row : NotificationFields) (attempts : List DeliveryAttempt) : Prop where
  delivered : attempts.countP (·.status = .success) = if row.status = .delivered then 1 else 0
  last : row.status = .delivered → ∃ attempt ∈ attempts.getLast?, attempt.status = .success
  failed : row.status = .failed → ∃ attempt ∈ attempts.getLast?, attempt.status = .fail ∧ attempt.error = row.failureReason

structure World.Recorded (world : World) : Prop where
  known : ∀ attempt ∈ world.attempts, ∃ row ∈ world.notifications,
    attempt.notificationId = row.id ∧ attempt.channel = row.channel
  called : ∀ attempt ∈ world.attempts, ∀ address, attempt.recipientAddress = some address →
    ∃ message ∈ world.sent, message.notificationId = attempt.notificationId ∧ message.recipientAddress = address
  tallies : ∀ row ∈ world.notifications, row.Tallies (world.attemptsOf row.id)

theorem NotificationFields.Tallies.of_other {row : NotificationFields} {attempts : List DeliveryAttempt}
    (none_succeeded : attempts.countP (·.status = .success) = 0) (undelivered : row.status ≠ .delivered)
    (unfailed : row.status ≠ .failed) : row.Tallies attempts :=
  ⟨by rw [none_succeeded, if_neg undelivered], fun delivered => absurd delivered undelivered,
    fun failed => absurd failed unfailed⟩

theorem NotificationFields.Tallies.settles {row updated : NotificationFields} {attempts : List DeliveryAttempt}
    {attempt : DeliveryAttempt} (tallies : row.Tallies attempts) (processing : row.status = .processing)
    (settles : Settles row updated attempt) : updated.Tallies (attempts ++ [attempt]) := by
  have before := tallies.delivered
  rw [processing, if_neg (by decide)] at before
  have last : attempt ∈ (attempts ++ [attempt]).getLast? := by
    rw [List.getLast?_concat]
    rfl
  have counted (status : DeliveryAttemptStatus) (ended : attempt.status = status) :
      (attempts ++ [attempt]).countP (·.status = .success) = if status = .success then 1 else 0 := by
    rw [List.countP_append, before, List.countP_singleton, ended]
    simp
  rcases settles.ended with ⟨success, delivered⟩ | ⟨fail, failed, reason⟩ | ⟨fail, pending⟩
  · refine ⟨?_, fun _ => ⟨attempt, last, success⟩, fun failed => ?_⟩
    · rw [counted _ success, delivered]
      rfl
    · rw [delivered] at failed
      cases failed
  · refine ⟨?_, fun delivered => ?_, fun _ => ⟨attempt, last, fail, reason.symm⟩⟩
    · rw [counted _ fail, failed]
      rfl
    · rw [failed] at delivered
      cases delivered
  · apply Tallies.of_other
    · rw [counted _ fail]
      rfl
    · rw [pending]
      decide
    · rw [pending]
      decide

namespace World.Recorded

variable {world : World}

theorem put {row updated : NotificationFields} (recorded : world.Recorded) (keyed : world.Keyed)
    (stored : row ∈ world.notifications) (moves : Moves row updated) :
    ({ world with notifications := upsert (·.id) updated world.notifications } : World).Recorded := by
  have named : updated.id = row.id := by rw [moves.kept]
  have rows {known : NotificationFields} : known ∈ upsert (·.id) updated world.notifications ↔
      known = updated ∨ known ∈ world.notifications ∧ known ≠ row := upsert_stored keyed.notifications stored named
  refine ⟨fun attempt made => ?_, recorded.called, fun other member => ?_⟩
  · obtain ⟨owner, there, same, channel⟩ := recorded.known attempt made
    by_cases written : owner = row
    · subst written
      exact ⟨updated, rows.mpr (.inl rfl), same.trans named.symm, channel.trans (by rw [moves.kept])⟩
    · exact ⟨owner, rows.mpr (.inr ⟨there, written⟩), same, channel⟩
  · rcases rows.mp member with rfl | ⟨there, -⟩
    · have tally := (recorded.tallies row stored).delivered
      have undelivered : row.status ≠ .delivered := by
        intro delivered
        have live := moves.live
        rw [delivered] at live
        cases live
      rw [if_neg undelivered, ← named] at tally
      apply NotificationFields.Tallies.of_other tally <;>
        rcases moves.onward with status | status | status | status <;> rw [status] <;> decide
    · exact recorded.tallies other there

/-- An attempt is recorded with what it comes to for its row, behind the message it stands for. -/
theorem contact {row updated : NotificationFields} {address : Option Text} {attempt : DeliveryAttempt}
    (recorded : world.Recorded) (keyed : world.Keyed) (stored : row ∈ world.notifications)
    (processing : row.status = .processing) (called : attempt.recipientAddress = address)
    (settles : Settles row updated attempt) :
    ({ world with
      notifications := upsert (·.id) updated world.notifications
      sent := world.sent ++ (address.map row.message).toList
      attempts := world.attempts ++ [attempt] } : World).Recorded := by
  have named : updated.id = row.id := by rw [settles.kept]
  have channel : updated.channel = row.channel := by rw [settles.kept]
  have rows {known : NotificationFields} : known ∈ upsert (·.id) updated world.notifications ↔
      known = updated ∨ known ∈ world.notifications ∧ known ≠ row := upsert_stored keyed.notifications stored named
  have attempts (id : Uuid) : (world.attempts ++ [attempt]).filter (·.notificationId = id) =
      world.attemptsOf id ++ if row.id = id then [attempt] else [] := by
    rw [List.filter_append, List.filter_singleton, settles.about.1]
    simp [World.attemptsOf]
  refine ⟨fun other made => ?_, fun other made there told => ?_, fun other member => ?_⟩
  · rcases List.mem_append.mp made with before | now
    · obtain ⟨owner, there, same, sort⟩ := recorded.known other before
      by_cases written : owner = row
      · subst written
        exact ⟨updated, rows.mpr (.inl rfl), same.trans named.symm, sort.trans channel.symm⟩
      · exact ⟨owner, rows.mpr (.inr ⟨there, written⟩), same, sort⟩
    · obtain rfl := List.mem_singleton.mp now
      exact ⟨updated, rows.mpr (.inl rfl), settles.about.1.trans named.symm, settles.about.2.trans channel.symm⟩
  · rcases List.mem_append.mp made with before | now
    · obtain ⟨message, sent, rest⟩ := recorded.called other before there told
      exact ⟨message, List.mem_append_left _ sent, rest⟩
    · obtain rfl := List.mem_singleton.mp now
      rw [called] at told
      subst told
      exact ⟨row.message there, List.mem_append_right _ (.head _), settles.about.1.symm, rfl⟩
  · show other.Tallies ((world.attempts ++ [attempt]).filter _)
    rw [attempts]
    rcases rows.mp member with rfl | ⟨there, foreign⟩
    · rw [named, if_pos rfl]
      exact (recorded.tallies row stored).settles processing settles
    · rw [if_neg fun same => foreign (List.inj_on_of_nodup_map keyed.notifications there stored same.symm), List.append_nil]
      exact recorded.tallies other there

theorem bear {intake : NotificationIntake} {plan : NotificationPlan} {children : List Notification}
    (recorded : world.Recorded) (brood : Brood world.toTables intake plan children) : (world.bear children).Recorded := by
  have rows := World.bear_notifications brood
  refine ⟨fun attempt made => ?_, recorded.called, fun row member => ?_⟩
  · obtain ⟨owner, there, same⟩ := recorded.known attempt made
    rw [rows]
    exact ⟨owner, List.mem_append_right _ there, same⟩
  · rw [rows, List.mem_append, List.mem_reverse] at member
    cases member with
    | inl new =>
        obtain ⟨child, listed, rfl⟩ := List.mem_map.mp new
        have unattempted : (world.bear children).attemptsOf child.id = [] := by
          unfold attemptsOf
          rw [List.filter_eq_nil_iff]
          intro attempt made own
          obtain ⟨owner, there, same, -⟩ := recorded.known attempt made
          exact brood.free child listed (of_decide_eq_true own ▸ same ▸ List.mem_map_of_mem there)
        rw [unattempted]
        apply NotificationFields.Tallies.of_other rfl <;>
          rcases brood.born child listed with status | status | status <;> rw [status] <;> decide
    | inr before => exact recorded.tallies row before

theorem commit {next : World} (keyed : world.Keyed) (recorded : world.Recorded) (commit : Commit world next) :
    next.Recorded := by
  cases commit with
  | accept | revise => exact ⟨recorded.known, recorded.called, recorded.tallies⟩
  | fanOut _ _ _ brood =>
      have born := recorded.bear brood
      exact ⟨born.known, born.called, born.tallies⟩
  | move stored moves => exact recorded.put keyed stored moves
  | contact stored processing _ called settles => exact recorded.contact keyed stored processing called settles
  | unrecorded =>
      refine ⟨recorded.known, fun attempt made address told => ?_, recorded.tallies⟩
      obtain ⟨message, sent, rest⟩ := recorded.called attempt made address told
      exact ⟨message, List.mem_append_left _ sent, rest⟩
  | configure _ notifications =>
      refine ⟨fun attempt made => ?_, recorded.called, fun row there => ?_⟩
      · rw [show _ = world.notifications from notifications]
        exact recorded.known attempt made
      · rw [show _ = world.notifications from notifications] at there
        exact recorded.tallies row there

end World.Recorded

theorem World.Reached.recorded {services : Services} {world : World} (reached : world.Reached services) : world.Recorded := by
  apply reached.keeps
  · intro start blank
    refine ⟨?_, ?_, ?_⟩
    · rw [blank.attempts]
      exact fun _ member => absurd member List.not_mem_nil
    · rw [blank.attempts]
      exact fun _ member => absurd member List.not_mem_nil
    · rw [blank.notifications]
      exact fun _ member => absurd member List.not_mem_nil
  · exact fun _ _ keyed recorded commit => recorded.commit keyed commit

/-- The attempts and the statuses agree at the end of every history: a notification is delivered just
when one of its attempts succeeded, which was its last and only such one; a failed one carries the
error of its last attempt; and behind every attempt with an address stands a message to it. -/
theorem attempts_agree {services : Services} {world : World} (reached : world.Reached services) :
    (∀ row ∈ world.notifications,
      ((world.attemptsOf row.id).countP (·.status = .success) = if row.status = .delivered then 1 else 0) ∧
      (row.status = .delivered → ∃ attempt ∈ (world.attemptsOf row.id).getLast?, attempt.status = .success) ∧
      (row.status = .failed → ∃ attempt ∈ (world.attemptsOf row.id).getLast?,
        attempt.status = .fail ∧ attempt.error = row.failureReason)) ∧
    ∀ attempt ∈ world.attempts,
      (∃ row ∈ world.notifications, attempt.notificationId = row.id ∧ attempt.channel = row.channel) ∧
      ∀ address, attempt.recipientAddress = some address → ∃ message ∈ world.sent,
        message.notificationId = attempt.notificationId ∧ message.recipientAddress = address := by
  have recorded := reached.recorded
  constructor
  · intro row stored
    have tallies := recorded.tallies row stored
    exact ⟨tallies.delivered, tallies.last, tallies.failed⟩
  · exact fun attempt made => ⟨recorded.known attempt made, recorded.called attempt made⟩

theorem greeting_attempts_agree : greetingSent.notifications.map (·.status) = [.delivered] ∧
    ∀ row ∈ greetingSent.notifications, row.status = .delivered →
      (greetingSent.attemptsOf row.id).countP (·.status = .success) = 1 := by
  refine ⟨by decide +kernel, fun row stored delivered => ?_⟩
  have tally := ((attempts_agree greetingSent_reached).1 row stored).1
  rw [if_pos delivered] at tally
  exact tally

end Tiber
