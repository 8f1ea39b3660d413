import Tiber.System.History

/-! The notifications of a request and the request itself.

A completed request has one notification for each planned channel, and no other request has any.
-/

set_option autoImplicit false

namespace Tiber

open Library

/-! ## Children keep what they were made of -/

namespace ChildOf

variable {intake revised : NotificationIntake} {plan : NotificationPlan} {row updated : NotificationFields}

/-- Content that is kept, or rendered anew from the row's template, is still what was asked for. -/
theorem moves (child : ChildOf intake plan row) (moves : Moves row updated) : ChildOf intake plan updated := by
  have template : updated.templateId = row.templateId := by rw [moves.kept]
  have project : updated.projectId = row.projectId := by rw [moves.kept]
  have channel : updated.channel = row.channel := by rw [moves.kept]
  have mapping : updated.templateVariables = row.templateVariables := by rw [moves.kept]
  constructor
  case content =>
    constructor
    · intro direct
      rcases moves.content with same | ⟨_, _, named, -⟩
      · rw [same]
        exact child.content.direct direct
      · rw [child.template, direct] at named
        cases named
    · intro referenced
      rcases moves.content with same | rendering
      · rw [same]
        exact (child.content.rendered referenced).of_eq template project channel mapping
      · exact rendering.of_eq template project channel mapping
  case channel => rw [channel]; exact child.channel
  case project => rw [project]; exact child.project
  case template => rw [template]; exact child.template
  case templateVariables => rw [mapping]; exact child.templateVariables
  all_goals rw [moves.kept]
  · exact child.transaction
  · exact child.recipient
  · exact child.idempotencyKey
  · exact child.groupKey
  · exact child.category
  · exact child.topic

theorem settles {attempt : DeliveryAttempt} (child : ChildOf intake plan row) (settles : Settles row updated attempt) :
    ChildOf intake plan updated := by
  rw [settles.kept]
  constructor
  case content =>
    exact ⟨child.content.direct, fun referenced => (child.content.rendered referenced).of_eq rfl rfl rfl rfl⟩
  · exact child.project
  · exact child.transaction
  · exact child.recipient
  · exact child.idempotencyKey
  · exact child.groupKey
  · exact child.template
  · exact child.templateVariables
  · exact child.category
  · exact child.topic
  · exact child.channel

theorem revise (child : ChildOf intake plan row) (revises : revised.Revises intake) : ChildOf revised plan row := by
  constructor
  case content =>
    constructor <;> rw [revises.payload]
    · exact child.content.direct
    · exact child.content.rendered
  case project => rw [revises.projectId]; exact child.project
  case transaction => rw [revises.transactionId]; exact child.transaction
  case recipient => rw [congrArg (·.recipientId) revises]; exact child.recipient
  case idempotencyKey => rw [congrArg (·.idempotencyKey) revises]; exact child.idempotencyKey
  case groupKey => rw [revises.payload]; exact child.groupKey
  case template => rw [revises.payload]; exact child.template
  case templateVariables => rw [revises.payload]; exact child.templateVariables
  · exact child.category
  · exact child.topic
  · exact child.channel

end ChildOf

/-! ## Families -/

structure World.Families (world : World) : Prop where
  belongs : ∀ row ∈ world.notifications, ∃ intake ∈ world.intakes, ∃ plan,
    intake.status = .completed ∧ intake.plan = some plan ∧ ChildOf intake plan row
  complete : ∀ intake ∈ world.intakes, intake.status = .completed →
    ∃ plan, intake.plan = some plan ∧ ((world.offspring intake).map (·.channel)).Perm plan.channels

theorem World.Keyed.request_eq {world : World} (keyed : world.Keyed) {first second : NotificationIntake}
    (one : first ∈ world.intakes) (other : second ∈ world.intakes) (project : first.projectId = second.projectId)
    (transaction : first.transactionId = second.transactionId) : first = second := by
  apply List.inj_on_of_nodup_map keyed.requests one other
  rw [project, transaction]

theorem Tables.mem_offspring {tables : Tables} {intake : NotificationIntake} {row : NotificationFields} :
    row ∈ tables.offspring intake ↔
      row ∈ tables.notifications ∧ row.projectId = intake.projectId ∧ row.transactionId = intake.transactionId := by
  unfold Tables.offspring
  rw [List.mem_filter, decide_eq_true_eq]

namespace World.Families

variable {world : World}

theorem barren (families : world.Families) (keyed : world.Keyed) {intake : NotificationIntake}
    (stored : intake ∈ world.intakes) (unfinished : intake.status ≠ .completed) : world.offspring intake = [] := by
  rw [List.eq_nil_iff_forall_not_mem]
  intro row member
  obtain ⟨there, project, transaction⟩ := Tables.mem_offspring.mp member
  obtain ⟨owner, held, plan, done, -, child⟩ := families.belongs row there
  have same := keyed.request_eq held stored (child.project.symm.trans project) (child.transaction.symm.trans transaction)
  exact unfinished (same ▸ done)

theorem put {row updated : NotificationFields} (families : world.Families) (keyed : world.Keyed)
    (stored : row ∈ world.notifications) (named : updated.id = row.id)
    (request : updated.projectId = row.projectId ∧ updated.transactionId = row.transactionId)
    (channel : updated.channel = row.channel)
    (kept : ∀ intake plan, ChildOf intake plan row → ChildOf intake plan updated) :
    ({ world with notifications := upsert (·.id) updated world.notifications } : World).Families where
  belongs := by
    intro other member
    rcases (upsert_stored keyed.notifications stored named).mp member with rfl | ⟨there, -⟩
    · obtain ⟨intake, held, plan, done, planned, child⟩ := families.belongs row stored
      exact ⟨intake, held, plan, done, planned, kept intake plan child⟩
    · exact families.belongs other there
  complete := by
    intro intake held done
    obtain ⟨plan, planned, perm⟩ := families.complete intake held done
    refine ⟨plan, planned, ?_⟩
    have same := map_filter_upsert
      (fun row : NotificationFields => decide (row.projectId = intake.projectId ∧ row.transactionId = intake.transactionId))
      (·.channel) keyed.notifications stored named (by rw [request.1, request.2]) channel
    exact (List.Perm.of_eq same).trans perm

theorem revise {intake revised : NotificationIntake} (families : world.Families) (keyed : world.Keyed)
    (stored : intake ∈ world.intakes) (revises : revised.Revises intake) (live : intake.status ≠ .completed)
    (onward : revised.status ≠ .completed) : (world.saveIntake revised).Families where
  belongs := by
    intro row there
    obtain ⟨owner, held, plan, done, rest⟩ := families.belongs row there
    refine ⟨owner, (upsert_stored keyed.intakes stored revises.id).mpr (.inr ⟨held, ?_⟩), plan, done, rest⟩
    rintro rfl
    exact live done
  complete := by
    intro other member done
    rcases (upsert_stored keyed.intakes stored revises.id).mp member with rfl | ⟨held, -⟩
    · exact absurd done onward
    · exact families.complete other held done

theorem fanOut {intake completed : NotificationIntake} {plan : NotificationPlan} {children : List Notification}
    (families : world.Families) (keyed : world.Keyed) (stored : intake ∈ world.intakes)
    (live : intake.status = .processing) (planned : intake.plan = some plan)
    (brood : Brood world.toTables intake plan children) (revises : completed.Revises intake)
    (kept : completed.plan = intake.plan) (done : completed.status = .completed) :
    ((world.bear children).saveIntake completed).Families := by
  have rows := World.bear_notifications brood
  have unfinished : intake.status ≠ .completed := by
    rw [live]
    decide
  have none_before := families.barren keyed stored unfinished
  have intakes {other : NotificationIntake} : other ∈ ((world.bear children).saveIntake completed).intakes ↔
      other = completed ∨ other ∈ world.intakes ∧ other ≠ intake := upsert_stored keyed.intakes stored revises.id
  -- the children are all of the request, and no other row is
  have offspring (other : NotificationIntake) (held : other ∈ world.intakes) :
      (world.bear children).offspring other =
        if other = intake then (children.map (·.toNotificationFields)).reverse else world.offspring other := by
    unfold Tables.offspring
    rw [rows, List.filter_append]
    split
    · rename_i own
      subst own
      rw [List.filter_eq_self.mpr, show world.notifications.filter _ = [] from none_before, List.append_nil]
      intro row member
      obtain ⟨child, listed, rfl⟩ := List.mem_map.mp (List.mem_reverse.mp member)
      exact decide_eq_true ⟨(brood.members child listed).project, (brood.members child listed).transaction⟩
    · rename_i foreign
      rw [List.filter_eq_nil_iff.mpr, List.nil_append]
      intro row member
      obtain ⟨child, listed, rfl⟩ := List.mem_map.mp (List.mem_reverse.mp member)
      intro mine
      obtain ⟨project, transaction⟩ := of_decide_eq_true mine
      exact foreign (keyed.request_eq held stored (project.symm.trans (brood.members child listed).project)
        (transaction.symm.trans (brood.members child listed).transaction))
  constructor
  · intro row member
    rw [show ((world.bear children).saveIntake completed).notifications = _ from rows, List.mem_append, List.mem_reverse] at member
    cases member with
    | inl new =>
        obtain ⟨child, listed, rfl⟩ := List.mem_map.mp new
        exact ⟨completed, intakes.mpr (.inl rfl), plan, done, kept.trans planned, (brood.members child listed).revise revises⟩
    | inr before =>
        obtain ⟨owner, held, rest⟩ := families.belongs row before
        refine ⟨owner, intakes.mpr (.inr ⟨held, ?_⟩), rest⟩
        rintro rfl
        obtain ⟨-, finished, -⟩ := rest
        exact unfinished finished
  · intro other member finished
    rcases intakes.mp member with rfl | ⟨held, foreign⟩
    · refine ⟨plan, kept.trans planned, ?_⟩
      have own : ((world.bear children).saveIntake other).offspring other = (children.map (·.toNotificationFields)).reverse := by
        have same := offspring intake stored
        rw [if_pos rfl] at same
        rw [← same]
        show List.filter _ _ = List.filter _ _
        rw [revises.projectId, revises.transactionId]
        rfl
      rw [own, List.map_reverse, List.map_map]
      refine (List.reverse_perm _).trans ((List.perm_ext_iff_of_nodup brood.once plan.channels_nodup).mpr ?_)
      intro channel
      refine (brood.covers channel).trans (and_iff_left ?_)
      rw [none_before]
      exact List.not_mem_nil
    · obtain ⟨ownPlan, chosen, perm⟩ := families.complete other held finished
      have same := offspring other held
      rw [if_neg foreign] at same
      refine ⟨ownPlan, chosen, ?_⟩
      rw [← same] at perm
      exact perm

end World.Families

theorem Commit.families {world next : World} (keyed : world.Keyed) (families : world.Families) (commit : Commit world next) :
    next.Families := by
  cases commit with
  | accept received =>
      constructor
      · intro row there
        obtain ⟨owner, held, rest⟩ := families.belongs row there
        exact ⟨owner, .tail _ held, rest⟩
      · intro other member done
        cases member with
        | head =>
            rw [received] at done
            cases done
        | tail _ held => exact families.complete other held done
  | revise stored revises _ live onward =>
      apply families.revise keyed stored revises
      · rcases live with live | live <;> rw [live] <;> decide
      · rcases onward with onward | onward <;> rw [onward] <;> decide
  | fanOut stored live planned brood revises kept done =>
      exact families.fanOut keyed stored live planned brood revises kept done
  | move stored moves =>
      exact families.put keyed stored (by rw [moves.kept]) ⟨by rw [moves.kept], by rw [moves.kept]⟩ (by rw [moves.kept])
        fun _ _ child => child.moves moves
  | @contact row updated _ _ stored _ _ _ settles =>
      have named : updated.id = row.id := by rw [settles.kept]
      have put := families.put keyed stored named ⟨by rw [settles.kept], by rw [settles.kept]⟩ (by rw [settles.kept])
        fun _ _ child => child.settles settles
      exact ⟨put.belongs, put.complete⟩
  | unrecorded => exact ⟨families.belongs, families.complete⟩
  | configure intakes notifications =>
      constructor
      · intro row there
        rw [show _ = world.notifications from notifications] at there
        rw [show _ = world.intakes from intakes]
        exact families.belongs row there
      · intro intake held done
        rw [show _ = world.intakes from intakes] at held
        obtain ⟨plan, planned, perm⟩ := families.complete intake held done
        refine ⟨plan, planned, ?_⟩
        rw [Tables.offspring, show _ = world.notifications from notifications]
        exact perm

theorem World.Reached.families {services : Services} {world : World} (reached : world.Reached services) : world.Families := by
  apply reached.keeps
  · intro start blank
    constructor
    · rw [blank.notifications]
      exact fun _ member => absurd member List.not_mem_nil
    · rw [blank.intakes]
      exact fun _ member => absurd member List.not_mem_nil
  · exact fun _ _ keyed families commit => commit.families keyed families

/-- At the end of every history a request has all its notifications or none: the completed one has
one for each planned channel, made of what the request asked for, and no other has any. -/
theorem request_all_or_nothing {services : Services} {world : World} (reached : world.Reached services) :
    (∀ intake ∈ world.intakes,
      (intake.status = .completed →
        ∃ plan, intake.plan = some plan ∧ ((world.offspring intake).map (·.channel)).Perm plan.channels) ∧
      (intake.status ≠ .completed → world.offspring intake = [])) ∧
    ∀ row ∈ world.notifications, ∃ intake ∈ world.intakes, ∃ plan, intake.plan = some plan ∧ ChildOf intake plan row ∧
      ∀ other ∈ world.intakes, row ∈ world.offspring other → other = intake := by
  have families := reached.families
  have keyed := reached.keyed
  constructor
  · intro intake stored
    exact ⟨families.complete intake stored, families.barren keyed stored⟩
  · intro row there
    obtain ⟨intake, held, plan, -, planned, child⟩ := families.belongs row there
    refine ⟨intake, held, plan, planned, child, fun other stored mine => ?_⟩
    obtain ⟨-, project, transaction⟩ := Tables.mem_offspring.mp mine
    exact keyed.request_eq stored held (project.symm.trans child.project) (transaction.symm.trans child.transaction)

theorem greeting_all_or_nothing : (greetingSent.intakes.map (·.status) = [.completed]) ∧
    ∀ intake ∈ greetingSent.intakes, intake.status = .completed → ∃ plan, intake.plan = some plan ∧
      ((greetingSent.offspring intake).map (·.channel)).Perm plan.channels := by
  refine ⟨by decide +kernel, fun intake stored => ?_⟩
  exact ((request_all_or_nothing greetingSent_reached).1 intake stored).1

end Tiber
