import Tiber.System.History

/-! What the outbox holds at the end of a history.

Every intake and every child is announced by the transaction that stores it: once, with the
priority of its category, and never without it. A child that is born suppressed is not announced.
-/

set_option autoImplicit false

namespace Tiber

open Library

def NotificationFields.outboxPriority (row : NotificationFields) : OutboxPriority :=
  if row.category = .critical then .high else .normal

def World.intakesAnnounced (world : World) : List OutboxRow := world.announced.filter (·.kind = .intake)

def World.dispatchesAnnounced (world : World) : List OutboxRow := world.announced.filter (·.kind = .dispatch)

structure World.Announces (world : World) : Prop where
  intakes : world.intakesAnnounced = (world.intakes.map fun intake => enqueueIntake intake intake.outboxPriority).reverse
  once : (world.dispatchesAnnounced.map (·.aggregateId)).Nodup
  known : ∀ row ∈ world.dispatchesAnnounced, ∃ notification ∈ world.notifications,
    notification.id = row.aggregateId ∧ row.priority = notification.outboxPriority
  complete : ∀ notification ∈ world.notifications, notification.status ≠ .suppressed →
    notification.id ∈ world.dispatchesAnnounced.map (·.aggregateId)

namespace World.Announces

variable {world : World}

theorem put {row updated : NotificationFields} (announces : world.Announces) (keyed : world.Keyed)
    (stored : row ∈ world.notifications) (live : row.status.terminal = false) (named : updated.id = row.id)
    (sorted : updated.category = row.category) :
    ({ world with notifications := upsert (·.id) updated world.notifications } : World).Announces where
  intakes := announces.intakes
  once := announces.once
  known := by
    intro announced member
    obtain ⟨notification, there, same, priority⟩ := announces.known announced member
    by_cases written : notification = row
    · subst written
      refine ⟨updated, mem_upsert.mpr (.inl rfl), named.trans same, ?_⟩
      rw [priority, NotificationFields.outboxPriority, NotificationFields.outboxPriority, sorted]
    · exact ⟨notification, (upsert_stored keyed.notifications stored named).mpr (.inr ⟨there, written⟩), same, priority⟩
  complete := by
    intro notification member unsuppressed
    rcases (upsert_stored keyed.notifications stored named).mp member with rfl | ⟨there, -⟩
    · rw [named]
      apply announces.complete row stored
      intro suppressed
      rw [suppressed] at live
      cases live
    · exact announces.complete notification there unsuppressed

theorem outboxPriority_saved {world : World} {intake revised : NotificationIntake} (keyed : world.Keyed)
    (stored : intake ∈ world.intakes) (revises : revised.Revises intake) :
    ((world.saveIntake revised).intakes.map fun intake => enqueueIntake intake intake.outboxPriority) =
      world.intakes.map fun intake => enqueueIntake intake intake.outboxPriority := by
  apply World.saveIntake_map _ keyed stored revises
  rw [enqueueIntake, enqueueIntake, revises.id, NotificationIntake.outboxPriority, NotificationIntake.outboxPriority,
    revises.payload]

theorem dispatchRows_dispatches (children : List Notification) :
    (dispatchRows children).filter (·.kind = .dispatch) = dispatchRows children := by
  rw [List.filter_eq_self]
  intro row member
  obtain ⟨child, -, rfl⟩ := List.mem_map.mp member
  rfl

theorem dispatchRows_intakes (children : List Notification) : (dispatchRows children).filter (·.kind = .intake) = [] := by
  rw [List.filter_eq_nil_iff]
  intro row member
  obtain ⟨child, -, rfl⟩ := List.mem_map.mp member
  exact of_decide_eq_false rfl

theorem bear {intake : NotificationIntake} {plan : NotificationPlan} {children : List Notification}
    (announces : world.Announces) (brood : Brood world.toTables intake plan children) :
    (world.bear children).Announces := by
  have rows := World.bear_notifications brood
  have dispatches : (world.bear children).dispatchesAnnounced = world.dispatchesAnnounced ++ dispatchRows children := by
    show (world.announced ++ dispatchRows children).filter _ = _
    rw [List.filter_append, dispatchRows_dispatches]
    rfl
  have intakes : (world.bear children).intakesAnnounced = world.intakesAnnounced := by
    show (world.announced ++ dispatchRows children).filter _ = _
    rw [List.filter_append, dispatchRows_intakes]
    exact List.append_nil _
  have ids : (dispatchRows children).map (·.aggregateId) = (children.filter Notification.announced).map (·.id) := by
    rw [dispatchRows, List.map_map]
    rfl
  constructor
  · rw [intakes]
    exact announces.intakes
  · rw [dispatches, List.map_append, ids, List.nodup_append']
    refine ⟨announces.once, brood.ids.sublist (List.Sublist.map _ List.filter_sublist), ?_⟩
    intro id before new
    obtain ⟨row, announced, rfl⟩ := List.mem_map.mp before
    obtain ⟨notification, there, same, -⟩ := announces.known row announced
    obtain ⟨child, chosen, other⟩ := List.mem_map.mp new
    exact brood.free child (List.mem_of_mem_filter chosen) (other ▸ same ▸ List.mem_map_of_mem there)
  · intro row member
    rw [dispatches, List.mem_append] at member
    rw [rows]
    cases member with
    | inl before =>
        obtain ⟨notification, there, same⟩ := announces.known row before
        exact ⟨notification, List.mem_append_right _ there, same⟩
    | inr new =>
        obtain ⟨child, chosen, rfl⟩ := List.mem_map.mp new
        refine ⟨child.toNotificationFields, List.mem_append_left _ ?_, rfl, rfl⟩
        exact List.mem_reverse.mpr (List.mem_map_of_mem (List.mem_of_mem_filter chosen))
  · intro notification member unsuppressed
    rw [rows, List.mem_append, List.mem_reverse] at member
    rw [dispatches, List.map_append, List.mem_append]
    cases member with
    | inl new =>
        obtain ⟨child, listed, rfl⟩ := List.mem_map.mp new
        refine .inr (ids ▸ List.mem_map_of_mem (List.mem_filter.mpr ⟨listed, ?_⟩))
        rcases brood.born child listed with pending | postponed | suppressed
        · simp [Notification.announced, pending]
        · simp [Notification.announced, postponed]
        · exact absurd suppressed unsuppressed
    | inr before => exact .inl (announces.complete notification before unsuppressed)

theorem accept {intake : NotificationIntake} {recipients : List Recipient} (announces : world.Announces) :
    (({ world with recipients, intakes := intake :: world.intakes } : World).announce
      (enqueueIntake intake intake.outboxPriority)).Announces := by
  have dispatches : (({ world with recipients, intakes := intake :: world.intakes } : World).announce
      (enqueueIntake intake intake.outboxPriority)).dispatchesAnnounced = world.dispatchesAnnounced := by
    show (world.announced ++ [enqueueIntake intake intake.outboxPriority]).filter _ = _
    rw [List.filter_append]
    exact List.append_nil _
  constructor
  · show (world.announced ++ [enqueueIntake intake intake.outboxPriority]).filter _ = _
    rw [List.filter_append]
    show _ = ((intake :: world.intakes).map _).reverse
    rw [List.map_cons, List.reverse_cons]
    exact congrArg (· ++ [enqueueIntake intake intake.outboxPriority]) announces.intakes
  · rw [dispatches]
    exact announces.once
  · rw [dispatches]
    exact announces.known
  · rw [dispatches]
    exact announces.complete

end World.Announces

theorem Commit.announces {world next : World} (keyed : world.Keyed) (announces : world.Announces) (commit : Commit world next) :
    next.Announces := by
  cases commit with
  | accept => exact announces.accept
  | revise stored revises =>
      refine ⟨?_, announces.once, announces.known, announces.complete⟩
      rw [World.Announces.outboxPriority_saved keyed stored revises]
      exact announces.intakes
  | @fanOut _ _ _ children stored _ _ brood revises =>
      have born := announces.bear brood
      have same : (world.bear children).Keyed := ⟨keyed.intakes, keyed.requests, world.bear_unique children keyed.notifications⟩
      refine ⟨?_, born.once, born.known, born.complete⟩
      rw [World.Announces.outboxPriority_saved same stored revises]
      exact born.intakes
  | move stored moves =>
      exact announces.put keyed stored moves.live (by rw [moves.kept]) (by rw [moves.kept])
  | @contact row updated _ _ stored processing _ _ settles =>
      have named : updated.id = row.id := by rw [settles.kept]
      have put := announces.put keyed stored (by rw [processing]; rfl) named (by rw [settles.kept])
      exact ⟨put.intakes, put.once, put.known, put.complete⟩
  | unrecorded => exact ⟨announces.intakes, announces.once, announces.known, announces.complete⟩
  | configure intakes notifications =>
      refine ⟨?_, announces.once, ?_, ?_⟩
      · rw [show _ = world.intakes from intakes]
        exact announces.intakes
      · rw [show _ = world.notifications from notifications]
        exact announces.known
      · rw [show _ = world.notifications from notifications]
        exact announces.complete

theorem World.Reached.announces {services : Services} {world : World} (reached : world.Reached services) : world.Announces := by
  apply reached.keeps
  · intro start blank
    constructor
    · rw [blank.intakes, intakesAnnounced, blank.announced]
      rfl
    · rw [dispatchesAnnounced, blank.announced]
      exact List.nodup_nil
    · rw [dispatchesAnnounced, blank.announced]
      exact fun _ member => absurd member List.not_mem_nil
    · rw [blank.notifications]
      exact fun _ member => absurd member List.not_mem_nil
  · exact fun _ _ keyed announces commit => commit.announces keyed announces

/-- The outbox is exact at the end of every history: one row for every intake, in the order they
came, and one for every child but those born suppressed, each with the priority of its category. -/
theorem outbox_complete {services : Services} {world : World} (reached : world.Reached services) :
    world.intakesAnnounced = (world.intakes.map fun intake => enqueueIntake intake intake.outboxPriority).reverse ∧
      (world.dispatchesAnnounced.map (·.aggregateId)).Nodup ∧
      (∀ row ∈ world.dispatchesAnnounced, ∃ notification ∈ world.notifications,
        notification.id = row.aggregateId ∧ row.priority = notification.outboxPriority) ∧
      ∀ notification ∈ world.notifications, notification.status ≠ .suppressed →
        notification.id ∈ world.dispatchesAnnounced.map (·.aggregateId) :=
  ⟨reached.announces.intakes, reached.announces.once, reached.announces.known, reached.announces.complete⟩

theorem greeting_announced :
    greetingSent.intakesAnnounced =
        (greetingSent.intakes.map fun intake => enqueueIntake intake intake.outboxPriority).reverse ∧
      ∀ notification ∈ greetingSent.notifications, notification.status ≠ .suppressed →
        notification.id ∈ greetingSent.dispatchesAnnounced.map (·.aggregateId) := by
  obtain ⟨intakes, -, -, complete⟩ := outbox_complete greetingSent_reached
  exact ⟨intakes, complete⟩

end Tiber
