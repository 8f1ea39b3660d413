import Mathlib.Data.List.Sort
import Tiber.Library.Pages
import Tiber.System.Families

/-! What reads return at the end of a history: the status of a request, and the pages of a project.

Every stored notification can be loaded, so a read fails only where what it asks for is not there.
-/

set_option autoImplicit false

namespace Tiber

open Library

/-! ## Loading -/

def World.Whole (world : World) : Prop := ∀ row ∈ world.notifications, row.Consistent

theorem World.Whole.commit {world next : World} (whole : world.Whole) (commit : Commit world next) : next.Whole := by
  cases commit with
  | accept | revise | unrecorded => exact whole
  | @fanOut _ _ _ children _ _ _ brood =>
      intro row (member : row ∈ (world.bear children).notifications)
      rw [World.bear_notifications brood, List.mem_append, List.mem_reverse] at member
      cases member with
      | inl new =>
          obtain ⟨child, -, rfl⟩ := List.mem_map.mp new
          exact child.consistent
      | inr before => exact whole row before
  | move _ moves =>
      intro row member
      rcases mem_upsert.mp member with rfl | ⟨there, -⟩
      · exact moves.whole
      · exact whole row there
  | contact _ _ _ _ settles =>
      intro row member
      rcases mem_upsert.mp member with rfl | ⟨there, -⟩
      · exact settles.whole
      · exact whole row there
  | configure _ notifications =>
      intro row member
      rw [show _ = world.notifications from notifications] at member
      exact whole row member

theorem World.Reached.whole {services : Services} {world : World} (reached : world.Reached services) : world.Whole := by
  apply reached.always
  · intro start blank row member
    rw [blank.notifications] at member
    cases member
  · exact fun _ _ whole commit => whole.commit commit

theorem loaded {rows : List NotificationFields} (whole : ∀ row ∈ rows, row.Consistent) :
    ∃ entities : List Notification, rows.mapM Notification.build = .ok entities ∧
      entities.map (·.toNotificationFields) = rows := by
  induction rows with
  | nil => exact ⟨[], rfl, rfl⟩
  | cons row rest ih =>
      obtain ⟨entities, later, same⟩ := ih fun other member => whole other (.tail _ member)
      have first : Notification.build row = .ok ⟨row, whole row (.head _)⟩ := Notification.build_eq_ok.mpr rfl
      refine ⟨⟨row, whole row (.head _)⟩ :: entities, ?_, by rw [List.map_cons, same]⟩
      rw [List.mapM_cons, first, later]
      rfl

/-! ## The status of a request -/

theorem World.Whole.listByTransaction {world : World} (whole : world.Whole) (intake : NotificationIntake) :
    ∃ notifications, world.listByTransaction intake.transactionId intake.projectId = .ok notifications ∧
      notifications.map (·.toNotificationFields) = (world.offspring intake).insertionSort NotificationFields.Older := by
  apply loaded
  intro row member
  rw [List.mem_insertionSort] at member
  exact whole row (List.mem_of_mem_filter member)

/-- A view shows the request as it is stored, with exactly its notifications, oldest first. -/
structure NotificationRequestView.Truthful (view : NotificationRequestView) (world : World) (projectId transactionId : Uuid) :
    Prop where
  request : view.intake ∈ world.intakes ∧ view.intake.projectId = projectId ∧ view.intake.transactionId = transactionId
  recipient : view.recipient ∈ world.recipients ∧ view.recipient.id = view.intake.recipientId
  notifications : (view.notifications.map (·.toNotificationFields)).Perm (world.offspring view.intake)
  order : (view.notifications.map (·.toNotificationFields)).Pairwise NotificationFields.Older
  completed : view.intake.status = .completed →
    ∃ plan, view.intake.plan = some plan ∧ (view.notifications.map (·.channel)).Perm plan.channels
  unfinished : view.intake.status ≠ .completed → view.notifications = []

theorem Tables.intakeByTransaction_eq_some {tables : Tables} {transactionId projectId : Uuid} {intake : NotificationIntake}
    (found : tables.intakeByTransaction transactionId projectId = some intake) :
    intake ∈ tables.intakes ∧ intake.projectId = projectId ∧ intake.transactionId = transactionId := by
  have same := List.find?_some found
  exact ⟨List.mem_of_find?_eq_some found, of_decide_eq_true same⟩

theorem Tables.recipientById_eq_some {tables : Tables} {id projectId : Uuid} {recipient : Recipient}
    (found : tables.recipientById id projectId = some recipient) : recipient ∈ tables.recipients ∧ recipient.id = id := by
  obtain ⟨held, -⟩ := Option.filter_eq_some_iff.mp found
  have same := List.find?_some held
  exact ⟨List.mem_of_find?_eq_some held, of_decide_eq_true same⟩

/-- The query looks up the request, then its recipient, then its notifications. -/
theorem getRequestStatusCall_outcome (projectId transactionId : Uuid) (world : World) :
    (getRequestStatusCall projectId transactionId).outcome world =
      match world.intakeByTransaction transactionId projectId with
      | none => .error (.entityNotFound "NotificationIntake" (uuidText transactionId))
      | some intake =>
          match world.recipientById intake.recipientId projectId with
          | none => .error (.entityNotFound "Recipient" (uuidText intake.recipientId))
          | some recipient => (world.listByTransaction transactionId projectId).map fun notifications =>
              { intake, notifications, recipient } := by
  unfold getRequestStatusCall Program.outcome
  dsimp only [Bind.bind, Program.read]
  cases world.intakeByTransaction transactionId projectId with
  | none => rfl
  | some intake =>
      dsimp only [Bind.bind, Program.read]
      cases world.recipientById intake.recipientId projectId with
      | none => rfl
      | some recipient =>
          dsimp only [Bind.bind, Call.find, Program.statement]
          cases world.listByTransaction transactionId projectId <;> rfl

theorem World.Reached.view_truthful {services : Services} {world : World} (reached : world.Reached services)
    {intake : NotificationIntake} {recipient : Recipient} {notifications : List Notification}
    (stored : intake ∈ world.intakes) (known : recipient ∈ world.recipients ∧ recipient.id = intake.recipientId)
    (listed : notifications.map (·.toNotificationFields) =
      (world.offspring intake).insertionSort NotificationFields.Older) :
    NotificationRequestView.Truthful ⟨intake, notifications, recipient⟩ world intake.projectId intake.transactionId := by
  have perm : (notifications.map (·.toNotificationFields)).Perm (world.offspring intake) := by
    rw [listed]
    exact List.perm_insertionSort _ _
  refine ⟨⟨stored, rfl, rfl⟩, known, perm, ?_, fun done => ?_, fun unfinished => ?_⟩
  · rw [listed]
    exact List.pairwise_insertionSort _ _
  · obtain ⟨plan, planned, channels⟩ := reached.families.complete intake stored done
    refine ⟨plan, planned, List.Perm.trans ?_ channels⟩
    have named := perm.map (·.channel)
    rw [List.map_map] at named
    exact named
  · rw [reached.families.barren reached.keyed stored unfinished] at perm
    exact List.map_eq_nil_iff.mp perm.eq_nil

theorem World.Reached.status {services : Services} {world : World} (reached : world.Reached services)
    (projectId transactionId : Uuid) :
    match (getRequestStatusCall projectId transactionId).outcome world with
    | .ok view => view.Truthful world projectId transactionId
    | .error error =>
        (∀ intake ∈ world.intakes, ¬ (intake.projectId = projectId ∧ intake.transactionId = transactionId)) ∧
          error = .entityNotFound "NotificationIntake" (uuidText transactionId) ∨
        ∃ intake ∈ world.intakes, intake.projectId = projectId ∧ intake.transactionId = transactionId ∧
          world.recipientById intake.recipientId projectId = none ∧
          error = .entityNotFound "Recipient" (uuidText intake.recipientId) := by
  rw [getRequestStatusCall_outcome]
  cases found : world.intakeByTransaction transactionId projectId with
  | none =>
      refine .inl ⟨fun intake stored same => ?_, rfl⟩
      have absent := List.find?_eq_none.mp found intake stored
      exact absent (decide_eq_true same)
  | some intake =>
      obtain ⟨stored, rfl, rfl⟩ := Tables.intakeByTransaction_eq_some found
      dsimp only
      cases known : world.recipientById intake.recipientId intake.projectId with
      | none => exact .inr ⟨intake, stored, rfl, rfl, known, rfl⟩
      | some recipient =>
          obtain ⟨notifications, listed, same⟩ := reached.whole.listByTransaction intake
          dsimp only
          rw [listed]
          exact reached.view_truthful stored (Tables.recipientById_eq_some known) same

/-- What the status query returns is true, and it fails just where the request or its recipient is not there. -/
theorem status_truthful {services : Services} {world : World} (reached : world.Reached services)
    (projectId transactionId : Uuid) :
    (∀ view, (getRequestStatusCall projectId transactionId).outcome world = .ok view →
      view.Truthful world projectId transactionId) ∧
    ∀ error, (getRequestStatusCall projectId transactionId).outcome world = .error error →
      (∀ intake ∈ world.intakes, ¬ (intake.projectId = projectId ∧ intake.transactionId = transactionId)) ∧
        error = .entityNotFound "NotificationIntake" (uuidText transactionId) ∨
      ∃ intake ∈ world.intakes, intake.projectId = projectId ∧ intake.transactionId = transactionId ∧
        world.recipientById intake.recipientId projectId = none ∧
        error = .entityNotFound "Recipient" (uuidText intake.recipientId) := by
  have status := reached.status projectId transactionId
  constructor
  · intro view answered
    rw [answered] at status
    exact status
  · intro error failed
    rw [failed] at status
    exact status

theorem greeting_status_truthful : ∃ view, (getRequestStatusCall 1 11).outcome greetingSent = .ok view ∧
    view.Truthful greetingSent 1 11 := by
  have answers : ((getRequestStatusCall 1 11).outcome greetingSent).toOption.isSome := by decide +kernel
  cases answered : (getRequestStatusCall 1 11).outcome greetingSent with
  | error error =>
      rw [answered] at answers
      cases answers
  | ok view => exact ⟨view, rfl, (status_truthful greetingSent_reached 1 11).1 view answered⟩

/-! ## The pages of a project -/

def NotificationFields.place (row : NotificationFields) : Instant × Uuid := (row.createdAt, row.id)

def Before (first second : Instant × Uuid) : Prop :=
  second.1 < first.1 ∨ second.1 = first.1 ∧ second.2 ≤ first.2

instance : Std.Antisymm Before where
  antisymm first second early late := by
    rcases early with early | ⟨time, id⟩ <;> rcases late with late | ⟨time', id'⟩
    · exact absurd early (Int.lt_asymm late)
    · exact absurd early (time' ▸ Int.lt_irrefl _)
    · exact absurd late (time ▸ Int.lt_irrefl _)
    · exact Prod.ext time' (Nat.le_antisymm id' id)

def Tables.places (tables : Tables) (projectId : Uuid) : List (Instant × Uuid) :=
  ((tables.notifications.filter fun row => row.projectId = projectId).insertionSort NotificationFields.Newer).map (·.place)

theorem Tables.places_sorted (tables : Tables) (projectId : Uuid) : (tables.places projectId).Pairwise Before := by
  unfold Tables.places
  rw [List.pairwise_map]
  exact List.pairwise_insertionSort NotificationFields.Newer _

theorem Tables.mem_places {tables : Tables} {projectId : Uuid} {place : Instant × Uuid} :
    place ∈ tables.places projectId ↔ ∃ row ∈ tables.notifications, row.projectId = projectId ∧ row.place = place := by
  unfold Tables.places
  simp only [List.mem_map, List.mem_insertionSort, List.mem_filter, decide_eq_true_eq, and_assoc]

theorem World.Keyed.places_nodup {world : World} (keyed : world.Keyed) (projectId : Uuid) : (world.places projectId).Nodup := by
  have rows : (world.notifications.map (·.place)).Nodup := List.Nodup.of_map Prod.snd (by rw [List.map_map]; exact keyed.notifications)
  unfold Tables.places
  rw [((List.perm_insertionSort _ _).map _).nodup_iff]
  exact rows.sublist (List.Sublist.map _ List.filter_sublist)

/-- No commit takes a notification from its place. -/
theorem Commit.places {world next : World} (keyed : world.Keyed) (commit : Commit world next) {row : NotificationFields}
    (stored : row ∈ world.notifications) :
    ∃ known ∈ next.notifications, known.projectId = row.projectId ∧ known.place = row.place := by
  have put {old updated : NotificationFields} (there : old ∈ world.notifications) (named : updated.id = old.id)
      (kept : updated.projectId = old.projectId ∧ updated.createdAt = old.createdAt) :
      ∃ known ∈ upsert (·.id) updated world.notifications, known.projectId = row.projectId ∧ known.place = row.place := by
    by_cases written : row = old
    · subst written
      exact ⟨updated, mem_upsert.mpr (.inl rfl), kept.1, Prod.ext kept.2 named⟩
    · exact ⟨row, (upsert_stored keyed.notifications there named).mpr (.inr ⟨stored, written⟩), rfl, rfl⟩
  cases commit with
  | accept | revise | unrecorded => exact ⟨row, stored, rfl, rfl⟩
  | @fanOut _ _ _ children _ _ _ brood =>
      refine ⟨row, ?_, rfl, rfl⟩
      show row ∈ (world.bear children).notifications
      rw [World.bear_notifications brood]
      exact List.mem_append_right _ stored
  | move there moves => exact put there (by rw [moves.kept]) ⟨by rw [moves.kept], by rw [moves.kept]⟩
  | contact there _ _ _ settles => exact put there (by rw [settles.kept]) ⟨by rw [settles.kept], by rw [settles.kept]⟩
  | configure _ notifications =>
      refine ⟨row, ?_, rfl, rfl⟩
      rw [show _ = world.notifications from notifications]
      exact stored

theorem Committed.places {world next : World} (keyed : world.Keyed) (committed : Committed world next) (projectId : Uuid) :
    (world.places projectId).Sublist (next.places projectId) := by
  have kept : next.Keyed ∧ ∀ row ∈ world.notifications,
      ∃ known ∈ next.notifications, known.projectId = row.projectId ∧ known.place = row.place := by
    apply committed.keeps
    · intro between later held commit
      refine ⟨commit.keyed held.1, fun row stored => ?_⟩
      obtain ⟨known, there, project, place⟩ := held.2 row stored
      obtain ⟨last, found, project', place'⟩ := commit.places held.1 there
      exact ⟨last, found, project'.trans project, place'.trans place⟩
    · exact ⟨keyed, fun row stored => ⟨row, stored, rfl, rfl⟩⟩
  refine List.sublist_of_subperm_of_pairwise (List.subperm_of_subset (keyed.places_nodup projectId) ?_)
    (world.places_sorted projectId) (next.places_sorted projectId)
  intro place member
  obtain ⟨row, stored, own, rfl⟩ := Tables.mem_places.mp member
  obtain ⟨known, there, project, same⟩ := kept.2 row stored
  exact Tables.mem_places.mpr ⟨known, there, project.trans own, same⟩

theorem World.Whole.listNotificationsCall {world : World} (whole : world.Whole) (projectId : Uuid) (limit offset : Nat) :
    ∃ listed, Tiber.listNotificationsCall projectId limit offset world = (.ok listed, world) ∧
      listed.map (·.toNotificationFields) = (((world.notifications.filter fun row => row.projectId = projectId).insertionSort
        NotificationFields.Newer).drop offset).take limit := by
  have sound : ∀ row ∈ (((world.notifications.filter fun row => row.projectId = projectId).insertionSort
      NotificationFields.Newer).drop offset).take limit, row.Consistent := by
    intro row member
    have sorted := List.mem_of_mem_drop (List.mem_of_mem_take member)
    rw [List.mem_insertionSort] at sorted
    exact whole row (List.mem_of_mem_filter sorted)
  obtain ⟨listed, found, same⟩ := loaded sound
  refine ⟨listed, ?_, same⟩
  unfold Tiber.listNotificationsCall Call.find Program.statement
  dsimp only
  rw [show world.listByProject projectId limit offset = .ok listed from found]
  rfl

theorem World.Whole.listNotificationsCall_page {world : World} (whole : world.Whole) (projectId : Uuid) (size number : Nat) :
    ∃ listed, (Tiber.listNotificationsCall projectId size (number * size)).outcome world = .ok listed ∧
      listed.map (·.place) = page size number (world.places projectId) := by
  obtain ⟨listed, answered, same⟩ := whole.listNotificationsCall projectId size (number * size)
  refine ⟨listed, congrArg Prod.fst answered, ?_⟩
  have places := congrArg (List.map (·.place)) same
  rw [List.map_map, List.map_take, List.map_drop] at places
  exact places

/-- Paging through a project by offset, with any calls and edits between the pages, up to a page that
is not full: every page is answered, and every notification that was there at the start is shown. -/
theorem pages_skip_nothing {services : Services} {worlds : Nat → World} (reached : (worlds 0).Reached services)
    (later : ∀ number, (worlds number).Leads services (worlds (number + 1))) (projectId : Uuid) (size : Nat) :
    ∃ pages : Nat → List Notification,
      (∀ number, (listNotificationsCall projectId size (number * size)).outcome (worlds number) = .ok (pages number)) ∧
      ∀ last, (pages last).length < size → ∀ row ∈ (worlds 0).notifications, row.projectId = projectId →
        ∃ number ≤ last, ∃ shown ∈ pages number, shown.id = row.id := by
  have holds (number : Nat) : (worlds number).Keyed ∧ (worlds number).Whole := by
    induction number with
    | zero => exact ⟨reached.keyed, reached.whole⟩
    | succ number ih =>
        have each (world next : World) (held : world.Keyed ∧ world.Whole) (commit : Commit world next) :
            next.Keyed ∧ next.Whole := ⟨commit.keyed held.1, held.2.commit commit⟩
        exact Committed.keeps each ((later number).committed ih.1.notifications) ih
  have answered (number : Nat) := (holds number).2.listNotificationsCall_page projectId size number
  choose pages listed shown using answered
  refine ⟨pages, listed, fun last short row stored own => ?_⟩
  have grow : Accumulate fun number => (worlds number).places projectId :=
    fun number => ((later number).committed (holds number).1.notifications).places (holds number).1 projectId
  have few : (page size last ((worlds last).places projectId)).length < size := by
    rw [← shown, List.length_map]
    exact short
  obtain ⟨number, soon, seen⟩ := grow.swept few (Tables.mem_places.mpr ⟨row, stored, own, rfl⟩)
  rw [← shown] at seen
  obtain ⟨entity, there, same⟩ := List.mem_map.mp seen
  exact ⟨number, soon, entity, there, congrArg Prod.snd same⟩

def greetingRead (number : Nat) : World := if number = 0 then greetingFannedOut else greetingSent

theorem greetingRead_zero : greetingRead 0 = greetingFannedOut := if_pos rfl

theorem greetingRead_succ (number : Nat) : greetingRead (number + 1) = greetingSent := if_neg (Nat.succ_ne_zero number)

theorem greeting_pages_skip_nothing : ∃ pages : Nat → List Notification,
    (∀ number, (listNotificationsCall 1 2 (number * 2)).outcome (greetingRead number) = .ok (pages number)) ∧
    ∀ last, (pages last).length < 2 → ∀ row ∈ (greetingRead 0).notifications, row.projectId = 1 →
      ∃ number ≤ last, ∃ shown ∈ pages number, shown.id = row.id := by
  refine pages_skip_nothing (greetingRead_zero ▸ greetingFannedOut_reached) (fun number => ?_) 1 2
  cases number with
  | zero =>
      rw [greetingRead_succ, greetingRead_zero]
      exact greetingFannedOut_leads
  | succ number =>
      rw [greetingRead_succ, greetingRead_succ]
      exact ⟨[], trivial, rfl⟩

end Tiber
