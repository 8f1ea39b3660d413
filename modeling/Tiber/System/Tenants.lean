import Tiber.Application.ProjectCalls

/-! Two runs of one project's call against databases that differ in other projects' rows.

`Confined` follows one run: the keys still hold and nobody else's rows have changed. `Together`
follows both: they agree on the project's rows and have sent, announced and recorded the same.
-/

set_option autoImplicit false

namespace Tiber

open Library

/-- What a run of a project's call has made of the tables it started on. -/
structure Confined (projectId : Uuid) (start tables : Tables) : Prop where
  sound : tables.Sound
  kept : ∀ foreign, foreign ≠ projectId → start.AgreeOn foreign tables

/-- Where two runs that started on these tables stand. -/
structure Together (projectId : Uuid) (start start' : Tables) (world other : World) : Prop where
  left : Confined projectId start world.toTables
  right : Confined projectId start' other.toTables
  agree : world.toTables.AgreeOn projectId other.toTables
  sent : world.sent = other.sent
  announced : world.announced = other.announced
  attempts : world.attempts = other.attempts

namespace Tables

variable (tables : Tables)

def HasIntake (intake : NotificationIntake) : Prop :=
  ∃ row ∈ tables.intakes, row.id = intake.id ∧ row.projectId = intake.projectId ∧
    row.idempotencyKey = intake.idempotencyKey ∧ row.transactionId = intake.transactionId

def HasRecipient (recipient : Recipient) : Prop :=
  ∃ row ∈ tables.recipients, row.id = recipient.id ∧ row.projectId = recipient.projectId ∧
    row.externalId = recipient.externalId

def HasNotification (projectId id : Uuid) : Prop :=
  ∃ row ∈ tables.notifications, row.id = id ∧ row.projectId = projectId

structure Admits (intake : NotificationIntake) : Prop where
  id : intake.id ∉ tables.intakes.map (·.id)
  key : ∀ key, intake.idempotencyKey = some key → ∀ row ∈ tables.intakes, ¬ row.Keyed intake.projectId key
  transaction : ¬ ∃ row ∈ tables.intakes, row.projectId = intake.projectId ∧ row.transactionId = intake.transactionId
  topics : intake.TopicsIn tables.topics

end Tables

/-! ## Writes of one run -/

namespace Confined

variable {projectId : Uuid} {start tables : Tables}

theorem refl (sound : tables.Sound) : Confined projectId tables tables := ⟨sound, fun _ _ => .refl⟩

/-- A write leaves every table but one as it is. -/
theorem write (confined : Confined projectId start tables) {after : Tables} (sound : after.Sound)
    (kept : ∀ foreign, foreign ≠ projectId → tables.AgreeOn foreign after) : Confined projectId start after :=
  ⟨sound, fun foreign other => (confined.kept foreign other).trans (kept foreign other)⟩

theorem unclaimed_recipient (confined : Confined projectId start tables) {id : Uuid}
    (free : Unclaimed Recipient.id Recipient.projectId projectId id start.recipients) :
    Unclaimed Recipient.id Recipient.projectId projectId id tables.recipients :=
  free.of_same fun foreign other => (confined.kept foreign other).recipients

theorem unclaimed_intake (confined : Confined projectId start tables) {id : Uuid}
    (free : Unclaimed (fun row : NotificationIntake => row.id) (fun row => row.projectId) projectId id start.intakes) :
    Unclaimed (fun row : NotificationIntake => row.id) (fun row => row.projectId) projectId id tables.intakes :=
  free.of_same fun foreign other => (confined.kept foreign other).intakes

theorem unclaimed_notification (confined : Confined projectId start tables) {id : Uuid}
    (free : Unclaimed NotificationFields.id NotificationFields.projectId projectId id start.notifications) :
    Unclaimed NotificationFields.id NotificationFields.projectId projectId id tables.notifications :=
  free.of_same fun foreign other => (confined.kept foreign other).notifications

theorem addRecipient (confined : Confined projectId start tables) {recipient : Recipient}
    (own : recipient.projectId = projectId) (free : recipient.id ∉ tables.recipients.map (·.id))
    (anonymous : recipient.externalId = none) :
    Confined projectId start { tables with recipients := recipient :: tables.recipients } := by
  refine confined.write { confined.sound with
    recipients := List.nodup_cons.mpr ⟨free, confined.sound.recipients⟩
    externalIds := ?_ } fun foreign other =>
      { (.refl : tables.AgreeOn foreign tables) with recipients := .cons_other fun same => other (same.symm.trans own) }
  intro project externalId first there second also named alike
  have older {row : Recipient} (listed : row ∈ recipient :: tables.recipients) (external : row.externalId = some externalId) :
      row ∈ tables.recipients := by
    refine (List.mem_cons.mp listed).resolve_left fun same => ?_
    rw [same, anonymous] at external
    cases external
  exact confined.sound.externalIds project externalId first (older there named.2) second (older also alike.2) named alike

theorem saveRecipient (confined : Confined projectId start tables) {recipient : Recipient}
    (own : recipient.projectId = projectId) (has : tables.HasRecipient recipient) :
    Confined projectId start { tables with recipients := upsert Recipient.id recipient tables.recipients } := by
  obtain ⟨row, stored, named, same, external⟩ := has
  have unique {known : Recipient} (there : known ∈ tables.recipients) (keyed : known.id = recipient.id) : known = row :=
    AtMostOne.of_nodup confined.sound.recipients recipient.id known there row stored keyed named
  refine confined.write { confined.sound with
    recipients := upsert_nodup confined.sound.recipients
    externalIds := fun project externalId => (confined.sound.externalIds project externalId).upsert ?_ }
      fun foreign other => { (.refl : tables.AgreeOn foreign tables) with recipients := SameFor.upsert_other own ?_ other }
  · intro met known there alike
    rw [confined.sound.externalIds project externalId known there row stored alike
      ⟨same.trans met.1, external.trans met.2⟩, named]
  · intro known there keyed
    rw [unique there keyed, same, own]

theorem addIntake (confined : Confined projectId start tables) {intake : NotificationIntake}
    (own : intake.projectId = projectId) (admits : tables.Admits intake) :
    Confined projectId start { tables with intakes := intake :: tables.intakes } := by
  have only {condition : NotificationIntake → Prop} (few : AtMostOne tables.intakes condition)
      (free : condition intake → ∀ row ∈ tables.intakes, ¬ condition row) :
      AtMostOne (intake :: tables.intakes) condition := by
    intro first there second also met alike
    rcases List.mem_cons.mp there with rfl | stored
    · rcases List.mem_cons.mp also with rfl | stored'
      · rfl
      · exact absurd alike (free met second stored')
    · rcases List.mem_cons.mp also with rfl | stored'
      · exact absurd met (free alike first stored)
      · exact few first stored second stored' met alike
  refine confined.write { confined.sound with
    intakes := List.nodup_cons.mpr ⟨admits.id, confined.sound.intakes⟩
    idempotencyKeys := fun project key => only (confined.sound.idempotencyKeys project key) ?_
    transactions := fun project transactionId => only (confined.sound.transactions project transactionId) ?_
    snapshots := List.forall_mem_cons.mpr ⟨admits.topics, confined.sound.snapshots⟩ } fun foreign other =>
      { (.refl : tables.AgreeOn foreign tables) with intakes := .cons_other fun same => other (same.symm.trans own) }
  · rintro ⟨rfl, keyed⟩ row stored
    exact admits.key key keyed row stored
  · rintro ⟨rfl, rfl⟩ row stored same
    exact admits.transaction ⟨row, stored, same⟩

theorem saveIntake (confined : Confined projectId start tables) {intake : NotificationIntake}
    (own : intake.projectId = projectId) (has : tables.HasIntake intake) (topics : intake.TopicsIn tables.topics) :
    Confined projectId start
      { tables with intakes := upsert (fun row : NotificationIntake => row.id) intake tables.intakes } := by
  obtain ⟨row, stored, named, same, key, transaction⟩ := has
  have unique {known : NotificationIntake} (there : known ∈ tables.intakes) (keyed : known.id = intake.id) : known = row :=
    AtMostOne.of_nodup confined.sound.intakes intake.id known there row stored keyed named
  refine confined.write { confined.sound with
    intakes := upsert_nodup confined.sound.intakes
    idempotencyKeys := fun project wanted => (confined.sound.idempotencyKeys project wanted).upsert ?_
    transactions := fun project transactionId => (confined.sound.transactions project transactionId).upsert ?_
    snapshots := ?_ } fun foreign other =>
      { (.refl : tables.AgreeOn foreign tables) with intakes := SameFor.upsert_other own ?_ other }
  · intro met known there alike
    rw [confined.sound.idempotencyKeys project wanted known there row stored alike
      ⟨same.trans met.1, key.trans met.2⟩, named]
  · intro met known there alike
    rw [confined.sound.transactions project _ known there row stored alike
      ⟨same.trans met.1, transaction.trans met.2⟩, named]
  · intro known there
    rcases mem_upsert.mp there with rfl | ⟨there, -⟩
    · exact topics
    · exact confined.sound.snapshots known there
  · intro known there keyed
    rw [unique there keyed]
    exact same.trans own

theorem saveNotification (confined : Confined projectId start tables) {row : NotificationFields}
    (own : row.projectId = projectId)
    (free : Unclaimed NotificationFields.id NotificationFields.projectId projectId row.id tables.notifications) :
    Confined projectId start
      { tables with notifications := upsert NotificationFields.id row tables.notifications } :=
  confined.write { confined.sound with notifications := upsert_nodup confined.sound.notifications }
    fun foreign other =>
      { (.refl : tables.AgreeOn foreign tables) with notifications := SameFor.upsert_other own free other }

end Confined

/-! ## What one run knows, the other does -/

namespace Tables.AgreeOn

variable {projectId : Uuid} {tables others : Tables} (agree : tables.AgreeOn projectId others)

include agree

theorem hasIntake {intake : NotificationIntake} (own : intake.projectId = projectId) (has : tables.HasIntake intake) :
    others.HasIntake intake := by
  obtain ⟨row, stored, named, same, keys⟩ := has
  exact ⟨row, (agree.intakes row (same.trans own)).mp stored, named, same, keys⟩

theorem hasRecipient {recipient : Recipient} (own : recipient.projectId = projectId)
    (has : tables.HasRecipient recipient) : others.HasRecipient recipient := by
  obtain ⟨row, stored, named, same, external⟩ := has
  exact ⟨row, (agree.recipients row (same.trans own)).mp stored, named, same, external⟩

theorem hasNotification {id : Uuid} (has : tables.HasNotification projectId id) : others.HasNotification projectId id := by
  obtain ⟨row, stored, named, own⟩ := has
  exact ⟨row, (agree.notifications row own).mp stored, named, own⟩

theorem topicsIn {intake : NotificationIntake} (own : intake.projectId = projectId)
    (known : intake.TopicsIn tables.topics) : intake.TopicsIn others.topics := by
  intro topic listed
  obtain ⟨row, stored, named, same⟩ := known topic listed
  exact ⟨row, (agree.topics row (same.trans own)).mp stored, named, same⟩

theorem admits {intake : NotificationIntake} (own : intake.projectId = projectId) (admits : tables.Admits intake)
    (free : intake.id ∉ others.intakes.map (·.id)) : others.Admits intake where
  id := free
  key key keyed row stored same :=
    admits.key key keyed row ((agree.intakes row (same.1.trans own)).mpr stored) same
  transaction := by
    rintro ⟨row, stored, same⟩
    exact admits.transaction ⟨row, (agree.intakes row (same.1.trans own)).mpr stored, same⟩
  topics := agree.topicsIn own admits.topics

end Tables.AgreeOn

/-! ## Writes of both runs -/

namespace Together

variable {projectId : Uuid} {start start' : Tables} {world other : World}

theorem saveIntake (both : Together projectId start start' world other) {intake : NotificationIntake}
    (own : intake.projectId = projectId) (has : world.HasIntake intake) (topics : intake.TopicsIn world.topics) :
    Together projectId start start' (world.saveIntake intake) (other.saveIntake intake) where
  left := both.left.saveIntake own has topics
  right := both.right.saveIntake own (both.agree.hasIntake own has) (both.agree.topicsIn own topics)
  agree := { both.agree with intakes := both.agree.intakes.upsert intake }
  sent := both.sent
  announced := both.announced
  attempts := both.attempts

theorem putNotification (both : Together projectId start start' world other) {row : NotificationFields}
    (own : row.projectId = projectId)
    (free : Unclaimed NotificationFields.id NotificationFields.projectId projectId row.id world.notifications)
    (free' : Unclaimed NotificationFields.id NotificationFields.projectId projectId row.id other.notifications) :
    Together projectId start start'
      { world with notifications := upsert NotificationFields.id row world.notifications }
      { other with notifications := upsert NotificationFields.id row other.notifications } where
  left := both.left.saveNotification own free
  right := both.right.saveNotification own free'
  agree := { both.agree with notifications := both.agree.notifications.upsert row }
  sent := both.sent
  announced := both.announced
  attempts := both.attempts

theorem announce (both : Together projectId start start' world other) (row : OutboxRow) :
    Together projectId start start' (world.announce row) (other.announce row) :=
  { both with announced := congrArg (· ++ [row]) both.announced }

theorem send (both : Together projectId start start' world other) (message : ProviderMessage) :
    Together projectId start start' (world.send message) (other.send message) :=
  { both with sent := congrArg (· ++ [message]) both.sent }

theorem record (both : Together projectId start start' world other) (attempt : DeliveryAttempt) :
    Together projectId start start' (world.record attempt) (other.record attempt) :=
  { both with attempts := congrArg (· ++ [attempt]) both.attempts }

end Together

theorem World.saveIntake_hasIntake (world : World) (intake : NotificationIntake) :
    (world.saveIntake intake).HasIntake intake := ⟨intake, mem_upsert.mpr (.inl rfl), rfl, rfl, rfl, rfl⟩

/-! ## Statements of both runs -/

namespace Call

variable {α : Type} {before : World → World → Prop} {after : α → World → World → Prop} {failing : World → World → Prop}

theorem find_twins {query : Tables → Checked α}
    (same : ∀ world other, before world other → query world.toTables = query other.toTables)
    (holds : ∀ value world other, before world other → query world.toTables = .ok value → after value world other)
    (fails : ∀ world other, before world other → failing world other) :
    Program.Twins before (Call.find query) after failing := by
  apply Program.Twins.statement
  intro world other related
  have alike := same world other related
  cases found : query world.toTables with
  | error error => exact .inl ⟨error, rfl, by rw [← alike, found]; rfl, fails world other related⟩
  | ok value => exact .inr ⟨value, world, other, rfl, by rw [← alike, found]; rfl, holds value world other related found⟩

theorem write_twins {change : World → Checked World} {after : World → World → Prop}
    (alike : ∀ world other, before world other →
      (∃ error, change world = .error error ∧ change other = .error error) ∨
        ∃ later later', change world = .ok later ∧ change other = .ok later' ∧ after later later')
    (fails : ∀ world other, before world other → failing world other) :
    Program.Twins before (Call.write change) (fun _ => after) failing := by
  apply Program.Twins.statement
  intro world other related
  rcases alike world other related with ⟨error, left, right⟩ | ⟨later, later', left, right, holds⟩
  · exact .inl ⟨error, by rw [left]; rfl, by rw [right]; rfl, fails world other related⟩
  · exact .inr ⟨(), later, later', by rw [left]; rfl, by rw [right]; rfl, holds⟩

end Call

end Tiber
