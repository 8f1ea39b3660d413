import Tiber.System.TenantAccept

/-! Processing an intake: the row is locked by its id alone, and what the call reads and writes after
that goes by the project of the row.
-/

set_option autoImplicit false

namespace Tiber

open Library

namespace Tables

variable (tables : Tables)

def HoldsIntake (projectId id : Uuid) : Prop := ∃ row ∈ tables.intakes, row.id = id ∧ row.projectId = projectId

structure Stands (projectId id : Uuid) (intake : NotificationIntake) : Prop where
  id : intake.id = id
  own : intake.projectId = projectId
  has : tables.HasIntake intake
  topics : intake.TopicsIn tables.topics

end Tables

structure NotificationIntake.Continues (intake revised : NotificationIntake) : Prop where
  id : revised.id = intake.id
  project : revised.projectId = intake.projectId
  key : revised.idempotencyKey = intake.idempotencyKey
  transaction : revised.transactionId = intake.transactionId
  payload : revised.payload = intake.payload

section Rows

variable {projectId id : Uuid} {tables others : Tables} {intake revised : NotificationIntake}

theorem Tables.Stands.holds (stands : tables.Stands projectId id intake) : tables.HoldsIntake projectId id := by
  obtain ⟨row, stored, named, own, -⟩ := stands.has
  exact ⟨row, stored, named.trans stands.id, own.trans stands.own⟩

theorem Tables.Stands.revise (stands : tables.Stands projectId id intake) (continues : intake.Continues revised)
    (topics : revised.TopicsIn tables.topics) : tables.Stands projectId id revised := by
  obtain ⟨row, stored, named, own, key, transaction⟩ := stands.has
  exact ⟨continues.id.trans stands.id, continues.project.trans stands.own,
    ⟨row, stored, named.trans continues.id.symm, own.trans continues.project.symm, key.trans continues.key.symm,
      transaction.trans continues.transaction.symm⟩, topics⟩

theorem NotificationIntake.TopicsIn.revise {topics : List NotificationTopic} (known : intake.TopicsIn topics)
    (continues : intake.Continues revised) (plan : revised.plan = intake.plan) : revised.TopicsIn topics := by
  unfold NotificationIntake.TopicsIn NotificationIntake.topics at *
  rw [continues.project, continues.payload, plan]
  exact known

theorem NotificationIntake.claim_continues {now stamp : Instant} {lease : Int}
    (claimed : intake.claim now lease stamp = .ok revised) : intake.Continues revised ∧ revised.plan = intake.plan := by
  obtain ⟨-, fields⟩ := claim_eq_ok.mp claimed
  refine ⟨⟨?_, ?_, ?_, ?_, ?_⟩, ?_⟩ <;> rw [fields]

theorem NotificationIntake.fail_continues {reason : String} {stamp : Instant}
    (failed : intake.fail reason stamp = .ok revised) : intake.Continues revised ∧ revised.plan = intake.plan := by
  obtain ⟨-, -, fields⟩ := fail_eq_ok.mp failed
  refine ⟨⟨?_, ?_, ?_, ?_, ?_⟩, ?_⟩ <;> rw [fields]

theorem NotificationIntake.complete_continues {now stamp : Instant}
    (completed : intake.complete now stamp = .ok revised) : intake.Continues revised ∧ revised.plan = intake.plan := by
  obtain ⟨-, -, fields⟩ := complete_eq_ok.mp completed
  refine ⟨⟨?_, ?_, ?_, ?_, ?_⟩, ?_⟩ <;> rw [fields]

theorem Tables.AgreeOn.intakeForUpdate_eq (agree : tables.AgreeOn projectId others) (sound : tables.Sound)
    (sound' : others.Sound) (holds : tables.HoldsIntake projectId id) :
    tables.intakeForUpdate id = others.intakeForUpdate id := by
  obtain ⟨row, stored, named, own⟩ := holds
  have left : tables.intakeForUpdate id = some row :=
    (find?_key_eq_some sound.intakes).mpr ⟨stored, named⟩
  have right : others.intakeForUpdate id = some row :=
    (find?_key_eq_some sound'.intakes).mpr
      ⟨(agree.intakes row own).mp stored, named⟩
  rw [left, right]

theorem Tables.Sound.intakeForUpdate (sound : tables.Sound) (holds : tables.HoldsIntake projectId id)
    (found : tables.intakeForUpdate id = some intake) : tables.Stands projectId id intake := by
  obtain ⟨row, stored, named, own⟩ := holds
  obtain ⟨there, same⟩ := (find?_key_eq_some sound.intakes).mp found
  have only : intake = row := AtMostOne.of_nodup sound.intakes id intake there row stored same named
  exact ⟨same, by rw [only, own], ⟨intake, there, rfl, rfl, rfl, rfl⟩, sound.snapshots intake there⟩

end Rows

def Together.Holding (projectId id : Uuid) (start start' : Tables) (world other : World) : Prop :=
  Together projectId start start' world other ∧ world.HoldsIntake projectId id

def Together.Standing (projectId id : Uuid) (start start' : Tables) (intake : NotificationIntake) (world other : World) :
    Prop :=
  Together projectId start start' world other ∧ world.Stands projectId id intake

theorem Together.Standing.holding {projectId id : Uuid} {start start' : Tables} {intake : NotificationIntake}
    {world other : World} (standing : Standing projectId id start start' intake world other) :
    Holding projectId id start start' world other := ⟨standing.1, standing.2.holds⟩

theorem Together.Standing.save {projectId id : Uuid} {start start' : Tables} {intake revised : NotificationIntake}
    {world other : World} (standing : Standing projectId id start start' intake world other)
    (continues : intake.Continues revised) (topics : revised.TopicsIn world.topics) :
    Standing projectId id start start' revised (world.saveIntake revised) (other.saveIntake revised) := by
  obtain ⟨both, stands⟩ := standing
  have next := stands.revise continues topics
  exact ⟨both.saveIntake next.own next.has topics, next.id, next.own, world.saveIntake_hasIntake revised, topics⟩

section Process

variable {projectId id : Uuid} {start start' : Tables}

open Together

/-! ## Claim and failure -/

theorem lock_twins {failing : World → World → Prop} :
    Program.Twins (Holding projectId id start start')
      (Program.read fun world => world.intakeForUpdate id : Call (Option NotificationIntake))
      (fun found world other => Together projectId start start' world other ∧
        ∀ intake, found = some intake → world.Stands projectId id intake) failing := by
  apply Program.Twins.read
  · rintro world other ⟨both, holds⟩
    exact both.agree.intakeForUpdate_eq both.left.sound both.right.sound holds
  · rintro world other ⟨both, holds⟩
    exact ⟨both, fun intake found => both.left.sound.intakeForUpdate holds found⟩

theorem claimCall_twins (processor : IntakeProcessor) (given : Given) :
    Program.Twins (Holding projectId id start start') (claimCall processor given id)
      (fun claimed world other => Together projectId start start' world other ∧
        ∀ intake, claimed = some intake → world.Stands projectId id intake)
      (Together projectId start start') := by
  refine Program.Twins.transaction ?_ fun _ _ both => both.1
  apply Program.Twins.bind _ lock_twins
  rintro (_ | intake)
  · exact Program.Twins.pure fun _ _ both => ⟨both.1, fun _ found => absurd found.symm (Option.some_ne_none _)⟩
  · dsimp only
    split
    · apply Program.Twins.checking (fun _ _ _ => trivial)
      intro claimed done
      obtain ⟨continues, plan⟩ := NotificationIntake.claim_continues done
      apply Program.Twins.bind (fun _ => Standing projectId id start start' claimed)
      · apply Program.Twins.modify
        intro world other both
        have standing : Standing projectId id start start' intake world other := ⟨both.1, both.2 intake rfl⟩
        exact standing.save continues (standing.2.topics.revise continues plan)
      · intro _
        apply Program.Twins.pure
        intro world other standing
        refine ⟨standing.1, ?_⟩
        rintro _ ⟨⟩
        exact standing.2
    · exact Program.Twins.pure fun _ _ both => ⟨both.1, fun _ found => absurd found.symm (Option.some_ne_none _)⟩

theorem failCall_twins (given : Given) (reason : String) :
    Program.Twins (Holding projectId id start start') (failCall given id reason)
      (fun _ => Together projectId start start') (Together projectId start start') := by
  refine Program.Twins.transaction ?_ fun _ _ both => both.1
  apply Program.Twins.bind _ lock_twins
  rintro (_ | current)
  · exact Program.Twins.pure fun _ _ both => both.1
  · dsimp only
    split
    · exact Program.Twins.pure fun _ _ both => both.1
    · apply Program.Twins.checking (fun _ _ _ => trivial)
      intro failed done
      obtain ⟨continues, plan⟩ := NotificationIntake.fail_continues done
      apply Program.Twins.modify
      intro world other both
      have standing : Standing projectId id start start' current world other := ⟨both.1, both.2 current rfl⟩
      exact (standing.save continues (standing.2.topics.revise continues plan)).1

/-! ## Decision -/

/-- The slug a model answers with is looked up in the intake's project. -/
theorem consult_eq {tables others : Tables} (agree : tables.AgreeOn projectId others) (sound' : others.Sound)
    (payload : IntakePayload) (constraints : DecisionConstraints) (answer : Option MlSuggestion) :
    consult payload constraints answer tables.topics projectId = consult payload constraints answer others.topics projectId := by
  have topic (slug : Text) : (tables.topics.find? fun topic => topic.projectId = projectId ∧ topic.topicSlug = slug) =
      others.topics.find? fun topic => topic.projectId = projectId ∧ topic.topicSlug = slug :=
    agree.topics.find?_eq (fun _ both => both.1) (sound'.topicSlugs projectId slug)
  unfold consult
  simp only [topic]

theorem consult_known {payload : IntakePayload} {constraints : DecisionConstraints} {answer : Option MlSuggestion}
    {topics : List NotificationTopic} {topic : ResolvedTopic}
    (found : (consult payload constraints answer topics projectId).2 = some topic) :
    ∃ row ∈ topics, row.id = topic.id ∧ row.projectId = projectId := by
  unfold consult at found
  dsimp only at found
  split at found
  · cases found
  · obtain ⟨slug, -, held⟩ := Option.bind_eq_some_iff.mp found
    obtain ⟨row, stored, same⟩ := Option.map_eq_some_iff.mp held
    have met := List.find?_some stored
    rw [decide_eq_true_eq] at met
    exact ⟨row, List.mem_of_find?_eq_some stored, congrArg ResolvedTopic.id same, met.1⟩

theorem decidePlan_continues {intake planned : NotificationIntake} {around : Surroundings}
    (decided : decidePlan intake around = .ok planned) (known : intake.TopicsIn around.topics) :
    intake.Continues planned ∧ planned.TopicsIn around.topics := by
  obtain ⟨plan, made, stored⟩ := Checked.bind_eq_ok.mp decided
  obtain ⟨-, fields⟩ := NotificationIntake.withPlan_eq_ok.mp stored
  refine ⟨by constructor <;> rw [fields], fun topic listed => ?_⟩
  have project : planned.projectId = intake.projectId := by rw [fields]
  simp only [NotificationIntake.topics, fields, Option.bind_some, List.mem_append, Option.mem_toList] at listed
  rw [project]
  have client (named : intake.payload.topic = some topic) : topic ∈ intake.topics := by
    simp only [NotificationIntake.topics, named, Option.toList_some, List.singleton_append, List.mem_cons, true_or]
  rcases listed with named | chosen
  · exact known topic (client named)
  · -- the planned topic is the client's or the one the slug was found for
    rw [(assemblePlan_eq_ok made).2.1, planTopic_fst] at chosen
    cases named : intake.payload.topic with
    | some given =>
        rw [named, Option.orElse_some] at chosen
        exact known topic (client (named.trans chosen))
    | none =>
        rw [named, Option.orElse_none] at chosen
        exact consult_known chosen

theorem decideCall_twins (given : Given) {intake : NotificationIntake} (recipient : Recipient) :
    Program.Twins (Standing projectId id start start' intake) (decideCall given intake recipient)
      (fun planned => Standing projectId id start start' planned) (Holding projectId id start start') := by
  unfold decideCall
  dsimp only
  apply Program.Twins.bind (fun planned world other => Standing projectId id start start' intake world other ∧
    intake.Continues planned ∧ planned.TopicsIn world.topics)
  · apply Call.find_twins
    · rintro world other ⟨both, stands⟩
      unfold decidePlan
      simp only [stands.own, consult_eq both.agree both.right.sound]
    · rintro planned world other standing decided
      exact ⟨standing, decidePlan_continues decided standing.2.topics⟩
    · exact fun _ _ standing => standing.holding
  · intro planned
    apply Program.Twins.bind (fun _ => Standing projectId id start start' planned)
    · refine Program.Twins.transaction ?_ fun _ _ both => both.1.holding
      apply Program.Twins.modify
      rintro world other ⟨standing, continues, topics⟩
      exact standing.save continues topics
    · exact fun _ => Program.Twins.pure fun _ _ standing => standing

/-! ## Fan-out -/

structure Tables.OwnChild (tables : Tables) (projectId : Uuid) (given : Given) (child : Notification) : Prop where
  id : ∃ channel, child.id = (given.child channel).id
  project : child.projectId = projectId
  topic : ∀ topicId ∈ child.topicId, ∃ row ∈ tables.topics, row.id = topicId ∧ row.projectId = projectId

def Tables.FreshChildren (tables : Tables) (projectId : Uuid) (given : Given) : Prop :=
  ∀ channel, Unclaimed NotificationFields.id NotificationFields.projectId projectId (given.child channel).id
    tables.notifications

theorem makeChildren_own {processor : IntakeProcessor} {given : Given} {tables : Tables} {intake : NotificationIntake}
    {recipient : Recipient} {around : Surroundings} {children : List Notification}
    (made : processor.makeChildren intake recipient around = .ok children) (stands : tables.Stands projectId id intake)
    (readings : around.child = given.child) : ∀ child ∈ children, tables.OwnChild projectId given child := by
  intro child listed
  unfold IntakeProcessor.makeChildren at made
  split at made
  · cases made
  · rename_i plan planned
    obtain ⟨channel, -, one⟩ := mapM_mem made listed
    obtain ⟨fields, -⟩ := IntakeProcessor.makeChild_identity one
    refine ⟨⟨channel, by rw [fields, ← readings]; rfl⟩, by rw [fields]; exact stands.own, fun topicId named => ?_⟩
    have chosen : plan.topic.map (·.id) = some topicId := by
      rw [fields] at named
      exact named
    obtain ⟨topic, held, rfl⟩ := Option.map_eq_some_iff.mp chosen
    have listed : topic ∈ intake.topics := by
      simp only [NotificationIntake.topics, planned, Option.bind_some, held, Option.toList_some, List.mem_append,
        List.mem_singleton, or_true]
    obtain ⟨row, stored, same, own⟩ := stands.topics topic listed
    exact ⟨row, stored, same, own.trans stands.own⟩

/-- Saving goes by the primary key, and the constraints it can meet are the project's. -/
theorem Together.saveNotification {world other : World} (both : Together projectId start start' world other)
    {notification : Notification} (own : notification.projectId = projectId)
    (free : Unclaimed NotificationFields.id NotificationFields.projectId projectId notification.id world.notifications)
    (free' : Unclaimed NotificationFields.id NotificationFields.projectId projectId notification.id other.notifications)
    (linked : notification.id ∈ world.notifications.map (·.id) ∨
      ∀ topicId ∈ notification.topicId, ∃ row ∈ world.topics, row.id = topicId ∧ row.projectId = projectId) :
    (∃ error, world.saveNotification notification = .error error ∧ other.saveNotification notification = .error error) ∨
      ∃ later later', world.saveNotification notification = .ok later ∧ other.saveNotification notification = .ok later' ∧
        Together projectId start start' later later' ∧ later.intakes = world.intakes ∧ later.topics = world.topics := by
  have taken := both.agree.notifications.taken_iff free free'
  have unique : (∃ row ∈ world.notifications, row.id ≠ notification.id ∧ row.projectId = notification.projectId ∧
        row.transactionId = notification.transactionId ∧ row.channel = notification.channel) ↔
      ∃ row ∈ other.notifications, row.id ≠ notification.id ∧ row.projectId = notification.projectId ∧
        row.transactionId = notification.transactionId ∧ row.channel = notification.channel :=
    both.agree.notifications.exists_iff fun row same => same.2.1.trans own
  -- the key of the topic holds wherever it is checked
  have satisfied {state : World} (known : notification.id ∈ state.notifications.map (·.id) ∨
      ∀ topicId ∈ notification.topicId, ∃ row ∈ state.topics, row.id = topicId ∧ row.projectId = projectId) :
      ¬ (notification.id ∉ state.notifications.map (·.id) ∧
        ∃ topicId ∈ notification.topicId, topicId ∉ state.topics.map (·.id)) := by
    rintro ⟨fresh, topicId, named, absent⟩
    obtain ⟨row, stored, same, -⟩ := known.resolve_left fresh topicId named
    exact absent (List.mem_map.mpr ⟨row, stored, same⟩)
  have linked' : notification.id ∈ other.notifications.map (·.id) ∨
      ∀ topicId ∈ notification.topicId, ∃ row ∈ other.topics, row.id = topicId ∧ row.projectId = projectId := by
    refine linked.imp taken.mp fun known topicId named => ?_
    obtain ⟨row, stored, same, mine⟩ := known topicId named
    exact ⟨row, (both.agree.topics row mine).mp stored, same, mine⟩
  unfold World.saveNotification
  by_cases subject : notification.channel = .email ↔ notification.content.title ≠ none
  · rw [if_neg (not_not.mpr subject), if_neg (not_not.mpr subject)]
    by_cases doubled : ∃ row ∈ world.notifications, row.id ≠ notification.id ∧ row.projectId = notification.projectId ∧
        row.transactionId = notification.transactionId ∧ row.channel = notification.channel
    · rw [if_pos doubled, if_pos (unique.mp doubled)]
      exact .inl ⟨_, rfl, rfl⟩
    · rw [if_neg doubled, if_neg (mt unique.mpr doubled), if_neg (satisfied linked), if_neg (satisfied linked')]
      exact .inr ⟨_, _, rfl, rfl, both.putNotification own free free', rfl, rfl⟩
  · rw [if_pos subject, if_pos subject]
    exact .inl ⟨_, rfl, rfl⟩

theorem saveChildren_twins {given : Given} (fresh : start.FreshChildren projectId given)
    (fresh' : start'.FreshChildren projectId given) {intake : NotificationIntake} (children : List Notification) :
    Program.Twins (fun world other => Standing projectId id start start' intake world other ∧
        ∀ child ∈ children, world.OwnChild projectId given child) (saveChildren children)
      (fun _ => Standing projectId id start start' intake) (fun _ _ => True) := by
  induction children with
  | nil => exact Program.Twins.pure fun _ _ both => both.1
  | cons child rest ih =>
      unfold saveChildren
      dsimp only
      apply Program.Twins.bind (fun _ world other => Standing projectId id start start' intake world other ∧
        ∀ child ∈ rest, world.OwnChild projectId given child)
      · apply Call.write_twins
        · rintro world other ⟨⟨both, stands⟩, own⟩
          obtain ⟨⟨channel, named⟩, mine, topic⟩ := own child List.mem_cons_self
          have free := both.left.unclaimed_notification (fresh channel)
          have free' := both.right.unclaimed_notification (fresh' channel)
          rw [← named] at free free'
          rcases both.saveNotification mine free free' (.inr topic) with
            failed | ⟨later, later', left, right, together, intakes, topics⟩
          · exact .inl failed
          · refine .inr ⟨later, later', left, right, ⟨together, stands.id, stands.own, ?_, ?_⟩, fun child listed => ?_⟩
            · rw [Tables.HasIntake, intakes]
              exact stands.has
            · rw [topics]
              exact stands.topics
            · obtain ⟨id, mine, topic⟩ := own child (List.mem_cons_of_mem _ listed)
              exact ⟨id, mine, by rw [topics]; exact topic⟩
        · exact fun _ _ _ => trivial
      · intro _
        split
        · -- an announcement changes no table
          apply Program.Twins.bind _ _ fun _ => ih
          apply Program.Twins.modify
          rintro world other ⟨⟨both, stands⟩, own⟩
          exact ⟨⟨both.announce _, stands⟩, own⟩
        · exact ih

theorem fanOutCall_twins (processor : IntakeProcessor) {given : Given} (fresh : start.FreshChildren projectId given)
    (fresh' : start'.FreshChildren projectId given) {intake : NotificationIntake} (recipient : Recipient) :
    Program.Twins (Standing projectId id start start' intake) (fanOutCall processor given intake recipient)
      (fun _ => Together projectId start start') (Holding projectId id start start') := by
  unfold fanOutCall
  apply Program.Twins.bind (fun _ => Standing projectId id start start' intake)
  · apply Call.find_twins
    · rintro world other ⟨both, stands⟩
      rw [stands.own]
      exact both.agree.listByTransaction_eq both.left.sound both.right.sound intake.transactionId
    · exact fun _ _ _ standing _ => standing
    · exact fun _ _ standing => standing.holding
  · intro known
    apply Program.Twins.reading
    · rintro world other ⟨both, stands⟩
      rw [stands.own]
      exact both.agree.constraintOf_eq both.right.sound
    intro constraint
    apply Program.Twins.reading
    · rintro world other ⟨both, stands⟩
      rw [stands.own]
      cases intake.payload.templateId with
      | none => rfl
      | some templateId => exact both.agree.templateById_eq both.left.sound both.right.sound templateId
    intro template
    apply Program.Twins.checking (fun _ _ standing => standing.holding)
    intro children made
    refine Program.Twins.transaction ?_ fun _ _ standing => standing.holding
    apply Program.Twins.bind (fun _ => Standing projectId id start start' intake)
    · apply (saveChildren_twins fresh fresh' children).under
      exact fun world other standing => ⟨standing, makeChildren_own made standing.2 rfl⟩
    · intro _
      apply Program.Twins.checking (fun _ _ _ => trivial)
      intro completed done
      obtain ⟨continues, plan⟩ := NotificationIntake.complete_continues done
      apply Program.Twins.modify
      intro world other standing
      exact (standing.save continues (standing.2.topics.revise continues plan)).1

/-! ## The whole call -/

theorem carryOutCall_twins (processor : IntakeProcessor) {given : Given} (fresh : start.FreshChildren projectId given)
    (fresh' : start'.FreshChildren projectId given) {claimed : NotificationIntake} :
    Program.Twins (Standing projectId id start start' claimed) (carryOutCall processor given claimed)
      (fun _ => Together projectId start start') (Holding projectId id start start') := by
  unfold carryOutCall
  apply Program.Twins.reading
  · rintro world other ⟨both, stands⟩
    rw [stands.own]
    exact both.agree.recipientById_eq both.left.sound both.right.sound claimed.recipientId
  · rintro (_ | recipient)
    · exact Program.Twins.fail fun _ _ standing => standing.holding
    · dsimp only
      split
      · apply Program.Twins.bind _ (decideCall_twins given recipient)
        exact fun planned => fanOutCall_twins processor fresh fresh' recipient
      · apply Program.Twins.bind (fun planned => Standing projectId id start start' planned)
        · exact Program.Twins.pure fun _ _ standing => standing
        · exact fun planned => fanOutCall_twins processor fresh fresh' recipient

theorem processCall_twins (processor : IntakeProcessor) {given : Given} (fresh : start.FreshChildren projectId given)
    (fresh' : start'.FreshChildren projectId given) :
    Program.Twins (Holding projectId id start start') (processCall processor given id)
      (fun _ => Together projectId start start') (Together projectId start start') := by
  unfold processCall
  apply Program.Twins.bind _ (claimCall_twins processor given)
  rintro (_ | claimed)
  · exact Program.Twins.pure fun _ _ both => both.1
  · have standing (world other : World) (both : Together projectId start start' world other ∧
        ∀ intake, some claimed = some intake → world.Stands projectId id intake) :
        Standing projectId id start start' claimed world other := ⟨both.1, both.2 claimed rfl⟩
    apply Program.Twins.under _ standing
    apply Program.Twins.given fun _ _ standing => standing.2.id
    rintro rfl
    dsimp only
    split
    · exact (failCall_twins given _).under fun _ _ standing => standing.holding
    · apply Program.Twins.rescue _ (carryOutCall_twins processor fresh fresh')
      intro error
      split
      · exact failCall_twins given _
      · exact Program.Twins.fail fun _ _ both => both.1

end Process

end Tiber
