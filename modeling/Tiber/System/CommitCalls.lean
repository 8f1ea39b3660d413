import Tiber.Library.Triples
import Tiber.System.Commits
import Tiber.System.TenantDelivery

/-! Every call commits what `Commit` allows, whether it returns or fails. -/

set_option autoImplicit false

namespace Tiber

open Library

/-! ## Statements -/

namespace Call

variable {α : Type} {before : World → Prop} {failing : World → Prop}

theorem find_triple {query : Tables → Checked α} (fails : ∀ world, before world → failing world) :
    Program.Triple before (Call.find query) (fun value world => before world ∧ query world.toTables = .ok value)
      failing := by
  apply Program.Triple.statement _ fails
  intro world value later met ran
  cases found : query world.toTables with
  | error error => rw [found] at ran; cases ran
  | ok read =>
      rw [found] at ran
      cases ran
      exact ⟨met, found⟩

theorem write_triple {change : World → Checked World} {after : World → Prop}
    (holds : ∀ world later, before world → change world = .ok later → after later)
    (fails : ∀ world, before world → failing world) : Program.Triple before (Call.write change) (fun _ => after) failing := by
  apply Program.Triple.statement _ fails
  intro world value later met ran
  cases done : change world with
  | error error => rw [done] at ran; cases ran
  | ok changed =>
      rw [done] at ran
      cases ran
      exact holds world _ met done

end Call

section Writes

variable {world later : World}

theorem World.saveNotification_eq_ok {notification : Notification}
    (stored : world.saveNotification notification = .ok later) :
    later = { world with
      notifications := upsert NotificationFields.id notification.toNotificationFields world.notifications } := by
  unfold World.saveNotification at stored
  split at stored
  · cases stored
  · split at stored
    · cases stored
    · split at stored
      · cases stored
      · cases stored
        rfl

theorem World.storeRecipient_eq_ok {write : RecipientWrite} (stored : world.storeRecipient write = .ok later) :
    ∃ recipients, later = { world with recipients } := by
  unfold World.storeRecipient at stored
  split at stored
  · cases stored
    exact ⟨_, rfl⟩
  · cases stored

theorem World.insertIntake_eq_ok {intake : NotificationIntake} (stored : world.insertIntake intake = .ok later) :
    later = { world with intakes := intake :: world.intakes } ∧ intake.id ∉ world.intakes.map (·.id) ∧
      ¬ ∃ row ∈ world.intakes, row.projectId = intake.projectId ∧ row.transactionId = intake.transactionId := by
  unfold World.insertIntake at stored
  split at stored
  · cases stored
  · rename_i fresh
    split at stored
    · cases stored
    · rename_i free
      cases stored
      exact ⟨rfl, fresh, free⟩

theorem Tables.notificationById_mem {tables : Tables} {id projectId : Uuid} {loaded : Notification}
    (found : tables.notificationById id projectId = .ok (some loaded)) :
    loaded.toNotificationFields ∈ tables.notifications := by
  unfold Tables.notificationById at found
  cases stored : (tables.notifications.find? fun row => row.id = id).filter fun row => row.projectId = projectId with
  | none =>
      rw [stored] at found
      cases found
  | some row =>
      rw [stored] at found
      obtain ⟨notification, built, same⟩ := Checked.bind_eq_ok.mp found
      cases same
      rw [Notification.build_eq_ok.mp built]
      exact List.mem_of_find?_eq_some (Option.filter_eq_some_iff.mp stored).1

end Writes

/-! ## Accepting -/

/-- A new intake is untouched and carries the request, its place in the outbox goes by its category, and nobody
has its key. -/
structure NewIntake (tables : Tables) (runtime : Runtime) (command : AcceptNotificationCommand)
    (intake : NotificationIntake) (priority : OutboxPriority) : Prop where
  received : intake.status = .received
  queued : priority = intake.outboxPriority
  project : intake.projectId = command.projectId
  key : intake.idempotencyKey = command.idempotencyKey
  fingerprint : intake.requestFingerprint = runtime.fingerprint command
  unkeyed : ∀ row ∈ tables.intakes, ∀ key, intake.idempotencyKey = some key → ¬ row.Keyed intake.projectId key

theorem accepting_new {tables : Tables} {runtime : Runtime} {command : AcceptNotificationCommand} {minted : Minted}
    {intake : NotificationIntake} {write : RecipientWrite} {priority : OutboxPriority}
    (accepted : tables.accepting runtime command minted = .ok (.created intake write priority)) :
    NewIntake tables runtime command intake priority := by
  unfold Tables.accepting at accepted
  rcases done : accept runtime tables.registry command minted with error | (answer | creation) <;>
    rw [done] at accepted <;> cases accepted
  obtain ⟨-, fresh, intakes, expanded, added, same⟩ := accept_created done
  obtain ⟨project, key, fingerprint⟩ := expand_identity expanded
  have queued : creation.priority = creation.intake.outboxPriority := by
    rw [same]
    simp only [expand, Checked.bind_eq_ok, Prod.exists] at expanded
    obtain ⟨topic, -, template, -, recipient, after, -, constraints, -, payload, built, made, stored, kept⟩ := expanded
    cases kept
    rw [NotificationIntake.outboxPriority, NotificationIntake.build_eq_ok.mp stored]
    dsimp only
    rw [IntakePayload.build_eq_ok.mp built]
    rfl
  have received := (expand_established expanded).received.1
  have unkeyed := (addIntake_eq_ok added).2
  refine ⟨?_, queued, ?_, ?_, ?_, ?_⟩ <;> rw [same]
  · exact received
  · exact project
  · exact key
  · exact fingerprint
  · exact fun row stored key named => unkeyed key named row stored

/-- What accepting leaves: an earlier request found again, or a new one stored and announced. -/
inductive Accepts (start : World) (runtime : Runtime) (command : AcceptNotificationCommand) :
    AcceptedIntake → World → Prop where
  | replayed {key : Text} {intake : NotificationIntake} (named : command.idempotencyKey = some key)
      (stored : intake ∈ start.intakes) (keyed : intake.Keyed command.projectId key)
      (same : intake.requestFingerprint = runtime.fingerprint command) :
      Accepts start runtime command ⟨intake.transactionId, intake.projectId, true⟩ start
  | created {intake : NotificationIntake} {recipients : List Recipient}
      (new : NewIntake start.toTables runtime command intake intake.outboxPriority)
      (fresh : intake.id ∉ start.intakes.map (·.id))
      (free : ¬ ∃ row ∈ start.intakes, row.projectId = intake.projectId ∧ row.transactionId = intake.transactionId) :
      Accepts start runtime command ⟨intake.transactionId, intake.projectId, false⟩
        (({ start with recipients, intakes := intake :: start.intakes } : World).announce
          (enqueueIntake intake intake.outboxPriority))

theorem Accepts.committed {start world : World} {runtime : Runtime} {command : AcceptNotificationCommand}
    {answer : AcceptedIntake} (accepts : Accepts start runtime command answer world) : Committed start world := by
  cases accepts with
  | replayed => exact .refl _
  | created new fresh free => exact (Committed.refl start).step (.accept new.received fresh free new.unkeyed)

theorem replay_eq_known {runtime : Runtime} {intakes : List NotificationIntake} {command : AcceptNotificationCommand}
    {answer : AcceptedIntake} (found : replay runtime intakes command = .ok (some answer)) :
    ∃ key, command.idempotencyKey = some key ∧ ∃ intake ∈ intakes, intake.Keyed command.projectId key ∧
      intake.requestFingerprint = runtime.fingerprint command ∧
      answer = ⟨intake.transactionId, intake.projectId, true⟩ := by
  unfold replay at found
  split at found
  · cases found
  · rename_i intake stored
    obtain ⟨key, named, stored⟩ := Option.bind_eq_some_iff.mp stored
    obtain ⟨member, keyed⟩ := byIdempotencyKey_eq_some stored
    split at found
    · cases found
    · rename_i agrees
      cases found
      exact ⟨key, named, intake, member, keyed, not_not.mp agrees, rfl⟩

theorem accepting_replayed {tables : Tables} {runtime : Runtime} {command : AcceptNotificationCommand} {minted : Minted}
    {answer : AcceptedIntake} (accepted : tables.accepting runtime command minted = .ok (.replayed answer)) :
    replay runtime tables.intakes command = .ok (some answer) := by
  unfold Tables.accepting at accepted
  rcases done : accept runtime tables.registry command minted with error | (known | creation) <;>
    rw [done] at accepted <;> cases accepted
  simp only [accept, Checked.bind_eq_ok] at done
  obtain ⟨known, found, done⟩ := done
  split at done
  · cases done
    exact found
  · obtain ⟨fresh, expanded, stored⟩ := Checked.bind_eq_ok.mp done
    split at stored
    · cases stored
    · obtain ⟨again, found, ended⟩ := Checked.bind_eq_ok.mp stored
      split at ended
      · cases ended
        exact found
      · cases ended

/-- A request that finds its key again is answered from the stored intake. -/
theorem acceptCall_known {runtime : Runtime} {command : AcceptNotificationCommand} {world : World} {answer : AcceptedIntake}
    (found : replay runtime world.intakes command = .ok (some answer)) (minted : Minted) :
    acceptCall runtime command minted world = (.ok answer, world) := by
  have known : accept runtime world.registry command minted = .ok (.replayed answer) := by
    unfold accept
    rw [show replay runtime world.registry.intakes command = _ from found]
    rfl
  have accepted : world.accepting runtime command minted = .ok (.replayed answer) := by
    rw [Tables.accepting, known]
    rfl
  simp only [acceptCall, Program.transaction, Bind.bind, Call.find, Program.statement, accepted, Except.map]
  rfl

theorem acceptCall_conflicting {runtime : Runtime} {command : AcceptNotificationCommand} {world : World} {error : PyError}
    (found : replay runtime world.intakes command = .error error) (minted : Minted) :
    acceptCall runtime command minted world = (.error error, world) := by
  have known : accept runtime world.registry command minted = .error error := by
    unfold accept
    rw [show replay runtime world.registry.intakes command = _ from found]
    rfl
  have refused : world.accepting runtime command minted = .error error := by
    rw [Tables.accepting, known]
    rfl
  simp only [acceptCall, Program.transaction, Bind.bind, Call.find, Program.statement, refused, Except.map]

theorem acceptCall_accepts (runtime : Runtime) (command : AcceptNotificationCommand) (minted : Minted) (start : World) :
    Program.Triple (fun world => world = start) (acceptCall runtime command minted) (Accepts start runtime command)
      (fun world => world = start) := by
  refine Program.Triple.transaction ?_ fun _ same => same
  apply Program.Triple.bind _ (Call.find_triple fun _ _ => trivial)
  rintro (answer | ⟨intake, write, priority⟩)
  · apply Program.Triple.pure
    rintro _ ⟨rfl, accepted⟩
    obtain ⟨key, named, intake, stored, keyed, same, rfl⟩ := replay_eq_known (accepting_replayed accepted)
    exact .replayed named stored keyed same
  · apply Program.Triple.given fun _ met => met.1 ▸ accepting_new met.2
    intro new
    obtain rfl := new.queued
    apply Program.Triple.bind fun _ world => ∃ recipients, world = { start with recipients }
    · apply Call.write_triple _ fun _ _ => trivial
      rintro _ later ⟨rfl, -⟩ stored
      exact World.storeRecipient_eq_ok stored
    intro _
    apply Program.Triple.bind fun _ world => ∃ recipients,
      world = { start with recipients, intakes := intake :: start.intakes } ∧ intake.id ∉ start.intakes.map (·.id) ∧
        ¬ ∃ row ∈ start.intakes, row.projectId = intake.projectId ∧ row.transactionId = intake.transactionId
    · apply Call.write_triple _ fun _ _ => trivial
      rintro _ later ⟨recipients, rfl⟩ stored
      obtain ⟨rfl, fresh, free⟩ := World.insertIntake_eq_ok stored
      exact ⟨recipients, rfl, fresh, free⟩
    intro _
    apply Program.Triple.bind fun _ => Accepts start runtime command ⟨intake.transactionId, intake.projectId, false⟩
    · apply Program.Triple.modify
      rintro _ ⟨recipients, rfl, fresh, free⟩
      exact .created new fresh free
    · exact fun _ => Program.Triple.pure fun _ accepts => accepts

theorem acceptCall_commits (runtime : Runtime) (command : AcceptNotificationCommand) (minted : Minted) (start : World) :
    Program.Triple (fun world => world = start) (acceptCall runtime command minted) (fun _ => Committed start)
      (Committed start) := by
  intro world met
  obtain ⟨returned, failed⟩ := acceptCall_accepts runtime command minted start world met
  exact ⟨fun answer ran => (returned answer ran).committed, fun error ran => failed error ran ▸ .refl _⟩

/-! ## Processing -/

structure Underway (start world : World) : Prop where
  committed : Committed start world
  childless : world.notifications = start.notifications

theorem Underway.refl (start : World) : Underway start start := ⟨.refl start, rfl⟩

def World.Works (world : World) (intake : NotificationIntake) : Prop := intake ∈ world.intakes ∧ intake.status = .processing

theorem World.saveIntake_mem (world : World) (intake : NotificationIntake) : intake ∈ (world.saveIntake intake).intakes :=
  mem_upsert.mpr (.inl rfl)

theorem Underway.revise {start world : World} {intake revised : NotificationIntake} (underway : Underway start world)
    (stored : intake ∈ world.intakes) (revises : revised.Revises intake)
    (planned : revised.plan = intake.plan ∨ intake.plan = none)
    (live : intake.status = .received ∨ intake.status = .processing)
    (onward : revised.status = .processing ∨ revised.status = .failed) : Underway start (world.saveIntake revised) :=
  ⟨underway.committed.step (.revise stored revises planned live onward), underway.childless⟩

theorem NotificationIntake.live_of_claimable {intake : NotificationIntake} {now : Instant} {lease : Int}
    (claimable : intake.isClaimable now lease = true) : intake.status = .received ∨ intake.status = .processing := by
  unfold isClaimable at claimable
  cases status : intake.status <;> rw [status] at claimable
  · exact .inl rfl
  · exact .inr rfl
  · cases claimable
  · cases claimable

theorem claimCall_commits (processor : IntakeProcessor) (given : Given) (intakeId : Uuid) (start : World) :
    Program.Triple (fun world => world = start) (claimCall processor given intakeId)
      (fun claimed world => Underway start world ∧ ∀ intake ∈ claimed, world.Works intake) (Committed start) := by
  refine Program.Triple.transaction ?_ (by rintro _ rfl; exact .refl _)
  apply Program.Triple.reading
  rintro (_ | intake)
  · apply Program.Triple.pure
    rintro _ ⟨rfl, -⟩
    exact ⟨.refl _, fun _ found => by cases found⟩
  · dsimp only
    split
    · rename_i claimable
      apply Program.Triple.checking fun _ _ => trivial
      intro claimed done
      have fields := (NotificationIntake.claim_eq_ok.mp done).2
      apply Program.Triple.bind fun _ world => Underway start world ∧ world.Works claimed
      · apply Program.Triple.modify
        rintro _ ⟨rfl, found⟩
        refine ⟨(Underway.refl _).revise (List.mem_of_find?_eq_some found) ?_ (.inl (by rw [fields]))
          (NotificationIntake.live_of_claimable claimable) (.inl (by rw [fields])), World.saveIntake_mem _ _, by rw [fields]⟩
        rw [NotificationIntake.Revises, fields]
      · intro _
        apply Program.Triple.pure
        rintro world ⟨underway, works⟩
        refine ⟨underway, ?_⟩
        rintro _ ⟨⟩
        exact works
    · apply Program.Triple.pure
      rintro _ ⟨rfl, -⟩
      exact ⟨.refl _, fun _ found => by cases found⟩

theorem failCall_commits (given : Given) (intakeId : Uuid) (reason : String) (start : World) :
    Program.Triple (Committed start) (failCall given intakeId reason) (fun _ => Committed start) (Committed start) := by
  refine Program.Triple.transaction ?_ fun _ committed => committed
  apply Program.Triple.reading
  rintro (_ | current)
  · exact Program.Triple.pure fun _ met => met.1
  · dsimp only
    split
    · exact Program.Triple.pure fun _ met => met.1
    · apply Program.Triple.checking fun _ _ => trivial
      intro failed done
      obtain ⟨live, -, fields⟩ := NotificationIntake.fail_eq_ok.mp done
      apply Program.Triple.modify
      rintro world ⟨committed, found⟩
      refine committed.step (.revise (List.mem_of_find?_eq_some found) ?_ (.inl (by rw [fields])) live (.inr (by rw [fields])))
      rw [NotificationIntake.Revises, fields]

theorem decideCall_commits (given : Given) {intake : NotificationIntake} (recipient : Recipient)
    (unplanned : intake.plan = none) (start : World) :
    Program.Triple (fun world => Underway start world ∧ world.Works intake) (decideCall given intake recipient)
      (fun planned world => Underway start world ∧ world.Works planned) (Committed start) := by
  unfold decideCall
  dsimp only
  apply Program.Triple.bind _ (Call.find_triple fun _ met => met.1.committed)
  intro planned
  apply Program.Triple.bind fun _ world => Underway start world ∧ world.Works planned
  · refine Program.Triple.transaction ?_ fun _ met => met.1.1.committed
    apply Program.Triple.modify
    rintro world ⟨⟨underway, stored, processing⟩, decided⟩
    obtain ⟨plan, -, kept⟩ := Checked.bind_eq_ok.mp decided
    have fields := (NotificationIntake.withPlan_eq_ok.mp kept).2
    have status : planned.status = .processing := by rw [fields]; exact processing
    refine ⟨underway.revise stored ?_ (.inr unplanned) (.inr processing) (.inl status), World.saveIntake_mem _ _, status⟩
    rw [NotificationIntake.Revises, fields]
  · exact fun _ => Program.Triple.pure fun _ met => met

/-! ## Fan-out -/

theorem resolveContent_eq_ok {notification : Notification} {template : Option Template} {content : NotificationContent}
    (known : ∀ row ∈ template, notification.templateId = some row.id ∧ row.projectId = notification.projectId)
    (resolved : resolveContent notification template = .ok content) :
    notification.templateId = none ∧ content = notification.content ∨
      notification.toNotificationFields.Rendering content := by
  unfold resolveContent at resolved
  split at resolved
  · rename_i direct
    exact .inl ⟨direct, (Except.ok.inj resolved).symm⟩
  · rename_i templateId named
    split at resolved
    · cases resolved
    · rename_i row
      obtain ⟨same, own⟩ := known row rfl
      split at resolved
      · cases resolved
      · rename_i variant found
        exact .inr ⟨row, variant, same, own, found, resolved⟩

theorem Tables.template_known {tables : Tables} {templateId : Option Uuid} {projectId : Uuid} {row : Template}
    (found : (templateId.bind fun id => tables.templateById id projectId) = some row) :
    templateId = some row.id ∧ row.projectId = projectId := by
  obtain ⟨id, named, held⟩ := Option.bind_eq_some_iff.mp found
  obtain ⟨stored, own⟩ := Option.filter_eq_some_iff.mp held
  have same := List.find?_some stored
  rw [decide_eq_true_eq] at same own
  exact ⟨by rw [named, same], own⟩

theorem NotificationFields.Rendering.of_eq {row other : NotificationFields} {content : NotificationContent}
    (rendering : row.Rendering content) (template : other.templateId = row.templateId)
    (project : other.projectId = row.projectId) (channel : other.channel = row.channel)
    (mapping : other.templateVariables = row.templateVariables) : other.Rendering content := by
  unfold NotificationFields.Rendering
  rw [template, project, channel, mapping]
  exact rendering

/-- A child says the content of its request, or what its template says. -/
theorem childContent_says {intake : NotificationIntake} {plan : NotificationPlan} {channel : DeliveryChannel}
    {template : Option Template} {readings : ChildReadings} {child : Notification}
    (known : ∀ row ∈ template, intake.payload.templateId = some row.id ∧ row.projectId = intake.projectId)
    (made : childContent intake plan channel template readings = .ok child) :
    intake.Says child.toNotificationFields child.content := by
  unfold childContent at made
  split at made
  · rename_i templateId named
    simp only [Checked.bind_eq_ok] at made
    obtain ⟨provisional, created, content, resolved, rendered⟩ := made
    have fields := Notification.build_eq_ok.mp created
    have written := Notification.withContent_eq_ok.mp rendered
    have same : provisional.templateId = intake.payload.templateId := by rw [fields]; rfl
    have own : provisional.projectId = intake.projectId := by rw [fields]; rfl
    refine ⟨fun absent => absurd (named.symm.trans absent) (Option.some_ne_none _), fun _ => ?_⟩
    rcases resolveContent_eq_ok (by rw [same, own]; exact known) resolved with ⟨absent, -⟩ | rendering
    · rw [same, named] at absent
      cases absent
    · have here : child.content = content := by rw [written]
      rw [here]
      refine rendering.of_eq ?_ ?_ ?_ ?_ <;> rw [written]
  · rename_i direct
    refine ⟨fun _ => ?_, fun named => absurd direct named⟩
    split at made
    · cases made
    · rename_i content given
      obtain ⟨-, -, created⟩ := Checked.bind_eq_ok.mp made
      rw [given, Notification.build_eq_ok.mp created]
      rfl

theorem makeChild_childOf {processor : IntakeProcessor} {intake : NotificationIntake} {plan : NotificationPlan}
    {recipient : Recipient} {around : Surroundings} {channel : DeliveryChannel} {child : Notification}
    (known : ∀ row ∈ around.template, intake.payload.templateId = some row.id ∧ row.projectId = intake.projectId)
    (planned : channel ∈ plan.channels) (made : processor.makeChild intake plan recipient around channel = .ok child) :
    ChildOf intake plan child.toNotificationFields := by
  obtain ⟨fields, -⟩ := IntakeProcessor.makeChild_identity made
  obtain ⟨created, creating, named, same⟩ := IntakeProcessor.makeChild_created made
  have told := childContent_says known creating
  have first := childContent_fields creating
  constructor
  case channel => rw [named]; exact planned
  case content =>
    rw [same]
    refine ⟨told.direct, fun referenced => (told.rendered referenced).of_eq ?_ ?_ ?_ ?_⟩ <;> rw [fields, first] <;> rfl
  all_goals rw [fields]; rfl

theorem makeChildren_brood {processor : IntakeProcessor} {given : Given} {tables : Tables} {intake : NotificationIntake}
    {recipient : Recipient} {around : Surroundings} {plan : NotificationPlan} {children : List Notification}
    (readings : around.child = given.child) (stored : intake.plan = some plan)
    (known : ∀ row ∈ around.template, intake.payload.templateId = some row.id ∧ row.projectId = intake.projectId)
    (existing : ∀ channel, channel ∈ around.existing ↔ channel ∈ (tables.offspring intake).map (·.channel))
    (fresh : ∀ channel, (given.child channel).id ∉ tables.notifications.map (·.id))
    (distinct : Function.Injective fun channel => (given.child channel).id)
    (made : processor.makeChildren intake recipient around = .ok children) : Brood tables intake plan children := by
  unfold IntakeProcessor.makeChildren at made
  rw [stored] at made
  dsimp only at made
  have paired := mapM_eq_ok made
  have single (child : Notification) (listed : child ∈ children) : ∃ channel ∈ plan.channels,
      channel ∉ around.existing ∧ processor.makeChild intake plan recipient around channel = .ok child := by
    obtain ⟨channel, chosen, one⟩ := mapM_mem made listed
    obtain ⟨planned, missing⟩ := List.mem_filter.mp chosen
    exact ⟨channel, planned, of_decide_eq_true missing, one⟩
  -- the channels and the ids of the batch, in the order of the plan
  have channels : children.map (·.channel) = plan.channels.filter fun channel => decide (channel ∉ around.existing) := by
    have named : List.Forall₂ (· = ·) (plan.channels.filter fun channel => decide (channel ∉ around.existing))
        (children.map (·.channel)) := by
      rw [List.forall₂_map_right_iff]
      apply paired.imp
      intro channel child one
      rw [(IntakeProcessor.makeChild_identity one).1]
      rfl
    rw [List.forall₂_eq_eq_eq] at named
    exact named.symm
  have ids : children.map (·.id) = (children.map (·.channel)).map fun channel => (given.child channel).id := by
    rw [List.map_map]
    apply List.map_congr_left
    intro child listed
    obtain ⟨channel, -, -, one⟩ := single child listed
    rw [Function.comp_apply, (IntakeProcessor.makeChild_identity one).1, ← readings]
    rfl
  have once : (children.map (·.channel)).Nodup := by
    rw [channels]
    exact plan.channels_nodup.filter _
  constructor
  · intro channel
    rw [channels, List.mem_filter, decide_eq_true_eq, existing]
  · exact once
  · intro child listed
    obtain ⟨channel, planned, -, one⟩ := single child listed
    exact makeChild_childOf known planned one
  · intro child listed
    obtain ⟨channel, -, -, one⟩ := single child listed
    exact (IntakeProcessor.makeChild_identity one).2
  · rw [ids]
    exact once.map distinct
  · intro child listed
    obtain ⟨channel, -, -, one⟩ := single child listed
    rw [(IntakeProcessor.makeChild_identity one).1, show around.child channel = given.child channel by rw [readings]]
    exact fresh channel

theorem dispatchRows_cons (child : Notification) (rest : List Notification) :
    dispatchRows (child :: rest) = (if child.announced then [enqueueDispatch child] else []) ++ dispatchRows rest := by
  unfold dispatchRows
  rw [List.filter_cons]
  split <;> rfl

theorem saveChildren_bears (children : List Notification) (start : World) :
    Program.Triple (fun world => world = start) (saveChildren children) (fun _ world => world = start.bear children)
      fun _ => True := by
  induction children generalizing start with
  | nil =>
      apply Program.Triple.pure
      rintro _ rfl
      simp [World.bear, dispatchRows]
  | cons child rest ih =>
      apply Program.Triple.bind fun _ world => world = { start with
        notifications := upsert NotificationFields.id child.toNotificationFields start.notifications }
      · apply Call.write_triple _ fun _ _ => trivial
        rintro _ later rfl stored
        exact World.saveNotification_eq_ok stored
      · intro _
        dsimp only
        split
        · rename_i told
          apply Program.Triple.bind fun _ world => world = { start with
            notifications := upsert NotificationFields.id child.toNotificationFields start.notifications
            announced := start.announced ++ [enqueueDispatch child] }
          · apply Program.Triple.modify
            rintro _ rfl
            rfl
          · intro _
            apply (ih _).relaxed
            rintro _ _ rfl
            simp [World.bear, dispatchRows_cons, told]
        · rename_i silent
          apply (ih _).relaxed
          rintro _ _ rfl
          simp [World.bear, dispatchRows_cons, silent]

/-- The channels that are read back are those of the request's rows. -/
theorem listByTransaction_channels {tables : Tables} {intake : NotificationIntake} {known : List Notification}
    (listed : tables.listByTransaction intake.transactionId intake.projectId = .ok known) (channel : DeliveryChannel) :
    channel ∈ (known.map (·.channel)).toFinset ↔ channel ∈ (tables.offspring intake).map (·.channel) := by
  simp only [List.mem_toFinset, List.mem_map]
  constructor
  · rintro ⟨notification, there, rfl⟩
    obtain ⟨row, stored, built⟩ := mapM_mem listed there
    exact ⟨row, (List.mem_insertionSort _).mp stored, by rw [Notification.build_eq_ok.mp built]⟩
  · rintro ⟨row, stored, rfl⟩
    obtain ⟨notification, there, built⟩ := mapM_has listed ((List.mem_insertionSort NotificationFields.Older).mpr stored)
    exact ⟨notification, there, by rw [Notification.build_eq_ok.mp built]⟩

structure World.Mints (world : World) (given : Given) : Prop where
  fresh : ∀ channel, (given.child channel).id ∉ world.notifications.map (·.id)
  distinct : Function.Injective fun channel => (given.child channel).id

theorem fanOutCall_commits (processor : IntakeProcessor) {given : Given} (intake : NotificationIntake)
    (recipient : Recipient) {start : World} (mints : start.Mints given) :
    Program.Triple (fun world => Underway start world ∧ world.Works intake) (fanOutCall processor given intake recipient)
      (fun _ => Committed start) (Committed start) := by
  unfold fanOutCall
  apply Program.Triple.bind _ (Call.find_triple fun _ met => met.1.committed)
  intro known
  apply Program.Triple.reading
  intro constraint
  apply Program.Triple.reading
  intro template
  apply Program.Triple.checking fun _ met => met.1.1.1.1.committed
  intro children made
  refine Program.Triple.transaction ?_ fun _ met => met.1.1.1.1.committed
  apply Program.Triple.each
  rintro world ⟨⟨⟨⟨underway, stored, processing⟩, listed⟩, -⟩, found⟩
  apply Program.Triple.bind _ (saveChildren_bears children world)
  intro _
  apply Program.Triple.checking fun _ _ => trivial
  intro completed done
  apply Program.Triple.modify
  rintro _ rfl
  obtain ⟨-, planned, fields⟩ := NotificationIntake.complete_eq_ok.mp done
  obtain ⟨plan, planned⟩ := Option.ne_none_iff_exists'.mp planned
  have brood : Brood world.toTables intake plan children := by
    refine makeChildren_brood rfl planned ?_ (listByTransaction_channels listed) ?_ mints.distinct made
    · rintro row ⟨⟩
      exact Tables.template_known found
    · rw [underway.childless]
      exact mints.fresh
  refine underway.committed.step (.fanOut stored processing planned brood ?_ (by rw [fields]) (by rw [fields]))
  rw [NotificationIntake.Revises, fields]

theorem carryOutCall_commits (processor : IntakeProcessor) {given : Given} (claimed : NotificationIntake) {start : World}
    (mints : start.Mints given) :
    Program.Triple (fun world => Underway start world ∧ world.Works claimed) (carryOutCall processor given claimed)
      (fun _ => Committed start) (Committed start) := by
  unfold carryOutCall
  apply Program.Triple.reading
  rintro (_ | recipient)
  · exact Program.Triple.fail fun _ met => met.1.1.committed
  · dsimp only
    split
    · rename_i unplanned
      apply Program.Triple.bind _ ((decideCall_commits given recipient unplanned start).under fun _ met => met.1)
      exact fun planned => fanOutCall_commits processor planned recipient mints
    · exact (fanOutCall_commits processor claimed recipient mints).under fun _ met => met.1

theorem processCall_commits (processor : IntakeProcessor) {given : Given} (intakeId : Uuid) {start : World}
    (mints : start.Mints given) :
    Program.Triple (fun world => world = start) (processCall processor given intakeId) (fun _ => Committed start)
      (Committed start) := by
  unfold processCall
  apply Program.Triple.bind _ (claimCall_commits processor given intakeId start)
  rintro (_ | claimed)
  · exact Program.Triple.pure fun _ met => met.1.committed
  · have works (world : World) (met : Underway start world ∧ ∀ intake ∈ some claimed, world.Works intake) :
        Underway start world ∧ world.Works claimed := ⟨met.1, met.2 claimed rfl⟩
    dsimp only
    split
    · exact (failCall_commits given _ _ start).under fun _ met => met.1.committed
    · apply Program.Triple.rescue (Committed start) ((carryOutCall_commits processor claimed mints).under works)
      intro error
      cases IntakeProcessor.failureReason error with
      | none => exact Program.Triple.fail fun _ committed => committed
      | some reason => exact failCall_commits given _ reason start

end Tiber
