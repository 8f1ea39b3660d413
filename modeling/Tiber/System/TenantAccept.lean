import Tiber.System.Tenants

/-! Accepting a request: what it looks up and what it writes are its own project's. -/

set_option autoImplicit false

namespace Tiber

open Library

/-! ## Look-ups of a request -/

section Lookups

variable {tables others : Tables} {runtime : Runtime} {command : AcceptNotificationCommand} {minted : Minted}

theorem Tables.AgreeOn.byIdempotencyKey_eq {projectId : Uuid} (agree : tables.AgreeOn projectId others)
    (sound' : others.Sound) (key : Text) :
    byIdempotencyKey tables.intakes projectId key = byIdempotencyKey others.intakes projectId key :=
  agree.intakes.find?_eq (fun _ both => both.1) (sound'.idempotencyKeys projectId key)

theorem replay_eq (agree : tables.AgreeOn command.projectId others) (sound' : others.Sound) :
    replay runtime tables.intakes command = replay runtime others.intakes command := by
  unfold replay
  cases command.idempotencyKey with
  | none => rfl
  | some key => rw [Option.bind_some, Option.bind_some, agree.byIdempotencyKey_eq sound' key]

theorem requireTopic_eq (agree : tables.AgreeOn command.projectId others) (sound' : others.Sound) :
    requireTopic tables.topics command = requireTopic others.topics command := by
  unfold requireTopic
  cases command.topicSlug with
  | none => rfl
  | some slug => simp only [agree.topics.find?_eq (fun _ both => both.1) (sound'.topicSlugs command.projectId slug)]

theorem requireTemplate_eq (agree : tables.AgreeOn command.projectId others) (sound' : others.Sound) :
    requireTemplate tables.templates command = requireTemplate others.templates command := by
  unfold requireTemplate
  cases command.templateSlug with
  | none => rfl
  | some slug =>
      simp only [agree.templates.find?_eq (fun _ both => both.1) (sound'.templateSlugs command.projectId slug)]

theorem findByAddresses_perm (agree : tables.AgreeOn command.projectId others) (sound : tables.Sound)
    (sound' : others.Sound) (addresses : Addresses) :
    (findByAddresses tables.recipients command.projectId addresses).Perm
      (findByAddresses others.recipients command.projectId addresses) :=
  agree.recipients.filter_perm (fun _ all => all.1) (List.Nodup.of_map _ sound.recipients)
    (List.Nodup.of_map _ sound'.recipients)

theorem extend_fst (recipients rows : List Recipient) (existing : Recipient) (supplied : Addresses) (now : Instant) :
    (extend recipients existing supplied now).map Prod.fst = (extend rows existing supplied now).map Prod.fst := by
  simp only [extend]
  split
  · rfl
  · split
    · rfl
    · cases existing.updateAddresses (fun channel => (existing.addresses channel).orElse fun _ => supplied channel) now
      · rfl
      · rfl

theorem resolveAdhoc_fst (agree : tables.AgreeOn command.projectId others) (sound : tables.Sound)
    (sound' : others.Sound) (addresses : Addresses) :
    (resolveAdhoc runtime tables.recipients command.projectId addresses minted).map Prod.fst =
      (resolveAdhoc runtime others.recipients command.projectId addresses minted).map Prod.fst := by
  unfold resolveAdhoc
  split
  · rfl
  · rcases perm_eq_or_many (findByAddresses_perm agree sound sound' (normalizeAddresses runtime addresses)) with
      same | ⟨⟨_, _, _, left⟩, _, _, _, right⟩
    · simp only [same]
      split
      · cases Recipient.create command.projectId (normalizeAddresses runtime addresses) minted
        · rfl
        · rfl
      · apply extend_fst
      · rfl
    · simp only [left, right]

theorem resolveRecipient_fst (agree : tables.AgreeOn command.projectId others) (sound : tables.Sound)
    (sound' : others.Sound) :
    (resolveRecipient runtime tables.recipients command minted).map Prod.fst =
      (resolveRecipient runtime others.recipients command minted).map Prod.fst := by
  unfold resolveRecipient
  cases command.recipientId with
  | none => exact resolveAdhoc_fst agree sound sound' command.addresses
  | some externalId =>
      simp only [agree.recipients.find?_eq (fun _ both => both.1) (sound'.externalIds command.projectId externalId)]
      split
      · rfl
      · split
        · rfl
        · rfl

theorem recipientWrite_eq (agree : tables.AgreeOn command.projectId others) (sound : tables.Sound)
    (sound' : others.Sound) (resolved : Recipient) :
    recipientWrite runtime tables.recipients command resolved = recipientWrite runtime others.recipients command resolved := by
  unfold recipientWrite
  cases command.recipientId with
  | some externalId => rfl
  | none =>
      rcases perm_eq_or_many (findByAddresses_perm agree sound sound' (command.supplied runtime)) with
        same | ⟨⟨_, _, _, left⟩, _, _, _, right⟩
      · simp only [same]
      · simp only [left, right]

def Creation.rows (creation : Creation) : NotificationIntake × Recipient × OutboxPriority :=
  (creation.intake, creation.recipient, creation.priority)

theorem expand_rows (agree : tables.AgreeOn command.projectId others) (sound : tables.Sound) (sound' : others.Sound) :
    (expand runtime tables.registry command minted).map Creation.rows =
      (expand runtime others.registry command minted).map Creation.rows := by
  have resolved : (resolveRecipient runtime tables.recipients command minted).map Prod.fst =
      (resolveRecipient runtime others.recipients command minted).map Prod.fst :=
    resolveRecipient_fst agree sound sound'
  simp only [expand, Tables.registry, requireTopic_eq agree sound', requireTemplate_eq agree sound']
  cases requireTopic others.topics command with
  | error error => rfl
  | ok topic =>
      cases requireTemplate others.templates command with
      | error error => rfl
      | ok template =>
          rcases left : resolveRecipient runtime tables.recipients command minted with error | ⟨recipient, after⟩ <;>
            rcases right : resolveRecipient runtime others.recipients command minted with error' | ⟨recipient', after'⟩ <;>
            rw [left, right] at resolved <;> cases resolved
          · rfl
          · -- from here on nothing is read from the tables
            dsimp only [bind, Except.bind]
            cases computeConstraints (command.constraintRequest recipient template) with
            | error error => rfl
            | ok constraints =>
                dsimp only
                cases IntakePayload.build (command.payload topic template) with
                | error error => rfl
                | ok payload =>
                    dsimp only
                    cases NotificationIntake.build _ with
                    | error error => rfl
                    | ok intake => rfl

/-- The unique index on the key refuses an intake in both tables or in none. -/
theorem addIntake_alike {projectId : Uuid} (agree : tables.AgreeOn projectId others) (sound' : others.Sound)
    {intake : NotificationIntake} (own : intake.projectId = projectId) :
    (addIntake tables.intakes intake).map (fun _ => ()) = (addIntake others.intakes intake).map fun _ => () := by
  unfold addIntake
  simp only [own, agree.byIdempotencyKey_eq sound']
  split
  · rfl
  · rfl

theorem accepting_eq (agree : tables.AgreeOn command.projectId others) (sound : tables.Sound) (sound' : others.Sound) :
    tables.accepting runtime command minted = others.accepting runtime command minted := by
  have alike : (expand runtime tables.registry command minted).map Creation.rows =
      (expand runtime others.registry command minted).map Creation.rows := expand_rows agree sound sound'
  have replayed : replay runtime tables.registry.intakes command = replay runtime others.registry.intakes command :=
    replay_eq agree sound'
  simp only [Tables.accepting, accept, replayed]
  rcases replay runtime others.registry.intakes command with error | (none | answer)
  · rfl
  · dsimp only [bind, Except.bind]
    rcases left : expand runtime tables.registry command minted with error | creation <;>
      rcases right : expand runtime others.registry command minted with error' | creation' <;>
      rw [left, right] at alike <;> simp only [Except.map, Except.ok.injEq, Except.error.injEq, reduceCtorEq] at alike
    · rw [alike]
      rfl
    · -- the same rows would be written; the index on the key decides
      obtain ⟨intake, recipient, priority⟩ : creation.intake = creation'.intake ∧
          creation.recipient = creation'.recipient ∧ creation.priority = creation'.priority := by
        simpa only [Creation.rows, Prod.mk.injEq] using alike
      have own : creation'.intake.projectId = command.projectId := (expand_identity right).1
      have index := addIntake_alike agree sound' own
      dsimp only [Tables.registry]
      rw [intake]
      rcases first : addIntake tables.intakes creation'.intake with error | intakes <;>
        rcases second : addIntake others.intakes creation'.intake with error' | intakes' <;>
        rw [first, second] at index <;> cases index
      · rfl
      · dsimp only [pure, Except.pure, Except.map]
        rw [recipient, priority, recipientWrite_eq agree sound sound']
  · rfl

end Lookups

/-! ## What an accepted request writes -/

theorem Recipient.create_externalId {projectId : Uuid} {addresses : Addresses} {minted : Minted} {recipient : Recipient}
    (created : Recipient.create projectId addresses minted = .ok recipient) : recipient.externalId = none := by
  unfold Recipient.create at created
  split at created <;> cases created
  rfl

theorem extend_externalId {recipients after : List Recipient} {existing recipient : Recipient} {supplied : Addresses}
    {now : Instant} (done : extend recipients existing supplied now = .ok (recipient, after)) :
    recipient.externalId = existing.externalId := by
  simp only [extend] at done
  split at done
  · cases done
  · split at done
    · cases done
      rfl
    · obtain ⟨updated, merged, kept⟩ := Checked.bind_eq_ok.mp done
      cases kept
      unfold Recipient.updateAddresses at merged
      split at merged
      · split at merged <;> cases merged
        rfl
      · cases merged

theorem resolveRecipient_externalId {runtime : Runtime} {recipients after : List Recipient}
    {command : AcceptNotificationCommand} {minted : Minted} {existing recipient : Recipient}
    (adhoc : command.recipientId = none)
    (matched : findByAddresses recipients command.projectId (command.supplied runtime) = [existing])
    (done : resolveRecipient runtime recipients command minted = .ok (recipient, after)) :
    recipient.externalId = existing.externalId := by
  have known : findByAddresses recipients command.projectId (normalizeAddresses runtime command.addresses) = [existing] :=
    matched
  simp only [resolveRecipient, adhoc, resolveAdhoc, known] at done
  split at done
  · cases done
  · exact extend_externalId done

/-- The write is to the project's own rows: a new row under the minted id, or one that is there. -/
def Tables.OwnWrite (tables : Tables) (command : AcceptNotificationCommand) (minted : Minted) : RecipientWrite → Prop
  | .none => True
  | .add recipient =>
      recipient.id = minted.recipientId ∧ recipient.projectId = command.projectId ∧ recipient.externalId = none
  | .save recipient => recipient.projectId = command.projectId ∧ tables.HasRecipient recipient

structure Tables.OwnIntake (tables : Tables) (command : AcceptNotificationCommand) (minted : Minted)
    (intake : NotificationIntake) : Prop where
  id : intake.id = minted.intakeId
  project : intake.projectId = command.projectId
  key : ∀ key, intake.idempotencyKey = some key → ∀ row ∈ tables.intakes, ¬ row.Keyed intake.projectId key
  topics : intake.TopicsIn tables.topics

section Created

variable {tables : Tables} {runtime : Runtime} {command : AcceptNotificationCommand} {minted : Minted}

theorem resolveRecipient_ownWrite {recipient : Recipient} {after : List Recipient}
    (done : resolveRecipient runtime tables.recipients command minted = .ok (recipient, after)) :
    tables.OwnWrite command minted (recipientWrite runtime tables.recipients command recipient) := by
  have resolved := (resolveRecipient_resolved done).1
  cases kept : recipientWrite runtime tables.recipients command recipient with
  | none => trivial
  | add added =>
      rw [kept] at resolved
      cases resolved with
      | added _ adhoc unmatched created =>
          obtain ⟨id, project, -⟩ := Recipient.create_eq_ok created
          exact ⟨id, project, Recipient.create_externalId created⟩
  | save saved =>
      rw [kept] at resolved
      cases resolved with
      | extended existing _ adhoc matched includes grown same =>
          have stored : existing ∈ findByAddresses tables.recipients command.projectId (command.supplied runtime) := by
            rw [matched]
            exact List.mem_singleton_self existing
          obtain ⟨there, own, -⟩ := mem_findByAddresses.mp stored
          exact ⟨same.2.1.trans own, existing, there, same.1.symm, same.2.1.symm,
            (resolveRecipient_externalId adhoc matched done).symm⟩

theorem requireTopic_known {topic : ResolvedTopic} (found : requireTopic tables.topics command = .ok (some topic)) :
    ∃ row ∈ tables.topics, row.id = topic.id ∧ row.projectId = command.projectId := by
  unfold requireTopic at found
  split at found
  · cases found
  · split at found
    · rename_i row stored
      cases found
      have met := List.find?_some stored
      rw [decide_eq_true_eq] at met
      exact ⟨row, List.mem_of_find?_eq_some stored, rfl, met.1⟩
    · cases found

theorem accepting_created {intake : NotificationIntake} {write : RecipientWrite} {priority : OutboxPriority}
    (accepted : tables.accepting runtime command minted = .ok (.created intake write priority)) :
    tables.OwnIntake command minted intake ∧ tables.OwnWrite command minted write := by
  unfold Tables.accepting at accepted
  rcases done : accept runtime tables.registry command minted with error | (answer | creation) <;>
    rw [done] at accepted <;> cases accepted
  obtain ⟨-, fresh, intakes, expanded, added, same⟩ := accept_created done
  obtain ⟨-, free⟩ := addIntake_eq_ok added
  rw [same]
  simp only [expand, Checked.bind_eq_ok, Prod.exists] at expanded
  obtain ⟨topic, found, template, -, recipient, after, resolved, constraints, -, payload, built, made, stored,
    kept⟩ := expanded
  cases kept
  have fields := NotificationIntake.build_eq_ok.mp stored
  have carried := IntakePayload.build_eq_ok.mp built
  refine ⟨⟨by rw [fields], by rw [fields], free, ?_⟩, resolveRecipient_ownWrite resolved⟩
  intro named listed
  have client : topic = some named := by
    simpa [NotificationIntake.topics, fields, carried, AcceptNotificationCommand.payload] using listed
  rw [client] at found
  obtain ⟨row, there, id, own⟩ := requireTopic_known found
  exact ⟨row, there, id, own.trans (by rw [fields])⟩

end Created

/-! ## Both runs accept -/

theorem saveRecipient_eq_upsert {recipients : List Recipient} {recipient : Recipient}
    (stored : ∃ row ∈ recipients, row.id = recipient.id) :
    saveRecipient recipients recipient = upsert Recipient.id recipient recipients := by
  obtain ⟨row, there, named⟩ := stored
  have taken : recipient.id ∈ recipients.map Recipient.id := List.mem_map.mpr ⟨row, there, named⟩
  rw [upsert, if_pos taken, saveRecipient]

structure Tables.Fresh (tables : Tables) (projectId : Uuid) (minted : Minted) : Prop where
  recipient : Unclaimed Recipient.id Recipient.projectId projectId minted.recipientId tables.recipients
  intake : Unclaimed (fun row : NotificationIntake => row.id) (fun row => row.projectId) projectId minted.intakeId
    tables.intakes

namespace Together

variable {start start' : Tables} {world other : World} {command : AcceptNotificationCommand} {minted : Minted}

theorem storeRecipient (both : Together command.projectId start start' world other)
    (fresh : start.Fresh command.projectId minted) (fresh' : start'.Fresh command.projectId minted)
    {write : RecipientWrite} (own : world.OwnWrite command minted write) {intake : NotificationIntake}
    (expanded : world.OwnIntake command minted intake) :
    (∃ error, world.storeRecipient write = .error error ∧ other.storeRecipient write = .error error) ∨
      ∃ later later', world.storeRecipient write = .ok later ∧ other.storeRecipient write = .ok later' ∧
        Together command.projectId start start' later later' ∧ later.OwnIntake command minted intake := by
  cases write with
  | none => exact .inr ⟨world, other, rfl, rfl, both, expanded⟩
  | save recipient =>
      obtain ⟨mine, has⟩ := own
      have has' := both.agree.hasRecipient mine has
      have there : ∃ row ∈ world.recipients, row.id = recipient.id := has.imp fun row held => ⟨held.1, held.2.1⟩
      have there' : ∃ row ∈ other.recipients, row.id = recipient.id := has'.imp fun row held => ⟨held.1, held.2.1⟩
      simp only [World.storeRecipient, RecipientWrite.store, saveRecipient_eq_upsert there, saveRecipient_eq_upsert there']
      exact .inr ⟨_, _, rfl, rfl,
        { left := both.left.saveRecipient mine has
          right := both.right.saveRecipient mine has'
          agree := { both.agree with recipients := both.agree.recipients.upsert recipient }
          sent := both.sent
          announced := both.announced
          attempts := both.attempts }, ⟨expanded.id, expanded.project, expanded.key, expanded.topics⟩⟩
  | add recipient =>
      obtain ⟨id, mine, anonymous⟩ := own
      have taken := both.agree.recipients.taken_iff (both.left.unclaimed_recipient fresh.recipient)
        (both.right.unclaimed_recipient fresh'.recipient)
      rw [← id] at taken
      by_cases known : recipient.id ∈ world.recipients.map Recipient.id
      · refine .inl ⟨integrityError "recipients_pkey", ?_, ?_⟩
        · simp only [World.storeRecipient, RecipientWrite.store, if_pos known]
        · simp only [World.storeRecipient, RecipientWrite.store, if_pos (taken.mp known)]
      · have known' := mt taken.mpr known
        simp only [World.storeRecipient, RecipientWrite.store, if_neg known, if_neg known']
        exact .inr ⟨_, _, rfl, rfl,
          { left := both.left.addRecipient mine known anonymous
            right := both.right.addRecipient mine known' anonymous
            agree := { both.agree with recipients := both.agree.recipients.cons recipient }
            sent := both.sent
            announced := both.announced
            attempts := both.attempts }, ⟨expanded.id, expanded.project, expanded.key, expanded.topics⟩⟩

theorem insertIntake (both : Together command.projectId start start' world other)
    (fresh : start.Fresh command.projectId minted) (fresh' : start'.Fresh command.projectId minted)
    {intake : NotificationIntake} (expanded : world.OwnIntake command minted intake) :
    (∃ error, world.insertIntake intake = .error error ∧ other.insertIntake intake = .error error) ∨
      ∃ later later', world.insertIntake intake = .ok later ∧ other.insertIntake intake = .ok later' ∧
        Together command.projectId start start' later later' := by
  have taken := both.agree.intakes.taken_iff (both.left.unclaimed_intake fresh.intake)
    (both.right.unclaimed_intake fresh'.intake)
  rw [← expanded.id] at taken
  have transaction : (∃ row ∈ world.intakes, row.projectId = intake.projectId ∧ row.transactionId = intake.transactionId) ↔
      ∃ row ∈ other.intakes, row.projectId = intake.projectId ∧ row.transactionId = intake.transactionId :=
    both.agree.intakes.exists_iff fun row same => same.1.trans expanded.project
  unfold World.insertIntake
  by_cases known : intake.id ∈ world.intakes.map (·.id)
  · rw [if_pos known, if_pos (taken.mp known)]
    exact .inl ⟨_, rfl, rfl⟩
  · rw [if_neg known, if_neg (mt taken.mpr known)]
    by_cases used : ∃ row ∈ world.intakes, row.projectId = intake.projectId ∧ row.transactionId = intake.transactionId
    · rw [if_pos used, if_pos (transaction.mp used)]
      exact .inl ⟨_, rfl, rfl⟩
    · rw [if_neg used, if_neg (mt transaction.mpr used)]
      have admits : world.Admits intake := ⟨known, expanded.key, used, expanded.topics⟩
      exact .inr ⟨_, _, rfl, rfl,
        { left := both.left.addIntake expanded.project admits
          right := both.right.addIntake expanded.project (both.agree.admits expanded.project admits (mt taken.mpr known))
          agree := { both.agree with intakes := both.agree.intakes.cons intake }
          sent := both.sent
          announced := both.announced
          attempts := both.attempts }⟩

end Together

theorem acceptCall_twins {start start' : Tables} {command : AcceptNotificationCommand} {minted : Minted}
    (runtime : Runtime) (fresh : start.Fresh command.projectId minted) (fresh' : start'.Fresh command.projectId minted) :
    Program.Twins (Together command.projectId start start') (acceptCall runtime command minted)
      (fun _ => Together command.projectId start start') (Together command.projectId start start') := by
  refine Program.Twins.transaction ?_ fun _ _ both => both
  apply Program.Twins.bind (fun accepting world other =>
    Together command.projectId start start' world other ∧
      ∀ intake write priority, accepting = .created intake write priority →
        world.OwnIntake command minted intake ∧ world.OwnWrite command minted write)
  · apply Call.find_twins
    · intro world other both
      exact accepting_eq both.agree both.left.sound both.right.sound
    · rintro _ world other both accepted
      refine ⟨both, ?_⟩
      rintro intake write priority rfl
      exact accepting_created accepted
    · exact fun _ _ _ => trivial
  · rintro (answer | ⟨intake, write, priority⟩)
    · exact Program.Twins.pure fun _ _ both => both.1
    · apply Program.Twins.bind (fun _ world other =>
        Together command.projectId start start' world other ∧ world.OwnIntake command minted intake)
      · apply Call.write_twins
        · rintro world other ⟨both, own⟩
          obtain ⟨expanded, written⟩ := own intake write priority rfl
          exact both.storeRecipient fresh fresh' written expanded
        · exact fun _ _ _ => trivial
      · intro _
        apply Program.Twins.bind (fun _ => Together command.projectId start start')
        · apply Call.write_twins
          · rintro world other ⟨both, expanded⟩
            exact both.insertIntake fresh fresh' expanded
          · exact fun _ _ _ => trivial
        · intro _
          apply Program.Twins.bind (fun _ => Together command.projectId start start')
          · exact Program.Twins.modify fun _ _ both => both.announce _
          · exact fun _ => Program.Twins.pure fun _ _ both => both

end Tiber
