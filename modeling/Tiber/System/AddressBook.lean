import Tiber.System.Idempotency

/-! The stored address books under concurrent accept calls: who holds an address, and
whether one that was learned stays.

A call matches against the rows of one moment and writes at another. No constraint of the
table stands between a write and the rows that were committed meanwhile.
-/

set_option autoImplicit false

namespace Tiber

open Library

def Recipient.Owns (recipient : Recipient) (projectId : Uuid) (channel : DeliveryChannel) (address : Text) : Prop :=
  recipient.projectId = projectId ∧ recipient.archivedAt = none ∧ recipient.addresses channel = some address

instance {recipient : Recipient} {projectId : Uuid} {channel : DeliveryChannel} {address : Text} :
    Decidable (recipient.Owns projectId channel address) :=
  inferInstanceAs (Decidable (_ ∧ _ ∧ _))

def OneOwner (projectId : Uuid) (recipients : List Recipient) : Prop :=
  ∀ channel address, (recipients.filter fun recipient => recipient.Owns projectId channel address).length ≤ 1

theorem oneOwner_iff {projectId : Uuid} {recipients : List Recipient} (known : (recipients.map (·.id)).Nodup) :
    OneOwner projectId recipients ↔ ∀ owner ∈ recipients, ∀ other ∈ recipients, ∀ channel address,
      owner.Owns projectId channel address → other.Owns projectId channel address → owner.id = other.id := by
  constructor
  · intro single owner member other also channel address owns shares
    have same : owner = other := by
      refine UniqueIndex.eq_of_few (single channel address) ?_ ?_
      · exact List.mem_filter.mpr ⟨member, decide_eq_true owns⟩
      · exact List.mem_filter.mpr ⟨also, decide_eq_true shares⟩
    rw [same]
  · intro agree channel address
    have owners (owner : Recipient)
        (held : owner ∈ recipients.filter fun recipient => recipient.Owns projectId channel address) :
        owner ∈ recipients ∧ owner.Owns projectId channel address := by
      simpa only [List.mem_filter, decide_eq_true_eq] using held
    have apart : ((recipients.filter fun recipient => recipient.Owns projectId channel address).map (·.id)).Nodup :=
      known.sublist (List.filter_sublist.map _)
    generalize recipients.filter (fun recipient => recipient.Owns projectId channel address) = rows at owners apart ⊢
    -- two owners would be two rows with one identifier
    match rows, owners, apart with
    | [], _, _ | [_], _, _ => simp
    | first :: second :: _, owners, apart =>
        obtain ⟨member, owns⟩ := owners first (.head _)
        obtain ⟨also, shares⟩ := owners second (.tail _ (.head _))
        have same := agree first member second also channel address owns shares
        simp [same] at apart

/-! ## One write -/

theorem mem_saveRecipient {recipients : List Recipient} {updated recipient : Recipient}
    (member : recipient ∈ saveRecipient recipients updated) :
    recipient = updated ∨ recipient ∈ recipients ∧ recipient.id ≠ updated.id := by
  obtain ⟨stored, held, rfl⟩ := List.mem_map.mp member
  split
  · exact .inl rfl
  · rename_i different
    exact .inr ⟨held, different⟩

theorem saveRecipient_ids (recipients : List Recipient) (updated : Recipient) :
    (saveRecipient recipients updated).map (·.id) = recipients.map (·.id) := by
  rw [saveRecipient, List.map_map]
  apply List.map_congr_left
  intro recipient _
  simp only [Function.comp_apply]
  split
  · rename_i same
    exact same.symm
  · rfl

namespace RecipientWrite

variable {write : RecipientWrite} {recipients after : List Recipient}

theorem store_known (stored : write.store recipients = some after) (known : (recipients.map (·.id)).Nodup) :
    (after.map (·.id)).Nodup := by
  cases write with
  | none =>
      rw [← store_none.mp stored]
      exact known
  | add recipient =>
      obtain ⟨fresh, rfl⟩ := store_add.mp stored
      exact List.nodup_cons.mpr ⟨fresh, known⟩
  | save updated =>
      rw [← store_save.mp stored, saveRecipient_ids]
      exact known

/-- A row after the write is the one written or an old one of another recipient. -/
theorem mem_store (stored : write.store recipients = some after) {recipient : Recipient}
    (member : recipient ∈ after) :
    write.recipient = some recipient ∨
      recipient ∈ recipients ∧ ∀ updated, write.recipient = some updated → recipient.id ≠ updated.id := by
  cases write with
  | none =>
      rw [← store_none.mp stored] at member
      exact .inr ⟨member, fun updated absent => (Option.some_ne_none updated absent.symm).elim⟩
  | add added =>
      obtain ⟨fresh, rfl⟩ := store_add.mp stored
      rcases List.mem_cons.mp member with rfl | old
      · exact .inl rfl
      · refine .inr ⟨old, fun updated same clash => fresh ?_⟩
        obtain rfl : added = updated := Option.some.inj same
        exact clash ▸ List.mem_map_of_mem old
  | save updated =>
      rw [← store_save.mp stored] at member
      rcases mem_saveRecipient member with rfl | ⟨old, different⟩
      · exact .inl rfl
      · refine .inr ⟨old, fun other same => ?_⟩
        obtain rfl : updated = other := Option.some.inj same
        exact different

theorem store_other (stored : write.store recipients = some after) {recipient : Recipient}
    (member : recipient ∈ recipients)
    (other : ∀ updated, write.recipient = some updated → recipient.id ≠ updated.id) : recipient ∈ after := by
  cases write with
  | none =>
      rw [← store_none.mp stored]
      exact member
  | add added =>
      obtain ⟨-, rfl⟩ := store_add.mp stored
      exact .tail _ member
  | save updated =>
      rw [← store_save.mp stored]
      refine List.mem_map.mpr ⟨recipient, member, ?_⟩
      rw [if_neg (other updated rfl)]

/-- No other live recipient holds an address of the book that is written. -/
def Unclaimed (recipients : List Recipient) (write : RecipientWrite) : Prop :=
  ∀ updated ∈ write.recipient,
    ∀ holder ∈ findByAddresses recipients updated.projectId updated.addresses, holder.id = updated.id

instance : Decidable (Unclaimed recipients write) :=
  inferInstanceAs (Decidable (∀ updated ∈ write.recipient,
    ∀ holder ∈ findByAddresses recipients updated.projectId updated.addresses, holder.id = updated.id))

theorem store_oneOwner {projectId : Uuid} (stored : write.store recipients = some after)
    (unclaimed : Unclaimed recipients write) (known : (recipients.map (·.id)).Nodup)
    (single : OneOwner projectId recipients) : OneOwner projectId after := by
  rw [oneOwner_iff known] at single
  rw [oneOwner_iff (store_known stored known)]
  -- whoever holds an address of the written book is the recipient it was written for
  have meets {written holder : Recipient} (writes : write.recipient = some written) (held : holder ∈ recipients)
      {channel : DeliveryChannel} {address : Text} (owns : written.Owns projectId channel address)
      (shares : holder.Owns projectId channel address) : holder.id = written.id := by
    refine unclaimed written writes holder (mem_findByAddresses.mpr ⟨held, ?_, shares.2.1, channel, address, ?_⟩)
    · rw [shares.1, owns.1]
    · exact ⟨owns.2.2, shares.2.2⟩
  intro owner member other also channel address owns shares
  -- the written row meets itself, an old one, or two old ones meet
  rcases mem_store stored member with writes | ⟨old, -⟩
  · rcases mem_store stored also with again | ⟨kept, -⟩
    · rw [Option.some.inj (writes.symm.trans again)]
    · exact (meets writes kept owns shares).symm
  · rcases mem_store stored also with writes | ⟨kept, -⟩
    · exact meets writes old shares owns
    · exact single owner old other kept channel address owns shares

/-- The condition is the exact one: a live row that is written over a foreign address has two owners. -/
theorem store_oneOwner_iff {updated : Recipient} (stored : write.store recipients = some after)
    (writes : write.recipient = some updated) (reached : updated ∈ after) (live : updated.archivedAt = Option.none)
    (known : (recipients.map (·.id)).Nodup) (single : OneOwner updated.projectId recipients) :
    OneOwner updated.projectId after ↔ Unclaimed recipients write := by
  refine ⟨fun kept other same holder found => ?_, fun unclaimed => store_oneOwner stored unclaimed known single⟩
  obtain rfl : updated = other := Option.some.inj (writes.symm.trans same)
  obtain ⟨member, project, alive, channel, address, owns, shares⟩ := mem_findByAddresses.mp found
  by_contra different
  -- the other holder is still there after the write
  have there : holder ∈ after := store_other stored member fun written again => by
    rw [← Option.some.inj (writes.symm.trans again)]
    exact different
  exact different ((oneOwner_iff (store_known stored known)).mp kept holder there updated reached channel address
    ⟨project, alive, shares⟩ ⟨rfl, live, owns⟩)

end RecipientWrite

namespace AcceptRuns

variable {runtime : Runtime} {command : Nat → AcceptNotificationCommand} {state next start final : State}
  {events : List Event}

/-- What a commit writes is checked against the rows stored at that moment. -/
def Committing (allow : List Recipient → RecipientWrite → Prop) (state : State) : Event → Prop
  | .commit call _ => allow state.recipients (state.phase call).write
  | _ => True

instance {allow : List Recipient → RecipientWrite → Prop} [∀ recipients write, Decidable (allow recipients write)]
    (state : State) (event : Event) : Decidable (Committing allow state event) :=
  match event with
  | .commit call _ => inferInstanceAs (Decidable (allow state.recipients (state.phase call).write))
  | .look _ | .expand .. | .write _ | .insert _ | .relook _ | .abort _ => .isTrue trivial

theorem known_keeps :
    Machine.Keeps (step runtime command) (fun _ _ => True) fun state => (state.recipients.map (·.id)).Nodup := by
  intro state event next known _ taken
  cases event with
  | commit call heard => exact RecipientWrite.store_known (step_commit_recipients taken) known
  | look _ | expand _ _ _ _ | write _ | insert _ | relook _ | abort _ =>
      rw [(step_stored taken nofun).1]
      exact known

theorem oneOwner_keeps (projectId : Uuid) :
    Machine.Keeps (step runtime command) (Committing RecipientWrite.Unclaimed) fun state =>
      (state.recipients.map (·.id)).Nodup ∧ OneOwner projectId state.recipients := by
  intro state event next ⟨known, single⟩ allowed taken
  refine ⟨known_keeps state event next known trivial taken, ?_⟩
  cases event with
  | commit call heard => exact RecipientWrite.store_oneOwner (step_commit_recipients taken) allowed known single
  | look _ | expand _ _ _ _ | write _ | insert _ | relook _ | abort _ =>
      rw [(step_stored taken nofun).1]
      exact single

end AcceptRuns

/-- An address keeps its one owner in every run in which no commit writes an address that another live
recipient has by then. -/
theorem address_one_owner {runtime : Runtime} {command : Nat → AcceptNotificationCommand}
    {start final : AcceptRuns.State} {events : List AcceptRuns.Event} (fresh : start.Fresh) {projectId : Uuid}
    (single : OneOwner projectId start.recipients)
    (unclaimed : Machine.Along (AcceptRuns.step runtime command) (AcceptRuns.Committing RecipientWrite.Unclaimed)
      start events)
    (reached : Machine.run (AcceptRuns.step runtime command) start events = some final) :
    OneOwner projectId final.recipients :=
  ((AcceptRuns.oneOwner_keeps projectId).run ⟨fresh.known, single⟩ unclaimed reached).2

/-! One request, sent twice at the same time. -/

def secondIds : Minted := ⟨20, 21, 22, 0⟩

def twice : Nat → AcceptNotificationCommand := fun _ => notice phone "orders".toList (some "order-17".toList)

/-- Both find nobody and add a recipient. The second loses the race for the key, answers with the intake
of the first, and still leaves its recipient behind. -/
theorem address_two_owners :
    ∃ final, OneOwner 1 ({} : AcceptRuns.State).recipients ∧
      Machine.run (AcceptRuns.step cpython twice) {}
        [.look 0, .look 1, .expand 0 [] [] firstIds, .expand 1 [] [] secondIds, .write 0, .write 1, .insert 0,
          .commit 0 true, .insert 1, .relook 1, .commit 1 true] = some final ∧
      final.phase 0 = .ended (.returned ⟨11, 1, false⟩) ∧ final.phase 1 = .ended (.returned ⟨11, 1, true⟩) ∧
      ¬ OneOwner 1 final.recipients := by
  refine ⟨_, fun _ _ => Nat.zero_le 1, rfl, rfl, rfl, fun single => ?_⟩
  exact absurd (single .sms "+15550100".toList) (by decide)

def inTurn : List AcceptRuns.Event :=
  [.look 0, .expand 0 [] [] firstIds, .write 0, .look 1, .insert 0, .commit 0 true, .expand 1 [] [] secondIds, .write 1,
    .insert 1, .relook 1, .commit 1 true]

theorem address_shared :
    ∃ final, Machine.run (AcceptRuns.step cpython twice) {} inTurn = some final ∧ OneOwner 1 final.recipients := by
  obtain ⟨final, reached⟩ : ∃ final, Machine.run (AcceptRuns.step cpython twice) {} inTurn = some final :=
    ⟨_, rfl⟩
  have unclaimed : Machine.Along (AcceptRuns.step cpython twice) (AcceptRuns.Committing RecipientWrite.Unclaimed) {}
      inTurn := by decide
  exact ⟨final, reached,
    address_one_owner AcceptRuns.State.fresh_empty (fun _ _ => Nat.zero_le 1) unclaimed reached⟩

/-! ## Learned addresses -/

instance {book other : Addresses} : Decidable (book.Includes other) :=
  decidable_of_iff (∀ channel, other channel = none ∨ book channel = other channel) <| by
    apply forall_congr'
    intro channel
    cases given : other channel with
    | none => simp
    | some address => simp

def Grows (recipients later : List Recipient) : Prop :=
  ∀ stored ∈ recipients, ∃ kept ∈ later, kept.id = stored.id ∧ kept.addresses.Includes stored.addresses

theorem Grows.refl (recipients : List Recipient) : Grows recipients recipients :=
  fun stored member => ⟨stored, member, rfl, fun _ _ held => held⟩

theorem Grows.trans {first second third : List Recipient} (early : Grows first second) (late : Grows second third) :
    Grows first third := by
  intro stored member
  obtain ⟨kept, also, same, includes⟩ := early stored member
  obtain ⟨last, there, again, wider⟩ := late kept also
  exact ⟨last, there, again.trans same, wider.trans includes⟩

namespace RecipientWrite

variable {write : RecipientWrite} {recipients after : List Recipient}

def Undiminishing (recipients : List Recipient) (write : RecipientWrite) : Prop :=
  ∀ updated ∈ write.recipient, ∀ stored ∈ recipients, stored.id = updated.id →
    updated.addresses.Includes stored.addresses

instance : Decidable (Undiminishing recipients write) :=
  inferInstanceAs (Decidable (∀ updated ∈ write.recipient, ∀ stored ∈ recipients, stored.id = updated.id →
    updated.addresses.Includes stored.addresses))

theorem store_grows (done : write.store recipients = some after) (whole : Undiminishing recipients write) :
    Grows recipients after := by
  cases write with
  | none =>
      rw [← store_none.mp done]
      exact .refl recipients
  | add recipient =>
      obtain ⟨fresh, rfl⟩ := store_add.mp done
      exact fun stored member => ⟨stored, .tail _ member, rfl, fun _ _ held => held⟩
  | save updated =>
      rw [← store_save.mp done]
      intro stored member
      have there := List.mem_map_of_mem
        (f := fun recipient => if recipient.id = updated.id then updated else recipient) member
      by_cases same : stored.id = updated.id
      · rw [if_pos same] at there
        exact ⟨updated, there, same.symm, whole updated rfl stored member same⟩
      · rw [if_neg same] at there
        exact ⟨stored, there, rfl, fun _ _ held => held⟩

end RecipientWrite

/-- Where the supplied pairs are while a request is under way: in the stored book of its recipient, or in
the book it is about to write. -/
inductive Anchored (runtime : Runtime) (command : AcceptNotificationCommand) (recipients : List Recipient)
    (recipient : Recipient) : RecipientWrite → Prop where
  | registered (named : command.recipientId ≠ none) : Anchored runtime command recipients recipient .none
  | stored (row : Recipient) (member : row ∈ recipients) (same : row.id = recipient.id)
      (includes : row.addresses.Includes (command.supplied runtime)) :
      Anchored runtime command recipients recipient .none
  | added (includes : recipient.addresses.Includes (command.supplied runtime)) :
      Anchored runtime command recipients recipient (.add recipient)
  | extended (row : Recipient) (member : row ∈ recipients) (same : row.id = recipient.id)
      (includes : recipient.addresses.Includes (command.supplied runtime)) :
      Anchored runtime command recipients recipient (.save recipient)

section Anchored

variable {runtime : Runtime} {command : AcceptNotificationCommand} {recipients later : List Recipient}
  {recipient : Recipient} {write : RecipientWrite}

theorem Resolved.anchored {minted : Minted} (resolved : Resolved runtime recipients command minted recipient write) :
    Anchored runtime command recipients recipient write := by
  have found {existing : Recipient}
      (matched : findByAddresses recipients command.projectId (command.supplied runtime) = [existing]) :
      existing ∈ recipients := by
    have member : existing ∈ findByAddresses recipients command.projectId (command.supplied runtime) := by
      rw [matched]
      exact .head _
    exact (mem_findByAddresses.mp member).1
  cases resolved with
  | registered _ named => exact .registered named
  | added _ adhoc unmatched created =>
      refine .added ?_
      rw [(Recipient.create_eq_ok created).2.2.1]
      exact fun _ _ given => given
  | reused _ adhoc matched includes => exact .stored _ (found matched) rfl includes
  | extended existing _ adhoc matched includes grown same =>
      exact .extended existing (found matched) same.1.symm includes

theorem Anchored.mono (anchored : Anchored runtime command recipients recipient write)
    (grows : Grows recipients later) : Anchored runtime command later recipient write := by
  cases anchored with
  | registered named => exact .registered named
  | stored row member same includes =>
      obtain ⟨kept, also, still, wider⟩ := grows row member
      exact .stored kept also (still.trans same) (wider.trans includes)
  | added includes => exact .added includes
  | extended row member same includes =>
      obtain ⟨kept, also, still, -⟩ := grows row member
      exact .extended kept also (still.trans same) includes

theorem Anchored.settled (anchored : Anchored runtime command recipients recipient write)
    (adhoc : command.recipientId = none) (done : write.store recipients = some later) :
    ∃ stored ∈ later, stored.id = recipient.id ∧ stored.addresses.Includes (command.supplied runtime) := by
  cases anchored with
  | registered named => exact absurd adhoc named
  | stored row member same includes =>
      rw [← RecipientWrite.store_none.mp done]
      exact ⟨row, member, same, includes⟩
  | added includes =>
      obtain ⟨-, rfl⟩ := RecipientWrite.store_add.mp done
      exact ⟨recipient, .head _, rfl, includes⟩
  | extended row member same includes =>
      refine ⟨recipient, ?_, rfl, includes⟩
      rw [← RecipientWrite.store_save.mp done]
      refine List.mem_map.mpr ⟨row, member, ?_⟩
      rw [if_pos same]

end Anchored

namespace AcceptRuns

variable {runtime : Runtime} {command : Nat → AcceptNotificationCommand} {state next start final : State}

theorem step_grows {event : Event} (allowed : Committing RecipientWrite.Undiminishing state event)
    (taken : step runtime command state event = some next) : Grows state.recipients next.recipients := by
  cases event with
  | commit call heard => exact RecipientWrite.store_grows (step_commit_recipients taken) allowed
  | look _ | expand _ _ _ _ | write _ | insert _ | relook _ | abort _ =>
      rw [(step_stored taken nofun).1]
      exact .refl _

def Learned (runtime : Runtime) (command : Nat → AcceptNotificationCommand) (state : State) : Prop :=
  ∀ call recipient write, (state.phase call).resolved = some (recipient, write) →
    Anchored runtime (command call) state.recipients recipient write

theorem learned_keeps :
    Machine.Keeps (step runtime command) (Committing RecipientWrite.Undiminishing) (Learned runtime command) := by
  intro state event next learned allowed taken call recipient write resolved
  rcases step_resolved taken resolved with before | ⟨rows, minted, read⟩
  · exact (learned call recipient write before).mono (step_grows allowed taken)
  · rw [rows]
    exact read.anchored

theorem State.Fresh.learned (fresh : start.Fresh) : Learned runtime command start := by
  intro call recipient write resolved
  rw [fresh.idle call] at resolved
  cases resolved

theorem State.Fresh.named (fresh : start.Fresh) : Named start := by
  intro call creation carried
  rw [fresh.idle call] at carried
  cases carried

theorem run_grows {events : List Event} (learned : Learned runtime command start)
    (whole : Machine.Along (step runtime command) (Committing RecipientWrite.Undiminishing) start events)
    (reached : Machine.run (step runtime command) start events = some final) :
    Grows start.recipients final.recipients :=
  learned_keeps.relates (fun before after => Grows before.recipients after.recipients) (fun _ => .refl _)
    (fun _ _ _ => .trans) (fun _ _ _ _ allowed taken => step_grows allowed taken) learned whole reached

end AcceptRuns

/-- Learned addresses stay in every run in which no commit overwrites a pair of the stored book that the
written book lacks. -/
theorem learned_addresses_kept {runtime : Runtime} {command : Nat → AcceptNotificationCommand}
    {start middle final : AcceptRuns.State} {before after : List AcceptRuns.Event} (fresh : start.Fresh) {call : Nat}
    {heard : Bool}
    (whole : Machine.Along (AcceptRuns.step runtime command) (AcceptRuns.Committing RecipientWrite.Undiminishing) start
      (before ++ .commit call heard :: after))
    (began : Machine.run (AcceptRuns.step runtime command) start before = some middle)
    (reached : Machine.run (AcceptRuns.step runtime command) middle (.commit call heard :: after) = some final)
    (adhoc : (command call).recipientId = none) {recipient : Recipient} {write : RecipientWrite}
    (resolved : (middle.phase call).resolved = some (recipient, write)) :
    ∃ stored ∈ final.recipients, stored.id = recipient.id ∧
      stored.addresses.Includes ((command call).supplied runtime) ∧
      ∀ creation, (middle.phase call).creation = some creation → creation.intake.recipientId = stored.id := by
  obtain ⟨early, allowed, late⟩ := Machine.along_append whole began
  obtain ⟨next, taken, later⟩ := Machine.run_cons_eq_some.mp reached
  have learned := AcceptRuns.learned_keeps.run fresh.learned early began
  have done := AcceptRuns.step_commit_recipients taken
  rw [AcceptRuns.Phase.write, resolved] at done
  -- the commit puts the pairs where they belong, and no later one takes them away
  obtain ⟨stored, member, same, includes⟩ := (learned call recipient write resolved).settled adhoc done
  have onward := AcceptRuns.learned_keeps middle _ next learned allowed taken
  obtain ⟨kept, also, still, wider⟩ := AcceptRuns.run_grows onward (late next taken) later stored member
  refine ⟨kept, also, still.trans same, wider.trans includes, fun creation carried => ?_⟩
  have named := AcceptRuns.named_keeps.run fresh.named (Machine.along_true start before) began call creation carried
  obtain ⟨own, made⟩ := AcceptRuns.Phase.resolved_of_creation carried
  cases resolved.symm.trans made
  rw [named, still, same]

/-! A recipient known by phone, to whom one request adds a push token and another an inbox. -/

def withToken : Addresses := fun channel => if channel = .push then some "token".toList else phone channel

def withInbox : Addresses := fun channel => if channel = .inApp then some "ada".toList else phone channel

def learning : Nat → AcceptNotificationCommand := fun call =>
  notice (if call = 0 then withToken else withInbox) "orders".toList none

def caller : Recipient where
  id := 7
  projectId := 1
  addresses := phone
  preferences := {}
  createdAt := 0
  updatedAt := 0
  reachable := by decide
  opted_out_known := Finset.empty_subset _

theorem AcceptRuns.State.fresh_caller : ({ recipients := [caller] } : AcceptRuns.State).Fresh :=
  ⟨fun _ => rfl, rfl, rfl, List.nodup_nil, List.nodup_singleton _, List.nodup_nil, .nil⟩

/-- Both read the book before either writes it, and the second to commit writes a book without the token. -/
theorem learned_address_lost :
    ∃ final stored intake, Machine.run (AcceptRuns.step cpython learning) { recipients := [caller] }
        [.look 0, .look 1, .expand 0 [] [] firstIds, .expand 1 [] [] secondIds, .write 0, .insert 0, .commit 0 true,
          .write 1, .insert 1, .commit 1 true] = some final ∧
      final.recipients = [stored] ∧ intake ∈ final.intakes ∧
      final.phase 0 = .ended (.returned ⟨intake.transactionId, 1, false⟩) ∧ intake.recipientId = stored.id ∧
      (learning 0).supplied cpython .push = some "token".toList ∧ stored.addresses .push = none :=
  ⟨_, _, _, rfl, rfl, .tail _ (.head _), rfl, rfl, rfl, rfl⟩

def firstToLearn : List AcceptRuns.Event := [.look 0, .look 1, .expand 0 [] [] firstIds, .write 0, .insert 0]

def thenSecond : List AcceptRuns.Event := [.expand 1 [] [] secondIds, .write 1, .insert 1, .commit 1 true]

theorem learned_address_kept :
    ∃ middle final, Machine.run (AcceptRuns.step cpython learning) { recipients := [caller] } firstToLearn =
        some middle ∧
      Machine.run (AcceptRuns.step cpython learning) middle (.commit 0 true :: thenSecond) = some final ∧
      ∃ stored ∈ final.recipients, stored.id = caller.id ∧ stored.addresses .push = some "token".toList := by
  obtain ⟨middle, final, recipient, write, began, reached, resolved, same⟩ : ∃ middle final recipient write,
      Machine.run (AcceptRuns.step cpython learning) { recipients := [caller] } firstToLearn = some middle ∧
      Machine.run (AcceptRuns.step cpython learning) middle (.commit 0 true :: thenSecond) = some final ∧
      (middle.phase 0).resolved = some (recipient, write) ∧ recipient.id = caller.id :=
    ⟨_, _, _, _, rfl, rfl, rfl, rfl⟩
  have whole : Machine.Along (AcceptRuns.step cpython learning)
      (AcceptRuns.Committing RecipientWrite.Undiminishing) { recipients := [caller] }
      (firstToLearn ++ .commit 0 true :: thenSecond) := by decide
  obtain ⟨stored, member, id, includes, -⟩ :=
    learned_addresses_kept AcceptRuns.State.fresh_caller whole began reached rfl resolved
  exact ⟨middle, final, began, reached, stored, member, id.trans same, includes .push _ rfl⟩

end Tiber
