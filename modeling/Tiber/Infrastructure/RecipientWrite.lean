import Tiber.Application.Accept

/-! What resolving a recipient writes: nothing, a new row, or a whole book over the stored one.

The table has no constraint on addresses, so neither write can fail on one. Stored addresses
are normalized, and normalizing them once more on their way to the row changes nothing.
-/

set_option autoImplicit false

namespace Tiber

open Library

inductive RecipientWrite where
  | none
  | add (recipient : Recipient)
  | save (recipient : Recipient)

namespace RecipientWrite

def recipient : RecipientWrite → Option Recipient
  | none => Option.none
  | add recipient | save recipient => some recipient

/-- The stored rows once the write is committed; an identifier is there only once. -/
def store (recipients : List Recipient) : RecipientWrite → Option (List Recipient)
  | none => some recipients
  | add recipient =>
      if recipient.id ∈ recipients.map (·.id) then Option.none else some (recipient :: recipients)
  | save recipient => some (saveRecipient recipients recipient)

variable {recipients after : List Recipient} {recipient : Recipient}

theorem store_add : (add recipient).store recipients = some after ↔
    recipient.id ∉ recipients.map (·.id) ∧ recipient :: recipients = after := by
  simp only [store]
  split
  · rename_i taken
    exact ⟨nofun, fun both => absurd taken both.1⟩
  · rename_i free
    simp only [Option.some.injEq, free, not_false_eq_true, true_and]

theorem store_save : (save recipient).store recipients = some after ↔ saveRecipient recipients recipient = after := by
  simp only [store, Option.some.injEq]

theorem store_none : none.store recipients = some after ↔ recipients = after := by
  simp only [store, Option.some.injEq]

end RecipientWrite

/-- The addresses a request supplies, as they are matched and stored. -/
def AcceptNotificationCommand.supplied (runtime : Runtime) (command : AcceptNotificationCommand) : Addresses :=
  normalizeAddresses runtime command.addresses

def recipientWrite (runtime : Runtime) (recipients : List Recipient) (command : AcceptNotificationCommand)
    (resolved : Recipient) : RecipientWrite :=
  match command.recipientId with
  | some _ => .none
  | none =>
      match findByAddresses recipients command.projectId (command.supplied runtime) with
      | [existing] =>
          if (command.supplied runtime).channels ⊆ existing.addresses.channels then .none else .save resolved
      | _ => .add resolved

section

variable {runtime : Runtime} {recipients : List Recipient} {command : AcceptNotificationCommand} {resolved : Recipient}

theorem recipientWrite_registered {externalId : Text} (named : command.recipientId = some externalId) :
    recipientWrite runtime recipients command resolved = .none := by
  simp only [recipientWrite, named]

theorem recipientWrite_unmatched (adhoc : command.recipientId = none)
    (unmatched : findByAddresses recipients command.projectId (command.supplied runtime) = []) :
    recipientWrite runtime recipients command resolved = .add resolved := by
  simp only [recipientWrite, adhoc, unmatched]

theorem recipientWrite_matched {existing : Recipient} (adhoc : command.recipientId = none)
    (matched : findByAddresses recipients command.projectId (command.supplied runtime) = [existing]) :
    recipientWrite runtime recipients command resolved =
      if (command.supplied runtime).channels ⊆ existing.addresses.channels then .none else .save resolved := by
  simp only [recipientWrite, adhoc, matched]

end

def Addresses.Includes (book other : Addresses) : Prop :=
  ∀ channel address, other channel = some address → book channel = some address

theorem Addresses.Includes.trans {book middle other : Addresses} (first : book.Includes middle)
    (second : middle.Includes other) : book.Includes other :=
  fun channel address held => first channel address (second channel address held)

theorem mem_findByAddresses {recipients : List Recipient} {projectId : Uuid} {addresses : Addresses}
    {recipient : Recipient} :
    recipient ∈ findByAddresses recipients projectId addresses ↔
      recipient ∈ recipients ∧ recipient.projectId = projectId ∧ recipient.archivedAt = none ∧
        ∃ channel address, addresses channel = some address ∧ recipient.addresses channel = some address := by
  simp only [findByAddresses, List.mem_filter, decide_eq_true_eq]
  refine and_congr_right fun _ => and_congr_right fun _ => and_congr_right fun _ => exists_congr fun channel => ?_
  constructor
  · rintro ⟨known, same⟩
    obtain ⟨address, held⟩ := Option.isSome_iff_exists.mp known
    exact ⟨address, held, same.trans held⟩
  · rintro ⟨address, held, same⟩
    exact ⟨by rw [held]; rfl, same.trans held.symm⟩

inductive Resolved (runtime : Runtime) (recipients : List Recipient) (command : AcceptNotificationCommand)
    (minted : Minted) : Recipient → RecipientWrite → Prop where
  | registered (recipient : Recipient) (named : command.recipientId ≠ none) :
      Resolved runtime recipients command minted recipient .none
  | added (recipient : Recipient) (adhoc : command.recipientId = none)
      (unmatched : findByAddresses recipients command.projectId (command.supplied runtime) = [])
      (created : Recipient.create command.projectId (command.supplied runtime) minted = .ok recipient) :
      Resolved runtime recipients command minted recipient (.add recipient)
  | reused (existing : Recipient) (adhoc : command.recipientId = none)
      (matched : findByAddresses recipients command.projectId (command.supplied runtime) = [existing])
      (includes : existing.addresses.Includes (command.supplied runtime)) :
      Resolved runtime recipients command minted existing .none
  | extended (existing updated : Recipient) (adhoc : command.recipientId = none)
      (matched : findByAddresses recipients command.projectId (command.supplied runtime) = [existing])
      (includes : updated.addresses.Includes (command.supplied runtime))
      (grown : updated.addresses.Includes existing.addresses)
      (same : updated.id = existing.id ∧ updated.projectId = existing.projectId ∧
        updated.archivedAt = existing.archivedAt) :
      Resolved runtime recipients command minted updated (.save updated)

theorem Recipient.create_eq_ok {projectId : Uuid} {addresses : Addresses} {minted : Minted} {recipient : Recipient}
    (created : Recipient.create projectId addresses minted = .ok recipient) :
    recipient.id = minted.recipientId ∧ recipient.projectId = projectId ∧ recipient.addresses = addresses ∧
      recipient.archivedAt = none := by
  unfold Recipient.create at created
  split at created <;> cases created
  exact ⟨rfl, rfl, rfl, rfl⟩

theorem Recipient.updateAddresses_eq_ok {recipient updated : Recipient} {addresses : Addresses} {now : Instant}
    (done : recipient.updateAddresses addresses now = .ok updated) :
    updated.addresses = addresses ∧ updated.id = recipient.id ∧ updated.projectId = recipient.projectId ∧
      updated.archivedAt = recipient.archivedAt := by
  unfold Recipient.updateAddresses at done
  split at done
  · split at done <;> cases done
    exact ⟨rfl, rfl, rfl, rfl⟩
  · cases done

theorem unconflicted {existing : Recipient} {supplied : Addresses}
    (peace : supplied.channels.filter (fun channel =>
      (existing.addresses channel).isSome ∧ existing.addresses channel ≠ supplied channel) = ∅)
    {channel : DeliveryChannel} {address : Text} (given : supplied channel = some address) :
    existing.addresses channel = some address ∨ existing.addresses channel = none := by
  by_contra neither
  simp only [not_or] at neither
  have clash : channel ∈ supplied.channels.filter (fun channel =>
      (existing.addresses channel).isSome ∧ existing.addresses channel ≠ supplied channel) := by
    simp only [Finset.mem_filter, Addresses.mem_channels, given, Option.isSome_some, true_and]
    exact ⟨Option.isSome_iff_ne_none.mpr neither.2, neither.1⟩
  rw [peace] at clash
  exact Finset.notMem_empty channel clash

theorem extend_resolved {recipients : List Recipient} {existing recipient : Recipient} {supplied : Addresses}
    {now : Instant} {after : List Recipient}
    (done : extend recipients existing supplied now = .ok (recipient, after)) :
    (supplied.channels ⊆ existing.addresses.channels ∧ recipient = existing ∧ after = recipients ∧
        existing.addresses.Includes supplied) ∨
      (¬ supplied.channels ⊆ existing.addresses.channels ∧ after = saveRecipient recipients recipient ∧
        recipient.addresses.Includes supplied ∧ recipient.addresses.Includes existing.addresses ∧
        recipient.id = existing.id ∧ recipient.projectId = existing.projectId ∧
        recipient.archivedAt = existing.archivedAt) := by
  simp only [extend] at done
  split at done
  · cases done
  · rename_i peace
    simp only [ne_eq, not_not] at peace
    split at done
    · -- nothing to append: without a conflict the book has every supplied pair
      rename_i covered
      cases done
      refine .inl ⟨covered, rfl, rfl, fun channel address given => ?_⟩
      apply (unconflicted peace given).resolve_right
      intro absent
      have known : channel ∈ existing.addresses.channels := covered (by simp [given])
      simp [absent] at known
    · -- the stored pairs stay, the supplied ones join them
      rename_i lacking
      obtain ⟨updated, merged, kept⟩ := Checked.bind_eq_ok.mp done
      cases kept
      obtain ⟨book, same⟩ := Recipient.updateAddresses_eq_ok merged
      refine .inr ⟨lacking, rfl, fun channel address given => ?_, fun channel address held => ?_, same⟩
      · rw [book]
        rcases unconflicted peace given with known | absent
        · simp [known]
        · simp [absent, given]
      · rw [book]
        simp [held]

/-- The rows after resolving are the rows before it with one write, at most, applied. -/
theorem resolveRecipient_resolved {runtime : Runtime} {recipients : List Recipient}
    {command : AcceptNotificationCommand} {minted : Minted} {recipient : Recipient} {after : List Recipient}
    (done : resolveRecipient runtime recipients command minted = .ok (recipient, after)) :
    Resolved runtime recipients command minted recipient (recipientWrite runtime recipients command recipient) ∧
      (minted.recipientId ∉ recipients.map (·.id) →
        (recipientWrite runtime recipients command recipient).store recipients = some after) := by
  unfold resolveRecipient at done
  split at done
  · rename_i externalId named
    rw [recipientWrite_registered named]
    split at done
    · cases done
    · split at done
      · cases done
        exact ⟨.registered recipient (by rw [named]; exact Option.some_ne_none externalId), fun _ => rfl⟩
      · cases done
  · rename_i adhoc
    unfold resolveAdhoc at done
    split at done
    · cases done
    · simp only [show normalizeAddresses runtime command.addresses = command.supplied runtime from rfl] at done
      split at done
      · -- nobody has the addresses, one recipient has, or several have
        rename_i unmatched
        rw [recipientWrite_unmatched adhoc unmatched]
        obtain ⟨created, creating, kept⟩ := Checked.bind_eq_ok.mp done
        cases kept
        refine ⟨.added _ adhoc unmatched creating, fun fresh => ?_⟩
        obtain ⟨id, -⟩ := Recipient.create_eq_ok creating
        exact if_neg (by rw [id]; exact fresh)
      · rename_i existing matched
        rw [recipientWrite_matched adhoc matched]
        rcases extend_resolved done with ⟨covered, rfl, rfl, includes⟩ | ⟨lacking, rfl, includes, grown, same⟩
        · rw [if_pos covered]
          exact ⟨.reused _ adhoc matched includes, fun _ => rfl⟩
        · rw [if_neg lacking]
          exact ⟨.extended existing _ adhoc matched includes grown same, fun _ => rfl⟩
      · cases done

theorem expand_resolved {runtime : Runtime} {registry : Registry} {command : AcceptNotificationCommand}
    {minted : Minted} {creation : Creation} (expanded : expand runtime registry command minted = .ok creation) :
    Resolved runtime registry.recipients command minted creation.recipient
      (recipientWrite runtime registry.recipients command creation.recipient) := by
  simp only [expand, Checked.bind_eq_ok, Prod.exists] at expanded
  obtain ⟨topic, -, template, -, recipient, recipients, resolved, constraints, -, payload, -, intake, -,
    same⟩ := expanded
  cases same
  exact (resolveRecipient_resolved resolved).1

theorem expand_store {runtime : Runtime} {registry : Registry} {command : AcceptNotificationCommand}
    {minted : Minted} {creation : Creation} (expanded : expand runtime registry command minted = .ok creation)
    (fresh : minted.recipientId ∉ registry.recipients.map (·.id)) :
    creation.intake.id = minted.intakeId ∧
      (recipientWrite runtime registry.recipients command creation.recipient).store registry.recipients =
        some creation.registry.recipients := by
  simp only [expand, Checked.bind_eq_ok, Prod.exists] at expanded
  obtain ⟨topic, -, template, -, recipient, recipients, resolved, constraints, -, payload, -, intake, made,
    same⟩ := expanded
  cases same
  exact ⟨by simp only [NotificationIntake.build_eq_ok.mp made], (resolveRecipient_resolved resolved).2 fresh⟩

end Tiber
