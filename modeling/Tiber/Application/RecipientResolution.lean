import Tiber.Infrastructure.RecipientWrite

/-! The address-based resolution on the rows themselves: the repository writes every
book through `_to_model`, reads it back through `_to_entity`, and the service looks
twice when it loses a creation race.
-/

set_option autoImplicit false

namespace Tiber

open Library

/-- A row of the recipients table. Preferences are not stored. -/
structure RecipientRow where
  id : Uuid
  projectId : Uuid
  externalId : Option Text
  addresses : Addresses
  timezone : Option Zone
  createdAt : Instant
  updatedAt : Instant
  archivedAt : Option Instant
  reachable : addresses.channels ≠ ∅

theorem normalizeAddresses_channels (runtime : Runtime) (addresses : Addresses) :
    (normalizeAddresses runtime addresses).channels = addresses.channels := by
  ext channel
  simp [normalizeAddresses]

namespace RecipientRow

/-- `_to_model`: the addresses are normalized on their way to the row. -/
def toModel (runtime : Runtime) (entity : Recipient) : RecipientRow where
  id := entity.id
  projectId := entity.projectId
  externalId := entity.externalId
  addresses := normalizeAddresses runtime entity.addresses
  timezone := entity.timezone
  createdAt := entity.createdAt
  updatedAt := entity.updatedAt
  archivedAt := entity.archivedAt
  reachable := by
    rw [normalizeAddresses_channels]
    exact entity.reachable

/-- `_to_entity`: a loaded recipient looks fully subscribed. -/
def toEntity (row : RecipientRow) : Recipient where
  id := row.id
  projectId := row.projectId
  addresses := row.addresses
  preferences := {}
  externalId := row.externalId
  timezone := row.timezone
  createdAt := row.createdAt
  updatedAt := row.updatedAt
  archivedAt := row.archivedAt
  reachable := row.reachable
  opted_out_known := Finset.empty_subset _

def Holds (row : RecipientRow) (projectId : Uuid) (channel : DeliveryChannel) (address : Text) : Prop :=
  row.projectId = projectId ∧ row.archivedAt = none ∧ row.addresses channel = some address

def Matches (row : RecipientRow) (projectId : Uuid) (addresses : Addresses) : Prop :=
  row.projectId = projectId ∧ row.archivedAt = none ∧
    ∃ channel, (addresses channel).isSome ∧ row.addresses channel = addresses channel

instance (row : RecipientRow) (projectId : Uuid) (addresses : Addresses) :
    Decidable (row.Matches projectId addresses) := inferInstanceAs (Decidable (_ ∧ _ ∧ _))

theorem matches_iff {row : RecipientRow} {projectId : Uuid} {addresses : Addresses} :
    row.Matches projectId addresses ↔
      ∃ channel address, addresses channel = some address ∧ row.Holds projectId channel address := by
  unfold Matches Holds
  constructor
  · rintro ⟨project, live, channel, some, same⟩
    obtain ⟨address, given⟩ := Option.isSome_iff_exists.mp some
    exact ⟨channel, address, given, project, live, same.trans given⟩
  · rintro ⟨channel, address, given, project, live, held⟩
    exact ⟨project, live, channel, by rw [given]; rfl, held.trans given.symm⟩

end RecipientRow

/-! ## Repository -/

/-- `find_by_addresses`, in no particular order. -/
def findRows (rows : List RecipientRow) (projectId : Uuid) (addresses : Addresses) : List Recipient :=
  (rows.filter fun row => row.Matches projectId addresses).map (·.toEntity)

section
variable (indexed : Bool)

/-- With the address index, another live row of the project that holds an address of this one. -/
def addressTaken (rows : List RecipientRow) (row : RecipientRow) : Prop :=
  indexed = true ∧ row.archivedAt = none ∧
    ∃ other ∈ rows, other.id ≠ row.id ∧ other.Matches row.projectId row.addresses

instance (rows : List RecipientRow) (row : RecipientRow) : Decidable (addressTaken indexed rows row) :=
  inferInstanceAs (Decidable (_ ∧ _ ∧ _))

def addRow (rows : List RecipientRow) (row : RecipientRow) : Checked (List RecipientRow) :=
  if row.id ∈ rows.map (·.id) then .error (.raised "IntegrityError" "duplicate key value")
  else if addressTaken indexed rows row then
    .error (.recipientAddressTaken "An address already belongs to another recipient.")
  else .ok (row :: rows)

/-- `save`: the row with the same id is replaced, or a new one inserted. -/
def saveRow (rows : List RecipientRow) (row : RecipientRow) : Checked (List RecipientRow) :=
  if addressTaken indexed rows row then
    .error (.recipientAddressTaken "An address already belongs to another recipient.")
  else if row.id ∈ rows.map (·.id) then
    .ok (rows.map fun other => if other.id = row.id then row else other)
  else .ok (row :: rows)

/-! ## Service -/

def extendRow (runtime : Runtime) (rows : List RecipientRow) (existing : Recipient) (supplied : Addresses)
    (now : Instant) : Checked Recipient × List RecipientRow :=
  let conflicts := supplied.channels.filter fun channel =>
    (existing.addresses channel).isSome ∧ existing.addresses channel ≠ supplied channel
  if conflicts ≠ ∅ then
    (.error (.addressConflict ("Recipient already has a different address for: " ++
      namesText ((sortedChannels conflicts).map DeliveryChannel.value))), rows)
  else if supplied.channels ⊆ existing.addresses.channels then (.ok existing, rows)
  else
    match existing.updateAddresses
        (fun channel => (existing.addresses channel).orElse fun _ => supplied channel) now with
    | .error failure => (.error failure, rows)
    | .ok updated =>
        match saveRow indexed rows (.toModel runtime updated) with
        | .ok after => (.ok updated, after)
        -- another recipient was given the address meanwhile; nothing is saved
        | .error (.recipientAddressTaken _) =>
            (.error (.ambiguousRecipient "A supplied address belongs to another recipient."), rows)
        | .error failure => (.error failure, rows)

/-- The passes of `_resolve_adhoc`; a further one only after a lost creation race. -/
def resolvePasses (runtime : Runtime) (projectId : Uuid) (normalized : Addresses) (minted : Minted) :
    Nat → List RecipientRow → Checked Recipient × List RecipientRow
  | 0, rows => (.error (.ambiguousRecipient "Could not resolve recipient; retry the request."), rows)
  | passes + 1, rows =>
      match findRows rows projectId normalized with
      | [] =>
          match Recipient.create projectId normalized minted with
          | .error failure => (.error failure, rows)
          | .ok created =>
              match addRow indexed rows (.toModel runtime created) with
              | .ok after => (.ok created, after)
              -- somebody else has just created one of the addresses: look again
              | .error (.recipientAddressTaken _) => resolvePasses runtime projectId normalized minted passes rows
              | .error failure => (.error failure, rows)
      | [existing] => extendRow indexed runtime rows existing normalized minted.now
      | _ => (.error (.ambiguousRecipient
          ("Supplied addresses belong to different recipients. " ++
            "Send them in separate requests or register a recipient.")), rows)

/-- `_resolve_adhoc` -/
def resolveRows (runtime : Runtime) (rows : List RecipientRow) (projectId : Uuid) (addresses : Addresses)
    (minted : Minted) : Checked Recipient × List RecipientRow :=
  if addresses.channels = ∅ then (.error (.valueError "Address-based requests need at least one address"), rows)
  else resolvePasses indexed runtime projectId (normalizeAddresses runtime addresses) minted 2 rows

end

end Tiber
