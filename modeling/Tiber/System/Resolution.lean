import Tiber.Application.RecipientResolution
import Tiber.System.Acceptance

/-! Address-based resolution against its specification, over registries of any size. -/

set_option autoImplicit false

namespace Tiber

open Library

/-- Lower-casing a lower-cased text changes nothing, and brings no white space to its ends. -/
structure Runtime.Lowers (runtime : Runtime) : Prop where
  twice : ∀ text, runtime.lower (runtime.lower text) = runtime.lower text
  strips : ∀ text, Text.strip text = text → Text.strip (runtime.lower text) = runtime.lower text

/-- Every stored address is normalized and has at most one live recipient of the project. -/
structure Registered (runtime : Runtime) (projectId : Uuid) (rows : List RecipientRow) : Prop where
  ids : (rows.map (·.id)).Nodup
  normalized : ∀ row ∈ rows, ∀ channel address, row.addresses channel = some address →
    normalizeAddress runtime channel address = address
  owned : ∀ row ∈ rows, ∀ other ∈ rows, ∀ channel address, row.Holds projectId channel address →
    other.Holds projectId channel address → row = other

structure Specified (runtime : Runtime) (projectId : Uuid) (supplied : Addresses) (rows : List RecipientRow)
    (answer : Checked Recipient) (after : List RecipientRow) : Prop where
  nobody : (∀ row ∈ rows, ¬ row.Matches projectId supplied) →
    ∃ recipient, answer = .ok recipient ∧ recipient.projectId = projectId ∧ recipient.addresses = supplied ∧
      recipient.archivedAt = none ∧ recipient.id ∉ rows.map (·.id) ∧ after.map (·.toEntity) =
        recipient :: rows.map (·.toEntity)
  several : ∀ row ∈ rows, ∀ other ∈ rows, row.Matches projectId supplied → other.Matches projectId supplied →
    row ≠ other → ∃ message, answer = .error (.ambiguousRecipient message)
  conflict : ∀ row ∈ rows, row.Matches projectId supplied →
    (∀ other ∈ rows, other.Matches projectId supplied → other = row) →
    (∃ channel stored address, row.addresses channel = some stored ∧ supplied channel = some address ∧
      stored ≠ address) → ∃ message, answer = .error (.addressConflict message)
  joined : ∀ row ∈ rows, row.Matches projectId supplied →
    (∀ other ∈ rows, other.Matches projectId supplied → other = row) →
    (∀ channel stored address, row.addresses channel = some stored → supplied channel = some address →
      stored = address) →
    ∃ recipient, answer = .ok recipient ∧ recipient.id = row.id ∧ recipient ∈ after.map (·.toEntity) ∧
      ∀ channel, recipient.addresses channel = (row.addresses channel).orElse fun _ => supplied channel
  failed : ∀ error, answer = .error error → after = rows
  kept : ∀ row ∈ rows, ∃ later ∈ after, later.id = row.id ∧ later.addresses.Includes row.addresses
  archived : ∀ row ∈ rows, row.archivedAt ≠ none → row ∈ after

section
variable {runtime : Runtime}

theorem normalizeAddress_twice (lowers : runtime.Lowers) (channel : DeliveryChannel) (address : Text) :
    normalizeAddress runtime channel (normalizeAddress runtime channel address) =
      normalizeAddress runtime channel address := by
  unfold normalizeAddress
  split
  · rw [lowers.strips _ (Text.strip_strip address), lowers.twice]
  · exact Text.strip_strip address

def Canonical (runtime : Runtime) (book : Addresses) : Prop :=
  ∀ channel address, book channel = some address → normalizeAddress runtime channel address = address

theorem normalizeAddresses_self {addresses : Addresses} (normal : Canonical runtime addresses) :
    normalizeAddresses runtime addresses = addresses := by
  funext channel
  unfold normalizeAddresses
  cases given : addresses channel with
  | none => rfl
  | some address => rw [Option.map_some, normal channel address given]

theorem normalized_canonical (lowers : runtime.Lowers) (addresses : Addresses) :
    Canonical runtime (normalizeAddresses runtime addresses) := by
  intro channel address given
  obtain ⟨supplied, -, rfl⟩ := Option.map_eq_some_iff.mp given
  exact normalizeAddress_twice lowers channel supplied

/-- A recipient with normalized addresses and no preferences is loaded as it was stored. -/
theorem row_read_back {recipient : Recipient} (normal : Canonical runtime recipient.addresses)
    (plain : recipient.preferences = {}) : (RecipientRow.toModel runtime recipient).toEntity = recipient := by
  obtain ⟨id, projectId, addresses, preferences, externalId, timezone, createdAt, updatedAt, archivedAt,
    reachable, known⟩ := recipient
  cases plain
  simp only [RecipientRow.toEntity, RecipientRow.toModel, normalizeAddresses_self normal]

/-! ## Look-up -/

variable {projectId : Uuid} {supplied : Addresses} {rows after : List RecipientRow}

def Alone (projectId : Uuid) (supplied : Addresses) (rows : List RecipientRow) (row : RecipientRow) : Prop :=
  row ∈ rows ∧ row.Matches projectId supplied ∧ ∀ other ∈ rows, other.Matches projectId supplied → other = row

theorem Alone.somebody {row : RecipientRow} (alone : Alone projectId supplied rows row)
    (nobody : ∀ other ∈ rows, ¬ other.Matches projectId supplied) : False :=
  nobody row alone.1 alone.2.1

theorem Alone.unambiguous {row one two : RecipientRow} (alone : Alone projectId supplied rows row) (member : one ∈ rows)
    (also : two ∈ rows) (here : one.Matches projectId supplied) (there : two.Matches projectId supplied) : one = two :=
  (alone.2.2 one member here).trans (alone.2.2 two also there).symm

theorem mem_matching {row : RecipientRow} :
    row ∈ rows.filter (fun row => row.Matches projectId supplied) ↔
      row ∈ rows ∧ row.Matches projectId supplied := by
  rw [List.mem_filter, decide_eq_true_eq]

theorem findRows_cases (projectId : Uuid) (supplied : Addresses) (ids : (rows.map (·.id)).Nodup) :
    (findRows rows projectId supplied = [] ∧ ∀ row ∈ rows, ¬ row.Matches projectId supplied) ∨
    (∃ row, findRows rows projectId supplied = [row.toEntity] ∧ Alone projectId supplied rows row) ∨
    ∃ first second rest, findRows rows projectId supplied = first :: second :: rest ∧
      ∃ row ∈ rows, ∃ other ∈ rows, row.Matches projectId supplied ∧ other.Matches projectId supplied ∧ row ≠ other := by
  unfold findRows
  have matching : ∀ row, row ∈ rows.filter (fun row => row.Matches projectId supplied) ↔
      row ∈ rows ∧ row.Matches projectId supplied := fun row => mem_matching
  have apart : (rows.filter fun row => row.Matches projectId supplied).Nodup := (ids.of_map _).filter _
  generalize rows.filter (fun row => row.Matches projectId supplied) = found at matching apart ⊢
  -- no match, one, or the first two of several, which differ as their ids do
  match found, matching, apart with
  | [], matching, _ => exact .inl ⟨rfl, fun row member matched => nomatch (matching row).mpr ⟨member, matched⟩⟩
  | [row], matching, _ =>
      have alone := (matching row).mp (.head _)
      exact .inr (.inl ⟨row, rfl, alone.1, alone.2, fun other member matched =>
        List.mem_singleton.mp ((matching other).mpr ⟨member, matched⟩)⟩)
  | row :: other :: rest, matching, apart =>
      have one := (matching row).mp (.head _)
      have two := (matching other).mp (.tail _ (.head _))
      have different : row ≠ other := fun same => (List.nodup_cons.mp apart).1 (same ▸ .head _)
      exact .inr (.inr ⟨row.toEntity, other.toEntity, rest.map (·.toEntity), rfl, row, one.1, other, two.1, one.2,
        two.2, different⟩)

/-! ## One resolution -/

inductive Outcome (runtime : Runtime) (projectId : Uuid) (supplied : Addresses) (rows : List RecipientRow) :
    Checked Recipient → List RecipientRow → Prop where
  | created (recipient : Recipient) (nobody : ∀ row ∈ rows, ¬ row.Matches projectId supplied)
      (project : recipient.projectId = projectId) (book : recipient.addresses = supplied)
      (live : recipient.archivedAt = none) (plain : recipient.preferences = {})
      (fresh : recipient.id ∉ rows.map (·.id)) :
      Outcome runtime projectId supplied rows (.ok recipient) (.toModel runtime recipient :: rows)
  | ambiguous (message : String) (row other : RecipientRow) (member : row ∈ rows) (also : other ∈ rows)
      (one : row.Matches projectId supplied) (two : other.Matches projectId supplied) (different : row ≠ other) :
      Outcome runtime projectId supplied rows (.error (.ambiguousRecipient message)) rows
  | conflicted (message : String) (row : RecipientRow) (alone : Alone projectId supplied rows row)
      (clash : ∃ channel stored address, row.addresses channel = some stored ∧ supplied channel = some address ∧
        stored ≠ address) :
      Outcome runtime projectId supplied rows (.error (.addressConflict message)) rows
  | known (row : RecipientRow) (alone : Alone projectId supplied rows row)
      (includes : row.addresses.Includes supplied) :
      Outcome runtime projectId supplied rows (.ok row.toEntity) rows
  | extended (row : RecipientRow) (updated : Recipient) (alone : Alone projectId supplied rows row)
      (peace : ∀ channel stored address, row.addresses channel = some stored →
        supplied channel = some address → stored = address)
      (id : updated.id = row.id) (project : updated.projectId = row.projectId) (live : updated.archivedAt = none)
      (plain : updated.preferences = {})
      (book : ∀ channel, updated.addresses channel = (row.addresses channel).orElse fun _ => supplied channel) :
      Outcome runtime projectId supplied rows (.ok updated)
        (rows.map fun other => if other.id = updated.id then .toModel runtime updated else other)

/-- A merged book belongs to nobody else: what is old is held by the row alone,
and whoever holds a new pair matches too. -/
theorem merged_free (registered : Registered runtime projectId rows) {row other : RecipientRow}
    (alone : Alone projectId supplied rows row) (member : other ∈ rows) {book : Addresses}
    (merged : ∀ channel, book channel = (row.addresses channel).orElse fun _ => supplied channel)
    (holds : other.Matches projectId book) : other = row := by
  obtain ⟨held, ⟨project, live, -⟩, only⟩ := alone
  obtain ⟨channel, address, given, owns⟩ := RecipientRow.matches_iff.mp holds
  rw [merged] at given
  -- an old pair has one holder; a new one is among the supplied
  cases stored : row.addresses channel with
  | some address' =>
      rw [stored] at given
      obtain rfl : address' = address := by simpa using given
      exact registered.owned other member row held channel address' owns ⟨project, live, stored⟩
  | none =>
      rw [stored] at given
      exact only other member (RecipientRow.matches_iff.mpr ⟨channel, address, by simpa using given, owns⟩)

theorem conflicts_iff {stored : Addresses} :
    supplied.channels.filter (fun channel => (stored channel).isSome ∧ stored channel ≠ supplied channel) ≠ ∅ ↔
      ∃ channel known address, stored channel = some known ∧ supplied channel = some address ∧ known ≠ address := by
  rw [← Finset.nonempty_iff_ne_empty]
  constructor
  · rintro ⟨channel, clash⟩
    simp only [Finset.mem_filter, Addresses.mem_channels] at clash
    obtain ⟨given, held, different⟩ := clash
    obtain ⟨address, given⟩ := Option.isSome_iff_exists.mp given
    obtain ⟨known, held⟩ := Option.isSome_iff_exists.mp held
    refine ⟨channel, known, address, held, given, fun same => different ?_⟩
    rw [held, given, same]
  · rintro ⟨channel, known, address, held, given, different⟩
    refine ⟨channel, ?_⟩
    simp [held, given, different]

theorem Recipient.updateAddresses_total (existing : Recipient) (plain : existing.preferences = {}) {book : Addresses}
    (reachable : book.channels ≠ ∅) (now : Instant) :
    ∃ updated, existing.updateAddresses book now = .ok updated ∧ updated.addresses = book ∧
      updated.id = existing.id ∧ updated.projectId = existing.projectId ∧
      updated.archivedAt = existing.archivedAt ∧ updated.preferences = {} := by
  unfold Recipient.updateAddresses
  have known : existing.preferences.optedOutChannels ⊆ book.channels := by
    rw [plain]
    exact Finset.empty_subset _
  rw [dif_pos reachable, dif_pos known]
  exact ⟨_, rfl, rfl, rfl, rfl, rfl, plain⟩

theorem toModel_addresses {recipient : Recipient} (normal : Canonical runtime recipient.addresses) :
    (RecipientRow.toModel runtime recipient).addresses = recipient.addresses := normalizeAddresses_self normal

theorem merged_normal (registered : Registered runtime projectId rows)
    (normal : Canonical runtime supplied)
    {row : RecipientRow} (member : row ∈ rows) {book : Addresses}
    (merged : ∀ channel, book channel = (row.addresses channel).orElse fun _ => supplied channel) :
    Canonical runtime book := by
  intro channel address given
  rw [merged] at given
  cases held : row.addresses channel with
  | some known =>
      rw [held] at given
      obtain rfl : known = address := by simpa using given
      exact registered.normalized row member channel known held
  | none =>
      rw [held] at given
      exact normal channel address (by simpa using given)

theorem Recipient.create_total (projectId : Uuid) {book : Addresses} (reachable : book.channels ≠ ∅) (minted : Minted) :
    ∃ created, Recipient.create projectId book minted = .ok created ∧ created.id = minted.recipientId ∧
      created.projectId = projectId ∧ created.addresses = book ∧ created.archivedAt = none ∧
      created.preferences = {} := by
  unfold Recipient.create
  rw [dif_pos reachable]
  exact ⟨_, rfl, rfl, rfl, rfl, rfl, rfl⟩

theorem saveRow_free {indexed : Bool} {row : RecipientRow}
    (free : ∀ other ∈ rows, other.Matches row.projectId row.addresses → other.id = row.id)
    (known : row.id ∈ rows.map (·.id)) :
    saveRow indexed rows row = .ok (rows.map fun other => if other.id = row.id then row else other) := by
  unfold saveRow
  rw [if_neg, if_pos known]
  rintro ⟨-, -, other, member, different, matched⟩
  exact different (free other member matched)

theorem addRow_free {indexed : Bool} {row : RecipientRow}
    (free : ∀ other ∈ rows, ¬ other.Matches row.projectId row.addresses)
    (fresh : row.id ∉ rows.map (·.id)) : addRow indexed rows row = .ok (row :: rows) := by
  unfold addRow
  rw [if_neg fresh, if_neg]
  rintro ⟨-, -, other, member, -, matched⟩
  exact free other member matched

theorem merge_saved (indexed : Bool) (registered : Registered runtime projectId rows)
    (normal : Canonical runtime supplied)
    {row : RecipientRow} (alone : Alone projectId supplied rows row) (now : Instant) :
    ∃ updated, row.toEntity.updateAddresses
        (fun channel => (row.toEntity.addresses channel).orElse fun _ => supplied channel) now = .ok updated ∧
      saveRow indexed rows (.toModel runtime updated) =
        .ok (rows.map fun other => if other.id = updated.id then .toModel runtime updated else other) ∧
      updated.id = row.id ∧ updated.projectId = row.projectId ∧ updated.archivedAt = none ∧
      updated.preferences = {} ∧
      ∀ channel, updated.addresses channel = (row.addresses channel).orElse fun _ => supplied channel := by
  have reachable : Addresses.channels (fun channel => (row.toEntity.addresses channel).orElse fun _ =>
      supplied channel) ≠ ∅ := by
    obtain ⟨channel, held⟩ := Finset.nonempty_iff_ne_empty.mpr row.reachable
    obtain ⟨address, held⟩ := Option.isSome_iff_exists.mp (Addresses.mem_channels.mp held)
    have known : row.toEntity.addresses channel = some address := held
    exact Finset.ne_empty_of_mem (Addresses.mem_channels.mpr (by rw [known]; rfl))
  obtain ⟨updated, done, book, id, project, live, plain⟩ :=
    Recipient.updateAddresses_total row.toEntity rfl reachable now
  have merged : ∀ channel, updated.addresses channel = (row.addresses channel).orElse fun _ => supplied channel :=
    fun channel => by rw [book]; rfl
  -- what is written is the merged book itself: normalizing it once more changes nothing
  have stored := toModel_addresses (merged_normal registered normal alone.1 merged)
  refine ⟨updated, done, saveRow_free ?_ ?_, id, project, live.trans alone.2.1.2.1, plain, merged⟩
  · intro other member holds
    rw [stored, show (RecipientRow.toModel runtime updated).projectId = projectId from
      project.trans alone.2.1.1] at holds
    rw [merged_free registered alone member merged holds]
    exact id.symm
  · rw [show (RecipientRow.toModel runtime updated).id = row.id from id]
    exact List.mem_map_of_mem alone.1

theorem extendRow_outcome (indexed : Bool) (registered : Registered runtime projectId rows)
    (normal : Canonical runtime supplied)
    {row : RecipientRow} (alone : Alone projectId supplied rows row) (now : Instant) :
    Outcome runtime projectId supplied rows (extendRow indexed runtime rows row.toEntity supplied now).1
      (extendRow indexed runtime rows row.toEntity supplied now).2 := by
  unfold extendRow
  dsimp only
  split
  · rename_i clash
    exact .conflicted _ row alone (conflicts_iff.mp clash)
  · rename_i quiet
    -- no conflict: where both books have a channel they agree on it
    have peace : ∀ channel stored address, row.addresses channel = some stored → supplied channel = some address →
        stored = address := by
      intro channel stored address held given
      by_contra different
      exact quiet (conflicts_iff.mpr ⟨channel, stored, address, held, given, different⟩)
    split
    · rename_i covered
      refine .known row alone fun channel address given => ?_
      obtain ⟨stored, held⟩ := Option.isSome_iff_exists.mp
        (Addresses.mem_channels.mp (covered (Addresses.mem_channels.mpr (by rw [given]; rfl))))
      rw [show row.addresses channel = some stored from held, peace channel stored address held given]
    -- a new channel: the merged book is saved
    · obtain ⟨updated, done, saved, id, project, live, plain, book⟩ := merge_saved indexed registered normal alone now
      rw [done]
      dsimp only
      rw [saved]
      exact .extended row updated alone peace id project live plain book

theorem create_added (indexed : Bool) {addresses : Addresses}
    (normal : Canonical runtime (normalizeAddresses runtime addresses))
    (some : addresses.channels ≠ ∅)
    (nobody : ∀ row ∈ rows, ¬ row.Matches projectId (normalizeAddresses runtime addresses)) {minted : Minted}
    (fresh : minted.recipientId ∉ rows.map (·.id)) :
    ∃ created, Recipient.create projectId (normalizeAddresses runtime addresses) minted = .ok created ∧
      addRow indexed rows (.toModel runtime created) = .ok (.toModel runtime created :: rows) ∧
      (RecipientRow.toModel runtime created).toEntity = created ∧
      created.id = minted.recipientId ∧ created.projectId = projectId ∧
      created.addresses = normalizeAddresses runtime addresses ∧ created.archivedAt = none ∧
      created.preferences = {} := by
  have reachable : (normalizeAddresses runtime addresses).channels ≠ ∅ := by
    rw [normalizeAddresses_channels]
    exact some
  obtain ⟨created, done, id, project, book, live, plain⟩ := Recipient.create_total projectId reachable minted
  have own : Canonical runtime created.addresses := by
    rw [book]
    exact normal
  refine ⟨created, done, addRow_free ?_ ?_, row_read_back own plain, id, project, book, live, plain⟩
  · intro other member matched
    rw [toModel_addresses own, book, show (RecipientRow.toModel runtime created).projectId = projectId from
      project] at matched
    exact nobody other member matched
  · rwa [show (RecipientRow.toModel runtime created).id = minted.recipientId from id]

/-- Without interference the first pass decides, with or without the index. -/
theorem resolveRows_outcome (indexed : Bool) (lowers : runtime.Lowers) (registered : Registered runtime projectId rows)
    {addresses : Addresses} (some : addresses.channels ≠ ∅) {minted : Minted}
    (fresh : minted.recipientId ∉ rows.map (·.id)) :
    Outcome runtime projectId (normalizeAddresses runtime addresses) rows
      (resolveRows indexed runtime rows projectId addresses minted).1
      (resolveRows indexed runtime rows projectId addresses minted).2 := by
  have normal : Canonical runtime (normalizeAddresses runtime addresses) := normalized_canonical lowers addresses
  unfold resolveRows
  rw [if_neg some]
  unfold resolvePasses
  rcases findRows_cases projectId (normalizeAddresses runtime addresses) registered.ids with
    ⟨none, nobody⟩ | ⟨row, one, alone⟩ | ⟨first, second, rest, several, row, member, other, also, here, there, apart⟩
  · obtain ⟨created, done, added, -, id, project, book, live, plain⟩ := create_added indexed normal some nobody fresh
    rw [none]
    dsimp only
    rw [done]
    dsimp only
    rw [added]
    exact .created created nobody project book live plain (by rwa [id])
  · rw [one]
    exact extendRow_outcome indexed registered normal alone minted.now
  · rw [several]
    exact .ambiguous _ row other member also here there apart

/-! ## What holds afterwards -/

theorem mem_replaced {updated row : RecipientRow} {id : Uuid}
    (member : row ∈ rows.map fun other => if other.id = id then updated else other) :
    row = updated ∨ row ∈ rows ∧ row.id ≠ id := by
  obtain ⟨other, held, rfl⟩ := List.mem_map.mp member
  split
  · exact .inl rfl
  · rename_i different
    exact .inr ⟨held, different⟩

theorem row_eq_of_id (registered : Registered runtime projectId rows) {row other : RecipientRow} (member : row ∈ rows)
    (also : other ∈ rows) (same : row.id = other.id) : row = other :=
  List.inj_on_of_nodup_map registered.ids member also same

theorem registered_of_write (registered : Registered runtime projectId rows) (written : RecipientRow)
    (ids : (after.map (·.id)).Nodup)
    (members : ∀ row ∈ after, row = written ∨ row ∈ rows ∧ row.id ≠ written.id)
    (normal : Canonical runtime written.addresses)
    (free : ∀ other ∈ rows, other.Matches projectId written.addresses → other.id = written.id) :
    Registered runtime projectId after := by
  have stranger : ∀ row ∈ rows, row.id ≠ written.id → ∀ channel address, row.Holds projectId channel address →
      ¬ written.Holds projectId channel address := by
    intro row member different channel address holds owns
    exact different (free row member (RecipientRow.matches_iff.mpr ⟨channel, address, owns.2.2, holds⟩))
  -- two rows that share a pair: both old, or one of them the written one, which shares with nobody
  refine ⟨ids, fun row member channel address held => ?_, fun row member other also channel address holds shares => ?_⟩
  · rcases members row member with rfl | ⟨old, -⟩
    · exact normal channel address held
    · exact registered.normalized row old channel address held
  · rcases members row member with rfl | ⟨old, different⟩
    · rcases members other also with rfl | ⟨old', different'⟩
      · rfl
      · exact absurd holds (stranger other old' different' channel address shares)
    · rcases members other also with rfl | ⟨old', different'⟩
      · exact absurd shares (stranger row old different channel address holds)
      · exact registered.owned row old other old' channel address holds shares

variable {answer : Checked Recipient}

theorem Outcome.registered (registered : Registered runtime projectId rows)
    (normal : Canonical runtime supplied)
    (outcome : Outcome runtime projectId supplied rows answer after) : Registered runtime projectId after := by
  cases outcome with
  | created recipient nobody project book live plain fresh =>
      have same : (RecipientRow.toModel runtime recipient).addresses = supplied := by
        rw [toModel_addresses (by rw [book]; exact normal), book]
      refine registered_of_write registered (.toModel runtime recipient) (List.nodup_cons.mpr ⟨fresh, registered.ids⟩) ?_ ?_ ?_
      · intro row member
        rcases List.mem_cons.mp member with rfl | old
        · exact .inl rfl
        · exact .inr ⟨old, fun clash => fresh (List.mem_map.mpr ⟨row, old, clash⟩)⟩
      · rw [same]
        exact normal
      · intro other member matched
        rw [same] at matched
        exact absurd matched (nobody other member)
  | ambiguous => exact registered
  | conflicted => exact registered
  | known => exact registered
  | extended row updated alone peace id project live plain book =>
      have same := toModel_addresses (merged_normal registered normal alone.1 book)
      refine registered_of_write registered (.toModel runtime updated) ?_ (fun row member => mem_replaced member) ?_ ?_
      -- a row is replaced by one with its own id
      · have unchanged : (rows.map fun other => if other.id = updated.id then .toModel runtime updated else other).map
            (·.id) = rows.map (·.id) := by
          rw [List.map_map]
          refine List.map_congr_left fun other _ => ?_
          simp only [Function.comp_apply]
          split
          · rename_i equal
            exact equal.symm
          · rfl
        rw [unchanged]
        exact registered.ids
      · rw [same]
        exact merged_normal registered normal alone.1 book
      · intro other member matched
        rw [same] at matched
        rw [merged_free registered alone member book matched]
        exact id.symm

theorem resolveRows_known (indexed : Bool) (registered : Registered runtime projectId rows)
    {addresses : Addresses} (some : addresses.channels ≠ ∅) {row : RecipientRow} (member : row ∈ rows)
    (project : row.projectId = projectId) (live : row.archivedAt = none)
    (includes : row.addresses.Includes (normalizeAddresses runtime addresses)) (minted : Minted) :
    resolveRows indexed runtime rows projectId addresses minted = (.ok row.toEntity, rows) := by
  have reachable : (normalizeAddresses runtime addresses).channels ≠ ∅ := by
    rw [normalizeAddresses_channels]
    exact some
  obtain ⟨channel, given⟩ := Finset.nonempty_iff_ne_empty.mpr reachable
  obtain ⟨address, given⟩ := Option.isSome_iff_exists.mp (Addresses.mem_channels.mp given)
  have matched : row.Matches projectId (normalizeAddresses runtime addresses) :=
    RecipientRow.matches_iff.mpr ⟨channel, address, given, project, live, includes channel address given⟩
  -- whoever holds a supplied pair holds one of this row
  have only : ∀ other ∈ rows, other.Matches projectId (normalizeAddresses runtime addresses) → other = row := by
    intro other also here
    obtain ⟨channel, address, given, holds⟩ := RecipientRow.matches_iff.mp here
    exact registered.owned other also row member channel address holds
      ⟨project, live, includes channel address given⟩
  unfold resolveRows
  rw [if_neg some]
  unfold resolvePasses
  rcases findRows_cases projectId (normalizeAddresses runtime addresses) registered.ids with
    ⟨-, nobody⟩ | ⟨found, one, alone⟩ | ⟨first, second, rest, -, one, here, two, there, matches₁, matches₂, apart⟩
  · exact absurd matched (nobody row member)
  · obtain rfl := only found alone.1 alone.2.1
    rw [one]
    dsimp only
    unfold extendRow
    dsimp only
    rw [if_neg, if_pos]
    · intro channel supplied
      obtain ⟨address, given⟩ := Option.isSome_iff_exists.mp (Addresses.mem_channels.mp supplied)
      exact Addresses.mem_channels.mpr (by rw [show found.toEntity.addresses channel = _ from includes channel address given]; rfl)
    · intro clash
      obtain ⟨channel, stored, address, held, given, different⟩ := conflicts_iff.mp clash
      rw [show found.toEntity.addresses channel = _ from includes channel address given] at held
      exact different (Option.some.inj held).symm
  · exact absurd ((only one here matches₁).trans (only two there matches₂).symm) apart

theorem updated_loaded (registered : Registered runtime projectId rows)
    (normal : Canonical runtime supplied)
    {row : RecipientRow} {updated : Recipient} (alone : Alone projectId supplied rows row) (id : updated.id = row.id)
    (plain : updated.preferences = {})
    (book : ∀ channel, updated.addresses channel = (row.addresses channel).orElse fun _ => supplied channel) :
    (RecipientRow.toModel runtime updated).toEntity = updated ∧ RecipientRow.toModel runtime updated ∈
      rows.map fun other => if other.id = updated.id then .toModel runtime updated else other :=
  ⟨row_read_back (merged_normal registered normal alone.1 book) plain,
    List.mem_map.mpr ⟨row, alone.1, if_pos id.symm⟩⟩

theorem Outcome.found (registered : Registered runtime projectId rows)
    (normal : Canonical runtime supplied)
    {recipient : Recipient} (outcome : Outcome runtime projectId supplied rows (.ok recipient) after) :
    ∃ row ∈ after, row.toEntity = recipient ∧ row.projectId = projectId ∧ row.archivedAt = none ∧
      row.addresses.Includes supplied := by
  cases outcome with
  | created _ nobody project book live plain fresh =>
      have own : Canonical runtime recipient.addresses := by
        rw [book]
        exact normal
      refine ⟨_, .head _, row_read_back own plain, project, live, fun channel address given => ?_⟩
      rw [toModel_addresses own, book]
      exact given
  | known row alone includes => exact ⟨row, alone.1, rfl, alone.2.1.1, alone.2.1.2.1, includes⟩
  | extended row updated alone peace id project live plain book =>
      obtain ⟨loaded, member⟩ := updated_loaded registered normal alone id plain book
      refine ⟨_, member, loaded, project.trans alone.2.1.1, live, fun channel address given => ?_⟩
      rw [toModel_addresses (merged_normal registered normal alone.1 book), book]
      cases held : row.addresses channel with
      | none => exact given
      | some stored => rw [peace channel stored address held given]; rfl

theorem Outcome.specified (registered : Registered runtime projectId rows)
    (normal : Canonical runtime supplied)
    (outcome : Outcome runtime projectId supplied rows answer after) :
    Specified runtime projectId supplied rows answer after := by
  have same : ∀ book : Addresses, book.Includes book := fun book channel address held => held
  cases outcome with
  | created recipient nobody project book live plain fresh =>
      have loaded : (RecipientRow.toModel runtime recipient).toEntity = recipient :=
        row_read_back (by rw [book]; exact normal) plain
      constructor
      · exact fun _ => ⟨recipient, rfl, project, book, live, fresh, by rw [List.map_cons, loaded]⟩
      · exact fun row member _ _ here => absurd here (nobody row member)
      · exact fun row member here => absurd here (nobody row member)
      · exact fun row member here => absurd here (nobody row member)
      · exact fun error impossible => nomatch impossible
      · exact fun row member => ⟨row, .tail _ member, rfl, same _⟩
      · exact fun row member _ => .tail _ member
  | ambiguous message row other member also one two different =>
      constructor
      · exact fun nobody => absurd one (nobody row member)
      · exact fun _ _ _ _ _ _ _ => ⟨message, rfl⟩
      · exact fun _ _ _ only => absurd ((only row member one).trans (only other also two).symm) different
      · exact fun _ _ _ only => absurd ((only row member one).trans (only other also two).symm) different
      · exact fun _ _ => rfl
      · exact fun row member => ⟨row, member, rfl, same _⟩
      · exact fun row member _ => member
  | conflicted message row alone clash =>
      constructor
      · exact fun nobody => (alone.somebody nobody).elim
      · exact fun one member two also here there different =>
          absurd (alone.unambiguous member also here there) different
      · exact fun _ _ _ _ _ => ⟨message, rfl⟩
      · intro other member here _ peace
        obtain ⟨channel, stored, address, held, given, different⟩ := clash
        rw [alone.2.2 other member here] at peace
        exact absurd (peace channel stored address held given) different
      · exact fun _ _ => rfl
      · exact fun row member => ⟨row, member, rfl, same _⟩
      · exact fun row member _ => member
  | known row alone includes =>
      constructor
      · exact fun nobody => (alone.somebody nobody).elim
      · exact fun one member two also here there different =>
          absurd (alone.unambiguous member also here there) different
      · intro other member here _ clash
        obtain ⟨channel, stored, address, held, given, different⟩ := clash
        rw [alone.2.2 other member here, includes channel address given] at held
        exact absurd (Option.some.inj held).symm different
      · intro other member here _ _
        obtain rfl := alone.2.2 other member here
        refine ⟨other.toEntity, rfl, rfl, List.mem_map_of_mem member, fun channel => ?_⟩
        show other.addresses channel = _
        cases given : supplied channel with
        | none => cases other.addresses channel <;> rfl
        | some address => rw [includes channel address given]; rfl
      · exact fun _ impossible => nomatch impossible
      · exact fun row member => ⟨row, member, rfl, same _⟩
      · exact fun row member _ => member
  | extended row updated alone peace id project live plain book =>
      obtain ⟨loaded, member⟩ := updated_loaded registered normal alone id plain book
      constructor
      · exact fun nobody => (alone.somebody nobody).elim
      · exact fun one member two also here there different =>
          absurd (alone.unambiguous member also here there) different
      · intro other member here _ clash
        obtain ⟨channel, stored, address, held, given, different⟩ := clash
        rw [alone.2.2 other member here] at held
        exact absurd (peace channel stored address held given) different
      · intro other also here _ _
        obtain rfl := alone.2.2 other also here
        exact ⟨updated, rfl, id, List.mem_map.mpr ⟨_, member, loaded⟩, book⟩
      · exact fun _ impossible => nomatch impossible
      · intro other also
        -- the row itself keeps its old pairs, every other row stays as it is
        by_cases this : other = row
        · subst this
          refine ⟨_, member, id, fun channel address held => ?_⟩
          rw [toModel_addresses (merged_normal registered normal alone.1 book), book, held]
          rfl
        · have different : other.id ≠ updated.id := fun clash =>
            this (row_eq_of_id registered also alone.1 (clash.trans id))
          exact ⟨other, List.mem_map.mpr ⟨other, also, if_neg different⟩, rfl, same _⟩
      · intro other also archived
        have different : other.id ≠ updated.id := fun clash => by
          rw [row_eq_of_id registered also alone.1 (clash.trans id)] at archived
          exact archived alone.2.1.2.1
        exact List.mem_map.mpr ⟨other, also, if_neg different⟩

end

/-- Resolving supplied addresses meets its specification, leaves a registry in
order, and resolving them again finds the same recipient and writes nothing. -/
theorem resolution_specified (indexed : Bool) {runtime : Runtime} (lowers : runtime.Lowers) {projectId : Uuid}
    {rows : List RecipientRow} (registered : Registered runtime projectId rows) {addresses : Addresses}
    (some : addresses.channels ≠ ∅) {minted : Minted} (fresh : minted.recipientId ∉ rows.map (·.id))
    {answer : Checked Recipient} {after : List RecipientRow}
    (resolved : resolveRows indexed runtime rows projectId addresses minted = (answer, after)) :
    Specified runtime projectId (normalizeAddresses runtime addresses) rows answer after ∧
      Registered runtime projectId after ∧
      ∀ recipient, answer = .ok recipient → ∀ later : Minted,
        resolveRows indexed runtime after projectId addresses later = (.ok recipient, after) := by
  have normal : Canonical runtime (normalizeAddresses runtime addresses) := normalized_canonical lowers addresses
  have outcome := resolveRows_outcome indexed lowers registered some fresh
  rw [resolved] at outcome
  have kept := outcome.registered registered normal
  refine ⟨outcome.specified registered normal, kept, ?_⟩
  rintro recipient rfl later
  obtain ⟨row, member, rfl, project, live, includes⟩ := outcome.found registered normal
  exact resolveRows_known indexed kept some member project live includes later

/-! ## The resolution inside an accept call

An accept call resolves over loaded recipients; on a registry in order it finds and
writes what the rows say.
-/

section
variable {runtime : Runtime} {projectId : Uuid} {supplied : Addresses} {rows : List RecipientRow}

theorem findByAddresses_rows (rows : List RecipientRow) (projectId : Uuid) (addresses : Addresses) :
    findByAddresses (rows.map (·.toEntity)) projectId addresses = findRows rows projectId addresses := by
  unfold findByAddresses findRows
  rw [List.filter_map]
  rfl

theorem extend_rows (indexed : Bool) (registered : Registered runtime projectId rows)
    (normal : Canonical runtime supplied)
    {row : RecipientRow} (alone : Alone projectId supplied rows row) (now : Instant) :
    extend (rows.map (·.toEntity)) row.toEntity supplied now =
      (extendRow indexed runtime rows row.toEntity supplied now).1.map fun recipient =>
        (recipient, (extendRow indexed runtime rows row.toEntity supplied now).2.map (·.toEntity)) := by
  unfold extend extendRow
  dsimp only
  split
  · rfl
  · split
    · rfl
    · obtain ⟨updated, done, saved, id, -, -, plain, book⟩ := merge_saved indexed registered normal alone now
      have loaded := row_read_back (merged_normal registered normal alone.1 book) plain
      rw [done]
      dsimp only
      rw [saved]
      simp only [bind, Except.bind, pure, Except.pure, Except.map, saveRecipient, List.map_map]
      congr 2
      refine List.map_congr_left fun other _ => ?_
      simp only [Function.comp_apply]
      split
      · rename_i same
        rw [if_pos (show other.id = updated.id from same), loaded]
      · rename_i different
        rw [if_neg (show ¬ other.id = updated.id from different)]

/-- Resolving over the loaded recipients is resolving over the rows. -/
theorem resolveAdhoc_rows (indexed : Bool) (lowers : runtime.Lowers) (registered : Registered runtime projectId rows)
    {addresses : Addresses} {minted : Minted} (fresh : minted.recipientId ∉ rows.map (·.id)) :
    resolveAdhoc runtime (rows.map (·.toEntity)) projectId addresses minted =
      (resolveRows indexed runtime rows projectId addresses minted).1.map fun recipient =>
        (recipient, (resolveRows indexed runtime rows projectId addresses minted).2.map (·.toEntity)) := by
  have normal : Canonical runtime (normalizeAddresses runtime addresses) := normalized_canonical lowers addresses
  unfold resolveAdhoc resolveRows
  split
  · rfl
  · rename_i some
    dsimp only
    unfold resolvePasses
    rw [findByAddresses_rows]
    rcases findRows_cases projectId (normalizeAddresses runtime addresses) registered.ids with
      ⟨none, nobody⟩ | ⟨row, one, alone⟩ | ⟨first, second, rest, several, -⟩
    · obtain ⟨created, done, added, loaded, -⟩ := create_added indexed normal some nobody fresh
      rw [none]
      dsimp only
      rw [done]
      dsimp only
      rw [added]
      simp only [bind, Except.bind, pure, Except.pure, Except.map, List.map_cons, loaded]
    · rw [one]
      exact extend_rows indexed registered normal alone minted.now
    · rw [several]
      rfl

end

/-! ## A small registry -/

theorem toLower_cases (c : Char) : (65 ≤ c.toNat ∧ c.toNat ≤ 90 ∧ c.toLower.toNat = c.toNat + 32) ∨
    ((c.toNat < 65 ∨ 90 < c.toNat) ∧ c.toLower = c) := by
  unfold Char.toLower
  split
  · rename_i upper
    simp only [ge_iff_le, UInt32.le_iff_toNat_le] at upper
    have low : 65 ≤ c.val.toNat := upper.1
    have high : c.val.toNat ≤ 90 := upper.2
    have shift : ('a'.val - 'A'.val).toNat = 32 := rfl
    refine .inl ⟨low, high, ?_⟩
    simp only [Char.toNat, UInt32.toNat_add, shift]
    omega
  · rename_i other
    simp only [ge_iff_le, UInt32.le_iff_toNat_le, not_and_or, Nat.not_le] at other
    exact .inr ⟨other, rfl⟩

theorem isSpace_toLower (c : Char) : Text.isSpace c.toLower = Text.isSpace c := by
  rcases toLower_cases c with ⟨low, high, shifted⟩ | ⟨-, same⟩
  · have solid : ∀ n, 65 ≤ n → n ≤ 122 → ∀ d : Char, d.toNat = n → Text.isSpace d = false := by
      intro n above below d code
      simp only [Text.isSpace, code, Bool.or_eq_false_iff, Bool.and_eq_false_iff, decide_eq_false_iff_not,
        beq_eq_false_iff_ne]
      omega
    rw [solid _ (by omega) (by omega) c.toLower rfl, solid _ low (by omega) c rfl]
  · rw [same]

theorem strip_map {f : Char → Char} (blanks : ∀ c, Text.isSpace (f c) = Text.isSpace c) (text : Text) :
    Text.strip (text.map f) = (Text.strip text).map f := by
  have same : Text.isSpace ∘ f = Text.isSpace := funext blanks
  simp only [Text.strip, List.rdropWhile, List.dropWhile_map, ← List.map_reverse, same]

theorem toLower_toLower (c : Char) : c.toLower.toLower = c.toLower := by
  rcases toLower_cases c with ⟨low, high, shifted⟩ | ⟨-, same⟩
  · rcases toLower_cases c.toLower with ⟨-, small, -⟩ | ⟨-, same⟩
    · omega
    · exact same
  · rw [same, same]

theorem cpython_lowers : cpython.Lowers where
  twice text := by
    show (text.map Char.toLower).map Char.toLower = text.map Char.toLower
    rw [List.map_map]
    exact List.map_congr_left fun c _ => toLower_toLower c
  strips text stripped := by
    show Text.strip (text.map Char.toLower) = text.map Char.toLower
    rw [strip_map isSpace_toLower, stripped]

theorem subscriber_reachable :
    Addresses.channels (fun channel => if channel = .sms then some "+15550100".toList else none) ≠ ∅ := by decide

def subscriber : RecipientRow where
  id := 3
  projectId := 1
  externalId := none
  addresses channel := if channel = .sms then some "+15550100".toList else none
  timezone := none
  createdAt := 0
  updatedAt := 0
  archivedAt := none
  reachable := subscriber_reachable

def withEmail : Addresses
  | .sms => some " +15550100 ".toList
  | .email => some "ADA@EXAMPLE.ORG".toList
  | _ => none

theorem subscriber_extended : ∃ answer after,
    resolveRows true cpython [subscriber] 1 withEmail firstIds = (answer, after) ∧
      Specified cpython 1 (normalizeAddresses cpython withEmail) [subscriber] answer after := by
  refine ⟨_, _, rfl, (resolution_specified true cpython_lowers ?_ (by decide) (by decide) rfl).1⟩
  refine ⟨by decide, ?_, ?_⟩
  · rintro row member channel address held
    obtain rfl := List.mem_singleton.mp member
    cases channel <;> cases held
    rfl
  · rintro row member other also channel address - -
    rw [List.mem_singleton.mp member, List.mem_singleton.mp also]

end Tiber
