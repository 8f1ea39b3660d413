import Tiber.Application.ApiKeys
import Tiber.Library.Machine
import Mathlib.Logic.Function.Basic

/-! Requests that use and manage API keys, one read or write of the database or of Redis at a time.

A party authenticates with a raw key, or as an account that creates a key, revokes one or deactivates
itself. Redis may fail, drop an entry or lose its content at any point.
-/

set_option autoImplicit false

namespace Tiber.ApiKeyRuns

open Library

/-- The raw key a request presents, and when `authenticate` read the clock. -/
structure Call where
  rawKey : Text
  now : Instant
  deriving DecidableEq

inductive Closing where
  | key (id : Uuid)
  | account (id : Uuid)
  deriving DecidableEq

/-- Where a party stands. A key to revoke is already the revoked copy, the keys of an account are as read. -/
inductive Phase where
  | idle
  | looking (call : Call)
  | missed (call : Call)
  | loaded (call : Call) (entry : CachedApiKey)
  | decided (call : Call) (answer : Checked ApiKeyPrincipal)
  | authorized (accountId : Uuid)
  | revoking (key : ApiKey)
  | listed (accountId : Uuid) (keys : List ApiKey)
  | invalidating (hashes : List Text) (closing : Closing)
  | failed (failure : PyError)

/-- The database, Redis, the parties, and two records: the hashes invalidated and the operations returned. -/
structure State where
  table : ApiKeyTable := {}
  cache : Text → Option RedisEntry := fun _ => none
  active : Uuid → Bool := fun _ => true
  phase : Nat → Phase := fun _ => .idle
  invalidated : List Text := []
  closed : List Closing := []

inductive Event where
  | present (party : Nat) (call : Call)
  | get (party : Nat) (reachable : Bool)
  | read (party : Nat)
  | set (party : Nat) (reachable : Bool) (now : Instant)
  | authorize (party : Nat) (accountId : Uuid)
  | create (party : Nat) (id projectId : Uuid) (name secret : Text) (now : Instant)
  | readKey (party : Nat) (projectId keyId : Uuid) (now : Instant)
  | commitRevoke (party : Nat)
  | listKeys (party : Nat)
  | commitDeactivate (party : Nat) (now : Uuid → Instant)
  | invalidate (party : Nat) (reachable : Bool)
  | finish (party : Nat)
  | leave (party : Nat)
  | evict (keyHash : Text)
  | spoil (keyHash : Text) (value : RedisEntry)

def State.enter (state : State) (party : Nat) (phase : Phase) : State :=
  { state with phase := Function.update state.phase party phase }

/-- `authenticate` up to its first look into the cache. -/
def Call.presented (call : Call) : Phase :=
  if isApiKey call.rawKey then .looking call else .decided call (.error RejectionReason.malformed.error)

/-- What the code has from outside: spellings, `hash_api_key`, and the accounts that own the projects. -/
structure Setting where
  spellings : CacheSpellings
  hashKey : Text → Text
  owner : Uuid → Option Uuid

namespace Setting

variable (setting : Setting)

def facts (table : ApiKeyTable) (call : Call) : CachedApiKey :=
  CachedApiKey.facts (table.getByHash (setting.hashKey call.rawKey))

/-- `authenticate` against the database alone. -/
def direct (table : ApiKeyTable) (call : Call) : Checked ApiKeyPrincipal :=
  if isApiKey call.rawKey then decideRow (table.getByHash (setting.hashKey call.rawKey)) call.now
  else .error RejectionReason.malformed.error

/-- `get`, and the decision on a hit. A failed read is a miss. -/
def got (cache : Text → Option RedisEntry) (call : Call) (reachable : Bool) : Phase :=
  match if reachable then readEntry setting.spellings (cache (setting.hashKey call.rawKey)) else .ok none with
  | .ok (some entry) => .decided call (entry.evaluate call.now)
  | .ok none => .missed call
  | .error failure => .decided call (.error failure)

end Setting

def Closing.unconfirmed : Closing → PyError
  | .key _ => apiKeyManagementError "api_key_state_unavailable"
  | .account _ => .raised "AuthenticationOperationError" "api_key_state_unavailable"

def Phase.ofChecked {α : Type} (onward : α → Phase) : Checked α → Phase
  | .ok value => onward value
  | .error failure => .failed failure

def State.commit (state : State) (party : Nat) (result : Checked ApiKeyTable) (phase : Phase) : State :=
  match result with
  | .ok table => { state.enter party phase with table }
  | .error failure => state.enter party (.failed failure)

variable (setting : Setting)

def step (state : State) : Event → Option State
  | .present party call =>
      match state.phase party with
      | .idle => some (state.enter party (call.presented))
      | _ => none
  | .get party reachable =>
      match state.phase party with
      | .looking call => some (state.enter party (setting.got state.cache call reachable))
      | _ => none
  | .read party =>
      match state.phase party with
      | .missed call => some (state.enter party (.loaded call (setting.facts state.table call)))
      | _ => none
  | .set party reachable now =>
      match state.phase party with
      | .loaded call entry => some { state.enter party (.decided call (entry.evaluate call.now)) with
          cache := if reachable then
            Function.update state.cache (setting.hashKey call.rawKey) (some (writeEntry setting.spellings entry now))
            else state.cache }
      | _ => none
  | .authorize party accountId =>
      match state.phase party with
      | .idle => some (state.enter party (if state.active accountId then .authorized accountId
          else .failed (.raised "HTTPException" "Account is not authorized.")))
      | _ => none
  | .create party id projectId name secret now =>
      match state.phase party with
      | .authorized accountId =>
          -- `uuid4` never gives an id twice
          if state.table.rows.any (·.id = id) then none
          else some (state.commit party (do
            let key ← newKey setting.hashKey id projectId name secret now
            createKey setting.owner state.table accountId key) .idle)
      | _ => none
  | .readKey party projectId keyId now =>
      match state.phase party with
      | .authorized accountId => some (state.enter party
          (.ofChecked .revoking (keyToRevoke setting.owner state.table projectId accountId keyId now)))
      | _ => none
  | .commitRevoke party =>
      match state.phase party with
      | .revoking key =>
          some (state.commit party (state.table.save key) (.invalidating [key.keyHash] (.key key.id)))
      | _ => none
  | .listKeys party =>
      match state.phase party with
      | .authorized accountId => some (state.enter party
          (.ofChecked (.listed accountId) (keysOfAccount setting.owner state.active state.table accountId)))
      | _ => none
  | .commitDeactivate party now =>
      match state.phase party with
      | .listed accountId keys =>
          match state.table.saveAll (keys.map fun key => key.revoke (now key.id)) with
          | .ok table => some { state.enter party (.invalidating (keys.map (·.keyHash)) (.account accountId)) with
              table
              active := Function.update state.active accountId false }
          | .error failure => some (state.enter party (.failed failure))
      | _ => none
  | .invalidate party reachable =>
      match state.phase party with
      | .invalidating (keyHash :: rest) closing =>
          if reachable then some { state.enter party (.invalidating rest closing) with
            cache := Function.update state.cache keyHash none
            invalidated := keyHash :: state.invalidated }
          else some (state.enter party (.failed closing.unconfirmed))
      | _ => none
  | .finish party =>
      match state.phase party with
      | .invalidating [] closing => some { state.enter party .idle with closed := closing :: state.closed }
      | _ => none
  | .leave party => some (state.enter party .idle)
  | .evict keyHash => some { state with cache := Function.update state.cache keyHash none }
  | .spoil keyHash value =>
      match readEntry setting.spellings (some value) with
      | .ok none => some { state with cache := Function.update state.cache keyHash (some value) }
      | _ => none

/-! ## What a step can do -/

variable {setting}

/-- The changes of phase that leave the table, Redis and the records as they are. -/
inductive Turn (setting : Setting) (state : State) : Phase → Phase → Prop where
  | presented (call : Call) : Turn setting state .idle (call.presented)
  | got (call : Call) (reachable : Bool) :
      Turn setting state (.looking call) (setting.got state.cache call reachable)
  | loaded (call : Call) : Turn setting state (.missed call) (.loaded call (setting.facts state.table call))
  | authorized (accountId : Uuid) : Turn setting state .idle (.authorized accountId)
  | revoking (accountId projectId keyId : Uuid) (now : Instant) (key : ApiKey)
      (read : keyToRevoke setting.owner state.table projectId accountId keyId now = .ok key) :
      Turn setting state (.authorized accountId) (.revoking key)
  | listed (accountId : Uuid) (keys : List ApiKey)
      (read : keysOfAccount setting.owner state.active state.table accountId = .ok keys) :
      Turn setting state (.authorized accountId) (.listed accountId keys)
  | failed (phase : Phase) (failure : PyError) : Turn setting state phase (.failed failure)
  | left (phase : Phase) : Turn setting state phase .idle

/-- Every enabled event, with what its party stands on and where it leads. -/
inductive Move (setting : Setting) (state : State) : Event → State → Prop where
  | turned (event : Event) (party : Nat) (phase : Phase)
      (turn : Turn setting state (state.phase party) phase) :
      Move setting state event (state.enter party phase)
  | cached (party : Nat) (reachable : Bool) (now : Instant) (call : Call) (entry : CachedApiKey)
      (stands : state.phase party = .loaded call entry) :
      Move setting state (.set party reachable now)
        { state.enter party (.decided call (entry.evaluate call.now)) with
          cache := if reachable then
            Function.update state.cache (setting.hashKey call.rawKey) (some (writeEntry setting.spellings entry now))
            else state.cache }
  | created (party : Nat) (id projectId : Uuid) (name secret : Text) (now : Instant) (accountId : Uuid) (key : ApiKey)
      (table : ApiKeyTable) (stands : state.phase party = .authorized accountId)
      (fresh : ∀ row ∈ state.table.rows, row.id ≠ key.id) (owned : setting.owner key.projectId = some accountId)
      (saved : state.table.save key = .ok table) :
      Move setting state (.create party id projectId name secret now) { state.enter party .idle with table }
  | revoked (party : Nat) (key : ApiKey) (table : ApiKeyTable) (stands : state.phase party = .revoking key)
      (saved : state.table.save key = .ok table) :
      Move setting state (.commitRevoke party)
        { state.enter party (.invalidating [key.keyHash] (.key key.id)) with table }
  | deactivated (party : Nat) (now : Uuid → Instant) (accountId : Uuid) (keys : List ApiKey) (table : ApiKeyTable)
      (stands : state.phase party = .listed accountId keys)
      (saved : state.table.saveAll (keys.map fun key => key.revoke (now key.id)) = .ok table) :
      Move setting state (.commitDeactivate party now)
        { state.enter party (.invalidating (keys.map (·.keyHash)) (.account accountId)) with
          table
          active := Function.update state.active accountId false }
  | invalidated (party : Nat) (keyHash : Text) (rest : List Text) (closing : Closing)
      (stands : state.phase party = .invalidating (keyHash :: rest) closing) :
      Move setting state (.invalidate party true)
        { state.enter party (.invalidating rest closing) with
          cache := Function.update state.cache keyHash none
          invalidated := keyHash :: state.invalidated }
  | finished (party : Nat) (closing : Closing) (stands : state.phase party = .invalidating [] closing) :
      Move setting state (.finish party) { state.enter party .idle with closed := closing :: state.closed }
  | disturbed (event : Event) (keyHash : Text) (value : Option RedisEntry)
      (miss : readEntry setting.spellings value = .ok none) :
      Move setting state event { state with cache := Function.update state.cache keyHash value }

theorem ofChecked_cases {α : Type} (onward : α → Phase) (result : Checked α) :
    (∃ value, result = .ok value ∧ Phase.ofChecked onward result = onward value) ∨
      ∃ failure, Phase.ofChecked onward result = .failed failure := by
  cases result with
  | ok value => exact .inl ⟨value, rfl, rfl⟩
  | error failure => exact .inr ⟨failure, rfl⟩

theorem commit_cases (state : State) (party : Nat) (result : Checked ApiKeyTable) (phase : Phase) :
    (∃ table, result = .ok table ∧ state.commit party result phase = { state.enter party phase with table }) ∨
      ∃ failure, state.commit party result phase = state.enter party (.failed failure) := by
  cases result with
  | ok table => exact .inl ⟨table, rfl, rfl⟩
  | error failure => exact .inr ⟨failure, rfl⟩

theorem create_move {state : State} {party : Nat} {id projectId accountId : Uuid} {name secret : Text} {now : Instant}
    (stands : state.phase party = .authorized accountId) (fresh : ¬ state.table.rows.any (·.id = id) = true) :
    Move setting state (.create party id projectId name secret now) (state.commit party (do
      let key ← newKey setting.hashKey id projectId name secret now
      createKey setting.owner state.table accountId key) .idle) := by
  cases built : newKey setting.hashKey id projectId name secret now with
  | error failure => exact .turned _ party _ (.failed _ failure)
  | ok key =>
      have own : key.id = id := by
        unfold newKey ApiKey.build at built
        split at built
        · cases built; rfl
        · cases built
      obtain ⟨table, made, same⟩ | ⟨failure, same⟩ :=
        commit_cases state party (createKey setting.owner state.table accountId key) .idle
      · obtain ⟨owned, saved⟩ := createKey_ok made
        refine same ▸ .created party id projectId name secret now accountId key table stands ?_ owned saved
        intro row stored known
        exact fresh (List.any_eq_true.mpr ⟨row, stored, decide_eq_true (known.trans own)⟩)
      · exact same ▸ .turned _ party _ (.failed _ failure)

theorem step_move {state next : State} {event : Event} (taken : step setting state event = some next) :
    Move setting state event next := by
  -- each branch of `step` asks for the phase the party stands in, and a failed read or commit ends in `.failed`
  cases event with
  | present party call =>
      simp only [step] at taken
      split at taken
      · rename_i stands
        cases taken
        exact .turned _ party _ (stands ▸ .presented call)
      · cases taken
  | get party reachable =>
      simp only [step] at taken
      split at taken
      · rename_i call stands
        cases taken
        exact .turned _ party _ (stands ▸ .got call reachable)
      · cases taken
  | read party =>
      simp only [step] at taken
      split at taken
      · rename_i call stands
        cases taken
        exact .turned _ party _ (stands ▸ .loaded call)
      · cases taken
  | set party reachable now =>
      simp only [step] at taken
      split at taken
      · rename_i call entry stands
        cases taken
        exact .cached party reachable now call entry stands
      · cases taken
  | authorize party accountId =>
      simp only [step] at taken
      split at taken
      · rename_i stands
        cases taken
        split
        · exact .turned _ party _ (stands ▸ .authorized accountId)
        · exact .turned _ party _ (.failed _ _)
      · cases taken
  | create party id projectId name secret now =>
      simp only [step] at taken
      split at taken
      · rename_i accountId stands
        split at taken
        · cases taken
        · rename_i fresh
          cases taken
          exact create_move stands fresh
      · cases taken
  | readKey party projectId keyId now =>
      simp only [step] at taken
      split at taken
      · rename_i accountId stands
        cases taken
        obtain ⟨key, read, same⟩ | ⟨failure, same⟩ := ofChecked_cases Phase.revoking
          (keyToRevoke setting.owner state.table projectId accountId keyId now)
        · exact same ▸ .turned _ party _ (stands ▸ .revoking accountId projectId keyId now key read)
        · exact same ▸ .turned _ party _ (.failed _ failure)
      · cases taken
  | commitRevoke party =>
      simp only [step] at taken
      split at taken
      · rename_i key stands
        cases taken
        obtain ⟨table, saved, same⟩ | ⟨failure, same⟩ := commit_cases state party (state.table.save key)
          (.invalidating [key.keyHash] (.key key.id))
        · exact same ▸ .revoked party key table stands saved
        · exact same ▸ .turned _ party _ (.failed _ failure)
      · cases taken
  | listKeys party =>
      simp only [step] at taken
      split at taken
      · rename_i accountId stands
        cases taken
        obtain ⟨keys, read, same⟩ | ⟨failure, same⟩ := ofChecked_cases (Phase.listed accountId)
          (keysOfAccount setting.owner state.active state.table accountId)
        · exact same ▸ .turned _ party _ (stands ▸ .listed accountId keys read)
        · exact same ▸ .turned _ party _ (.failed _ failure)
      · cases taken
  | commitDeactivate party now =>
      simp only [step] at taken
      split at taken
      · rename_i accountId keys stands
        split at taken
        · rename_i table saved
          cases taken
          exact .deactivated party now accountId keys table stands saved
        · rename_i failure _
          cases taken
          exact .turned _ party _ (.failed _ failure)
      · cases taken
  | invalidate party reachable =>
      simp only [step] at taken
      split at taken
      · rename_i keyHash rest closing stands
        split at taken
        · rename_i reached
          cases taken
          exact reached ▸ .invalidated party keyHash rest closing stands
        · cases taken
          exact .turned _ party _ (.failed _ _)
      · cases taken
  | finish party =>
      simp only [step] at taken
      split at taken
      · rename_i closing stands
        cases taken
        exact .finished party closing stands
      · cases taken
  | leave party =>
      cases taken
      exact .turned _ party _ (.left _)
  | evict keyHash =>
      cases taken
      exact .disturbed _ keyHash none rfl
  | spoil keyHash value =>
      simp only [step] at taken
      split at taken
      · rename_i miss
        cases taken
        exact .disturbed _ keyHash (some value) miss
      · cases taken

end Tiber.ApiKeyRuns
