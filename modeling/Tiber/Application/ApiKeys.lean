import Tiber.Infrastructure.ApiKeyCache
import Tiber.Infrastructure.ApiKeyTable

/-! Authenticating with an API key, and managing keys: what each use case decides from what it reads. -/

set_option autoImplicit false

namespace Tiber

open Library

/-! ## Authentication -/

inductive RejectionReason where
  | malformed
  | unknown
  | revoked
  | expired
  deriving DecidableEq, Repr

namespace RejectionReason

def value : RejectionReason → String
  | malformed => "malformed"
  | unknown => "unknown"
  | revoked => "revoked"
  | expired => "expired"

/-- `ApiKeyAuthenticationError` -/
def error (reason : RejectionReason) : PyError := .raised "ApiKeyAuthenticationError" reason.value

end RejectionReason

structure ApiKeyPrincipal where
  keyId : Uuid
  projectId : Uuid
  keyPrefix : Text
  deriving DecidableEq

def apiKeyPrefix : Text := ['t', 'b', '_']

/-- `_API_KEY_RE.fullmatch`: the prefix and 32 to 128 letters, digits, underscores and hyphens. -/
def isApiKey (rawKey : Text) : Bool :=
  match rawKey.dropPrefix? apiKeyPrefix with
  | none => false
  | some secret =>
      32 ≤ secret.length && secret.length ≤ 128 && secret.all fun c =>
        c.isAlphanum || c == '_' || c == '-'

namespace CachedApiKey

variable (entry : CachedApiKey)

/-- `_evaluate`; a key that is both revoked and expired is reported as revoked. -/
def evaluate (now : Instant) : Checked ApiKeyPrincipal :=
  if !entry.found then .error RejectionReason.unknown.error
  else if entry.revokedAt.isSome then .error RejectionReason.revoked.error
  else if entry.expiresAt.any (· ≤ now) then .error RejectionReason.expired.error
  else
    match entry.keyId, entry.projectId, entry.keyPrefix with
    | some keyId, some projectId, some keyPrefix => .ok { keyId, projectId, keyPrefix }
    | _, _, _ => .error (.raised "RuntimeError" "Invalid found API-key cache entry")

def facts : Option ApiKey → CachedApiKey
  | some key => fromKey key
  | none => notFound

def live : Bool := entry.found && entry.revokedAt.isNone

theorem evaluate_ok {now : Instant} {principal : ApiKeyPrincipal} (decided : entry.evaluate now = .ok principal) :
    entry.live = true := by
  unfold evaluate at decided
  split at decided
  · cases decided
  · rename_i found
    split at decided
    · cases decided
    · rename_i open_
      simp only [live, Bool.and_eq_true, Option.isNone_iff_eq_none]
      exact ⟨by simpa using found, by simpa using open_⟩

theorem facts_revoked {key : ApiKey} (revoked : key.isRevoked = true) : (facts (some key)).live = false := by
  rw [ApiKey.isRevoked] at revoked
  simp [live, facts, fromKey, revoked]

end CachedApiKey

def decideRow (row : Option ApiKey) (now : Instant) : Checked ApiKeyPrincipal :=
  match row with
  | none => .error RejectionReason.unknown.error
  | some key =>
      if key.isActive now then .ok { keyId := key.id, projectId := key.projectId, keyPrefix := key.keyPrefix }
      else if key.isRevoked then .error RejectionReason.revoked.error
      else .error RejectionReason.expired.error

/-- At any time the facts on a row decide as the row does. -/
theorem evaluate_facts (row : Option ApiKey) (now : Instant) :
    (CachedApiKey.facts row).evaluate now = decideRow row now := by
  cases row with
  | none => rfl
  | some key =>
      unfold decideRow ApiKey.isActive
      change (if key.isRevoked = true then _ else if key.isExpired now = true then _ else _) =
        if (!key.isRevoked && !key.isExpired now) = true then _ else if key.isRevoked = true then _ else _
      cases key.isRevoked with
      | true => rfl
      | false => cases key.isExpired now <;> rfl

/-! ## Management -/

def apiKeyManagementError (code : String) : PyError := .raised "APIKeyManagementError" code

def ownedProject (owner : Uuid → Option Uuid) (projectId accountId : Uuid) : Checked Unit :=
  if owner projectId = some accountId then .ok () else .error (apiKeyManagementError "project_not_found")

def newKey (hashKey : Text → Text) (id projectId : Uuid) (name secret : Text) (createdAt : Instant) : Checked ApiKey :=
  ApiKey.build { id, projectId, name, keyHash := hashKey secret, keyPrefix := secret.take 10, createdAt }

/-- The transaction of `create`. -/
def createKey (owner : Uuid → Option Uuid) (table : ApiKeyTable) (accountId : Uuid) (key : ApiKey) :
    Checked ApiKeyTable := do
  ownedProject owner key.projectId accountId
  table.save key

/-- What `revoke` is about to save. -/
def keyToRevoke (owner : Uuid → Option Uuid) (table : ApiKeyTable) (projectId accountId keyId : Uuid)
    (at_ : Instant) : Checked ApiKey := do
  ownedProject owner projectId accountId
  match table.getById keyId projectId with
  | none => .error (apiKeyManagementError "api_key_not_found")
  | some key => .ok (key.revoke at_)

/-- What `deactivate` reads: an active account and its keys. -/
def keysOfAccount (owner : Uuid → Option Uuid) (active : Uuid → Bool) (table : ApiKeyTable) (accountId : Uuid) :
    Checked (List ApiKey) :=
  if active accountId then .ok (table.listByAccount owner accountId)
  else .error (.raised "AuthenticationOperationError" "account_not_authorized")

section Spec

variable {owner : Uuid → Option Uuid} {table next : ApiKeyTable} {accountId : Uuid}

theorem createKey_ok {key : ApiKey} (created : createKey owner table accountId key = .ok next) :
    owner key.projectId = some accountId ∧ table.save key = .ok next := by
  unfold createKey ownedProject at created
  split at created
  · rename_i owned
    exact ⟨owned, created⟩
  · cases created

theorem keyToRevoke_ok {projectId keyId : Uuid} {at_ : Instant} {key : ApiKey}
    (read : keyToRevoke owner table projectId accountId keyId at_ = .ok key) :
    key.isRevoked = true ∧ ∃ row ∈ table.rows, ApiKey.SameKey key row := by
  unfold keyToRevoke ownedProject at read
  split at read
  · simp only [bind, Except.bind] at read
    split at read
    · cases read
    · rename_i row found
      cases read
      exact ⟨row.revoke_revoked at_, row, List.mem_of_find?_eq_some found, row.revoke_same at_⟩
  · cases read

theorem keysOfAccount_ok {active : Uuid → Bool} {keys : List ApiKey}
    (read : keysOfAccount owner active table accountId = .ok keys) :
    ∀ key, key ∈ keys ↔ key ∈ table.rows ∧ owner key.projectId = some accountId := by
  unfold keysOfAccount at read
  split at read
  · cases read
    exact fun _ => ApiKeyTable.mem_listByAccount
  · cases read

end Spec

end Tiber
