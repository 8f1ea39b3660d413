import Tiber.Domain.ApiKey
import Tiber.Library.Spelling

/-! The cache of facts about API keys: what one entry says, how Redis holds it and for how long.

An entry is written as a JSON object and read back strictly: whatever is missing or of another
shape makes it a miss.
-/

set_option autoImplicit false

namespace Tiber

open Library

/-! ## Entries -/

structure CachedApiKeyFields where
  found : Bool
  keyId : Option Uuid := none
  projectId : Option Uuid := none
  keyPrefix : Option Text := none
  revokedAt : Option Instant := none
  expiresAt : Option Instant := none
  deriving DecidableEq

def CachedApiKeyFields.Consistent (fields : CachedApiKeyFields) : Prop :=
  if fields.found then
    fields.keyId.isSome = true ∧ fields.projectId.isSome = true ∧ fields.keyPrefix.isSome = true
  else fields = { found := false }

instance (fields : CachedApiKeyFields) : Decidable fields.Consistent :=
  inferInstanceAs (Decidable (if fields.found then
    fields.keyId.isSome = true ∧ fields.projectId.isSome = true ∧ fields.keyPrefix.isSome = true
    else fields = { found := false }))

structure CachedApiKey extends CachedApiKeyFields where
  consistent : toCachedApiKeyFields.Consistent
  deriving DecidableEq

namespace CachedApiKey

def build (fields : CachedApiKeyFields) : Checked CachedApiKey :=
  if consistent : fields.Consistent then .ok ⟨fields, consistent⟩
  else if fields.found then .error (.valueError "A found entry needs key_id, project_id and key_prefix")
  else .error (.valueError "A not-found entry carries no data")

def notFound : CachedApiKey := ⟨{ found := false }, by decide⟩

def fromKey (key : ApiKey) : CachedApiKey where
  found := true
  keyId := some key.id
  projectId := some key.projectId
  keyPrefix := some key.keyPrefix
  revokedAt := key.revokedAt
  expiresAt := key.expiresAt
  consistent := ⟨rfl, rfl, rfl⟩

theorem build_self (entry : CachedApiKey) : build entry.toCachedApiKeyFields = .ok entry := dif_pos entry.consistent

end CachedApiKey

/-! ## The codec -/

/-- `str` and `UUID` of ids, `isoformat` and `fromisoformat` of aware datetimes. -/
structure CacheSpellings where
  uuids : Spelling Uuid
  instants : Spelling Instant

inductive CacheValue where
  | null
  | bool (value : Bool)
  | string (text : Text)
  | other
  deriving DecidableEq

abbrev CacheMembers := List (String × CacheValue)

section Codec

variable (spellings : CacheSpellings)

def CacheValue.ofOption {α : Type} (write : α → Text) : Option α → CacheValue
  | none => .null
  | some value => .string (write value)

def encodeEntry (entry : CachedApiKey) : CacheMembers :=
  [("found", .bool entry.found),
    ("key_id", .ofOption spellings.uuids.write entry.keyId),
    ("project_id", .ofOption spellings.uuids.write entry.projectId),
    ("key_prefix", .ofOption id entry.keyPrefix),
    ("revoked_at", .ofOption spellings.instants.write entry.revokedAt),
    ("expires_at", .ofOption spellings.instants.write entry.expiresAt)]

def member (data : CacheMembers) (name : String) : Checked CacheValue :=
  match data.lookup name with
  | some value => .ok value
  | none => .error (.raised "KeyError" name)

/-- `uuid_or_none`. Anything but a text has none of the methods that `UUID` calls on it. -/
def uuidOrNone : CacheValue → Checked (Option Uuid)
  | .null => .ok none
  | .string text =>
      match spellings.uuids.read text with
      | some id => .ok (some id)
      | none => .error (.valueError "badly formed hexadecimal UUID string")
  | .bool _ | .other => .error (.attributeError "object has no attribute 'replace'")

/-- `datetime_or_none`; a datetime without an offset is turned down by the entry. -/
def datetimeOrNone : CacheValue → Checked (Option Instant)
  | .null => .ok none
  | .string text =>
      match spellings.instants.read text with
      | some instant => .ok (some instant)
      | none => .error (.valueError "Invalid isoformat string")
  | .bool _ | .other => .error (.typeError "fromisoformat: argument must be str")

def decodeEntry (data : CacheMembers) : Checked CachedApiKey := do
  let found ← match ← member data "found" with
    | .bool found => .ok found
    | .null | .string _ | .other => .error (.valueError "`found` must be a boolean")
  let keyPrefix ← match ← member data "key_prefix" with
    | .null => .ok none
    | .string text => .ok (some text)
    | .bool _ | .other => .error (.valueError "`key_prefix` must be a string")
  let keyId ← uuidOrNone spellings (← member data "key_id")
  let projectId ← uuidOrNone spellings (← member data "project_id")
  let revokedAt ← datetimeOrNone spellings (← member data "revoked_at")
  let expiresAt ← datetimeOrNone spellings (← member data "expires_at")
  CachedApiKey.build { found, keyId, projectId, keyPrefix, revokedAt, expiresAt }

theorem uuidOrNone_ofOption (id : Option Uuid) :
    uuidOrNone spellings (.ofOption spellings.uuids.write id) = .ok id := by
  cases id with
  | none => rfl
  | some id => simp only [CacheValue.ofOption, uuidOrNone, spellings.uuids.read_write]

theorem datetimeOrNone_ofOption (instant : Option Instant) :
    datetimeOrNone spellings (.ofOption spellings.instants.write instant) = .ok instant := by
  cases instant with
  | none => rfl
  | some instant => simp only [CacheValue.ofOption, datetimeOrNone, spellings.instants.read_write]

/-- Every entry is read back as it was written. -/
theorem decode_encode (entry : CachedApiKey) : decodeEntry spellings (encodeEntry spellings entry) = .ok entry := by
  have members (name : String) (value : CacheValue) (listed : (encodeEntry spellings entry).lookup name = some value) :
      member (encodeEntry spellings entry) name = .ok value := by
    rw [member, listed]
  unfold decodeEntry
  rw [members "found" _ rfl, members "key_prefix" _ rfl, members "key_id" _ rfl, members "project_id" _ rfl,
    members "revoked_at" _ rfl, members "expires_at" _ rfl]
  simp only [bind, Except.bind, uuidOrNone_ofOption, datetimeOrNone_ofOption]
  cases keyPrefix : entry.keyPrefix with
  | none =>
      simp only [CacheValue.ofOption]
      rw [← keyPrefix]
      exact entry.build_self
  | some text =>
      simp only [CacheValue.ofOption, id]
      rw [← keyPrefix]
      exact entry.build_self

/-! ## Redis -/

/-- What a Redis key holds: the JSON object with the lifetime it was set under, or something else. -/
inductive RedisEntry where
  | json (members : CacheMembers) (ex : Nat)
  | garbage
  deriving DecidableEq

/-- `RedisApiKeyAuthCache.get` once Redis has answered: an unreadable entry is a miss. -/
def readEntry : Option RedisEntry → Checked (Option CachedApiKey)
  | none | some .garbage => .ok none
  | some (.json members _) =>
      match decodeEntry spellings members with
      | .ok entry => .ok (some entry)
      | .error (.valueError _) | .error (.typeError _) | .error (.raised "KeyError" _) => .ok none
      | .error failure => .error failure

def RedisTTL.apiKeyActive : Int := 5 * Clock.minute

def RedisTTL.apiKeyRevoked : Int := 30 * Clock.day

def RedisTTL.apiKeyNotFound : Int := 60 * Clock.second

def entryTtl (entry : CachedApiKey) (now : Instant) : Int :=
  if !entry.found then RedisTTL.apiKeyNotFound
  else if entry.revokedAt.isSome then RedisTTL.apiKeyRevoked
  else
    match entry.expiresAt with
    | none => RedisTTL.apiKeyActive
    | some expiresAt =>
        if expiresAt - now ≤ 0 then RedisTTL.apiKeyRevoked
        else min RedisTTL.apiKeyActive (expiresAt - now)

def writeEntry (entry : CachedApiKey) (now : Instant) : RedisEntry :=
  .json (encodeEntry spellings entry) (max 1 (entryTtl entry now / Clock.second).toNat)

theorem readEntry_writeEntry (entry : CachedApiKey) (now : Instant) :
    readEntry spellings (some (writeEntry spellings entry now)) = .ok (some entry) := by
  simp only [writeEntry, readEntry, decode_encode]

end Codec

end Tiber
