import Tiber.Infrastructure.ApiKeyCache
import Tiber.Library.JsonTree
import Mathlib.Logic.Equiv.Nat

/-! The API-key cache against an arbitrary document: what `get` makes of every
JSON value that may stand under a key. -/

set_option autoImplicit false

namespace Tiber

open Library

/-- What the decoder can tell of a member's value. -/
def CacheValue.ofJson : JsonTree → CacheValue
  | .null => .null
  | .bool value => .bool value
  | .string text => .string text
  | .int _ | .float _ | .array _ | .object _ => .other

def cacheMembers (members : List (Text × JsonTree)) : CacheMembers :=
  members.map fun member => (String.ofList member.1, .ofJson member.2)

/-- `data[name]` of a value that is no object fails like this. -/
def notSubscriptable : PyError := .typeError "indices must be integers or slices, not str"

section
variable (spellings : CacheSpellings)

def decodeDocument : JsonTree → Checked CachedApiKey
  | .object members => decodeEntry spellings (cacheMembers members)
  | _ => .error notSubscriptable

/-- `except ValueError, KeyError, TypeError` -/
def caught : PyError → Bool
  | .valueError _ | .typeError _ => true
  | .raised name _ => name == "KeyError"
  | _ => false

/-- `get` once Redis has answered with a JSON document. -/
def getDocument (document : JsonTree) : Checked (Option CachedApiKey) :=
  match decodeDocument spellings document with
  | .ok entry => .ok (some entry)
  | .error failure => if caught failure then .ok none else .error failure

def encodeDocument (entry : CachedApiKey) : JsonTree :=
  let nullable : Option Text → JsonTree := fun text => (text.map JsonTree.string).getD .null
  .object [("found".toList, .bool entry.found),
    ("key_id".toList, nullable (entry.keyId.map spellings.uuids.write)),
    ("project_id".toList, nullable (entry.projectId.map spellings.uuids.write)),
    ("key_prefix".toList, nullable entry.keyPrefix),
    ("revoked_at".toList, nullable (entry.revokedAt.map spellings.instants.write)),
    ("expires_at".toList, nullable (entry.expiresAt.map spellings.instants.write))]

/-- On an object, `get` is the reading of an entry. -/
theorem getDocument_object (members : List (Text × JsonTree)) (ex : Nat) :
    getDocument spellings (.object members) = readEntry spellings (some (.json (cacheMembers members) ex)) := by
  unfold getDocument readEntry decodeDocument
  dsimp only
  -- `readEntry` names the caught errors one by one, `caught` tests them
  cases decodeEntry spellings (cacheMembers members) with
  | ok entry => rfl
  | error failure =>
      cases failure with
      | raised name message =>
          by_cases key : name = "KeyError"
          · subst key; rfl
          · simp [caught, key]
      | _ => simp [caught]

theorem ofJson_nullable {α : Type} (write : α → Text) (field : Option α) :
    CacheValue.ofJson (((field.map write).map JsonTree.string).getD .null) = .ofOption write field := by
  cases field <;> rfl

theorem decodeDocument_encode (entry : CachedApiKey) :
    decodeDocument spellings (encodeDocument spellings entry) = .ok entry := by
  have prefixed : CacheValue.ofJson ((entry.keyPrefix.map JsonTree.string).getD .null) = .ofOption id entry.keyPrefix := by
    cases entry.keyPrefix <;> rfl
  rw [← decode_encode spellings entry, encodeDocument, decodeDocument, encodeEntry]
  simp only [cacheMembers, List.map_cons, List.map_nil, String.ofList_toList, ofJson_nullable, prefixed]
  rfl

/-! ## Failures that are not caught -/

def Uncaught {α : Type} (call : Checked α) : Prop := ∃ failure, call = .error failure ∧ caught failure = false

theorem uncaught_bind {α β : Type} {call : Checked α} {rest : α → Checked β} :
    Uncaught (call >>= rest) ↔ Uncaught call ∨ ∃ value, call = .ok value ∧ Uncaught (rest value) := by
  cases call with
  | error failure => simp [Uncaught, bind, Except.bind]
  | ok value => simp [Uncaught, bind, Except.bind]

@[simp] theorem not_uncaught_ok {α : Type} (value : α) : ¬ Uncaught (.ok value : Checked α) :=
  fun ⟨_, failed, _⟩ => nomatch failed

@[simp] theorem uncaught_error {α : Type} {failure : PyError} :
    Uncaught (.error failure : Checked α) ↔ caught failure = false := by
  simp [Uncaught]

theorem member_eq_ok {data : CacheMembers} {name : String} {value : CacheValue} :
    member data name = .ok value ↔ data.lookup name = some value := by
  unfold member
  cases data.lookup name <;> simp

theorem not_uncaught_member (data : CacheMembers) (name : String) : ¬ Uncaught (member data name) := by
  unfold member
  cases data.lookup name <;> simp [caught]

theorem not_uncaught_build (fields : CachedApiKeyFields) : ¬ Uncaught (CachedApiKey.build fields) := by
  unfold CachedApiKey.build
  split
  · exact not_uncaught_ok _
  · split <;> simp [caught]

theorem not_uncaught_datetime (value : CacheValue) : ¬ Uncaught (datetimeOrNone spellings value) := by
  cases value with
  | string text =>
      unfold datetimeOrNone
      dsimp only
      split <;> simp [caught]
  | _ => simp [datetimeOrNone, caught]

/-- A number, a boolean, a list or an object: none of them has the methods of a text. -/
def CacheValue.Foreign (value : CacheValue) : Prop := value = .other ∨ ∃ flag, value = .bool flag

def CacheValue.NamesUuid (value : CacheValue) : Prop :=
  value = .null ∨ ∃ text, value = .string text ∧ (spellings.uuids.read text).isSome

theorem uncaught_uuid {value : CacheValue} : Uncaught (uuidOrNone spellings value) ↔ value.Foreign := by
  unfold uuidOrNone CacheValue.Foreign
  cases value with
  | string text =>
      dsimp only
      split <;> simp [caught]
  | _ => simp [caught]

theorem uuid_isOk {value : CacheValue} :
    (∃ id, uuidOrNone spellings value = .ok id) ↔ value.NamesUuid spellings := by
  unfold uuidOrNone CacheValue.NamesUuid
  cases value with
  | string text =>
      dsimp only
      split
      · rename_i id read
        simp [read]
      · rename_i unread
        simp [unread]
  | _ => simp

/-- The documents the decoder trips over: `key_id` or `project_id` of a type `UUID` does not expect,
behind an acceptable `found` and `key_prefix`. -/
def Jams (data : CacheMembers) : Prop :=
  (∃ flag, data.lookup "found" = some (.bool flag)) ∧
  (∃ keyPrefix, data.lookup "key_prefix" = some keyPrefix ∧
    (keyPrefix = .null ∨ ∃ text, keyPrefix = .string text)) ∧
  ∃ keyId, data.lookup "key_id" = some keyId ∧ (keyId.Foreign ∨ keyId.NamesUuid spellings ∧
    ∃ projectId, data.lookup "project_id" = some projectId ∧ projectId.Foreign)

def foundFlag : CacheValue → Checked Bool
  | .bool found => .ok found
  | .null | .string _ | .other => .error (.valueError "`found` must be a boolean")

def prefixText : CacheValue → Checked (Option Text)
  | .null => .ok none
  | .string text => .ok (some text)
  | .bool _ | .other => .error (.valueError "`key_prefix` must be a string")

theorem decodeEntry_eq (data : CacheMembers) :
    decodeEntry spellings data = (do
      let found ← foundFlag (← member data "found")
      let keyPrefix ← prefixText (← member data "key_prefix")
      let keyId ← uuidOrNone spellings (← member data "key_id")
      let projectId ← uuidOrNone spellings (← member data "project_id")
      let revokedAt ← datetimeOrNone spellings (← member data "revoked_at")
      let expiresAt ← datetimeOrNone spellings (← member data "expires_at")
      CachedApiKey.build { found, keyId, projectId, keyPrefix, revokedAt, expiresAt }) := by
  unfold decodeEntry
  cases member data "found" with
  | error failure => rfl
  | ok found =>
      cases found with
      | bool found =>
          cases member data "key_prefix" with
          | error failure => rfl
          | ok keyPrefix => cases keyPrefix <;> rfl
      | _ => rfl

theorem uncaught_foundFlag {value : CacheValue} : ¬ Uncaught (foundFlag value) := by
  cases value <;> simp [foundFlag, caught]

theorem uncaught_prefixText {value : CacheValue} : ¬ Uncaught (prefixText value) := by
  cases value <;> simp [prefixText, caught]

theorem foundFlag_isOk {value : CacheValue} :
    (∃ found, foundFlag value = .ok found) ↔ ∃ flag, value = .bool flag := by
  cases value <;> simp [foundFlag]

theorem prefixText_isOk {value : CacheValue} :
    (∃ keyPrefix, prefixText value = .ok keyPrefix) ↔ value = .null ∨ ∃ text, value = .string text := by
  cases value <;> simp [prefixText]

theorem uncaught_decodeEntry {data : CacheMembers} :
    Uncaught (decodeEntry spellings data) ↔ Jams spellings data := by
  rw [decodeEntry_eq]
  -- of the seven steps only the two ids can raise what is not caught, each behind the steps before it
  simp only [uncaught_bind, not_uncaught_member, not_uncaught_build, not_uncaught_datetime, uncaught_uuid,
    uncaught_foundFlag, uncaught_prefixText, member_eq_ok, false_or, and_false, exists_false, or_false,
    exists_and_right, uuid_isOk, foundFlag_isOk, prefixText_isOk]
  constructor
  · rintro ⟨_, listed, ⟨flag, rfl⟩, keyPrefix, held, suits, rest⟩
    exact ⟨⟨flag, listed⟩, ⟨keyPrefix, held, suits⟩, rest⟩
  · rintro ⟨⟨flag, listed⟩, ⟨keyPrefix, held, suits⟩, rest⟩
    exact ⟨_, listed, ⟨flag, rfl⟩, keyPrefix, held, suits, rest⟩

/-! ## Entries that are answered -/

def Carried {α : Type} (read : Text → Option α) (stored : Option CacheValue) (field : Option α) : Prop :=
  (stored = some .null ∧ field = none) ∨
    ∃ text value, stored = some (.string text) ∧ read text = some value ∧ field = some value

/-- Nothing that is stored is lost in the entry. -/
structure Preserves (data : CacheMembers) (entry : CachedApiKey) : Prop where
  found : data.lookup "found" = some (.bool entry.found)
  keyId : Carried spellings.uuids.read (data.lookup "key_id") entry.keyId
  projectId : Carried spellings.uuids.read (data.lookup "project_id") entry.projectId
  keyPrefix : Carried some (data.lookup "key_prefix") entry.keyPrefix
  revokedAt : Carried spellings.instants.read (data.lookup "revoked_at") entry.revokedAt
  expiresAt : Carried spellings.instants.read (data.lookup "expires_at") entry.expiresAt

theorem carried_uuid {value : CacheValue} {id : Option Uuid} (read : uuidOrNone spellings value = .ok id) :
    Carried spellings.uuids.read (some value) id := by
  unfold uuidOrNone at read
  cases value with
  | null => cases read; exact .inl ⟨rfl, rfl⟩
  | string text =>
      dsimp only at read
      split at read
      · rename_i id found
        cases read
        exact .inr ⟨text, id, rfl, found, rfl⟩
      · cases read
  | _ => cases read

theorem carried_datetime {value : CacheValue} {instant : Option Instant}
    (read : datetimeOrNone spellings value = .ok instant) :
    Carried spellings.instants.read (some value) instant := by
  unfold datetimeOrNone at read
  cases value with
  | null => cases read; exact .inl ⟨rfl, rfl⟩
  | string text =>
      dsimp only at read
      split at read
      · rename_i instant found
        cases read
        exact .inr ⟨text, instant, rfl, found, rfl⟩
      · cases read
  | _ => cases read

theorem carried_prefix {value : CacheValue} {keyPrefix : Option Text} (read : prefixText value = .ok keyPrefix) :
    Carried some (some value) keyPrefix := by
  cases value with
  | null => cases read; exact .inl ⟨rfl, rfl⟩
  | string text => cases read; exact .inr ⟨text, text, rfl, rfl, rfl⟩
  | _ => cases read

theorem decodeEntry_preserves {data : CacheMembers} {entry : CachedApiKey}
    (decoded : decodeEntry spellings data = .ok entry) : Preserves spellings data entry := by
  rw [decodeEntry_eq] at decoded
  simp only [Checked.bind_eq_ok, member_eq_ok] at decoded
  obtain ⟨foundValue, foundAt, found, flag, prefixValue, prefixAt, keyPrefix, text, keyValue, keyAt, keyId, key,
    projectValue, projectAt, projectId, project, revokedValue, revokedStored, revokedAt, revoked,
    expiresValue, expiresStored, expiresAt, expires, built⟩ := decoded
  unfold CachedApiKey.build at built
  split at built
  · cases built
    constructor
    -- the fields one by one, each from the member it was read from
    · cases foundValue <;> cases flag
      exact foundAt
    · rw [keyAt]; exact carried_uuid spellings key
    · rw [projectAt]; exact carried_uuid spellings project
    · rw [prefixAt]; exact carried_prefix text
    · rw [revokedStored]; exact carried_datetime spellings revoked
    · rw [expiresStored]; exact carried_datetime spellings expires
  · split at built <;> cases built

/-- A miss, or an entry with everything that is stored. -/
def ReadsWell (document : JsonTree) : Prop :=
  ∃ result, getDocument spellings document = .ok result ∧
    ∀ entry ∈ result, entry.Consistent ∧
      ∃ members, document = .object members ∧ Preserves spellings (cacheMembers members) entry

theorem readsWell_iff (document : JsonTree) :
    ReadsWell spellings document ↔ ¬ Uncaught (decodeDocument spellings document) := by
  unfold ReadsWell getDocument
  cases decoded : decodeDocument spellings document with
  | error failure =>
      cases known : caught failure <;> simp [known]
  | ok entry =>
      simp only [not_uncaught_ok, not_false_eq_true, iff_true]
      refine ⟨some entry, rfl, fun entry' same => ?_⟩
      cases same
      cases document with
      | object members => exact ⟨entry.consistent, members, rfl, decodeEntry_preserves spellings decoded⟩
      | _ => cases decoded

/-- An entry is read back as it was written. A stored document is a miss or an
entry that has everything it stores, exactly when no id of it is of a type
`UUID` trips over. -/
theorem cache_decoder_exact :
    (∀ entry, getDocument spellings (encodeDocument spellings entry) = .ok (some entry)) ∧
    ∀ document, ReadsWell spellings document ↔
      ¬ ∃ members, document = .object members ∧ Jams spellings (cacheMembers members) := by
  constructor
  · intro entry
    rw [getDocument, decodeDocument_encode]
  · intro document
    rw [readsWell_iff]
    cases document with
    | object members => simp [decodeDocument, uncaught_decodeEntry]
    | _ => simp [decodeDocument, notSubscriptable, caught]

end

def epochSpellings : CacheSpellings where
  uuids := Spelling.uuid
  instants := (Spelling.hex 1).along Equiv.intEquivNat

/-- An entry of an older format, with a number for the key. -/
def numberedKey : JsonTree :=
  .object [("found".toList, .bool true), ("key_prefix".toList, .string "tk".toList), ("key_id".toList, .int 5)]

theorem numberedKey_raises : ¬ ∀ document, ReadsWell epochSpellings document := by
  intro reads
  refine (readsWell_iff epochSpellings numberedKey).mp (reads numberedKey)
    ((uncaught_decodeEntry epochSpellings).mpr ⟨⟨true, rfl⟩, ⟨_, rfl, .inr ⟨_, rfl⟩⟩, _, rfl, .inl (.inl rfl)⟩)

end Tiber
