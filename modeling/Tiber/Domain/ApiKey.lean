import Tiber.Domain.Exceptions
import Tiber.Library.Zone

/-! API keys: the stored facts of one, and when it may be used. -/

set_option autoImplicit false

namespace Tiber

open Library

structure ApiKeyFields where
  id : Uuid
  projectId : Uuid
  name : Text
  keyHash : Text
  keyPrefix : Text
  createdAt : Instant
  revokedAt : Option Instant := none
  expiresAt : Option Instant := none
  deriving DecidableEq

structure ApiKey extends ApiKeyFields where
  named : Text.blank name = false
  deriving DecidableEq

namespace ApiKey

def build (fields : ApiKeyFields) : Checked ApiKey :=
  if named : Text.blank fields.name = false then .ok ⟨fields, named⟩
  else .error (.invalidEntityAttribute "API key name must not be empty")

variable (key : ApiKey)

def isRevoked : Bool := key.revokedAt.isSome

def isExpired (now : Instant) : Bool := key.expiresAt.any (· ≤ now)

def isActive (now : Instant) : Bool := !key.isRevoked && !key.isExpired now

/-- `revoke`: the first revocation stays. -/
def revoke (at_ : Instant) : ApiKey := if key.isRevoked then key else { key with revokedAt := some at_ }

structure SameKey (first second : ApiKey) : Prop where
  id : first.id = second.id
  keyHash : first.keyHash = second.keyHash
  projectId : first.projectId = second.projectId

theorem SameKey.symm {first second : ApiKey} (same : SameKey first second) : SameKey second first :=
  ⟨same.id.symm, same.keyHash.symm, same.projectId.symm⟩

theorem SameKey.trans {first second third : ApiKey} (left : SameKey first second) (right : SameKey second third) :
    SameKey first third :=
  ⟨left.id.trans right.id, left.keyHash.trans right.keyHash, left.projectId.trans right.projectId⟩

theorem revoke_revoked (at_ : Instant) : (key.revoke at_).isRevoked = true := by
  unfold revoke
  split
  · assumption
  · rfl

theorem revoke_same (at_ : Instant) : SameKey (key.revoke at_) key := by
  unfold revoke
  split <;> exact ⟨rfl, rfl, rfl⟩

end ApiKey

end Tiber
