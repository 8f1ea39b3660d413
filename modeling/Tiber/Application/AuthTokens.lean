import Mathlib.Logic.Function.Basic
import Tiber.Domain.Exceptions
import Tiber.Library.Text

/-! Authentication state in Redis: verification codes, password-reset tokens, sessions.

A digest stands for what it is computed from, a random token for its number. What a script does is one
step; any entry may expire at any time.
-/

set_option autoImplicit false

namespace Tiber

open Library

/-- The HMAC of a verification code, as the message it is computed over. -/
structure CodeDigest where
  accountId : Uuid
  email : Text
  code : Text
  deriving DecidableEq

/-- What an access token and its refresh token carry; both have one number. -/
structure Grant where
  accountId : Uuid
  authVersion : Nat
  session : Nat
  serial : Nat
  deriving DecidableEq

structure AuthRedis where
  code : Uuid → Option CodeDigest := fun _ => none
  attempts : Uuid → Nat := fun _ => 0
  resetPointer : Uuid → Option Nat := fun _ => none
  resetToken : Nat → Option Uuid := fun _ => none
  refresh : Nat → Option Grant := fun _ => none
  blockedTokens : List Nat := []
  blockedSessions : List Nat := []

def emailVerificationMaxAttempts : Nat := 5

namespace AuthRedis

variable (redis : AuthRedis)

def setCode (accountId : Uuid) (digest : Option CodeDigest) : AuthRedis :=
  { redis with code := Function.update redis.code accountId digest }

def setAttempts (accountId : Uuid) (attempts : Nat) : AuthRedis :=
  { redis with attempts := Function.update redis.attempts accountId attempts }

def setResetPointer (accountId : Uuid) (token : Option Nat) : AuthRedis :=
  { redis with resetPointer := Function.update redis.resetPointer accountId token }

def setResetToken (token : Nat) (accountId : Option Uuid) : AuthRedis :=
  { redis with resetToken := Function.update redis.resetToken token accountId }

def setRefresh (serial : Nat) (grant : Option Grant) : AuthRedis :=
  { redis with refresh := Function.update redis.refresh serial grant }

def issueCode (accountId : Uuid) (email code : Text) : AuthRedis :=
  redis.setCode accountId (some { accountId, email, code })

/-- `_CONSUME_EMAIL_VERIFICATION_CODE_LUA`, with the script's result. -/
def consumeCode (digest : CodeDigest) : AuthRedis × Int :=
  match redis.code digest.accountId with
  | none => (redis, -1)
  | some stored =>
      if emailVerificationMaxAttempts ≤ redis.attempts digest.accountId then
        (redis.setCode digest.accountId none, -1)
      else if stored = digest then
        ((redis.setCode digest.accountId none).setAttempts digest.accountId 0, 1)
      else
        let attempts := redis.attempts digest.accountId + 1
        let counted := redis.setAttempts digest.accountId attempts
        (if emailVerificationMaxAttempts ≤ attempts then counted.setCode digest.accountId none else counted, 0)

/-- `_CONSUME_ONE_TIME_LUA` for password resets, with the account it returns. -/
def consumeResetToken (token : Nat) : AuthRedis × Option Uuid :=
  match redis.resetToken token with
  | none => (redis, none)
  | some accountId =>
      if redis.resetPointer accountId = some token then
        ((redis.setResetToken token none).setResetPointer accountId none, some accountId)
      else (redis, none)

inductive Key where
  | code (accountId : Uuid)
  | attempts (accountId : Uuid)
  | resetPointer (accountId : Uuid)
  | resetToken (token : Nat)
  | refresh (serial : Nat)
  | blockedToken (serial : Nat)
  | blockedSession (session : Nat)
  deriving DecidableEq

def expire : Key → AuthRedis
  | .code accountId => redis.setCode accountId none
  | .attempts accountId => redis.setAttempts accountId 0
  | .resetPointer accountId => redis.setResetPointer accountId none
  | .resetToken token => redis.setResetToken token none
  | .refresh serial => redis.setRefresh serial none
  | .blockedToken serial => { redis with blockedTokens := redis.blockedTokens.filter (· ≠ serial) }
  | .blockedSession session => { redis with blockedSessions := redis.blockedSessions.filter (· ≠ session) }

/-! ## What the operations leave of the codes -/

variable {redis}

def Fewer (redis next : AuthRedis) : Prop :=
  ∀ accountId digest, next.code accountId = some digest → redis.code accountId = some digest

theorem Fewer.of_eq {next : AuthRedis} (same : next.code = redis.code) : Fewer redis next :=
  fun accountId _ stored => congrFun same accountId ▸ stored

@[simp] theorem setCode_code (accountId other : Uuid) (digest : Option CodeDigest) :
    (redis.setCode accountId digest).code other = if other = accountId then digest else redis.code other :=
  Function.update_apply ..

theorem fewer_setCode (accountId : Uuid) : Fewer redis (redis.setCode accountId none) := by
  intro other digest stored
  rw [setCode_code] at stored
  split at stored
  · cases stored
  · exact stored

theorem fewer_consumeCode (digest : CodeDigest) : Fewer redis (redis.consumeCode digest).1 := by
  unfold consumeCode
  split
  · exact .of_eq rfl
  · split
    · exact fewer_setCode _
    · split
      · exact fewer_setCode _
      · simp only
        split
        · exact fewer_setCode _
        · exact .of_eq rfl

theorem fewer_consumeResetToken (token : Nat) : Fewer redis (redis.consumeResetToken token).1 := by
  unfold consumeResetToken
  split
  · exact .of_eq rfl
  · split <;> exact .of_eq rfl

theorem fewer_expire (key : Key) : Fewer redis (redis.expire key) := by
  cases key with
  | code accountId => exact fewer_setCode accountId
  | attempts | resetPointer | resetToken | refresh | blockedToken | blockedSession => exact .of_eq rfl

theorem consumeCode_stored {digest : CodeDigest} (consumed : (redis.consumeCode digest).2 = 1) :
    redis.code digest.accountId = some digest := by
  unfold consumeCode at consumed
  split at consumed
  · cases consumed
  · rename_i stored found
    split at consumed
    · cases consumed
    · split at consumed
      · rename_i same
        rw [found, same]
      · cases consumed

theorem consumeCode_eq_one_iff {digest : CodeDigest} (few : redis.attempts digest.accountId < emailVerificationMaxAttempts) :
    (redis.consumeCode digest).2 = 1 ↔ redis.code digest.accountId = some digest := by
  refine ⟨consumeCode_stored, fun stored => ?_⟩
  unfold consumeCode
  rw [stored]
  simp only [if_neg (Nat.not_le.mpr few), if_true]

end AuthRedis

end Tiber
