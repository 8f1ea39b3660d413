import Tiber.Application.AuthTokens
import Tiber.Library.Expiring

/-! Verification codes and sessions in Redis, with the expiries the code asks for.

Each operation takes the moment, in milliseconds, at which Redis runs it. Read at that moment,
the keys behave as the ones without expiries.
-/

set_option autoImplicit false

namespace Tiber

open Library

/-- `RedisTTL.EMAIL_VERIFICATION` in seconds. -/
def emailVerificationSeconds : Nat := 600

structure CodeKeys where
  code : Uuid → Slot CodeDigest := fun _ => none
  attempts : Uuid → Slot Nat := fun _ => none

namespace CodeKeys

variable (keys : CodeKeys)

def setCode (accountId : Uuid) (code : Slot CodeDigest) : CodeKeys :=
  { keys with code := Function.update keys.code accountId code }

def setAttempts (accountId : Uuid) (attempts : Slot Nat) : CodeKeys :=
  { keys with attempts := Function.update keys.attempts accountId attempts }

/-- `GET KEYS[2] or '0'` -/
def attemptsAt (accountId : Uuid) (now : Nat) : Nat := ((keys.attempts accountId).get now).getD 0

def issueCode (accountId : Uuid) (email code : Text) (now : Nat) : CodeKeys :=
  keys.setCode accountId (.setFor { accountId, email, code } emailVerificationSeconds now)

/-- The counter after an incorrect guess: the first one gives it what is left of the code's life. -/
def countGuess (accountId : Uuid) (now : Nat) : Slot Nat :=
  let counter := (keys.attempts accountId).incr now
  let left := (keys.code accountId).ttl now
  if keys.attemptsAt accountId now + 1 = 1 ∧ 0 < left then counter.expire left.toNat now else counter

/-- `_CONSUME_EMAIL_VERIFICATION_CODE_LUA`, with the script's result. -/
def consumeCode (digest : CodeDigest) (now : Nat) : CodeKeys × Int :=
  match (keys.code digest.accountId).get now with
  | none => (keys, -1)
  | some stored =>
      let attempts := keys.attemptsAt digest.accountId now
      if emailVerificationMaxAttempts ≤ attempts then (keys.setCode digest.accountId none, -1)
      else if stored = digest then
        ((keys.setCode digest.accountId none).setAttempts digest.accountId none, 1)
      else
        let counter := keys.countGuess digest.accountId now
        if emailVerificationMaxAttempts ≤ attempts + 1 then
          ((keys.setAttempts digest.accountId (counter.expire emailVerificationSeconds now)).setCode
            digest.accountId none, 0)
        else (keys.setAttempts digest.accountId counter, 0)

def view (now : Nat) : AuthRedis where
  code accountId := (keys.code accountId).get now
  attempts accountId := keys.attemptsAt accountId now

variable {keys}

@[simp] theorem setCode_code (accountId other : Uuid) (code : Slot CodeDigest) :
    (keys.setCode accountId code).code other = if other = accountId then code else keys.code other :=
  Function.update_apply ..

@[simp] theorem setCode_attempts (accountId : Uuid) (code : Slot CodeDigest) :
    (keys.setCode accountId code).attempts = keys.attempts := rfl

@[simp] theorem setAttempts_attempts (accountId other : Uuid) (attempts : Slot Nat) :
    (keys.setAttempts accountId attempts).attempts other = if other = accountId then attempts else keys.attempts other :=
  Function.update_apply ..

@[simp] theorem setAttempts_code (accountId : Uuid) (attempts : Slot Nat) :
    (keys.setAttempts accountId attempts).code = keys.code := rfl

theorem countGuess_get (accountId : Uuid) (now : Nat) :
    (keys.countGuess accountId now).get now = some (keys.attemptsAt accountId now + 1) := by
  unfold countGuess
  dsimp only
  split
  · rw [Slot.get_expire, Slot.get_incr, attemptsAt]
  · rw [Slot.get_incr, attemptsAt]

/-! ## The same without expiries -/

theorem view_setCode (accountId : Uuid) (code : Slot CodeDigest) (now : Nat) :
    (keys.setCode accountId code).view now = (keys.view now).setCode accountId (code.get now) := by
  unfold view AuthRedis.setCode attemptsAt
  congr 1
  funext other
  rw [setCode_code, Function.update_apply]
  split <;> rfl

theorem view_setAttempts (accountId : Uuid) (attempts : Slot Nat) (now : Nat) :
    (keys.setAttempts accountId attempts).view now =
      (keys.view now).setAttempts accountId ((attempts.get now).getD 0) := by
  unfold view AuthRedis.setAttempts attemptsAt
  congr 1
  funext other
  rw [setAttempts_attempts, Function.update_apply]
  split <;> rfl

theorem view_issueCode (accountId : Uuid) (email code : Text) (now : Nat) :
    (keys.issueCode accountId email code now).view now = (keys.view now).issueCode accountId email code := by
  rw [issueCode, view_setCode, Slot.get_setFor, if_pos (Nat.le_add_right ..)]
  rfl

/-- At its moment the script does what it does to keys that never expire. -/
theorem view_consumeCode (digest : CodeDigest) (now : Nat) :
    ((keys.consumeCode digest now).1.view now, (keys.consumeCode digest now).2) =
      (keys.view now).consumeCode digest := by
  unfold consumeCode AuthRedis.consumeCode
  rw [show (keys.view now).code digest.accountId = (keys.code digest.accountId).get now from rfl,
    show (keys.view now).attempts digest.accountId = keys.attemptsAt digest.accountId now from rfl]
  cases (keys.code digest.accountId).get now with
  | none => rfl
  | some stored =>
      dsimp only
      split_ifs
      · rw [view_setCode, Slot.get_none]
      · rw [view_setAttempts, view_setCode, Slot.get_none, Slot.get_none, Option.getD_none]
      · rw [view_setCode, view_setAttempts, Slot.get_none, Slot.get_expire, countGuess_get, Option.getD_some]
      · rw [view_setAttempts, countGuess_get, Option.getD_some]

end CodeKeys

structure SessionKeys where
  refresh : Nat → Slot Grant := fun _ => none
  blockedSession : Nat → Slot Unit := fun _ => none

/-- `refresh_token_expire_days`, in seconds. -/
def refreshSeconds (days : Nat) : Nat := days * 24 * 60 * 60

namespace SessionKeys

variable (keys : SessionKeys)

def setRefresh (serial : Nat) (grant : Slot Grant) : SessionKeys :=
  { keys with refresh := Function.update keys.refresh serial grant }

def storeRefresh (grant : Grant) (days now : Nat) : SessionKeys :=
  keys.setRefresh grant.serial (.setFor grant (refreshSeconds days) now)

def revokeSession (session days now : Nat) : SessionKeys :=
  { keys with
    blockedSession := Function.update keys.blockedSession session (.setFor () (refreshSeconds days) now) }

def isRevoked (session now : Nat) : Bool := ((keys.blockedSession session).get now).isSome

variable {keys}

@[simp] theorem setRefresh_refresh (serial other : Nat) (grant : Slot Grant) :
    (keys.setRefresh serial grant).refresh other = if other = serial then grant else keys.refresh other :=
  Function.update_apply ..

@[simp] theorem revokeSession_blockedSession (session other days now : Nat) :
    (keys.revokeSession session days now).blockedSession other =
      if other = session then .setFor () (refreshSeconds days) now else keys.blockedSession other :=
  Function.update_apply ..

end SessionKeys

end Tiber
