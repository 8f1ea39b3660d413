import Tiber.Application.AuthExpiry

/-! Access tokens: when one is good, and how a logout puts an end to it.

Moments are in milliseconds. A token says in whole seconds when it expires.
-/

set_option autoImplicit false

namespace Tiber

open Library

structure AccessToken extends Grant where
  expiry : Nat
  deriving DecidableEq

/-- `create_access_token`: the encoder drops the fraction of the second. -/
def createAccessToken (grant : Grant) (minutes now : Nat) : AccessToken :=
  { grant with expiry := now / 1000 + minutes * 60 }

/-- `decode_token` compares whole seconds. -/
def AccessToken.current (token : AccessToken) (now : Nat) : Bool := now / 1000 ≤ token.expiry

/-- `RedisTTL.CLOCK_SKEW` in seconds. -/
def clockSkewSeconds : Nat := 30

structure RevocationKeys where
  token : Nat → Slot Unit := fun _ => none
  sessions : SessionKeys := {}

namespace RevocationKeys

variable (keys : RevocationKeys)

def isRevoked (serial now : Nat) : Bool := ((keys.token serial).get now).isSome

def markToken (serial seconds now : Nat) : RevocationKeys :=
  { keys with token := Function.update keys.token serial (.setFor () seconds now) }

/-- The first write of `logout`, for the reading of the clock that precedes it. An expiry of zero seconds is
an error in Redis. -/
def blockToken (token : AccessToken) (reading now : Nat) : Option RevocationKeys :=
  let left := 1000 * (token.expiry + clockSkewSeconds) - reading
  if left = 0 then some keys
  else if left < 1000 then none
  else some (keys.markToken token.serial (left / 1000) now)

def revokeSession (session days now : Nat) : RevocationKeys :=
  { keys with sessions := keys.sessions.revokeSession session days now }

/-! ## How long the marks live -/

def lastLookup (token : AccessToken) : Nat := 1000 * token.expiry + 29000

def TokenMark (token : AccessToken) : Prop := ∀ moment ≤ lastLookup token, keys.isRevoked token.serial moment = true

def SessionMark (token : AccessToken) : Prop :=
  ∀ moment ≤ lastLookup token, keys.sessions.isRevoked token.session moment = true

variable {keys}

theorem markToken_isRevoked (serial other seconds now moment : Nat) :
    (keys.markToken serial seconds now).isRevoked other moment =
      if other = serial then decide (moment ≤ now + 1000 * seconds) else keys.isRevoked other moment := by
  unfold markToken isRevoked
  dsimp only
  rw [Function.update_apply]
  split
  · rw [Slot.get_setFor]
    split
    · rename_i alive
      exact (decide_eq_true alive).symm
    · rename_i dead
      exact (decide_eq_false dead).symm
  · rfl

theorem revokeSession_isRevoked (session other days now moment : Nat) :
    (keys.revokeSession session days now).sessions.isRevoked other moment =
      if other = session then decide (moment ≤ now + 1000 * refreshSeconds days)
      else keys.sessions.isRevoked other moment := by
  unfold revokeSession SessionKeys.isRevoked
  rw [SessionKeys.revokeSession_blockedSession]
  split
  · rw [Slot.get_setFor]
    split
    · rename_i alive
      exact (decide_eq_true alive).symm
    · rename_i dead
      exact (decide_eq_false dead).symm
  · rfl

theorem blockToken_eq {next : RevocationKeys} {token : AccessToken} {reading now : Nat}
    (blocked : keys.blockToken token reading now = some next) :
    next = keys ∨ ∃ seconds, next = keys.markToken token.serial seconds now := by
  unfold blockToken at blocked
  dsimp only at blocked
  split at blocked
  · cases blocked
    exact .inl rfl
  · split at blocked
    · cases blocked
    · cases blocked
      exact .inr ⟨_, rfl⟩

theorem blockToken_cases {next : RevocationKeys} {token : AccessToken} {reading now : Nat} (before : reading ≤ now)
    (blocked : keys.blockToken token reading now = some next) :
    next = keys ∧ 1000 * (token.expiry + 1) ≤ now ∨
      ∃ seconds, lastLookup token ≤ now + 1000 * seconds ∧ next = keys.markToken token.serial seconds now := by
  unfold blockToken clockSkewSeconds at blocked
  dsimp only at blocked
  split at blocked
  · cases blocked
    exact .inl ⟨rfl, by omega⟩
  · split at blocked
    · cases blocked
    · cases blocked
      refine .inr ⟨_, ?_, rfl⟩
      unfold lastLookup
      omega

end RevocationKeys

end Tiber
