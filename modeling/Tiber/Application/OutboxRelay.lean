import Tiber.Infrastructure.OutboxTable

/-! Publishing one outbox row: what the relay hands to the publisher, and when it tries again. -/

set_option autoImplicit false

namespace Tiber

open Library

/-- The `outbox_*` settings, delays in seconds. -/
structure RelaySettings where
  batchSize : Nat := 100
  maxAttempts : Nat := 10
  retryBase : Nat := 1
  retryMax : Nat := 300
  batchSize_pos : 1 ≤ batchSize := by decide
  maxAttempts_pos : 1 ≤ maxAttempts := by decide
  retryBase_pos : 1 ≤ retryBase := by decide
  retryMax_pos : 1 ≤ retryMax := by decide

namespace RelaySettings

variable (settings : RelaySettings)

def retryDelay (previousAttempts : Nat) : Nat := min (settings.retryBase * 2 ^ previousAttempts) settings.retryMax

/-- When a failed message is tried again; `none` dead-letters it. -/
def retryAt (message : OutboxMessage) (now : Instant) : Option Instant :=
  if settings.maxAttempts ≤ message.attempts + 1 then none
  else some (now + settings.retryDelay message.attempts * Clock.second)

theorem retryDelay_pos (previousAttempts : Nat) : 0 < settings.retryDelay previousAttempts := by
  have base := Nat.mul_pos settings.retryBase_pos (Nat.two_pow_pos previousAttempts)
  exact lt_min base settings.retryMax_pos

theorem retryDelay_le (previousAttempts : Nat) : settings.retryDelay previousAttempts ≤ settings.retryMax :=
  min_le_right ..

theorem retryDelay_mono {first second : Nat} (later : first ≤ second) :
    settings.retryDelay first ≤ settings.retryDelay second :=
  min_le_min_right _ (Nat.mul_le_mul_left _ (Nat.pow_le_pow_right Nat.two_pos later))

end RelaySettings

inductive Publication where
  | intake (intakeId : Uuid)
  | notification (notification : Notification)

/-- `_publish` up to the call of the publisher. `found` is what `get_by_id` finds under the project
of the payload, or the exception that the look-up raises, a malformed id included. -/
def publish (message : OutboxMessage) (found : Checked (Option Notification)) : Checked Publication :=
  match message.kind with
  | .intake => .ok (.intake message.aggregateId)
  | .dispatch =>
      match message.projectId with
      | none => .error (.valueError "Dispatch outbox payload is missing project_id")
      | some _ =>
          match found with
          | .error failure => .error failure
          | .ok none => .error (.valueError
              ("Dispatch notification " ++ uuidText message.aggregateId ++ " no longer exists"))
          | .ok (some notification) => .ok (.notification notification)

end Tiber
