import Mathlib.Data.Fintype.Defs
import Mathlib.Data.Finset.Basic

/-! The closed vocabularies of the domain, with the strings they are stored as. -/

set_option autoImplicit false

namespace Tiber

abbrev Uuid := Nat

inductive DeliveryChannel where
  | email
  | push
  | sms
  | inApp
  deriving DecidableEq, Repr

instance : Fintype DeliveryChannel where
  elems := {.email, .push, .sms, .inApp}
  complete channel := by cases channel <;> decide

def DeliveryChannel.value : DeliveryChannel → String
  | .email => "email"
  | .push => "push"
  | .sms => "sms"
  | .inApp => "in_app"

def DeliveryChannel.byValue : List DeliveryChannel := [.email, .inApp, .push, .sms]

theorem DeliveryChannel.mem_byValue (channel : DeliveryChannel) : channel ∈ byValue := by
  cases channel <;> decide

/-- `sorted(channels, key=lambda c: c.value)` of a set of channels. -/
def sortedChannels (channels : Finset DeliveryChannel) : List DeliveryChannel :=
  DeliveryChannel.byValue.filter (· ∈ channels)

@[simp] theorem mem_sortedChannels {channels : Finset DeliveryChannel} {channel : DeliveryChannel} :
    channel ∈ sortedChannels channels ↔ channel ∈ channels := by
  simp [sortedChannels, DeliveryChannel.mem_byValue]

theorem sortedChannels_nodup (channels : Finset DeliveryChannel) : (sortedChannels channels).Nodup :=
  List.Nodup.filter _ (by decide)

inductive NotificationCategory where
  | critical
  | informational
  | social
  | promotional
  deriving DecidableEq, Repr

instance : Fintype NotificationCategory where
  elems := {.critical, .informational, .social, .promotional}
  complete category := by cases category <;> decide

def NotificationCategory.value : NotificationCategory → String
  | .critical => "critical"
  | .informational => "informational"
  | .social => "social"
  | .promotional => "promotional"

inductive NotificationStatus where
  | pending
  | processing
  | delivered
  | failed
  | bounced
  | suppressed
  | postponed
  | cancelled
  deriving DecidableEq, Repr

def NotificationStatus.value : NotificationStatus → String
  | .pending => "pending"
  | .processing => "processing"
  | .delivered => "delivered"
  | .failed => "failed"
  | .bounced => "bounced"
  | .suppressed => "suppressed"
  | .postponed => "postponed"
  | .cancelled => "cancelled"

/-- The statuses no transition of the entity leaves. -/
def NotificationStatus.terminal : NotificationStatus → Bool
  | .delivered | .failed | .bounced | .suppressed | .cancelled => true
  | .pending | .processing | .postponed => false

inductive PolicyConsequence where
  | suppress
  | postpone
  deriving DecidableEq, Repr

inductive SendTimeBasis where
  | immediate
  | explicit
  | mlPredicted
  deriving DecidableEq, Repr

inductive DeliveryAttemptStatus where
  | success
  | fail
  deriving DecidableEq, Repr

def DeliveryAttemptStatus.value : DeliveryAttemptStatus → String
  | .success => "success"
  | .fail => "fail"

inductive IntakeStatus where
  | received
  | processing
  | completed
  | failed
  deriving DecidableEq, Repr

def IntakeStatus.value : IntakeStatus → String
  | .received => "received"
  | .processing => "processing"
  | .completed => "completed"
  | .failed => "failed"

def IntakeStatus.terminal : IntakeStatus → Bool
  | .completed | .failed => true
  | .received | .processing => false

end Tiber
