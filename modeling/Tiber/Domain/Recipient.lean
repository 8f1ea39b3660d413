import Tiber.Domain.Notification
import Mathlib.Data.Fintype.Basic

/-! Recipients, their preferences, and a project's delivery constraint.

A zone name is validated by `ZoneInfo` before it is stored, so the model carries
the zone itself.
-/

set_option autoImplicit false

namespace Tiber

open Library

/-- A recurring time-of-day window; both ends count from midnight in microseconds. -/
structure QuietHours where
  name : String
  windowStart : Int
  windowEnd : Int
  channel : DeliveryChannel
  not_instant : windowStart ≠ windowEnd

structure BlackoutPeriod where
  name : String
  start : Instant
  finish : Instant
  ordered : start ≤ finish

structure RecipientPreferences where
  optedOutChannels : Finset DeliveryChannel := ∅
  unsubscribedCategories : Finset NotificationCategory := ∅
  unsubscribedTopics : Finset Uuid := ∅
  blackoutPeriod : Option BlackoutPeriod := none
  quietHours : Option QuietHours := none
  critical_stays : .critical ∉ unsubscribedCategories := by first | exact Finset.notMem_empty _ | decide

abbrev Addresses := DeliveryChannel → Option Text

def Addresses.channels (addresses : Addresses) : Finset DeliveryChannel :=
  Finset.univ.filter fun channel => (addresses channel).isSome

@[simp] theorem Addresses.mem_channels {addresses : Addresses} {channel : DeliveryChannel} :
    channel ∈ addresses.channels ↔ (addresses channel).isSome = true := by
  simp [channels]

/-- `addresses.get(channel)`, with the empty string as good as no address. -/
def Addresses.usable (addresses : Addresses) (channel : DeliveryChannel) : Option Text :=
  (addresses channel).filter fun address => !address.isEmpty

structure Recipient where
  id : Uuid
  projectId : Uuid
  addresses : Addresses
  preferences : RecipientPreferences
  externalId : Option Text := none
  timezone : Option Zone := none
  createdAt : Instant
  updatedAt : Instant
  archivedAt : Option Instant := none
  reachable : addresses.channels ≠ ∅
  opted_out_known : preferences.optedOutChannels ⊆ addresses.channels

structure DeliveryConstraint where
  projectId : Uuid
  blackoutPeriods : List BlackoutPeriod := []
  quietHours : List QuietHours := []
  timezone : Zone

end Tiber
