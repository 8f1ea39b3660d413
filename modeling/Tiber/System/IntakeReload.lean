import Mathlib.Logic.Equiv.Nat
import Tiber.Application.IntakeProcessor
import Tiber.Infrastructure.IntakeCodec

/-! A worker that loads an intake works on what was accepted.

The accepted object lives in the process that accepted it. What a worker gets is the entity built
from the row, and that is the same entity, in every status and with or without a plan.
-/

set_option autoImplicit false

namespace Tiber

open Library

/-- `IntakeProcessor.process` on an intake as its row holds it. -/
def IntakeProcessor.processRow (processor : IntakeProcessor) (conv : Conversions) (row : NotificationIntakeModel)
    (around : Surroundings) : Checked Processed := do
  let intake ← NotificationIntake.toEntity conv row
  return processor.process intake around

/-- Nothing of an intake is lost between its row and the worker. -/
theorem NotificationIntake.toEntity_toModel (conv : Conversions) (intake : NotificationIntake)
    (admitted : intake.Admitted conv) :
    toEntity conv (intake.toModel conv) = .ok intake ∧
      ∀ (processor : IntakeProcessor) (around : Surroundings),
        processor.processRow conv (intake.toModel conv) around = .ok (processor.process intake around) := by
  have loaded := toEntity_row admitted
  constructor
  · exact loaded
  · intro processor around
    rw [IntakeProcessor.processRow, loaded]
    rfl

/-! A scheduled request with its own content, claimed and planned. -/

def departure : Timestamp := .aware 1893553445000000

def timestampSides : Timestamp ≃ Instant ⊕ Wall where
  toFun
    | .aware instant => .inl instant
    | .naive wall => .inr wall
  invFun
    | .inl instant => .aware instant
    | .inr wall => .naive wall
  left_inv time := by cases time <;> rfl
  right_inv side := by cases side <;> rfl

/-- Timestamps by number, but the departure the way `isoformat` prints it. -/
def departureTimes : Spelling Timestamp :=
  ((Spelling.hex 1).along ((timestampSides.trans (Equiv.sumCongr Equiv.intEquivNat Equiv.intEquivNat)).trans
    Equiv.natSumNatEquivNat)).naming departure "2030-01-02T03:04:05+00:00".toList fun value same => by
      have letter : 'T' ∈ "2030-01-02T03:04:05+00:00".toList := by decide
      rw [← same] at letter
      exact absurd (Spelling.hex_chars letter) (by decide)

def splitUrl (url : Text) : Checked (Text × Text) :=
  let scheme := url.takeWhile (· ≠ ':')
  .ok (scheme, (url.drop (scheme.length + 3)).takeWhile (· ≠ '/'))

def departureConversions : Conversions where
  uuids := .uuid
  times := departureTimes
  urlparse := splitUrl
  nested _ := .null
  integer _ := .error (.typeError "int() argument must be a string, a bytes-like object or a real number")

def boarding : NotificationContent where
  title := some "Boarding".toList
  body := "Your train leaves soon.".toList
  actions := [⟨"Open ticket".toList, "https://rail.example/ticket".toList⟩]
  images := [⟨"https://rail.example/map.png".toList, none⟩]
  body_solid := by decide

def trains : ResolvedTopic := ⟨11, "trains".toList, .informational⟩

def boardingIntake : NotificationIntake where
  id := 1
  projectId := 2
  transactionId := 3
  recipientId := 4
  payload := ⟨{ topic := some trains, content := some boarding, groupKey := some "line-7".toList }, by decide⟩
  constraints := ⟨{
    allowedCategories := {.informational, .social}
    defaultCategory := .informational
    channelMode := .ml
    feasibleChannels := {.email, .push}
    maxChannels := 2 }, by decide⟩
  requestFingerprint := "f"
  status := .processing
  plan := some ⟨{
    category := .informational
    categorySource := .client
    topic := some trains
    topicSource := some .client
    channels := [.email]
    channelSource := .ml
    sendAt := fun channel => if channel = .email then some departure else none
    modelVersion := some "rules-v1" }, by decide⟩
  attempts := 1
  claimedAt := some 0
  createdAt := 0
  updatedAt := 0
  quiet := by decide

theorem boarding_admitted : boardingIntake.Admitted departureConversions := by
  intro content held
  cases held
  constructor
  · intro action listed
    cases List.mem_singleton.mp listed
    exact ⟨by decide, by rfl⟩
  · intro image listed
    cases List.mem_singleton.mp listed
    rfl

theorem boarding_reloaded :
    NotificationIntake.toEntity departureConversions (boardingIntake.toModel departureConversions) = .ok boardingIntake :=
  (NotificationIntake.toEntity_toModel departureConversions boardingIntake boarding_admitted).1

end Tiber
