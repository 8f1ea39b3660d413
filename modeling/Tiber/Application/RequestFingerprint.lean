import Tiber.Application.Accept
import Tiber.Infrastructure.JsonDocument
import Tiber.Library.JsonTree

/-! `request_fingerprint`: the document a request is reduced to, and the digest of its encoding. -/

set_option autoImplicit false

namespace Tiber

open Library

def JsonValue.encoded : JsonValue → Text
  | .null => "null".toList
  | .string text => JsonTree.quoted text
  -- a number, a boolean, a list or an object, by its own encoding
  | .other encoded _ => encoded

namespace Json

mutual

/-- `json.dumps(document, sort_keys=True, separators=(",", ":"))` -/
def dumps : Json → Text
  | .value leaf => leaf.encoded
  | .number n => JsonTree.intText n
  | .array items => '[' :: (JsonTree.separated (dumpsItems items) ++ [']'])
  | .object members =>
      '\x7b' :: (JsonTree.separated
        ((JsonTree.sortedMembers (dumpsMembers members)).map JsonTree.memberText) ++ ['\x7d'])

def dumpsItems : List Json → List Text
  | [] => []
  | item :: rest => dumps item :: dumpsItems rest

def dumpsMembers : List (String × Json) → List (Text × Text)
  | [] => []
  | (name, member) :: rest => (name.toList, dumps member) :: dumpsMembers rest

end

end Json

/-- What the fingerprint leaves to the machine: the digest, the notation of a time in UTC and the
instant a time without a zone is taken for. -/
structure Hashing where
  sha256 : Text → String
  times : Spelling Timestamp
  localInstant : Wall → Instant

section

variable (runtime : Runtime) (hashing : Hashing)

def Hashing.utc : Timestamp → Instant
  | .aware instant => instant
  | .naive wall => hashing.localInstant wall

def sortedValues (channels : List DeliveryChannel) : List Text :=
  (channels.map fun channel => channel.value.toList).insertionSort (· ≤ ·)

def requestDocument (command : AcceptNotificationCommand) : JsonObject :=
  [("recipient_id", .nullable .string command.recipientId),
    ("addresses", .object (DeliveryChannel.byValue.filterMap fun channel => (command.addresses channel).map fun value =>
      (channel.value, .string (normalizeAddress runtime channel value)))),
    -- a list of channels carries no order; `None` is not the empty list
    ("channels", .nullable (fun channels => .array ((sortedValues channels).map .string)) command.channels),
    ("category", .nullable (.ofValue NotificationCategory.spelling) command.category),
    ("topic_slug", .nullable .string command.topicSlug),
    ("template_slug", .nullable .string command.templateSlug),
    ("template_variables", .nullable (fun given => .object (given.map fun member =>
      (String.ofList member.1, .value member.2))) command.templateVariables),
    ("content", .nullable (fun content => .object content.toDict) command.content),
    ("group_key", .nullable .string command.groupKey),
    -- a time without a zone is taken for local time
    ("send_at", .nullable (fun time => .string (hashing.times.write (.aware (hashing.utc time)))) command.sendAt)]

def requestFingerprint (command : AcceptNotificationCommand) : String :=
  hashing.sha256 (Json.dumps (.object (requestDocument runtime hashing command)))

end

end Tiber
