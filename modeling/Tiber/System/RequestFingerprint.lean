import Tiber.Application.RequestFingerprint
import Tiber.Library.JsonRecord
import Tiber.System.Acceptance
import Tiber.System.IntakeReload

/-! The fingerprint tells requests apart: two are given the same exactly when they ask for the same.

The document of a request is a JSON tree once its template variables are, and the encoder writes two trees
alike exactly when they are the same value.
-/

set_option autoImplicit false

namespace Tiber

open Library

/-! ## Template variables from a JSON object -/

section

variable (printed : JsonTree → Text)

/-- What the program sees of a decoded value; `printed` is its `str`. -/
def leafOf : JsonTree → JsonValue
  | .null => .null
  | .string text => .string text
  | tree => .other (JsonTree.dumps tree) (printed tree)

def variablesOf (given : JsonTree.Dict) : Variables := given.members.map fun member => (member.1, leafOf printed member.2)

theorem encoded_leafOf (tree : JsonTree) : (leafOf printed tree).encoded = JsonTree.dumps tree := by
  cases tree <;> rfl

end

/-! ## Documents as trees -/

namespace Json

theorem dumps_nullable {α : Type} {write : α → Json} {tree : α → JsonTree}
    (faithful : ∀ value, dumps (write value) = JsonTree.dumps (tree value)) (given : Option α) :
    dumps (nullable write given) = JsonTree.dumps (JsonTree.nullable tree given) := by
  cases given with
  | none => rfl
  | some value => exact faithful value

theorem dumpsItems_map {α : Type} {write : α → Json} {tree : α → JsonTree}
    (faithful : ∀ value, dumps (write value) = JsonTree.dumps (tree value)) (values : List α) :
    dumpsItems (values.map write) = JsonTree.dumpsItems (values.map tree) := by
  induction values with
  | nil => rfl
  | cons value rest ih => rw [List.map_cons, List.map_cons, dumpsItems, JsonTree.dumpsItems, faithful, ih]

theorem dumps_array {α : Type} {write : α → Json} {tree : α → JsonTree}
    (faithful : ∀ value, dumps (write value) = JsonTree.dumps (tree value)) (values : List α) :
    dumps (.array (values.map write)) = JsonTree.dumps (.array (values.map tree)) := by
  rw [dumps, JsonTree.dumps, dumpsItems_map faithful]

@[simp] theorem dumps_string (text : Text) : dumps (.string text) = JsonTree.dumps (.string text) := rfl

@[simp] theorem dumps_optionalText (text : Option Text) :
    dumps (nullable .string text) = JsonTree.dumps (.nullable .string text) :=
  dumps_nullable dumps_string text

theorem dumps_object {members : List (String × Json)} {others : List (Text × JsonTree)}
    (alike : dumpsMembers members = JsonTree.dumpsMembers others) :
    dumps (.object members) = JsonTree.dumps (.object others) := by
  rw [dumps, JsonTree.dumps, alike]

end Json

def ContentAction.tree (action : ContentAction) : JsonTree :=
  .record ["label", "url"] [.string action.label, .string action.url]

def ContentImage.tree (image : ContentImage) : JsonTree :=
  .record ["url", "alt"] [.string image.url, .nullable .string image.alt]

def NotificationContent.tree (content : NotificationContent) : JsonTree :=
  .record ["title", "body", "actions", "images"]
    [.nullable .string content.title, .string content.body, .array (content.actions.map ContentAction.tree),
      .array (content.images.map ContentImage.tree)]

def addressTree (addresses : Addresses) : JsonTree :=
  .object (DeliveryChannel.byValue.filterMap
    (JsonTree.entry (fun channel => channel.value.toList) fun channel => (addresses channel).map .string))

def channelsTree (channels : List DeliveryChannel) : JsonTree := .array ((sortedValues channels).map .string)

section

variable (runtime : Runtime) (hashing : Hashing)

def requestTree (command : AcceptNotificationCommand) (given : Option JsonTree.Dict) : JsonTree :=
  .record ["recipient_id", "addresses", "channels", "category", "topic_slug", "template_slug", "template_variables",
      "content", "group_key", "send_at"]
    [.nullable .string command.recipientId,
      addressTree (normalizeAddresses runtime command.addresses),
      .nullable channelsTree command.channels,
      .nullable (fun category => .string (NotificationCategory.spelling.write category)) command.category,
      .nullable .string command.topicSlug,
      .nullable .string command.templateSlug,
      .nullable (fun given => .object given.members) given,
      .nullable NotificationContent.tree command.content,
      .nullable .string command.groupKey,
      .nullable (fun time => .string (hashing.times.write (.aware (hashing.utc time)))) command.sendAt]

end

theorem ContentAction.dumps_tree (action : ContentAction) : Json.dumps action.toDict = JsonTree.dumps action.tree := rfl

theorem ContentImage.dumps_tree (image : ContentImage) : Json.dumps image.toDict = JsonTree.dumps image.tree := by
  refine Json.dumps_object ?_
  simp only [Json.dumpsMembers, Json.dumps_string, Json.dumps_optionalText]
  rfl

theorem NotificationContent.dumps_tree (content : NotificationContent) :
    Json.dumps (.object content.toDict) = JsonTree.dumps content.tree := by
  refine Json.dumps_object ?_
  simp only [toDict, Json.dumpsMembers, Json.dumps_string, Json.dumps_optionalText,
    Json.dumps_array ContentAction.dumps_tree, Json.dumps_array ContentImage.dumps_tree]
  rfl

theorem dumpsMembers_addresses (runtime : Runtime) (addresses : Addresses) (channels : List DeliveryChannel) :
    Json.dumpsMembers (channels.filterMap fun channel => (addresses channel).map fun value =>
      (channel.value, .string (normalizeAddress runtime channel value))) =
    JsonTree.dumpsMembers (channels.filterMap (JsonTree.entry (fun channel => channel.value.toList)
      fun channel => (normalizeAddresses runtime addresses channel).map .string)) := by
  induction channels with
  | nil => rfl
  | cons channel rest ih =>
      rw [List.filterMap_cons, List.filterMap_cons]
      cases found : addresses channel with
      | none => simpa [JsonTree.entry, normalizeAddresses, found] using ih
      | some value => simpa [JsonTree.entry, normalizeAddresses, found, Json.dumpsMembers, JsonTree.dumpsMembers] using ih

theorem dumpsMembers_variables (printed : JsonTree → Text) (members : List (Text × JsonTree)) :
    Json.dumpsMembers ((members.map fun member => (member.1, leafOf printed member.2)).map fun member =>
      (String.ofList member.1, .value member.2)) = JsonTree.dumpsMembers members := by
  induction members with
  | nil => rfl
  | cons member rest ih =>
      rw [List.map_cons, List.map_cons, Json.dumpsMembers, JsonTree.dumpsMembers, ih, String.toList_ofList, Json.dumps,
        encoded_leafOf]

section

variable {printed : JsonTree → Text} (runtime : Runtime) (hashing : Hashing)

/-- The text that is hashed is the encoding of the request's tree. -/
theorem dumps_requestTree {command : AcceptNotificationCommand} {given : Option JsonTree.Dict}
    (decoded : command.templateVariables = given.map (variablesOf printed)) :
    Json.dumps (.object (requestDocument runtime hashing command)) =
      JsonTree.dumps (requestTree runtime hashing command given) := by
  have channels (listed : List DeliveryChannel) :
      Json.dumps (.array ((sortedValues listed).map .string)) = JsonTree.dumps (channelsTree listed) :=
    Json.dumps_array Json.dumps_string _
  have category (category : NotificationCategory) : Json.dumps (.ofValue NotificationCategory.spelling category) =
      JsonTree.dumps (.string (NotificationCategory.spelling.write category)) := rfl
  have time (time : Timestamp) : Json.dumps (.string (hashing.times.write (.aware (hashing.utc time)))) =
      JsonTree.dumps (.string (hashing.times.write (.aware (hashing.utc time)))) := rfl
  -- the variables are the only member whose text does not come from the command's own fields
  have members : Json.dumps (.nullable (fun given => .object (given.map fun member =>
      (String.ofList member.1, .value member.2))) command.templateVariables) =
        JsonTree.dumps (.nullable (fun given => .object given.members) given) := by
    rw [decoded]
    cases given with
    | none => rfl
    | some given => exact Json.dumps_object (dumpsMembers_variables printed given.members)
  refine Json.dumps_object ?_
  simp only [requestDocument, Json.dumpsMembers, Json.dumps_optionalText, members,
    Json.dumps_nullable channels, Json.dumps_nullable category, Json.dumps_nullable time,
    Json.dumps_nullable NotificationContent.dumps_tree,
    Json.dumps_object (dumpsMembers_addresses runtime command.addresses DeliveryChannel.byValue)]
  rfl

end

/-! ## No name twice -/

theorem NotificationContent.tree_unique (content : NotificationContent) : content.tree.UniqueKeys := by
  have action (action : ContentAction) : action.tree.UniqueKeys :=
    JsonTree.unique_record rfl (by decide) ⟨trivial, trivial, trivial⟩
  have image (image : ContentImage) : image.tree.UniqueKeys :=
    JsonTree.unique_record rfl (by decide) ⟨trivial, JsonTree.unique_text _, trivial⟩
  exact JsonTree.unique_record rfl (by decide)
    ⟨JsonTree.unique_text _, trivial, JsonTree.unique_array action _, JsonTree.unique_array image _, trivial⟩

theorem channelValue_injective : Function.Injective fun channel : DeliveryChannel => channel.value.toList :=
  DeliveryChannel.spelling.write_injective

theorem addressTree_unique (addresses : Addresses) : (addressTree addresses).UniqueKeys := by
  refine ⟨JsonTree.table_names _ _ channelValue_injective (by decide), JsonTree.uniqueMembers_iff.mpr ?_⟩
  intro member listed
  obtain ⟨channel, -, held⟩ := List.mem_filterMap.mp listed
  cases found : addresses channel with
  | none => simp [JsonTree.entry, found] at held
  | some address =>
      simp only [JsonTree.entry, found, Option.map_some, Option.some.injEq] at held
      rw [← held]
      exact trivial

theorem requestTree_unique (runtime : Runtime) (hashing : Hashing) (command : AcceptNotificationCommand)
    (given : Option JsonTree.Dict) : (requestTree runtime hashing command given).UniqueKeys := by
  have text {α : Type} (write : α → Text) (given : Option α) :
      (JsonTree.nullable (fun value => .string (write value)) given).UniqueKeys := by
    cases given <;> exact trivial
  have channels (listed : List DeliveryChannel) : (channelsTree listed).UniqueKeys := by
    rw [channelsTree, JsonTree.UniqueKeys, JsonTree.uniqueItems_iff, List.forall_mem_map]
    exact fun _ _ => trivial
  exact JsonTree.unique_record rfl (by decide)
    ⟨JsonTree.unique_text _, addressTree_unique _, JsonTree.unique_nullable channels _, text _ _, JsonTree.unique_text _,
      JsonTree.unique_text _, JsonTree.unique_nullable JsonTree.Dict.unique _,
      JsonTree.unique_nullable NotificationContent.tree_unique _, JsonTree.unique_text _, text _ _, trivial⟩

/-! ## The same tree -/

theorem same_text (first second : Option Text) :
    JsonTree.Same (.nullable .string first) (.nullable .string second) ↔ first = second :=
  JsonTree.same_nullable_eq nofun (fun _ _ => .rfl) first second

theorem ContentAction.same_tree (first second : ContentAction) : JsonTree.Same first.tree second.tree ↔ first = second := by
  rw [tree, tree, JsonTree.same_record rfl rfl]
  · cases first
    cases second
    simp [JsonTree.SameItems, JsonTree.Same]
  · decide

theorem ContentImage.same_tree (first second : ContentImage) : JsonTree.Same first.tree second.tree ↔ first = second := by
  rw [tree, tree, JsonTree.same_record rfl rfl]
  · cases first
    cases second
    simp [JsonTree.SameItems, JsonTree.Same, same_text]
  · decide

theorem NotificationContent.same_tree (first second : NotificationContent) :
    JsonTree.Same first.tree second.tree ↔ first = second := by
  rw [tree, tree, JsonTree.same_record rfl rfl]
  · cases first
    cases second
    simp only [JsonTree.SameItems, JsonTree.Same, same_text, and_true, mk.injEq,
      JsonTree.sameItems_map ContentAction.same_tree, JsonTree.sameItems_map ContentImage.same_tree]
    exact and_left_comm
  · decide

theorem addressTree_same (first second : Addresses) :
    JsonTree.Same (addressTree first) (addressTree second) ↔ first = second := by
  have entries (addresses : Addresses) (channel : DeliveryChannel) :
      (DeliveryChannel.byValue.filterMap (JsonTree.entry (fun channel => channel.value.toList) fun channel =>
        (addresses channel).map .string)).lookup channel.value.toList = (addresses channel).map .string :=
    JsonTree.lookup_table _ _ channelValue_injective _ (by cases channel <;> decide)
  constructor
  · intro same
    have alike := (JsonTree.same_object_iff (addressTree_unique first).1 (addressTree_unique second).1).mp same
    funext channel
    have here := alike channel.value.toList
    rw [entries, entries] at here
    cases mine : first channel with
    | none =>
        cases theirs : second channel with
        | none => rfl
        | some other => rw [mine, theirs] at here; cases here
    | some address =>
        cases theirs : second channel with
        | none => rw [mine, theirs] at here; cases here
        | some other =>
            rw [mine, theirs, Option.map_some, Option.map_some, Option.rel_some_some] at here
            exact congrArg some here
  · rintro rfl
    exact JsonTree.same_refl (addressTree_unique first)

theorem sortedValues_eq_iff (first second : List DeliveryChannel) :
    sortedValues first = sortedValues second ↔ first.Perm second := by
  have sorted (channels : List DeliveryChannel) :
      (sortedValues channels).Perm (channels.map fun channel => channel.value.toList) := List.perm_insertionSort _ _
  constructor
  · intro same
    have values := (sorted first).symm.trans (same ▸ sorted second)
    exact (List.map_perm_map_iff channelValue_injective).mp values
  · intro shared
    have values := (sorted first).trans ((shared.map _).trans (sorted second).symm)
    -- two sorted lists of the same values
    exact values.eq_of_pairwise (fun _ _ _ _ below above => le_antisymm below above) (List.pairwise_insertionSort _ _)
      (List.pairwise_insertionSort _ _)

theorem channelsTree_same (first second : List DeliveryChannel) :
    JsonTree.Same (channelsTree first) (channelsTree second) ↔ first.Perm second := by
  rw [channelsTree, channelsTree, JsonTree.Same, JsonTree.sameItems_map fun _ _ => .rfl, sortedValues_eq_iff]

/-! ## The same request -/

section

variable (runtime : Runtime) (hashing : Hashing)

/-- Two commands ask for the same; the variables are compared as the objects they were decoded from. -/
@[mk_iff] structure SameRequest (command other : AcceptNotificationCommand) (given given' : Option JsonTree.Dict) : Prop where
  recipientId : command.recipientId = other.recipientId
  addresses : normalizeAddresses runtime command.addresses = normalizeAddresses runtime other.addresses
  channels : Option.Rel List.Perm command.channels other.channels
  category : command.category = other.category
  topicSlug : command.topicSlug = other.topicSlug
  templateSlug : command.templateSlug = other.templateSlug
  templateVariables : Option.Rel (fun mine theirs => JsonTree.Same (.object mine.members) (.object theirs.members)) given given'
  content : command.content = other.content
  groupKey : command.groupKey = other.groupKey
  sendAt : command.sendAt.map hashing.utc = other.sendAt.map hashing.utc

theorem same_category (first second : Option NotificationCategory) :
    JsonTree.Same (.nullable (fun category => .string (NotificationCategory.spelling.write category)) first)
      (.nullable (fun category => .string (NotificationCategory.spelling.write category)) second) ↔ first = second := by
  have alike (first second : NotificationCategory) :
      JsonTree.Same (.string (NotificationCategory.spelling.write first))
        (.string (NotificationCategory.spelling.write second)) ↔ first = second := by
    rw [JsonTree.Same, NotificationCategory.spelling.write_injective.eq_iff]
  exact JsonTree.same_nullable_eq (fun category other => by cases other) alike first second

/-- A time is written in UTC, so it is told by its instant. -/
theorem same_time (first second : Option Timestamp) :
    JsonTree.Same (.nullable (fun time => .string (hashing.times.write (.aware (hashing.utc time)))) first)
      (.nullable (fun time => .string (hashing.times.write (.aware (hashing.utc time)))) second) ↔
        first.map hashing.utc = second.map hashing.utc := by
  have alike (first second : Timestamp) : JsonTree.Same (.string (hashing.times.write (.aware (hashing.utc first))))
      (.string (hashing.times.write (.aware (hashing.utc second)))) ↔ hashing.utc first = hashing.utc second := by
    rw [JsonTree.Same, hashing.times.write_injective.eq_iff, Timestamp.aware.injEq]
  rw [JsonTree.same_nullable (fun time other => by cases other) alike]
  cases first <;> cases second <;> simp [Option.not_rel_some_none, Option.not_rel_none_some]

theorem requestTree_same (command other : AcceptNotificationCommand) (given given' : Option JsonTree.Dict) :
    JsonTree.Same (requestTree runtime hashing command given) (requestTree runtime hashing other given') ↔
      SameRequest runtime hashing command other given given' := by
  have listed (channels : List DeliveryChannel) : channelsTree channels ≠ .null := nofun
  have object (given : JsonTree.Dict) : JsonTree.object given.members ≠ .null := nofun
  have written (content : NotificationContent) : content.tree ≠ .null := nofun
  rw [requestTree, requestTree, JsonTree.same_record rfl rfl]
  · rw [sameRequest_iff]
    simp only [JsonTree.SameItems, same_text, addressTree_same, same_category, same_time, and_true,
      JsonTree.same_nullable listed channelsTree_same, JsonTree.same_nullable object fun _ _ => .rfl,
      JsonTree.same_nullable_eq written NotificationContent.same_tree]
  · decide

/-- Before it is hashed, what is written for two requests differs unless they ask for the same. -/
theorem encodings_eq_iff {printed : JsonTree → Text} {command other : AcceptNotificationCommand}
    (given given' : Option JsonTree.Dict) (decoded : command.templateVariables = given.map (variablesOf printed))
    (decoded' : other.templateVariables = given'.map (variablesOf printed)) :
    Json.dumps (.object (requestDocument runtime hashing command)) =
        Json.dumps (.object (requestDocument runtime hashing other)) ↔
      SameRequest runtime hashing command other given given' := by
  rw [dumps_requestTree runtime hashing decoded, dumps_requestTree runtime hashing decoded',
    JsonTree.dumps_eq_iff (requestTree_unique runtime hashing command given)
      (requestTree_unique runtime hashing other given')]
  exact requestTree_same runtime hashing command other given given'

def transparent : Hashing where
  sha256 := String.ofList
  times := departureTimes
  localInstant wall := wall

def seat (row : Int) : JsonTree.Dict where
  members := [("seat".toList, .object [("row".toList, .int row), ("car".toList, .string "B".toList)]),
    ("quiet".toList, .bool true)]
  unique := ⟨(by decide : ["seat".toList, "quiet".toList].Nodup),
    ⟨(by decide : ["row".toList, "car".toList].Nodup), trivial, trivial, trivial⟩, trivial, trivial⟩

def turned : JsonTree.Dict where
  members := [("quiet".toList, .bool true),
    ("seat".toList, .object [("car".toList, .string "B".toList), ("row".toList, .int 7)])]
  unique := ⟨(by decide : ["quiet".toList, "seat".toList].Nodup), trivial,
    ⟨(by decide : ["car".toList, "row".toList].Nodup), trivial, trivial, trivial⟩, trivial⟩

def booking (email : Text) (channels : List DeliveryChannel) (given : JsonTree.Dict) : AcceptNotificationCommand :=
  { greet (variablesOf JsonTree.dumps given) with
    addresses := fun channel => if channel = .email then some email else none
    channels := some channels
    category := some .informational
    sendAt := some departure }

theorem booking_same {email email' : Text} {channels channels' : List DeliveryChannel} {given given' : JsonTree.Dict}
    (address : normalizeAddress cpython .email email = normalizeAddress cpython .email email')
    (shared : channels.Perm channels') (same : JsonTree.Same (.object given.members) (.object given'.members)) :
    SameRequest cpython transparent (booking email channels given) (booking email' channels' given') (some given)
      (some given') := by
  have addresses : normalizeAddresses cpython (booking email channels given).addresses =
      normalizeAddresses cpython (booking email' channels' given').addresses := by
    funext channel
    cases channel with
    | email => exact congrArg some address
    | _ => rfl
  exact ⟨rfl, addresses, .some shared, rfl, rfl, rfl, .some same, rfl, rfl, rfl⟩

def texting (projectId : Uuid) (key number : Text) : AcceptNotificationCommand :=
  { greet [] with
    projectId
    addresses := fun channel => if channel = .sms then some number else none
    idempotencyKey := some key }

end

end Tiber
