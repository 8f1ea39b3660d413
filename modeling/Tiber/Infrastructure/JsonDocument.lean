import Tiber.Domain.Intake
import Tiber.Library.Spelling

/-! JSON documents as the codecs write them and take them apart, and content as one of them.

`data[name]` fails where the member is missing, `data.get(name)` is null there. Loading runs every
constructor again.
-/

set_option autoImplicit false

namespace Tiber

open Library

/-! ## Documents -/

/-- A JSON document as far as the codec takes it apart; a leaf is a value it passes on whole. -/
inductive Json where
  | value (leaf : JsonValue)
  | number (n : Int)
  | array (items : List Json)
  | object (members : List (String × Json))

abbrev JsonObject := List (String × Json)

namespace Json

@[match_pattern] abbrev null : Json := .value .null

@[match_pattern] abbrev string (text : Text) : Json := .value (.string text)

def isNull : Json → Bool
  | null => true
  | _ => false

def truthy : Json → Bool
  | null => false
  | string text => !text.isEmpty
  | value (.other _ printed) => printed ∉ ["False", "0", "0.0", "-0.0", "[]", "\x7b\x7d"].map String.toList
  | number n => n ≠ 0
  | array items => !items.isEmpty
  | object members => !members.isEmpty

/-- `jsonb_typeof`, as far as a constraint asks for it. -/
def isObject : Json → Bool
  | object _ => true
  | _ => false

def nullable {α : Type} (write : α → Json) : Option α → Json
  | none => null
  | some found => write found

def optional {α : Type} (read : Json → Checked α) (json : Json) : Checked (Option α) :=
  if json.isNull then .ok none else (read json).map some

def get (data : JsonObject) (name : String) : Json := (data.lookup name).getD null

/-- `data[name]` -/
def require (data : JsonObject) (name : String) : Checked Json :=
  match data.lookup name with
  | some json => .ok json
  | none => .error (.raised "KeyError" name)

theorem optional_nullable {α : Type} {write : α → Json} {read : Json → Checked α} {field : Option α}
    (present : ∀ value ∈ field, (write value).isNull = false) (inverse : ∀ value ∈ field, read (write value) = .ok value) :
    optional read (nullable write field) = .ok field := by
  cases field with
  | none => rfl
  | some found =>
      rw [nullable, optional, present found rfl, inverse found rfl]
      rfl

end Json

/-- What loading and storing leave to the language and its library. `nested` is a structured value
as the rest of the program sees it, `integer` is `int` of what is not an integer. -/
structure Conversions where
  uuids : Spelling Uuid
  times : Spelling Timestamp
  urlparse : Text → Checked (Text × Text)
  nested : Json → JsonValue
  integer : Json → Checked Int

section Codec

variable (conv : Conversions)

def Json.leaf : Json → JsonValue
  | .value leaf => leaf
  | structured => conv.nested structured

def Json.str (json : Json) : Text := (json.leaf conv).str

def Json.int : Json → Checked Int
  | .number n => .ok n
  | json => conv.integer json

def asObject (json : Json) (name : String) : Checked JsonObject :=
  match json with
  | .object members => .ok members
  | _ => .error (.valueError (name ++ " must be a JSON object"))

def asArray (json : Json) (name : String) : Checked (List Json) :=
  match json with
  | .array items => .ok items
  | _ => .error (.valueError (name ++ " must be a JSON array"))

def asDatetime (name : String) (json : Json) : Checked Timestamp :=
  match json with
  | .string text =>
      match conv.times.read text with
      | some time => .ok time
      | none => .error (.valueError ("Invalid isoformat string: " ++ Text.repr text))
  | _ => .error (.valueError (name ++ " must be an ISO-8601 string"))

def asUuid (name : String) (json : Json) : Checked Uuid :=
  match json with
  | .string text =>
      match conv.uuids.read text with
      | some id => .ok id
      | none => .error (.valueError "badly formed hexadecimal UUID string")
  | _ => .error (.valueError (name ++ " must be a UUID string"))

/-- A member kept as it is found. The record's field holds texts only, so anything else, which the
code would keep as well, is turned down here. -/
def asText (name : String) (json : Json) : Checked Text :=
  match json with
  | .string text => .ok text
  | _ => .error (.typeError (name ++ " is not a text"))

def Json.ofUuid (id : Uuid) : Json := .string (conv.uuids.write id)

def Json.ofTime (time : Timestamp) : Json := .string (conv.times.write time)

@[simp] theorem asUuid_ofUuid (name : String) (id : Uuid) : asUuid conv name (.ofUuid conv id) = .ok id := by
  simp only [Json.ofUuid, asUuid, conv.uuids.read_write]

@[simp] theorem asDatetime_ofTime (name : String) (time : Timestamp) :
    asDatetime conv name (.ofTime conv time) = .ok time := by
  simp only [Json.ofTime, asDatetime, conv.times.read_write]

/-! ## Enumerations -/

def ofValue {α : Type} (className : String) (spelling : Spelling α) (text : Text) : Checked α :=
  match spelling.read text with
  | some value => .ok value
  | none => .error (.valueError (Text.repr text ++ " is not a valid " ++ className))

theorem ofValue_write {α : Type} (className : String) (spelling : Spelling α) (value : α) :
    ofValue className spelling (spelling.write value) = .ok value := by
  rw [ofValue, spelling.read_write]

end Codec

def DeliveryChannel.spelling : Spelling DeliveryChannel :=
  .vocabulary [.email, .push, .sms, .inApp] (fun channel => channel.value.toList)
    (fun channel => by cases channel <;> decide) (fun first second => by cases first <;> cases second <;> decide)

def NotificationCategory.spelling : Spelling NotificationCategory :=
  .vocabulary [.critical, .informational, .social, .promotional] (fun category => category.value.toList)
    (fun category => by cases category <;> decide) (fun first second => by cases first <;> cases second <;> decide)

def IntakeStatus.spelling : Spelling IntakeStatus :=
  .vocabulary [.received, .processing, .completed, .failed] (fun status => status.value.toList)
    (fun status => by cases status <;> decide) (fun first second => by cases first <;> cases second <;> decide)

def ChannelSource.value : ChannelSource → String
  | .client => "client"
  | .ml => "ml"
  | .addresses => "addresses"
  | .default => "default"

def DecisionSource.value : DecisionSource → String
  | .client => "client"
  | .ml => "ml"
  | .default => "default"

def ChannelMode.value : ChannelMode → String
  | .client => "client"
  | .addresses => "addresses"
  | .ml => "ml"

def ChannelSource.spelling : Spelling ChannelSource :=
  .vocabulary [.client, .ml, .addresses, .default] (fun source => source.value.toList)
    (fun source => by cases source <;> decide) (fun first second => by cases first <;> cases second <;> decide)

def DecisionSource.spelling : Spelling DecisionSource :=
  .vocabulary [.client, .ml, .default] (fun source => source.value.toList)
    (fun source => by cases source <;> decide) (fun first second => by cases first <;> cases second <;> decide)

def ChannelMode.spelling : Spelling ChannelMode :=
  .vocabulary [.client, .addresses, .ml] (fun mode => mode.value.toList)
    (fun mode => by cases mode <;> decide) (fun first second => by cases first <;> cases second <;> decide)

def NotificationCategory.byValue : List NotificationCategory := [.critical, .informational, .promotional, .social]

/-- `sorted(category.value for category in categories)`, before the values are taken. -/
def sortedCategories (categories : Finset NotificationCategory) : List NotificationCategory :=
  NotificationCategory.byValue.filter (· ∈ categories)

theorem sortedCategories_toFinset (categories : Finset NotificationCategory) :
    (sortedCategories categories).toFinset = categories := by
  ext category
  have listed : category ∈ NotificationCategory.byValue := by cases category <;> decide
  simp [sortedCategories, listed]

theorem sortedChannels_toFinset (channels : Finset DeliveryChannel) :
    (sortedChannels channels).toFinset = channels := by
  ext channel
  rw [List.mem_toFinset, mem_sortedChannels]

def Json.ofValue {α : Type} (spelling : Spelling α) (value : α) : Json := .string (spelling.write value)

/-- A `Literal` member. The code keeps it as it is found; a record's field holds a literal only, so
anything else is turned down here. -/
def asLiteral {α : Type} (spelling : Spelling α) (name : String) (json : Json) : Checked α :=
  match json with
  | .string text =>
      match spelling.read text with
      | some value => .ok value
      | none => .error (.typeError (name ++ " is not a literal of its type"))
  | _ => .error (.typeError (name ++ " is not a literal of its type"))

theorem asLiteral_ofValue {α : Type} (spelling : Spelling α) (name : String) (value : α) :
    asLiteral spelling name (.ofValue spelling value) = .ok value := by
  simp only [Json.ofValue, asLiteral, spelling.read_write]

section Content

variable (conv : Conversions)

/-! ## Content -/

def validateUrl (url : Text) (what : String) : Checked Unit := do
  let (scheme, netloc) ← conv.urlparse (Text.strip url)
  if (scheme = "http".toList ∨ scheme = "https".toList) ∧ Text.strip netloc ≠ [] then .ok ()
  else .error (.valueError ("Invalid " ++ what ++ " URL: " ++ Text.repr url))

def ContentAction.Admitted (action : ContentAction) : Prop :=
  Text.blank action.label = false ∧ validateUrl conv action.url "action" = .ok ()

def ContentImage.Admitted (image : ContentImage) : Prop := validateUrl conv image.url "image" = .ok ()

def NotificationContent.Admitted (content : NotificationContent) : Prop :=
  (∀ action ∈ content.actions, action.Admitted conv) ∧ ∀ image ∈ content.images, image.Admitted conv

/-- A label as `__post_init__` takes it: only texts have a `strip`. -/
def loadLabel (json : Json) : Checked Text :=
  if !json.truthy then .error (.valueError "Content action label must not be empty")
  else match json with
    | .string label =>
        if Text.blank label then .error (.valueError "Content action label must not be empty") else .ok label
    | _ => .error (.attributeError "object has no attribute 'strip'")

def loadUrl (what : String) (json : Json) : Checked Text :=
  match json with
  | .string url => (validateUrl conv url what).map fun _ => url
  | _ => .error (.attributeError "object has no attribute 'strip'")

def ContentAction.toDict (action : ContentAction) : Json :=
  .object [("label", .string action.label), ("url", .string action.url)]

def ContentImage.toDict (image : ContentImage) : Json :=
  .object [("url", .string image.url), ("alt", .nullable .string image.alt)]

def NotificationContent.toDict (content : NotificationContent) : JsonObject :=
  [("title", .nullable .string content.title),
    ("body", .string content.body),
    ("actions", .array (content.actions.map ContentAction.toDict)),
    ("images", .array (content.images.map ContentImage.toDict))]

def ContentAction.fromDict (raw : Json) : Checked ContentAction :=
  match raw with
  | .object members =>
      match members.lookup "label", members.lookup "url" with
      | some label, some url => do
          let label ← loadLabel label
          let url ← loadUrl conv "action" url
          return { label, url }
      | _, _ => .error (.valueError "each action requires 'label' and 'url'")
  | _ => .error (.valueError "each action requires 'label' and 'url'")

def ContentImage.fromDict (raw : Json) : Checked ContentImage :=
  match raw with
  | .object members =>
      match members.lookup "url" with
      | some url => do
          let url ← loadUrl conv "image" url
          let alt ← (Json.get members "alt").optional (asText "alt")
          return { url, alt }
      | none => .error (.valueError "each image requires 'url'")
  | _ => .error (.valueError "each image requires 'url'")

def loadBody (data : JsonObject) : Checked Text :=
  match data.lookup "body" with
  | some (.string body) => .ok body
  | some _ => .error (.valueError "content field 'body' must be a string")
  | none => .error (.valueError "content is missing required field 'body'")

def loadTitle (json : Json) : Checked (Option Text) :=
  match json with
  | .null => .ok none
  | .string title => .ok (some title)
  | _ => .error (.valueError "content field 'title' must be a string or null")

def NotificationContent.fromDict (data : JsonObject) : Checked NotificationContent := do
  let body ← loadBody data
  let title ← loadTitle (.get data "title")
  let (rawActions, rawImages) ←
    match (data.lookup "actions").getD (.array []), (data.lookup "images").getD (.array []) with
    | .array actions, .array images => .ok (actions, images)
    | _, _ => .error (.valueError "content fields 'actions'/'images' must be arrays")
  let actions ← rawActions.mapM (ContentAction.fromDict conv)
  let images ← rawImages.mapM (ContentImage.fromDict conv)
  NotificationContent.create title body actions images

variable {conv}

theorem optional_text (name : String) (text : Option Text) :
    Json.optional (asText name) (.nullable .string text) = .ok text :=
  Json.optional_nullable (fun _ _ => rfl) (fun _ _ => rfl)

theorem ContentAction.fromDict_toDict {action : ContentAction} (admitted : action.Admitted conv) :
    fromDict conv action.toDict = .ok action := by
  obtain ⟨solid, valid⟩ := admitted
  have label : loadLabel (.string action.label) = .ok action.label := by
    have spoken : action.label.isEmpty = false := by
      cases text : action.label with
      | nil => rw [text] at solid; cases solid
      | cons => rfl
    simp [loadLabel, Json.truthy, spoken, solid]
  have url : loadUrl conv "action" (.string action.url) = .ok action.url := by rw [loadUrl, valid]; rfl
  have members : fromDict conv action.toDict = (do
      let label ← loadLabel (.string action.label)
      let url ← loadUrl conv "action" (.string action.url)
      return { label, url }) := rfl
  rw [members, label, url]
  rfl

theorem ContentImage.fromDict_toDict {image : ContentImage} (admitted : image.Admitted conv) :
    fromDict conv image.toDict = .ok image := by
  have url : loadUrl conv "image" (.string image.url) = .ok image.url := by rw [loadUrl, admitted]; rfl
  have members : fromDict conv image.toDict = (do
      let url ← loadUrl conv "image" (.string image.url)
      let alt ← Json.optional (asText "alt") (.nullable .string image.alt)
      return { url, alt }) := rfl
  rw [members, url, optional_text]
  rfl

/-- Content survives `to_dict` and `from_dict`. -/
theorem NotificationContent.fromDict_toDict {content : NotificationContent} (admitted : content.Admitted conv) :
    fromDict conv content.toDict = .ok content := by
  have actions : (content.actions.map ContentAction.toDict).mapM (ContentAction.fromDict conv) = .ok content.actions :=
    mapM_map_eq_ok fun action listed => ContentAction.fromDict_toDict (admitted.1 action listed)
  have images : (content.images.map ContentImage.toDict).mapM (ContentImage.fromDict conv) = .ok content.images :=
    mapM_map_eq_ok fun image listed => ContentImage.fromDict_toDict (admitted.2 image listed)
  have title : loadTitle (.nullable .string content.title) = .ok content.title := by cases content.title <;> rfl
  have members : fromDict conv content.toDict = (do
      let title ← loadTitle (.nullable .string content.title)
      let actions ← (content.actions.map ContentAction.toDict).mapM (ContentAction.fromDict conv)
      let images ← (content.images.map ContentImage.toDict).mapM (ContentImage.fromDict conv)
      create title content.body actions images) := rfl
  rw [members, title, actions, images]
  exact create_eq_ok.mpr ⟨rfl, rfl, rfl, rfl⟩

end Content

end Tiber
