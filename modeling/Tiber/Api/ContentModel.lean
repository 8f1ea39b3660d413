import Tiber.Infrastructure.JsonDocument

/-! Content on the API wire: the models a request's content is parsed by, and a response's content again.

A string field is stripped first and measured afterwards. A failed validation names one field here, the
library names all that fail.
-/

set_option autoImplicit false

namespace Tiber

open Library

/-! ## Fields -/

def validationError (field : String) (kind : String) : PyError := .raised "ValidationError" (field ++ ": " ++ kind)

/-- `str_strip_whitespace=True`, `str_min_length=1`, and `max_length` where there is one. -/
def strField (field : String) (maxLength : Option Nat) : Json → Checked Text
  | .string text =>
      if (Text.trim text).length < 1 then .error (validationError field "string_too_short")
      else if (maxLength.any fun limit => limit < (Text.trim text).length) then
        .error (validationError field "string_too_long")
      else .ok (Text.trim text)
  | _ => .error (validationError field "string_type")

def nullableField (field : String) (maxLength : Option Nat) (members : JsonObject) : Checked (Option Text) :=
  (Json.get members field).optional (strField field maxLength)

def requiredField (field : String) (members : JsonObject) : Checked Text :=
  match members.lookup field with
  | some json => strField field none json
  | none => .error (validationError field "missing")

def listField {α : Type} (field : String) (validate : Json → Checked α) (members : JsonObject) : Checked (List α) :=
  -- only a missing field is defaulted; null is no list
  match (members.lookup field).getD (.array []) with
  | .array items => items.mapM validate
  | _ => .error (validationError field "list_type")

def forbidExtra (fields : List String) (members : JsonObject) : Checked Unit :=
  match members.find? fun member => member.1 ∉ fields with
  | some extra => .error (validationError extra.1 "extra_forbidden")
  | none => .ok ()

/-! ## Models -/

structure ContentActionModel where
  label : Text
  url : Text
  deriving DecidableEq

structure ContentImageModel where
  url : Text
  alt : Option Text
  deriving DecidableEq

structure NotificationContentModel where
  title : Option Text
  body : Text
  actions : List ContentActionModel
  images : List ContentImageModel
  deriving DecidableEq

def ContentActionModel.validate : Json → Checked ContentActionModel
  | .object members => do
      forbidExtra ["label", "url"] members
      let label ← requiredField "label" members
      let url ← requiredField "url" members
      return { label, url }
  | _ => .error (validationError "actions" "model_type")

def ContentImageModel.validate : Json → Checked ContentImageModel
  | .object members => do
      forbidExtra ["url", "alt"] members
      let url ← requiredField "url" members
      let alt ← nullableField "alt" none members
      return { url, alt }
  | _ => .error (validationError "images" "model_type")

namespace NotificationContentModel

/-- `NotificationContentModel(**members)` -/
def validate (members : JsonObject) : Checked NotificationContentModel := do
  forbidExtra ["title", "body", "actions", "images"] members
  let title ← nullableField "title" (some 255) members
  let body ← requiredField "body" members
  let actions ← listField "actions" ContentActionModel.validate members
  let images ← listField "images" ContentImageModel.validate members
  return { title, body, actions, images }

end NotificationContentModel

section
variable (conv : Conversions)

def ContentAction.construct (label url : Text) : Checked ContentAction :=
  if Text.blank label then .error (.valueError "Content action label must not be empty")
  else (validateUrl conv url "action").map fun _ => ⟨label, url⟩

def ContentImage.construct (url : Text) (alt : Option Text) : Checked ContentImage :=
  (validateUrl conv url "image").map fun _ => ⟨url, alt⟩

def NotificationContentModel.toDomain (model : NotificationContentModel) : Checked NotificationContent := do
  let actions ← model.actions.mapM fun action => ContentAction.construct conv action.label action.url
  let images ← model.images.mapM fun image => ContentImage.construct conv image.url image.alt
  NotificationContent.create model.title model.body actions images

end

/-! ## What validation makes of a field -/

def Fits (maxLength : Option Nat) (text : Text) : Prop :=
  Text.trim text ≠ [] ∧ ∀ limit, maxLength = some limit → (Text.trim text).length ≤ limit

theorem fits_trim {maxLength : Option Nat} {text : Text} (fits : Fits maxLength text) :
    Fits maxLength (Text.trim text) := by
  unfold Fits at fits ⊢
  rwa [Text.trim_trim]

theorem fits_none {text : Text} : Fits none text ↔ Text.trim text ≠ [] := by
  simp [Fits]

theorem strField_eq_ok {field : String} {maxLength : Option Nat} {text value : Text} :
    strField field maxLength (.string text) = .ok value ↔ Fits maxLength text ∧ value = Text.trim text := by
  -- the two length checks of the field, the lower one first
  change (if (Text.trim text).length < 1 then _
    else if (maxLength.any fun limit => limit < (Text.trim text).length) = true then _ else Except.ok _) = _ ↔ _
  rw [Fits, ← List.length_pos_iff]
  by_cases short : (Text.trim text).length < 1
  · rw [if_pos short]
    simp only [reduceCtorEq, false_iff, not_and]
    omega
  · rw [if_neg short]
    cases maxLength with
    | none => simp [Nat.pos_of_ne_zero (by omega : (Text.trim text).length ≠ 0), eq_comm]
    | some limit =>
        by_cases long : limit < (Text.trim text).length
        · simp [long]
        · simp [long, Nat.not_lt.mp long, Nat.pos_of_ne_zero (by omega : (Text.trim text).length ≠ 0), eq_comm]

theorem nullable_eq_ok {field : String} {maxLength : Option Nat} {text value : Option Text} :
    (Json.nullable .string text).optional (strField field maxLength) = .ok value ↔
      (∀ given ∈ text, Fits maxLength given) ∧ value = text.map Text.trim := by
  cases text with
  | none => simp [Json.nullable, Json.optional, Json.isNull, eq_comm]
  | some given =>
      have present : (Json.nullable .string (some given)).optional (strField field maxLength) =
          (strField field maxLength (.string given)).map some := rfl
      rw [present]
      cases done : strField field maxLength (.string given) with
      | error failure =>
          simp only [Except.map, reduceCtorEq, false_iff]
          rintro ⟨fits, -⟩
          have passed : strField field maxLength (.string given) = .ok (Text.trim given) :=
            strField_eq_ok.mpr ⟨fits given rfl, rfl⟩
          rw [done] at passed
          cases passed
      | ok stripped =>
          obtain ⟨fits, rfl⟩ := strField_eq_ok.mp done
          simp [Except.map, fits, eq_comm]

theorem strField_fits {field : String} {maxLength : Option Nat} {json : Json} {value : Text}
    (valid : strField field maxLength json = .ok value) : Fits maxLength value := by
  unfold strField at valid
  split at valid
  · obtain ⟨fits, rfl⟩ := strField_eq_ok.mp valid
    exact fits_trim fits
  · cases valid

theorem nullableField_fits {field : String} {maxLength : Option Nat} {members : JsonObject} {value : Option Text}
    (valid : nullableField field maxLength members = .ok value) : ∀ given ∈ value, Fits maxLength given := by
  unfold nullableField Json.optional at valid
  split at valid
  · cases valid
    exact fun given impossible => nomatch impossible
  · intro given held
    cases done : strField field maxLength (Json.get members field) with
    | error failure => rw [done] at valid; cases valid
    | ok stripped =>
        rw [done] at valid
        cases valid
        cases held
        exact strField_fits done

/-! ## What validation makes of stored content -/

def ContentAction.trimmed (action : ContentAction) : ContentActionModel := ⟨Text.trim action.label, Text.trim action.url⟩

def ContentImage.trimmed (image : ContentImage) : ContentImageModel := ⟨Text.trim image.url, image.alt.map Text.trim⟩

def NotificationContent.trimmed (content : NotificationContent) : NotificationContentModel where
  title := content.title.map Text.trim
  body := Text.trim content.body
  actions := content.actions.map ContentAction.trimmed
  images := content.images.map ContentImage.trimmed

structure NotificationContent.Measured (content : NotificationContent) : Prop where
  title : ∀ title ∈ content.title, Fits (some 255) title
  body : Fits none content.body
  actions : ∀ action ∈ content.actions, Fits none action.label ∧ Fits none action.url
  images : ∀ image ∈ content.images, Fits none image.url ∧ ∀ alt ∈ image.alt, Fits none alt

theorem ContentActionModel.validate_toDict {action : ContentAction} {model : ContentActionModel} :
    validate action.toDict = .ok model ↔
      (Fits none action.label ∧ Fits none action.url) ∧ model = action.trimmed := by
  have members : validate action.toDict = (do
      let label ← strField "label" none (.string action.label)
      let url ← strField "url" none (.string action.url)
      return { label, url }) := rfl
  simp only [members, Checked.bind_eq_ok, strField_eq_ok]
  constructor
  · rintro ⟨_, ⟨label, rfl⟩, _, ⟨url, rfl⟩, made⟩
    cases made
    exact ⟨⟨label, url⟩, rfl⟩
  · rintro ⟨⟨label, url⟩, rfl⟩
    exact ⟨_, ⟨label, rfl⟩, _, ⟨url, rfl⟩, rfl⟩

theorem ContentImageModel.validate_toDict {image : ContentImage} {model : ContentImageModel} :
    validate image.toDict = .ok model ↔
      (Fits none image.url ∧ ∀ alt ∈ image.alt, Fits none alt) ∧ model = image.trimmed := by
  have members : validate image.toDict = (do
      let url ← strField "url" none (.string image.url)
      let alt ← (Json.nullable .string image.alt).optional (strField "alt" none)
      return { url, alt }) := rfl
  simp only [members, Checked.bind_eq_ok, strField_eq_ok, nullable_eq_ok]
  constructor
  · rintro ⟨_, ⟨url, rfl⟩, _, ⟨alt, rfl⟩, made⟩
    cases made
    exact ⟨⟨url, alt⟩, rfl⟩
  · rintro ⟨⟨url, alt⟩, rfl⟩
    exact ⟨_, ⟨url, rfl⟩, _, ⟨alt, rfl⟩, rfl⟩

/-- Stored content is validated exactly when it is within the bounds, and comes back stripped. -/
theorem NotificationContentModel.validate_toDict {content : NotificationContent} {model : NotificationContentModel} :
    validate content.toDict = .ok model ↔ content.Measured ∧ model = content.trimmed := by
  have members : validate content.toDict = (do
      let title ← (Json.nullable .string content.title).optional (strField "title" (some 255))
      let body ← strField "body" none (.string content.body)
      let actions ← (content.actions.map ContentAction.toDict).mapM ContentActionModel.validate
      let images ← (content.images.map ContentImage.toDict).mapM ContentImageModel.validate
      return { title, body, actions, images }) := rfl
  have actions : ∀ {values}, (content.actions.map ContentAction.toDict).mapM ContentActionModel.validate = .ok values ↔ _ :=
    mapM_map_eq_ok_iff fun _ _ => ContentActionModel.validate_toDict
  have images : ∀ {values}, (content.images.map ContentImage.toDict).mapM ContentImageModel.validate = .ok values ↔ _ :=
    mapM_map_eq_ok_iff fun _ _ => ContentImageModel.validate_toDict
  simp only [members, Checked.bind_eq_ok, strField_eq_ok, nullable_eq_ok, actions, images]
  constructor
  · rintro ⟨_, ⟨title, rfl⟩, _, ⟨body, rfl⟩, _, ⟨labels, rfl⟩, _, ⟨alts, rfl⟩, made⟩
    cases made
    exact ⟨⟨title, body, labels, alts⟩, rfl⟩
  · rintro ⟨measured, rfl⟩
    exact ⟨_, ⟨measured.title, rfl⟩, _, ⟨measured.body, rfl⟩, _, ⟨measured.actions, rfl⟩, _, ⟨measured.images, rfl⟩, rfl⟩

/-- The bounds that the constructors of the domain do not set. -/
def NotificationContent.Presentable (content : NotificationContent) : Prop :=
  (∀ title ∈ content.title, Fits (some 255) title) ∧ ∀ image ∈ content.images, ∀ alt ∈ image.alt, Fits none alt

section
variable {conv : Conversions}

theorem validateUrl_fits {url : Text} {what : String} (blank : conv.urlparse [] = .ok ([], []))
    (valid : validateUrl conv url what = .ok ()) : Fits none url := by
  -- a blank URL strips to the empty one, which has no scheme
  refine fits_none.mpr (Text.trim_ne_nil (Bool.eq_false_iff.mpr fun empty => ?_))
  have nothing : Text.strip url = [] := by
    have whole : url.dropWhile Text.isSpace = [] := List.dropWhile_eq_nil_iff.mpr fun c inside => by
      simpa using List.all_eq_true.mp empty c inside
    rw [Text.strip, whole]
    rfl
  simp [validateUrl, nothing, blank, bind, Except.bind] at valid

theorem ContentAction.construct_admitted {label url : Text} {action : ContentAction}
    (made : construct conv label url = .ok action) : action.Admitted conv := by
  unfold construct at made
  split at made
  · cases made
  · next spoken =>
      cases valid : validateUrl conv url "action" with
      | error failure => rw [valid] at made; cases made
      | ok _ =>
          rw [valid] at made
          cases made
          exact ⟨by simpa using spoken, valid⟩

theorem ContentImage.construct_admitted {url : Text} {alt : Option Text} {image : ContentImage}
    (made : construct conv url alt = .ok image) : image.Admitted conv ∧ image.alt = alt := by
  unfold construct at made
  cases valid : validateUrl conv url "image" with
  | error failure => rw [valid] at made; cases made
  | ok _ =>
      rw [valid] at made
      cases made
      exact ⟨valid, rfl⟩

theorem ContentImageModel.validate_fits {json : Json} {model : ContentImageModel} (valid : validate json = .ok model) :
    ∀ alt ∈ model.alt, Fits none alt := by
  unfold validate at valid
  split at valid
  · simp only [Checked.bind_eq_ok] at valid
    obtain ⟨_, -, url, -, alt, described, made⟩ := valid
    cases made
    exact nullableField_fits described
  · cases valid

theorem listField_mem {α : Type} {field : String} {validate : Json → Checked α} {members : JsonObject} {values : List α}
    (valid : listField field validate members = .ok values) {value : α} (listed : value ∈ values) :
    ∃ json, validate json = .ok value := by
  unfold listField at valid
  split at valid
  · obtain ⟨json, -, done⟩ := mapM_mem valid listed
    exact ⟨json, done⟩
  · cases valid

theorem NotificationContentModel.toDomain_presentable {members : JsonObject} {model : NotificationContentModel}
    {content : NotificationContent} (valid : validate members = .ok model) (made : model.toDomain conv = .ok content) :
    content.Admitted conv ∧ content.Presentable := by
  simp only [validate, Checked.bind_eq_ok] at valid
  obtain ⟨_, -, title, titled, body, -, actions, -, images, pictured, whole⟩ := valid
  cases whole
  simp only [toDomain, Checked.bind_eq_ok] at made
  obtain ⟨labels, labelled, pictures, shown, created⟩ := made
  obtain ⟨sameTitle, -, sameActions, sameImages⟩ := NotificationContent.create_eq_ok.mp created
  refine ⟨⟨fun action listed => ?_, fun image listed => ?_⟩, ?_, fun image listed => ?_⟩
  · obtain ⟨source, -, done⟩ := mapM_mem labelled (sameActions ▸ listed)
    exact ContentAction.construct_admitted done
  · obtain ⟨source, -, done⟩ := mapM_mem shown (sameImages ▸ listed)
    exact (ContentImage.construct_admitted done).1
  · rw [sameTitle]
    exact nullableField_fits titled
  · obtain ⟨source, member, done⟩ := mapM_mem shown (sameImages ▸ listed)
    obtain ⟨json, checked⟩ := listField_mem pictured member
    rw [(ContentImage.construct_admitted done).2]
    exact ContentImageModel.validate_fits checked

theorem NotificationContent.measured_iff {content : NotificationContent} (admitted : content.Admitted conv)
    (blank : conv.urlparse [] = .ok ([], [])) : content.Measured ↔ content.Presentable := by
  constructor
  · exact fun measured => ⟨measured.title, fun image listed => (measured.images image listed).2⟩
  · rintro ⟨title, alts⟩
    refine ⟨title, fits_none.mpr (Text.trim_ne_nil content.body_solid), fun action listed => ?_, fun image listed => ?_⟩
    · obtain ⟨label, url⟩ := admitted.1 action listed
      exact ⟨fits_none.mpr (Text.trim_ne_nil label), validateUrl_fits blank url⟩
    · exact ⟨validateUrl_fits blank (admitted.2 image listed), alts image listed⟩

end

end Tiber
