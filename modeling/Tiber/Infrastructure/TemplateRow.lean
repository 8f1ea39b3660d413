import Tiber.Domain.TemplateEntity
import Tiber.Infrastructure.JsonDocument

/-! The rows of a template, and the mapping between them and the aggregate. -/

set_option autoImplicit false

namespace Tiber

open Library

/-- The channel is stored as its value, the lists as JSON arrays. -/
structure TemplateVariantModel where
  templateId : Uuid
  channel : Text
  title : Option Text
  body : Text
  actions : Json
  images : Json

structure TemplateModel where
  id : Uuid
  projectId : Uuid
  name : Text
  templateSlug : Text
  createdAt : Instant
  updatedAt : Instant
  variants : List TemplateVariantModel

def TemplateVariantModel.ofVariant (templateId : Uuid) (channel : DeliveryChannel) (variant : TemplateVariant) :
    TemplateVariantModel where
  templateId
  channel := DeliveryChannel.spelling.write channel
  title := variant.content.title
  body := variant.content.body
  actions := .array (variant.content.actions.map ContentAction.toDict)
  images := .array (variant.content.images.map ContentImage.toDict)

/-- `_to_model`: a row for each item of the dictionary, under the item's key. -/
def TemplateEntity.toModel (entity : TemplateEntity) : TemplateModel where
  id := entity.id
  projectId := entity.projectId
  name := entity.name
  templateSlug := entity.templateSlug
  createdAt := entity.createdAt
  updatedAt := entity.updatedAt
  variants := DeliveryChannel.byValue.filterMap fun channel =>
    (entity.variants channel).map (TemplateVariantModel.ofVariant entity.id channel)

section
variable (conv : Conversions)

/-- `v.actions or []`, and what iterating over it gives. -/
def Json.items (json : Json) : Checked (List Json) :=
  if !json.truthy then .ok []
  else match json with
    | .array items => .ok items
    | _ => .error (.typeError "not a list of items")

def Json.member (name : String) : Json → Checked Json
  | .object members => Json.require members name
  | _ => .error (.typeError "not an object")

def loadAction (raw : Json) : Checked ContentAction := do
  let label ← raw.member "label"
  let url ← raw.member "url"
  let label ← loadLabel label
  let url ← loadUrl conv "action" url
  return { label, url }

def loadAlt (raw : Json) : Checked (Option Text) :=
  match raw with
  | .object members => (Json.get members "alt").optional (asText "alt")
  | _ => .error (.attributeError "object has no attribute 'get'")

def loadImage (raw : Json) : Checked ContentImage := do
  let url ← raw.member "url"
  let alt ← loadAlt raw
  let url ← loadUrl conv "image" url
  return { url, alt }

def TemplateVariantModel.toVariant (row : TemplateVariantModel) : Checked TemplateVariant := do
  let channel ← ofValue "DeliveryChannel" DeliveryChannel.spelling row.channel
  let rawActions ← row.actions.items
  let actions ← rawActions.mapM (loadAction conv)
  let rawImages ← row.images.items
  let images ← rawImages.mapM (loadImage conv)
  let content ← NotificationContent.create row.title row.body actions images
  TemplateVariant.create channel content

/-- `_to_entity`: the stored slug is not read. -/
def TemplateModel.toEntity (lower : Text → Text) (model : TemplateModel) : Checked TemplateEntity := do
  let variants ← model.variants.mapM (TemplateVariantModel.toVariant conv)
  TemplateEntity.reconstitute lower model.id model.projectId model.name variants model.createdAt model.updatedAt

end

end Tiber
