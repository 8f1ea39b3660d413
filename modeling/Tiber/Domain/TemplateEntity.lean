import Tiber.Domain.Slug
import Tiber.Domain.Template

/-! The template aggregate: its constructor and the operations that return a changed copy. -/

set_option autoImplicit false

namespace Tiber

open Library

def TemplateVariant.create (channel : DeliveryChannel) (content : NotificationContent) : Checked TemplateVariant :=
  match valid : validateContent channel content with
  | .ok () => .ok ⟨channel, content, valid⟩
  | .error error => .error error

theorem TemplateVariant.create_self (variant : TemplateVariant) :
    create variant.channel variant.content = .ok variant := by
  unfold create
  split
  · rfl
  · next error failed => rw [variant.valid] at failed; cases failed

/-- `dict[DeliveryChannel, TemplateVariant]`, where every entry is made as `variants[variant.channel] = variant`. -/
structure Variants where
  get : DeliveryChannel → Option TemplateVariant
  keyed : ∀ channel variant, get channel = some variant → variant.channel = channel

namespace Variants

def empty : Variants := ⟨fun _ => none, fun _ _ impossible => nomatch impossible⟩

def put (variants : Variants) (variant : TemplateVariant) : Variants where
  get := Function.update variants.get variant.channel (some variant)
  keyed channel found held := by
    by_cases own : channel = variant.channel
    · subst own
      rw [Function.update_self] at held
      cases held
      rfl
    · rw [Function.update_of_ne own] at held
      exact variants.keyed channel found held

def pop (variants : Variants) (channel : DeliveryChannel) : Variants where
  get := Function.update variants.get channel none
  keyed other found held := by
    by_cases own : other = channel
    · rw [own, Function.update_self] at held
      cases held
    · rw [Function.update_of_ne own] at held
      exact variants.keyed other found held

theorem put_get_self (variants : Variants) (variant : TemplateVariant) :
    (variants.put variant).get variant.channel = some variant := Function.update_self ..

theorem put_get_of_ne {variants : Variants} {variant : TemplateVariant} {channel : DeliveryChannel}
    (other : channel ≠ variant.channel) : (variants.put variant).get channel = variants.get channel :=
  Function.update_of_ne other ..

theorem pop_get_self (variants : Variants) (channel : DeliveryChannel) : (variants.pop channel).get channel = none :=
  Function.update_self ..

theorem pop_get_of_ne {variants : Variants} {channel other : DeliveryChannel} (apart : other ≠ channel) :
    (variants.pop channel).get other = variants.get other :=
  Function.update_of_ne apart ..

/-- A dictionary built from a list of variants: of two for one channel the later stays. -/
def ofList (variants : List TemplateVariant) : Variants := variants.foldl put empty

def values (variants : Variants) : List TemplateVariant := DeliveryChannel.byValue.filterMap variants.get

theorem mem_values {variants : Variants} {variant : TemplateVariant} :
    variant ∈ variants.values ↔ variants.get variant.channel = some variant := by
  simp only [values, List.mem_filterMap]
  constructor
  · rintro ⟨channel, -, held⟩
    rwa [variants.keyed channel variant held]
  · exact fun held => ⟨variant.channel, DeliveryChannel.mem_byValue _, held⟩

theorem ext_get {variants others : Variants} (same : variants.get = others.get) : variants = others := by
  obtain ⟨get, keyed⟩ := variants
  cases same
  rfl

end Variants

/-- The dataclass after `__post_init__`: the slug is always there. -/
structure TemplateEntity extends Template where
  createdAt : Instant
  updatedAt : Instant

namespace TemplateEntity

def entries (entity : TemplateEntity) : Variants := ⟨entity.variants, entity.keyed⟩

section
variable (lower : Text → Text)

def slugOr (name : Text) : Option Text → Checked Text
  | some slug => .ok slug
  | none => (requireDerivableName lower name).map fun _ => deriveSlug lower name

def construct (id projectId : Uuid) (name : Text) (templateSlug : Option Text) (variants : Variants)
    (createdAt updatedAt : Instant) : Checked TemplateEntity :=
  if Text.blank name then
    .error (.invalidEntityAttribute "Template name must not be empty")
  else do
    -- an empty slug is not checked: it is falsy in the source
    let slug ← slugOr lower name templateSlug
    if slug ≠ [] ∧ slugRe.rmatch slug = false then
      .error (.invalidEntityAttribute
        ("Template slug must be lowercase letters and digits separated by single hyphens, " ++
          "with no leading or trailing hyphen (got: " ++ Text.repr slug ++ ")"))
    else .ok {
      id, projectId, name
      templateSlug := slug
      variants := variants.get
      keyed := variants.keyed
      createdAt, updatedAt }

def create (id projectId : Uuid) (name : Text) (variants : List TemplateVariant) (createdAt updatedAt : Instant) :
    Checked TemplateEntity :=
  construct lower id projectId name none (.ofList variants) createdAt updatedAt

/-- Rebuilding hands no slug over either. -/
def reconstitute (id projectId : Uuid) (name : Text) (variants : List TemplateVariant)
    (createdAt updatedAt : Instant) : Checked TemplateEntity :=
  construct lower id projectId name none (.ofList variants) createdAt updatedAt

variable (entity : TemplateEntity)

def addOrUpdateVariants (variant : TemplateVariant) (now : Instant) : Checked TemplateEntity :=
  construct lower entity.id entity.projectId entity.name (some entity.templateSlug) (entity.entries.put variant)
    entity.createdAt now

def removeVariant (channel : DeliveryChannel) (now : Instant) : Checked TemplateEntity :=
  construct lower entity.id entity.projectId entity.name (some entity.templateSlug) (entity.entries.pop channel)
    entity.createdAt now

def rename (name : Text) (now : Instant) : Checked TemplateEntity :=
  if Text.blank name then
    .error (.invalidEntityAttribute "Template name must not be empty")
  else do
    requireDerivableName lower name
    -- `replace` runs `__post_init__` again, with the new slug
    construct lower entity.id entity.projectId name (some (deriveSlug lower name)) entity.entries
      entity.createdAt now

end

def requiredVariables (entity : TemplateEntity) : Finset Text :=
  (entity.entries.values.flatMap TemplateVariant.variableNames).toFinset

def variablesFor (entity : TemplateEntity) (channel : DeliveryChannel) : Checked (Finset Text) :=
  match entity.variants channel with
  | none => .error (.invalidEntityAttribute ("Template has no variant for channel '" ++ channel.value ++ "'"))
  | some variant => .ok variant.variableNames.toFinset

theorem mem_requiredVariables (entity : TemplateEntity) (name : Text) :
    name ∈ entity.requiredVariables ↔
      ∃ channel names, entity.variablesFor channel = .ok names ∧ name ∈ names := by
  simp only [requiredVariables, List.mem_toFinset, List.mem_flatMap, Variants.mem_values]
  constructor
  · rintro ⟨variant, held, used⟩
    refine ⟨variant.channel, variant.variableNames.toFinset, ?_, List.mem_toFinset.mpr used⟩
    rw [variablesFor, show entity.variants variant.channel = some variant from held]
  · rintro ⟨channel, names, found, used⟩
    unfold variablesFor at found
    split at found
    · cases found
    · next variant held =>
        cases found
        refine ⟨variant, ?_, List.mem_toFinset.mp used⟩
        rw [entity.keyed channel variant held]
        exact held

end TemplateEntity

end Tiber
