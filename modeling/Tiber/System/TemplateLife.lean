import Tiber.Infrastructure.TemplateRow
import Tiber.System.IntakeReload

/-! Every template a history of operations can reach has its derived slug, and is read back from its rows
as it was saved.
-/

set_option autoImplicit false

namespace Tiber

open Library

/-! ## Dictionaries -/

namespace Variants

theorem ofList_snoc (front : List TemplateVariant) (last : TemplateVariant) :
    ofList (front ++ [last]) = (ofList front).put last := by
  rw [ofList, List.foldl_append]
  rfl

theorem put_get {variants : Variants} {variant found : TemplateVariant} {channel : DeliveryChannel}
    (held : (variants.put variant).get channel = some found) :
    found = variant ∨ variants.get channel = some found := by
  by_cases own : channel = variant.channel
  · subst own
    rw [put_get_self] at held
    exact .inl (Option.some.inj held).symm
  · rw [put_get_of_ne own] at held
    exact .inr held

theorem pop_get {variants : Variants} {found : TemplateVariant} {channel other : DeliveryChannel}
    (held : (variants.pop channel).get other = some found) : variants.get other = some found := by
  by_cases own : other = channel
  · rw [own, pop_get_self] at held
    cases held
  · rwa [pop_get_of_ne own] at held

theorem ofList_mem {variants : List TemplateVariant} {variant : TemplateVariant} {channel : DeliveryChannel}
    (held : (ofList variants).get channel = some variant) : variant ∈ variants := by
  -- by induction from the end: the last variant is the one put in last
  induction variants using List.reverseRecOn with
  | nil => cases held
  | append_singleton front last ih =>
      rw [ofList_snoc] at held
      rcases put_get held with rfl | before
      · exact List.mem_append_right _ (.head _)
      · exact List.mem_append_left _ (ih before)

theorem ofList_has {variants : List TemplateVariant} {variant : TemplateVariant} (listed : variant ∈ variants) :
    ∃ found, (ofList variants).get variant.channel = some found := by
  induction variants using List.reverseRecOn with
  | nil => cases listed
  | append_singleton front last ih =>
      rw [ofList_snoc]
      by_cases own : variant.channel = last.channel
      · exact ⟨last, by rw [own, put_get_self]⟩
      · rcases List.mem_append.mp listed with before | here
        · obtain ⟨found, held⟩ := ih before
          exact ⟨found, by rw [put_get_of_ne own, held]⟩
        · exact absurd (by rw [List.mem_singleton.mp here]) own

/-- A dictionary comes back from its values in whatever order they are listed. -/
theorem ofList_values {variants : Variants} {listed : List TemplateVariant}
    (same : ∀ variant, variant ∈ listed ↔ variant ∈ variants.values) : ofList listed = variants := by
  refine ext_get (funext fun channel => Option.ext fun variant => ⟨fun held => ?_, fun held => ?_⟩)
  · have own := (ofList listed).keyed channel variant held
    rw [← own]
    exact mem_values.mp ((same variant).mp (ofList_mem held))
  · have own := variants.keyed channel variant held
    have member : variant ∈ listed := (same variant).mpr (mem_values.mpr (by rw [own]; exact held))
    obtain ⟨found, there⟩ := ofList_has member
    rw [own] at there
    -- whatever is stored for the channel is one of the values for that channel
    have other := mem_values.mp ((same found).mp (ofList_mem there))
    rw [(ofList listed).keyed channel found there, held] at other
    rw [there, other]

end Variants

/-! ## The aggregate -/

section
variable {lower : Text → Text} {conv : Conversions}

namespace TemplateEntity

variable {entity after loaded : TemplateEntity}

theorem construct_eq_ok {id projectId : Uuid} {name : Text} {templateSlug : Option Text} {variants : Variants}
    {createdAt updatedAt : Instant}
    (made : construct lower id projectId name templateSlug variants createdAt updatedAt = .ok entity) :
    Text.blank name = false ∧ slugOr lower name templateSlug = .ok entity.templateSlug ∧ entity.id = id ∧
      entity.projectId = projectId ∧ entity.name = name ∧ entity.entries = variants ∧
      entity.createdAt = createdAt ∧ entity.updatedAt = updatedAt := by
  unfold construct at made
  split at made
  · cases made
  · next spoken =>
      obtain ⟨slug, chosen, made⟩ := Checked.bind_eq_ok.mp made
      split at made
      · cases made
      · cases made
        exact ⟨by simpa using spoken, chosen, rfl, rfl, rfl, rfl, rfl, rfl⟩

theorem slugOr_none {name slug : Text} (derived : slugOr lower name none = .ok slug) :
    slug = deriveSlug lower name ∧ deriveSlug lower name ≠ [] := by
  rw [slugOr, requireDerivableName] at derived
  by_cases nothing : deriveSlug lower name = []
  · rw [if_pos nothing] at derived
    cases derived
  · rw [if_neg nothing] at derived
    cases derived
    exact ⟨rfl, nothing⟩

/-- What holds of a template however it has come about; the keys are the structure's own. -/
structure Sound (lower : Text → Text) (conv : Conversions) (entity : TemplateEntity) : Prop where
  named : Text.blank entity.name = false
  slugged : entity.templateSlug = deriveSlug lower entity.name
  derivable : deriveSlug lower entity.name ≠ []
  admitted : ∀ channel variant, entity.variants channel = some variant → variant.content.Admitted conv

theorem Sound.slug_matches (sound : Sound lower conv entity) : slugRe.rmatch entity.templateSlug = true := by
  rw [sound.slugged]
  exact deriveSlug_matches lower sound.derivable

/-- The constructor accepts a sound template's own fields, with its slug or without. -/
theorem Sound.construct (sound : Sound lower conv entity) {templateSlug : Option Text}
    (slug : templateSlug = none ∨ templateSlug = some entity.templateSlug) :
    construct lower entity.id entity.projectId entity.name templateSlug entity.entries entity.createdAt
      entity.updatedAt = .ok entity := by
  -- without a slug the constructor derives it, and it is the same one
  have chosen : slugOr lower entity.name templateSlug = .ok entity.templateSlug := by
    rcases slug with rfl | rfl
    · rw [slugOr, requireDerivableName, if_neg sound.derivable, sound.slugged]
      rfl
    · rfl
  rw [TemplateEntity.construct, if_neg (by simp [sound.named]), chosen]
  dsimp only [bind, Except.bind]
  rw [if_neg (by simp [sound.slug_matches])]
  rfl

theorem sound_of_construct {id projectId : Uuid} {name : Text} {templateSlug : Option Text} {variants : Variants}
    {createdAt updatedAt : Instant}
    (made : TemplateEntity.construct lower id projectId name templateSlug variants createdAt updatedAt = .ok entity)
    (slug : ∀ given, templateSlug = some given → given = deriveSlug lower name ∧ deriveSlug lower name ≠ [])
    (admitted : ∀ channel variant, variants.get channel = some variant → variant.content.Admitted conv) :
    Sound lower conv entity := by
  obtain ⟨spoken, chosen, -, -, own, same, -, -⟩ := construct_eq_ok made
  have derived : entity.templateSlug = deriveSlug lower name ∧ deriveSlug lower name ≠ [] := by
    cases templateSlug with
    | none => exact slugOr_none chosen
    | some given =>
        cases chosen
        exact slug _ rfl
  subst own same
  exact ⟨spoken, derived.1, derived.2, admitted⟩

theorem create_sound {id projectId : Uuid} {name : Text} {variants : List TemplateVariant} {createdAt updatedAt : Instant}
    (made : create lower id projectId name variants createdAt updatedAt = .ok entity)
    (admitted : ∀ variant ∈ variants, variant.content.Admitted conv) : Sound lower conv entity :=
  sound_of_construct made (fun _ impossible => nomatch impossible)
    fun _ variant held => admitted variant (Variants.ofList_mem held)

end TemplateEntity

inductive TemplateEdit where
  | addOrUpdate (variant : TemplateVariant) (now : Instant)
  | remove (channel : DeliveryChannel) (now : Instant)
  | rename (name : Text) (now : Instant)

namespace TemplateEntity

variable {entity after loaded : TemplateEntity}

def edit (lower : Text → Text) (entity : TemplateEntity) : TemplateEdit → Checked TemplateEntity
  | .addOrUpdate variant now => entity.addOrUpdateVariants lower variant now
  | .remove channel now => entity.removeVariant lower channel now
  | .rename name now => entity.rename lower name now

end TemplateEntity

def TemplateEdit.Admitted (conv : Conversions) : TemplateEdit → Prop
  | .addOrUpdate variant _ => variant.content.Admitted conv
  | .remove _ _ => True
  | .rename _ _ => True

namespace TemplateEntity

variable {entity after loaded : TemplateEntity}

theorem Sound.edit {edit : TemplateEdit} (sound : Sound lower conv entity) (admitted : edit.Admitted conv)
    (made : entity.edit lower edit = .ok after) : Sound lower conv after := by
  cases edit with
  -- `replace` hands the slug over; the name is the same, so it is still derived from it
  | addOrUpdate variant now =>
      refine sound_of_construct made (fun given same => ?_) fun channel found held => ?_
      · rw [← Option.some.inj same]
        exact ⟨sound.slugged, sound.derivable⟩
      · rcases Variants.put_get held with rfl | before
        · exact admitted
        · exact sound.admitted channel found before
  | remove channel now =>
      refine sound_of_construct made (fun given same => ?_) fun other found held => ?_
      · rw [← Option.some.inj same]
        exact ⟨sound.slugged, sound.derivable⟩
      · exact sound.admitted other found (Variants.pop_get held)
  | rename name now =>
      simp only [TemplateEntity.edit, TemplateEntity.rename] at made
      split at made
      · cases made
      · obtain ⟨⟨⟩, derivable, made⟩ := Checked.bind_eq_ok.mp made
        unfold requireDerivableName at derivable
        split at derivable
        · cases derivable
        · next some_slug =>
            refine sound_of_construct made (fun given same => ?_) fun channel found held => ?_
            · exact ⟨(Option.some.inj same).symm, some_slug⟩
            · exact sound.admitted channel found held

end TemplateEntity

/-! ## Rows -/

theorem loadAction_toDict {action : ContentAction} (admitted : action.Admitted conv) :
    loadAction conv action.toDict = .ok action := by
  have members : loadAction conv action.toDict = ContentAction.fromDict conv action.toDict := rfl
  rw [members]
  exact ContentAction.fromDict_toDict admitted

theorem loadImage_toDict {image : ContentImage} (admitted : image.Admitted conv) :
    loadImage conv image.toDict = .ok image := by
  have url : loadUrl conv "image" (.string image.url) = .ok image.url := by rw [loadUrl, admitted]; rfl
  have members : loadImage conv image.toDict = (do
      let alt ← Json.optional (asText "alt") (.nullable .string image.alt)
      let url ← loadUrl conv "image" (.string image.url)
      return { url, alt }) := rfl
  rw [members, url, optional_text]
  rfl

theorem items_array (items : List Json) : Json.items (.array items) = .ok items := by
  cases items <;> rfl

theorem toVariant_ofVariant {variant : TemplateVariant} (templateId : Uuid) (admitted : variant.content.Admitted conv) :
    (TemplateVariantModel.ofVariant templateId variant.channel variant).toVariant conv = .ok variant := by
  have actions : (variant.content.actions.map ContentAction.toDict).mapM (loadAction conv) = .ok variant.content.actions :=
    mapM_map_eq_ok fun action listed => loadAction_toDict (admitted.1 action listed)
  have images : (variant.content.images.map ContentImage.toDict).mapM (loadImage conv) = .ok variant.content.images :=
    mapM_map_eq_ok fun image listed => loadImage_toDict (admitted.2 image listed)
  have content : NotificationContent.create variant.content.title variant.content.body variant.content.actions
      variant.content.images = .ok variant.content := NotificationContent.create_eq_ok.mpr ⟨rfl, rfl, rfl, rfl⟩
  unfold TemplateVariantModel.toVariant TemplateVariantModel.ofVariant
  dsimp only
  rw [ofValue_write]
  simp only [bind, Except.bind, items_array]
  rw [actions]
  dsimp only
  rw [images]
  dsimp only
  rw [content]
  exact variant.create_self

/-- The row as a later query returns it: its variant rows come in an order of the database's own. -/
def TemplateModel.ReadAs (stored read : TemplateModel) : Prop :=
  read = { stored with variants := read.variants } ∧ read.variants.Perm stored.variants

namespace TemplateEntity

variable {entity after loaded : TemplateEntity}

theorem mem_toModel {row : TemplateVariantModel} : row ∈ entity.toModel.variants ↔
    ∃ variant ∈ entity.entries.values, row = .ofVariant entity.id variant.channel variant := by
  simp only [toModel, Variants.values, List.mem_filterMap, Option.map_eq_some_iff]
  constructor
  · rintro ⟨channel, listed, variant, held, rfl⟩
    exact ⟨variant, ⟨channel, listed, held⟩, by rw [entity.keyed channel variant held]⟩
  · rintro ⟨variant, ⟨channel, listed, held⟩, rfl⟩
    exact ⟨channel, listed, variant, held, by rw [entity.keyed channel variant held]⟩

theorem Sound.read_back {row : TemplateModel} (sound : Sound lower conv entity) (read : entity.toModel.ReadAs row) :
    row.toEntity conv lower = .ok entity := by
  obtain ⟨own, order⟩ := read
  have each : ∀ variantRow, variantRow ∈ row.variants ↔
      ∃ variant ∈ entity.entries.values, variantRow = .ofVariant entity.id variant.channel variant :=
    fun variantRow => order.mem_iff.trans mem_toModel
  have loads : ∀ variant ∈ entity.entries.values,
      (TemplateVariantModel.ofVariant entity.id variant.channel variant).toVariant conv = .ok variant :=
    fun variant listed => toVariant_ofVariant _ (sound.admitted _ variant (Variants.mem_values.mp listed))
  -- every variant row loads as the variant it was written for, in whatever order the rows come
  obtain ⟨variants, done⟩ := (mapM_isOk_iff (TemplateVariantModel.toVariant conv) row.variants).mpr fun variantRow listed => by
    obtain ⟨variant, member, rfl⟩ := (each variantRow).mp listed
    exact ⟨variant, loads variant member⟩
  have same : ∀ variant, variant ∈ variants ↔ variant ∈ entity.entries.values := by
    refine fun variant => ⟨fun found => ?_, fun member => ?_⟩
    · obtain ⟨variantRow, listed, made⟩ := mapM_mem done found
      obtain ⟨stored, member, rfl⟩ := (each variantRow).mp listed
      rw [loads stored member] at made
      cases made
      exact member
    · obtain ⟨found, listed, made⟩ := mapM_has done ((each _).mpr ⟨variant, member, rfl⟩)
      rw [loads variant member] at made
      cases made
      exact listed
  rw [own]
  rw [TemplateModel.toEntity, done]
  dsimp only [bind, Except.bind]
  rw [reconstitute, Variants.ofList_values same]
  exact sound.construct (.inl rfl)

inductive Reached (lower : Text → Text) (conv : Conversions) : TemplateEntity → Prop where
  | created {entity : TemplateEntity} {id projectId : Uuid} {name : Text} {variants : List TemplateVariant}
      {createdAt updatedAt : Instant} (admitted : ∀ variant ∈ variants, variant.content.Admitted conv)
      (made : create lower id projectId name variants createdAt updatedAt = .ok entity) : Reached lower conv entity
  | edited {entity after : TemplateEntity} {edit : TemplateEdit} (before : Reached lower conv entity)
      (admitted : edit.Admitted conv) (made : entity.edit lower edit = .ok after) : Reached lower conv after
  | reloaded {entity loaded : TemplateEntity} {row : TemplateModel} (before : Reached lower conv entity)
      (read : entity.toModel.ReadAs row) (made : row.toEntity conv lower = .ok loaded) : Reached lower conv loaded

theorem Reached.sound (reached : Reached lower conv entity) : Sound lower conv entity := by
  induction reached with
  | created admitted made => exact create_sound made admitted
  | edited _ admitted made ih => exact ih.edit admitted made
  | reloaded _ read made ih =>
      rw [ih.read_back read] at made
      cases made
      exact ih

/-- Whatever its history, a template's slug is derived from its name and is a slug, its variants are stored
under their own channels, it requires what its channels require together, and its rows give it back. -/
theorem reached_consistent (reached : Reached lower conv entity) :
    entity.templateSlug = deriveSlug lower entity.name ∧ slugRe.rmatch entity.templateSlug = true ∧
      (∀ channel variant, entity.variants channel = some variant → variant.channel = channel) ∧
      (∀ name, name ∈ entity.requiredVariables ↔
        ∃ channel names, entity.variablesFor channel = .ok names ∧ name ∈ names) ∧
      ∀ row, entity.toModel.ReadAs row → row.toEntity conv lower = .ok entity :=
  ⟨reached.sound.slugged, reached.sound.slug_matches, entity.keyed, entity.mem_requiredVariables,
    fun _ read => reached.sound.read_back read⟩

end TemplateEntity

end

def boardingVariant : TemplateVariant := ⟨.push, boarding, rfl⟩

def announcement (name slug : Text) (updatedAt : Instant) : TemplateEntity where
  id := 1
  projectId := 2
  name
  templateSlug := slug
  variants := (Variants.ofList [boardingVariant]).get
  keyed := (Variants.ofList [boardingVariant]).keyed
  createdAt := 0
  updatedAt

theorem boardingVariant_admitted {variant : TemplateVariant} (listed : variant ∈ [boardingVariant]) :
    variant.content.Admitted departureConversions := by
  obtain rfl := List.mem_singleton.mp listed
  exact boarding_admitted boarding rfl

theorem announcement_sound {name slug : Text} (spoken : Text.blank name = false)
    (derived : deriveSlug (List.map Char.toLower) name = slug) (solid : slug ≠ []) (updatedAt : Instant) :
    (announcement name slug updatedAt).Sound (List.map Char.toLower) departureConversions where
  named := spoken
  slugged := derived.symm
  derivable := by rw [← derived] at solid; exact solid
  admitted _ _ held := boardingVariant_admitted (Variants.ofList_mem held)

def lastCall : TemplateEntity := announcement "Last Call".toList "last-call".toList 60

theorem lastCall_slug : deriveSlug (List.map Char.toLower) "Last Call".toList = "last-call".toList := by
  decide +kernel

theorem lastCall_reached : lastCall.Reached (List.map Char.toLower) departureConversions := by
  have first : (announcement "Boarding".toList "boarding".toList 0).Sound (List.map Char.toLower)
      departureConversions := announcement_sound rfl (by decide +kernel) (by decide) 0
  have made : TemplateEntity.create (List.map Char.toLower) 1 2 "Boarding".toList [boardingVariant] 0 0 =
      .ok (announcement "Boarding".toList "boarding".toList 0) := first.construct (.inl rfl)
  have renamed : (announcement "Boarding".toList "boarding".toList 0).edit (List.map Char.toLower)
      (.rename "Last Call".toList 60) = .ok lastCall := by
    simp only [TemplateEntity.edit, TemplateEntity.rename, requireDerivableName, lastCall_slug]
    exact (announcement_sound rfl lastCall_slug (by decide) 60).construct (.inr rfl)
  have created : (announcement "Boarding".toList "boarding".toList 0).Reached (List.map Char.toLower)
      departureConversions := .created (fun _ listed => boardingVariant_admitted listed) made
  have incoming : (TemplateEdit.rename "Last Call".toList 60).Admitted departureConversions := trivial
  exact .edited created incoming renamed

theorem lastCall_consistent :
    lastCall.templateSlug = deriveSlug (List.map Char.toLower) "Last Call".toList ∧
      slugRe.rmatch "last-call".toList = true ∧
      (∀ channel variant, lastCall.variants channel = some variant → variant.channel = channel) ∧
      (∀ name, name ∈ lastCall.requiredVariables ↔
        ∃ channel names, lastCall.variablesFor channel = .ok names ∧ name ∈ names) ∧
      ∀ row, lastCall.toModel.ReadAs row → row.toEntity departureConversions (List.map Char.toLower) = .ok lastCall :=
  TemplateEntity.reached_consistent lastCall_reached

end Tiber
