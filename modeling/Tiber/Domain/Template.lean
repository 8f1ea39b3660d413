import Tiber.Domain.Notification
import Tiber.Library.Placeholders
import Mathlib.Data.List.Sort
import Mathlib.Data.List.Dedup

/-! Templates: the two placeholder grammars, variants, and rendering. -/

set_option autoImplicit false

namespace Tiber

open Library
open NotificationContent (titled)

def asciiLetter (c : Char) : Bool := ('a' ≤ c && c ≤ 'z') || ('A' ≤ c && c ≤ 'Z')

def asciiDigit (c : Char) : Bool := '0' ≤ c && c ≤ '9'

def wordChar (c : Char) : Bool := asciiLetter c || asciiDigit c || c == '_'

private def opened : Text := ['\x7b', '\x7b']

private def closed : Text := ['\x7d', '\x7d']

/-- `VARIABLE_RE`: what is demanded when a request is accepted. A name starts with a letter or `_`. -/
def variableRe : Grammar where
  opening := opened
  closing := closed
  isBlank := Text.isSpace
  isHead c := asciiLetter c || c == '_'
  isTail := wordChar

/-- `TEMPLATE_PLACEHOLDER_RE`: what the renderer substitutes. A name may start with a digit. -/
def templatePlaceholderRe : Grammar where
  opening := opened
  closing := closed
  isBlank := Text.isSpace
  isHead := wordChar
  isTail := wordChar

theorem wordChar_solid {c : Char} (word : wordChar c = true) : Text.isSpace c = false := by
  simp only [wordChar, asciiLetter, asciiDigit, Bool.or_eq_true, Bool.and_eq_true, decide_eq_true_eq,
    beq_iff_eq, Char.le_def, UInt32.le_iff_toNat_le, ← Char.toNat_inj] at word
  simp only [Text.isSpace, Bool.or_eq_false_iff, Bool.and_eq_false_iff, decide_eq_false_iff_not, beq_eq_false_iff_ne]
  simp only [Char.toNat, show 'a'.val.toNat = 97 from rfl, show 'z'.val.toNat = 122 from rfl,
    show 'A'.val.toNat = 65 from rfl, show 'Z'.val.toNat = 90 from rfl, show '0'.val.toNat = 48 from rfl,
    show '9'.val.toNat = 57 from rfl, show '_'.val.toNat = 95 from rfl] at word ⊢
  omega

theorem variableHead_wordChar {c : Char} (head : variableRe.isHead c = true) : wordChar c = true := by
  simp only [variableRe, Bool.or_eq_true] at head
  rcases head with letter | line
  · simp [wordChar, letter]
  · simp [wordChar, line]

private theorem opened_brace {c : Char} (mark : c ∈ opened) : c = '\x7b' := by simpa [opened] using mark

private theorem closed_brace {c : Char} (mark : c ∈ closed) : c = '\x7d' := by simpa [closed] using mark

theorem variableRe_isBlank (c : Char) : variableRe.isBlank c = Text.isSpace c := by simp only [variableRe]

theorem variableRe_isTail (c : Char) : variableRe.isTail c = wordChar c := by simp only [variableRe]

theorem variableRe_clear : variableRe.Clear where
  opening_ne := List.cons_ne_nil _ _
  head_solid c head := by
    rw [variableRe_isBlank]
    exact wordChar_solid (variableHead_wordChar head)
  tail_solid c tail := by
    rw [variableRe_isTail] at tail
    rw [variableRe_isBlank]
    exact wordChar_solid tail
  closing_ne := List.cons_ne_nil _ _
  closing_apart c mark := by
    rw [closed_brace mark]
    exact ⟨rfl, rfl⟩
  opening_apart c mark := by
    rw [opened_brace mark]
    exact ⟨by simp [variableRe, closed], rfl, rfl, rfl⟩

theorem templatePlaceholderRe_isBlank (c : Char) : templatePlaceholderRe.isBlank c = Text.isSpace c := by simp only [templatePlaceholderRe]

theorem templatePlaceholderRe_isHead (c : Char) : templatePlaceholderRe.isHead c = wordChar c := by simp only [templatePlaceholderRe]

theorem templatePlaceholderRe_isTail (c : Char) : templatePlaceholderRe.isTail c = wordChar c := by simp only [templatePlaceholderRe]

theorem templatePlaceholderRe_clear : templatePlaceholderRe.Clear where
  opening_ne := List.cons_ne_nil _ _
  head_solid c head := by
    rw [templatePlaceholderRe_isHead] at head
    rw [templatePlaceholderRe_isBlank]
    exact wordChar_solid head
  tail_solid c tail := by
    rw [templatePlaceholderRe_isTail] at tail
    rw [templatePlaceholderRe_isBlank]
    exact wordChar_solid tail
  closing_ne := List.cons_ne_nil _ _
  closing_apart c mark := by
    rw [closed_brace mark]
    exact ⟨rfl, rfl⟩
  opening_apart c mark := by
    rw [opened_brace mark]
    exact ⟨by simp [templatePlaceholderRe, closed], rfl, rfl, rfl⟩

def extractVariables (text : Option Text) : List Text :=
  match text with
  | none => []
  | some text => variableRe.names text

/-- Names of every placeholder in a piece of content, by the accept-time grammar. -/
def contentVariables (content : NotificationContent) : List Text :=
  extractVariables content.title ++ extractVariables (some content.body) ++
    (content.actions.flatMap fun action =>
      extractVariables (some action.label) ++ extractVariables (some action.url)) ++
    content.images.flatMap fun image =>
      extractVariables (some image.url) ++ extractVariables image.alt

def extractPlaceholders (title : Option Text) (body : Text) : List Text :=
  (match title with
    | none => []
    | some text => templatePlaceholderRe.names text) ++ templatePlaceholderRe.names body

structure TemplateVariant where
  channel : DeliveryChannel
  content : NotificationContent
  valid : validateContent channel content = .ok ()

def TemplateVariant.variableNames (variant : TemplateVariant) : List Text :=
  contentVariables variant.content

structure Template where
  id : Uuid
  projectId : Uuid
  name : Text
  templateSlug : Text
  variants : DeliveryChannel → Option TemplateVariant
  keyed : ∀ channel variant, variants channel = some variant → variant.channel = channel

structure NotificationTopic where
  id : Uuid
  projectId : Uuid
  category : NotificationCategory
  title : Text
  topicSlug : Text
  deriving DecidableEq

def sortedNames (names : List Text) : List Text := names.dedup.insertionSort (· ≤ ·)

@[simp] theorem sortedNames_eq_nil {names : List Text} : sortedNames names = [] ↔ names = [] := by
  unfold sortedNames
  rw [← List.length_eq_zero_iff, List.length_insertionSort, List.length_eq_zero_iff, List.dedup_eq_nil]

namespace TemplateRenderer

/-- `mapping.get(name)` of the supplied variables, with `None` as good as absent. -/
def supplied (mapping : Option Variables) (name : Text) : Option JsonValue :=
  ((mapping.getD []).lookup name).filter fun value => !value.isNone

def missing (content : NotificationContent) (mapping : Option Variables) : List Text :=
  sortedNames ((extractPlaceholders content.title content.body).filter fun name =>
    (supplied mapping name).isNone)

def substitute (mapping : Option Variables) (text : Text) : Text :=
  templatePlaceholderRe.substitute (fun name => ((supplied mapping name).getD .null).str) text

/-- An absent or empty title stays absent. -/
def renderTitle (mapping : Option Variables) : Option Text → Option Text
  | none => none
  | some text => if text.isEmpty then none else some (substitute mapping text)

def render (content : NotificationContent) (mapping : Option Variables) : Checked NotificationContent :=
  if missing content mapping ≠ [] then .error (.templateRender (missing content mapping))
  else NotificationContent.create (renderTitle mapping content.title) (substitute mapping content.body)
    content.actions content.images

/-- Every placeholder of the title and the body has a value, and the body does
not render to white space. -/
def Renderable (content : NotificationContent) (mapping : Option Variables) : Prop :=
  (∀ name ∈ extractPlaceholders content.title content.body, (supplied mapping name).isSome) ∧
  Text.blank (substitute mapping content.body) = false

instance (content : NotificationContent) (mapping : Option Variables) :
    Decidable (Renderable content mapping) := inferInstanceAs (Decidable (_ ∧ _))

theorem missing_eq_nil_iff {content : NotificationContent} {mapping : Option Variables} :
    missing content mapping = [] ↔
      ∀ name ∈ extractPlaceholders content.title content.body, (supplied mapping name).isSome := by
  simp only [missing, sortedNames_eq_nil, List.filter_eq_nil_iff, Option.isNone_iff_eq_none,
    Option.isSome_iff_ne_none, ne_eq]

/-- Rendering succeeds on renderable content and on nothing else. -/
theorem render_isOk_iff {content : NotificationContent} {mapping : Option Variables} :
    (∃ rendered, render content mapping = .ok rendered) ↔ Renderable content mapping := by
  unfold render Renderable
  rw [← missing_eq_nil_iff]
  split
  · rename_i lacking
    exact ⟨fun ⟨_, made⟩ => (by cases made), fun complete => absurd complete.1 lacking⟩
  · rename_i complete
    rw [ne_eq, not_not] at complete
    simp only [complete, true_and]
    exact NotificationContent.create_isOk

theorem render_title {content rendered : NotificationContent} {mapping : Option Variables}
    (made : render content mapping = .ok rendered) :
    rendered.title.isSome = titled content.title := by
  unfold render at made
  split at made
  · cases made
  · rw [(NotificationContent.create_eq_ok.mp made).1]
    cases content.title with
    | none => rfl
    | some text => cases empty : text.isEmpty <;> simp [renderTitle, titled, empty]

theorem render_error {content : NotificationContent} {mapping : Option Variables} {error : PyError}
    (failed : render content mapping = .error error) : error.isDeterministic = true := by
  unfold render at failed
  split at failed
  · cases failed; rfl
  · unfold NotificationContent.create at failed
    split at failed
    · cases failed
    · cases failed; rfl

end TemplateRenderer

end Tiber
