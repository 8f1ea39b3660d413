import Tiber.Domain.Template

/-! What rendering does to a text, and whether acceptance asks for all of it.

The renderer's scan is compared with the placeholders that stand in the text
(`Grammar.Occurs`, `Grammar.Replaced`), and the renderer's names with the names
the accept-time grammar demands.
-/

set_option autoImplicit false

namespace Tiber

open Library
open NotificationContent (titled)

namespace TemplateRenderer

/-- The renderer's placeholder for `name` stands in the title or the body. -/
def Needs (content : NotificationContent) (name : Text) : Prop :=
  (∃ title ∈ content.title, templatePlaceholderRe.Occurs name title) ∨
    templatePlaceholderRe.Occurs name content.body

/-- No value was supplied for the name, or `None` was. -/
def Lacks (mapping : Option Variables) (name : Text) : Prop :=
  ∀ value, (mapping.getD []).lookup name = some value → value = .null

def printed (mapping : Option Variables) (name : Text) : Text := ((supplied mapping name).getD .null).str

/-- `rendered` is `content` with every placeholder of the title and the body
replaced. An empty title is no title. -/
structure Rendered (content : NotificationContent) (mapping : Option Variables)
    (rendered : NotificationContent) : Prop where
  title : ∀ title, content.title = some title → title ≠ [] →
    ∃ text, rendered.title = some text ∧ templatePlaceholderRe.Replaced (printed mapping) title text
  untitled : titled content.title = false → rendered.title = none
  body : templatePlaceholderRe.Replaced (printed mapping) content.body rendered.body
  actions : rendered.actions = content.actions
  images : rendered.images = content.images

theorem mem_extractPlaceholders {content : NotificationContent} {name : Text} :
    name ∈ extractPlaceholders content.title content.body ↔ Needs content name := by
  unfold extractPlaceholders Needs
  rw [List.mem_append, Grammar.mem_names_iff templatePlaceholderRe_clear]
  cases content.title with
  | none => simp
  | some title => simp [Grammar.mem_names_iff templatePlaceholderRe_clear]

theorem supplied_isNone {mapping : Option Variables} {name : Text} :
    (supplied mapping name).isNone = true ↔ Lacks mapping name := by
  unfold supplied Lacks
  cases (mapping.getD []).lookup name with
  | none => simp
  | some value => cases value <;> simp [JsonValue.isNone]

theorem mem_missing {content : NotificationContent} {mapping : Option Variables} {name : Text} :
    name ∈ missing content mapping ↔ Needs content name ∧ Lacks mapping name := by
  rw [missing, sortedNames, List.mem_insertionSort, List.mem_dedup, List.mem_filter,
    mem_extractPlaceholders, supplied_isNone]

theorem missing_sorted (content : NotificationContent) (mapping : Option Variables) :
    (missing content mapping).Pairwise (· < ·) := by
  unfold missing sortedNames
  generalize (extractPlaceholders content.title content.body).filter _ = lacking
  -- in order and without repetitions, so strictly in order
  have sorted : (lacking.dedup.insertionSort (· ≤ ·)).Pairwise (· ≤ ·) := List.pairwise_insertionSort _ _
  have once : (lacking.dedup.insertionSort (· ≤ ·)).Nodup :=
    (List.perm_insertionSort _ _).nodup_iff.mpr (List.nodup_dedup _)
  exact (sorted.and once).imp fun ⟨before, different⟩ => lt_of_le_of_ne before different

theorem missing_eq_nil {content : NotificationContent} {mapping : Option Variables} :
    missing content mapping = [] ↔ ¬ ∃ name, Needs content name ∧ Lacks mapping name := by
  simp only [List.eq_nil_iff_forall_not_mem, mem_missing, not_exists]

theorem create_eq_error {title : Option Text} {body : Text} {actions : List ContentAction}
    {images : List ContentImage} {error : PyError} :
    NotificationContent.create title body actions images = .error error ↔
      Text.blank body = true ∧ error = .valueError "Notification content body must not be empty" := by
  unfold NotificationContent.create
  split
  · rename_i solid; simp [solid]
  · rename_i blank; simp [blank, eq_comm]

theorem render_templateRender {content : NotificationContent} {mapping : Option Variables} {names : List Text} :
    render content mapping = .error (.templateRender names) ↔
      missing content mapping ≠ [] ∧ names = missing content mapping := by
  unfold render
  split
  · rename_i lacking
    simp [lacking, eq_comm]
  · rename_i complete
    simp [complete, create_eq_error]

theorem render_valueError {content : NotificationContent} {mapping : Option Variables} {message : String} :
    render content mapping = .error (.valueError message) ↔
      missing content mapping = [] ∧ Text.blank (substitute mapping content.body) = true ∧
        message = "Notification content body must not be empty" := by
  unfold render
  split
  · rename_i lacking
    simp [lacking]
  · rename_i complete
    rw [ne_eq, not_not] at complete
    simp [complete, create_eq_error]

theorem replaced_iff {mapping : Option Variables} {text result : Text} :
    templatePlaceholderRe.Replaced (printed mapping) text result ↔ result = substitute mapping text :=
  Grammar.replaced_iff templatePlaceholderRe_clear

theorem rendered_of_render {content rendered : NotificationContent} {mapping : Option Variables}
    (made : render content mapping = .ok rendered) : Rendered content mapping rendered := by
  unfold render at made
  split at made
  · cases made
  · obtain ⟨title, body, actions, images⟩ := NotificationContent.create_eq_ok.mp made
    refine ⟨fun text given solid => ?_, fun untitled => ?_, ?_, actions, images⟩
    · exact ⟨_, by simp [title, given, renderTitle, solid], replaced_iff.mpr rfl⟩
    · rw [title]
      cases given : content.title with
      | none => rfl
      | some text => simp_all [titled, renderTitle]
    · rw [body]
      exact replaced_iff.mpr rfl

theorem render_kinds {content : NotificationContent} {mapping : Option Variables} {error : PyError}
    (failed : render content mapping = .error error) :
    (∃ names, error = .templateRender names) ∨ ∃ message, error = .valueError message := by
  unfold render at failed
  split at failed
  · exact .inl ⟨_, (Except.error.inj failed).symm⟩
  · exact .inr ⟨_, (create_eq_error.mp failed).2⟩

/-- Rendering replaces every placeholder of the title and the body and nothing
else, names in order every one that has no value, and fails besides only on a
body that comes out blank. -/
theorem render_exact (variant : TemplateVariant) (mapping : Option Variables) :
    ((∃ names, render variant.content mapping = .error (.templateRender names)) ↔
      ∃ name, Needs variant.content name ∧ Lacks mapping name) ∧
    (∀ names, render variant.content mapping = .error (.templateRender names) →
      names.Pairwise (· < ·) ∧ ∀ name, name ∈ names ↔ Needs variant.content name ∧ Lacks mapping name) ∧
    (∀ rendered, render variant.content mapping = .ok rendered → Rendered variant.content mapping rendered) ∧
    ((∃ message, render variant.content mapping = .error (.valueError message)) ↔
      (¬ ∃ name, Needs variant.content name ∧ Lacks mapping name) ∧
        ∀ body, templatePlaceholderRe.Replaced (printed mapping) variant.content.body body →
          Text.blank body = true) ∧
    ∀ error, render variant.content mapping = .error error →
      (∃ names, error = .templateRender names) ∨ ∃ message, error = .valueError message := by
  refine ⟨?_, ?_, fun rendered made => rendered_of_render made, ?_, fun error failed => render_kinds failed⟩
  · simp only [render_templateRender, exists_and_left, exists_eq, and_true, ne_eq, missing_eq_nil, not_not]
  · intro names failed
    obtain ⟨-, rfl⟩ := render_templateRender.mp failed
    exact ⟨missing_sorted _ _, fun name => mem_missing⟩
  · simp only [render_valueError, replaced_iff, forall_eq, exists_and_left, exists_eq, and_true, missing_eq_nil]

theorem emptyTitle_solid : Text.blank "Hi".toList = false := rfl

def emptyTitle : TemplateVariant where
  channel := .inApp
  content := ⟨"Hi".toList, some [], [], [], emptyTitle_solid⟩
  valid := by decide

theorem empty_title_dropped : ¬ ∀ (variant : TemplateVariant) (mapping : Option Variables)
    (rendered : NotificationContent), render variant.content mapping = .ok rendered →
    ∀ title ∈ variant.content.title, ∃ text ∈ rendered.title,
      templatePlaceholderRe.Replaced (printed mapping) title text := by
  intro kept
  -- the rendered title is `None`, and replacing in an empty title would give a text
  obtain ⟨text, given, -⟩ := kept emptyTitle none ⟨"Hi".toList, none, [], [], by decide⟩ (by decide) [] rfl
  cases given

end TemplateRenderer

def digitLed : Text → Bool
  | [] => false
  | c :: _ => asciiDigit c

theorem wordChar_split (c : Char) : wordChar c = (variableRe.isHead c || asciiDigit c) := by
  simp only [wordChar, variableRe]
  cases asciiLetter c <;> cases asciiDigit c <;> simp

theorem variable_not_digit {c : Char} (head : variableRe.isHead c = true) : asciiDigit c = false := by
  simp only [variableRe, asciiLetter, Bool.or_eq_true, Bool.and_eq_true, decide_eq_true_eq, beq_iff_eq,
    Char.le_def, UInt32.le_iff_toNat_le, ← Char.toNat_inj] at head
  simp only [asciiDigit, Bool.and_eq_false_iff, decide_eq_false_iff_not, Char.le_def, UInt32.le_iff_toNat_le]
  simp only [Char.toNat, show 'a'.val.toNat = 97 from rfl, show 'z'.val.toNat = 122 from rfl,
    show 'A'.val.toNat = 65 from rfl, show 'Z'.val.toNat = 90 from rfl, show '0'.val.toNat = 48 from rfl,
    show '9'.val.toNat = 57 from rfl, show '_'.val.toNat = 95 from rfl] at head ⊢
  omega

/-- What the accept-time grammar reads as a placeholder are the renderer's
placeholders whose name does not begin with a digit. -/
theorem variableRe_spells {name spelled : Text} :
    variableRe.Spells name spelled ↔ templatePlaceholderRe.Spells name spelled ∧ digitLed name = false := by
  constructor
  · rintro ⟨lead, head, tail, trail, rfl, rfl, leads, heads, tails, trails⟩
    exact ⟨⟨lead, head, tail, trail, rfl, rfl, leads, variableHead_wordChar heads, tails, trails⟩,
      variable_not_digit heads⟩
  · rintro ⟨⟨lead, head, tail, trail, rfl, rfl, leads, heads, tails, trails⟩, letter⟩
    refine ⟨lead, head, tail, trail, rfl, rfl, leads, ?_, tails, trails⟩
    -- a word character that is no digit may begin a name of the other grammar too
    have word : wordChar head = true := heads
    rw [wordChar_split, show asciiDigit head = false from letter, Bool.or_false] at word
    exact word

theorem variableRe_occurs {name text : Text} :
    variableRe.Occurs name text ↔ templatePlaceholderRe.Occurs name text ∧ digitLed name = false := by
  simp only [Grammar.Occurs, variableRe_spells]
  constructor
  · rintro ⟨before, spelled, after, ⟨spells, letter⟩, same⟩
    exact ⟨⟨before, spelled, after, spells, same⟩, letter⟩
  · rintro ⟨⟨before, spelled, after, spells, same⟩, letter⟩
    exact ⟨before, spelled, after, ⟨spells, letter⟩, same⟩

theorem mem_extractVariables {name : Text} {text : Option Text} :
    name ∈ extractVariables text ↔
      (∃ given ∈ text, templatePlaceholderRe.Occurs name given) ∧ digitLed name = false := by
  cases text with
  | none => simp [extractVariables]
  | some given => simp [extractVariables, Grammar.mem_names_iff variableRe_clear, variableRe_occurs]

theorem not_digitLed_of_mem {name : Text} {content : NotificationContent}
    (demanded : name ∈ contentVariables content) : digitLed name = false := by
  simp only [contentVariables, List.mem_append, List.mem_flatMap, mem_extractVariables] at demanded
  rcases demanded with ((demanded | demanded) | ⟨_, -, demanded | demanded⟩) | ⟨_, -, demanded | demanded⟩
  all_goals exact demanded.2

/-- The names demanded at accept time contain every name the renderer wants,
for a text and for a whole content, exactly when none of these begins with a digit. -/
theorem demanded_covers_iff (text : Text) (content : NotificationContent) :
    ((∀ name ∈ extractPlaceholders none text, name ∈ extractVariables (some text)) ↔
      ¬ ∃ name, templatePlaceholderRe.Occurs name text ∧ digitLed name = true) ∧
    ((∀ name ∈ extractPlaceholders content.title content.body, name ∈ contentVariables content) ↔
      ¬ ∃ name, TemplateRenderer.Needs content name ∧ digitLed name = true) := by
  constructor
  · simp only [extractPlaceholders, List.nil_append, Grammar.mem_names_iff templatePlaceholderRe_clear,
      mem_extractVariables, Option.mem_some_iff, exists_eq_left', not_exists, not_and, Bool.not_eq_true]
    exact ⟨fun covered name occurs => (covered name occurs).2, fun letter name occurs => ⟨occurs, letter name occurs⟩⟩
  · simp only [TemplateRenderer.mem_extractPlaceholders, not_exists, not_and, Bool.not_eq_true]
    constructor
    · exact fun covered name needed => not_digitLed_of_mem (covered name needed)
    · intro letter name needed
      have plain := letter name needed
      simp only [contentVariables, List.mem_append, mem_extractVariables, plain, and_true, Option.mem_some_iff,
        exists_eq_left']
      exact .inl (.inl needed)

/-- The renderer substitutes a name that begins with a digit, and acceptance does not ask for it. -/
theorem digit_name_not_demanded :
    ¬ ∀ text : Text, ∀ name ∈ extractPlaceholders none text, name ∈ extractVariables (some text) := by
  intro covered
  have demanded := covered "\x7b\x7b1st\x7d\x7d".toList "1st".toList (by decide)
  exact absurd demanded (by decide)

end Tiber
