import Tiber.Domain.Enums
import Tiber.Library.Spelling
import Tiber.Library.Text

/-! The exceptions the modelled code raises or catches, with their texts.

`raised` stands for every other exception class (a provider's, the driver's,
the runtime's): code under src/ tells those apart by nothing but their text.
-/

set_option autoImplicit false

namespace Tiber

open Library

inductive PyError where
  | entityNotFound (entityName : String) (entityId : String)
  | templateChannelMismatch (template channel : String)
  | templateRender (missing : List Text)
  | channelNotAvailable (message : String)
  | ambiguousRecipient (message : String)
  | addressConflict (message : String)
  | recipientAddressTaken (message : String)
  | intakeAlreadyExists
  | projectScopeViolation (projectId message : String)
  | idempotencyKeyConflict
  | invalidStateTransition (current target : String)
  | invalidEntityAttribute (message : String)
  | valueError (message : String)
  | typeError (message : String)
  | attributeError (message : String)
  | raised (name message : String)
  deriving DecidableEq, Repr

namespace PyError

def name : PyError → String
  | entityNotFound .. => "EntityNotFoundError"
  | templateChannelMismatch .. => "TemplateChannelMismatchError"
  | templateRender .. => "TemplateRenderError"
  | channelNotAvailable .. => "ChannelNotAvailableError"
  | ambiguousRecipient .. => "AmbiguousRecipientError"
  | addressConflict .. => "AddressConflictError"
  | recipientAddressTaken .. => "RecipientAddressTakenError"
  | intakeAlreadyExists => "IntakeAlreadyExistsError"
  | projectScopeViolation .. => "ProjectScopeViolationError"
  | idempotencyKeyConflict => "IdempotencyKeyConflictError"
  | invalidStateTransition .. => "InvalidStateTransitionError"
  | invalidEntityAttribute .. => "InvalidEntityAttributeError"
  | valueError .. => "ValueError"
  | typeError .. => "TypeError"
  | attributeError .. => "AttributeError"
  | raised name _ => name

def text : PyError → String
  | entityNotFound entityName entityId =>
      entityName ++ " with identifier '" ++ entityId ++ "' was not found."
  | templateChannelMismatch template channel =>
      "Template '" ++ template ++ "' is not configured for channel '" ++ channel ++ "', "
  | templateRender missing =>
      "No value supplied for template placeholder(s): " ++
        ", ".intercalate (missing.map String.ofList)
  | channelNotAvailable message => message
  | ambiguousRecipient message => message
  | addressConflict message => message
  | recipientAddressTaken message => message
  | intakeAlreadyExists => ""
  | projectScopeViolation projectId message =>
      "Project scope violation for project '" ++ projectId ++ "': " ++ message
  | idempotencyKeyConflict => "Duplicate key passed with different request payload."
  | invalidStateTransition current target =>
      "Cannot transition Notification from '" ++ current ++ "' to '" ++ target ++ "'."
  | invalidEntityAttribute message => message
  | valueError message => message
  | typeError message => message
  | attributeError message => message
  | raised _ message => message

@[simp] theorem entityNotFound_text (entityName entityId : String) : (entityNotFound entityName entityId).text =
    entityName ++ " with identifier '" ++ entityId ++ "' was not found." := rfl

def isTiberError : PyError → Bool
  | valueError _ | typeError _ | attributeError _ | raised _ _ => false
  | _ => true

def isValueError : PyError → Bool
  | valueError _ => true
  | _ => false

/-- What `IntakeProcessor.process` treats as deterministic: `(TiberError, ValueError)`. -/
def isDeterministic (error : PyError) : Bool := error.isTiberError || error.isValueError

/-- `PERMANENT_DELIVERY_ERRORS` of the delivery task. -/
def isPermanentDelivery : PyError → Bool
  | entityNotFound .. | invalidEntityAttribute .. | invalidStateTransition ..
  | projectScopeViolation .. | templateChannelMismatch .. => true
  | _ => false

end PyError

abbrev Checked (α : Type) := Except PyError α

theorem Checked.bind_eq_ok {α β : Type} {first : Checked α} {next : α → Checked β} {result : β} :
    (first >>= next) = .ok result ↔ ∃ value, first = .ok value ∧ next value = .ok result := by
  cases first with
  | error failure => simp [bind, Except.bind]
  | ok value => simp [bind, Except.bind]

/-! ## A fallible function over a list -/

theorem mapM_isOk_iff {α β : Type} (f : α → Checked β) (items : List α) :
    (∃ results, items.mapM f = .ok results) ↔ ∀ item ∈ items, ∃ result, f item = .ok result := by
  induction items with
  | nil => simp [pure, Except.pure]
  | cons item rest ih =>
      simp only [List.mapM_cons, Checked.bind_eq_ok, List.forall_mem_cons, ← ih]
      constructor
      · rintro ⟨_, result, first, results, others, -⟩
        exact ⟨⟨result, first⟩, results, others⟩
      · rintro ⟨⟨result, first⟩, results, others⟩
        exact ⟨result :: results, result, first, results, others, rfl⟩

theorem mapM_eq_ok {α β : Type} {f : α → Checked β} {items : List α} {results : List β}
    (done : items.mapM f = .ok results) : List.Forall₂ (fun item result => f item = .ok result) items results := by
  induction items generalizing results with
  | nil => cases done; exact .nil
  | cons item rest ih =>
      simp only [List.mapM_cons, Checked.bind_eq_ok] at done
      obtain ⟨result, first, others, later, same⟩ := done
      cases same
      exact .cons first (ih later)

theorem mapM_mem {α β : Type} {f : α → Checked β} {items : List α} {results : List β}
    (done : items.mapM f = .ok results) {result : β} (member : result ∈ results) :
    ∃ item ∈ items, f item = .ok result := by
  have paired := mapM_eq_ok done
  clear done
  induction paired with
  | nil => cases member
  | cons first _ ih =>
      rcases List.mem_cons.mp member with rfl | later
      · exact ⟨_, .head _, first⟩
      · obtain ⟨item, listed, made⟩ := ih later
        exact ⟨item, .tail _ listed, made⟩

theorem mapM_has {α β : Type} {f : α → Checked β} {items : List α} {results : List β}
    (done : items.mapM f = .ok results) {item : α} (listed : item ∈ items) : ∃ result ∈ results, f item = .ok result := by
  have paired := mapM_eq_ok done
  clear done
  induction paired with
  | nil => cases listed
  | cons first _ ih =>
      rcases List.mem_cons.mp listed with rfl | later
      · exact ⟨_, .head _, first⟩
      · obtain ⟨result, member, made⟩ := ih later
        exact ⟨result, .tail _ member, made⟩

theorem mapM_map_eq_ok {α β : Type} {write : α → β} {read : β → Checked α} {items : List α}
    (inverse : ∀ item ∈ items, read (write item) = .ok item) : (items.map write).mapM read = .ok items := by
  induction items with
  | nil => rfl
  | cons item rest ih =>
      obtain ⟨first, others⟩ := List.forall_mem_cons.mp inverse
      rw [List.map_cons, List.mapM_cons, first, ih others]
      rfl

theorem mapM_map_eq_ok_iff {α β γ : Type} {write : α → β} {read : β → Checked γ} {good : α → Prop} {made : α → γ}
    (each : ∀ item value, read (write item) = .ok value ↔ good item ∧ value = made item) {items : List α}
    {values : List γ} : (items.map write).mapM read = .ok values ↔ (∀ item ∈ items, good item) ∧ values = items.map made := by
  induction items generalizing values with
  | nil => simp [pure, Except.pure, eq_comm]
  | cons item rest ih =>
      simp only [List.map_cons, List.mapM_cons, Checked.bind_eq_ok, each, ih, List.forall_mem_cons]
      constructor
      · rintro ⟨_, ⟨first, rfl⟩, _, ⟨others, rfl⟩, whole⟩
        cases whole
        exact ⟨⟨first, others⟩, rfl⟩
      · rintro ⟨⟨first, others⟩, rfl⟩
        exact ⟨_, ⟨first, rfl⟩, _, ⟨others, rfl⟩, rfl⟩

theorem mapM_error {α β : Type} {f : α → Checked β} {items : List α} {error : PyError}
    (failed : items.mapM f = .error error) :
    ∃ before item after, items = before ++ item :: after ∧ (∀ earlier ∈ before, ∃ result, f earlier = .ok result) ∧
      f item = .error error := by
  induction items with
  | nil => cases failed
  | cons head rest ih =>
      rw [List.mapM_cons] at failed
      cases here : f head with
      | error other =>
          rw [here] at failed
          cases failed
          exact ⟨[], head, rest, rfl, nofun, here⟩
      | ok result =>
          cases later : rest.mapM f with
          | ok results =>
              rw [here, later] at failed
              cases failed
          | error other =>
              rw [here, later] at failed
              cases failed
              obtain ⟨before, item, after, rfl, fine, stop⟩ := ih later
              exact ⟨head :: before, item, after, rfl, List.forall_mem_cons.mpr ⟨⟨result, here⟩, fine⟩, stop⟩

/-! ## Constructors -/

/-- A constructor whose `__post_init__` complains, or returns the record it was given. -/
def construct {F X : Type} (complaint : F → Option String) (make : (fields : F) → complaint fields = none → X)
    (fields : F) : Checked X :=
  match quiet : complaint fields with
  | none => .ok (make fields quiet)
  | some message => .error (.invalidEntityAttribute message)

theorem construct_eq_ok {F X : Type} {complaint : F → Option String}
    {make : (fields : F) → complaint fields = none → X} (read : X → F)
    (read_make : ∀ fields quiet, read (make fields quiet) = fields)
    (quiet : ∀ x, complaint (read x) = none) (injective : Function.Injective read)
    {fields : F} {result : X} : construct complaint make fields = .ok result ↔ read result = fields := by
  unfold construct
  split
  · rename_i silent
    simp only [Except.ok.injEq]
    constructor
    · rintro rfl; exact read_make fields silent
    · intro same; exact injective ((read_make fields silent).trans same.symm)
  · rename_i message loud
    simp only [reduceCtorEq, false_iff]
    rintro rfl
    rw [quiet result] at loud
    cases loud

def uuidText (id : Uuid) : String := String.ofList (Library.Spelling.uuid.write id)

end Tiber
