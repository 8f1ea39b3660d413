import Tiber.Domain.Exceptions

/-! Notification content and what each channel demands of it. -/

set_option autoImplicit false

namespace Tiber

open Library

structure ContentAction where
  label : Text
  url : Text
  deriving DecidableEq, Repr

structure ContentImage where
  url : Text
  alt : Option Text
  deriving DecidableEq, Repr

/-- A body is never blank, by construction. -/
structure NotificationContent where
  body : Text
  title : Option Text
  actions : List ContentAction
  images : List ContentImage
  body_solid : Text.blank body = false
  deriving DecidableEq

namespace NotificationContent

def create (title : Option Text) (body : Text) (actions : List ContentAction)
    (images : List ContentImage) : Checked NotificationContent :=
  if solid : Text.blank body = false then .ok ⟨body, title, actions, images, solid⟩
  else .error (.valueError "Notification content body must not be empty")

theorem create_eq_ok {title : Option Text} {body : Text} {actions : List ContentAction}
    {images : List ContentImage} {content : NotificationContent} :
    create title body actions images = .ok content ↔
      content.title = title ∧ content.body = body ∧ content.actions = actions ∧ content.images = images := by
  unfold create
  split
  · rename_i solid
    obtain ⟨body', title', actions', images', solid'⟩ := content
    simp only [Except.ok.injEq, mk.injEq]
    constructor
    · rintro ⟨rfl, rfl, rfl, rfl⟩; exact ⟨rfl, rfl, rfl, rfl⟩
    · rintro ⟨rfl, rfl, rfl, rfl⟩; exact ⟨rfl, rfl, rfl, rfl⟩
  · rename_i blank
    simp only [reduceCtorEq, false_iff]
    rintro ⟨-, rfl, -, -⟩
    exact blank content.body_solid

theorem create_isOk {title : Option Text} {body : Text} {actions : List ContentAction}
    {images : List ContentImage} :
    (∃ content, create title body actions images = .ok content) ↔ Text.blank body = false := by
  unfold create
  split
  · rename_i solid
    exact ⟨fun _ => solid, fun _ => ⟨_, rfl⟩⟩
  · rename_i blank
    exact ⟨fun ⟨_, made⟩ => (by cases made), fun solid => absurd solid blank⟩

/-- A title that is present and not the empty string, as Python's truth test sees it. -/
def titled (title : Option Text) : Bool :=
  match title with
  | none => false
  | some text => !text.isEmpty

end NotificationContent

open NotificationContent (titled)

def validateContent (channel : DeliveryChannel) (content : NotificationContent) : Checked Unit :=
  if channel = .email ∧ (content.title.all Text.blank = true) then
    .error (.invalidEntityAttribute "Title is required for email delivery channel.")
  else if channel = .sms ∧ titled content.title = true then
    .error (.invalidEntityAttribute "Title is not allowed for SMS delivery channel.")
  else .ok ()

theorem validateContent_eq_ok {channel : DeliveryChannel} {content : NotificationContent} :
    validateContent channel content = .ok () ↔
      (channel = .email → content.title.all Text.blank = false) ∧
      (channel = .sms → titled content.title = false) := by
  unfold validateContent
  split
  · rename_i missing
    simp only [reduceCtorEq, missing.2, false_iff, not_and]
    intro demand
    exact absurd (demand missing.1) (by simp)
  · rename_i given
    split
    · rename_i forbidden
      simp only [reduceCtorEq, false_iff, not_and]
      intro _ demand
      exact absurd (demand forbidden.1) (by simp [forbidden.2])
    · rename_i plain
      simp only [true_iff]
      exact ⟨fun email => by simpa [email] using given, fun sms => by simpa [sms] using plain⟩

end Tiber
