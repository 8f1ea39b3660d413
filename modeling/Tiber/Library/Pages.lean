import Mathlib.Data.List.Basic
import Mathlib.Tactic.Push
import Mathlib.Tactic.ByContra

/-! Offset pages of a list that grows while it is read.

Page `k` is read from the `k`-th version of the list. As long as later versions only insert items,
what was there at the start is pushed towards later pages and never past the next one to be read.
-/

set_option autoImplicit false

namespace Library

variable {α : Type}

def page (size number : Nat) (items : List α) : List α := (items.drop (number * size)).take size

def Accumulate (versions : Nat → List α) : Prop := ∀ number, (versions number).Sublist (versions (number + 1))

/-- What no earlier page has shown is still to come. -/
theorem Accumulate.ahead {versions : Nat → List α} (grow : Accumulate versions) (size : Nat) {item : α}
    (there : item ∈ versions 0) (number : Nat) (unseen : ∀ earlier < number, item ∉ page size earlier (versions earlier)) :
    item ∈ (versions number).drop (number * size) := by
  induction number with
  | zero => simpa using there
  | succ number ih =>
      have before := ih fun earlier less => unseen earlier (Nat.lt_succ_of_lt less)
      rw [← List.take_append_drop size ((versions number).drop (number * size)), List.mem_append] at before
      cases before with
      | inl shown => exact absurd shown (unseen number (Nat.lt_succ_self number))
      | inr pushed =>
          rw [List.drop_drop, ← Nat.succ_mul] at pushed
          exact ((grow number).drop _).subset pushed

/-- Reading up to a page that is not full shows every item that was there at the start. -/
theorem Accumulate.swept {versions : Nat → List α} (grow : Accumulate versions) {size last : Nat}
    (short : (page size last (versions last)).length < size) {item : α} (there : item ∈ versions 0) :
    ∃ number ≤ last, item ∈ page size number (versions number) := by
  by_contra missed
  push Not at missed
  have ahead := grow.ahead size there last fun earlier less => missed earlier (Nat.le_of_lt less)
  have whole : page size last (versions last) = (versions last).drop (last * size) := by
    unfold page at short ⊢
    rw [List.length_take] at short
    exact List.take_of_length_le (by omega)
  exact missed last (Nat.le_refl last) (whole ▸ ahead)

end Library
