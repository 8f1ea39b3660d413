import Mathlib.Data.Set.Basic

/-! Maps that bring everything into a set and leave alone what is in it.

A normal form is such a map: what it yields is normal, and what is normal already stays as it is.
-/

set_option autoImplicit false

namespace Library

structure RetractsOnto {α : Type} (f : α → α) (normal : Set α) : Prop where
  lands : ∀ x, f x ∈ normal
  keeps : ∀ x ∈ normal, f x = x

namespace RetractsOnto

variable {α : Type} {f : α → α} {normal : Set α}

theorem eq_self_iff (retracts : RetractsOnto f normal) (x : α) : f x = x ↔ x ∈ normal := by
  constructor
  · intro fixed
    have landed := retracts.lands x
    rwa [fixed] at landed
  · exact retracts.keeps x

theorem twice (retracts : RetractsOnto f normal) (x : α) : f (f x) = f x :=
  retracts.keeps (f x) (retracts.lands x)

theorem reached (retracts : RetractsOnto f normal) {y : α} (inside : y ∈ normal) : ∃ x, f x = y :=
  ⟨y, retracts.keeps y inside⟩

/-- A step that changes nothing in the set may go first. -/
theorem comp (retracts : RetractsOnto f normal) {first : α → α} (alone : ∀ x ∈ normal, first x = x) :
    RetractsOnto (fun x => f (first x)) normal where
  lands x := retracts.lands (first x)
  keeps x inside := by rw [alone x inside, retracts.keeps x inside]

end RetractsOnto

end Library
