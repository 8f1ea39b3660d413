import Mathlib.Logic.Function.Basic
import Mathlib.Data.Option.Basic

/-! Keys that expire.

A key holds a value and, unless it is persistent, the last millisecond of its life. Nothing
removes it then: it is only read as absent from there on. Times to live are given and told in
whole seconds.
-/

set_option autoImplicit false

namespace Library

structure Entry (α : Type) where
  value : α
  deadline : Option Nat := none
  deriving DecidableEq

abbrev Slot (α : Type) := Option (Entry α)

namespace Slot

variable {α : Type} (slot : Slot α)

def live (now : Nat) : Slot α := slot.filter fun entry => entry.deadline.all fun deadline => decide (now ≤ deadline)

def get (now : Nat) : Option α := (slot.live now).map (·.value)

/-- SET with an expiry. -/
def setFor (value : α) (seconds now : Nat) : Slot α := some ⟨value, some (now + 1000 * seconds)⟩

/-- EXPIRE: a new deadline for a key that exists. -/
def expire (seconds now : Nat) : Slot α :=
  (slot.live now).map fun entry => { entry with deadline := some (now + 1000 * seconds) }

/-- TTL, rounded to the nearest second; negative without a deadline or without a key. -/
def ttl (now : Nat) : Int :=
  match slot.live now with
  | none => -2
  | some entry =>
      match entry.deadline with
      | none => -1
      | some deadline => ((deadline - now + 500) / 1000 : Nat)

/-- INCR: a key that is not there counts from zero, without a deadline. -/
def incr (slot : Slot Nat) (now : Nat) : Slot Nat :=
  match slot.live now with
  | none => some { value := 1 }
  | some entry => some { entry with value := entry.value + 1 }

/-! ## What is read back -/

variable {slot}

@[simp] theorem get_none (now : Nat) : get (none : Slot α) now = none := rfl

theorem get_eq_some {now : Nat} {value : α} :
    slot.get now = some value ↔
      ∃ entry, slot = some entry ∧ (∀ deadline ∈ entry.deadline, now ≤ deadline) ∧ entry.value = value := by
  unfold get live
  simp only [Option.map_eq_some_iff, Option.filter_eq_some_iff, Option.all_eq_true, decide_eq_true_eq,
    Option.mem_def, and_assoc]

theorem get_some (entry : Entry α) (now : Nat) :
    get (some entry) now = if ∀ deadline ∈ entry.deadline, now ≤ deadline then some entry.value else none := by
  split
  · rename_i alive
    exact get_eq_some.mpr ⟨entry, rfl, alive, rfl⟩
  · rename_i dead
    rw [Option.eq_none_iff_forall_not_mem]
    intro value held
    obtain ⟨_, same, alive, -⟩ := get_eq_some.mp held
    cases same
    exact dead alive

theorem get_setFor (value : α) (seconds now later : Nat) :
    (setFor value seconds now).get later = if later ≤ now + 1000 * seconds then some value else none := by
  rw [setFor, get_some]
  simp

theorem get_earlier {now later : Nat} (order : now ≤ later) {value : α} (held : slot.get later = some value) :
    slot.get now = some value := by
  obtain ⟨entry, same, alive, read⟩ := get_eq_some.mp held
  exact get_eq_some.mpr ⟨entry, same, fun deadline due => Nat.le_trans order (alive deadline due), read⟩

theorem live_get {now : Nat} {entry : Entry α} (alive : slot.live now = some entry) :
    slot.get now = some entry.value ∧ ∀ deadline ∈ entry.deadline, now ≤ deadline := by
  refine ⟨by rw [get, alive]; rfl, ?_⟩
  rw [live, Option.filter_eq_some_iff, Option.all_eq_true] at alive
  exact fun deadline due => of_decide_eq_true (alive.2 deadline due)

theorem get_expire (seconds now : Nat) : (slot.expire seconds now).get now = slot.get now := by
  unfold expire
  cases alive : slot.live now with
  | none =>
      rw [Option.map_none, get_none, get, alive]
      rfl
  | some entry =>
      rw [Option.map_some, get_some, (live_get alive).1]
      simp

theorem get_incr (slot : Slot Nat) (now : Nat) : (slot.incr now).get now = some ((slot.get now).getD 0 + 1) := by
  unfold incr
  cases alive : slot.live now with
  | none =>
      rw [show slot.get now = none by rw [get, alive]; rfl]
      exact get_some ..
  | some entry =>
      obtain ⟨held, due⟩ := live_get alive
      dsimp only
      rw [held, get_some, if_pos due]
      rfl

end Slot

end Library
