import Tiber.Library.Machine
import Tiber.Library.Zone
import Mathlib.Data.List.Basic
import Mathlib.Logic.Function.Basic

/-! Machines whose parties read one clock that never goes back.

An event happens at a moment. Its party takes readings of the clock on the way to it and
behind it, in this order, and none of them is earlier than a reading the party took before.
The moments of all parties follow the order of the run; the readings between them need not.
-/

set_option autoImplicit false

namespace Library

/-- Whose an event is, and the readings its party takes on the way to it and behind it. -/
structure Timing (ι : Type) where
  party : ι
  before : List Instant := []
  after : List Instant := []

structure Moment (ε : Type) where
  event : ε
  time : Instant

structure Clocked (σ ι : Type) where
  state : σ
  now : Instant
  seen : ι → Instant

namespace Clocked

variable {σ ε ι : Type} [DecidableEq ι]

def step (timing : ε → Timing ι) (base : σ → ε → Option σ) (clocked : Clocked σ ι) (moment : Moment ε) :
    Option (Clocked σ ι) :=
  let own := timing moment.event
  if clocked.now ≤ moment.time ∧
      (clocked.seen own.party :: (own.before ++ moment.time :: own.after)).Pairwise (· ≤ ·) then
    (base clocked.state moment.event).map fun next => {
      state := next
      now := moment.time
      seen := Function.update clocked.seen own.party (own.after.getLastD moment.time) }
  else none

structure Advance (own : Timing ι) (clocked next : Clocked σ ι) (time : Instant) : Prop where
  onward : clocked.now ≤ time
  now : next.now = time
  known : clocked.seen own.party ≤ time
  before : ∀ reading ∈ own.before, clocked.seen own.party ≤ reading ∧ reading ≤ time
  after : ∀ reading ∈ own.after, time ≤ reading ∧ reading ≤ next.seen own.party
  kept : time ≤ next.seen own.party
  others : ∀ other, other ≠ own.party → next.seen other = clocked.seen other

theorem Advance.seen_le {own : Timing ι} {clocked next : Clocked σ ι} {time : Instant}
    (advance : Advance own clocked next time) (party : ι) : clocked.seen party ≤ next.seen party := by
  by_cases same : party = own.party
  · rw [same]
    exact Int.le_trans advance.known advance.kept
  · exact Int.le_of_eq (advance.others party same).symm

theorem le_getLastD {readings : List Instant} {first : Instant} (ordered : (first :: readings).Pairwise (· ≤ ·)) :
    ∀ reading ∈ first :: readings, reading ≤ readings.getLastD first := by
  induction readings generalizing first with
  | nil => simp
  | cons head rest ih =>
      have tail := ih (List.pairwise_cons.mp ordered).2
      have last : head ≤ rest.getLastD head := tail head (.head _)
      intro reading member
      rw [List.getLastD_cons]
      rcases List.mem_cons.mp member with rfl | member
      · exact Int.le_trans ((List.pairwise_cons.mp ordered).1 head (.head _)) last
      · exact tail reading member

theorem step_eq_some {timing : ε → Timing ι} {base : σ → ε → Option σ} {clocked next : Clocked σ ι}
    {moment : Moment ε} (taken : step timing base clocked moment = some next) :
    base clocked.state moment.event = some next.state ∧
      Advance (timing moment.event) clocked next moment.time := by
  simp only [step] at taken
  split at taken
  · rename_i ordered
    obtain ⟨state, done, rfl⟩ := Option.map_eq_some_iff.mp taken
    obtain ⟨onward, ordered⟩ := ordered
    obtain ⟨first, ordered⟩ := List.pairwise_cons.mp ordered
    obtain ⟨-, behind, across⟩ := List.pairwise_append.mp ordered
    have last := le_getLastD behind
    refine ⟨done, onward, rfl, first _ (by simp), ?_, ?_, ?_, ?_⟩
    · intro reading member
      exact ⟨first reading (List.mem_append_left _ member), across reading member _ (.head _)⟩
    · intro reading member
      refine ⟨(List.pairwise_cons.mp behind).1 reading member, ?_⟩
      simp only [Function.update_self]
      exact last reading (.tail _ member)
    · simp only [Function.update_self]
      exact last _ (.head _)
    · intro other different
      exact Function.update_of_ne different ..
  · cases taken

end Clocked

end Library
