import Mathlib.Data.List.MinMax
import Mathlib.Logic.Function.Basic

/-! Tables whose rows are worked on one at a time under row locks.

A worker takes the first row it wants that nobody has locked, in the order of a rank, and keeps
the lock until its transaction ends. Keys are issued before their rows become visible, so a
row may turn up below others that are there already.
-/

set_option autoImplicit false

namespace Library

structure LockedTable (ρ ι : Type) where
  rows : Nat → Option ρ := fun _ => none
  issued : Nat := 0
  locked : Nat → Option ι := fun _ => none

namespace LockedTable

variable {ρ ι κ : Type} [LinearOrder κ]

def free (table : LockedTable ρ ι) (wanted : ρ → Bool) : List (Nat × ρ) :=
  (List.range table.issued).filterMap fun key =>
    if table.locked key = none then ((table.rows key).filter wanted).map (key, ·) else none

/-- `ORDER BY rank LIMIT 1 FOR UPDATE SKIP LOCKED` -/
def first (table : LockedTable ρ ι) (wanted : ρ → Bool) (rank : Nat × ρ → κ) : Option (Nat × ρ) :=
  (table.free wanted).argmin rank

def lock (table : LockedTable ρ ι) (key : Nat) (worker : ι) : LockedTable ρ ι :=
  { table with locked := Function.update table.locked key (some worker) }

def release (table : LockedTable ρ ι) (key : Nat) : LockedTable ρ ι :=
  { table with locked := Function.update table.locked key none }

def commit (table : LockedTable ρ ι) (key : Nat) (write : ρ → ρ) : LockedTable ρ ι :=
  { table.release key with rows := Function.update table.rows key ((table.rows key).map write) }

def insert (table : LockedTable ρ ι) (key : Nat) (row : ρ) : LockedTable ρ ι :=
  { table with rows := Function.update table.rows key (some row), issued := max table.issued (key + 1) }

variable {table : LockedTable ρ ι} {wanted : ρ → Bool} {rank : Nat × ρ → κ} {key : Nat} {row : ρ}

def Issued (table : LockedTable ρ ι) : Prop := ∀ key row, table.rows key = some row → key < table.issued

theorem mem_free : (key, row) ∈ table.free wanted ↔
    key < table.issued ∧ table.locked key = none ∧ table.rows key = some row ∧ wanted row = true := by
  simp only [free, List.mem_filterMap, List.mem_range]
  constructor
  · rintro ⟨other, issued, found⟩
    split at found
    · rename_i unlocked
      obtain ⟨stored, kept, same⟩ := Option.map_eq_some_iff.mp found
      obtain ⟨present, wants⟩ := Option.filter_eq_some_iff.mp kept
      cases same
      exact ⟨issued, unlocked, present, wants⟩
    · cases found
  · rintro ⟨issued, unlocked, present, wants⟩
    exact ⟨key, issued, by rw [if_pos unlocked, present, Option.filter_some_pos wants]; rfl⟩

theorem first_eq_some (found : table.first wanted rank = some (key, row)) :
    table.locked key = none ∧ table.rows key = some row ∧ wanted row = true := by
  obtain ⟨-, unlocked, present, wants⟩ := mem_free.mp (List.argmin_mem found)
  exact ⟨unlocked, present, wants⟩

/-- The row that is taken comes before every other one that could have been. -/
theorem first_le (issued : table.Issued) (unlocked : table.locked key = none) (present : table.rows key = some row)
    (wants : wanted row = true) : ∃ taken, table.first wanted rank = some taken ∧ rank taken ≤ rank (key, row) := by
  have member : (key, row) ∈ table.free wanted := mem_free.mpr ⟨issued key row present, unlocked, present, wants⟩
  cases found : table.first wanted rank with
  | none =>
      rw [first, List.argmin_eq_none] at found
      rw [found] at member
      cases member
  | some taken => exact ⟨taken, rfl, List.le_of_mem_argmin member found⟩

theorem Issued.insert (issued : table.Issued) : (table.insert key row).Issued := by
  intro other stored present
  simp only [LockedTable.insert, Function.update_apply] at present ⊢
  split at present
  · omega
  · have := issued other stored present
    omega

theorem Issued.commit {write : ρ → ρ} (issued : table.Issued) : (table.commit key write).Issued := by
  intro other stored present
  simp only [LockedTable.commit, release, Function.update_apply] at present ⊢
  split at present
  · rename_i same
    obtain ⟨before, was, -⟩ := Option.map_eq_some_iff.mp present
    rw [same]
    exact issued key before was
  · exact issued other stored present

/-! ## Locks and their holders -/

variable [DecidableEq ι] {held : ι → Option Nat} {worker : ι}

/-- Each worker holds the lock of at most one row, and each lock is held by the worker it names. -/
def Held (table : LockedTable ρ ι) (held : ι → Option Nat) : Prop :=
  ∀ key worker, table.locked key = some worker ↔ held worker = some key

theorem Held.lock (agrees : table.Held held) (unlocked : table.locked key = none) (idle : held worker = none) :
    (table.lock key worker).Held (Function.update held worker (some key)) := by
  intro other holder
  by_cases row : other = key <;> by_cases own : holder = worker
  · simp [LockedTable.lock, row, own]
  · have free := (agrees key holder).not.mp (by simp [unlocked])
    simp [LockedTable.lock, row, Function.update_of_ne own, free, Ne.symm own]
  · have free := (agrees other worker).not.mpr (by simp [idle])
    simp [LockedTable.lock, own, Function.update_of_ne row, free, Ne.symm row]
  · simpa [LockedTable.lock, Function.update_of_ne row, Function.update_of_ne own] using agrees other holder

theorem Held.release (agrees : table.Held held) (holds : held worker = some key) :
    (table.release key).Held (Function.update held worker none) := by
  have taken := (agrees key worker).mpr holds
  intro other holder
  by_cases row : other = key <;> by_cases own : holder = worker
  · simp [LockedTable.release, row, own]
  · have free := (agrees key holder).not.mp (by rw [taken]; simpa using Ne.symm own)
    simp [LockedTable.release, row, Function.update_of_ne own, free]
  · have free := (agrees other worker).not.mpr (by rw [holds]; simpa using Ne.symm row)
    simp [LockedTable.release, own, Function.update_of_ne row, free]
  · simpa [LockedTable.release, Function.update_of_ne row, Function.update_of_ne own] using agrees other holder

end LockedTable

end Library
