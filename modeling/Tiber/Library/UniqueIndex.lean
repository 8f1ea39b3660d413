import Mathlib.Data.List.Nodup
import Mathlib.Data.List.Perm.Basic

/-! A unique index under concurrent transactions, and rows looked up by a unique key.

An entry belongs to a transaction until that commits or aborts. An insertion of a committed
key does nothing, one of a key that another open transaction has entered waits for it, and
any other enters its key.
-/

set_option autoImplicit false

namespace Library

variable {κ : Type}

structure UniqueIndex (κ : Type) where
  committed : List κ := []
  pending : List (Nat × κ) := []

namespace UniqueIndex

inductive Insertion (κ : Type) where
  | nothing
  | waits
  | entered (index : UniqueIndex κ)

variable (index : UniqueIndex κ)

def insert [DecidableEq κ] (transaction : Nat) (key : κ) : Insertion κ :=
  if key ∈ index.committed then .nothing
  else if key ∈ index.pending.map Prod.snd then .waits
  else .entered { index with pending := (transaction, key) :: index.pending }

def entries (transaction : Nat) : List κ := (index.pending.filter (·.1 = transaction)).map Prod.snd

def commit (transaction : Nat) : UniqueIndex κ where
  committed := index.entries transaction ++ index.committed
  pending := index.pending.filter (·.1 ≠ transaction)

def abort (transaction : Nat) : UniqueIndex κ where
  committed := index.committed
  pending := index.pending.filter (·.1 ≠ transaction)

/-- No key is there twice, committed or not. -/
def Distinct : Prop := (index.pending.map Prod.snd ++ index.committed).Nodup

variable {index}

theorem Distinct.committed (distinct : index.Distinct) : index.committed.Nodup :=
  (List.nodup_append.mp distinct).2.1

theorem insert_nothing [DecidableEq κ] {transaction : Nat} {key : κ}
    (done : index.insert transaction key = .nothing) : key ∈ index.committed := by
  unfold UniqueIndex.insert at done
  split at done
  · assumption
  · split at done <;> cases done

theorem Distinct.insert [DecidableEq κ] (distinct : index.Distinct) {transaction : Nat} {key : κ}
    {entered : UniqueIndex κ} (done : index.insert transaction key = .entered entered) : entered.Distinct := by
  unfold UniqueIndex.insert at done
  split at done
  · cases done
  · rename_i fresh
    split at done
    · cases done
    · rename_i free
      cases done
      exact List.nodup_cons.mpr ⟨fun member => (List.mem_append.mp member).elim free fresh, distinct⟩

/-- A commit moves entries, it makes none. -/
theorem Distinct.commit (distinct : index.Distinct) (transaction : Nat) : (index.commit transaction).Distinct := by
  have moved : (index.pending.map Prod.snd).Perm
      ((index.pending.filter (·.1 ≠ transaction)).map Prod.snd ++ index.entries transaction) := by
    have parted :=
      (List.filter_append_perm (fun entry : Nat × κ => decide (entry.1 ≠ transaction)) index.pending).symm
    simp only [entries, ← List.map_append]
    refine (parted.map Prod.snd).trans (List.Perm.of_eq ?_)
    simp
  have same := (moved.append_right index.committed).nodup_iff.mp distinct
  rw [List.append_assoc] at same
  exact same

theorem Distinct.abort (distinct : index.Distinct) (transaction : Nat) : (index.abort transaction).Distinct := by
  refine List.Nodup.sublist ?_ distinct
  exact List.Sublist.append_right (List.Sublist.map _ List.filter_sublist) _

/-! ## Entries -/

theorem entries_insert [DecidableEq κ] {transaction : Nat} {key : κ} {entered : UniqueIndex κ}
    (done : index.insert transaction key = .entered entered) (other : Nat) :
    entered.committed = index.committed ∧
      entered.entries other = if other = transaction then key :: index.entries other else index.entries other := by
  unfold UniqueIndex.insert at done
  split at done
  · cases done
  · split at done <;> cases done
    refine ⟨rfl, ?_⟩
    by_cases mine : other = transaction
    · simp [entries, mine]
    · simp [entries, mine, Ne.symm mine]

theorem entries_filter {pending : List (Nat × κ)} {transaction other : Nat} :
    ((pending.filter (·.1 ≠ transaction)).filter (·.1 = other)).map Prod.snd =
      if other = transaction then [] else (pending.filter (·.1 = other)).map Prod.snd := by
  rw [List.filter_filter]
  by_cases mine : other = transaction
  · rw [if_pos mine, List.map_eq_nil_iff, List.filter_eq_nil_iff]
    intro entry _
    simp [mine]
  · rw [if_neg mine]
    congr 1
    apply List.filter_congr
    intro entry _
    by_cases own : entry.1 = other
    · simp [own, mine]
    · simp [own]

@[simp] theorem entries_commit (transaction other : Nat) :
    (index.commit transaction).entries other = if other = transaction then [] else index.entries other :=
  entries_filter

@[simp] theorem entries_abort (transaction other : Nat) :
    (index.abort transaction).entries other = if other = transaction then [] else index.entries other :=
  entries_filter

/-! ## Indexed rows -/

variable {α : Type} {rows : List α} {key : α → Option κ}

theorem rows_le_one [DecidableEq κ] (unique : (rows.filterMap key).Nodup) (value : κ) :
    (rows.filter fun row => key row = some value).length ≤ 1 := by
  have once := List.nodup_iff_count_le_one.mp unique value
  simp only [List.count_filterMap, List.countP_eq_length_filter, beq_eq_decide] at once
  exact once

theorem eq_of_few {a b : α} (few : rows.length ≤ 1) (first : a ∈ rows) (second : b ∈ rows) : a = b := by
  match rows, few, first, second with
  | [only], _, first, second => exact (List.mem_singleton.mp first).trans (List.mem_singleton.mp second).symm

theorem rows_eq [DecidableEq κ] (unique : (rows.filterMap key).Nodup) {row other : α} (member : row ∈ rows)
    (also : other ∈ rows) {value : κ} (keyed : key row = some value) (same : key other = some value) :
    row = other := by
  refine eq_of_few (rows_le_one unique value) ?_ ?_
  · exact List.mem_filter.mpr ⟨member, by simp [keyed]⟩
  · exact List.mem_filter.mpr ⟨also, by simp [same]⟩

end UniqueIndex

/-! ## Rows with a unique key -/

theorem find?_key_eq_some {ρ : Type} [DecidableEq κ] {rows : List ρ} {key : ρ → κ} (unique : (rows.map key).Nodup)
    {wanted : κ} {row : ρ} : rows.find? (fun row => key row = wanted) = some row ↔ row ∈ rows ∧ key row = wanted := by
  have found_own {other : ρ} (found : rows.find? (fun row => key row = wanted) = some other) :
      other ∈ rows ∧ key other = wanted := by
    have own := List.find?_some found
    exact ⟨List.mem_of_find?_eq_some found, of_decide_eq_true own⟩
  refine ⟨found_own, fun ⟨stored, own⟩ => ?_⟩
  cases found : rows.find? (fun row => key row = wanted) with
  | none => exact absurd (decide_eq_true own) (List.find?_eq_none.mp found row stored)
  | some other =>
      obtain ⟨there, same⟩ := found_own found
      rw [List.inj_on_of_nodup_map unique there stored (same.trans own.symm)]

end Library
