import Mathlib.Data.List.Nodup
import Tiber.Domain.ApiKey
import Tiber.Library.UniqueIndex

/-! The table of API keys, with the two constraints the database checks after every write. -/

set_option autoImplicit false

namespace Tiber

open Library

structure ApiKeyTable where
  rows : List ApiKey := []
  ids : (rows.map (·.id)).Nodup := by decide
  hashes : (rows.map (·.keyHash)).Nodup := by decide

namespace ApiKeyTable

variable (table : ApiKeyTable)

/-- The rows after a write: the row of the same id is replaced, a new id is added. -/
def written (key : ApiKey) : List ApiKey :=
  if table.rows.any (·.id = key.id) then table.rows.map fun row => if row.id = key.id then key else row
  else table.rows ++ [key]

def save (key : ApiKey) : Checked ApiKeyTable :=
  if unique : ((table.written key).map (·.id)).Nodup ∧ ((table.written key).map (·.keyHash)).Nodup then
    .ok ⟨table.written key, unique.1, unique.2⟩
  else .error (.raised "IntegrityError" "duplicate key value violates unique constraint")

def saveAll (keys : List ApiKey) : Checked ApiKeyTable := keys.foldlM save table

def getByHash (keyHash : Text) : Option ApiKey := table.rows.find? (·.keyHash = keyHash)

def getById (id projectId : Uuid) : Option ApiKey :=
  table.rows.find? fun row => row.id = id && row.projectId = projectId

def listByAccount (owner : Uuid → Option Uuid) (accountId : Uuid) : List ApiKey :=
  table.rows.filter fun row => owner row.projectId = some accountId

variable {table}

theorem mem_written {key row : ApiKey} :
    row ∈ table.written key ↔ row = key ∨ row ∈ table.rows ∧ row.id ≠ key.id := by
  unfold written
  split
  · rename_i known
    obtain ⟨old, stored, same⟩ := List.any_eq_true.mp known
    rw [List.mem_map]
    constructor
    · rintro ⟨before, member, rfl⟩
      by_cases own : before.id = key.id
      · exact .inl (if_pos own)
      · rw [if_neg own]
        exact .inr ⟨member, own⟩
    · rintro (rfl | ⟨member, other⟩)
      · exact ⟨old, stored, if_pos (of_decide_eq_true same)⟩
      · exact ⟨row, member, if_neg other⟩
  · rename_i fresh
    have absent : ∀ before ∈ table.rows, before.id ≠ key.id := fun before member same =>
      fresh (List.any_eq_true.mpr ⟨before, member, decide_eq_true same⟩)
    rw [List.mem_append, List.mem_singleton, or_comm]
    exact or_congr_right ⟨fun member => ⟨member, absent row member⟩, And.left⟩

theorem mem_save {key row : ApiKey} {next : ApiKeyTable} (saved : table.save key = .ok next) :
    row ∈ next.rows ↔ row = key ∨ row ∈ table.rows ∧ row.id ≠ key.id := by
  unfold save at saved
  split at saved
  · cases saved
    exact mem_written
  · cases saved

theorem id_inj {first second : ApiKey} (left : first ∈ table.rows) (right : second ∈ table.rows)
    (same : first.id = second.id) : first = second :=
  List.inj_on_of_nodup_map table.ids left right same

theorem getByHash_eq_some {keyHash : Text} {key : ApiKey} :
    table.getByHash keyHash = some key ↔ key ∈ table.rows ∧ key.keyHash = keyHash :=
  find?_key_eq_some table.hashes

theorem mem_listByAccount {owner : Uuid → Option Uuid} {accountId : Uuid} {key : ApiKey} :
    key ∈ table.listByAccount owner accountId ↔ key ∈ table.rows ∧ owner key.projectId = some accountId := by
  simp only [listByAccount, List.mem_filter, decide_eq_true_eq]

/-! ## Revocations -/

/-- A later table of keys: every key is still there and still revoked if it was, and there is no other. -/
structure Onward (table next : ApiKeyTable) : Prop where
  kept : ∀ row ∈ table.rows, ∃ later ∈ next.rows, ApiKey.SameKey later row ∧
    (row.isRevoked = true → later.isRevoked = true)
  known : ∀ later ∈ next.rows, ∃ row ∈ table.rows, ApiKey.SameKey later row

theorem Onward.refl (table : ApiKeyTable) : Onward table table where
  kept row stored := ⟨row, stored, ⟨rfl, rfl, rfl⟩, id⟩
  known row stored := ⟨row, stored, ⟨rfl, rfl, rfl⟩⟩

theorem Onward.trans {first second third : ApiKeyTable} (before : Onward first second) (after : Onward second third) :
    Onward first third where
  kept row stored := by
    obtain ⟨middle, there, same, revoked⟩ := before.kept row stored
    obtain ⟨later, last, again, still⟩ := after.kept middle there
    exact ⟨later, last, again.trans same, still ∘ revoked⟩
  known later stored := by
    obtain ⟨middle, there, same⟩ := after.known later stored
    obtain ⟨row, first, again⟩ := before.known middle there
    exact ⟨row, first, same.trans again⟩

theorem Onward.save {key row : ApiKey} {next : ApiKeyTable} (saved : table.save key = .ok next)
    (stored : row ∈ table.rows) (same : ApiKey.SameKey key row) (revoked : key.isRevoked = true) :
    Onward table next where
  kept old member := by
    by_cases own : old.id = key.id
    · have copied : old = row := id_inj member stored (own.trans same.id)
      exact ⟨key, (mem_save saved).mpr (.inl rfl), copied ▸ same, fun _ => revoked⟩
    · exact ⟨old, (mem_save saved).mpr (.inr ⟨member, own⟩), ⟨rfl, rfl, rfl⟩, id⟩
  known later member := by
    obtain rfl | ⟨old, -⟩ := (mem_save saved).mp member
    · exact ⟨row, stored, same⟩
    · exact ⟨later, old, ⟨rfl, rfl, rfl⟩⟩

theorem Onward.row {next : ApiKeyTable} (onward : Onward table next) {key row : ApiKey}
    (stored : row ∈ table.rows) (same : ApiKey.SameKey key row) :
    ∃ later ∈ next.rows, ApiKey.SameKey key later := by
  obtain ⟨later, there, again, -⟩ := onward.kept row stored
  exact ⟨later, there, same.trans again.symm⟩

theorem Onward.saveAll {keys : List ApiKey} {next : ApiKeyTable} (saved : table.saveAll keys = .ok next)
    (copies : ∀ key ∈ keys, key.isRevoked = true ∧ ∃ row ∈ table.rows, ApiKey.SameKey key row) :
    Onward table next ∧ ∀ key ∈ keys, ∃ row ∈ next.rows, ApiKey.SameKey key row ∧ row.isRevoked = true := by
  induction keys generalizing table with
  | nil => cases saved; exact ⟨.refl _, fun _ member => nomatch member⟩
  | cons key rest ih =>
      obtain ⟨⟨revoked, row, stored, same⟩, others⟩ := List.forall_mem_cons.mp copies
      obtain ⟨between, first, later⟩ : ∃ between, table.save key = .ok between ∧ between.saveAll rest = .ok next := by
        simp only [ApiKeyTable.saveAll, List.foldlM_cons] at saved
        cases first : table.save key with
        | error failure => rw [first] at saved; cases saved
        | ok between => rw [first] at saved; exact ⟨between, rfl, saved⟩
      have step := Onward.save first stored same revoked
      have moved : ∀ other ∈ rest, other.isRevoked = true ∧ ∃ row ∈ between.rows, ApiKey.SameKey other row :=
        fun other member =>
          have ⟨gone, row, there, copy⟩ := others other member
          ⟨gone, step.row there copy⟩
      obtain ⟨onward, done⟩ := ih later moved
      refine ⟨step.trans onward, List.forall_mem_cons.mpr ⟨?_, done⟩⟩
      obtain ⟨last, there, again, still⟩ := onward.kept key ((mem_save first).mpr (.inl rfl))
      exact ⟨last, there, again.symm, still revoked⟩

end ApiKeyTable

end Tiber
