import Mathlib.Data.List.Nodup
import Tiber.Application.Accounts
import Tiber.Library.UniqueIndex

/-! The table of accounts. Addresses are compared as CITEXT compares them; an email and a GitHub id belong to
one account, a pending email to any number of them. -/

set_option autoImplicit false

namespace Tiber

open Library

structure AccountTable (fold : Text → Text) where
  rows : List AuthAccount := []
  ids : (rows.map (·.id)).Nodup := by decide
  emails : (rows.map fun row => fold row.email).Nodup := by decide
  githubIds : (rows.filterMap (·.githubId)).Nodup := by decide

namespace AccountTable

variable {fold : Text → Text} (table : AccountTable fold)

/-- The unique constraints, checked after every write. -/
def checked (fold : Text → Text) (rows : List AuthAccount) : Checked (AccountTable fold) :=
  if unique : (rows.map (·.id)).Nodup ∧ (rows.map fun row => fold row.email).Nodup ∧
      (rows.filterMap (·.githubId)).Nodup then
    .ok ⟨rows, unique.1, unique.2.1, unique.2.2⟩
  else .error accountIdentityConflict

def getById (id : Uuid) : Option AuthAccount := table.rows.find? (·.id = id)

def add (account : AuthAccount) : Checked (AccountTable fold) := checked fold (table.rows ++ [account])

/-- The UPDATE of `save`, for the row as the session has loaded it. -/
def save (saved loaded : AuthAccount) : Checked (AccountTable fold) :=
  match table.getById saved.id with
  | none => .error (.raised "LookupError" ("Account " ++ uuidText saved.id ++ " does not exist."))
  | some _ => checked fold (table.rows.map fun row => if row.id = saved.id then saved.overwrite loaded row else row)

def getByEmail (email : Text) : Option AuthAccount := table.rows.find? fun row => fold row.email = fold email

def getByGithubId (githubId : Text) : Option AuthAccount := table.rows.find? (·.githubId = some githubId)

/-- The rows that `get_by_email_or_pending_email` matches. -/
def matching (email : Text) : List AuthAccount :=
  table.rows.filter fun row => fold row.email = fold email || row.pendingEmail.any (fold · = fold email)

/-- What the unordered query returns: the matching row of the given id, or none where there is none. -/
def pick (email : Text) (choice : Uuid) : Option (Option AuthAccount) :=
  match table.matching email with
  | [] => some none
  | found => (found.find? (·.id = choice)).map some

variable {table} {next : AccountTable fold}

theorem checked_rows {rows : List AuthAccount} (made : checked fold rows = .ok next) : next.rows = rows := by
  unfold checked at made
  split at made
  · cases made; rfl
  · cases made

theorem save_rows {saved loaded : AuthAccount} (done : table.save saved loaded = .ok next) :
    next.rows = table.rows.map fun row => if row.id = saved.id then saved.overwrite loaded row else row := by
  unfold save at done
  split at done
  · cases done
  · exact checked_rows done

/-! ## Reads -/

theorem id_inj {first second : AuthAccount} (left : first ∈ table.rows) (right : second ∈ table.rows)
    (same : first.id = second.id) : first = second :=
  List.inj_on_of_nodup_map table.ids left right same

theorem email_inj {first second : AuthAccount} (left : first ∈ table.rows) (right : second ∈ table.rows)
    (same : fold first.email = fold second.email) : first = second :=
  List.inj_on_of_nodup_map table.emails left right same

theorem getById_mem {id : Uuid} {account : AuthAccount} (found : table.getById id = some account) :
    account ∈ table.rows ∧ account.id = id :=
  (find?_key_eq_some table.ids).mp found

theorem getById_eq_some {account : AuthAccount} (stored : account ∈ table.rows) :
    table.getById account.id = some account :=
  (find?_key_eq_some table.ids).mpr ⟨stored, rfl⟩

theorem matching_ids (table : AccountTable fold) (email : Text) : ((table.matching email).map (·.id)).Nodup :=
  table.ids.sublist (List.filter_sublist.map _)

theorem pick_mem {email : Text} {choice : Uuid} {account : AuthAccount} (picked : table.pick email choice = some (some account)) :
    account ∈ table.matching email ∧ account.id = choice := by
  unfold pick at picked
  split at picked
  · cases picked
  · obtain ⟨found, chosen, same⟩ := Option.map_eq_some_iff.mp picked
    cases same
    exact (find?_key_eq_some (table.matching_ids email)).mp chosen

/-! ## Writes -/

theorem mem_add {account row : AuthAccount} (added : table.add account = .ok next) :
    row ∈ next.rows ↔ row ∈ table.rows ∨ row = account := by
  rw [checked_rows added, List.mem_append, List.mem_singleton]

theorem add_fresh {account : AuthAccount} (added : table.add account = .ok next) :
    ∀ row ∈ table.rows, row.id ≠ account.id := by
  intro row stored same
  have unique := next.ids
  rw [checked_rows added, List.map_append] at unique
  exact (List.nodup_append.mp unique).2.2 _ (List.mem_map_of_mem stored) _ (List.mem_singleton_self _) same

theorem mem_save {saved loaded row : AuthAccount} (done : table.save saved loaded = .ok next) (member : row ∈ next.rows) :
    (row ∈ table.rows ∧ row.id ≠ saved.id) ∨
      ∃ stored ∈ table.rows, stored.id = saved.id ∧ row = saved.overwrite loaded stored := by
  rw [save_rows done, List.mem_map] at member
  obtain ⟨stored, there, rfl⟩ := member
  by_cases own : stored.id = saved.id
  · exact .inr ⟨stored, there, own, if_pos own⟩
  · rw [if_neg own]
    exact .inl ⟨there, own⟩

theorem save_mem {saved loaded row : AuthAccount} (done : table.save saved loaded = .ok next) (stored : row ∈ table.rows) :
    (if row.id = saved.id then saved.overwrite loaded row else row) ∈ next.rows := by
  rw [save_rows done]
  exact List.mem_map_of_mem stored

theorem replaced_rows {saved account : AuthAccount} (stored : account ∈ table.rows) (own : saved.id = account.id) :
    (table.rows.map fun row => if row.id = saved.id then saved.overwrite account row else row) =
      table.rows.map fun row => if row.id = account.id then saved else row := by
  apply List.map_congr_left
  intro row member
  rw [own]
  by_cases same : row.id = account.id
  · rw [if_pos same, if_pos same, id_inj member stored same]
    exact AuthAccount.overwrite_same own
  · rw [if_neg same, if_neg same]

theorem save_ok {saved account : AuthAccount} (stored : account ∈ table.rows) (own : saved.id = account.id)
    (github : saved.githubId = account.githubId)
    (free : ∀ row ∈ table.rows, fold row.email = fold saved.email → row.id = account.id) :
    ∃ next, table.save saved account = .ok next := by
  have found : table.getById saved.id = some account := own ▸ getById_eq_some stored
  have rows : table.rows.Nodup := table.ids.of_map
  have ids : ((table.rows.map fun row => if row.id = account.id then saved else row).map (·.id)).Nodup := by
    rw [List.map_map]
    refine (congrArg List.Nodup (List.map_congr_left fun row _ => ?_)).mpr table.ids
    simp only [Function.comp]
    split
    · rename_i same
      exact own.trans same.symm
    · rfl
  have emails : ((table.rows.map fun row => if row.id = account.id then saved else row).map
      fun row => fold row.email).Nodup := by
    rw [List.map_map]
    refine rows.map_on fun first left second right same => ?_
    simp only [Function.comp] at same
    split at same
    · rename_i one
      split at same
      · rename_i two
        exact id_inj left right (one.trans two.symm)
      · rename_i two
        exact absurd (free second right same.symm) two
    · rename_i one
      split at same
      · exact absurd (free first left same) one
      · exact email_inj left right same
  have githubIds : ((table.rows.map fun row => if row.id = account.id then saved else row).filterMap
      (·.githubId)).Nodup := by
    rw [List.filterMap_map]
    refine (congrArg List.Nodup (List.filterMap_congr fun row member => ?_)).mpr table.githubIds
    simp only [Function.comp]
    split
    · rename_i same
      rw [id_inj member stored same]
      exact github
    · rfl
  unfold save
  rw [found, replaced_rows stored own]
  exact ⟨_, dif_pos ⟨ids, emails, githubIds⟩⟩

theorem save_free {saved account row : AuthAccount} (done : table.save saved account = .ok next)
    (stored : account ∈ table.rows) (own : saved.id = account.id) (other : row ∈ table.rows)
    (same : fold row.email = fold saved.email) : row.id = account.id := by
  by_contra apart
  have left := save_mem done stored
  rw [if_pos own.symm, AuthAccount.overwrite_same own] at left
  have right := save_mem done other
  rw [if_neg (own ▸ apart)] at right
  exact apart ((congrArg AuthAccount.id (email_inj right left same)).trans own)

end AccountTable

end Tiber
