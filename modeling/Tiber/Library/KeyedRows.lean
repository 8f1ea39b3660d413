import Tiber.Library.Tenancy

/-! Tables whose rows have a key of their own.

Writing a stored row leaves what the write does not touch, row by row, and writing rows with new
keys puts them in front.
-/

set_option autoImplicit false

namespace Library

variable {ρ κ α : Type} [DecidableEq κ] {key : ρ → κ} {rows : List ρ} {row updated : ρ}

theorem upsert_stored (unique : (rows.map key).Nodup) (stored : row ∈ rows) (keyed : key updated = key row) {known : ρ} :
    known ∈ upsert key updated rows ↔ known = updated ∨ known ∈ rows ∧ known ≠ row := by
  rw [mem_upsert, keyed]
  apply or_congr Iff.rfl
  apply and_congr_right
  intro there
  exact not_congr ⟨fun same => List.inj_on_of_nodup_map unique there stored same, fun same => by rw [same]⟩

/-- What the two versions of a row agree on is as it was, in every row. -/
theorem map_upsert (view : ρ → α) (unique : (rows.map key).Nodup) (stored : row ∈ rows) (keyed : key updated = key row)
    (same : view updated = view row) : (upsert key updated rows).map view = rows.map view := by
  have taken : key updated ∈ rows.map key := by
    rw [keyed]
    exact List.mem_map_of_mem stored
  rw [upsert, if_pos taken, List.map_map]
  apply List.map_congr_left
  intro known there
  rw [Function.comp_apply]
  split
  · rename_i own
    rw [same, List.inj_on_of_nodup_map unique there stored (own.trans keyed)]
  · rfl

theorem map_filter_upsert (condition : ρ → Bool) (view : ρ → α) (unique : (rows.map key).Nodup) (stored : row ∈ rows)
    (keyed : key updated = key row) (alike : condition updated = condition row) (same : view updated = view row) :
    ((upsert key updated rows).filter condition).map view = (rows.filter condition).map view := by
  have paired := map_upsert (fun known => (condition known, view known)) unique stored keyed (by rw [alike, same])
  have chosen (list : List ρ) : (list.filter condition).map view =
      ((list.map fun known => (condition known, view known)).filter Prod.fst).map Prod.snd := by
    rw [List.filter_map, List.map_map]
    rfl
  rw [chosen, chosen, paired]

/-- Rows with new keys of their own are put in front, the last one first. -/
theorem foldl_upsert_fresh {batch : List ρ} (once : (batch.map key).Nodup) (free : ∀ row ∈ batch, key row ∉ rows.map key) :
    batch.foldl (fun rows row => upsert key row rows) rows = batch.reverse ++ rows := by
  induction batch generalizing rows with
  | nil => rfl
  | cons first rest ih =>
      rw [List.map_cons, List.nodup_cons] at once
      have opened : upsert key first rows = first :: rows := if_neg (free first (.head _))
      rw [List.foldl_cons, opened, ih once.2]
      · simp
      · intro row later taken
        rw [List.map_cons, List.mem_cons] at taken
        cases taken with
        | inl same => exact once.1 (same ▸ List.mem_map_of_mem later)
        | inr before => exact free row (.tail _ later) before

end Library
