import Mathlib.Data.List.Nodup
import Mathlib.Data.List.Sort
import Tiber.Library.UniqueIndex

/-! Tables whose rows each belong to somebody.

What two tables have in common for one owner is that they hold the same rows of that owner; where
and between which other rows does not matter. A look-up that can only meet rows of one owner, and
no two of them, finds the same in both.
-/

set_option autoImplicit false

namespace Library

variable {ρ κ ω : Type}

/-- The two tables hold the same rows of one owner. -/
def SameFor (owner : ρ → ω) (who : ω) (rows others : List ρ) : Prop :=
  ∀ row, owner row = who → (row ∈ rows ↔ row ∈ others)

def AtMostOne (rows : List ρ) (condition : ρ → Prop) : Prop :=
  ∀ first ∈ rows, ∀ second ∈ rows, condition first → condition second → first = second

def Unclaimed (key : ρ → κ) (owner : ρ → ω) (who : ω) (wanted : κ) (rows : List ρ) : Prop :=
  ∀ row ∈ rows, key row = wanted → owner row = who

def upsert [DecidableEq κ] (key : ρ → κ) (row : ρ) (rows : List ρ) : List ρ :=
  if key row ∈ rows.map key then rows.map fun known => if key known = key row then row else known
  else row :: rows

section

variable {owner : ρ → ω} {who : ω} {rows others third : List ρ}

theorem SameFor.refl : SameFor owner who rows rows := fun _ _ => Iff.rfl

theorem SameFor.symm (same : SameFor owner who rows others) : SameFor owner who others rows :=
  fun row own => (same row own).symm

theorem SameFor.trans (first : SameFor owner who rows others) (second : SameFor owner who others third) :
    SameFor owner who rows third :=
  fun row own => (first row own).trans (second row own)

theorem AtMostOne.of_nodup {key : ρ → κ} (unique : (rows.map key).Nodup) (wanted : κ) :
    AtMostOne rows fun row => key row = wanted := by
  intro first there second also keyed same
  exact List.inj_on_of_nodup_map unique there also (keyed.trans same.symm)

theorem AtMostOne.short {condition : ρ → Prop} (few : rows.length ≤ 1) : AtMostOne rows condition := by
  intro first there second also _ _
  match rows, few with
  | [], _ => exact absurd there List.not_mem_nil
  | [row], _ => rw [List.mem_singleton.mp there, List.mem_singleton.mp also]

theorem SameFor.find?_eq (same : SameFor owner who rows others) {condition : ρ → Prop} [DecidablePred condition]
    (own : ∀ row, condition row → owner row = who) (few : AtMostOne others condition) :
    rows.find? (fun row => condition row) = others.find? fun row => condition row := by
  cases found : rows.find? (fun row => condition row) with
  | none =>
      symm
      rw [List.find?_eq_none] at found ⊢
      intro row stored met
      have mine := own row (of_decide_eq_true met)
      exact found row ((same row mine).mpr stored) met
  | some row =>
      have met : condition row := of_decide_eq_true (List.find?_some (p := fun row => decide (condition row)) found)
      have stored := (same row (own row met)).mp (List.mem_of_find?_eq_some found)
      cases also : others.find? (fun row => condition row) with
      | none => exact absurd (decide_eq_true met) (List.find?_eq_none.mp also row stored)
      | some twin =>
          have alike : condition twin := of_decide_eq_true (List.find?_some (p := fun row => decide (condition row)) also)
          rw [few row stored twin (List.mem_of_find?_eq_some also) met alike]

/-- A row is looked up by its key and dropped when it is somebody else's. -/
theorem SameFor.find?_filter_eq [DecidableEq κ] [DecidableEq ω] (same : SameFor owner who rows others) {key : ρ → κ}
    (unique : (rows.map key).Nodup) (unique' : (others.map key).Nodup) (wanted : κ) :
    (rows.find? fun row => key row = wanted).filter (fun row => owner row = who) =
      (others.find? fun row => key row = wanted).filter fun row => owner row = who := by
  apply Option.ext
  intro row
  simp only [Option.filter_eq_some_iff, decide_eq_true_eq, find?_key_eq_some unique, find?_key_eq_some unique']
  constructor
  · rintro ⟨⟨stored, keyed⟩, own⟩
    exact ⟨⟨(same row own).mp stored, keyed⟩, own⟩
  · rintro ⟨⟨stored, keyed⟩, own⟩
    exact ⟨⟨(same row own).mpr stored, keyed⟩, own⟩

theorem SameFor.filter_perm (same : SameFor owner who rows others) {condition : ρ → Prop} [DecidablePred condition]
    (own : ∀ row, condition row → owner row = who) (once : rows.Nodup) (once' : others.Nodup) :
    (rows.filter fun row => condition row).Perm (others.filter fun row => condition row) := by
  rw [List.perm_ext_iff_of_nodup (once.filter _) (once'.filter _)]
  intro row
  simp only [List.mem_filter, decide_eq_true_eq]
  constructor
  · rintro ⟨stored, met⟩
    exact ⟨(same row (own row met)).mp stored, met⟩
  · rintro ⟨stored, met⟩
    exact ⟨(same row (own row met)).mpr stored, met⟩

theorem SameFor.exists_iff (same : SameFor owner who rows others) {condition : ρ → Prop}
    (own : ∀ row, condition row → owner row = who) : (∃ row ∈ rows, condition row) ↔ ∃ row ∈ others, condition row := by
  constructor
  · rintro ⟨row, stored, met⟩
    exact ⟨row, (same row (own row met)).mp stored, met⟩
  · rintro ⟨row, stored, met⟩
    exact ⟨row, (same row (own row met)).mpr stored, met⟩

theorem Unclaimed.of_same {key : ρ → κ} {wanted : κ} (free : Unclaimed key owner who wanted rows)
    (same : ∀ foreign, foreign ≠ who → SameFor owner foreign rows others) : Unclaimed key owner who wanted others := by
  intro row stored named
  by_contra foreign
  exact foreign (free row ((same _ foreign row rfl).mpr stored) named)

/-- A key that is not another owner's is taken in both tables or in none. -/
theorem SameFor.taken_iff (same : SameFor owner who rows others) {key : ρ → κ} {wanted : κ}
    (free : Unclaimed key owner who wanted rows) (free' : Unclaimed key owner who wanted others) :
    wanted ∈ rows.map key ↔ wanted ∈ others.map key := by
  simp only [List.mem_map]
  constructor
  · rintro ⟨row, stored, named⟩
    exact ⟨row, (same row (free row stored named)).mp stored, named⟩
  · rintro ⟨row, stored, named⟩
    exact ⟨row, (same row (free' row stored named)).mpr stored, named⟩

theorem SameFor.cons (same : SameFor owner who rows others) (row : ρ) : SameFor owner who (row :: rows) (row :: others) := by
  intro known own
  rw [List.mem_cons, List.mem_cons, same known own]

theorem SameFor.cons_other {row : ρ} (foreign : owner row ≠ who) : SameFor owner who rows (row :: rows) := by
  intro known own
  have different : known ≠ row := fun same => foreign (same ▸ own)
  rw [List.mem_cons]
  exact ⟨.inr, fun listed => listed.resolve_left different⟩

end

/-! ## Rows under a key -/

section

variable [DecidableEq κ] {key : ρ → κ} {row : ρ} {rows others : List ρ}

@[simp] theorem mem_upsert {known : ρ} : known ∈ upsert key row rows ↔ known = row ∨ known ∈ rows ∧ key known ≠ key row := by
  unfold upsert
  split
  · rename_i taken
    obtain ⟨old, stored, keyed⟩ := List.mem_map.mp taken
    simp only [List.mem_map]
    constructor
    · rintro ⟨before, there, rfl⟩
      split
      · exact .inl rfl
      · rename_i other
        exact .inr ⟨there, other⟩
    · rintro (rfl | ⟨there, other⟩)
      · exact ⟨old, stored, if_pos keyed⟩
      · exact ⟨known, there, if_neg other⟩
  · rename_i free
    rw [List.mem_cons]
    constructor
    · rintro (same | there)
      · exact .inl same
      · exact .inr ⟨there, fun keyed => free (keyed ▸ List.mem_map_of_mem there)⟩
    · rintro (same | ⟨there, -⟩)
      · exact .inl same
      · exact .inr there

theorem upsert_nodup (unique : (rows.map key).Nodup) : ((upsert key row rows).map key).Nodup := by
  unfold upsert
  split
  · have kept : key ∘ (fun known => if key known = key row then row else known) = key := by
      funext known
      by_cases keyed : key known = key row
      · simp [keyed]
      · simp [keyed]
    rw [List.map_map, kept]
    exact unique
  · rename_i free
    exact List.nodup_cons.mpr ⟨free, unique⟩

variable {owner : ρ → ω} {who : ω}

theorem SameFor.upsert (same : SameFor owner who rows others) (row : ρ) :
    SameFor owner who (upsert key row rows) (upsert key row others) := by
  intro known own
  rw [mem_upsert, mem_upsert, same known own]

theorem SameFor.upsert_other {foreign : ω} (own : owner row = who) (free : Unclaimed key owner who (key row) rows)
    (other : foreign ≠ who) : SameFor owner foreign rows (Library.upsert key row rows) := by
  intro known theirs
  have different : known ≠ row := fun same => other (theirs.symm.trans ((congrArg owner same).trans own))
  rw [mem_upsert]
  constructor
  · intro stored
    exact .inr ⟨stored, fun keyed => other (theirs.symm.trans (free known stored keyed))⟩
  · rintro (equal | ⟨stored, -⟩)
    · exact absurd equal different
    · exact stored

/-- At most one row stays at most one where the new row meets the condition only if the row it replaces did. -/
theorem AtMostOne.upsert {condition : ρ → Prop} (few : AtMostOne rows condition)
    (replaces : condition row → ∀ known ∈ rows, condition known → key known = key row) :
    AtMostOne (Library.upsert key row rows) condition := by
  intro first there second also met alike
  rw [mem_upsert] at there also
  rcases there with rfl | ⟨there, other⟩
  · rcases also with rfl | ⟨also, other⟩
    · rfl
    · exact absurd (replaces met second also alike) other
  · rcases also with rfl | ⟨also, other'⟩
    · exact absurd (replaces alike first there met) other
    · exact few first there second also met alike

end

/-! ## Rows in order -/

theorem perm_eq_or_many {rows others : List ρ} (same : rows.Perm others) :
    rows = others ∨ (∃ first second rest, rows = first :: second :: rest) ∧
      ∃ first second rest, others = first :: second :: rest := by
  match rows, others, same with
  | [], others, same => exact .inl (List.nil_perm.mp same).symm
  | [row], others, same => exact .inl (List.singleton_perm.mp same)
  | first :: second :: rest, others, same =>
      match others, same.length_eq with
      | _ :: _ :: _, _ => exact .inr ⟨⟨_, _, _, rfl⟩, _, _, _, rfl⟩

section

variable {r : ρ → ρ → Prop} [DecidableRel r] [Std.Total r] [IsTrans ρ r]

theorem insertionSort_eq_of_perm {rows others : List ρ} (same : rows.Perm others)
    (strict : ∀ first ∈ rows, ∀ second ∈ rows, r first second → r second first → first = second) :
    rows.insertionSort r = others.insertionSort r := by
  have listed : (rows.insertionSort r).Perm (others.insertionSort r) :=
    ((List.perm_insertionSort r rows).trans same).trans (List.perm_insertionSort r others).symm
  refine listed.eq_of_pairwise ?_ (List.pairwise_insertionSort r rows) (List.pairwise_insertionSort r others)
  intro first second there also below above
  have stored := (List.mem_insertionSort r).mp there
  have known := same.mem_iff.mpr ((List.mem_insertionSort r).mp also)
  exact strict first stored second known below above

end

end Library
