import Tiber.Library.JsonText

/-! When two JSON values are the same, by their shape: options, lists of records, records with the same
names, and objects as finite maps.
-/

set_option autoImplicit false

namespace Library

namespace JsonTree

/-- A decoded object: no member twice, at any depth. -/
structure Dict where
  members : List (Text × JsonTree)
  unique : (JsonTree.object members).UniqueKeys

def nullable {α : Type} (tree : α → JsonTree) : Option α → JsonTree
  | none => .null
  | some value => tree value

section Shapes

variable {α : Type} {tree : α → JsonTree} {like : α → α → Prop}

theorem same_nullable (solid : ∀ value, tree value ≠ .null)
    (alike : ∀ first second, Same (tree first) (tree second) ↔ like first second) (first second : Option α) :
    Same (nullable tree first) (nullable tree second) ↔ Option.Rel like first second := by
  have left (value : α) : ¬ Same .null (tree value) := by
    have solid := solid value
    cases found : tree value with
    | null => exact absurd found solid
    | _ => exact id
  have right (value : α) : ¬ Same (tree value) .null := by
    have solid := solid value
    cases found : tree value with
    | null => exact absurd found solid
    | _ => exact id
  cases first with
  | none =>
      cases second with
      | none => exact iff_of_true trivial .none
      | some value => exact iff_of_false (left value) nofun
  | some value =>
      cases second with
      | none => exact iff_of_false (right value) nofun
      | some other => exact (alike value other).trans Option.rel_some_some.symm

theorem rel_eq {first second : Option α} : Option.Rel (· = ·) first second ↔ first = second := by
  cases first <;> cases second <;> simp [Option.not_rel_some_none, Option.not_rel_none_some]

theorem same_nullable_eq (solid : ∀ value, tree value ≠ .null)
    (alike : ∀ first second, Same (tree first) (tree second) ↔ first = second) (first second : Option α) :
    Same (nullable tree first) (nullable tree second) ↔ first = second :=
  (same_nullable solid alike first second).trans rel_eq

theorem sameItems_map (alike : ∀ first second, Same (tree first) (tree second) ↔ first = second) (values others : List α) :
    SameItems (values.map tree) (others.map tree) ↔ values = others := by
  induction values generalizing others with
  | nil =>
      cases others with
      | nil => exact iff_of_true trivial rfl
      | cons other rest => exact iff_of_false id nofun
  | cons value rest ih =>
      cases others with
      | nil => exact iff_of_false id nofun
      | cons other others => rw [List.map_cons, List.map_cons, SameItems, alike, ih, List.cons.injEq]

end Shapes

theorem unique_nullable {α : Type} {tree : α → JsonTree} (every : ∀ value, (tree value).UniqueKeys) (given : Option α) :
    (nullable tree given).UniqueKeys := by
  cases given with
  | none => exact trivial
  | some value => exact every value

theorem unique_text (text : Option Text) : (nullable .string text).UniqueKeys := by
  cases text <;> exact trivial

theorem unique_array {α : Type} {tree : α → JsonTree} (every : ∀ value, (tree value).UniqueKeys) (values : List α) :
    (JsonTree.array (values.map tree)).UniqueKeys := by
  rw [UniqueKeys, uniqueItems_iff, List.forall_mem_map]
  exact fun value _ => every value

/-! ## Records -/

theorem sameMembers_cons {members others : List (Text × JsonTree)} {name : Text} {value : JsonTree}
    (fresh : name ∉ members.map Prod.fst) : SameMembers members ((name, value) :: others) ↔ SameMembers members others := by
  induction members with
  | nil => rfl
  | cons member rest ih =>
      obtain ⟨own, held⟩ := member
      rw [List.map_cons, List.mem_cons, not_or] at fresh
      rw [SameMembers, SameMembers, ih fresh.2, List.lookup_cons, beq_false_of_ne (Ne.symm fresh.1)]

theorem sameMembers_zip {names : List Text} {values others : List JsonTree} (size : names.length = values.length)
    (size' : names.length = others.length) (unique : names.Nodup) :
    SameMembers (names.zip values) (names.zip others) ↔ SameItems values others := by
  induction names generalizing values others with
  | nil =>
      rw [List.length_eq_zero_iff.mp size.symm, List.length_eq_zero_iff.mp size'.symm]
      rfl
  | cons name rest ih =>
      cases values with
      | nil => cases size
      | cons value values =>
          cases others with
          | nil => cases size'
          | cons other others =>
              rw [List.nodup_cons] at unique
              have fresh : name ∉ (rest.zip values).map Prod.fst := by
                rw [List.map_fst_zip (Nat.le_of_eq (Nat.succ.inj size))]
                exact unique.1
              simp only [List.zip_cons_cons, SameMembers, SameItems, List.lookup_cons_self, Option.some.injEq,
                exists_eq_left', sameMembers_cons fresh, ih (Nat.succ.inj size) (Nat.succ.inj size') unique.2]

def record (names : List String) (values : List JsonTree) : JsonTree := .object ((names.map String.toList).zip values)

section

variable {names : List String} {values others : List JsonTree}

theorem same_record (size : names.length = values.length) (size' : names.length = others.length)
    (unique : (names.map String.toList).Nodup) :
    Same (record names values) (record names others) ↔ SameItems values others := by
  have named : (names.map String.toList).length = names.length := List.length_map _
  rw [record, record, Same, sameMembers_zip (named.trans size) (named.trans size') unique]
  exact and_iff_right (by rw [List.length_zip, List.length_zip, ← size, ← size'])

theorem unique_record (size : names.length = values.length) (unique : (names.map String.toList).Nodup)
    (every : UniqueItems values) : (record names values).UniqueKeys := by
  have named : (names.map String.toList).length = names.length := List.length_map _
  refine ⟨?_, uniqueMembers_iff.mpr fun member listed => ?_⟩
  · rw [List.map_fst_zip (Nat.le_of_eq (named.trans size))]
    exact unique
  · exact uniqueItems_iff.mp every member.2 (List.of_mem_zip listed).2

end

/-! ## Objects as finite maps -/

theorem sameMembers_iff {members others : List (Text × JsonTree)} :
    SameMembers members others ↔
      ∀ name value, (name, value) ∈ members → ∃ other, others.lookup name = some other ∧ Same value other := by
  induction members with
  | nil => exact iff_of_true trivial nofun
  | cons member rest ih =>
      obtain ⟨own, held⟩ := member
      rw [SameMembers, ih]
      constructor
      · rintro ⟨here, later⟩ name value (_ | listed)
        · exact here
        · exact later name value ‹_›
      · intro all
        exact ⟨all own held (.head _), fun name value listed => all name value (.tail _ listed)⟩

theorem mem_names {members : List (Text × JsonTree)} {name : Text} :
    name ∈ members.map Prod.fst ↔ ∃ value, members.lookup name = some value := by
  rw [← Option.isSome_iff_exists, List.lookup_isSome_iff, List.mem_map]
  exact exists_congr fun member => and_congr_right fun _ => by rw [beq_iff_eq, eq_comm]

/-- Two objects are the same exactly when they hold the same under every name. -/
theorem same_object_iff {members others : List (Text × JsonTree)} (unique : (members.map Prod.fst).Nodup)
    (unique' : (others.map Prod.fst).Nodup) :
    Same (.object members) (.object others) ↔ ∀ name, Option.Rel Same (members.lookup name) (others.lookup name) := by
  rw [Same, sameMembers_iff]
  constructor
  · rintro ⟨size, held⟩ name
    cases found : members.lookup name with
    | some value =>
        obtain ⟨other, there, same⟩ := held name value (mem_of_lookup found)
        rw [there]
        exact .some same
    | none =>
        cases there : others.lookup name with
        | none => exact .none
        | some other =>
            -- as many names on both sides, so no name is only there
            have inside : members.map Prod.fst ⊆ others.map Prod.fst := by
              intro own listed
              obtain ⟨value, mine⟩ := mem_names.mp listed
              obtain ⟨other, theirs, -⟩ := held own value (mem_of_lookup mine)
              exact mem_names.mpr ⟨other, theirs⟩
            have all : (members.map Prod.fst).Perm (others.map Prod.fst) :=
              (List.subperm_of_subset unique inside).perm_of_length_le (by simp [size])
            obtain ⟨value, mine⟩ := mem_names.mp (all.mem_iff.mpr (mem_names.mpr ⟨other, there⟩))
            rw [found] at mine
            cases mine
  · intro alike
    constructor
    -- the same names are bound on both sides, so as many
    · have all : (members.map Prod.fst).Perm (others.map Prod.fst) := by
        rw [List.perm_ext_iff_of_nodup unique unique']
        intro name
        rw [mem_names, mem_names]
        have alike := alike name
        cases found : members.lookup name <;> cases there : others.lookup name <;> simp_all
      simpa using all.length_eq
    · intro name value listed
      have alike := alike name
      rw [lookup_of_mem unique listed] at alike
      cases there : others.lookup name with
      | none => rw [there] at alike; cases alike
      | some other =>
          rw [there] at alike
          exact ⟨other, rfl, Option.rel_some_some.mp alike⟩

section Table

variable {κ : Type} (name : κ → Text) (held : κ → Option JsonTree)

def entry (key : κ) : Option (Text × JsonTree) := (held key).map (name key, ·)

theorem lookup_table [DecidableEq κ] (distinct : Function.Injective name) (keys : List κ) {key : κ} (listed : key ∈ keys) :
    (keys.filterMap (entry name held)).lookup (name key) = held key := by
  -- stated for every list of keys, with nothing found where the key is not listed
  have general : ∀ keys : List κ, (keys.filterMap (entry name held)).lookup (name key) =
      if key ∈ keys then held key else none := by
    intro keys
    induction keys with
    | nil => rfl
    | cons first rest ih =>
        rw [List.filterMap_cons]
        by_cases same : key = first
        · subst same
          cases found : held key with
          | none => simp [entry, found, ih]
          | some value => simp [entry, found]
        · have apart : (name key == name first) = false := beq_false_of_ne fun equal => same (distinct equal)
          cases found : held first with
          | none => simp [entry, found, ih, same]
          | some value => simp [entry, found, ih, same, List.lookup_cons, apart]
  rw [general, if_pos listed]

theorem table_names (distinct : Function.Injective name) {keys : List κ} (once : keys.Nodup) :
    ((keys.filterMap (entry name held)).map Prod.fst).Nodup := by
  refine ((once.map distinct).sublist ?_)
  clear once
  induction keys with
  | nil => exact .slnil
  | cons first rest ih =>
      rw [List.filterMap_cons]
      cases found : held first with
      | none => simpa [entry, found] using ih.cons _
      | some value => simpa [entry, found] using ih

end Table

end JsonTree

end Library
