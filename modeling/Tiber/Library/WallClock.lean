import Tiber.Library.Zone
import Mathlib.Data.List.Induction

/-! Reading a wall clock back to an instant.

A wall clock that a zone repeats is read as its first occurrence, one that the zone skips with the
offset from before. The clock has shown the time by then; and where the transitions keep clear of
each other, it has not shown it, or a later one, any earlier.
-/

set_option autoImplicit false

namespace Library

namespace Zone

/-! ## The last transition -/

def finalOffset : Int → List (Int × Int) → Int
  | initial, [] => initial
  | _, (_, offset) :: rest => finalOffset offset rest

/-- The walls a transition repeats or skips: where they begin, and where they are over. -/
def disturbances : Int → List (Int × Int) → List (Int × Int)
  | _, [] => []
  | previous, (t, offset) :: rest =>
      (t + min previous offset, t + max previous offset) :: disturbances offset rest

/-- Each transition is over, on the clock, before the next one begins. -/
def Spaced (zone : Zone) : Prop :=
  (disturbances zone.initial zone.transitions).Pairwise fun earlier later => earlier.2 ≤ later.1

@[simp] theorem finalOffset_append (initial : Int) (transitions : List (Int × Int)) (last : Int × Int) :
    finalOffset initial (transitions ++ [last]) = last.2 := by
  induction transitions generalizing initial with
  | nil => rfl
  | cons first rest ih => exact ih first.2

theorem valueAt_append (initial : Int) (entries : List (Int × Int)) (last : Int × Int) (point : Int) :
    valueAt initial (entries ++ [last]) point = if last.1 ≤ point then last.2 else valueAt initial entries point := by
  simp [valueAt, List.foldl_append]

theorem boundaries_append (initial : Int) (transitions : List (Int × Int)) (last : Int × Int) :
    boundaries false initial (transitions ++ [last]) =
      boundaries false initial transitions ++ [(last.1 + max (finalOffset initial transitions) last.2, last.2)] := by
  induction transitions generalizing initial with
  | nil => rfl
  | cons first rest ih => exact congrArg (_ :: ·) (ih first.2)

theorem disturbances_append (initial : Int) (transitions : List (Int × Int)) (last : Int × Int) :
    disturbances initial (transitions ++ [last]) = disturbances initial transitions ++
      [(last.1 + min (finalOffset initial transitions) last.2,
        last.1 + max (finalOffset initial transitions) last.2)] := by
  induction transitions generalizing initial with
  | nil => rfl
  | cons first rest ih => exact congrArg (_ :: ·) (ih first.2)

theorem valueAt_past {initial : Int} {transitions : List (Int × Int)} {point : Int}
    (past : ∀ entry ∈ transitions, entry.1 ≤ point) :
    valueAt initial transitions point = finalOffset initial transitions := by
  induction transitions using List.reverseRecOn with
  | nil => rfl
  | append_singleton rest last _ =>
      rw [valueAt_append, if_pos (past last (by simp)), finalOffset_append]

theorem valueAt_boundaries_past {initial : Int} {transitions : List (Int × Int)} {wall : Int}
    (past : ∀ disturbance ∈ disturbances initial transitions, disturbance.2 ≤ wall) :
    valueAt initial (boundaries false initial transitions) wall = finalOffset initial transitions := by
  induction transitions using List.reverseRecOn with
  | nil => rfl
  | append_singleton rest last _ =>
      rw [disturbances_append] at past
      have behind := past _ (List.mem_append_right _ (.head _))
      rw [boundaries_append, valueAt_append, if_pos behind, finalOffset_append]

/-! ## Shown by then -/

/-- Up to the reading of a wall clock the zone has shown that time, or a later one. -/
theorem shown_by_reading (initial : Int) {transitions : List (Int × Int)}
    (ascending : transitions.Pairwise fun earlier later => earlier.1 < later.1) (wall : Int) :
    ∃ s ≤ wall - valueAt initial (boundaries false initial transitions) wall,
      wall ≤ s + valueAt initial transitions s := by
  -- induction on the transitions from the last one back
  induction transitions using List.reverseRecOn with
  | nil => exact ⟨wall - initial, Int.le_refl _, by simp [valueAt]⟩
  | append_singleton rest last ih =>
      obtain ⟨ascending, -, later⟩ := List.pairwise_append.mp ascending
      have later (entry : Int × Int) (listed : entry ∈ rest) : entry.1 < last.1 := later entry listed last (.head _)
      rw [boundaries_append, valueAt_append]
      simp only [valueAt_append]
      split
      · -- past the last boundary, so past the last transition
        rename_i behind
        refine ⟨wall - last.2, Int.le_refl _, ?_⟩
        rw [if_pos (by omega)]
        omega
      · rename_i early
        obtain ⟨s, early_enough, shown⟩ := ih ascending
        by_cases before : s < last.1
        · exact ⟨s, early_enough, by rwa [if_neg (by omega)]⟩
        · -- the clock of the offset before would show the time after the transition
          rw [valueAt_past fun entry listed => by have := later entry listed; omega] at shown
          by_cases back : last.2 < finalOffset initial rest
          · refine ⟨last.1 - 1, by omega, ?_⟩
            rw [if_neg (by omega), valueAt_past fun entry listed => by have := later entry listed; omega]
            omega
          · refine ⟨s, early_enough, ?_⟩
            rw [if_pos (by omega)]
            omega

/-! ## Not shown before -/

theorem below_transition {initial : Int} {transitions : List (Int × Int)} {t s : Int}
    (spaced : (disturbances initial transitions).Pairwise fun earlier later => earlier.2 ≤ later.1)
    (clear : ∀ disturbance ∈ disturbances initial transitions,
      disturbance.2 ≤ t + finalOffset initial transitions) (before : s < t) :
    s + valueAt initial transitions s < t + finalOffset initial transitions := by
  induction transitions using List.reverseRecOn generalizing t with
  | nil => simpa [valueAt, finalOffset] using before
  | append_singleton rest last ih =>
      rw [disturbances_append] at spaced clear
      obtain ⟨spaced, -, across⟩ := List.pairwise_append.mp spaced
      have behind := clear _ (List.mem_append_right _ (.head _))
      rw [finalOffset_append] at behind ⊢
      rw [valueAt_append]
      dsimp only at behind
      split
      · omega
      · have here := ih spaced (t := last.1) (fun disturbance listed => by
          have begins := across disturbance listed _ (.head _)
          dsimp only at begins
          omega) (by omega)
        omega

/-- Where the transitions keep clear of each other, a wall clock that is still ahead is read as an instant
that is still ahead only if it was ahead all along. -/
theorem not_shown_before {initial : Int} {transitions : List (Int × Int)} {wall t s : Int}
    (ascending : transitions.Pairwise fun earlier later => earlier.1 < later.1)
    (spaced : (disturbances initial transitions).Pairwise fun earlier later => earlier.2 ≤ later.1)
    (ahead : t + valueAt initial transitions t < wall)
    (early : t < wall - valueAt initial (boundaries false initial transitions) wall) (earlier : s ≤ t) :
    s + valueAt initial transitions s < wall := by
  induction transitions using List.reverseRecOn with
  | nil =>
      simp only [valueAt, List.foldl_nil] at ahead ⊢
      omega
  | append_singleton rest last ih =>
      obtain ⟨ascending, -, later⟩ := List.pairwise_append.mp ascending
      rw [disturbances_append] at spaced
      obtain ⟨spaced, -, across⟩ := List.pairwise_append.mp spaced
      have begins (disturbance : Int × Int) (listed : disturbance ∈ disturbances initial rest) :
          disturbance.2 ≤ last.1 + min (finalOffset initial rest) last.2 :=
        across disturbance listed _ (.head _)
      rw [boundaries_append, valueAt_append] at early
      rw [valueAt_append] at ahead ⊢
      split at early
      · rename_i behind
        dsimp only at behind
        split
        · omega
        · have below := below_transition spaced (t := last.1) (s := s)
            (fun disturbance listed => by have := begins disturbance listed; omega) (by omega)
          omega
      · rename_i under
        dsimp only at under
        split at ahead
        · -- after a fold the wall clock would be read with the offset from before it
          rw [valueAt_boundaries_past fun disturbance listed => by
            have := begins disturbance listed; omega] at early
          omega
        · rw [if_neg (by omega)]
          exact ih ascending spaced ahead early

/-- A wall clock that a zone has not reached yet, and never passed, is read as an instant to come. -/
theorem lt_instantOf {zone : Zone} {wall : Wall} {t : Instant} (unread : ∀ s ≤ t, zone.wall s < wall) :
    t < zone.instantOf wall false := by
  obtain ⟨s, early, shown⟩ := shown_by_reading zone.initial zone.ascending wall
  by_contra late
  exact absurd shown (Int.not_le.mpr (unread s (Int.le_trans early (Int.not_lt.mp late))))

/-- With spaced transitions the converse holds as well. -/
theorem lt_instantOf_iff {zone : Zone} (spaced : zone.Spaced) {wall : Wall} {t : Instant}
    (ahead : zone.wall t < wall) : t < zone.instantOf wall false ↔ ∀ s ≤ t, zone.wall s < wall := by
  constructor
  · intro early s earlier
    exact not_shown_before zone.ascending spaced ahead early earlier
  · exact lt_instantOf

end Zone

end Library
