import Mathlib.Order.Preorder.Finite
import Mathlib.Logic.Function.Iterate
import Mathlib.Logic.Relation

/-! Iterations that pass from place to place.

Every state of an iteration is at a place or at none, and the place alone decides where the
next state is. With finitely many places to pass on to, every iteration gets out unless some
place leads round to itself.
-/

set_option autoImplicit false

namespace Library.Orbit

variable {σ α : Type}

def Leads (succ : α → Option α) (here there : α) : Prop := succ here = some there

def Acyclic (succ : α → Option α) : Prop := ∀ here, ¬ Relation.TransGen (Leads succ) here here

/-- `place` follows `succ` along `next`. -/
def Tracks (next : σ → σ) (place : σ → Option α) (succ : α → Option α) : Prop :=
  ∀ state here, place state = some here → place (next state) = succ here

variable {next : σ → σ} {place : σ → Option α} {succ : α → Option α}

theorem onward {here : α} (round : Relation.TransGen (Leads succ) here here) :
    ∃ there, succ here = some there ∧ Relation.TransGen (Leads succ) there there := by
  obtain ⟨there, first, rest⟩ := Relation.TransGen.head'_iff.mp round
  exact ⟨there, first, Relation.TransGen.tail' rest first⟩

theorem never_leaves (tracks : Tracks next place succ) {state : σ} {here : α} (stands : place state = some here)
    (round : Relation.TransGen (Leads succ) here here) (n : Nat) : place (next^[n] state) ≠ none := by
  induction n generalizing state here with
  | zero => simp [stands]
  | succ n ih =>
      obtain ⟨there, leads, again⟩ := onward round
      exact ih ((tracks state here stands).trans leads) again

/-- What lies between two states of an iteration that has not got out. -/
theorem leads_along (tracks : Tracks next place succ) {path : Nat → α} {state : σ}
    (along : ∀ n, place (next^[n] state) = some (path n)) {early late : Nat} (before : early < late) :
    Relation.TransGen (Leads succ) (path early) (path late) := by
  have edge (n : Nat) : Leads succ (path n) (path (n + 1)) := by
    have moved := tracks _ _ (along n)
    rw [← Function.iterate_succ_apply' next, along (n + 1)] at moved
    exact moved.symm
  induction late, before using Nat.le_induction with
  | base => exact .single (edge early)
  | succ late _ ih => exact .tail ih (edge late)

theorem Acyclic.leaves (acyclic : Acyclic succ) (tracks : Tracks next place succ)
    (few : {there | ∃ here, succ here = some there}.Finite) (state : σ) : ∃ n, place (next^[n] state) = none := by
  by_contra stays
  simp only [not_exists] at stays
  have somewhere (n : Nat) : ∃ here, place (next^[n] state) = some here := Option.ne_none_iff_exists'.mp (stays n)
  choose path along using somewhere
  -- from the second on, the places of the path are among the few
  have listed (n : Nat) : path (n + 1) ∈ {there | ∃ here, succ here = some there} := by
    refine ⟨path n, ?_⟩
    rw [← tracks _ _ (along n), ← Function.iterate_succ_apply' next, along (n + 1)]
  obtain ⟨early, late, before, same⟩ := few.exists_lt_map_eq_of_forall_mem listed
  have round := leads_along tracks along (Nat.succ_lt_succ before)
  rw [← same] at round
  exact acyclic _ round

/-- Every iteration gets out exactly when no place that can be passed on to leads round to itself. -/
theorem leaves_iff (tracks : Tracks next place succ) (few : {there | ∃ here, succ here = some there}.Finite)
    (visited : ∀ here there, succ here = some there → ∃ state, place state = some there) :
    (∀ state, ∃ n, place (next^[n] state) = none) ↔ Acyclic succ := by
  refine ⟨fun leaves here round => ?_, fun acyclic state => acyclic.leaves tracks few state⟩
  obtain ⟨before, -, last⟩ := Relation.TransGen.tail'_iff.mp round
  obtain ⟨state, stands⟩ := visited before here last
  obtain ⟨n, out⟩ := leaves state
  exact never_leaves tracks stands round n out

/-- A measure that falls from place to place rules out cycles. -/
theorem Acyclic.of_measure (measure : α → Int)
    (falls : ∀ here there, succ here = some there → measure there < measure here) : Acyclic succ := by
  intro here round
  have less {start finish : α} (path : Relation.TransGen (Leads succ) start finish) :
      measure finish < measure start := by
    induction path with
    | single edge => exact falls _ _ edge
    | tail _ edge ih => exact lt_trans (falls _ _ edge) ih
  exact lt_irrefl _ (less round)

end Library.Orbit
