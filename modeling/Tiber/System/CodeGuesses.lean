import Tiber.Application.AuthExpiry
import Tiber.Library.Machine

/-! Guesses at verification codes, while time passes.

The counter of incorrect guesses is a key of its own. The first guess gives it the rest of the
code's life, and a new code does not touch it: it may expire while that code still lives.
-/

set_option autoImplicit false

namespace Tiber

open Library

namespace CodeGuesses

/-- The guesses on record are those compared in vain with the current code. -/
structure State where
  now : Nat := 0
  keys : CodeKeys := {}
  guesses : Uuid → Nat := fun _ => 0

inductive Event where
  | pass (milliseconds : Nat)
  | issue (accountId : Uuid) (email code : Text)
  | guess (accountId : Uuid) (email code : Text)

namespace State

variable (state : State)

def issue (accountId : Uuid) (email code : Text) : State :=
  { state with
    keys := state.keys.issueCode accountId email code state.now
    guesses := Function.update state.guesses accountId 0 }

/-- The script answers zero to a guess that it has compared, and that was incorrect. -/
def guess (digest : CodeDigest) : State :=
  { state with
    keys := (state.keys.consumeCode digest state.now).1
    guesses := if (state.keys.consumeCode digest state.now).2 = 0
      then Function.update state.guesses digest.accountId (state.guesses digest.accountId + 1) else state.guesses }

end State

def step (state : State) : Event → Option State
  | .pass milliseconds => some { state with now := state.now + milliseconds }
  | .issue accountId email code => some (state.issue accountId email code)
  | .guess accountId email code => some (state.guess ⟨accountId, email, code⟩)

def CounterOutlives (state : State) : Event → Prop
  | .pass milliseconds => ∀ accountId, state.guesses accountId ≠ 0 →
      (state.keys.code accountId).get (state.now + milliseconds) ≠ none →
      (state.keys.attempts accountId).get (state.now + milliseconds) ≠ none
  | _ => True

/-! ## The counter covers the guesses -/

/-- While a code lives, its counter has counted every guess at it. -/
structure Counted (state : State) (accountId : Uuid) : Prop where
  bounded : state.guesses accountId ≤ emailVerificationMaxAttempts
  covered : (state.keys.code accountId).get state.now ≠ none →
    state.guesses accountId ≤ state.keys.attemptsAt accountId state.now

theorem consumeCode_cases (keys : CodeKeys) (digest : CodeDigest) (now : Nat) :
    ((keys.consumeCode digest now).2 ≠ 0 ∧
      ((keys.consumeCode digest now).1 = keys ∨ (keys.consumeCode digest now).1.code digest.accountId = none)) ∨
    ((keys.consumeCode digest now).2 = 0 ∧ (keys.code digest.accountId).get now ≠ none ∧
      keys.attemptsAt digest.accountId now < emailVerificationMaxAttempts ∧
      ((keys.consumeCode digest now).1.code digest.accountId = none ∨
        (keys.consumeCode digest now).1.attemptsAt digest.accountId now = keys.attemptsAt digest.accountId now + 1)) := by
  unfold CodeKeys.consumeCode
  cases stored : (keys.code digest.accountId).get now with
  | none => exact .inl ⟨nofun, .inl rfl⟩
  | some code =>
      dsimp only
      split_ifs with locked same last
      · exact .inl ⟨nofun, .inr (by rw [CodeKeys.setCode_code, if_pos rfl])⟩
      · exact .inl ⟨nofun, .inr (by rw [CodeKeys.setAttempts_code, CodeKeys.setCode_code, if_pos rfl])⟩
      · exact .inr ⟨rfl, nofun, Nat.not_le.mp locked, .inl (by rw [CodeKeys.setCode_code, if_pos rfl])⟩
      · refine .inr ⟨rfl, nofun, Nat.not_le.mp locked, .inr ?_⟩
        rw [CodeKeys.attemptsAt, CodeKeys.setAttempts_attempts, if_pos rfl, CodeKeys.countGuess_get, Option.getD_some]

theorem consumeCode_others (keys : CodeKeys) (digest : CodeDigest) (now : Nat) {other : Uuid}
    (foreign : other ≠ digest.accountId) :
    (keys.consumeCode digest now).1.code other = keys.code other ∧
      (keys.consumeCode digest now).1.attempts other = keys.attempts other := by
  unfold CodeKeys.consumeCode
  cases (keys.code digest.accountId).get now with
  | none => exact ⟨rfl, rfl⟩
  | some code =>
      dsimp only
      split_ifs <;> simp [foreign]

theorem guess_others (state : State) {digest : CodeDigest} {other : Uuid} (foreign : other ≠ digest.accountId) :
    (state.guess digest).guesses other = state.guesses other := by
  unfold State.guess
  dsimp only
  split
  · exact Function.update_of_ne foreign ..
  · rfl

theorem Counted.guess {state : State} {accountId : Uuid} (counted : Counted state accountId) (digest : CodeDigest) :
    Counted (state.guess digest) accountId := by
  obtain ⟨bounded, covered⟩ := counted
  by_cases own : accountId = digest.accountId
  · subst own
    rcases consumeCode_cases state.keys digest state.now with ⟨uncompared, kept | gone⟩ | ⟨compared, alive, few, rest⟩
    · have same : state.guess digest = state := by
        unfold State.guess
        rw [kept, if_neg uncompared]
      rw [same]
      exact ⟨bounded, covered⟩
    · have guesses : (state.guess digest).guesses = state.guesses := if_neg uncompared
      refine ⟨by rw [guesses]; exact bounded, fun lives => absurd ?_ lives⟩
      exact (congrArg (Slot.get · state.now) gone).trans rfl
    · have guesses : (state.guess digest).guesses digest.accountId = state.guesses digest.accountId + 1 := by
        simp [State.guess, compared]
      have covered := covered alive
      refine ⟨by omega, fun lives => ?_⟩
      rcases rest with gone | counted
      · exact absurd ((congrArg (Slot.get · state.now) gone).trans rfl) lives
      · rw [guesses]
        exact Nat.le_trans (Nat.succ_le_succ covered) (Nat.le_of_eq counted.symm)
  · obtain ⟨code, attempts⟩ := consumeCode_others state.keys digest state.now own
    have guesses := guess_others state own
    refine ⟨by rw [guesses]; exact bounded, fun lives => ?_⟩
    rw [guesses]
    have lives : (state.keys.code accountId).get state.now ≠ none := code ▸ lives
    exact Nat.le_trans (covered lives)
      (Nat.le_of_eq (congrArg (fun slot => (Slot.get slot state.now).getD 0) attempts.symm))

theorem Counted.issue {state : State} {accountId : Uuid} (counted : Counted state accountId) (other : Uuid)
    (email code : Text) : Counted (state.issue other email code) accountId := by
  obtain ⟨bounded, covered⟩ := counted
  unfold State.issue
  by_cases own : accountId = other
  · subst own
    constructor <;> simp
  · constructor
    · simpa [Function.update_of_ne own] using bounded
    · simp only [Function.update_of_ne own, CodeKeys.issueCode, CodeKeys.setCode_code, if_neg own]
      exact covered

theorem step_keeps_counted (accountId : Uuid) :
    Machine.Keeps step CounterOutlives (Counted · accountId) := by
  intro state event next counted outlives taken
  cases event with
  | pass milliseconds =>
      cases taken
      refine ⟨counted.bounded, fun lives => ?_⟩
      by_cases untried : state.guesses accountId = 0
      · exact untried ▸ Nat.zero_le _
      · obtain ⟨count, held⟩ := Option.ne_none_iff_exists'.mp (outlives accountId untried lives)
        obtain ⟨stored, lived⟩ := Option.ne_none_iff_exists'.mp lives
        have earlier := Slot.get_earlier (Nat.le_add_right state.now milliseconds) lived
        have covered := counted.covered (by rw [earlier]; nofun)
        -- the counter still reads what it read
        rw [CodeKeys.attemptsAt, Slot.get_earlier (Nat.le_add_right ..) held] at covered
        exact Nat.le_trans covered (Nat.le_of_eq (by rw [CodeKeys.attemptsAt, held]))
  | issue other email code => cases taken; exact counted.issue other email code
  | guess other email code => cases taken; exact counted.guess _

theorem start_counted (accountId : Uuid) : Counted {} accountId := ⟨Nat.zero_le _, fun _ => Nat.zero_le _⟩

/-- As long as no counter expires before its code, at most five incorrect guesses are compared with one. -/
theorem guesses_bounded {events : List Event} {state : State} (along : Machine.Along step CounterOutlives {} events)
    (reached : Machine.run step {} events = some state) (accountId : Uuid) :
    state.guesses accountId ≤ emailVerificationMaxAttempts :=
  ((step_keeps_counted accountId).run (start_counted accountId) along reached).bounded

/-- A guess, a new code eight minutes later, three guesses, and five more once the counter has expired: the
new code still lives. -/
theorem guesses_unbounded :
    ∃ state, Machine.run step {} ([.issue 1 [] ['1'], .guess 1 [] ['0'], .pass 500000, .issue 1 [] ['2']] ++
        List.replicate 3 (.guess 1 [] ['0']) ++ [.pass 101000] ++ List.replicate 5 (.guess 1 [] ['0'])) = some state ∧
      state.guesses 1 = 8 ∧ emailVerificationMaxAttempts < state.guesses 1 :=
  ⟨_, rfl, by decide, by decide⟩

theorem guesses_in_time :
    ∃ state, Machine.run step {} [.issue 1 [] ['1'], .guess 1 [] ['0'], .guess 1 [] ['2'], .pass 60000,
        .guess 1 [] ['3']] = some state ∧ state.guesses 1 = 3 ∧ state.guesses 1 ≤ emailVerificationMaxAttempts := by
  refine ⟨_, rfl, by decide, ?_⟩
  apply @guesses_bounded [.issue 1 [] ['1'], .guess 1 [] ['0'], .guess 1 [] ['2'], .pass 60000,
    .guess 1 [] ['3']] _ ?_ rfl 1
  refine ⟨trivial, fun _ taken => ?_⟩
  cases taken
  refine ⟨trivial, fun _ taken => ?_⟩
  cases taken
  refine ⟨trivial, fun _ taken => ?_⟩
  cases taken
  refine ⟨?_, fun _ taken => ⟨trivial, fun _ _ => trivial⟩⟩
  intro accountId tried lives
  by_cases own : accountId = 1
  · subst own
    decide
  · refine absurd ?_ tried
    rw [guess_others _ own, guess_others _ own]
    exact Function.update_of_ne own ..

end CodeGuesses

end Tiber
