import Tiber.Application.AuthTokens
import Tiber.Library.Machine

/-! Password-reset tokens, issued by four commands each and consumed by a script.

Issuing calls overlap in any way, a call may stop after any command, and keys expire at any time.
What the calls drew and what was consumed is kept on record besides.
-/

set_option autoImplicit false

namespace Tiber

open Library

namespace ResetTokens

/-- The next command of `issue_one_time_token`. -/
inductive Phase where
  | readPointer
  | dropPrevious (previous : Nat)
  | writePointer
  | writeToken
  deriving DecidableEq

structure Call where
  accountId : Uuid
  phase : Phase
  deriving DecidableEq

structure State where
  redis : AuthRedis := {}
  calls : Nat → Option Call := fun _ => none
  issued : Nat → Option Uuid := fun _ => none
  consumed : List (Nat × Uuid) := []

inductive Event where
  | issue (accountId : Uuid) (token : Nat)
  | advance (token : Nat)
  | stop (token : Nat)
  | consume (token : Nat)
  | expire (key : AuthRedis.Key)

namespace State

variable (state : State)

def setCall (token : Nat) (call : Option Call) : State :=
  { state with calls := Function.update state.calls token call }

def command (token : Nat) (call : Call) : State :=
  match call.phase with
  | .readPointer =>
      match state.redis.resetPointer call.accountId with
      | some previous => state.setCall token (some { call with phase := .dropPrevious previous })
      | none => state.setCall token (some { call with phase := .writePointer })
  | .dropPrevious previous =>
      { state.setCall token (some { call with phase := .writePointer }) with
        redis := state.redis.setResetToken previous none }
  | .writePointer =>
      { state.setCall token (some { call with phase := .writeToken }) with
        redis := state.redis.setResetPointer call.accountId (some token) }
  | .writeToken =>
      { state.setCall token none with redis := state.redis.setResetToken token (some call.accountId) }

/-- `consume_one_time_token`, put on record where it succeeds. -/
def consume (token : Nat) : State :=
  match state.redis.consumeResetToken token with
  | (redis, some accountId) => { state with redis, consumed := (token, accountId) :: state.consumed }
  | (redis, none) => { state with redis }

end State

def step (state : State) : Event → Option State
  | .issue accountId token =>
      if state.issued token = none then
        some { state.setCall token (some ⟨accountId, .readPointer⟩) with
          issued := Function.update state.issued token (some accountId) }
      else none
  | .advance token => (state.calls token).map (state.command token)
  | .stop token => some (state.setCall token none)
  | .consume token => some (state.consume token)
  | .expire key => some { state with redis := state.redis.expire key }

def Accepts (state : State) (token : Nat) (accountId : Uuid) : Prop :=
  (state.redis.consumeResetToken token).2 = some accountId

/-- The event is the write of the pointer by a call for the account, other than the one that drew `token`. -/
def WritesAnew (accountId : Uuid) (token : Nat) (state : State) : Event → Prop
  | .advance other => other ≠ token ∧ state.calls other = some ⟨accountId, .writePointer⟩
  | _ => False

/-! ## What is stored, and by whom -/

/-- A stored token is of the account it was drawn for, and its call is over; one consumed is gone for good. -/
structure Sound (state : State) : Prop where
  calls : ∀ token call, state.calls token = some call → state.issued token = some call.accountId
  stored : ∀ token accountId, state.redis.resetToken token = some accountId →
    state.issued token = some accountId ∧ state.calls token = none
  consumed : ∀ token accountId, (token, accountId) ∈ state.consumed →
    state.issued token = some accountId ∧ state.calls token = none ∧ state.redis.resetToken token = none
  once : (state.consumed.map (·.1)).Nodup

theorem accepts_iff {state : State} {token : Nat} {accountId : Uuid} :
    Accepts state token accountId ↔
      state.redis.resetToken token = some accountId ∧ state.redis.resetPointer accountId = some token := by
  unfold Accepts AuthRedis.consumeResetToken
  split
  · rename_i absent
    simp [absent]
  · rename_i owner present
    rw [present]
    split
    · rename_i current
      simp only [Option.some.injEq]
      exact ⟨fun same => ⟨same, same ▸ current⟩, And.left⟩
    · rename_i stale
      simp only [Option.some.injEq, reduceCtorEq, false_iff, not_and]
      rintro rfl
      exact stale

theorem consume_cases (state : State) (token : Nat) :
    state.consume token = state ∨ ∃ accountId, Accepts state token accountId ∧
      state.consume token = { state with
        redis := (state.redis.setResetToken token none).setResetPointer accountId none
        consumed := (token, accountId) :: state.consumed } := by
  simp only [accepts_iff]
  unfold State.consume AuthRedis.consumeResetToken
  cases present : state.redis.resetToken token with
  | none => exact .inl rfl
  | some accountId =>
      by_cases current : state.redis.resetPointer accountId = some token
      · simp only [current, if_true]
        exact .inr ⟨accountId, ⟨rfl, current⟩, rfl⟩
      · exact .inl (by simp only [current, if_false])

@[simp] theorem setResetToken_resetToken (redis : AuthRedis) (token other : Nat) (accountId : Option Uuid) :
    (redis.setResetToken token accountId).resetToken other =
      if other = token then accountId else redis.resetToken other :=
  Function.update_apply ..

@[simp] theorem setResetPointer_resetPointer (redis : AuthRedis) (accountId other : Uuid) (token : Option Nat) :
    (redis.setResetPointer accountId token).resetPointer other =
      if other = accountId then token else redis.resetPointer other :=
  Function.update_apply ..

@[simp] theorem setResetPointer_resetToken (redis : AuthRedis) (accountId : Uuid) (token : Option Nat) :
    (redis.setResetPointer accountId token).resetToken = redis.resetToken := rfl

theorem resetToken_of_removed {redis : AuthRedis} {token other : Nat} {accountId : Uuid}
    (present : (redis.setResetToken token none).resetToken other = some accountId) :
    redis.resetToken other = some accountId := by
  rw [setResetToken_resetToken] at present
  split at present
  · cases present
  · exact present

@[simp] theorem setCall_calls (state : State) (token other : Nat) (call : Option Call) :
    (state.setCall token call).calls other = if other = token then call else state.calls other :=
  Function.update_apply ..

theorem ne_of_over {state : State} {token other : Nat} {call : Call} (under_way : state.calls token = some call)
    (ended : state.calls other = none) : other ≠ token := by
  rintro rfl
  rw [under_way] at ended
  cases ended

/-! ## Every step keeps the records sound -/

namespace Sound

variable {state : State}

theorem lose (sound : Sound state) {redis : AuthRedis}
    (fewer : ∀ token accountId, redis.resetToken token = some accountId →
      state.redis.resetToken token = some accountId) : Sound { state with redis } where
  calls := sound.calls
  stored token accountId present := sound.stored token accountId (fewer token accountId present)
  consumed token accountId used := by
    obtain ⟨drawn, ended, absent⟩ := sound.consumed token accountId used
    refine ⟨drawn, ended, ?_⟩
    rw [Option.eq_none_iff_forall_not_mem] at absent ⊢
    exact fun other present => absent other (fewer token other present)
  once := sound.once

theorem move (sound : Sound state) {token : Nat} {call : Call} {onward : Option Call}
    (under_way : state.calls token = some call) (same : ∀ next ∈ onward, next.accountId = call.accountId) :
    Sound (state.setCall token onward) where
  calls other next moved := by
    rw [setCall_calls] at moved
    split at moved
    · rename_i here
      rw [here, same next moved]
      exact sound.calls token call under_way
    · exact sound.calls other next moved
  stored other accountId present := by
    obtain ⟨drawn, ended⟩ := sound.stored other accountId present
    have elsewhere := ne_of_over under_way ended
    exact ⟨drawn, by rw [setCall_calls, if_neg elsewhere, ended]⟩
  consumed other accountId used := by
    obtain ⟨drawn, ended, absent⟩ := sound.consumed other accountId used
    have elsewhere := ne_of_over under_way ended
    exact ⟨drawn, by rw [setCall_calls, if_neg elsewhere, ended], absent⟩
  once := sound.once

theorem leave (sound : Sound state) (token : Nat) : Sound (state.setCall token none) where
  calls other next moved := by
    rw [setCall_calls] at moved
    split at moved
    · cases moved
    · exact sound.calls other next moved
  stored other accountId present := by
    obtain ⟨drawn, ended⟩ := sound.stored other accountId present
    exact ⟨drawn, by rw [setCall_calls, ended, ite_self]⟩
  consumed other accountId used := by
    obtain ⟨drawn, ended, absent⟩ := sound.consumed other accountId used
    exact ⟨drawn, by rw [setCall_calls, ended, ite_self], absent⟩
  once := sound.once

theorem issue (sound : Sound state) {accountId : Uuid} {token : Nat} (fresh : state.issued token = none) :
    Sound { state.setCall token (some ⟨accountId, .readPointer⟩) with
      issued := Function.update state.issued token (some accountId) } where
  calls other next moved := by
    replace moved : (state.setCall token (some ⟨accountId, .readPointer⟩)).calls other = some next := moved
    rw [setCall_calls] at moved
    simp only [Function.update_apply]
    split at moved
    · rename_i here
      rw [if_pos here, ← Option.some.inj moved]
    · rename_i elsewhere
      rw [if_neg elsewhere]
      exact sound.calls other next moved
  stored other owner present := by
    obtain ⟨drawn, ended⟩ := sound.stored other owner present
    have elsewhere : other ≠ token := fun here => by rw [here, fresh] at drawn; cases drawn
    exact ⟨by simp only [Function.update_apply, if_neg elsewhere, drawn],
      by rw [← ended]; exact Function.update_of_ne elsewhere ..⟩
  consumed other owner used := by
    obtain ⟨drawn, ended, absent⟩ := sound.consumed other owner used
    have elsewhere : other ≠ token := fun here => by rw [here, fresh] at drawn; cases drawn
    exact ⟨by simp only [Function.update_apply, if_neg elsewhere, drawn],
      by rw [← ended]; exact Function.update_of_ne elsewhere .., absent⟩
  once := sound.once

theorem store (sound : Sound state) {token : Nat} {call : Call} (under_way : state.calls token = some call) :
    Sound { state.setCall token none with
      redis := state.redis.setResetToken token (some call.accountId) } where
  calls := (sound.leave token).calls
  stored other accountId present := by
    rw [setResetToken_resetToken] at present
    split at present
    · rename_i here
      rw [← Option.some.inj present, here]
      exact ⟨sound.calls token call under_way, by simp⟩
    · exact (sound.leave token).stored other accountId present
  consumed other accountId used := by
    obtain ⟨drawn, ended, absent⟩ := sound.consumed other accountId used
    have elsewhere := ne_of_over under_way ended
    refine ⟨drawn, by rw [← ended]; exact Function.update_of_ne elsewhere .., ?_⟩
    rw [setResetToken_resetToken, if_neg elsewhere, absent]
  once := sound.once

theorem command (sound : Sound state) {token : Nat} {call : Call} (under_way : state.calls token = some call) :
    Sound (state.command token call) := by
  unfold State.command
  split
  · split <;> exact sound.move under_way (by simp)
  · rename_i previous _
    apply (sound.move under_way (by simp)).lose
    exact fun other accountId present => resetToken_of_removed present
  · exact (sound.move under_way (by simp)).lose fun _ _ present => present
  · exact sound.store under_way

theorem consume (sound : Sound state) (token : Nat) : Sound (state.consume token) := by
  rcases consume_cases state token with same | ⟨accountId, accepted, same⟩
  · rwa [same]
  · rw [same]
    obtain ⟨present, -⟩ := accepts_iff.mp accepted
    obtain ⟨drawn, ended⟩ := sound.stored token accountId present
    have lost : Sound { state with redis := (state.redis.setResetToken token none).setResetPointer accountId none } := by
      apply sound.lose
      intro other owner present
      rw [setResetPointer_resetToken] at present
      exact resetToken_of_removed present
    refine ⟨lost.calls, lost.stored, ?_, ?_⟩
    · intro other owner used
      rcases List.mem_cons.mp used with here | earlier
      · cases here
        exact ⟨drawn, ended, by rw [setResetPointer_resetToken, setResetToken_resetToken, if_pos rfl]⟩
      · exact lost.consumed other owner earlier
    · rw [List.map_cons, List.nodup_cons]
      refine ⟨?_, sound.once⟩
      -- a token on record is not stored any more
      intro recorded
      obtain ⟨⟨_, owner⟩, used, rfl⟩ := List.mem_map.mp recorded
      have absent := (sound.consumed _ owner used).2.2
      rw [absent] at present
      cases present

theorem expire (sound : Sound state) (key : AuthRedis.Key) :
    Sound { state with redis := state.redis.expire key } := by
  apply sound.lose
  intro token accountId present
  cases key with
  | resetToken expired => exact resetToken_of_removed present
  | code | attempts | resetPointer | refresh | blockedToken | blockedSession => exact present

end Sound

theorem step_keeps_sound : Machine.Keeps step (fun _ _ => True) Sound := by
  intro state event next sound _ taken
  cases event with
  | issue accountId token =>
      simp only [step] at taken
      split at taken
      · rename_i fresh
        cases taken
        exact sound.issue fresh
      · cases taken
  | advance token =>
      obtain ⟨call, under_way, same⟩ := Option.map_eq_some_iff.mp taken
      rw [← same]
      exact sound.command under_way
  | stop token => cases taken; exact sound.leave token
  | consume token => cases taken; exact sound.consume token
  | expire key => cases taken; exact sound.expire key

theorem start_sound : Sound {} := ⟨nofun, nofun, nofun, .nil⟩

theorem run_sound {events : List Event} {state : State} (reached : Machine.run step {} events = some state) :
    Sound state :=
  step_keeps_sound.run start_sound (Machine.along_true _ _) reached

/-! ## After a consumption -/

structure Cleared (accountId : Uuid) (token : Nat) (state : State) : Prop where
  drawn : state.issued token ≠ none
  ended : state.calls token = none
  pointer : state.redis.resetPointer accountId = none

theorem Cleared.rejects {accountId : Uuid} {token : Nat} {state : State} (cleared : Cleared accountId token state)
    (other : Nat) : ¬ Accepts state other accountId := by
  intro accepted
  obtain ⟨-, current⟩ := accepts_iff.mp accepted
  rw [cleared.pointer] at current
  cases current

theorem Cleared.command {accountId : Uuid} {token : Nat} {state : State} (cleared : Cleared accountId token state)
    {other : Nat} {call : Call} (under_way : state.calls other = some call)
    (quiet : ¬ WritesAnew accountId token state (.advance other)) : Cleared accountId token (state.command other call) := by
  have elsewhere := ne_of_over under_way cleared.ended
  have moved (onward : Option Call) : Cleared accountId token (state.setCall other onward) :=
    ⟨cleared.drawn, by rw [setCall_calls, if_neg elsewhere, cleared.ended], cleared.pointer⟩
  unfold State.command
  split
  · split <;> exact moved _
  · exact ⟨cleared.drawn, (moved _).ended, cleared.pointer⟩
  · rename_i phase
    have foreign : accountId ≠ call.accountId := by
      rintro rfl
      apply quiet
      exact ⟨elsewhere.symm, by rw [under_way, ← phase]⟩
    refine ⟨cleared.drawn, (moved _).ended, ?_⟩
    rw [setResetPointer_resetPointer, if_neg foreign, cleared.pointer]
  · exact ⟨cleared.drawn, (moved _).ended, cleared.pointer⟩

theorem step_keeps_cleared (accountId : Uuid) (token : Nat) :
    Machine.Keeps step (fun state event => ¬ WritesAnew accountId token state event) (Cleared accountId token) := by
  intro state event next cleared quiet taken
  cases event with
  | issue owner drawn =>
      simp only [step] at taken
      split at taken
      · rename_i fresh
        cases taken
        have elsewhere : token ≠ drawn := fun here => cleared.drawn (here ▸ fresh)
        refine ⟨?_, ?_, cleared.pointer⟩
        · simp only [Function.update_apply, if_neg elsewhere]
          exact cleared.drawn
        · rw [← cleared.ended]
          exact Function.update_of_ne elsewhere ..
      · cases taken
  | advance other =>
      obtain ⟨call, under_way, same⟩ := Option.map_eq_some_iff.mp taken
      rw [← same]
      exact cleared.command under_way quiet
  | stop other =>
      cases taken
      exact ⟨cleared.drawn, by rw [setCall_calls, cleared.ended, ite_self], cleared.pointer⟩
  | consume other =>
      cases taken
      rcases consume_cases state other with same | ⟨owner, -, same⟩
      · rwa [same]
      · rw [same]
        refine ⟨cleared.drawn, cleared.ended, ?_⟩
        rw [setResetPointer_resetPointer]
        split
        · rfl
        · exact cleared.pointer
  | expire key =>
      cases taken
      refine ⟨cleared.drawn, cleared.ended, ?_⟩
      cases key with
      | resetPointer owner =>
          rw [AuthRedis.expire, setResetPointer_resetPointer, cleared.pointer, ite_self]
      | code | attempts | resetToken | refresh | blockedToken | blockedSession => exact cleared.pointer

theorem consumed_cleared {state next : State} {token : Nat} {accountId : Uuid} (sound : Sound state)
    (accepted : Accepts state token accountId) (taken : step state (.consume token) = some next) :
    Cleared accountId token next := by
  obtain ⟨present, current⟩ := accepts_iff.mp accepted
  obtain ⟨drawn, ended⟩ := sound.stored token accountId present
  cases taken
  rcases consume_cases state token with same | ⟨owner, accepted', same⟩
  · -- the consumption would have taken the token
    have still := congrArg (fun state => state.redis) same
    simp only [State.consume, AuthRedis.consumeResetToken, present, current, if_true] at still
    have gone := congrArg (fun redis => redis.resetPointer accountId) still
    rw [setResetPointer_resetPointer, if_pos rfl, current] at gone
    cases gone
  · obtain rfl : accountId = owner := Option.some.inj (accepted.symm.trans accepted')
    rw [same]
    refine ⟨by rw [drawn]; simp, ended, ?_⟩
    rw [setResetPointer_resetPointer, if_pos rfl]

/-- In every run: a token is consumed at most once, and for the account it was drawn for; an account has
one token that would be accepted, at most; and after a consumption it has none until another call
writes its pointer. -/
theorem reset_tokens {events : List Event} {state : State} (reached : Machine.run step {} events = some state) :
    (state.consumed.map (·.1)).Nodup ∧
    (∀ token accountId, (token, accountId) ∈ state.consumed → state.issued token = some accountId) ∧
    (∀ accountId first second, Accepts state first accountId → Accepts state second accountId → first = second) ∧
    (∀ token accountId later final, Accepts state token accountId →
      Machine.run step state (.consume token :: later) = some final →
      Machine.Along step (fun state event => ¬ WritesAnew accountId token state event) state (.consume token :: later) →
      ∀ other, ¬ Accepts final other accountId) := by
  have sound := run_sound reached
  refine ⟨sound.once, ?_, ?_, ?_⟩
  · intro token accountId used
    exact (sound.consumed token accountId used).1
  · intro accountId first second one two
    exact Option.some.inj ((accepts_iff.mp one).2.symm.trans (accepts_iff.mp two).2)
  · intro token accountId later final accepted reached along
    obtain ⟨next, taken, onward⟩ := Machine.run_cons_eq_some.mp reached
    have cleared := consumed_cleared sound accepted taken
    exact ((step_keeps_cleared accountId token).run cleared (along.2 next taken) onward).rejects

/-- Two calls overlap: the second finds no pointer and overtakes the first, whose token is orphaned; the
second's is consumed. -/
theorem overlapping_calls :
    ∃ state, Machine.run step {} [.issue 1 10, .issue 1 20, .advance 10, .advance 20, .advance 10, .advance 20,
        .advance 20, .advance 10, .consume 10, .consume 20, .consume 20] = some state ∧
      state.consumed = [(20, 1)] ∧ (state.consumed.map (·.1)).Nodup := by
  refine ⟨_, rfl, rfl, ?_⟩
  exact (@reset_tokens [.issue 1 10, .issue 1 20, .advance 10, .advance 20, .advance 10, .advance 20,
    .advance 20, .advance 10, .consume 10, .consume 20, .consume 20] _ rfl).1

end ResetTokens

end Tiber
