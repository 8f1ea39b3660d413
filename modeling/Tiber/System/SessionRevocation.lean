import Tiber.Application.AuthExpiry
import Tiber.Library.Machine

/-! Sessions: login, refresh and revocation, interleaved in time.

A refresh takes its token, looks for the session's mark, reads the account and stores a new
token, one step each. The mark of a revoked session lives as long as a token stored at the same
moment, and no longer.
-/

set_option autoImplicit false

namespace Tiber

open Library

namespace SessionRevocation

inductive Phase where
  | checkSession
  | readAccount
  | storeToken
  deriving DecidableEq

/-- A refresh that has taken its token. It is late when the session had been revoked by then. -/
structure Call where
  grant : Grant
  phase : Phase
  late : Bool
  deriving DecidableEq

structure State where
  now : Nat := 0
  keys : SessionKeys := {}
  calls : Nat → Option Call := fun _ => none
  revoked : List Nat := []
  refreshed : List Call := []

inductive Event where
  | pass (milliseconds : Nat)
  | login (grant : Grant)
  | take (call serial : Nat)
  | check (call : Nat)
  | read (call : Nat) (valid : Bool)
  | store (call serial : Nat)
  | leave (call : Nat)
  | revoke (session : Nat)

namespace State

variable (state : State)

def setCall (id : Nat) (call : Option Call) : State :=
  { state with calls := Function.update state.calls id call }

def inPhase (phase : Phase) (id : Nat) : Option Call := (state.calls id).filter (·.phase = phase)

/-- `GETDEL` of the presented token. -/
def take (id serial : Nat) : State :=
  let taken := { state with keys := state.keys.setRefresh serial none }
  match (state.keys.refresh serial).get state.now with
  | none => taken
  | some grant => taken.setCall id (some ⟨grant, .checkSession, grant.session ∈ state.revoked⟩)

def store (days id serial : Nat) (call : Call) : State :=
  { state.setCall id none with
    keys := state.keys.storeRefresh { call.grant with serial } days state.now
    refreshed := call :: state.refreshed }

end State

/-- The account is found valid or not; a session's number is drawn anew at login. -/
def step (days : Nat) (state : State) : Event → Option State
  | .pass milliseconds => some { state with now := state.now + milliseconds }
  | .login grant =>
      if grant.session ∈ state.revoked then none
      else some { state with keys := state.keys.storeRefresh grant days state.now }
  | .take id serial => if state.calls id = none then some (state.take id serial) else none
  | .check id => (state.inPhase .checkSession id).map fun call =>
      if state.keys.isRevoked call.grant.session state.now then state.setCall id none
      else state.setCall id (some { call with phase := .readAccount })
  | .read id valid => (state.inPhase .readAccount id).map fun call =>
      state.setCall id (if valid then some { call with phase := .storeToken } else none)
  | .store id serial => (state.inPhase .storeToken id).map (state.store days id serial)
  | .leave id => some (state.setCall id none)
  | .revoke session => some { state with
      keys := state.keys.revokeSession session days state.now
      revoked := session :: state.revoked }

/-- No new token of a revoked session outlives the mark, and no mark expires between the two first
steps of a late refresh. -/
def MarkOutlives (days : Nat) (state : State) : Event → Prop
  | .pass milliseconds => ∀ id call, state.inPhase .checkSession id = some call → call.late = true →
      state.keys.isRevoked call.grant.session (state.now + milliseconds) = true
  | .store id _ => ∀ call, state.inPhase .storeToken id = some call → call.grant.session ∈ state.revoked →
      state.keys.isRevoked call.grant.session (state.now + 1000 * refreshSeconds days) = true
  | _ => True

/-! ## The mark covers the tokens -/

/-- While a token of a revoked session lives, so does the mark; no token outlives one stored now; and no late
refresh has come past the check. -/
structure Guarded (days : Nat) (state : State) : Prop where
  marked : ∀ serial grant t, (state.keys.refresh serial).get t = some grant → grant.session ∈ state.revoked →
    state.keys.isRevoked grant.session t = true
  bounded : ∀ serial grant t, (state.keys.refresh serial).get t = some grant →
    t ≤ state.now + 1000 * refreshSeconds days
  waiting : ∀ id call, state.calls id = some call → call.late = true →
    call.phase = .checkSession ∧ state.keys.isRevoked call.grant.session state.now = true
  early : ∀ call ∈ state.refreshed, call.late = false

@[simp] theorem setCall_calls (state : State) (id other : Nat) (call : Option Call) :
    (state.setCall id call).calls other = if other = id then call else state.calls other :=
  Function.update_apply ..

theorem isRevoked_earlier {keys : SessionKeys} {session now later : Nat} (order : now ≤ later)
    (marked : keys.isRevoked session later = true) : keys.isRevoked session now = true := by
  obtain ⟨mark, held⟩ := Option.isSome_iff_exists.mp marked
  exact Option.isSome_iff_exists.mpr ⟨mark, Slot.get_earlier order held⟩

theorem inPhase_eq_some {state : State} {phase : Phase} {id : Nat} {call : Call} :
    state.inPhase phase id = some call ↔ state.calls id = some call ∧ call.phase = phase := by
  simp [State.inPhase, Option.filter_eq_some_iff]

theorem refresh_of_removed {keys : SessionKeys} {serial other t : Nat} {grant : Grant}
    (held : ((keys.setRefresh serial none).refresh other).get t = some grant) :
    (keys.refresh other).get t = some grant := by
  rw [SessionKeys.setRefresh_refresh] at held
  split at held
  · cases held
  · exact held

theorem refresh_of_stored {keys : SessionKeys} {grant stored : Grant} {days now other t : Nat}
    (held : ((keys.storeRefresh grant days now).refresh other).get t = some stored) :
    grant = stored ∧ t ≤ now + 1000 * refreshSeconds days ∨ (keys.refresh other).get t = some stored := by
  rw [SessionKeys.storeRefresh, SessionKeys.setRefresh_refresh] at held
  split at held
  · rw [Slot.get_setFor] at held
    split at held
    · rename_i lives
      exact .inl ⟨Option.some.inj held, lives⟩
    · cases held
  · exact .inr held

namespace Guarded

variable {days : Nat} {state : State}

theorem past_check (guarded : Guarded days state) {id : Nat} {call : Call} (under_way : state.calls id = some call)
    (passed : call.phase ≠ .checkSession) : call.late = false := by
  rw [← Bool.not_eq_true]
  exact fun late => passed (guarded.waiting id call under_way late).1

theorem move (guarded : Guarded days state) (id : Nat) {onward : Option Call}
    (early : ∀ call ∈ onward, call.late = false) : Guarded days (state.setCall id onward) where
  marked := guarded.marked
  bounded := guarded.bounded
  waiting other call moved late := by
    rw [setCall_calls] at moved
    split at moved
    · rw [early call moved] at late
      cases late
    · exact guarded.waiting other call moved late
  early := guarded.early

theorem forget (guarded : Guarded days state) (serial : Nat) :
    Guarded days { state with keys := state.keys.setRefresh serial none } where
  marked other grant t held := guarded.marked other grant t (refresh_of_removed held)
  bounded other grant t held := guarded.bounded other grant t (refresh_of_removed held)
  waiting := guarded.waiting
  early := guarded.early

theorem remember (guarded : Guarded days state) (grant : Grant)
    (outlived : grant.session ∈ state.revoked →
      state.keys.isRevoked grant.session (state.now + 1000 * refreshSeconds days) = true) :
    Guarded days { state with keys := state.keys.storeRefresh grant days state.now } where
  marked other stored t held revoked := by
    rcases refresh_of_stored held with ⟨rfl, lives⟩ | earlier
    · exact isRevoked_earlier lives (outlived revoked)
    · exact guarded.marked other stored t earlier revoked
  bounded other stored t held := by
    rcases refresh_of_stored held with ⟨-, lives⟩ | earlier
    · exact lives
    · exact guarded.bounded other stored t earlier
  waiting := guarded.waiting
  early := guarded.early

theorem take (guarded : Guarded days state) (id serial : Nat) : Guarded days (state.take id serial) := by
  have forgotten := guarded.forget serial
  unfold State.take
  dsimp only
  split
  · exact forgotten
  · rename_i grant held
    refine ⟨forgotten.marked, forgotten.bounded, ?_, forgotten.early⟩
    intro other call moved late
    rw [setCall_calls] at moved
    split at moved
    · cases moved
      exact ⟨rfl, guarded.marked serial grant state.now held (of_decide_eq_true late)⟩
    · exact guarded.waiting other call moved late

theorem revoke (guarded : Guarded days state) (session : Nat) :
    Guarded days { state with
      keys := state.keys.revokeSession session days state.now
      revoked := session :: state.revoked } := by
  have mark (t : Nat) (other : Nat) (lives : t ≤ state.now + 1000 * refreshSeconds days)
      (marked : other ≠ session → state.keys.isRevoked other t = true) :
      (state.keys.revokeSession session days state.now).isRevoked other t = true := by
    unfold SessionKeys.isRevoked
    rw [SessionKeys.revokeSession_blockedSession]
    split
    · rw [Slot.get_setFor, if_pos lives]
      rfl
    · rename_i elsewhere
      exact marked elsewhere
  refine ⟨?_, guarded.bounded, ?_, guarded.early⟩
  · intro serial grant t held revoked
    apply mark t grant.session (guarded.bounded serial grant t held)
    intro elsewhere
    exact guarded.marked serial grant t held ((List.mem_cons.mp revoked).resolve_left elsewhere)
  · intro id call under_way late
    obtain ⟨phase, marked⟩ := guarded.waiting id call under_way late
    exact ⟨phase, mark state.now call.grant.session (Nat.le_add_right ..) fun _ => marked⟩

end Guarded

theorem step_keeps_guarded (days : Nat) :
    Machine.Keeps (step days) (MarkOutlives days) (Guarded days) := by
  intro state event next guarded outlives taken
  cases event with
  | pass milliseconds =>
      cases taken
      refine ⟨guarded.marked, ?_, ?_, guarded.early⟩
      · intro serial grant t held
        exact Nat.le_trans (guarded.bounded serial grant t held) (by dsimp only; omega)
      · intro id call under_way late
        obtain ⟨phase, -⟩ := guarded.waiting id call under_way late
        exact ⟨phase, outlives id call (inPhase_eq_some.mpr ⟨under_way, phase⟩) late⟩
  | login grant =>
      simp only [step] at taken
      split at taken
      · cases taken
      · rename_i fresh
        cases taken
        exact guarded.remember grant fun revoked => absurd revoked fresh
  | take id serial =>
      simp only [step] at taken
      split at taken
      · cases taken
        exact guarded.take id serial
      · cases taken
  | check id =>
      obtain ⟨call, checking, same⟩ := Option.map_eq_some_iff.mp taken
      obtain ⟨under_way, -⟩ := inPhase_eq_some.mp checking
      rw [← same]
      split
      · exact guarded.move id nofun
      · rename_i unmarked
        apply guarded.move id
        rintro _ ⟨⟩
        -- a late refresh finds the mark
        rw [← Bool.not_eq_true]
        exact fun late => unmarked (guarded.waiting id call under_way late).2
  | read id valid =>
      obtain ⟨call, reading, same⟩ := Option.map_eq_some_iff.mp taken
      obtain ⟨under_way, phase⟩ := inPhase_eq_some.mp reading
      have early := guarded.past_check under_way (by rw [phase]; decide)
      rw [← same]
      apply guarded.move id
      intro onward moved
      split at moved
      · cases moved
        exact early
      · cases moved
  | store id serial =>
      obtain ⟨call, storing, same⟩ := Option.map_eq_some_iff.mp taken
      obtain ⟨under_way, phase⟩ := inPhase_eq_some.mp storing
      have early := guarded.past_check under_way (by rw [phase]; decide)
      have remembered := guarded.remember { call.grant with serial } (outlives call storing)
      have stored := @remembered.move _ _ id none nofun
      rw [← same]
      exact ⟨stored.marked, stored.bounded, stored.waiting, List.forall_mem_cons.mpr ⟨early, stored.early⟩⟩
  | leave id => cases taken; exact guarded.move id nofun
  | revoke session => cases taken; exact guarded.revoke session

theorem start_guarded (days : Nat) : Guarded days {} := ⟨nofun, nofun, nofun, nofun⟩

/-- As long as marks outlive the tokens of their sessions and the waits for their checks, no refresh that
began after its session was revoked succeeds. -/
theorem revoked_never_refreshes {days : Nat} {events : List Event} {state : State}
    (along : Machine.Along (step days) (MarkOutlives days) {} events)
    (reached : Machine.run (step days) {} events = some state) :
    ∀ call ∈ state.refreshed, call.late = false :=
  ((step_keeps_guarded days).run (start_guarded days) along reached).early

/-- A refresh that is past its check when the session is revoked stores its token a moment later. When the
mark has expired that token is still good. And a late refresh may as well wait for the mark to expire
before it looks for it. -/
theorem revoked_session_refreshes :
    (∃ state, Machine.run (step 7) {} [.login ⟨5, 0, 1, 1⟩, .take 1 1, .check 1, .read 1 true, .revoke 1, .pass 1,
        .store 1 2, .pass (1000 * refreshSeconds 7), .take 2 2, .check 2, .read 2 true, .store 2 3] = some state ∧
      ∃ call ∈ state.refreshed, call.late = true) ∧
    (∃ state, Machine.run (step 7) {} [.login ⟨5, 0, 1, 1⟩, .revoke 1, .pass (1000 * refreshSeconds 7), .take 1 1, .pass 1,
        .check 1, .read 1 true, .store 1 2] = some state ∧
      ∃ call ∈ state.refreshed, call.late = true) :=
  ⟨⟨_, rfl, _, .head _, rfl⟩, ⟨_, rfl, _, .head _, rfl⟩⟩

theorem revoked_session_refused :
    ∃ state, Machine.run (step 7) {} [.login ⟨5, 0, 1, 1⟩, .take 1 1, .check 1, .read 1 true, .store 1 2, .revoke 1,
        .take 2 2, .check 2] = some state ∧
      state.refreshed.length = 1 ∧ state.calls 2 = none ∧ ∀ call ∈ state.refreshed, call.late = false := by
  refine ⟨_, rfl, rfl, rfl, ?_⟩
  refine @revoked_never_refreshes 7 [.login ⟨5, 0, 1, 1⟩, .take 1 1, .check 1, .read 1 true, .store 1 2, .revoke 1,
    .take 2 2, .check 2] _ ?_ rfl
  -- no mark and no late refresh when the token is stored, and no time passes
  refine ⟨trivial, fun _ taken => ?_⟩
  cases taken
  refine ⟨trivial, fun _ taken => ?_⟩
  cases taken
  refine ⟨trivial, fun _ taken => ?_⟩
  cases taken
  refine ⟨trivial, fun _ taken => ?_⟩
  cases taken
  refine ⟨fun _ _ => nofun, fun _ taken => ?_⟩
  cases taken
  exact ⟨trivial, fun _ _ => ⟨trivial, fun _ _ => ⟨trivial, fun _ _ => trivial⟩⟩⟩

end SessionRevocation

end Tiber
