import Tiber.Application.AccessTokens
import Tiber.Library.Machine

/-! Logging out, while requests are being authenticated.

An authentication verifies the token, looks for the token's mark, looks for the session's mark and
reads the account, one step each. A logout reads the clock, marks the token and marks the session.
Anything may come between two steps, and any call may be given up.
-/

set_option autoImplicit false

namespace Tiber

open Library

namespace Logout

inductive Phase where
  | checkToken
  | checkSession
  | readAccount
  deriving DecidableEq

/-- An authentication that has verified its token. It is late when the token was over by then. -/
structure Check where
  token : AccessToken
  begun : Nat
  phase : Phase
  late : Bool
  deriving DecidableEq

structure Leaving where
  token : AccessToken
  reading : Nat
  blocked : Bool := false
  deriving DecidableEq

/-- `ended` are the tokens that were marked, and those a session had when it was marked. -/
structure State where
  now : Nat := 0
  keys : RevocationKeys := {}
  issued : List AccessToken := []
  checks : Nat → Option Check := fun _ => none
  logouts : Nat → Option Leaving := fun _ => none
  ended : List Nat := []
  closed : List Nat := []
  admitted : List Check := []
  refused : List Check := []

inductive Event where
  | pass (milliseconds : Nat)
  | issue (grant : Grant)
  | verify (check : Nat) (token : AccessToken)
  | lookToken (check : Nat)
  | lookSession (check : Nat)
  | readAccount (check : Nat) (valid : Bool)
  | leave (check : Nat)
  | logout (call : Nat) (token : AccessToken)
  | block (call : Nat)
  | revoke (call : Nat)
  | abandon (call : Nat)

namespace State

variable (state : State)

def setCheck (id : Nat) (check : Option Check) : State :=
  { state with checks := Function.update state.checks id check }

def setLogout (id : Nat) (leaving : Option Leaving) : State :=
  { state with logouts := Function.update state.logouts id leaving }

def inPhase (phase : Phase) (id : Nat) : Option Check := (state.checks id).filter (·.phase = phase)

def look (id : Nat) (check : Check) (revoked : Bool) (phase : Phase) : State :=
  if revoked then { state.setCheck id none with refused := check :: state.refused }
  else state.setCheck id (some { check with phase })

/-- The token's mark is set, unless Redis refuses; then the logout fails. -/
def block (id : Nat) (leaving : Leaving) : State :=
  match state.keys.blockToken leaving.token leaving.reading state.now with
  | none => state.setLogout id none
  | some keys => { state.setLogout id (some { leaving with blocked := true }) with
      keys
      ended := leaving.token.serial :: state.ended }

/-- The session's mark is set, which ends every token it has been given so far. -/
def revoke (days id session : Nat) : State :=
  { state.setLogout id none with
    keys := state.keys.revokeSession session days state.now
    ended := (state.issued.filter (·.session = session)).map (·.serial) ++ state.ended
    closed := session :: state.closed }

end State

/-- A token's number is drawn anew. The account is found valid or not. -/
def step (minutes days : Nat) (state : State) : Event → Option State
  | .pass milliseconds => some { state with now := state.now + milliseconds }
  | .issue grant =>
      if ∀ token ∈ state.issued, token.serial ≠ grant.serial then
        some { state with issued := createAccessToken grant minutes state.now :: state.issued }
      else none
  | .verify id token =>
      if state.checks id = none ∧ token ∈ state.issued ∧ token.current state.now = true then
        some (state.setCheck id (some ⟨token, state.now, .checkToken, token.serial ∈ state.ended⟩))
      else none
  | .lookToken id => (state.inPhase .checkToken id).map fun check =>
      state.look id check (state.keys.isRevoked check.token.serial state.now) .checkSession
  | .lookSession id => (state.inPhase .checkSession id).map fun check =>
      state.look id check (state.keys.sessions.isRevoked check.token.session state.now) .readAccount
  | .readAccount id valid => (state.inPhase .readAccount id).map fun check =>
      if valid then { state.setCheck id none with admitted := check :: state.admitted } else state.setCheck id none
  | .leave id => some (state.setCheck id none)
  | .logout id token =>
      if state.logouts id = none ∧ token ∈ state.issued then some (state.setLogout id (some ⟨token, state.now, false⟩))
      else none
  | .block id => ((state.logouts id).filter fun leaving => !leaving.blocked).map (state.block id)
  | .revoke id => ((state.logouts id).filter (·.blocked)).map fun leaving => state.revoke days id leaving.token.session
  | .abandon id => some (state.setLogout id none)

/-- No authentication has waited for its look-ups for more than 28 seconds. -/
def Prompt (state : State) : Event → Prop
  | .pass milliseconds => ∀ id check, state.checks id = some check → check.phase ≠ .readAccount →
      state.now + milliseconds ≤ check.begun + 28000
  | _ => True

/-! ## The marks cover the tokens that are over -/

def Silenced (state : State) (token : AccessToken) : Prop :=
  state.keys.TokenMark token ∨ state.keys.SessionMark token ∨ 1000 * (token.expiry + 1) ≤ state.now

/-- What is left to a late authentication is to find a mark. -/
def Doomed (state : State) (check : Check) : Prop :=
  check.phase = .checkToken ∧ state.keys.TokenMark check.token ∨
    check.phase ≠ .readAccount ∧ state.keys.SessionMark check.token

structure Guarded (minutes : Nat) (state : State) : Prop where
  numbered : ∀ token ∈ state.issued, ∀ other ∈ state.issued, token.serial = other.serial → token = other
  timely : ∀ token ∈ state.issued, token.expiry ≤ state.now / 1000 + minutes * 60
  known : ∀ serial ∈ state.ended, ∃ token ∈ state.issued, token.serial = serial
  silenced : ∀ token ∈ state.issued, token.serial ∈ state.ended → Silenced state token
  verified : ∀ id check, state.checks id = some check →
    check.token ∈ state.issued ∧ check.begun < 1000 * (check.token.expiry + 1)
  prompt : ∀ id check, state.checks id = some check → check.phase ≠ .readAccount → state.now ≤ check.begun + 28000
  doomed : ∀ id check, state.checks id = some check → check.late = true → Doomed state check
  leaving : ∀ id leaving, state.logouts id = some leaving → leaving.token ∈ state.issued ∧ leaving.reading ≤ state.now
  early : ∀ check ∈ state.admitted, check.late = false

variable {minutes days : Nat} {state next : State}

@[simp] theorem setCheck_checks (id other : Nat) (check : Option Check) :
    (state.setCheck id check).checks other = if other = id then check else state.checks other :=
  Function.update_apply ..

@[simp] theorem setLogout_logouts (id other : Nat) (leaving : Option Leaving) :
    (state.setLogout id leaving).logouts other = if other = id then leaving else state.logouts other :=
  Function.update_apply ..

theorem inPhase_eq_some {phase : Phase} {id : Nat} {check : Check} :
    state.inPhase phase id = some check ↔ state.checks id = some check ∧ check.phase = phase := by
  simp [State.inPhase, Option.filter_eq_some_iff]

structure Onward (state next : State) : Prop where
  token : ∀ token ∈ state.issued, state.keys.TokenMark token → next.keys.TokenMark token
  session : ∀ token ∈ state.issued, state.keys.SessionMark token → next.keys.SessionMark token
  later : state.now ≤ next.now

theorem Onward.silenced (onward : Onward state next) {token : AccessToken} (issued : token ∈ state.issued)
    (silenced : Silenced state token) : Silenced next token := by
  rcases silenced with marked | marked | expired
  · exact .inl (onward.token token issued marked)
  · exact .inr (.inl (onward.session token issued marked))
  · exact .inr (.inr (Nat.le_trans expired onward.later))

theorem Onward.doomed (onward : Onward state next) {check : Check} (issued : check.token ∈ state.issued)
    (doomed : Doomed state check) : Doomed next check :=
  doomed.imp (And.imp_right (onward.token check.token issued)) (And.imp_right (onward.session check.token issued))

theorem within_marks {check : Check} (verified : check.begun < 1000 * (check.token.expiry + 1))
    (prompt : state.now ≤ check.begun + 28000) : state.now ≤ RevocationKeys.lastLookup check.token := by
  unfold RevocationKeys.lastLookup
  omega

namespace Guarded

theorem setCheck (guarded : Guarded minutes state) (id : Nat) (onward : Option Check)
    (verified : ∀ check ∈ onward, check.token ∈ state.issued ∧ check.begun < 1000 * (check.token.expiry + 1))
    (prompt : ∀ check ∈ onward, check.phase ≠ .readAccount → state.now ≤ check.begun + 28000)
    (doomed : ∀ check ∈ onward, check.late = true → Doomed state check) : Guarded minutes (state.setCheck id onward) where
  numbered := guarded.numbered
  timely := guarded.timely
  known := guarded.known
  silenced := guarded.silenced
  verified other check stands := by
    rw [setCheck_checks] at stands
    split at stands
    · exact verified check stands
    · exact guarded.verified other check stands
  prompt other check stands := by
    rw [setCheck_checks] at stands
    split at stands
    · exact prompt check stands
    · exact guarded.prompt other check stands
  doomed other check stands := by
    rw [setCheck_checks] at stands
    split at stands
    · exact doomed check stands
    · exact guarded.doomed other check stands
  leaving := guarded.leaving
  early := guarded.early

theorem drop (guarded : Guarded minutes state) (id : Nat) : Guarded minutes (state.setCheck id none) :=
  guarded.setCheck id none nofun nofun nofun

theorem setLogout (guarded : Guarded minutes state) (id : Nat) (onward : Option Leaving)
    (leaving : ∀ leaving ∈ onward, leaving.token ∈ state.issued ∧ leaving.reading ≤ state.now) :
    Guarded minutes (state.setLogout id onward) where
  numbered := guarded.numbered
  timely := guarded.timely
  known := guarded.known
  silenced := guarded.silenced
  verified := guarded.verified
  prompt := guarded.prompt
  doomed := guarded.doomed
  leaving other found stands := by
    rw [setLogout_logouts] at stands
    split at stands
    · exact leaving found stands
    · exact guarded.leaving other found stands
  early := guarded.early

theorem pass (guarded : Guarded minutes state) {milliseconds : Nat} (prompt : Prompt state (.pass milliseconds)) :
    Guarded minutes { state with now := state.now + milliseconds } where
  numbered := guarded.numbered
  timely token issued := by
    have timely := guarded.timely token issued
    have later := Nat.div_le_div_right (c := 1000) (Nat.le_add_right state.now milliseconds)
    exact Nat.le_trans timely (Nat.add_le_add_right later _)
  known := guarded.known
  silenced token issued ended := by
    have onward : Onward state { state with now := state.now + milliseconds } :=
      ⟨fun _ _ => id, fun _ _ => id, Nat.le_add_right ..⟩
    exact onward.silenced issued (guarded.silenced token issued ended)
  verified := guarded.verified
  prompt := prompt
  doomed := guarded.doomed
  leaving id leaving stands := by
    obtain ⟨issued, before⟩ := guarded.leaving id leaving stands
    exact ⟨issued, Nat.le_trans before (Nat.le_add_right ..)⟩
  early := guarded.early

theorem issue (guarded : Guarded minutes state) {grant : Grant} (fresh : ∀ token ∈ state.issued, token.serial ≠ grant.serial) :
    Guarded minutes { state with issued := createAccessToken grant minutes state.now :: state.issued } where
  numbered token issued other issued' same := by
    rcases List.mem_cons.mp issued with rfl | older
    · rcases List.mem_cons.mp issued' with rfl | older'
      · rfl
      · exact absurd same.symm (fresh other older')
    · rcases List.mem_cons.mp issued' with rfl | older'
      · exact absurd same (fresh token older)
      · exact guarded.numbered token older other older' same
  timely token issued := by
    rcases List.mem_cons.mp issued with rfl | older
    · exact Nat.le_refl _
    · exact guarded.timely token older
  known serial ended := by
    obtain ⟨token, issued, same⟩ := guarded.known serial ended
    exact ⟨token, .tail _ issued, same⟩
  silenced token issued ended := by
    rcases List.mem_cons.mp issued with rfl | older
    · obtain ⟨token, issued, same⟩ := guarded.known _ ended
      exact absurd same (fresh token issued)
    · exact guarded.silenced token older ended
  verified id check stands := (guarded.verified id check stands).imp_left (List.mem_cons_of_mem _)
  prompt := guarded.prompt
  doomed := guarded.doomed
  leaving id leaving stands := (guarded.leaving id leaving stands).imp_left (List.mem_cons_of_mem _)
  early := guarded.early

theorem mark (guarded : Guarded minutes state) {keys : RevocationKeys} {ended : List Nat}
    (onward : Onward state { state with keys })
    (counted : ∀ serial ∈ ended, serial ∈ state.ended ∨
      ∃ token ∈ state.issued, token.serial = serial ∧ Silenced { state with keys } token) :
    Guarded minutes { state with keys, ended } where
  numbered := guarded.numbered
  timely := guarded.timely
  known serial listed := by
    rcases counted serial listed with before | ⟨token, issued, same, -⟩
    · exact guarded.known serial before
    · exact ⟨token, issued, same⟩
  silenced token issued listed := by
    rcases counted token.serial listed with before | ⟨other, issued', same, silenced⟩
    · exact onward.silenced issued (guarded.silenced token issued before)
    · exact guarded.numbered other issued' token issued same ▸ silenced
  verified := guarded.verified
  prompt := guarded.prompt
  doomed id check stands late := onward.doomed (guarded.verified id check stands).1 (guarded.doomed id check stands late)
  leaving := guarded.leaving
  early := guarded.early

theorem block (guarded : Guarded minutes state) {id : Nat} {leaving : Leaving}
    (stands : state.logouts id = some leaving) : Guarded minutes (state.block id leaving) := by
  obtain ⟨issued, before⟩ := guarded.leaving id leaving stands
  unfold State.block
  split
  · exact guarded.setLogout id none nofun
  · rename_i keys blocked
    have standing := guarded.setLogout id (some { leaving with blocked := true }) fun _ found => by
      cases found
      exact ⟨issued, before⟩
    rcases RevocationKeys.blockToken_cases before blocked with ⟨rfl, expired⟩ | ⟨seconds, covered, rfl⟩
    · apply standing.mark ⟨fun _ _ held => held, fun _ _ held => held, Nat.le_refl _⟩
      rintro serial (_ | ⟨_, listed⟩)
      · exact .inr ⟨leaving.token, issued, rfl, .inr (.inr expired)⟩
      · exact .inl listed
    · refine standing.mark ⟨?_, fun _ _ held => held, Nat.le_refl _⟩ ?_
      · intro token issued' marked moment due
        rw [RevocationKeys.markToken_isRevoked]
        split
        · rename_i same
          have same := guarded.numbered token issued' leaving.token issued same
          exact decide_eq_true (Nat.le_trans due (same ▸ covered))
        · exact marked moment due
      · rintro serial (_ | ⟨_, listed⟩)
        · refine .inr ⟨leaving.token, issued, rfl, .inl fun moment due => ?_⟩
          rw [RevocationKeys.markToken_isRevoked, if_pos rfl]
          exact decide_eq_true (Nat.le_trans due covered)
        · exact .inl listed

/-- The session is marked for longer than any of its tokens lives. -/
theorem revoke (guarded : Guarded minutes state) (id session : Nat)
    (outlives : minutes * 60 + 29 ≤ refreshSeconds days) : Guarded minutes (state.revoke days id session) := by
  have covered (token : AccessToken) (issued : token ∈ state.issued) :
      RevocationKeys.lastLookup token ≤ state.now + 1000 * refreshSeconds days := by
    have timely := guarded.timely token issued
    unfold RevocationKeys.lastLookup
    omega
  have standing := guarded.setLogout id none nofun
  suffices marked : Guarded minutes { state.setLogout id none with
      keys := state.keys.revokeSession session days state.now
      ended := (state.issued.filter (·.session = session)).map (·.serial) ++ state.ended } from
    ⟨marked.numbered, marked.timely, marked.known, marked.silenced, marked.verified, marked.prompt, marked.doomed,
      marked.leaving, marked.early⟩
  refine standing.mark ⟨fun _ _ held => held, ?_, Nat.le_refl _⟩ ?_
  · intro token issued held moment due
    rw [RevocationKeys.revokeSession_isRevoked]
    split
    · exact decide_eq_true (Nat.le_trans due (covered token issued))
    · exact held moment due
  · intro serial listed
    rcases List.mem_append.mp listed with own | before
    · obtain ⟨token, found, rfl⟩ := List.mem_map.mp own
      obtain ⟨issued, same⟩ := List.mem_filter.mp found
      refine .inr ⟨token, issued, rfl, .inr (.inl fun moment due => ?_)⟩
      rw [RevocationKeys.revokeSession_isRevoked, if_pos (of_decide_eq_true same)]
      exact decide_eq_true (Nat.le_trans due (covered token issued))
    · exact .inl before

theorem look (guarded : Guarded minutes state) {id : Nat} {check : Check} {revoked : Bool} {phase : Phase}
    (stands : state.checks id = some check) (before : check.phase ≠ .readAccount)
    (doomed : check.late = true → revoked = false → Doomed state { check with phase }) :
    Guarded minutes (state.look id check revoked phase) := by
  obtain ⟨issued, verified⟩ := guarded.verified id check stands
  unfold State.look
  split
  · have dropped := guarded.drop id
    exact ⟨dropped.numbered, dropped.timely, dropped.known, dropped.silenced, dropped.verified, dropped.prompt,
      dropped.doomed, dropped.leaving, dropped.early⟩
  · rename_i unmarked
    apply guarded.setCheck
    · rintro _ ⟨⟩
      exact ⟨issued, verified⟩
    · rintro _ ⟨⟩ _
      exact guarded.prompt id check stands before
    · rintro _ ⟨⟩ late
      exact doomed late (Bool.eq_false_of_not_eq_true unmarked)

end Guarded

theorem step_keeps_guarded (outlives : minutes * 60 + 29 ≤ refreshSeconds days) :
    Machine.Keeps (step minutes days) Prompt (Guarded minutes) := by
  intro state event next guarded prompt taken
  cases event with
  | pass milliseconds => cases taken; exact guarded.pass prompt
  | issue grant =>
      simp only [step] at taken
      split at taken
      · rename_i fresh
        cases taken
        exact guarded.issue fresh
      · cases taken
  | verify id token =>
      simp only [step] at taken
      split at taken
      · rename_i enabled
        obtain ⟨-, issued, current⟩ := enabled
        have current := of_decide_eq_true current
        have verified : state.now < 1000 * (token.expiry + 1) := by omega
        cases taken
        apply guarded.setCheck
        · rintro _ ⟨⟩
          exact ⟨issued, verified⟩
        · rintro _ ⟨⟩ _
          exact Nat.le_add_right ..
        · rintro _ ⟨⟩ late
          rcases guarded.silenced token issued (of_decide_eq_true late) with marked | marked | expired
          · exact .inl ⟨rfl, marked⟩
          · exact .inr ⟨nofun, marked⟩
          · exact absurd verified (Nat.not_lt.mpr expired)
      · cases taken
  | lookToken id =>
      obtain ⟨check, checking, rfl⟩ := Option.map_eq_some_iff.mp taken
      obtain ⟨stands, phase⟩ := inPhase_eq_some.mp checking
      have before : check.phase ≠ .readAccount := by rw [phase]; decide
      have due := within_marks (guarded.verified id check stands).2 (guarded.prompt id check stands before)
      apply guarded.look stands before
      intro late unmarked
      rcases guarded.doomed id check stands late with ⟨-, marked⟩ | ⟨-, marked⟩
      · rw [marked state.now due] at unmarked
        cases unmarked
      · exact .inr ⟨nofun, marked⟩
  | lookSession id =>
      obtain ⟨check, checking, rfl⟩ := Option.map_eq_some_iff.mp taken
      obtain ⟨stands, phase⟩ := inPhase_eq_some.mp checking
      have before : check.phase ≠ .readAccount := by rw [phase]; decide
      have due := within_marks (guarded.verified id check stands).2 (guarded.prompt id check stands before)
      apply guarded.look stands before
      intro late unmarked
      rcases guarded.doomed id check stands late with ⟨earlier, -⟩ | ⟨-, marked⟩
      · rw [phase] at earlier
        cases earlier
      · rw [marked state.now due] at unmarked
        cases unmarked
  | readAccount id valid =>
      obtain ⟨check, checking, rfl⟩ := Option.map_eq_some_iff.mp taken
      obtain ⟨stands, phase⟩ := inPhase_eq_some.mp checking
      have dropped := guarded.drop id
      split
      · have early : check.late = false := by
          rw [← Bool.not_eq_true]
          intro late
          rcases guarded.doomed id check stands late with ⟨earlier, -⟩ | ⟨earlier, -⟩
          · rw [phase] at earlier
            cases earlier
          · exact earlier phase
        exact ⟨dropped.numbered, dropped.timely, dropped.known, dropped.silenced, dropped.verified, dropped.prompt,
          dropped.doomed, dropped.leaving, List.forall_mem_cons.mpr ⟨early, dropped.early⟩⟩
      · exact dropped
  | leave id => cases taken; exact guarded.drop id
  | logout id token =>
      simp only [step] at taken
      split at taken
      · rename_i enabled
        cases taken
        apply guarded.setLogout
        rintro _ ⟨⟩
        exact ⟨enabled.2, Nat.le_refl _⟩
      · cases taken
  | block id =>
      obtain ⟨leaving, standing, rfl⟩ := Option.map_eq_some_iff.mp taken
      exact guarded.block (Option.filter_eq_some_iff.mp standing).1
  | revoke id =>
      obtain ⟨leaving, -, rfl⟩ := Option.map_eq_some_iff.mp taken
      exact guarded.revoke id leaving.token.session outlives
  | abandon id => cases taken; exact guarded.setLogout id none nofun

theorem start_guarded (minutes : Nat) : Guarded minutes {} :=
  ⟨nofun, nofun, nofun, nofun, nofun, nofun, nofun, nofun, nofun⟩

/-! ## The marks cover no others -/

structure Honest (state : State) : Prop where
  token : ∀ serial moment, state.keys.isRevoked serial moment = true → serial ∈ state.ended
  session : ∀ session moment, state.keys.sessions.isRevoked session moment = true → session ∈ state.closed
  refused : ∀ check ∈ state.refused, check.token.serial ∈ state.ended ∨ check.token.session ∈ state.closed

theorem Honest.look (honest : Honest state) {id : Nat} {check : Check} {revoked : Bool} {phase : Phase}
    (justified : revoked = true → check.token.serial ∈ state.ended ∨ check.token.session ∈ state.closed) :
    Honest (state.look id check revoked phase) := by
  unfold State.look
  split
  · rename_i marked
    exact ⟨honest.token, honest.session, List.forall_mem_cons.mpr ⟨justified marked, honest.refused⟩⟩
  · exact ⟨honest.token, honest.session, honest.refused⟩

theorem Honest.block (honest : Honest state) (id : Nat) (leaving : Leaving) : Honest (state.block id leaving) := by
  unfold State.block
  split
  · exact ⟨honest.token, honest.session, honest.refused⟩
  · rename_i keys blocked
    have refused : ∀ check ∈ state.refused,
        check.token.serial ∈ leaving.token.serial :: state.ended ∨ check.token.session ∈ state.closed :=
      fun check given => (honest.refused check given).imp_left (List.mem_cons_of_mem _)
    rcases RevocationKeys.blockToken_eq blocked with rfl | ⟨seconds, rfl⟩
    · exact ⟨fun serial moment marked => .tail _ (honest.token serial moment marked), honest.session, refused⟩
    · refine ⟨?_, honest.session, refused⟩
      intro serial moment marked
      rw [RevocationKeys.markToken_isRevoked] at marked
      split at marked
      · rename_i same
        exact same ▸ .head _
      · exact .tail _ (honest.token serial moment marked)

theorem Honest.revoke (honest : Honest state) (id session : Nat) : Honest (state.revoke days id session) where
  token serial moment marked := List.mem_append_right _ (honest.token serial moment marked)
  session other moment marked := by
    have marked : (state.keys.revokeSession session days state.now).sessions.isRevoked other moment = true := marked
    rw [RevocationKeys.revokeSession_isRevoked] at marked
    split at marked
    · rename_i same
      exact same ▸ .head _
    · exact .tail _ (honest.session other moment marked)
  refused check given := (honest.refused check given).imp (List.mem_append_right _) (List.mem_cons_of_mem _)

theorem step_keeps_honest : Machine.Keeps (step minutes days) Prompt Honest := by
  intro state event next honest _ taken
  cases event with
  | pass milliseconds => cases taken; exact ⟨honest.token, honest.session, honest.refused⟩
  | issue grant =>
      simp only [step] at taken
      split at taken
      · cases taken
        exact ⟨honest.token, honest.session, honest.refused⟩
      · cases taken
  | verify id token =>
      simp only [step] at taken
      split at taken
      · cases taken
        exact ⟨honest.token, honest.session, honest.refused⟩
      · cases taken
  | lookToken id =>
      obtain ⟨check, -, rfl⟩ := Option.map_eq_some_iff.mp taken
      exact honest.look fun marked => .inl (honest.token _ _ marked)
  | lookSession id =>
      obtain ⟨check, -, rfl⟩ := Option.map_eq_some_iff.mp taken
      exact honest.look fun marked => .inr (honest.session _ _ marked)
  | readAccount id valid =>
      obtain ⟨check, -, rfl⟩ := Option.map_eq_some_iff.mp taken
      split <;> exact ⟨honest.token, honest.session, honest.refused⟩
  | leave id => cases taken; exact ⟨honest.token, honest.session, honest.refused⟩
  | logout id token =>
      simp only [step] at taken
      split at taken
      · cases taken
        exact ⟨honest.token, honest.session, honest.refused⟩
      · cases taken
  | block id =>
      obtain ⟨leaving, -, rfl⟩ := Option.map_eq_some_iff.mp taken
      exact honest.block id leaving
  | revoke id =>
      obtain ⟨leaving, -, rfl⟩ := Option.map_eq_some_iff.mp taken
      exact honest.revoke id leaving.token.session
  | abandon id => cases taken; exact ⟨honest.token, honest.session, honest.refused⟩

theorem start_honest : Honest {} := ⟨nofun, nofun, nofun⟩

/-! ## A logout is final -/

/-- As long as look-ups come within 28 seconds and session marks outlive the tokens, no token that was over when
its authentication began is admitted; and nobody else is refused. -/
theorem logout_final (outlives : minutes * 60 + 29 ≤ refreshSeconds days) {events : List Event} {state : State}
    (along : Machine.Along (step minutes days) Prompt {} events)
    (reached : Machine.run (step minutes days) {} events = some state) :
    (∀ check ∈ state.admitted, check.late = false) ∧
      ∀ check ∈ state.refused, check.token.serial ∈ state.ended ∨ check.token.session ∈ state.closed := by
  have guarded := (step_keeps_guarded outlives).run (start_guarded minutes) along reached
  have honest := step_keeps_honest.run start_honest along reached
  exact ⟨guarded.early, honest.refused⟩

theorem along_of_still {events : List Event} (still : ∀ event ∈ events, ∀ state, Prompt state event) (state : State) :
    Machine.Along (step minutes days) Prompt state events := by
  induction events generalizing state with
  | nil => trivial
  | cons event rest ih =>
      exact ⟨still event (.head _) state, fun next _ => ih (fun other later => still other (.tail _ later)) next⟩

theorem logged_out_refused :
    ∃ state, Machine.run (step 15 7) {} [.issue ⟨5, 0, 1, 1⟩, .verify 1 ⟨⟨5, 0, 1, 1⟩, 900⟩, .lookToken 1, .lookSession 1,
        .readAccount 1 true, .logout 1 ⟨⟨5, 0, 1, 1⟩, 900⟩, .block 1, .revoke 1, .verify 2 ⟨⟨5, 0, 1, 1⟩, 900⟩,
        .lookToken 2] = some state ∧
      state.admitted.length = 1 ∧ state.refused.length = 1 ∧ ∀ check ∈ state.admitted, check.late = false := by
  refine ⟨_, rfl, rfl, rfl, ?_⟩
  refine (@logout_final 15 7 (by decide) [.issue ⟨5, 0, 1, 1⟩, .verify 1 ⟨⟨5, 0, 1, 1⟩, 900⟩, .lookToken 1, .lookSession 1,
    .readAccount 1 true, .logout 1 ⟨⟨5, 0, 1, 1⟩, 900⟩, .block 1, .revoke 1, .verify 2 ⟨⟨5, 0, 1, 1⟩, 900⟩,
    .lookToken 2] _ (along_of_still ?_ _) rfl).1
  simp [Prompt]

/-- Where the session was not marked and a look-up comes later than that, the token's mark has expired. -/
example : ∃ state, Machine.run (step 15 7) {} [.issue ⟨5, 0, 1, 1⟩, .logout 1 ⟨⟨5, 0, 1, 1⟩, 900⟩, .block 1, .abandon 1,
    .pass 900999, .verify 1 ⟨⟨5, 0, 1, 1⟩, 900⟩, .pass 29002, .lookToken 1, .lookSession 1, .readAccount 1 true] = some state ∧
      ∃ check ∈ state.admitted, check.late = true :=
  ⟨_, rfl, _, .head _, rfl⟩

end Logout

end Tiber
