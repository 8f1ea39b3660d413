import Tiber.System.EmailActivation

/-! Who can log in with a password that was chosen at registration.

An account is verified by its code or by GitHub. Until something sent to its address has been consumed, the
password of a registered account is a stranger's; a GitHub link that verifies such an account lets him in.
-/

set_option autoImplicit false

namespace Tiber.AccountRuns

open Library

variable {fold : Text → Text} {verifyPassword : Text → Text → Bool}

/-- A GitHub link is committed only for an account that was verified, or for which a code or a reset token has
been consumed. -/
def State.linksProven (state : State fold) : Event → Bool
  | .commit party =>
      match state.phase party with
      | .saving (.linkGithub _) account _ => account.isVerified || state.consumed.contains account.id
      | _ => true
  | _ => true

def Unverified (accountId : Uuid) (account : AuthAccount) : Prop := account.id = accountId → account.isVerified = false

def Replaced (accountId : Uuid) (account : AuthAccount) : Prop :=
  account.id = accountId → ∀ stored ∈ account.passwordHash, stored.origin ≠ .register

theorem column_mem {α : Type} [DecidableEq α] {holds : α → Prop} {saved loaded stored : α} (left : holds saved)
    (right : holds stored) : holds (AuthAccount.column saved loaded stored) := by
  obtain same | same := AuthAccount.column_cases saved loaded stored
  · rw [same]
    exact right
  · rw [same]
    exact left

/-- The address behind one account is proven, or it is not verified, or the password is not the one of its
registration. -/
structure Proven (accountId : Uuid) (state : State fold) : Prop where
  known : Known state
  consumed : ∀ party email code account loaded,
    state.phase party = .saving (.verifyEmail email code) account loaded → account.id ∈ state.consumed
  fate : accountId ∈ state.consumed ∨ Every (Unverified accountId) state ∨ Every (Replaced accountId) state

theorem proven_initial (accountId : Uuid) : Proven accountId (initial fold) where
  known _ _ := nofun
  consumed _ _ _ _ _ := nofun
  fate := .inr (.inl ⟨fun _ => nofun, fun _ _ => nofun⟩)

variable {state next : State fold} {event : Event}

theorem Move.consumed (move : Move state event next) {accountId : Uuid} (before : accountId ∈ state.consumed)
    (there : ∃ row ∈ state.table.rows, row.id = accountId) : accountId ∈ next.consumed := by
  cases move with
  | added event party account table phase done writes kind =>
      obtain ⟨row, stored, own⟩ := there
      refine List.mem_filter.mpr ⟨before, decide_eq_true fun same => ?_⟩
      exact AccountTable.add_fresh done row stored (own.trans same)
  | verified | reset => exact .tail _ before
  | turned | coded | issued | saved | operated | expired => exact before

/-- An account that is not there yet is added unverified, or without a password. -/
theorem fate_added {accountId : Uuid} (known : Known state) (move : Move state event next)
    (absent : ∀ row ∈ state.table.rows, row.id ≠ accountId) :
    Every (Unverified accountId) next ∨ Every (Replaced accountId) next := by
  -- nothing is said of an account that nobody has
  have nobody {holds : AuthAccount → Prop} : Every (fun account => account.id = accountId → holds account) state := by
    refine ⟨fun row stored own => absurd own (absent row stored), fun party account held own => ?_⟩
    obtain ⟨row, stored, same⟩ := known party account held
    exact absurd (same.trans own) (absent row stored)
  have elsewhere {update : AccountUpdate} {account loaded : AuthAccount}
      (saves : Saves state next event update account loaded) : account.id ≠ accountId := by
    obtain ⟨party, held, -⟩ := saves.snapshots
    obtain ⟨row, stored, same⟩ := known party account held
    exact fun own => absent row stored (same.trans own)
  have enter {holds : AuthAccount → Prop}
      (new : ∀ row ∈ next.table.rows, New row → row.id = accountId → holds row) :
      Every (fun account => account.id = accountId → holds account) next := by
    refine nobody.move move (fun row member made _ => new row member made) fun update account loaded saves _ _ => ?_
    exact ⟨fun own => absurd ((update.apply_id account).symm.trans own) (elsewhere saves),
      fun row stored _ _ own => absurd own (absent row stored)⟩
  by_cases registered : ∃ row ∈ next.table.rows, row.id = accountId ∧ row.isVerified = false
  · obtain ⟨row, member, own, unverified⟩ := registered
    refine .inl (enter fun other there _ same => ?_)
    rw [AccountTable.id_inj there member (same.trans own.symm)]
    exact unverified
  · refine .inr (enter fun row member made own stored hashed => ?_)
    obtain ⟨email, hash, same⟩ | ⟨identity, same⟩ := made
    · exact absurd ⟨row, member, own, by rw [same]; rfl⟩ registered
    · rw [same] at hashed
      cases hashed

theorem Proven.move {accountId : Uuid} (proven : Proven accountId state)
    (linked : state.linksProven event = true) (move : Move state event next) : Proven accountId next := by
  have known := proven.known.move move
  refine ⟨known, ?_, ?_⟩
  · intro party email code account loaded stands
    obtain ⟨last, before⟩ | ⟨-, consumed⟩ := move.verifying stands
    · refine move.consumed (proven.consumed party email code account last before) ?_
      exact proven.known party account (by rw [before]; exact .head _)
    · exact consumed
  · by_cases there : ∃ row ∈ state.table.rows, row.id = accountId
    · by_cases consumed : accountId ∈ state.consumed
      · exact .inl (move.consumed consumed there)
      · have new (row : AuthAccount) (fresh : ∀ stored ∈ state.table.rows, stored.id ≠ row.id) : row.id ≠ accountId := by
          obtain ⟨old, stored, own⟩ := there
          exact fun same => fresh old stored (own.trans same.symm)
        obtain fate | unverified | replaced := proven.fate
        · exact absurd fate consumed
        · refine .inr (.inl (unverified.move move (fun row _ _ fresh own => absurd own (new row fresh)) ?_))
          intro update account loaded saves left _
          have still : Unverified accountId (update.apply account) := by
            intro own
            rw [update.apply_id] at own
            obtain ⟨party, rfl, stands⟩ := saves.here
            cases update with
            | updateEmail | changePassword | resetPassword => exact left own
            | deactivate => rfl
            | verifyEmail email code => exact absurd (own ▸ proven.consumed party email code account loaded stands) consumed
            | linkGithub githubId =>
                simp only [State.linksProven, stands, left own, Bool.false_or, List.contains_iff_mem] at linked
                exact absurd (own ▸ linked) consumed
          exact ⟨still, fun row _ same stored own =>
            @column_mem _ _ (· = false) _ _ _ (still ((update.apply_id account).trans (same.symm.trans own))) (stored own)⟩
        · refine .inr (.inr (replaced.move move (fun row _ _ fresh own => absurd own (new row fresh)) ?_))
          intro update account loaded _ left _
          have still : Replaced accountId (update.apply account) := by
            intro own
            rw [update.apply_id] at own
            cases update with
            | updateEmail | verifyEmail | linkGithub => exact left own
            | deactivate => exact fun _ => nofun
            | changePassword hash context => rintro stored ⟨⟩; nofun
            | resetPassword hash => rintro stored ⟨⟩; nofun
          exact ⟨still, fun row _ same stored own =>
            @column_mem _ _ (fun hash : Option PasswordHash => ∀ stored ∈ hash, stored.origin ≠ .register) _ _ _
              (still ((update.apply_id account).trans (same.symm.trans own))) (stored own)⟩
    · have absent : ∀ row ∈ state.table.rows, row.id ≠ accountId := fun row stored own => there ⟨row, stored, own⟩
      exact .inr (fate_added proven.known move absent)

theorem step_login {party : Nat} {email password : Text} {account : AuthAccount} {session : Option Nat}
    (taken : step verifyPassword state (.login party email password) = some next)
    (entered : next.phase party = .granting account session) :
    account ∈ state.table.rows ∧ account.isVerified = true := by
  simp only [step] at taken
  split at taken
  · cases taken
    simp only [State.enter, Function.update_self] at entered
    cases decided : loginAccount verifyPassword password (state.table.getByEmail email) with
    | error failure => rw [decided] at entered; cases entered
    | ok found =>
        rw [decided] at entered
        cases entered
        obtain ⟨row, verified⟩ := loginAccount_ok decided
        exact ⟨getByEmail_mem row, verified⟩
  · cases taken

/-- In a run in which GitHub links no unproven account, whoever logs in with the password of a registration has
an account for which a code or a reset token has been consumed since. -/
theorem proven_password {events : List Event} (linked : Machine.Along (step verifyPassword)
      (fun state event => state.linksProven event = true) (initial fold) events)
    (reached : Machine.run (step verifyPassword) (initial fold) events = some state) {party : Nat}
    {email password : Text} (taken : step verifyPassword state (.login party email password) = some next)
    {account : AuthAccount} {session : Option Nat} (granted : next.phase party = .granting account session)
    {stored : PasswordHash} (current : account.passwordHash = some stored) (origin : stored.origin = .register) :
    account.id ∈ state.consumed := by
  have keeps : Machine.Keeps (step verifyPassword) (fun (state : State fold) event => state.linksProven event = true)
      (Proven account.id) := fun _ _ _ proven linked taken => proven.move linked (step_move taken)
  obtain ⟨there, verified⟩ := step_login taken granted
  obtain consumed | unverified | replaced := (keeps.run (proven_initial account.id) linked reached).fate
  · exact consumed
  · rw [unverified.rows account there rfl] at verified
    cases verified
  · exact absurd origin (replaced.rows account there rfl stored current)

/-! ## A password of somebody who never had the address -/

/-- Mallory registers Ann's address, and Ann signs in with GitHub. -/
def linkedRegistration : List Event :=
  [.register 0 1 first "mallory".toList, .sendCode 0 "123456".toList true,
    .readGithub 1 ⟨"77".toList, first⟩, .readGithubEmail 1, .commit 1, .issue 1 0 0 true]

/-- Nothing sent to the address has been consumed, and Mallory's password opens the account. -/
theorem stranger_logs_in :
    ∃ (state next : State foldCase) (account : AuthAccount),
      Machine.run (step samePassword) (initial foldCase) linkedRegistration = some state ∧
      step samePassword state (.login 2 first "mallory".toList) = some next ∧
      next.phase 2 = .granting account none ∧
      account.passwordHash = some { hash := "mallory".toList, origin := .register } ∧ account.id ∉ state.consumed :=
  ⟨_, _, _, rfl, rfl, rfl, rfl, by decide⟩

def provenRegistration : List Event :=
  [.register 0 1 first "ann".toList, .sendCode 0 "123456".toList true, .readVerify 1 first "123456".toList 1,
    .consumeCode 1 true, .commit 1, .issue 1 0 0 true]

theorem owner_logs_in :
    ∃ (state next : State foldCase) (account : AuthAccount),
      Machine.run (step samePassword) (initial foldCase) provenRegistration = some state ∧
      step samePassword state (.login 2 first "ann".toList) = some next ∧ next.phase 2 = .granting account none ∧
      account.id ∈ state.consumed :=
  ⟨_, _, _, rfl, rfl, rfl, @proven_password foldCase samePassword _ _ provenRegistration (by decide) rfl 2 first
    "ann".toList rfl _ none rfl _ rfl rfl⟩

end Tiber.AccountRuns
