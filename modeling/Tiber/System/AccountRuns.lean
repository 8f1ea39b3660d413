import Tiber.Infrastructure.AccountTable
import Tiber.Library.Machine

/-! Any number of requests to the authentication service, one read, commit or Redis operation at a time.

A save commits what its account was read as, in the columns that differ from the row as its session has
loaded it last. Redis may fail or drop an entry, and a request may end, at any point; what mail, GitHub and
the random numbers bring comes with the event.
-/

set_option autoImplicit false

namespace Tiber.AccountRuns

open Library

inductive Phase where
  | idle
  | failed (failure : PyError)
  /-- a verification code is to be issued -/
  | sending (accountId : Uuid) (destination : Text)
  | updating (account : AuthAccount) (email : Text)
  | verifying (account : AuthAccount) (email code : Text)
  | saving (update : AccountUpdate) (account loaded : AuthAccount)
  | linking (identity : GitHubIdentity)
  | joining (identity : GitHubIdentity)
  /-- a password-reset token is to be issued -/
  | resetting (accountId : Uuid)
  | dropping (accountId : Uuid) (previous : Option Nat)
  | pointing (accountId : Uuid)
  | storing (accountId : Uuid) (token : Nat)
  /-- a password-reset token has been consumed -/
  | replacing (accountId : Uuid) (hash : Text)
  /-- tokens are to be issued -/
  | granting (account : AuthAccount) (session : Option Nat)
  | rotating (grant : Grant)
  | refreshing (grant : Grant)
  | checking (grant : Grant)
  | authorized (grant : Grant)
  | leaving (context : Grant)

/-- The accounts, Redis, the requests, and three records: the codes issued, the accounts for which a code or a
reset token has been consumed since they were added, and the tokens issued. -/
structure State (fold : Text → Text) where
  table : AccountTable fold
  redis : AuthRedis := {}
  phase : Nat → Phase := fun _ => .idle
  codes : List CodeDigest := []
  consumed : List Uuid := []
  issued : List Grant := []

inductive Event where
  | register (party : Nat) (id : Uuid) (email hash : Text)
  | sendCode (party : Nat) (code : Text) (reachable : Bool)
  | readUpdate (party : Nat) (accountId : Uuid) (email : Text)
  | checkEmail (party : Nat)
  | readDeactivate (party : Nat) (accountId : Uuid)
  | readVerify (party : Nat) (email code : Text) (choice : Uuid)
  | consumeCode (party : Nat) (reachable : Bool)
  | readResend (party : Nat) (email : Text) (choice : Uuid)
  | readGithub (party : Nat) (identity : GitHubIdentity)
  | readGithubEmail (party : Nat)
  | addGithub (party : Nat) (id : Uuid)
  | readChange (party : Nat) (accountId : Uuid) (current hash : Text) (context : Grant)
  | logout (party : Nat) (reachable : Bool)
  | readReset (party : Nat) (email : Text)
  | getPointer (party : Nat) (reachable : Bool)
  | dropToken (party : Nat) (reachable : Bool)
  | setPointer (party : Nat) (token : Nat) (reachable : Bool)
  | setToken (party : Nat) (reachable : Bool)
  | consumeReset (party : Nat) (token : Nat) (hash : Text) (reachable : Bool)
  | readReplace (party : Nat)
  | login (party : Nat) (email password : Text)
  | rotate (party : Nat) (serial : Nat) (reachable : Bool)
  | checkSession (party : Nat) (reachable : Bool)
  | readRefresh (party : Nat)
  | present (party : Nat) (grant : Grant) (decodes reachable : Bool)
  | readContext (party : Nat)
  | issue (party : Nat) (serial session : Nat) (reachable : Bool)
  | reload (party : Nat)
  | commit (party : Nat)
  | leave (party : Nat)
  | expire (key : AuthRedis.Key)

def stateUnavailable : PyError := authenticationError "auth_state_unavailable"

def unauthorized (detail : String) : PyError := .raised "HTTPException" detail

def onward (update : AccountUpdate) (account : AuthAccount) : Phase :=
  match update with
  | .updateEmail email => .sending account.id email
  | .deactivate | .resetPassword _ => .idle
  | .verifyEmail .. | .linkGithub _ => .granting account none
  | .changePassword _ context => .leaving context

def Phase.ofChecked {α : Type} (after : α → Phase) : Checked α → Phase
  | .ok value => after value
  | .error failure => .failed failure

variable {fold : Text → Text}

def State.enter (state : State fold) (party : Nat) (phase : Phase) : State fold :=
  { state with phase := Function.update state.phase party phase }

/-- A Redis operation and the next phase, or the error of Redis not answering. -/
def State.operate (state : State fold) (party : Nat) (reachable : Bool) (redis : AuthRedis) (phase : Phase) :
    State fold :=
  if reachable then { state.enter party phase with redis } else state.enter party (.failed stateUnavailable)

variable (verifyPassword : Text → Text → Bool)

def step (state : State fold) : Event → Option (State fold)
  | .register party id email hash =>
      match state.phase party with
      | .idle =>
          match state.table.add (registeredAccount id email hash) with
          | .ok table => some { state.enter party (.sending id email) with
              table
              consumed := state.consumed.filter (· ≠ id) }
          | .error _ => some (state.enter party (.failed (authenticationError "account_exists")))
      | _ => none
  | .sendCode party code reachable =>
      match state.phase party with
      | .sending accountId destination =>
          if reachable then some { state.enter party .idle with
            redis := state.redis.issueCode accountId destination code
            codes := ⟨accountId, destination, code⟩ :: state.codes }
          else some (state.enter party (.failed stateUnavailable))
      | _ => none
  | .readUpdate party accountId email =>
      match state.phase party with
      | .idle => some (state.enter party (.ofChecked
          (fun account => if email = account.email then .idle else .updating account email)
          (requiredAccount (state.table.getById accountId))))
      | _ => none
  | .checkEmail party =>
      match state.phase party with
      | .updating account email => some (state.enter party
          (if (state.table.getByEmail email).isSome then .failed (authenticationError "account_exists")
          else .saving (.updateEmail email) account account))
      | _ => none
  | .readDeactivate party accountId =>
      match state.phase party with
      | .idle => some (state.enter party (.ofChecked (fun account => .saving .deactivate account account)
          (requiredAccount (state.table.getById accountId))))
      | _ => none
  | .readVerify party email code choice =>
      match state.phase party, state.table.pick email choice with
      | .idle, some found => some (state.enter party
          (.ofChecked (fun account => .verifying account email code) (accountToVerify found)))
      | _, _ => none
  | .consumeCode party reachable =>
      match state.phase party with
      | .verifying account email code =>
          if reachable then
            match state.redis.consumeCode ⟨account.id, email, code⟩ with
            | (redis, 1) => some { state.enter party (.saving (.verifyEmail email code) account account) with
                redis
                consumed := account.id :: state.consumed }
            | (redis, _) =>
                some { state.enter party (.failed (authenticationError "invalid_verification_code")) with redis }
          else some (state.enter party (.failed stateUnavailable))
      | _ => none
  | .readResend party email choice =>
      match state.phase party, state.table.pick email choice with
      | .idle, some (some account) => some (state.enter party
          (if account.awaitsCode email then .sending account.id email else .idle))
      | .idle, some none => some (state.enter party .idle)
      | _, _ => none
  | .readGithub party identity =>
      match state.phase party with
      | .idle => some (state.enter party
          (match state.table.getByGithubId identity.githubId with
          | some account =>
              if account.isActive then .granting account none else .failed (authenticationError "account_not_authorized")
          | none => .linking identity))
      | _ => none
  | .readGithubEmail party =>
      match state.phase party with
      | .linking identity => some (state.enter party
          (match state.table.getByEmail identity.email with
          | some account => .ofChecked (fun account => .saving (.linkGithub identity.githubId) account account)
              (accountToLink identity account)
          | none => .joining identity))
      | _ => none
  | .addGithub party id =>
      match state.phase party with
      | .joining identity =>
          match state.table.add (githubAccount id identity) with
          | .ok table => some { state.enter party (.granting (githubAccount id identity) none) with
              table
              consumed := state.consumed.filter (· ≠ id) }
          | .error _ => some (state.enter party (.failed (authenticationError "github_identity_conflict")))
      | _ => none
  | .readChange party accountId current hash context =>
      match state.phase party with
      | .idle => some (state.enter party (.ofChecked (fun account => .saving (.changePassword hash context) account account)
          (accountToChange verifyPassword current (state.table.getById accountId))))
      | _ => none
  | .logout party reachable =>
      match state.phase party with
      | .leaving context => some (state.operate party reachable { state.redis with
          blockedTokens := context.serial :: state.redis.blockedTokens
          blockedSessions := context.session :: state.redis.blockedSessions } .idle)
      | _ => none
  | .readReset party email =>
      match state.phase party with
      | .idle => some (state.enter party
          (match state.table.getByEmail email with
          | some account => if account.isActive then .resetting account.id else .idle
          | none => .idle))
      | _ => none
  | .getPointer party reachable =>
      match state.phase party with
      | .resetting accountId => some (state.operate party reachable state.redis
          (.dropping accountId (state.redis.resetPointer accountId)))
      | _ => none
  | .dropToken party reachable =>
      match state.phase party with
      | .dropping accountId previous => some (state.operate party reachable
          (match previous with
          | some token => state.redis.setResetToken token none
          | none => state.redis) (.pointing accountId))
      | _ => none
  | .setPointer party token reachable =>
      match state.phase party with
      | .pointing accountId => some (state.operate party reachable
          (state.redis.setResetPointer accountId (some token)) (.storing accountId token))
      | _ => none
  | .setToken party reachable =>
      match state.phase party with
      | .storing accountId token => some (state.operate party reachable
          (state.redis.setResetToken token (some accountId)) .idle)
      | _ => none
  | .consumeReset party token hash reachable =>
      match state.phase party with
      | .idle =>
          if reachable then
            match state.redis.consumeResetToken token with
            | (redis, some accountId) => some { state.enter party (.replacing accountId hash) with
                redis
                consumed := accountId :: state.consumed }
            | (_, none) => some (state.enter party (.failed (authenticationError "invalid_password_reset_token")))
          else some (state.enter party (.failed stateUnavailable))
      | _ => none
  | .readReplace party =>
      match state.phase party with
      | .replacing accountId hash => some (state.enter party (.ofChecked
          (fun account => .saving (.resetPassword hash) account account)
          (accountToReset (state.table.getById accountId))))
      | _ => none
  | .login party email password =>
      match state.phase party with
      | .idle => some (state.enter party (.ofChecked (fun account => .granting account none)
          (loginAccount verifyPassword password (state.table.getByEmail email))))
      | _ => none
  | .rotate party serial reachable =>
      match state.phase party with
      | .idle => some (state.operate party reachable (state.redis.setRefresh serial none)
          (match state.redis.refresh serial with
          | some grant => .rotating grant
          | none => .failed (authenticationError "invalid_refresh_token")))
      | _ => none
  | .checkSession party reachable =>
      match state.phase party with
      | .rotating grant => some (state.operate party reachable state.redis
          (if state.redis.blockedSessions.contains grant.session then .failed (authenticationError "invalid_refresh_token")
          else .refreshing grant))
      | _ => none
  | .readRefresh party =>
      match state.phase party with
      | .refreshing grant => some (state.enter party (.ofChecked (fun account => .granting account (some grant.session))
          (accountOfGrant (authenticationError "invalid_refresh_token") grant (state.table.getById grant.accountId))))
      | _ => none
  | .present party grant decodes reachable =>
      match state.phase party with
      | .idle =>
          -- nobody can sign a token that was not issued
          if state.issued.contains grant then some (state.enter party
            (if !decodes then .failed (unauthorized "Invalid or expired access token.")
            else if !reachable then .failed (unauthorized "Authentication state is unavailable.")
            else if state.redis.blockedTokens.contains grant.serial || state.redis.blockedSessions.contains grant.session then
              .failed (unauthorized "Access token has been revoked.")
            else .checking grant))
          else none
      | _ => none
  | .readContext party =>
      match state.phase party with
      | .checking grant => some (state.enter party (.ofChecked (fun _ => .authorized grant)
          (accountOfGrant (unauthorized "Account is not authorized.") grant (state.table.getById grant.accountId))))
      | _ => none
  | .issue party serial session reachable =>
      match state.phase party with
      | .granting account given =>
          let grant : Grant := ⟨account.id, account.authVersion, given.getD session, serial⟩
          if reachable then some { state.enter party .idle with
            redis := state.redis.setRefresh serial (some grant)
            issued := grant :: state.issued }
          else some (state.enter party (.failed stateUnavailable))
      | _ => none
  | .reload party =>
      match state.phase party with
      | .saving update account _ =>
          match state.table.getById account.id with
          | some row => some (state.enter party (.saving update account row))
          | none => none
      | _ => none
  | .commit party =>
      match state.phase party with
      | .saving update account loaded =>
          match state.table.save (update.apply account) loaded with
          | .ok table => some { state.enter party (onward update (update.apply account)) with table }
          | .error failure => some (state.enter party (.failed (update.report failure)))
      | _ => none
  | .leave party => some (state.enter party .idle)
  | .expire key => some { state with redis := state.redis.expire key }

def initial (fold : Text → Text) : State fold where
  table := ⟨[], .nil, .nil, .nil⟩

/-! ## What a step can do -/

def Phase.snapshots : Phase → List AuthAccount
  | .updating account _ | .verifying account .. | .granting account _ => [account]
  | .saving _ account loaded => [account, loaded]
  | .idle | .failed _ | .sending .. | .linking _ | .joining _ | .resetting _ | .dropping .. | .pointing _ | .storing ..
  | .replacing .. | .rotating _ | .refreshing _ | .checking _ | .authorized _ | .leaving _ => []

def Phase.plain : Phase → Bool
  | .idle | .failed _ | .sending .. | .linking _ | .joining _ | .resetting _ | .dropping .. | .pointing _ | .storing ..
  | .rotating _ | .refreshing _ | .checking _ | .authorized _ | .leaving _ => true
  | .updating .. | .verifying .. | .granting .. | .saving .. | .replacing .. => false

/-- The changes of phase that leave the accounts, Redis and the records as they are. -/
inductive Turn (state : State fold) : Phase → Phase → Prop where
  | plain (before after : Phase) (plain : after.plain = true) : Turn state before after
  | updating (account : AuthAccount) (email : Text) (stored : account ∈ state.table.rows) :
      Turn state .idle (.updating account email)
  | checked (account : AuthAccount) (email : Text) :
      Turn state (.updating account email) (.saving (.updateEmail email) account account)
  | deactivating (account : AuthAccount) (stored : account ∈ state.table.rows) :
      Turn state .idle (.saving .deactivate account account)
  | verifying (account : AuthAccount) (email code : Text) (stored : account ∈ state.table.rows) :
      Turn state .idle (.verifying account email code)
  | linking (account : AuthAccount) (identity : GitHubIdentity) (stored : account ∈ state.table.rows) :
      Turn state (.linking identity) (.saving (.linkGithub identity.githubId) account account)
  | changing (account : AuthAccount) (hash : Text) (context : Grant) (stored : account ∈ state.table.rows) :
      Turn state .idle (.saving (.changePassword hash context) account account)
  | replacing (account : AuthAccount) (hash : Text) (stored : account ∈ state.table.rows) :
      Turn state (.replacing account.id hash) (.saving (.resetPassword hash) account account)
  | granting (before : Phase) (account : AuthAccount) (session : Option Nat) (stored : account ∈ state.table.rows) :
      Turn state before (.granting account session)
  | reloaded (update : AccountUpdate) (account loaded row : AuthAccount) (stored : row ∈ state.table.rows)
      (own : row.id = account.id) : Turn state (.saving update account loaded) (.saving update account row)

def State.writes (state : State fold) : Event → Option AuthAccount
  | .register _ id email hash => some (registeredAccount id email hash)
  | .addGithub party id =>
      match state.phase party with
      | .joining identity => some (githubAccount id identity)
      | _ => none
  | .commit party =>
      match state.phase party with
      | .saving update account loaded =>
          (state.table.getById account.id).map ((update.apply account).overwrite loaded)
      | _ => none
  | _ => none

/-- Every enabled event, with what its request stands on and where it leads. -/
inductive Move (state : State fold) : Event → State fold → Prop where
  | turned (event : Event) (party : Nat) (phase : Phase) (turn : Turn state (state.phase party) phase) :
      Move state event (state.enter party phase)
  | added (event : Event) (party : Nat) (account : AuthAccount) (table : AccountTable fold) (phase : Phase)
      (done : state.table.add account = .ok table) (writes : state.writes event = some account)
      (new : (∃ email hash, account = registeredAccount account.id email hash) ∧ phase.plain = true ∨
        (∃ identity, account = githubAccount account.id identity) ∧ phase = .granting account none) :
      Move state event { state.enter party phase with
        table, consumed := state.consumed.filter (· ≠ account.id) }
  | coded (party : Nat) (accountId : Uuid) (destination code : Text)
      (stands : state.phase party = .sending accountId destination) :
      Move state (.sendCode party code true) { state.enter party .idle with
        redis := state.redis.issueCode accountId destination code
        codes := ⟨accountId, destination, code⟩ :: state.codes }
  | verified (party : Nat) (account : AuthAccount) (email code : Text)
      (stands : state.phase party = .verifying account email code)
      (consumed : (state.redis.consumeCode ⟨account.id, email, code⟩).2 = 1) :
      Move state (.consumeCode party true) { state.enter party (.saving (.verifyEmail email code) account account) with
        redis := (state.redis.consumeCode ⟨account.id, email, code⟩).1
        consumed := account.id :: state.consumed }
  | reset (party : Nat) (token : Nat) (hash : Text) (accountId : Uuid) (redis : AuthRedis)
      (fewer : state.redis.Fewer redis) :
      Move state (.consumeReset party token hash true) { state.enter party (.replacing accountId hash) with
        redis, consumed := accountId :: state.consumed }
  | issued (party : Nat) (serial session : Nat) (account : AuthAccount) (given : Option Nat)
      (stands : state.phase party = .granting account given) :
      Move state (.issue party serial session true) { state.enter party .idle with
        redis := state.redis.setRefresh serial (some ⟨account.id, account.authVersion, given.getD session, serial⟩)
        issued := ⟨account.id, account.authVersion, given.getD session, serial⟩ :: state.issued }
  | saved (party : Nat) (update : AccountUpdate) (account loaded : AuthAccount) (table : AccountTable fold)
      (stands : state.phase party = .saving update account loaded)
      (done : state.table.save (update.apply account) loaded = .ok table) :
      Move state (.commit party) { state.enter party (onward update (update.apply account)) with table }
  | operated (event : Event) (party : Nat) (redis : AuthRedis) (phase : Phase) (fewer : state.redis.Fewer redis)
      (plain : phase.plain = true) : Move state event { state.enter party phase with redis }
  | expired (key : AuthRedis.Key) : Move state (.expire key) { state with redis := state.redis.expire key }

theorem Turn.decided {α : Type} {state : State fold} {before : Phase} {after : α → Phase} {result : Checked α}
    (onward : ∀ value, result = .ok value → Turn state before (after value)) :
    Turn state before (.ofChecked after result) := by
  cases result with
  | ok value => exact onward value rfl
  | error failure => exact .plain _ _ rfl

theorem operate_move {state : State fold} {event : Event} {party : Nat} {reachable : Bool} {redis : AuthRedis}
    {phase : Phase} (fewer : state.redis.Fewer redis) (plain : phase.plain = true) :
    Move state event (state.operate party reachable redis phase) := by
  unfold State.operate
  split
  · exact .operated event party redis phase fewer plain
  · exact .turned event party _ (.plain _ _ rfl)

theorem requiredAccount_ok {table : AccountTable fold} {accountId : Uuid} {account : AuthAccount}
    (read : requiredAccount (table.getById accountId) = .ok account) : account ∈ table.rows := by
  cases found : table.getById accountId with
  | none => rw [found] at read; cases read
  | some row =>
      rw [found] at read
      simp only [requiredAccount] at read
      split at read
      · cases read
        exact (AccountTable.getById_mem found).1
      · cases read

theorem accountToReset_ok {table : AccountTable fold} {accountId : Uuid} {account : AuthAccount}
    (read : accountToReset (table.getById accountId) = .ok account) : account ∈ table.rows ∧ account.id = accountId := by
  cases found : table.getById accountId with
  | none => rw [found] at read; cases read
  | some row =>
      rw [found] at read
      simp only [accountToReset] at read
      split at read
      · cases read
        exact AccountTable.getById_mem found
      · cases read

theorem accountToChange_ok {verifyPassword : Text → Text → Bool} {table : AccountTable fold} {accountId : Uuid}
    {current : Text} {account : AuthAccount}
    (read : accountToChange verifyPassword current (table.getById accountId) = .ok account) : account ∈ table.rows := by
  unfold accountToChange at read
  cases required : requiredAccount (table.getById accountId) with
  | error failure => rw [required] at read; cases read
  | ok row =>
      rw [required] at read
      simp only [bind, Except.bind] at read
      split at read
      · cases read
      · split at read
        · cases read
          exact requiredAccount_ok required
        · cases read

theorem accountOfGrant_ok {refusal : PyError} {grant : Grant} {row : Option AuthAccount} {account : AuthAccount}
    (read : accountOfGrant refusal grant row = .ok account) : row = some account ∧ account.authVersion = grant.authVersion := by
  cases row with
  | none => cases read
  | some stored =>
      simp only [accountOfGrant] at read
      split at read
      · rename_i fits
        cases read
        simp only [Bool.and_eq_true, beq_iff_eq] at fits
        exact ⟨rfl, fits.2⟩
      · cases read

theorem loginAccount_ok {verifyPassword : Text → Text → Bool} {password : Text} {row : Option AuthAccount}
    {account : AuthAccount} (read : loginAccount verifyPassword password row = .ok account) :
    row = some account ∧ account.isVerified = true := by
  cases row with
  | none => cases read
  | some stored =>
      simp only [loginAccount] at read
      split at read
      · split at read
        · cases read
        · split at read
          · cases read
          · split at read
            · cases read
            · rename_i verified
              cases read
              exact ⟨rfl, by simpa using verified⟩
      · cases read

theorem accountToVerify_ok {table : AccountTable fold} {email : Text} {choice : Uuid} {found : Option AuthAccount}
    {account : AuthAccount} (picked : table.pick email choice = some found)
    (read : accountToVerify found = .ok account) : account ∈ table.rows := by
  cases found with
  | none => cases read
  | some row =>
      simp only [accountToVerify] at read
      split at read
      · cases read
        exact (List.mem_filter.mp (AccountTable.pick_mem picked).1).1
      · cases read

theorem accountToLink_ok {identity : GitHubIdentity} {row account : AuthAccount}
    (read : accountToLink identity row = .ok account) : row = account := by
  unfold accountToLink at read
  split at read
  · split at read
    · cases read; rfl
    · cases read
  · cases read

theorem getByEmail_mem {table : AccountTable fold} {email : Text} {account : AuthAccount}
    (found : table.getByEmail email = some account) : account ∈ table.rows := List.mem_of_find?_eq_some found

variable {verifyPassword : Text → Text → Bool} {state next : State fold}

theorem consumeCode_move {party : Nat} {account : AuthAccount} {email code : Text}
    (stands : state.phase party = .verifying account email code)
    (taken : step verifyPassword state (.consumeCode party true) = some next) :
    Move state (.consumeCode party true) next := by
  simp only [step, stands, if_true] at taken
  split at taken
  · rename_i redis outcome
    cases taken
    have consumed : (state.redis.consumeCode ⟨account.id, email, code⟩).2 = 1 := congrArg Prod.snd outcome
    have same : redis = (state.redis.consumeCode ⟨account.id, email, code⟩).1 := (congrArg Prod.fst outcome).symm
    exact same ▸ .verified party account email code stands consumed
  · rename_i redis result _ outcome
    cases taken
    refine .operated _ party redis _ ?_ rfl
    have same : redis = (state.redis.consumeCode ⟨account.id, email, code⟩).1 := (congrArg Prod.fst outcome).symm
    exact same ▸ AuthRedis.fewer_consumeCode _

theorem register_move {party : Nat} {id : Uuid} {email hash : Text}
    (taken : step verifyPassword state (.register party id email hash) = some next) :
    Move state (.register party id email hash) next := by
  unfold step at taken
  dsimp only at taken
  split at taken
  · split at taken
    · rename_i table done
      cases taken
      exact .added _ party (registeredAccount id email hash) table _ done rfl (.inl ⟨⟨email, hash, rfl⟩, rfl⟩)
    · cases taken
      exact .turned _ party _ (.plain _ _ rfl)
  · cases taken

theorem sendCode_move {party : Nat} {code : Text} {reachable : Bool}
    (taken : step verifyPassword state (.sendCode party code reachable) = some next) :
    Move state (.sendCode party code reachable) next := by
  unfold step at taken
  dsimp only at taken
  split at taken
  · rename_i accountId destination stands
    split at taken
    · rename_i reached
      cases taken
      exact reached ▸ .coded party accountId destination code stands
    · cases taken
      exact .turned _ party _ (.plain _ _ rfl)
  · cases taken

theorem readUpdate_move {party : Nat} {accountId : Uuid} {email : Text}
    (taken : step verifyPassword state (.readUpdate party accountId email) = some next) :
    Move state (.readUpdate party accountId email) next := by
  unfold step at taken
  dsimp only at taken
  split at taken
  · rename_i stands
    cases taken
    refine .turned _ party _ (.decided fun account read => ?_)
    split
    · exact .plain _ _ rfl
    · exact stands ▸ .updating account email (requiredAccount_ok read)
  · cases taken

theorem readGithub_move {party : Nat} {identity : GitHubIdentity}
    (taken : step verifyPassword state (.readGithub party identity) = some next) :
    Move state (.readGithub party identity) next := by
  unfold step at taken
  dsimp only at taken
  split at taken
  · rename_i stands
    cases taken
    refine .turned _ party _ ?_
    split
    · rename_i account found
      split
      · exact .granting _ account none (List.mem_of_find?_eq_some found)
      · exact .plain _ _ rfl
    · exact .plain _ _ rfl
  · cases taken

theorem readGithubEmail_move {party : Nat}
    (taken : step verifyPassword state (.readGithubEmail party) = some next) :
    Move state (.readGithubEmail party) next := by
  unfold step at taken
  dsimp only at taken
  split at taken
  · rename_i identity stands
    cases taken
    refine .turned _ party _ ?_
    split
    · rename_i row found
      refine .decided fun account read => ?_
      have stored : account ∈ state.table.rows := accountToLink_ok read ▸ getByEmail_mem found
      exact stands ▸ .linking account identity stored
    · exact .plain _ _ rfl
  · cases taken

theorem addGithub_move {party : Nat} {id : Uuid}
    (taken : step verifyPassword state (.addGithub party id) = some next) :
    Move state (.addGithub party id) next := by
  unfold step at taken
  dsimp only at taken
  split at taken
  · rename_i identity stands
    split at taken
    · rename_i table done
      cases taken
      have writes : state.writes (.addGithub party id) = some (githubAccount id identity) := by
        simp only [State.writes, stands]
      exact .added _ party (githubAccount id identity) table _ done writes (.inr ⟨⟨identity, rfl⟩, rfl⟩)
    · cases taken
      exact .turned _ party _ (.plain _ _ rfl)
  · cases taken

theorem consumeReset_move {party token : Nat} {hash : Text} {reachable : Bool}
    (taken : step verifyPassword state (.consumeReset party token hash reachable) = some next) :
    Move state (.consumeReset party token hash reachable) next := by
  unfold step at taken
  dsimp only at taken
  split at taken
  · split at taken
    · rename_i reached
      split at taken
      · rename_i redis accountId outcome
        cases taken
        have same : redis = (state.redis.consumeResetToken token).1 := (congrArg Prod.fst outcome).symm
        exact reached ▸ .reset party token hash accountId redis (same ▸ AuthRedis.fewer_consumeResetToken token)
      · cases taken
        exact .turned _ party _ (.plain _ _ rfl)
    · cases taken
      exact .turned _ party _ (.plain _ _ rfl)
  · cases taken

theorem readReplace_move {party : Nat}
    (taken : step verifyPassword state (.readReplace party) = some next) : Move state (.readReplace party) next := by
  unfold step at taken
  dsimp only at taken
  split at taken
  · rename_i accountId hash stands
    cases taken
    refine .turned _ party _ (.decided fun account read => ?_)
    obtain ⟨stored, own⟩ := accountToReset_ok read
    rw [stands, ← own]
    exact .replacing account hash stored
  · cases taken

theorem present_move {party : Nat} {grant : Grant} {decodes reachable : Bool}
    (taken : step verifyPassword state (.present party grant decodes reachable) = some next) :
    Move state (.present party grant decodes reachable) next := by
  unfold step at taken
  dsimp only at taken
  split at taken
  · split at taken
    · cases taken
      refine .turned _ party _ (.plain _ _ ?_)
      split
      · rfl
      · split
        · rfl
        · split <;> rfl
    · cases taken
  · cases taken

theorem issue_move {party serial session : Nat} {reachable : Bool}
    (taken : step verifyPassword state (.issue party serial session reachable) = some next) :
    Move state (.issue party serial session reachable) next := by
  unfold step at taken
  dsimp only at taken
  split at taken
  · rename_i account given stands
    split at taken
    · rename_i reached
      cases taken
      exact reached ▸ .issued party serial session account given stands
    · cases taken
      exact .turned _ party _ (.plain _ _ rfl)
  · cases taken

theorem reload_move {party : Nat}
    (taken : step verifyPassword state (.reload party) = some next) : Move state (.reload party) next := by
  unfold step at taken
  dsimp only at taken
  split at taken
  · rename_i update account loaded stands
    split at taken
    · rename_i row found
      cases taken
      obtain ⟨stored, own⟩ := AccountTable.getById_mem found
      exact .turned _ party _ (stands ▸ .reloaded update account loaded row stored own)
    · cases taken
  · cases taken

theorem commit_move {party : Nat}
    (taken : step verifyPassword state (.commit party) = some next) : Move state (.commit party) next := by
  unfold step at taken
  dsimp only at taken
  split at taken
  · rename_i update account loaded stands
    split at taken
    · rename_i table done
      cases taken
      exact .saved party update account loaded table stands done
    · cases taken
      exact .turned _ party _ (.plain _ _ rfl)
  · cases taken

/-- Every step is a move. -/
theorem step_move {event : Event} (taken : step verifyPassword state event = some next) :
    Move state event next := by
  -- what writes a row has a lemma of its own; the other branches move the party's phase or a key of Redis
  cases event with
  | register party id email hash => exact register_move taken
  | sendCode party code reachable => exact sendCode_move taken
  | readUpdate party accountId email => exact readUpdate_move taken
  | checkEmail party =>
      unfold step at taken
      dsimp only at taken
      split at taken
      · rename_i account email stands
        cases taken
        refine .turned _ party _ ?_
        split
        · exact .plain _ _ rfl
        · exact stands ▸ .checked account email
      · cases taken
  | readDeactivate party accountId =>
      unfold step at taken
      dsimp only at taken
      split at taken
      · rename_i stands
        cases taken
        exact .turned _ party _ (.decided fun account read => stands ▸ .deactivating account (requiredAccount_ok read))
      · cases taken
  | readVerify party email code choice =>
      unfold step at taken
      dsimp only at taken
      split at taken
      · rename_i found stands picked
        cases taken
        exact .turned _ party _ (.decided fun account read =>
          stands ▸ .verifying account email code (accountToVerify_ok picked read))
      · cases taken
  | consumeCode party reachable =>
      cases reachable with
      | true =>
          cases stands : state.phase party with
          | verifying account email code => exact consumeCode_move stands taken
          | _ => simp only [step, stands] at taken; cases taken
      | false =>
          unfold step at taken
          dsimp only at taken
          split at taken
          · cases taken
            exact .turned _ party _ (.plain _ _ rfl)
          · cases taken
  | readResend party email choice =>
      unfold step at taken
      dsimp only at taken
      split at taken
      · cases taken
        refine .turned _ party _ (.plain _ _ ?_)
        split <;> rfl
      · cases taken
        exact .turned _ party _ (.plain _ _ rfl)
      · cases taken
  | readGithub party identity => exact readGithub_move taken
  | readGithubEmail party => exact readGithubEmail_move taken
  | addGithub party id => exact addGithub_move taken
  | readChange party accountId current hash context =>
      unfold step at taken
      dsimp only at taken
      split at taken
      · rename_i stands
        cases taken
        exact .turned _ party _ (.decided fun account read =>
          stands ▸ .changing account hash context (accountToChange_ok read))
      · cases taken
  | logout party reachable =>
      unfold step at taken
      dsimp only at taken
      split at taken
      · cases taken
        exact operate_move (.of_eq rfl) rfl
      · cases taken
  | readReset party email =>
      unfold step at taken
      dsimp only at taken
      split at taken
      · cases taken
        refine .turned _ party _ (.plain _ _ ?_)
        split
        · split <;> rfl
        · rfl
      · cases taken
  | getPointer party reachable =>
      unfold step at taken
      dsimp only at taken
      split at taken
      · cases taken
        exact operate_move (.of_eq rfl) rfl
      · cases taken
  | dropToken party reachable =>
      unfold step at taken
      dsimp only at taken
      split at taken
      · cases taken
        refine operate_move (.of_eq ?_) rfl
        split <;> rfl
      · cases taken
  | setPointer party token reachable =>
      unfold step at taken
      dsimp only at taken
      split at taken
      · cases taken
        exact operate_move (.of_eq rfl) rfl
      · cases taken
  | setToken party reachable =>
      unfold step at taken
      dsimp only at taken
      split at taken
      · cases taken
        exact operate_move (.of_eq rfl) rfl
      · cases taken
  | consumeReset party token hash reachable => exact consumeReset_move taken
  | readReplace party => exact readReplace_move taken
  | login party email password =>
      unfold step at taken
      dsimp only at taken
      split at taken
      · cases taken
        exact .turned _ party _ (.decided fun account read =>
          .granting _ account none (getByEmail_mem (loginAccount_ok read).1))
      · cases taken
  | rotate party serial reachable =>
      unfold step at taken
      dsimp only at taken
      split at taken
      · cases taken
        refine operate_move (.of_eq rfl) ?_
        split <;> rfl
      · cases taken
  | checkSession party reachable =>
      unfold step at taken
      dsimp only at taken
      split at taken
      · cases taken
        refine operate_move (.of_eq rfl) ?_
        split <;> rfl
      · cases taken
  | readRefresh party =>
      unfold step at taken
      dsimp only at taken
      split at taken
      · cases taken
        exact .turned _ party _ (.decided fun account read =>
          .granting _ account _ (AccountTable.getById_mem (accountOfGrant_ok read).1).1)
      · cases taken
  | present party grant decodes reachable => exact present_move taken
  | readContext party =>
      unfold step at taken
      dsimp only at taken
      split at taken
      · cases taken
        exact .turned _ party _ (.decided fun _ _ => .plain _ _ rfl)
      · cases taken
  | issue party serial session reachable => exact issue_move taken
  | reload party => exact reload_move taken
  | commit party => exact commit_move taken
  | leave party =>
      cases taken
      exact .turned _ party _ (.plain _ _ rfl)
  | expire key =>
      cases taken
      exact .expired key

end Tiber.AccountRuns
