import Tiber.Application.AuthTokens
import Tiber.Library.Spelling

/-! Accounts as the authentication service sees them: what each operation decides from what it has read. -/

set_option autoImplicit false

namespace Tiber

open Library

/-- The operation that set a password. The code does not store it. -/
inductive PasswordOrigin where
  | register
  | change
  | reset
  deriving DecidableEq, Repr

structure PasswordHash where
  hash : Text
  origin : PasswordOrigin
  deriving DecidableEq

/-- `AuthAccount`, without its role and time stamps. -/
structure AuthAccount where
  id : Uuid
  email : Text
  isVerified : Bool
  isActive : Bool
  authVersion : Nat
  pendingEmail : Option Text := none
  passwordHash : Option PasswordHash := none
  githubId : Option Text := none
  deriving DecidableEq

def authenticationError (code : String) : PyError := .raised "AuthenticationOperationError" code

def accountIdentityConflict : PyError := .raised "AccountIdentityConflictError" ""

/-! ## New accounts -/

def registeredAccount (id : Uuid) (email hash : Text) : AuthAccount where
  id
  email
  isVerified := false
  isActive := true
  authVersion := 0
  passwordHash := some { hash, origin := .register }

/-- The verified email and the user id that GitHub answers with. -/
structure GitHubIdentity where
  githubId : Text
  email : Text
  deriving DecidableEq

def githubAccount (id : Uuid) (identity : GitHubIdentity) : AuthAccount where
  id
  email := identity.email
  isVerified := true
  isActive := true
  authVersion := 0
  githubId := some identity.githubId

/-! ## Changes to an account -/

/-- The operations that save an account they have read. A verification keeps the address and the code of its
request, a password change the grant it was authorized by. -/
inductive AccountUpdate where
  | updateEmail (email : Text)
  | deactivate
  | verifyEmail (email code : Text)
  | linkGithub (githubId : Text)
  | changePassword (hash : Text) (context : Grant)
  | resetPassword (hash : Text)
  deriving DecidableEq

namespace AccountUpdate

def apply (update : AccountUpdate) (account : AuthAccount) : AuthAccount :=
  match update with
  | updateEmail email => { account with pendingEmail := some email }
  | deactivate => {
      id := account.id
      email := "deleted-".toList ++ Spelling.uuid.write account.id ++ "@deleted.invalid".toList
      isVerified := false
      isActive := false
      authVersion := account.authVersion + 1 }
  | verifyEmail .. => { account with
      email := account.pendingEmail.getD account.email
      pendingEmail := none
      isVerified := true
      authVersion := account.authVersion + 1 }
  | linkGithub githubId => { account with githubId := some githubId, isVerified := true }
  | changePassword hash _ => { account with
      passwordHash := some { hash, origin := .change }
      authVersion := account.authVersion + 1 }
  | resetPassword hash => { account with
      passwordHash := some { hash, origin := .reset }
      authVersion := account.authVersion + 1 }

def invalidates : AccountUpdate → Bool
  | verifyEmail .. | deactivate | changePassword .. | resetPassword _ => true
  | updateEmail _ | linkGithub _ => false

def report (update : AccountUpdate) (failure : PyError) : PyError :=
  if failure = accountIdentityConflict then
    match update with
    | deactivate => authenticationError "account_identity_conflict"
    | verifyEmail .. => authenticationError "email_identity_conflict"
    | linkGithub _ => authenticationError "github_identity_conflict"
    | updateEmail _ | changePassword .. | resetPassword _ => failure
  else failure

@[simp] theorem apply_id (update : AccountUpdate) (account : AuthAccount) : (update.apply account).id = account.id := by
  cases update <;> rfl

@[simp] theorem apply_authVersion (update : AccountUpdate) (account : AuthAccount) :
    (update.apply account).authVersion = account.authVersion + if update.invalidates then 1 else 0 := by
  cases update <;> rfl

end AccountUpdate

/-! ## Saving -/

namespace AuthAccount

/-- One column of an UPDATE: it is set only where it differs from what the session has loaded last. -/
def column {α : Type} [DecidableEq α] (saved loaded stored : α) : α := if saved = loaded then stored else saved

/-- The row after `save`, from the account saved, the row as the session has it, and the row as it is stored. -/
def overwrite (saved loaded stored : AuthAccount) : AuthAccount where
  id := stored.id
  email := column saved.email loaded.email stored.email
  isVerified := column saved.isVerified loaded.isVerified stored.isVerified
  isActive := column saved.isActive loaded.isActive stored.isActive
  authVersion := column saved.authVersion loaded.authVersion stored.authVersion
  pendingEmail := column saved.pendingEmail loaded.pendingEmail stored.pendingEmail
  passwordHash := column saved.passwordHash loaded.passwordHash stored.passwordHash
  githubId := column saved.githubId loaded.githubId stored.githubId

theorem column_cases {α : Type} [DecidableEq α] (saved loaded stored : α) :
    column saved loaded stored = stored ∨ column saved loaded stored = saved := by
  unfold column
  split
  · exact .inl rfl
  · exact .inr rfl

@[simp] theorem column_same {α : Type} [DecidableEq α] (saved loaded : α) : column saved loaded loaded = saved := by
  unfold column
  split
  · exact Eq.symm ‹_›
  · rfl

theorem overwrite_same {saved loaded : AuthAccount} (own : saved.id = loaded.id) : saved.overwrite loaded loaded = saved := by
  cases saved
  cases own
  simp only [overwrite, column_same]

end AuthAccount

/-! ## Decisions -/

def requiredAccount : Option AuthAccount → Checked AuthAccount
  | some account => if account.isActive then .ok account else .error (authenticationError "account_not_authorized")
  | none => .error (authenticationError "account_not_authorized")

/-- The check on the account behind a token, with the error of its caller. -/
def accountOfGrant (refusal : PyError) (grant : Grant) : Option AuthAccount → Checked AuthAccount
  | some account =>
      if account.isActive && account.isVerified && account.authVersion == grant.authVersion then .ok account
      else .error refusal
  | none => .error refusal

/-- `login`, for the given `verify_password`. -/
def loginAccount (verifyPassword : Text → Text → Bool) (password : Text) : Option AuthAccount → Checked AuthAccount
  | some account =>
      match account.passwordHash with
      | some stored =>
          if !account.isActive then .error (authenticationError "invalid_credentials")
          else if !verifyPassword password stored.hash then .error (authenticationError "invalid_credentials")
          else if !account.isVerified then .error (authenticationError "email_not_verified")
          else .ok account
      | none => .error (authenticationError "invalid_credentials")
  | none => .error (authenticationError "invalid_credentials")

/-- `change_password` up to its save. -/
def accountToChange (verifyPassword : Text → Text → Bool) (current : Text) (row : Option AuthAccount) :
    Checked AuthAccount := do
  let account ← requiredAccount row
  match account.passwordHash with
  | none => .error (authenticationError "no_password_set")
  | some stored =>
      if verifyPassword current stored.hash then .ok account
      else .error (authenticationError "invalid_current_password")

/-- `reset_password` up to its save. -/
def accountToReset : Option AuthAccount → Checked AuthAccount
  | some account =>
      if account.isActive then .ok account else .error (authenticationError "invalid_password_reset_token")
  | none => .error (authenticationError "invalid_password_reset_token")

def accountToVerify : Option AuthAccount → Checked AuthAccount
  | some account =>
      if account.isActive then .ok account else .error (authenticationError "invalid_verification_code")
  | none => .error (authenticationError "invalid_verification_code")

/-- Whether `resend_verification` sends a code. -/
def AuthAccount.awaitsCode (account : AuthAccount) (email : Text) : Bool :=
  account.isActive && (!account.isVerified || account.pendingEmail = some email)

def accountToLink (identity : GitHubIdentity) (account : AuthAccount) : Checked AuthAccount :=
  if account.githubId.all (· = identity.githubId) then
    if account.isActive then .ok account else .error (authenticationError "account_not_authorized")
  else .error (authenticationError "github_identity_conflict")

end Tiber
