import Tiber.System.AccountHistory

/-! Which address a verification makes the email of an account.

A code is issued for one account and one address, and is consumed with both. But what becomes the email is
the pending address that was read with the account, and that need not be the address of the request.
-/

set_option autoImplicit false

namespace Tiber.AccountRuns

open Library

variable {fold : Text → Text} {verifyPassword : Text → Text → Bool}

def activated (account : AuthAccount) : Text := account.pendingEmail.getD account.email

/-- A verification activates the address of its request, or the email that the account has already. -/
def State.activatesRequest (state : State fold) : Event → Bool
  | .commit party =>
      match state.phase party with
      | .saving (.verifyEmail email _) account _ => activated account = email ||
          state.table.rows.all fun row => row.id ≠ account.id || row.email = activated account
      | _ => true
  | _ => true

structure Issued (state : State fold) : Prop where
  stored : ∀ accountId digest, state.redis.code accountId = some digest → digest ∈ state.codes
  consumed : ∀ party email code account loaded,
    state.phase party = .saving (.verifyEmail email code) account loaded → ⟨account.id, email, code⟩ ∈ state.codes

theorem issued_initial : Issued (initial fold) := ⟨fun _ _ => nofun, fun _ _ _ _ _ => nofun⟩

variable {state next : State fold} {event : Event}

theorem Issued.move (issued : Issued state) (move : Move state event next) : Issued next := by
  obtain ⟨more, stored⟩ := move.codes
  constructor
  · intro accountId digest there
    exact (stored accountId digest there).elim (fun before => more (issued.stored accountId digest before)) id
  · intro party email code account loaded stands
    obtain ⟨last, before⟩ | ⟨there, -⟩ := move.verifying stands
    · exact more (issued.consumed party email code account last before)
    · exact more (issued.stored account.id _ there)

/-- In a run in which every verification activates the address of its request, whatever it makes the email of an
account is the address that its code was issued for. -/
theorem proven_address {events : List Event} {party : Nat}
    (orderly : Machine.Along (step verifyPassword) (fun state event => state.activatesRequest event = true)
      (initial fold) (events ++ [.commit party]))
    (reached : Machine.run (step verifyPassword) (initial fold) events = some state)
    {email code : Text} {account loaded : AuthAccount}
    (stands : state.phase party = .saving (.verifyEmail email code) account loaded)
    (committed : step verifyPassword state (.commit party) = some next) {row later : AuthAccount}
    (stored : row ∈ state.table.rows) (left : later ∈ next.table.rows) (same : later.id = row.id)
    (changed : later.email ≠ row.email) :
    row.id = account.id ∧ later.email = email ∧ ⟨account.id, email, code⟩ ∈ state.codes := by
  have keeps : Machine.Keeps (step verifyPassword) (fun _ _ => True) (@Issued fold) :=
    fun _ _ _ issued _ taken => issued.move (step_move taken)
  have issued := keeps.run issued_initial (Machine.along_true _ _) reached
  have allowed := (Machine.along_append orderly reached).2.1
  simp only [State.activatesRequest, stands, Bool.or_eq_true, List.all_eq_true, decide_eq_true_eq] at allowed
  obtain there | ⟨⟨-, fresh, -⟩ | ⟨update, read, last, saves, old, there, own, rfl⟩⟩ :=
    (step_move committed).rows left
  · exact absurd (congrArg AuthAccount.email (AccountTable.id_inj there stored same)) changed
  · exact absurd same.symm (fresh row stored)
  · obtain ⟨other, here, saving⟩ := saves.here
    cases here
    cases stands.symm.trans saving
    cases AccountTable.id_inj there stored same
    refine ⟨own, ?_, issued.consumed party email code account loaded stands⟩
    have written := AuthAccount.column_cases ((AccountUpdate.verifyEmail email code).apply account).email loaded.email row.email
    obtain kept | active := written
    · exact absurd kept changed
    · obtain request | already := allowed
      · exact active.trans request
      · exact absurd (active.trans ((already row stored).resolve_left (not_not_intro own)).symm) changed

/-! ## An email change whose code is never issued -/

def foldCase (text : Text) : Text := text.map Char.toLower

def samePassword (password hash : Text) : Bool := password == hash

def first : Text := "ann@old.example".toList

def second : Text := "ann@new.example".toList

/-- Ann registers, is linked by GitHub before she presents her code, and asks for another address. -/
def changingEmail (reachable : Bool) : List Event :=
  [.register 0 1 first "secret".toList, .sendCode 0 "123456".toList true,
    .readGithub 1 ⟨"77".toList, first⟩, .readGithubEmail 1, .commit 1,
    .readUpdate 2 1 second, .checkEmail 2, .commit 2, .sendCode 2 "654321".toList reachable]

/-- Redis does not take the new code, and the one for the old address makes the new one the email. -/
theorem unproven_address_activated :
    ∃ state next account, Machine.run (step samePassword) (initial foldCase)
        (changingEmail false ++ [.readVerify 3 first "123456".toList 1, .consumeCode 3 true]) = some state ∧
      state.phase 3 = .saving (.verifyEmail first "123456".toList) account account ∧
      step samePassword state (.commit 3) = some next ∧
      (state.table.rows.map (·.email) = [first] ∧ next.table.rows.map (·.email) = [second]) ∧
      ∀ digest ∈ state.codes, digest.email ≠ second :=
  ⟨_, _, _, rfl, rfl, rfl, ⟨by decide, by decide⟩, by decide⟩

theorem new_address_activated :
    ∃ (state next : State foldCase) (account row later : AuthAccount), Machine.run (step samePassword) (initial foldCase)
        (changingEmail true ++ [.readVerify 3 second "654321".toList 1, .consumeCode 3 true]) = some state ∧
      step samePassword state (.commit 3) = some next ∧ row ∈ state.table.rows ∧ later ∈ next.table.rows ∧
      later.email ≠ row.email ∧ row.id = account.id ∧ later.email = second ∧
      ⟨account.id, second, "654321".toList⟩ ∈ state.codes :=
  ⟨_, _, _, _, _, rfl, rfl, .head _, .head _, by decide,
    @proven_address foldCase samePassword _ _
      (changingEmail true ++ [.readVerify 3 second "654321".toList 1, .consumeCode 3 true]) 3 (by decide) rfl second _ _ _
      rfl rfl _ _ (.head _) (.head _) rfl (by decide)⟩

end Tiber.AccountRuns
