import Tiber.System.PasswordProof

/-! When a change of credentials puts an end to the tokens issued before it.

A token carries the version its account had, and is accepted at that version only. A change counts the version
up from what it has read, so it ends the older tokens where what it has read is still in the row.
-/

set_option autoImplicit false

namespace Tiber.AccountRuns

open Library

variable {fold : Text → Text} {verifyPassword : Text → Text → Bool}

/-- A save finds the version in the row that its request has read, or leaves the column alone. -/
def State.savesCurrent (state : State fold) : Event → Bool
  | .commit party =>
      match state.phase party with
      | .saving update account loaded => (!update.invalidates && loaded.authVersion == account.authVersion) ||
          state.table.rows.all fun row => row.id ≠ account.id || row.authVersion = account.authVersion
      | _ => true
  | _ => true

def AtLeast (state : State fold) (accountId : Uuid) (version : Nat) : Prop :=
  ∃ row ∈ state.table.rows, row.id = accountId ∧ version ≤ row.authVersion

/-- No request and no token is ahead of the row. -/
structure Bounded (state : State fold) : Prop where
  loaded : ∀ party update account loaded, state.phase party = .saving update account loaded → loaded.id = account.id
  held : ∀ party, ∀ account ∈ (state.phase party).snapshots, AtLeast state account.id account.authVersion
  issued : ∀ grant ∈ state.issued, AtLeast state grant.accountId grant.authVersion

theorem bounded_initial : Bounded (initial fold) := ⟨fun _ _ _ _ => nofun, fun _ _ => nofun, fun _ => nofun⟩

variable {state next : State fold} {event : Event}

theorem AtLeast.le {accountId : Uuid} {version : Nat} (least : AtLeast state accountId version) {row : AuthAccount}
    (stored : row ∈ state.table.rows) (own : row.id = accountId) : version ≤ row.authVersion := by
  obtain ⟨other, there, same, behind⟩ := least
  exact AccountTable.id_inj there stored (same.trans own.symm) ▸ behind

/-- A save counts the version up by one, or keeps it. -/
theorem Saves.version {update : AccountUpdate} {account loaded row : AuthAccount}
    (saves : Saves state next event update account loaded) (current : state.savesCurrent event = true)
    (bounded : Bounded state) (stored : row ∈ state.table.rows) (own : row.id = account.id) :
    ((update.apply account).overwrite loaded row).authVersion = row.authVersion + if update.invalidates then 1 else 0 := by
  obtain ⟨party, rfl, stands⟩ := saves.here
  -- what the session has loaded is not ahead of the row
  have behind : loaded.authVersion ≤ row.authVersion := by
    refine (bounded.held party loaded (by rw [stands]; exact .tail _ (.head _))).le stored (own.trans ?_)
    exact (bounded.loaded party update account loaded stands).symm
  simp only [AuthAccount.overwrite, AuthAccount.column, AccountUpdate.apply_authVersion]
  simp only [State.savesCurrent, stands, Bool.or_eq_true, Bool.and_eq_true, Bool.not_eq_true', beq_iff_eq,
    List.all_eq_true, decide_eq_true_eq] at current
  obtain ⟨keeps, same⟩ | found := current
  · simp [keeps, same]
  · have version := (found row stored).resolve_left (not_not_intro own)
    cases update.invalidates with
    | true =>
        simp only [if_true]
        split <;> omega
    | false =>
        simp only [Bool.false_eq_true, if_false, Nat.add_zero]
        split <;> omega

theorem Move.version (move : Move state event next) (current : state.savesCurrent event = true)
    (bounded : Bounded state) {row : AuthAccount} (stored : row ∈ state.table.rows) :
    ∃ later ∈ next.table.rows, later.id = row.id ∧ row.authVersion ≤ later.authVersion := by
  obtain ⟨later, there, same⟩ := move.kept stored
  refine ⟨later, there, same, ?_⟩
  obtain kept | ⟨-, fresh, -⟩ | ⟨update, account, loaded, saves, old, before, own, rfl⟩ := move.rows there
  · rw [AccountTable.id_inj kept stored same]
  · exact absurd same.symm (fresh row stored)
  · have copied : old = row := AccountTable.id_inj before stored same
    subst copied
    rw [saves.version current bounded before own]
    exact Nat.le_add_right _ _

theorem AtLeast.move {accountId : Uuid} {version : Nat} (least : AtLeast state accountId version)
    (move : Move state event next) (current : state.savesCurrent event = true) (bounded : Bounded state) :
    AtLeast next accountId version := by
  obtain ⟨row, stored, own, behind⟩ := least
  obtain ⟨later, there, same, onward⟩ := move.version current bounded stored
  exact ⟨later, there, same.trans own, Nat.le_trans behind onward⟩

theorem Saves.atLeast {update : AccountUpdate} {account loaded : AuthAccount}
    (saves : Saves state next event update account loaded) (current : state.savesCurrent event = true)
    (bounded : Bounded state) : AtLeast next account.id (update.apply account).authVersion := by
  obtain ⟨party, held, -⟩ := saves.snapshots
  obtain ⟨row, stored, own, behind⟩ := bounded.held party account held
  refine ⟨_, saves.written row stored own, own, ?_⟩
  rw [saves.version current bounded stored own, AccountUpdate.apply_authVersion]
  exact Nat.add_le_add_right behind _

theorem Bounded.move (bounded : Bounded state) (current : state.savesCurrent event = true)
    (move : Move state event next) : Bounded next := by
  refine ⟨?_, ?_, ?_⟩
  · intro party update account loaded stands
    exact (move.saving stands).elim (bounded.loaded party update account loaded) id
  · intro party account member
    obtain held | stored | stored | ⟨update, read, loaded, saves, rfl⟩ := move.snapshots member
    · exact (bounded.held party account held).move move current bounded
    · exact AtLeast.move ⟨account, stored, rfl, Nat.le_refl _⟩ move current bounded
    · exact ⟨account, stored, rfl, Nat.le_refl _⟩
    · rw [update.apply_id]
      exact saves.atLeast current bounded
  · intro grant member
    obtain old | ⟨party, account, session, stands, same, version⟩ := move.tokens member
    · exact (bounded.issued grant old).move move current bounded
    · rw [same, version]
      exact (bounded.held party account (by rw [stands]; exact .head _)).move move current bounded

/-! ## Tokens left behind -/

structure Outdated (grant : Grant) (state : State fold) : Prop where
  bounded : Bounded state
  past : AtLeast state grant.accountId (grant.authVersion + 1)

theorem Outdated.move {grant : Grant} (outdated : Outdated grant state) (current : state.savesCurrent event = true)
    (move : Move state event next) : Outdated grant next where
  bounded := outdated.bounded.move current move
  past := outdated.past.move move current outdated.bounded

/-- A change of credentials outdates the tokens issued before it. -/
theorem Saves.outdates {update : AccountUpdate} {account loaded : AuthAccount}
    (saves : Saves state next event update account loaded) (invalidates : update.invalidates = true)
    (current : state.savesCurrent event = true) (bounded : Bounded state) (move : Move state event next) {grant : Grant}
    (older : grant ∈ state.issued) (own : grant.accountId = account.id) : Outdated grant next := by
  refine ⟨bounded.move current move, ?_⟩
  obtain ⟨row, stored, same, behind⟩ := bounded.issued grant older
  refine ⟨_, saves.written row stored (same.trans own), same, ?_⟩
  rw [saves.version current bounded stored (same.trans own), invalidates]
  exact Nat.add_le_add_right behind 1

theorem Outdated.refused {grant : Grant} (outdated : Outdated grant state) (refusal : PyError) :
    accountOfGrant refusal grant (state.table.getById grant.accountId) = .error refusal := by
  cases decided : accountOfGrant refusal grant (state.table.getById grant.accountId) with
  | ok account =>
      obtain ⟨found, version⟩ := accountOfGrant_ok decided
      obtain ⟨stored, own⟩ := AccountTable.getById_mem found
      have ahead := outdated.past.le stored own
      omega
  | error failure =>
      cases found : state.table.getById grant.accountId with
      | none => rw [found] at decided; cases decided; rfl
      | some row =>
          rw [found] at decided
          simp only [accountOfGrant] at decided
          split at decided <;> cases decided
          rfl

/-- A request that presents an outdated token, as an access token or to be refreshed, is turned down. -/
def TurnedDown (verifyPassword : Text → Text → Bool) (grant : Grant) (state : State fold) : Prop :=
  ∀ party next,
    (state.phase party = .checking grant → step verifyPassword state (.readContext party) = some next →
      next.phase party = .failed (unauthorized "Account is not authorized.")) ∧
    (state.phase party = .refreshing grant → step verifyPassword state (.readRefresh party) = some next →
      next.phase party = .failed (authenticationError "invalid_refresh_token"))

theorem Outdated.turnedDown {grant : Grant} (outdated : Outdated grant state) : TurnedDown verifyPassword grant state := by
  intro party next
  constructor
  · intro stands taken
    simp only [step, stands, outdated.refused, Phase.ofChecked, Option.some.injEq] at taken
    rw [← taken]
    exact Function.update_self ..
  · intro stands taken
    simp only [step, stands, outdated.refused, Phase.ofChecked, Option.some.injEq] at taken
    rw [← taken]
    exact Function.update_self ..

/-- In a run in which every save finds the version it has read, no token issued before a change of credentials is
accepted after its commit. -/
theorem older_tokens_refused {before after late : State fold} {first rest : List Event} {party : Nat}
    (current : Machine.Along (step verifyPassword) (fun state event => state.savesCurrent event = true)
      (initial fold) (first ++ .commit party :: rest))
    (reached : Machine.run (step verifyPassword) (initial fold) first = some before)
    {update : AccountUpdate} {account loaded : AuthAccount}
    (stands : before.phase party = .saving update account loaded) (invalidates : update.invalidates = true)
    (done : before.table.save (update.apply account) loaded = .ok after.table)
    (committed : step verifyPassword before (.commit party) = some after)
    (later : Machine.run (step verifyPassword) after rest = some late) {grant : Grant} (older : grant ∈ before.issued)
    (own : grant.accountId = account.id) : TurnedDown verifyPassword grant late := by
  obtain ⟨start, ⟨now, onward⟩⟩ := Machine.along_append current reached
  have keeps : Machine.Keeps (step verifyPassword) (fun (state : State fold) event => state.savesCurrent event = true)
      Bounded := fun _ _ _ bounded current taken => bounded.move current (step_move taken)
  have stays : Machine.Keeps (step verifyPassword) (fun (state : State fold) event => state.savesCurrent event = true)
      (Outdated grant) := fun _ _ _ outdated current taken => outdated.move current (step_move taken)
  have bounded := keeps.run bounded_initial start reached
  have outdated := (Saves.of_done stands done).outdates invalidates now bounded (step_move committed) older own
  exact (stays.run outdated (onward after committed) later).turnedDown

/-! ## Two changes at once -/

def firstGrant : Grant := ⟨1, 1, 0, 0⟩

/-- The tokens of whoever logs in with the password of the change that is committed first. -/
def betweenGrant : Grant := ⟨1, 2, 5, 5⟩

/-- Two requests read the account to change its password, one commits, and its password is used. -/
def overlapping : List Event := provenRegistration ++
  [.readChange 2 1 "ann".toList "one".toList firstGrant, .readChange 3 1 "ann".toList "two".toList firstGrant, .commit 2,
    .login 4 first "one".toList, .issue 4 5 5 true]

/-- The second change leaves the version as it is, and the tokens from before it are accepted. -/
theorem older_token_accepted :
    ∃ (before after late next : State foldCase) (account : AuthAccount),
      Machine.run (step samePassword) (initial foldCase) overlapping = some before ∧
      before.phase 3 = .saving (.changePassword "two".toList firstGrant) account account ∧
      step samePassword before (.commit 3) = some after ∧
      after.table.rows.map (·.passwordHash) = [some ⟨"two".toList, .change⟩] ∧
      betweenGrant ∈ before.issued ∧ betweenGrant.accountId = account.id ∧
      Machine.run (step samePassword) after [.present 5 betweenGrant true true] = some late ∧
      step samePassword late (.readContext 5) = some next ∧ next.phase 5 = .authorized betweenGrant :=
  ⟨_, _, _, _, _, rfl, rfl, rfl, by decide, .head _, rfl, rfl, rfl, rfl⟩

theorem first_token_refused :
    ∃ (before after late : State foldCase) (account : AuthAccount),
      Machine.run (step samePassword) (initial foldCase)
        (provenRegistration ++ [.readChange 2 1 "ann".toList "one".toList firstGrant]) = some before ∧
      before.phase 2 = .saving (.changePassword "one".toList firstGrant) account account ∧
      step samePassword before (.commit 2) = some after ∧ firstGrant ∈ before.issued ∧
      Machine.run (step samePassword) after [.present 3 firstGrant true true] = some late ∧
      late.phase 3 = .checking firstGrant ∧ TurnedDown samePassword firstGrant late :=
  ⟨_, _, _, _, rfl, rfl, rfl, .head _, rfl, rfl, @older_tokens_refused foldCase samePassword _ _ _
    (provenRegistration ++ [.readChange 2 1 "ann".toList "one".toList firstGrant]) [.present 3 firstGrant true true] 2
    (by decide) rfl _ _ _ rfl rfl rfl rfl rfl _ (.head _) rfl⟩

end Tiber.AccountRuns
