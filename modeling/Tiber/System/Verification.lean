import Tiber.System.TokenEpoch

/-! When an account gets verified by the code that was issued for it.

A verification looks for its account by the address, as the email or as the pending email. Only the email is
unique: an account that has asked for the same address can be found instead, and the code is then a wrong
guess at that one's.
-/

set_option autoImplicit false

namespace Tiber.AccountRuns

open Library

variable {fold : Text → Text} {verifyPassword : Text → Text → Bool}

/-- One call of `verify_email`, where the query returns the given row. -/
def verifyEmail (party : Nat) (email code : Text) (choice : Uuid) : List Event :=
  [.readVerify party email code choice, .consumeCode party true, .commit party]

/-- Whatever row the query returns first, the call verifies the account and counts no guess at another one. -/
def Verifies (verifyPassword : Text → Text → Bool) (state : State fold) (party : Nat) (accountId : Uuid)
    (email code : Text) : Prop :=
  ∀ choice, (state.table.pick email choice).isSome = true →
    ∃ next, Machine.run (step verifyPassword) state (verifyEmail party email code choice) = some next ∧
      (∃ row ∈ next.table.rows, row.id = accountId ∧ row.isVerified = true) ∧
      ∀ other, other ≠ accountId → next.redis.attempts other = state.redis.attempts other

/-- The code is the stored one, no other account has the address or has asked for it, and none has the address
that the account would get. -/
structure Unambiguous (state : State fold) (account : AuthAccount) (email code : Text) : Prop where
  stored : state.redis.code account.id = some ⟨account.id, email, code⟩
  alone : ∀ row ∈ state.table.matching email, row.id = account.id
  free : ∀ row ∈ state.table.rows, fold row.email = fold (activated account) → row.id = account.id

variable {state : State fold} {party : Nat} {account : AuthAccount} {email code : Text}

theorem pick_own (matched : account ∈ state.table.matching email) :
    state.table.pick email account.id = some (some account) := by
  unfold AccountTable.pick
  split
  · rename_i nothing
    rw [nothing] at matched
    cases matched
  · rw [(find?_key_eq_some (state.table.matching_ids email)).mpr ⟨matched, rfl⟩]
    rfl

theorem step_readVerify {found : Option AuthAccount} {choice : Uuid} (idle : state.phase party = .idle)
    (picked : state.table.pick email choice = some found) :
    step verifyPassword state (.readVerify party email code choice) = some (state.enter party
      (.ofChecked (fun account => .verifying account email code) (accountToVerify found))) := by
  simp only [step, idle, picked]

theorem step_consumeCode (stands : state.phase party = .verifying account email code) :
    step verifyPassword state (.consumeCode party true) = some
      (if (state.redis.consumeCode ⟨account.id, email, code⟩).2 = 1 then
        { state.enter party (.saving (.verifyEmail email code) account account) with
          redis := (state.redis.consumeCode ⟨account.id, email, code⟩).1
          consumed := account.id :: state.consumed }
      else { state.enter party (.failed (authenticationError "invalid_verification_code")) with
        redis := (state.redis.consumeCode ⟨account.id, email, code⟩).1 }) := by
  simp only [step, stands, if_true]
  split
  · rename_i redis outcome
    rw [outcome, if_pos rfl]
  · rename_i redis result different outcome
    rw [outcome, if_neg different]

def State.committed (state : State fold) (update : AccountUpdate) (account loaded : AuthAccount) : AccountTable fold :=
  match state.table.save (update.apply account) loaded with
  | .ok table => table
  | .error _ => state.table

theorem step_commit {update : AccountUpdate} {loaded : AuthAccount}
    (stands : state.phase party = .saving update account loaded) :
    ∃ next, step verifyPassword state (.commit party) = some next ∧ next.table = state.committed update account loaded ∧
      next.redis = state.redis := by
  simp only [step, stands, State.committed]
  cases state.table.save (update.apply account) loaded with
  | ok table => exact ⟨_, rfl, rfl, rfl⟩
  | error failure => exact ⟨_, rfl, rfl, rfl⟩

theorem run_verifyEmail {row : AuthAccount} {choice : Uuid} (idle : state.phase party = .idle)
    (picked : state.table.pick email choice = some (some row)) (active : row.isActive = true)
    (consumed : (state.redis.consumeCode ⟨row.id, email, code⟩).2 = 1) :
    ∃ next, Machine.run (step verifyPassword) state (verifyEmail party email code choice) = some next ∧
      next.table = state.committed (.verifyEmail email code) row row ∧
      next.redis = (state.redis.consumeCode ⟨row.id, email, code⟩).1 := by
  obtain ⟨found, read, verifying, table, redis⟩ : ∃ found : State fold,
      step verifyPassword state (.readVerify party email code choice) = some found ∧
      found.phase party = .verifying row email code ∧ found.table = state.table ∧ found.redis = state.redis := by
    refine ⟨_, step_readVerify idle picked, ?_, rfl, rfl⟩
    simp only [State.enter, Function.update_self, accountToVerify, active, if_true, Phase.ofChecked]
  rw [← redis] at consumed
  obtain ⟨passed, consumes, saving, kept, left⟩ : ∃ passed : State fold,
      step verifyPassword found (.consumeCode party true) = some passed ∧
      passed.phase party = .saving (.verifyEmail email code) row row ∧ passed.table = found.table ∧
      passed.redis = (found.redis.consumeCode ⟨row.id, email, code⟩).1 :=
    ⟨_, (step_consumeCode verifying).trans (congrArg some (if_pos consumed)), Function.update_self .., rfl, rfl⟩
  obtain ⟨next, commits, written, last⟩ := @step_commit fold verifyPassword passed party row _ row saving
  refine ⟨next, ?_, ?_, ?_⟩
  · exact Machine.run_cons_eq_some.mpr ⟨found, read, Machine.run_cons_eq_some.mpr ⟨passed, consumes,
      Machine.run_cons_eq_some.mpr ⟨next, commits, rfl⟩⟩⟩
  · rw [written, State.committed, State.committed, kept, table]
  · rw [last, left, redis]

theorem run_verifyEmail_ended {row : AuthAccount} {choice : Uuid} {next : State fold} (idle : state.phase party = .idle)
    (picked : state.table.pick email choice = some (some row))
    (ran : Machine.run (step verifyPassword) state (verifyEmail party email code choice) = some next) :
    row.isActive = true ∧ (state.redis.consumeCode ⟨row.id, email, code⟩).2 = 1 := by
  obtain ⟨found, read, others⟩ := Machine.run_cons_eq_some.mp ran
  obtain ⟨passed, consumes, last⟩ := Machine.run_cons_eq_some.mp others
  obtain ⟨after, commits, -⟩ := Machine.run_cons_eq_some.mp last
  cases (step_readVerify idle picked).symm.trans read
  cases active : row.isActive with
  | false =>
      simp only [step, State.enter, Function.update_self, accountToVerify, active, Bool.false_eq_true, if_false,
        Phase.ofChecked] at consumes
      cases consumes
  | true =>
      refine ⟨rfl, ?_⟩
      have verifying : (state.enter party (.ofChecked (fun account => .verifying account email code)
          (accountToVerify (some row)))).phase party = .verifying row email code := by
        simp only [State.enter, Function.update_self, accountToVerify, active, if_true, Phase.ofChecked]
      by_contra wrong
      cases ((step_consumeCode verifying).trans (congrArg some (if_neg wrong))).symm.trans consumes
      simp only [step, State.enter, Function.update_self] at commits
      cases commits

theorem committed_other {row : AuthAccount} (stored : account ∈ state.table.rows) (unverified : account.isVerified = false)
    (other : row.id ≠ account.id) :
    ∀ later ∈ (state.committed (.verifyEmail email code) row row).rows, later.id = account.id → later.isVerified = false := by
  intro later there own
  unfold State.committed at there
  split at there
  · rename_i table done
    obtain ⟨kept, -⟩ | ⟨old, kept, same, rfl⟩ := AccountTable.mem_save done there
    · exact AccountTable.id_inj kept stored own ▸ unverified
    · exact absurd (same.symm.trans own) other
  · exact AccountTable.id_inj there stored own ▸ unverified

theorem consumeCode_attempts {digest : CodeDigest} {redis : AuthRedis} {other : Uuid} (apart : other ≠ digest.accountId) :
    (redis.consumeCode digest).1.attempts other = redis.attempts other := by
  unfold AuthRedis.consumeCode
  split
  · rfl
  · split
    · rfl
    · split
      · exact Function.update_of_ne apart ..
      · simp only
        split <;> exact Function.update_of_ne apart ..

theorem verifies_of_unambiguous (idle : state.phase party = .idle) (stored : account ∈ state.table.rows)
    (active : account.isActive = true) (matched : account ∈ state.table.matching email)
    (few : state.redis.attempts account.id < emailVerificationMaxAttempts)
    (unambiguous : Unambiguous state account email code) :
    Verifies verifyPassword state party account.id email code := by
  intro choice enabled
  obtain ⟨found, picked⟩ := Option.isSome_iff_exists.mp enabled
  obtain ⟨row, rfl⟩ : ∃ row, found = some row := by
    unfold AccountTable.pick at picked
    split at picked
    · rename_i nothing
      rw [nothing] at matched
      cases matched
    · obtain ⟨row, -, same⟩ := Option.map_eq_some_iff.mp picked
      exact ⟨row, same.symm⟩
  have member := (AccountTable.pick_mem picked).1
  cases AccountTable.id_inj (List.mem_filter.mp member).1 stored (unambiguous.alone row member)
  have consumed : (state.redis.consumeCode ⟨account.id, email, code⟩).2 = 1 :=
    (AuthRedis.consumeCode_eq_one_iff few).mpr unambiguous.stored
  obtain ⟨next, ran, table, redis⟩ := @run_verifyEmail fold verifyPassword _ _ _ _ _ _ idle picked active consumed
  obtain ⟨after, saved⟩ : ∃ after,
      state.table.save ((AccountUpdate.verifyEmail email code).apply account) account = .ok after :=
    AccountTable.save_ok stored rfl rfl unambiguous.free
  have written : next.table = after := by rw [table, State.committed, saved]
  refine ⟨next, ran, ⟨(AccountUpdate.verifyEmail email code).apply account, ?_, rfl, rfl⟩, fun other apart => ?_⟩
  · have there := AccountTable.save_mem saved stored
    rw [AccountUpdate.apply_id, if_pos rfl, AuthAccount.overwrite_same (AccountUpdate.apply_id ..)] at there
    rw [written]
    exact there
  · rw [redis]
    exact consumeCode_attempts apart

/-- The call verifies an unverified account, whatever row the query returns, exactly where the code is the stored
one and the addresses are unambiguous. -/
theorem verifies_iff (idle : state.phase party = .idle) (stored : account ∈ state.table.rows)
    (active : account.isActive = true) (unverified : account.isVerified = false) (own : account.email = email)
    (few : state.redis.attempts account.id < emailVerificationMaxAttempts) :
    Verifies verifyPassword state party account.id email code ↔ Unambiguous state account email code := by
  have matched : account ∈ state.table.matching email :=
    List.mem_filter.mpr ⟨stored, by simp [own]⟩
  have picks := pick_own matched
  constructor
  · intro verifies
    obtain ⟨next, ran, ⟨row, there, same, verified⟩, -⟩ := verifies account.id (by rw [picks]; rfl)
    obtain ⟨-, consumed⟩ := run_verifyEmail_ended idle picks ran
    obtain ⟨after, ended, table, -⟩ := @run_verifyEmail fold verifyPassword _ _ _ _ _ _ idle picks active consumed
    cases ended.symm.trans ran
    refine ⟨AuthRedis.consumeCode_stored consumed, fun rival claims => ?_, fun other member taken => ?_⟩
    · -- the query may return the rival, and then the account stays unverified
      by_contra apart
      have rivalPicked := pick_own claims
      obtain ⟨last, went, ⟨later, kept, mine, done⟩, -⟩ := verifies rival.id (by rw [rivalPicked]; rfl)
      obtain ⟨rivalActive, rivalConsumed⟩ := run_verifyEmail_ended idle rivalPicked went
      obtain ⟨finished, ending, written, -⟩ :=
        @run_verifyEmail fold verifyPassword _ _ _ _ _ _ idle rivalPicked rivalActive rivalConsumed
      cases ending.symm.trans went
      have left := committed_other stored unverified apart later (written ▸ kept) mine
      exact absurd done (by rw [left]; exact Bool.false_ne_true)
    · cases saved : state.table.save ((AccountUpdate.verifyEmail email code).apply account) account with
      | ok written => exact AccountTable.save_free saved stored rfl member taken
      | error failure =>
          -- the refused save leaves the account as it was
          rw [table, State.committed, saved] at there
          cases AccountTable.id_inj there stored same
          exact absurd verified (by rw [unverified]; exact Bool.false_ne_true)
  · exact verifies_of_unambiguous idle stored active matched few

/-! ## Runs in which nobody has an address that another asks for -/

def rivals (fold : Text → Text) (first second : AuthAccount) : Bool :=
  first.pendingEmail.any (fun pending => fold pending = fold second.email) ||
    second.pendingEmail.any fun pending => fold pending = fold first.email

theorem rivals_comm (fold : Text → Text) (first second : AuthAccount) : rivals fold first second = rivals fold second first :=
  Bool.or_comm ..

def State.writesApart (state : State fold) (event : Event) : Bool :=
  (state.writes event).all fun account => state.table.rows.all fun row => row.id = account.id || !rivals fold row account

/-- No account is another's rival, and the code stored for an account is the latest. -/
structure Settled (state : State fold) : Prop where
  apart : ∀ first ∈ state.table.rows, ∀ second ∈ state.table.rows, rivals fold first second = true → first.id = second.id
  latest : ∀ accountId digest, state.redis.code accountId = some digest →
    state.codes.find? (·.accountId = accountId) = some digest

theorem settled_initial : Settled (initial fold) := ⟨fun _ => nofun, fun _ _ => nofun⟩

variable {next : State fold} {event : Event}

theorem Move.written (move : Move state event next) {row : AuthAccount} (member : row ∈ next.table.rows) :
    row ∈ state.table.rows ∨ state.writes event = some row := by
  obtain stored | ⟨-, -, writes⟩ | ⟨update, read, loaded, saves, stored, there, own, rfl⟩ := move.rows member
  · exact .inl stored
  · exact .inr writes
  · obtain ⟨party, rfl, stands⟩ := saves.here
    refine .inr ?_
    simp only [State.writes, stands]
    rw [← own, AccountTable.getById_eq_some there]
    rfl

/-- A stored code was stored before and none was issued since, or it has just been issued. -/
theorem Move.latest (move : Move state event next) {accountId : Uuid} {digest : CodeDigest}
    (stored : next.redis.code accountId = some digest) :
    (state.redis.code accountId = some digest ∧
      next.codes.find? (·.accountId = accountId) = state.codes.find? (·.accountId = accountId)) ∨
    next.codes.find? (·.accountId = accountId) = some digest := by
  cases move with
  | coded party own destination code stands =>
      simp only [AuthRedis.issueCode, AuthRedis.setCode_code] at stored
      split at stored
      · rename_i same
        cases stored
        exact .inr (List.find?_cons_of_pos (decide_eq_true same.symm))
      · rename_i apart
        refine .inl ⟨stored, List.find?_cons_of_neg ?_⟩
        simpa using Ne.symm apart
  | verified party account email code stands consumed =>
      exact .inl ⟨AuthRedis.fewer_consumeCode _ accountId digest stored, rfl⟩
  | reset _ _ _ _ _ fewer | operated _ _ _ _ fewer _ => exact .inl ⟨fewer accountId digest stored, rfl⟩
  | expired key => exact .inl ⟨AuthRedis.fewer_expire key accountId digest stored, rfl⟩
  | turned | added | issued | saved => exact .inl ⟨stored, rfl⟩

theorem Settled.move (settled : Settled state) (apart : state.writesApart event = true) (move : Move state event next) :
    Settled next := by
  have beside {row written : AuthAccount} (stored : row ∈ state.table.rows) (writes : state.writes event = some written)
      (rival : rivals fold row written = true) : row.id = written.id := by
    simp only [State.writesApart, writes, Option.all_some, List.all_eq_true, Bool.or_eq_true, decide_eq_true_eq] at apart
    exact (apart row stored).resolve_right (by rw [rival]; exact Bool.false_ne_true)
  constructor
  · intro first left second right rival
    obtain before | writes := move.written left <;> obtain stored | wrote := move.written right
    · exact settled.apart first before second stored rival
    · exact beside before wrote rival
    · exact (beside stored writes (rivals_comm fold .. ▸ rival)).symm
    · cases writes.symm.trans wrote
      rfl
  · intro accountId digest stored
    obtain ⟨before, same⟩ | latest := move.latest stored
    · exact same.trans (settled.latest accountId digest before)
    · exact latest

/-- Nothing in a settled state is in the way of an account with a stored code for its email. -/
theorem Settled.unambiguous (settled : Settled state) (stored : account ∈ state.table.rows)
    (coded : state.redis.code account.id = some ⟨account.id, account.email, code⟩) :
    Unambiguous state account account.email code := by
  refine ⟨coded, fun row member => ?_, fun row there taken => ?_⟩
  · obtain ⟨there, matched⟩ := List.mem_filter.mp member
    obtain same | asked := Bool.or_eq_true_iff.mp matched
    · exact congrArg AuthAccount.id (AccountTable.email_inj there stored (of_decide_eq_true same))
    · exact settled.apart row there account stored (by simp only [rivals, asked, Bool.true_or])
  · unfold activated at taken
    cases pending : account.pendingEmail with
    | none =>
        rw [pending] at taken
        exact congrArg AuthAccount.id (AccountTable.email_inj there stored taken)
    | some address =>
        rw [pending] at taken
        have wanted : fold address = fold row.email := taken.symm
        refine settled.apart row there account stored ?_
        simp only [rivals, pending, Option.any_some, wanted, decide_true, Bool.or_true]

/-- In every state reached, the call verifies the account exactly where its code is the stored one and the
addresses are unambiguous; and it does so in a run in which no account has an address that another asks for,
with the latest code issued for the account, while it is stored. -/
theorem right_account_verified {events : List Event}
    (reached : Machine.run (step verifyPassword) (initial fold) events = some state)
    (idle : state.phase party = .idle) (stored : account ∈ state.table.rows)
    (active : account.isActive = true) (unverified : account.isVerified = false) (own : account.email = email)
    (few : state.redis.attempts account.id < emailVerificationMaxAttempts) :
    (Verifies verifyPassword state party account.id email code ↔ Unambiguous state account email code) ∧
    (Machine.Along (step verifyPassword) (fun state event => state.writesApart event = true) (initial fold) events →
      state.codes.find? (·.accountId = account.id) = some ⟨account.id, email, code⟩ →
      (state.redis.code account.id).isSome = true → Verifies verifyPassword state party account.id email code) := by
  have exactly := @verifies_iff fold verifyPassword _ _ _ _ code idle stored active unverified own few
  refine ⟨exactly, fun apart latest present => exactly.mpr ?_⟩
  have keeps : Machine.Keeps (step verifyPassword) (fun (state : State fold) event => state.writesApart event = true)
      Settled := fun _ _ _ settled apart taken => settled.move apart (step_move taken)
  have settled := keeps.run settled_initial apart reached
  obtain ⟨digest, coded⟩ := Option.isSome_iff_exists.mp present
  cases (settled.latest account.id digest coded).symm.trans latest
  cases own
  exact settled.unambiguous stored coded

/-! ## An address that another account has asked for -/

/-- Bob registers, while Ann's request for his address is pending or not made at all. -/
def registering (claimed : Bool) : List Event := provenRegistration ++
  (if claimed then [.present 2 firstGrant true true, .readContext 2, .readUpdate 3 1 second, .checkEmail 3, .commit 3,
    .sendCode 3 "654321".toList true] else []) ++
  [.register 4 2 second "hidden".toList, .sendCode 4 "111111".toList true]

def bob : AuthAccount := registeredAccount 2 second "hidden".toList

/-- The query may return Ann, and Bob's code is a wrong guess at hers. -/
theorem latest_code_not_verifying :
    ∃ state : State foldCase, Machine.run (step samePassword) (initial foldCase) (registering true) = some state ∧
      state.phase 5 = .idle ∧ bob ∈ state.table.rows ∧ bob.isActive = true ∧ bob.isVerified = false ∧
      bob.email = second ∧ state.codes.head? = some ⟨bob.id, second, "111111".toList⟩ ∧
      state.redis.code bob.id = some ⟨bob.id, second, "111111".toList⟩ ∧
      state.redis.attempts bob.id < emailVerificationMaxAttempts ∧
      ¬ Verifies samePassword state 5 bob.id second "111111".toList ∧
      ∃ next, Machine.run (step samePassword) state [.readVerify 5 second "111111".toList 1, .consumeCode 5 true] =
        some next ∧ state.redis.attempts 1 = 0 ∧ next.redis.attempts 1 = 1 := by
  refine ⟨_, rfl, rfl, .tail _ (.head _), rfl, rfl, rfl, rfl, rfl, by decide, fun verifies => ?_, _, rfl, rfl, rfl⟩
  obtain ⟨next, ran, -⟩ := verifies 1 (by decide)
  exact absurd (run_verifyEmail_ended rfl rfl ran).2 (by decide)

theorem latest_code_verifying :
    ∃ state : State foldCase, Machine.run (step samePassword) (initial foldCase) (registering false) = some state ∧
      Verifies samePassword state 5 bob.id second "111111".toList :=
  ⟨_, rfl, (@right_account_verified foldCase samePassword _ 5 bob second "111111".toList (registering false) rfl rfl
    (.tail _ (.head _)) rfl rfl rfl (by decide)).2 (by decide) rfl rfl⟩

end Tiber.AccountRuns
