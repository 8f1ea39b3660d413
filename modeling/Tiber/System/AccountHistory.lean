import Tiber.System.AccountRuns

/-! Where the accounts in the table and in the hands of requests come from.

A request holds what it has read, until it saves it; the rows are new accounts and what saves have left.
So a property of new accounts that saves keep is a property of all of them.
-/

set_option autoImplicit false

namespace Tiber.AccountRuns

open Library

variable {fold : Text → Text} {verifyPassword : Text → Text → Bool}

variable {state next : State fold} {event : Event}

def New (account : AuthAccount) : Prop :=
  (∃ email hash, account = registeredAccount account.id email hash) ∨ ∃ identity, account = githubAccount account.id identity

/-- What a request commits, and that the row has it. -/
structure Saves (state next : State fold) (event : Event) (update : AccountUpdate) (account loaded : AuthAccount) : Prop where
  here : ∃ party, event = .commit party ∧ state.phase party = .saving update account loaded
  written : ∀ row ∈ state.table.rows, row.id = account.id → (update.apply account).overwrite loaded row ∈ next.table.rows

theorem Saves.of_done {party : Nat} {update : AccountUpdate} {account loaded : AuthAccount}
    (stands : state.phase party = .saving update account loaded)
    (done : state.table.save (update.apply account) loaded = .ok next.table) :
    Saves state next (.commit party) update account loaded := by
  refine ⟨⟨party, rfl, stands⟩, fun row stored own => ?_⟩
  have left := AccountTable.save_mem done stored
  rwa [if_pos (own.trans (update.apply_id account).symm)] at left

theorem snapshots_plain {phase : Phase} (plain : phase.plain = true) : phase.snapshots = [] := by
  cases phase <;> first | rfl | cases plain

theorem Turn.snapshots {before after : Phase} (turn : Turn state before after) {account : AuthAccount}
    (member : account ∈ after.snapshots) : account ∈ state.table.rows ∨ account ∈ before.snapshots := by
  cases turn with
  | plain before after plain =>
      rw [snapshots_plain plain] at member
      cases member
  | updating _ _ stored | deactivating _ stored | verifying _ _ _ stored | linking _ _ stored | changing _ _ _ stored
  | replacing _ _ stored | granting _ _ _ stored =>
      simp only [Phase.snapshots, List.mem_cons, List.not_mem_nil, or_false, or_self] at member
      exact .inl (member ▸ stored)
  | checked read email =>
      simp only [Phase.snapshots, List.mem_cons, List.not_mem_nil, or_false, or_self] at member
      exact .inr (member ▸ .head _)
  | reloaded update read loaded row stored own =>
      simp only [Phase.snapshots, List.mem_cons, List.not_mem_nil, or_false] at member
      obtain rfl | rfl := member
      · exact .inr (.head _)
      · exact .inl stored

theorem snapshots_onward {update : AccountUpdate} {account other : AuthAccount}
    (member : other ∈ (onward update account).snapshots) : other = account := by
  cases update <;> first | cases member; done | exact List.mem_singleton.mp member

inductive Enters (state next : State fold) (event : Event) (party : Nat) : Phase → Prop where
  | turned (phase : Phase) (turn : Turn state (state.phase party) phase) : Enters state next event party phase
  | added (account : AuthAccount) (stored : account ∈ next.table.rows) :
      Enters state next event party (.granting account none)
  | verified (account : AuthAccount) (email code : Text) (stands : state.phase party = .verifying account email code)
      (stored : state.redis.code account.id = some ⟨account.id, email, code⟩) (consumed : account.id ∈ next.consumed) :
      Enters state next event party (.saving (.verifyEmail email code) account account)
  | reset (accountId : Uuid) (hash : Text) : Enters state next event party (.replacing accountId hash)
  | saved (update : AccountUpdate) (account loaded : AuthAccount) (saves : Saves state next event update account loaded) :
      Enters state next event party (onward update (update.apply account))

theorem Move.phases (move : Move state event next) (party : Nat) :
    next.phase party = state.phase party ∨ Enters state next event party (next.phase party) := by
  have entered {other : Nat} {phase : Phase} (enters : Enters state next event other phase)
      (phases : next.phase = Function.update state.phase other phase) :
      next.phase party = state.phase party ∨ Enters state next event party (next.phase party) := by
    by_cases same : party = other
    · subst same
      rw [phases, Function.update_self]
      exact .inr enters
    · rw [phases, Function.update_of_ne same]
      exact .inl rfl
  cases move with
  | turned event other phase turn => exact entered (.turned phase turn) rfl
  | added event other account table phase done writes kind =>
      obtain ⟨-, plain⟩ | ⟨-, rfl⟩ := kind
      · exact entered (.turned phase (.plain _ _ plain)) rfl
      · exact entered (.added account ((AccountTable.mem_add done).mpr (.inr rfl))) rfl
  | coded | issued => exact entered (.turned .idle (.plain _ _ rfl)) rfl
  | verified other account email code stands consumed =>
      exact entered (.verified account email code stands (AuthRedis.consumeCode_stored consumed) (.head _)) rfl
  | reset other token hash accountId redis fewer => exact entered (.reset accountId hash) rfl
  | saved other update account loaded table stands done =>
      exact entered (.saved update account loaded (.of_done stands done)) rfl
  | operated event other redis phase fewer plain => exact entered (.turned phase (.plain _ _ plain)) rfl
  | expired => exact .inl rfl

/-- Every account a request holds is one it held, a row, or what it has just saved. -/
theorem Move.snapshots (move : Move state event next) {party : Nat} {account : AuthAccount}
    (member : account ∈ (next.phase party).snapshots) :
    account ∈ (state.phase party).snapshots ∨ account ∈ state.table.rows ∨ account ∈ next.table.rows ∨
      ∃ update read loaded, Saves state next event update read loaded ∧ account = update.apply read := by
  obtain same | enters := move.phases party
  · exact .inl (same ▸ member)
  · generalize next.phase party = phase at enters member
    cases enters with
    | turned phase turn => exact (turn.snapshots member).elim (.inr ∘ .inl) .inl
    | added new stored => exact .inr (.inr (.inl (List.mem_singleton.mp member ▸ stored)))
    | verified read email code stands stored consumed =>
        simp only [Phase.snapshots, List.mem_cons, List.not_mem_nil, or_false, or_self] at member
        exact .inl (by rw [stands, member]; exact .head _)
    | reset => cases member
    | saved update read loaded saves => exact .inr (.inr (.inr ⟨update, read, loaded, saves, snapshots_onward member⟩))

/-- What a request is about to save was read with its own row as the last one loaded, or was so before. -/
theorem Move.saving (move : Move state event next) {party : Nat} {update : AccountUpdate} {account loaded : AuthAccount}
    (stands : next.phase party = .saving update account loaded) :
    state.phase party = .saving update account loaded ∨ loaded.id = account.id := by
  obtain same | enters := move.phases party
  · exact .inl (same ▸ stands)
  · rw [stands] at enters
    generalize saving : Phase.saving update account loaded = phase at enters
    cases enters with
    | turned phase turn =>
        subst saving
        generalize state.phase party = before at turn
        cases turn with
        | plain _ _ plain => cases plain
        | checked | deactivating | linking | changing | replacing => exact .inr rfl
        | reloaded _ _ _ _ _ own => exact .inr own
    | verified => cases saving; exact .inr rfl
    | added | reset => cases saving
    | saved written => cases written <;> cases saving

theorem Move.verifying (move : Move state event next) {party : Nat} {email code : Text} {account loaded : AuthAccount}
    (stands : next.phase party = .saving (.verifyEmail email code) account loaded) :
    (∃ last, state.phase party = .saving (.verifyEmail email code) account last) ∨
      state.redis.code account.id = some ⟨account.id, email, code⟩ ∧ account.id ∈ next.consumed := by
  obtain same | enters := move.phases party
  · exact .inl ⟨loaded, same ▸ stands⟩
  · rw [stands] at enters
    generalize saving : Phase.saving (.verifyEmail email code) account loaded = phase at enters
    cases enters with
    | turned phase turn =>
        subst saving
        generalize state.phase party = before at turn
        cases turn with
        | plain _ _ plain => cases plain
        | reloaded _ _ last _ _ _ => exact .inl ⟨last, rfl⟩
    | verified _ _ _ _ stored consumed => cases saving; exact .inr ⟨stored, consumed⟩
    | added | reset => cases saving
    | saved written => cases written <;> cases saving

/-- Every row is a row that was there, a new account, or a row as a save leaves it. -/
theorem Move.rows (move : Move state event next) {row : AuthAccount} (member : row ∈ next.table.rows) :
    row ∈ state.table.rows ∨
      (New row ∧ (∀ stored ∈ state.table.rows, stored.id ≠ row.id) ∧
        state.writes event = some row) ∨
      ∃ update read loaded, Saves state next event update read loaded ∧
        ∃ stored ∈ state.table.rows, stored.id = read.id ∧ row = (update.apply read).overwrite loaded stored := by
  cases move with
  | added event other new table phase done writes kind =>
      obtain stored | rfl := (AccountTable.mem_add done).mp member
      · exact .inl stored
      · exact .inr (.inl ⟨kind.imp And.left And.left, AccountTable.add_fresh done, writes⟩)
  | saved party update read loaded table stands done =>
      obtain ⟨stored, -⟩ | ⟨stored, there, own, rfl⟩ := AccountTable.mem_save done member
      · exact .inl stored
      · exact .inr (.inr ⟨update, read, loaded, .of_done stands done, stored, there, own.trans (update.apply_id read), rfl⟩)
  | turned | coded | verified | reset | issued | operated | expired => exact .inl member

theorem Move.kept (move : Move state event next) {row : AuthAccount} (stored : row ∈ state.table.rows) :
    ∃ later ∈ next.table.rows, later.id = row.id := by
  cases move with
  | added event other new table phase done writes kind => exact ⟨row, (AccountTable.mem_add done).mpr (.inl stored), rfl⟩
  | saved party update read loaded table stands done =>
      refine ⟨_, AccountTable.save_mem done stored, ?_⟩
      split <;> rfl
  | turned | coded | verified | reset | issued | operated | expired => exact ⟨row, stored, rfl⟩

/-! ## Codes -/

theorem Move.codes (move : Move state event next) :
    state.codes ⊆ next.codes ∧ ∀ accountId digest, next.redis.code accountId = some digest →
      state.redis.code accountId = some digest ∨ digest ∈ next.codes := by
  cases move with
  | coded party accountId destination code stands =>
      refine ⟨List.subset_cons_self _ _, fun other digest stored => ?_⟩
      simp only [AuthRedis.issueCode, AuthRedis.setCode_code] at stored
      split at stored
      · cases stored
        exact .inr (.head _)
      · exact .inl stored
  | verified party account email code stands consumed =>
      exact ⟨List.Subset.refl _, fun other digest stored => .inl (AuthRedis.fewer_consumeCode _ other digest stored)⟩
  | reset _ _ _ _ _ fewer | operated _ _ _ _ fewer _ =>
      exact ⟨List.Subset.refl _, fun other digest stored => .inl (fewer other digest stored)⟩
  | expired key =>
      exact ⟨List.Subset.refl _, fun other digest stored => .inl (AuthRedis.fewer_expire key other digest stored)⟩
  | turned | added | issued | saved => exact ⟨List.Subset.refl _, fun _ _ => .inl⟩

/-! ## Tokens -/

theorem Move.tokens (move : Move state event next) {grant : Grant} (member : grant ∈ next.issued) :
    grant ∈ state.issued ∨ ∃ party account session, state.phase party = .granting account session ∧
      grant.accountId = account.id ∧ grant.authVersion = account.authVersion := by
  cases move with
  | issued party serial session account given stands =>
      obtain _ | ⟨_, old⟩ := member
      · exact .inr ⟨party, account, given, stands, rfl, rfl⟩
      · exact .inl old
  | turned | added | coded | verified | reset | saved | operated | expired => exact .inl member

/-! ## Properties of all accounts -/

def Known (state : State fold) : Prop :=
  ∀ party, ∀ account ∈ (state.phase party).snapshots, ∃ row ∈ state.table.rows, row.id = account.id

theorem Saves.snapshots {update : AccountUpdate} {account loaded : AuthAccount}
    (saves : Saves state next event update account loaded) :
    ∃ party, account ∈ (state.phase party).snapshots ∧ loaded ∈ (state.phase party).snapshots := by
  obtain ⟨party, -, stands⟩ := saves.here
  exact ⟨party, by rw [stands]; exact .head _, by rw [stands]; exact .tail _ (.head _)⟩

theorem Known.move (known : Known state) (move : Move state event next) : Known next := by
  have later {id : Uuid} (there : ∃ row ∈ state.table.rows, row.id = id) : ∃ row ∈ next.table.rows, row.id = id := by
    obtain ⟨row, stored, own⟩ := there
    obtain ⟨kept, still, same⟩ := move.kept stored
    exact ⟨kept, still, same.trans own⟩
  intro party account member
  obtain held | stored | stored | ⟨update, read, loaded, saves, rfl⟩ := move.snapshots member
  · exact later (known party account held)
  · exact later ⟨account, stored, rfl⟩
  · exact ⟨account, stored, rfl⟩
  · obtain ⟨other, held, -⟩ := saves.snapshots
    rw [update.apply_id]
    exact later (known other read held)

/-- A property of all rows and of all accounts that requests hold. -/
structure Every (holds : AuthAccount → Prop) (state : State fold) : Prop where
  rows : ∀ row ∈ state.table.rows, holds row
  held : ∀ party, ∀ account ∈ (state.phase party).snapshots, holds account

/-- It is kept where it holds of new accounts, and of what a save writes and leaves in the row. -/
theorem Every.move {holds : AuthAccount → Prop} (every : Every holds state) (move : Move state event next)
    (new : ∀ row ∈ next.table.rows, New row → (∀ stored ∈ state.table.rows, stored.id ≠ row.id) → holds row)
    (saved : ∀ update account loaded, Saves state next event update account loaded → holds account → holds loaded →
      holds (update.apply account) ∧
        ∀ row ∈ state.table.rows, row.id = account.id → holds row → holds ((update.apply account).overwrite loaded row)) :
    Every holds next := by
  have writes {update : AccountUpdate} {account loaded : AuthAccount} (saves : Saves state next event update account loaded) :=
    have ⟨party, read, last⟩ := saves.snapshots
    saved update account loaded saves (every.held party account read) (every.held party loaded last)
  have rows : ∀ row ∈ next.table.rows, holds row := by
    intro row member
    obtain stored | ⟨made, fresh, -⟩ | ⟨update, read, loaded, saves, stored, there, own, rfl⟩ := move.rows member
    · exact every.rows row stored
    · exact new row member made fresh
    · exact (writes saves).2 stored there own (every.rows stored there)
  refine ⟨rows, fun party account member => ?_⟩
  obtain held | stored | stored | ⟨update, read, loaded, saves, rfl⟩ := move.snapshots member
  · exact every.held party account held
  · exact every.rows account stored
  · exact rows account stored
  · exact (writes saves).1

end Tiber.AccountRuns
