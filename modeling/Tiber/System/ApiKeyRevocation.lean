import Tiber.System.ApiKeyCaching

/-! When revoking a key, or deactivating the account behind it, is final.

An operation returns when every key it closes is revoked and its entry dropped from the cache. That is
the end of the key unless facts read before come to the cache after, or the account gets a key that the
deactivation has not read.
-/

set_option autoImplicit false

namespace Tiber.ApiKeyRuns

open Library

variable {setting : Setting}

/-- A set writes no facts that let an invalidated key in, a key is created for an active account only,
and a deactivation has read every key of its account that is not yet invalidated. -/
def Setting.orderly (setting : Setting) (state : State) : Event → Bool
  | .set party reachable _ =>
      match state.phase party with
      | .loaded call entry =>
          !(reachable && entry.live && state.invalidated.contains (setting.hashKey call.rawKey))
      | _ => true
  | .create party .. =>
      match state.phase party with
      | .authorized accountId => state.active accountId
      | _ => true
  | .commitDeactivate party _ =>
      match state.phase party with
      | .listed accountId keys => (state.table.listByAccount setting.owner accountId).all fun row =>
          row.keyHash ∈ keys.map (·.keyHash) || row.keyHash ∈ state.invalidated
      | _ => true
  | _ => true

/-! ## Keys out of use -/

def Dead (table : ApiKeyTable) (keyHash : Text) : Prop :=
  ∃ row ∈ table.rows, row.keyHash = keyHash ∧ row.isRevoked = true

def Closing.Within (setting : Setting) (state : State) (gone : Text → Prop) : Closing → Prop
  | .key id => ∃ row ∈ state.table.rows, row.id = id ∧ gone row.keyHash
  | .account accountId => state.active accountId = false ∧
      ∀ row ∈ state.table.rows, setting.owner row.projectId = some accountId → gone row.keyHash

def State.Closed (setting : Setting) (state : State) (key : ApiKey) : Prop :=
  Closing.key key.id ∈ state.closed ∨
    ∃ accountId, setting.owner key.projectId = some accountId ∧ Closing.account accountId ∈ state.closed

/-- What holds of an operation at work: its keys are in the table, and those it has yet to invalidate are revoked. -/
def Fits (setting : Setting) (state : State) : Phase → Prop
  | .revoking key => key.isRevoked = true ∧ ∃ row ∈ state.table.rows, ApiKey.SameKey key row
  | .listed _ keys => ∀ key ∈ keys, ∃ row ∈ state.table.rows, ApiKey.SameKey key row
  | .invalidating hashes closing => (∀ keyHash ∈ hashes, Dead state.table keyHash) ∧
      closing.Within setting state fun keyHash => keyHash ∈ hashes ∨ keyHash ∈ state.invalidated
  | .idle | .looking _ | .missed _ | .loaded .. | .decided .. | .authorized _ | .failed _ => True

structure Sound (setting : Setting) (state : State) : Prop where
  phases : ∀ party, Fits setting state (state.phase party)
  closed : ∀ closing ∈ state.closed, closing.Within setting state (· ∈ state.invalidated)
  dead : ∀ keyHash ∈ state.invalidated, Dead state.table keyHash
  shut : ∀ keyHash ∈ state.invalidated, ∀ entry,
    readEntry setting.spellings (state.cache keyHash) = .ok (some entry) → entry.live = false

/-! ## What never goes back -/

/-- A step brings no key back and none to a deactivated account. -/
structure Forward (setting : Setting) (state next : State) : Prop where
  kept : ∀ row ∈ state.table.rows, ∃ later ∈ next.table.rows, ApiKey.SameKey later row ∧
    (row.isRevoked = true → later.isRevoked = true)
  known : ∀ later ∈ next.table.rows, (∃ row ∈ state.table.rows, ApiKey.SameKey later row) ∨
    ∃ accountId, setting.owner later.projectId = some accountId ∧ state.active accountId = true
  active : ∀ accountId, state.active accountId = false → next.active accountId = false
  invalidated : state.invalidated ⊆ next.invalidated

section Forward

variable {state next : State}

theorem Forward.of_same (table : next.table = state.table) (active : next.active = state.active)
    (invalidated : state.invalidated ⊆ next.invalidated) : Forward setting state next where
  kept row stored := ⟨row, table ▸ stored, ⟨rfl, rfl, rfl⟩, id⟩
  known row stored := .inl ⟨row, table ▸ stored, ⟨rfl, rfl, rfl⟩⟩
  active _ gone := active ▸ gone
  invalidated := invalidated

theorem Forward.of_onward (onward : state.table.Onward next.table)
    (active : ∀ accountId, state.active accountId = false → next.active accountId = false)
    (invalidated : next.invalidated = state.invalidated) : Forward setting state next where
  kept := onward.kept
  known later stored := .inl (onward.known later stored)
  active := active
  invalidated := invalidated ▸ List.Subset.refl _

variable (forward : Forward setting state next)
include forward

theorem Forward.dead {keyHash : Text} (dead : Dead state.table keyHash) : Dead next.table keyHash := by
  obtain ⟨row, stored, hashed, revoked⟩ := dead
  obtain ⟨later, there, same, still⟩ := forward.kept row stored
  exact ⟨later, there, same.keyHash.trans hashed, still revoked⟩

theorem Forward.within {gone away : Text → Prop} (more : ∀ keyHash, gone keyHash → away keyHash) {closing : Closing}
    (within : closing.Within setting state gone) : closing.Within setting next away := by
  cases closing with
  | key id =>
      obtain ⟨row, stored, own, left⟩ := within
      obtain ⟨later, there, same, -⟩ := forward.kept row stored
      exact ⟨later, there, same.id.trans own, same.keyHash ▸ more _ left⟩
  | account accountId =>
      obtain ⟨inactive, all⟩ := within
      refine ⟨forward.active accountId inactive, fun later there owned => ?_⟩
      obtain ⟨row, stored, same⟩ | ⟨other, owns, alive⟩ := forward.known later there
      · rw [same.keyHash]
        exact more _ (all row stored (same.projectId ▸ owned))
      · rw [owned] at owns
        cases owns
        rw [inactive] at alive
        cases alive

theorem Forward.copy {key : ApiKey} (copy : ∃ row ∈ state.table.rows, ApiKey.SameKey key row) :
    ∃ row ∈ next.table.rows, ApiKey.SameKey key row := by
  obtain ⟨row, stored, same⟩ := copy
  obtain ⟨later, there, again, -⟩ := forward.kept row stored
  exact ⟨later, there, same.trans again.symm⟩

theorem Forward.fits {phase : Phase} (fits : Fits setting state phase) : Fits setting next phase := by
  cases phase with
  | revoking key => exact ⟨fits.1, forward.copy fits.2⟩
  | listed accountId keys => exact fun key member => forward.copy (fits key member)
  | invalidating hashes closing =>
      exact ⟨fun keyHash member => forward.dead (fits.1 keyHash member),
        forward.within (fun keyHash => Or.imp_right (fun gone => forward.invalidated gone)) fits.2⟩
  | idle | looking | missed | loaded | decided | authorized | failed => trivial

theorem Sound.moved (sound : Sound setting state) {party : Nat} {phase : Phase}
    (phases : next.phase = Function.update state.phase party phase) (fits : Fits setting next phase)
    (closed : ∀ closing ∈ next.closed, closing ∈ state.closed ∨ closing.Within setting next (· ∈ next.invalidated))
    (dead : ∀ keyHash ∈ next.invalidated, keyHash ∈ state.invalidated ∨ Dead next.table keyHash)
    (shut : ∀ keyHash ∈ next.invalidated, ∀ entry,
      readEntry setting.spellings (next.cache keyHash) = .ok (some entry) → entry.live = false) :
    Sound setting next where
  phases other := by
    rw [phases]
    by_cases same : other = party
    · subst same
      rw [Function.update_self]
      exact fits
    · rw [Function.update_of_ne same]
      exact forward.fits (sound.phases other)
  closed closing member := (closed closing member).elim
    (fun old => forward.within (fun _ gone => forward.invalidated gone) (sound.closed closing old)) id
  dead keyHash member := (dead keyHash member).elim (fun old => forward.dead (sound.dead keyHash old)) id
  shut := shut

end Forward

/-! ## Every step -/

variable {state next : State}

theorem Turn.fits {before after : Phase} (turn : Turn setting state before after)
    (stands : Fits setting state before) : Fits setting state after := by
  cases turn with
  | presented call => unfold Call.presented; split <;> trivial
  | got call reachable => unfold Setting.got; split <;> trivial
  | loaded | authorized | failed | left => trivial
  | revoking accountId projectId keyId now key read => exact keyToRevoke_ok read
  | listed accountId keys read => exact fun key member => ⟨key, ((keysOfAccount_ok read key).mp member).1, ⟨rfl, rfl, rfl⟩⟩

theorem shut_update {cache : Text → Option RedisEntry} {hashes : List Text} {keyHash : Text} {value : Option RedisEntry}
    (shut : ∀ other ∈ hashes, ∀ entry, readEntry setting.spellings (cache other) = .ok (some entry) → entry.live = false)
    (own : keyHash ∈ hashes → ∀ entry, readEntry setting.spellings value = .ok (some entry) → entry.live = false) :
    ∀ other ∈ hashes, ∀ entry,
      readEntry setting.spellings (Function.update cache keyHash value other) = .ok (some entry) → entry.live = false := by
  intro other member
  by_cases same : other = keyHash
  · subst same
    rw [Function.update_self]
    exact own member
  · rw [Function.update_of_ne same]
    exact shut other member

theorem Forward.created {party : Nat} {phase : Phase} {accountId : Uuid} {key : ApiKey} {table : ApiKeyTable}
    (fresh : ∀ row ∈ state.table.rows, row.id ≠ key.id) (owned : setting.owner key.projectId = some accountId)
    (active : state.active accountId = true) (saved : state.table.save key = .ok table) :
    Forward setting state { state.enter party phase with table } where
  kept row stored := ⟨row, (ApiKeyTable.mem_save saved).mpr (.inr ⟨stored, fresh row stored⟩), ⟨rfl, rfl, rfl⟩, id⟩
  known later there := by
    obtain rfl | ⟨stored, -⟩ := (ApiKeyTable.mem_save saved).mp there
    · exact .inr ⟨accountId, owned, active⟩
    · exact .inl ⟨later, stored, ⟨rfl, rfl, rfl⟩⟩
  active _ gone := gone
  invalidated := List.Subset.refl _

/-- A deactivation that has read all keys still in use leaves every one of them to be invalidated. -/
theorem fits_deactivated {party : Nat} {now : Uuid → Instant} {accountId : Uuid} {keys : List ApiKey}
    {table : ApiKeyTable} (copies : ∀ key ∈ keys, ∃ row ∈ state.table.rows, ApiKey.SameKey key row)
    (saved : state.table.saveAll (keys.map fun key => key.revoke (now key.id)) = .ok table)
    (all : ∀ row ∈ state.table.rows, setting.owner row.projectId = some accountId →
      row.keyHash ∈ keys.map (·.keyHash) ∨ row.keyHash ∈ state.invalidated) :
    Forward setting state { state.enter party (.invalidating (keys.map (·.keyHash)) (.account accountId)) with
      table, active := Function.update state.active accountId false } ∧
    Fits setting { state.enter party (.invalidating (keys.map (·.keyHash)) (.account accountId)) with
      table, active := Function.update state.active accountId false }
      (.invalidating (keys.map (·.keyHash)) (.account accountId)) := by
  have revoked : ∀ key ∈ keys.map fun key => key.revoke (now key.id),
      key.isRevoked = true ∧ ∃ row ∈ state.table.rows, ApiKey.SameKey key row := by
    intro copy member
    obtain ⟨key, listed, rfl⟩ := List.mem_map.mp member
    obtain ⟨row, stored, same⟩ := copies key listed
    exact ⟨key.revoke_revoked _, row, stored, (key.revoke_same _).trans same⟩
  obtain ⟨onward, done⟩ := ApiKeyTable.Onward.saveAll saved revoked
  refine ⟨.of_onward onward ?_ rfl, ?_, Function.update_self .., ?_⟩
  · intro other gone
    by_cases same : other = accountId
    · subst same
      exact Function.update_self ..
    · exact (Function.update_of_ne same ..).trans gone
  · intro keyHash member
    obtain ⟨key, listed, rfl⟩ := List.mem_map.mp member
    obtain ⟨row, stored, same, gone⟩ := done _ (List.mem_map.mpr ⟨key, listed, rfl⟩)
    exact ⟨row, stored, same.keyHash.symm.trans (key.revoke_same _).keyHash, gone⟩
  · intro later there owned
    obtain ⟨row, stored, same⟩ := onward.known later there
    rw [same.keyHash]
    exact all row stored (same.projectId ▸ owned)

theorem Sound.step (sound : Sound setting state) {event : Event} (orderly : setting.orderly state event = true)
    (taken : ApiKeyRuns.step setting state event = some next) : Sound setting next := by
  cases step_move taken with
  | turned _ party phase turn =>
      have forward : Forward setting state (state.enter party phase) := .of_same rfl rfl (List.Subset.refl _)
      exact sound.moved forward rfl (forward.fits (turn.fits (sound.phases party))) (fun _ => .inl) (fun _ => .inl)
        sound.shut
  | cached party reachable now call entry stands =>
      refine @Sound.moved setting state _ (.of_same rfl rfl (List.Subset.refl _)) sound party _ rfl trivial
        (fun _ => .inl) (fun _ => .inl) ?_
      cases reachable with
      | false => exact sound.shut
      | true =>
          refine shut_update sound.shut fun member found read => ?_
          -- the entry is read back as it was written
          cases (readEntry_writeEntry setting.spellings entry now).symm.trans read
          have gone : setting.hashKey call.rawKey ∈ state.invalidated := member
          simpa [Setting.orderly, stands, gone] using orderly
  | created party id projectId name secret now accountId key table stands fresh owned saved =>
      have active : state.active accountId = true := by simpa only [Setting.orderly, stands] using orderly
      exact sound.moved (.created fresh owned active saved) rfl trivial (fun _ => .inl) (fun _ => .inl) sound.shut
  | revoked party key table stands saved =>
      have fits := sound.phases party
      rw [stands] at fits
      obtain ⟨gone, row, stored, same⟩ := fits
      have written : key ∈ table.rows := (ApiKeyTable.mem_save saved).mpr (.inl rfl)
      refine sound.moved (.of_onward (.save saved stored same gone) (fun _ => id) rfl) rfl ?_ (fun _ => .inl)
        (fun _ => .inl) sound.shut
      exact ⟨fun keyHash member => ⟨key, written, (List.mem_singleton.mp member).symm, gone⟩, key, written, rfl,
        .inl (List.mem_singleton_self _)⟩
  | deactivated party now accountId keys table stands saved =>
      have fits := sound.phases party
      rw [stands] at fits
      have all : ∀ row ∈ state.table.rows, setting.owner row.projectId = some accountId →
          row.keyHash ∈ keys.map (·.keyHash) ∨ row.keyHash ∈ state.invalidated := by
        intro row stored owned
        simp only [Setting.orderly, stands, List.all_eq_true, Bool.or_eq_true, decide_eq_true_eq] at orderly
        exact orderly row (ApiKeyTable.mem_listByAccount.mpr ⟨stored, owned⟩)
      obtain ⟨forward, later⟩ := fits_deactivated fits saved all
      exact sound.moved forward rfl later (fun _ => .inl) (fun _ => .inl) sound.shut
  | invalidated party keyHash rest closing stands =>
      have fits := sound.phases party
      rw [stands] at fits
      obtain ⟨dead, within⟩ := fits
      have forward : Forward setting state { state.enter party (.invalidating rest closing) with
          cache := Function.update state.cache keyHash none, invalidated := keyHash :: state.invalidated } :=
        .of_same rfl rfl (List.subset_cons_self _ _)
      refine sound.moved forward rfl ⟨fun other member => forward.dead (dead other (.tail _ member)), ?_⟩
        (fun _ => .inl) ?_ ?_
      · refine forward.within (fun other gone => ?_) within
        obtain (_ | ⟨_, later⟩) | gone := gone
        · exact .inr (.head _)
        · exact .inl later
        · exact .inr (.tail _ gone)
      · intro other member
        obtain _ | ⟨_, old⟩ := member
        · exact .inr (dead keyHash (.head _))
        · exact .inl old
      · intro other member
        by_cases same : other = keyHash
        · subst same
          simp only [Function.update_self]
          intro entry read
          cases read
        · simp only [Function.update_of_ne same]
          exact sound.shut other ((List.mem_cons.mp member).resolve_left same)
  | finished party closing stands =>
      have fits := sound.phases party
      rw [stands] at fits
      have forward : Forward setting state { state.enter party .idle with closed := closing :: state.closed } :=
        .of_same rfl rfl (List.Subset.refl _)
      refine sound.moved forward rfl trivial ?_ (fun _ => .inl) sound.shut
      intro other member
      obtain _ | ⟨_, old⟩ := member
      · exact .inr (forward.within (fun _ gone => gone.resolve_left (nomatch ·)) fits.2)
      · exact .inl old
  | disturbed _ keyHash value miss =>
      have forward : Forward setting state { state with cache := Function.update state.cache keyHash value } :=
        .of_same rfl rfl (List.Subset.refl _)
      -- no party moves
      refine sound.moved forward (Function.update_eq_self 0 state.phase).symm (forward.fits (sound.phases 0))
        (fun _ => .inl) (fun _ => .inl) ?_
      exact shut_update sound.shut fun _ entry read => nomatch miss.symm.trans read

/-! ## Calls that start later -/

def Refused (setting : Setting) (keyHash : Text) : Phase → Prop
  | .loaded call entry => setting.hashKey call.rawKey = keyHash → entry.live = false
  | .decided call answer => setting.hashKey call.rawKey = keyHash → ∀ principal, answer ≠ .ok principal
  | .idle | .looking _ | .missed _ | .authorized _ | .revoking _ | .listed .. | .invalidating .. | .failed _ => True

/-- A key is out of use for good, and out of the hands of one party. -/
structure Late (setting : Setting) (keyHash : Text) (party : Nat) (state : State) : Prop where
  sound : Sound setting state
  gone : keyHash ∈ state.invalidated
  refused : Refused setting keyHash (state.phase party)

theorem evaluate_refused {entry : CachedApiKey} (dead : entry.live = false) (now : Instant)
    (principal : ApiKeyPrincipal) : entry.evaluate now ≠ .ok principal := by
  intro decided
  rw [entry.evaluate_ok decided] at dead
  cases dead

theorem Sound.facts (sound : Sound setting state) {keyHash : Text} (gone : keyHash ∈ state.invalidated) :
    (CachedApiKey.facts (state.table.getByHash keyHash)).live = false := by
  obtain ⟨row, stored, hashed, revoked⟩ := sound.dead keyHash gone
  rw [ApiKeyTable.getByHash_eq_some.mpr ⟨stored, hashed⟩]
  exact CachedApiKey.facts_revoked revoked

theorem Turn.refused (sound : Sound setting state) {keyHash : Text} (gone : keyHash ∈ state.invalidated)
    {before after : Phase} (turn : Turn setting state before after) : Refused setting keyHash after := by
  cases turn with
  | presented call =>
      unfold Call.presented
      split
      · trivial
      · exact fun _ _ => nofun
  | got call reachable =>
      unfold Setting.got
      split
      · rename_i entry read
        rintro rfl principal
        cases reachable with
        | false => cases read
        | true => exact evaluate_refused (sound.shut _ gone entry read) call.now principal
      · trivial
      · exact fun _ _ => nofun
  | loaded call =>
      rintro rfl
      exact sound.facts gone
  | authorized | revoking | listed | failed | left => trivial

theorem Late.step {keyHash : Text} {party : Nat} (late : Late setting keyHash party state) {event : Event}
    (orderly : setting.orderly state event = true) (taken : ApiKeyRuns.step setting state event = some next) :
    Late setting keyHash party next := by
  have sound := late.sound.step orderly taken
  have entered {other : Nat} {phase : Phase} (refused : other = party → Refused setting keyHash phase) :
      Refused setting keyHash (Function.update state.phase other phase party) := by
    by_cases same : party = other
    · subst same
      rw [Function.update_self]
      exact refused rfl
    · rw [Function.update_of_ne same]
      exact late.refused
  cases step_move taken with
  | turned _ other phase turn => exact ⟨sound, late.gone, entered fun _ => turn.refused late.sound late.gone⟩
  | cached other reachable now call entry stands =>
      refine ⟨sound, late.gone, entered fun same => ?_⟩
      have known := late.refused
      rw [← same, stands] at known
      exact fun own => evaluate_refused (known own) call.now
  | created | revoked | deactivated | finished => exact ⟨sound, late.gone, entered fun _ => trivial⟩
  | invalidated => exact ⟨sound, .tail _ late.gone, entered fun _ => trivial⟩
  | disturbed => exact ⟨sound, late.gone, late.refused⟩

theorem Sound.gone (sound : Sound setting state) {key : ApiKey} (stored : key ∈ state.table.rows)
    (closed : state.Closed setting key) : key.keyHash ∈ state.invalidated := by
  obtain own | ⟨accountId, owned, account⟩ := closed
  · obtain ⟨row, there, same, gone⟩ := sound.closed _ own
    exact ApiKeyTable.id_inj there stored same ▸ gone
  · exact (sound.closed _ account).2 key stored owned

structure State.Fresh (state : State) : Prop where
  idle : ∀ party, state.phase party = .idle
  invalidated : state.invalidated = []
  closed : state.closed = []

theorem Sound.of_fresh (fresh : state.Fresh) : Sound setting state where
  phases party := by rw [fresh.idle party]; trivial
  closed closing member := by rw [fresh.closed] at member; cases member
  dead keyHash member := by rw [fresh.invalidated] at member; cases member
  shut keyHash member := by rw [fresh.invalidated] at member; cases member

/-- In an orderly run no call that starts with a closed key returns a principal. -/
theorem revocation_final {start middle final : State} {first rest : List Event} (fresh : start.Fresh)
    (orderly : Machine.Along (step setting) (fun state event => setting.orderly state event = true) start (first ++ rest))
    (reached : Machine.run (step setting) start first = some middle)
    (later : Machine.run (step setting) middle rest = some final) {key : ApiKey} (stored : key ∈ middle.table.rows)
    (closed : middle.Closed setting key) {party : Nat} (idle : middle.phase party = .idle) {call : Call}
    {principal : ApiKeyPrincipal} (answered : final.phase party = .decided call (.ok principal)) :
    setting.hashKey call.rawKey ≠ key.keyHash := by
  obtain ⟨before, after⟩ := Machine.along_append orderly reached
  have sound : Machine.Keeps (step setting) (fun state event => setting.orderly state event = true) (Sound setting) :=
    fun _ _ _ sound orderly taken => sound.step orderly taken
  have late : Machine.Keeps (step setting) (fun state event => setting.orderly state event = true)
      (Late setting key.keyHash party) := fun _ _ _ late orderly taken => late.step orderly taken
  have settled := sound.run (.of_fresh fresh) before reached
  have refused := (late.run ⟨settled, settled.gone stored closed, by rw [idle]; trivial⟩ after later).refused
  rw [answered] at refused
  exact fun same => refused same principal rfl

/-! ## A revocation while a call is on its way -/

def revoking (party : Nat) : List Event :=
  [.authorize party 1, .readKey party 3 7 Clock.minute, .commitRevoke party, .invalidate party true, .finish party]

def revokedKey : ApiKey := { storedKey with revokedAt := some Clock.minute }

/-- The facts read before the revocation reach the cache after it, and let the next call in. -/
theorem revoked_key_let_in :
    oneKey.Fresh ∧ ∃ middle final,
      Machine.run (step plainSetting) oneKey (.present 0 ⟨rawKey, 0⟩ :: .get 0 true :: .read 0 :: revoking 1) =
        some middle ∧
      Machine.run (step plainSetting) middle [.set 0 true Clock.minute, .present 2 ⟨rawKey, 2 * Clock.minute⟩, .get 2 true] =
        some final ∧
      revokedKey ∈ middle.table.rows ∧ middle.Closed plainSetting revokedKey ∧ middle.phase 2 = .idle ∧
      final.phase 2 = .decided ⟨rawKey, 2 * Clock.minute⟩ (.ok ⟨7, 3, rawKey.take 10⟩) ∧
      ¬ plainSetting.hashKey rawKey ≠ revokedKey.keyHash :=
  ⟨⟨fun _ => rfl, rfl, rfl⟩, _, _, rfl, rfl, .head _, .inl (.head _), rfl, rfl, not_not_intro rfl⟩

def otherRawKey : Text := ['t', 'b', '_'] ++ List.replicate 43 'j'

def otherKey : ApiKey := { storedKey with id := 8, keyHash := otherRawKey }

def twoKeys : State where
  table := { rows := [storedKey, otherKey] }

theorem other_key_let_in :
    ∃ middle final, Machine.run (step plainSetting) twoKeys (revoking 0) = some middle ∧
      Machine.run (step plainSetting) middle (.present 1 ⟨otherRawKey, 0⟩ :: authenticating 1 true true 0) = some final ∧
      final.phase 1 = .decided ⟨otherRawKey, 0⟩ (.ok ⟨8, 3, rawKey.take 10⟩) ∧
      plainSetting.hashKey otherRawKey ≠ revokedKey.keyHash :=
  ⟨_, _, rfl, rfl, rfl, @revocation_final plainSetting twoKeys _ _ (revoking 0)
    (.present 1 ⟨otherRawKey, 0⟩ :: authenticating 1 true true 0) ⟨fun _ => rfl, rfl, rfl⟩ (by decide) rfl rfl revokedKey (.head _) (.inl (.head _)) 1 rfl ⟨otherRawKey, 0⟩ ⟨8, 3, rawKey.take 10⟩ rfl⟩

end Tiber.ApiKeyRuns
