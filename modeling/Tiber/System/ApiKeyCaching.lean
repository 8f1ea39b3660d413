import Mathlib.Logic.Equiv.Nat
import Tiber.System.ApiKeyRuns

/-! Authentication through the cache decides as the database would, whatever becomes of the entries.

While no key is written, every readable entry says what the table says, so a hit and a miss come to
the same facts, and those are judged at the time of the call.
-/

set_option autoImplicit false

namespace Tiber.ApiKeyRuns

open Library

variable {setting : Setting}

def Event.writesTable : Event → Bool
  | .create .. | .commitRevoke _ | .commitDeactivate .. => true
  | .present .. | .get .. | .read _ | .set .. | .authorize .. | .readKey .. | .listKeys _ | .invalidate .. | .finish _
  | .leave _ | .evict _ | .spoil .. => false

def Truthful (setting : Setting) (table : ApiKeyTable) (keyHash : Text) (value : Option RedisEntry) : Prop :=
  readEntry setting.spellings value = .ok none ∨
    readEntry setting.spellings value = .ok (some (CachedApiKey.facts (table.getByHash keyHash)))

/-- A call knows what the table says, and its decision is the direct one. -/
def AsDirect (setting : Setting) (table : ApiKeyTable) : Phase → Prop
  | .looking call | .missed call => isApiKey call.rawKey = true
  | .loaded call entry => isApiKey call.rawKey = true ∧ entry = setting.facts table call
  | .decided call answer => answer = setting.direct table call
  | .idle | .authorized _ | .revoking _ | .listed .. | .invalidating .. | .failed _ => True

structure Agrees (setting : Setting) (table : ApiKeyTable) (state : State) : Prop where
  stored : state.table = table
  cache : ∀ keyHash, Truthful setting table keyHash (state.cache keyHash)
  phases : ∀ party, AsDirect setting table (state.phase party)

theorem direct_eq {table : ApiKeyTable} {call : Call} (shaped : isApiKey call.rawKey = true) :
    setting.direct table call = decideRow (table.getByHash (setting.hashKey call.rawKey)) call.now := if_pos shaped

theorem evaluate_direct {table : ApiKeyTable} {call : Call} (shaped : isApiKey call.rawKey = true) :
    (setting.facts table call).evaluate call.now = setting.direct table call :=
  (evaluate_facts _ _).trans (direct_eq shaped).symm

theorem presented_direct (table : ApiKeyTable) (call : Call) : AsDirect setting table call.presented := by
  unfold Call.presented
  split
  · assumption
  · rename_i misshapen
    exact (if_neg misshapen).symm

/-- A hit is decided at once and as the database would, a miss is left to it. -/
theorem got_cases {table : ApiKeyTable} {cache : Text → Option RedisEntry} {call : Call}
    (truthful : ∀ keyHash, Truthful setting table keyHash (cache keyHash)) (shaped : isApiKey call.rawKey = true)
    (reachable : Bool) :
    setting.got cache call reachable = .missed call ∨
      setting.got cache call reachable = .decided call (setting.direct table call) := by
  unfold Setting.got
  cases reachable with
  | false => exact .inl rfl
  | true =>
      obtain missed | hit := truthful (setting.hashKey call.rawKey)
      · rw [if_pos rfl, missed]
        exact .inl rfl
      · rw [if_pos rfl, hit]
        exact .inr (congrArg _ (evaluate_direct shaped))

theorem got_direct {table : ApiKeyTable} {cache : Text → Option RedisEntry} {call : Call}
    (truthful : ∀ keyHash, Truthful setting table keyHash (cache keyHash)) (shaped : isApiKey call.rawKey = true)
    (reachable : Bool) : AsDirect setting table (setting.got cache call reachable) := by
  obtain same | same := got_cases truthful shaped reachable
  · exact same ▸ shaped
  · exact same ▸ rfl

variable {table : ApiKeyTable} {state next : State}

theorem Truthful.update {cache : Text → Option RedisEntry} {keyHash : Text} {value : Option RedisEntry}
    (truthful : ∀ other, Truthful setting table other (cache other)) (own : Truthful setting table keyHash value)
    (other : Text) : Truthful setting table other (Function.update cache keyHash value other) := by
  by_cases same : other = keyHash
  · subst same
    rw [Function.update_self]
    exact own
  · rw [Function.update_of_ne same]
    exact truthful other

theorem Turn.direct (agrees : Agrees setting table state) {before after : Phase} (turn : Turn setting state before after)
    (stands : AsDirect setting table before) : AsDirect setting table after := by
  cases turn with
  | presented call => exact presented_direct table call
  | got call reachable => exact got_direct agrees.cache stands reachable
  | loaded call => exact ⟨stands, agrees.stored ▸ rfl⟩
  | authorized | revoking | listed | failed | left => trivial

theorem Agrees.entered (agrees : Agrees setting table state) {party : Nat} {phase : Phase}
    (fits : AsDirect setting table phase) : Agrees setting table (state.enter party phase) where
  stored := agrees.stored
  cache := agrees.cache
  phases other := by
    by_cases same : other = party
    · subst same
      simp only [State.enter, Function.update_self]
      exact fits
    · simp only [State.enter, Function.update_of_ne same]
      exact agrees.phases other

theorem Agrees.cached (agrees : Agrees setting table state) {cache : Text → Option RedisEntry}
    (truthful : ∀ keyHash, Truthful setting table keyHash (cache keyHash)) :
    Agrees setting table { state with cache } :=
  ⟨agrees.stored, truthful, agrees.phases⟩

theorem Agrees.step (agrees : Agrees setting table state) {event : Event} (unchanged : event.writesTable = false)
    (taken : ApiKeyRuns.step setting state event = some next) : Agrees setting table next := by
  cases step_move taken with
  | turned _ party phase turn => exact agrees.entered (turn.direct agrees (agrees.phases party))
  | cached party reachable now call entry stands =>
      have known := agrees.phases party
      rw [stands] at known
      obtain ⟨shaped, rfl⟩ := known
      have entered := @Agrees.entered _ _ _ agrees party (.decided call _) (evaluate_direct shaped)
      refine entered.cached ?_
      cases reachable with
      | false => exact agrees.cache
      | true => exact Truthful.update agrees.cache (.inr (readEntry_writeEntry _ _ _))
  | created | revoked | deactivated => cases unchanged
  | invalidated party keyHash rest closing stands =>
      have entered := @Agrees.entered _ _ _ agrees party (.invalidating rest closing) trivial
      exact ⟨entered.stored, Truthful.update agrees.cache (.inl rfl), entered.phases⟩
  | finished party closing stands =>
      have entered := @Agrees.entered _ _ _ agrees party .idle trivial
      exact ⟨entered.stored, entered.cache, entered.phases⟩
  | disturbed _ keyHash value miss => exact agrees.cached (Truthful.update agrees.cache (.inl miss))

/-! ## Every call comes to its decision -/

/-- The reads and writes of one call, with what Redis does to them. -/
def authenticating (party : Nat) (first last : Bool) (now : Instant) : List Event :=
  [.get party first, .read party, .set party last now]

def Phase.underway : Phase → Option Call
  | .looking call | .missed call | .loaded call _ => some call
  | .idle | .decided .. | .authorized _ | .revoking _ | .listed .. | .invalidating .. | .failed _ => none

theorem run_loaded {party : Nat} {call : Call} {entry : CachedApiKey} (stands : state.phase party = .loaded call entry)
    (last : Bool) (now : Instant) :
    ∃ after, Machine.run (step setting) state [.set party last now] = some after ∧
      after.phase party = .decided call (entry.evaluate call.now) := by
  have taken : (step setting state (.set party last now)).isSome = true := by simp only [step, stands, Option.isSome_some]
  obtain ⟨after, done⟩ := Option.isSome_iff_exists.mp taken
  refine ⟨after, Machine.run_cons_eq_some.mpr ⟨after, done, rfl⟩, ?_⟩
  simp only [step, stands, Option.some.injEq] at done
  subst done
  exact Function.update_self ..

theorem run_missed {party : Nat} {call : Call} (stands : state.phase party = .missed call) (last : Bool)
    (now : Instant) :
    ∃ after, Machine.run (step setting) state [.read party, .set party last now] = some after ∧
      after.phase party = .decided call ((setting.facts state.table call).evaluate call.now) := by
  have entered : (state.enter party (.loaded call (setting.facts state.table call))).phase party =
      .loaded call (setting.facts state.table call) := Function.update_self ..
  obtain ⟨after, ended, decided⟩ := @run_loaded setting _ _ _ _ entered last now
  refine ⟨after, Machine.run_cons_eq_some.mpr ⟨_, ?_, ended⟩, decided⟩
  simp only [step, stands]

/-- On its own a call is decided after at most three steps, whatever Redis does. -/
theorem Agrees.decides (agrees : Agrees setting table state) {party : Nat} {call : Call}
    (underway : (state.phase party).underway = some call) (first last : Bool) (now : Instant) :
    ∃ own after, own <:+: authenticating party first last now ∧ Machine.run (ApiKeyRuns.step setting) state own = some after ∧
      after.phase party = .decided call (setting.direct table call) := by
  have known := agrees.phases party
  cases stands : state.phase party with
  | looking looked =>
      rw [stands] at underway known
      cases underway
      have got : ApiKeyRuns.step setting state (.get party first) = some (state.enter party (setting.got state.cache call first)) := by
        simp only [ApiKeyRuns.step, stands]
      obtain missed | hit := got_cases agrees.cache known first
      · rw [missed] at got
        have entered : (state.enter party (.missed call)).phase party = .missed call := Function.update_self ..
        obtain ⟨after, ended, decided⟩ := @run_missed setting _ _ _ entered last now
        refine ⟨_, after, List.infix_refl _, Machine.run_cons_eq_some.mpr ⟨_, got, ended⟩, ?_⟩
        rw [decided, ← agrees.stored]
        exact congrArg _ (evaluate_direct known)
      · rw [hit] at got
        refine ⟨[.get party first], _, ⟨[], [.read party, .set party last now], rfl⟩,
          Machine.run_cons_eq_some.mpr ⟨_, got, rfl⟩, Function.update_self ..⟩
  | missed looked =>
      rw [stands] at underway known
      cases underway
      obtain ⟨after, ended, decided⟩ := @run_missed setting _ _ _ stands last now
      refine ⟨_, after, ⟨[.get party first], [], rfl⟩, ended, ?_⟩
      rw [decided, ← agrees.stored]
      exact congrArg _ (evaluate_direct known)
  | loaded looked entry =>
      rw [stands] at underway known
      cases underway
      obtain ⟨shaped, rfl⟩ := known
      obtain ⟨after, ended, decided⟩ := @run_loaded setting _ _ _ _ stands last now
      refine ⟨_, after, ⟨[.get party first, .read party], [], rfl⟩, ended, ?_⟩
      rw [decided]
      exact congrArg _ (evaluate_direct shaped)
  | idle | decided | authorized | revoking | listed | invalidating | failed =>
      rw [stands] at underway
      cases underway

/-- While the table is unchanged, every call with a well-formed key has the outcome of the stored row, and it has
one. -/
theorem cached_as_direct {start final : State} {events : List Event}
    (truthful : ∀ keyHash, Truthful setting start.table keyHash (start.cache keyHash))
    (idle : ∀ party, start.phase party = .idle)
    (unchanged : Machine.Along (step setting) (fun _ event => event.writesTable = false) start events)
    (reached : Machine.run (step setting) start events = some final) {party : Nat} {call : Call}
    (shaped : isApiKey call.rawKey = true) :
    (∀ answer, final.phase party = .decided call answer →
      answer = decideRow (start.table.getByHash (setting.hashKey call.rawKey)) call.now) ∧
    ((final.phase party).underway = some call → ∀ first last now, ∃ own after,
      own <:+: authenticating party first last now ∧ Machine.run (step setting) final own = some after ∧
        after.phase party =
          .decided call (decideRow (start.table.getByHash (setting.hashKey call.rawKey)) call.now)) := by
  have keeps : Machine.Keeps (step setting) (fun _ event => event.writesTable = false) (Agrees setting start.table) :=
    fun _ _ _ agrees unchanged taken => agrees.step unchanged taken
  have agrees : Agrees setting start.table final :=
    keeps.run ⟨rfl, truthful, fun party => by rw [idle party]; trivial⟩ unchanged reached
  rw [← direct_eq shaped]
  constructor
  · intro answer decided
    have known := agrees.phases party
    rwa [decided] at known
  · exact fun underway first last now => agrees.decides underway first last now

/-! ## One key, presented twice -/

def plainSetting : Setting where
  spellings := { uuids := .uuid, instants := (Spelling.hex 1).along Equiv.intEquivNat }
  hashKey := id
  owner _ := some 1

def rawKey : Text := ['t', 'b', '_'] ++ List.replicate 43 'k'

def storedKey : ApiKey where
  id := 7
  projectId := 3
  name := ['c', 'i']
  keyHash := rawKey
  keyPrefix := rawKey.take 10
  createdAt := 0
  named := by decide

def oneKey : State where
  table := { rows := [storedKey] }

def presentedTwice : List Event :=
  .present 0 ⟨rawKey, 0⟩ :: authenticating 0 true true 0 ++ [.present 1 ⟨rawKey, Clock.hour⟩, .get 1 true]

theorem second_call_direct :
    ∃ final, Machine.run (step plainSetting) oneKey presentedTwice = some final ∧
      final.phase 1 = .decided ⟨rawKey, Clock.hour⟩ (.ok ⟨7, 3, rawKey.take 10⟩) ∧
      ∀ answer, final.phase 1 = .decided ⟨rawKey, Clock.hour⟩ answer →
        answer = decideRow (oneKey.table.getByHash rawKey) Clock.hour :=
  ⟨_, rfl, rfl, (@cached_as_direct plainSetting oneKey _ presentedTwice (fun _ => .inl rfl) (fun _ => rfl) (by decide)
    rfl 1 ⟨rawKey, Clock.hour⟩ (by decide)).1⟩

end Tiber.ApiKeyRuns
