import Tiber.System.AcceptRuns
import Tiber.System.Acceptance

/-! One key, one intake: what holds of every run of concurrent accept calls. -/

set_option autoImplicit false

namespace Tiber

open Library

def Requested (runtime : Runtime) (command : AcceptNotificationCommand) (intake : NotificationIntake) : Prop :=
  intake.projectId = command.projectId ∧ intake.idempotencyKey = command.idempotencyKey ∧
    intake.requestFingerprint = runtime.fingerprint command

namespace AcceptRuns

/-- What a call knows of the stored intakes, by where it stands. -/
def Justified (runtime : Runtime) (command : AcceptNotificationCommand) (intakes : List NotificationIntake) :
    Phase → Prop
  | .idle | .looked | .ended (.aborted _) => True
  | .expanded creation _ | .written creation _ | .inserted creation _ => Requested runtime command creation.intake
  | .lost _ _ => ∃ key, command.idempotencyKey = some key ∧
      ∃ intake ∈ intakes, intake.Keyed command.projectId key
  | .answering answer _ | .ended (.returned answer) | .ended (.unheard answer) =>
      ∃ intake ∈ intakes, Requested runtime command intake ∧ answer.transactionId = intake.transactionId
  | .ended (.raised error) => error = .idempotencyKeyConflict ∧
      ∃ key, command.idempotencyKey = some key ∧ ∃ intake ∈ intakes,
        intake.Keyed command.projectId key ∧ intake.requestFingerprint ≠ runtime.fingerprint command

structure Sound (runtime : Runtime) (command : Nat → AcceptNotificationCommand) (state : State) : Prop where
  distinct : state.index.Distinct
  indexed : state.index.committed = state.intakes.filterMap indexKey
  entered : ∀ call, state.index.entries call = (state.phase call).keys
  identified : (state.intakes.map (·.id)).Nodup
  announced : List.Forall₂ (fun row intake => row.kind = .intake ∧ row.aggregateId = intake.id)
    state.outbox state.intakes
  justified : ∀ call, Justified runtime (command call) state.intakes (state.phase call)

variable {runtime : Runtime} {command : Nat → AcceptNotificationCommand} {state next start final : State}
  {events : List Event}

theorem State.Fresh.sound (fresh : start.Fresh) : Sound runtime command start where
  distinct := by
    rw [UniqueIndex.Distinct, fresh.calm, fresh.indexed]
    exact fresh.unique
  indexed := fresh.indexed
  entered call := by
    rw [fresh.idle call, UniqueIndex.entries, fresh.calm]
    rfl
  identified := fresh.identified
  announced := fresh.announced
  justified call := by
    rw [fresh.idle call]
    trivial

/-! ## One step -/

theorem Justified.mono {request : AcceptNotificationCommand} {intakes more : List NotificationIntake} {phase : Phase}
    (justified : Justified runtime request intakes phase) (grown : intakes ⊆ more) :
    Justified runtime request more phase := by
  match phase, justified with
  | .idle, _ | .looked, _ | .ended (.aborted _), _ => trivial
  | .expanded _ _, same | .written _ _, same | .inserted _ _, same => exact same
  | .lost _ _, ⟨key, keyed, intake, member, same⟩ => exact ⟨key, keyed, intake, grown member, same⟩
  | .answering _ _, ⟨intake, member, same⟩ | .ended (.returned _), ⟨intake, member, same⟩
  | .ended (.unheard _), ⟨intake, member, same⟩ => exact ⟨intake, grown member, same⟩
  | .ended (.raised _), ⟨error, key, keyed, intake, member, same⟩ =>
      exact ⟨error, key, keyed, intake, grown member, same⟩

theorem Justified.update {call : Nat} {phase : Phase} {more : List NotificationIntake}
    (justified : ∀ other, Justified runtime (command other) state.intakes (state.phase other))
    (grown : state.intakes ⊆ more) (own : Justified runtime (command call) more phase) :
    ∀ other, Justified runtime (command other) more (Function.update state.phase call phase other) := by
  intro other
  by_cases mine : other = call
  · cases mine
    rw [Function.update_self]
    exact own
  · rw [Function.update_of_ne mine]
    exact (justified other).mono grown

theorem entered_update {call : Nat} {phase : Phase} {index : UniqueIndex (Uuid × Text)}
    (entered : ∀ other, state.index.entries other = (state.phase other).keys)
    (own : index.entries call = phase.keys)
    (others : ∀ other, other ≠ call → index.entries other = state.index.entries other) :
    ∀ other, index.entries other = (Function.update state.phase call phase other).keys := by
  intro other
  by_cases mine : other = call
  · cases mine
    rw [Function.update_self]
    exact own
  · rw [Function.update_of_ne mine, others other mine]
    exact entered other

theorem answer_justified {request : AcceptNotificationCommand} {intakes : List NotificationIntake}
    {answer : AcceptedIntake} (found : replay runtime intakes request = .ok (some answer)) :
    ∃ intake ∈ intakes, Requested runtime request intake ∧ answer.transactionId = intake.transactionId := by
  obtain ⟨key, keyed, intake, member, same, agrees, answer⟩ := replay_eq_answer found
  exact ⟨intake, member, ⟨same.1, same.2.trans keyed.symm, agrees⟩, answer⟩

theorem Onward.justified (sound : Sound runtime command state) {call : Nat} {phase : Phase}
    (onward : Onward runtime command state call phase) : Justified runtime (command call) state.intakes phase := by
  have before := sound.justified call
  cases onward with
  | looked stands => trivial
  | known answer stands found => exact answer_justified found
  | expanded topics templates minted creation stands made => exact expand_identity made
  | written creation write stands | unkeyed creation write stands free =>
      rw [stands] at before
      exact before
  | lost creation write key stands keyed taken =>
      rw [stands] at before
      -- the entry that stood in the way is a stored intake's
      rw [sound.indexed, List.mem_filterMap] at taken
      obtain ⟨intake, member, same⟩ := taken
      obtain ⟨project, name⟩ := key
      obtain ⟨own, key⟩ := indexKey_eq_some.mp keyed
      rw [← own, before.1] at same
      exact ⟨name, before.2.1.symm.trans key, intake, member, indexKey_eq_some.mp same⟩
  | replayed answer creation write stands found => exact answer_justified found

theorem Onward.keys {call : Nat} {phase : Phase} (onward : Onward runtime command state call phase) :
    phase.keys = (state.phase call).keys := by
  cases onward with
  | looked stands | known answer stands found | expanded topics templates minted creation stands made
  | written creation write stands | lost creation write key stands keyed taken
  | replayed answer creation write stands found =>
      rw [stands]
      rfl
  | unkeyed creation write stands free =>
      rw [stands, Phase.keys, free]
      rfl

theorem Stops.justified (sound : Sound runtime command state) {call : Nat} {outcome : Outcome}
    (stops : Stops runtime command state call outcome) :
    Justified runtime (command call) state.intakes (.ended outcome) := by
  cases stops with
  | conflicting error found => exact replay_eq_error found
  | vanished creation write stands found =>
      -- a loser finds the row it lost to
      have known := sound.justified call
      rw [stands] at known
      obtain ⟨key, keyed, intake, member, same⟩ := known
      exact absurd same (replay_eq_none found keyed intake member)
  | aborted refusal => trivial

theorem sound_keeps : Machine.Keeps (step runtime command) (fun _ _ => True) (Sound runtime command) := by
  intro state event next sound _ taken
  -- the calls but one keep their phases and entries, so each case is about that one
  cases step_effect taken with
  | entered call phase locks onward silent =>
      exact { sound with
        entered := entered_update sound.entered ((sound.entered call).trans onward.keys.symm) fun _ _ => rfl
        justified := .update sound.justified (List.Subset.refl _) (onward.justified sound) }
  | keyed call creation write key index stands key_eq done silent =>
      obtain ⟨same, own⟩ : index.committed = state.index.committed ∧ index.entries call = [key] := by
        obtain ⟨same, entries⟩ := UniqueIndex.entries_insert done call
        rw [if_pos rfl, sound.entered call, stands] at entries
        exact ⟨same, entries⟩
      have before := sound.justified call
      rw [stands] at before
      exact { sound with
        distinct := sound.distinct.insert done
        indexed := same.trans sound.indexed
        entered := entered_update sound.entered (by rw [own, Phase.keys, key_eq]; rfl) fun other elsewhere => by
          rw [(UniqueIndex.entries_insert done other).2, if_neg elsewhere]
        justified := .update sound.justified (List.Subset.refl _) before }
  | left call outcome stops running silent =>
      exact { sound with
        distinct := sound.distinct.abort call
        entered := entered_update sound.entered (by simp [Phase.keys]) fun other elsewhere => by simp [elsewhere]
        justified := .update sound.justified (List.Subset.refl _) (stops.justified sound) }
  | created call heard creation write recipients same stands fresh stored =>
      have before := sound.justified call
      rw [stands] at before
      exact {
        distinct := sound.distinct.commit call
        -- the entries of the call become keys of the stored rows
        indexed := by
          rw [State.close_index, State.close_intakes, UniqueIndex.commit, sound.entered call, stands, sound.indexed,
            Phase.keys, List.filterMap_cons]
          cases indexKey creation.intake <;> rfl
        entered := entered_update sound.entered (by simp [Phase.keys]) fun other elsewhere => by simp [elsewhere]
        identified := List.nodup_cons.mpr ⟨fresh, sound.identified⟩
        announced := .cons ⟨rfl, rfl⟩ sound.announced
        justified := .update sound.justified (List.subset_cons_self _ _) <| by
          cases heard <;> exact ⟨creation.intake, .head _, before, rfl⟩ }
  | answered call heard answer made recipients same stands stored =>
      have before := sound.justified call
      rw [stands] at before
      exact { sound with
        distinct := sound.distinct.commit call
        indexed := by
          rw [State.close_index, State.close_intakes, UniqueIndex.commit, sound.entered call, stands]
          exact sound.indexed
        entered := entered_update sound.entered (by simp [Phase.keys]) fun other elsewhere => by simp [elsewhere]
        justified := .update sound.justified (List.Subset.refl _) <| by
          cases heard <;> exact before }

theorem sound_run (fresh : start.Fresh) (reached : Machine.run (step runtime command) start events = some final) :
    Sound runtime command final :=
  sound_keeps.run fresh.sound (Machine.along_true start events) reached

/-! ## Every run -/

def State.announcing (state : State) (projectId : Uuid) (key : Text) : List OutboxRow :=
  state.outbox.filter fun row =>
    state.intakes.any fun intake => decide (intake.Keyed projectId key) && row.aggregateId == intake.id

namespace Sound

variable {projectId : Uuid} {key : Text} (sound : Sound runtime command state)

include sound

theorem unique : (state.intakes.filterMap indexKey).Nodup := by
  rw [← sound.indexed]
  exact sound.distinct.committed

theorem keyed_eq {intake other : NotificationIntake} (member : intake ∈ state.intakes)
    (also : other ∈ state.intakes) (keyed : intake.Keyed projectId key) (same : other.Keyed projectId key) :
    intake = other :=
  UniqueIndex.rows_eq sound.unique member also (indexKey_eq_some.mpr keyed) (indexKey_eq_some.mpr same)

theorem keyed_le_one : (state.intakes.filter fun intake => intake.Keyed projectId key).length ≤ 1 := by
  have few := UniqueIndex.rows_le_one sound.unique (projectId, key)
  simp only [indexKey_eq_some] at few
  exact few

theorem announcing_le_one : (state.announcing projectId key).length ≤ 1 := by
  have paired : state.outbox.map (·.aggregateId) = state.intakes.map (·.id) := by
    rw [← List.forall₂_eq_eq_eq, List.forall₂_map_left_iff, List.forall₂_map_right_iff]
    exact sound.announced.imp fun _ _ both => both.2
  by_cases stored : ∃ intake ∈ state.intakes, intake.Keyed projectId key
  · obtain ⟨intake, member, keyed⟩ := stored
    -- the rows in question are those of this one intake
    have only : state.announcing projectId key =
        state.outbox.filter fun row => some row.aggregateId = some intake.id := by
      apply List.filter_congr
      intro row _
      rw [Bool.eq_iff_iff]
      simp only [List.any_eq_true, Bool.and_eq_true, decide_eq_true_eq, beq_iff_eq, Option.some.injEq]
      constructor
      · rintro ⟨other, also, same, announces⟩
        rw [sound.keyed_eq member also keyed same]
        exact announces
      · intro announces
        exact ⟨intake, member, keyed, announces⟩
    rw [only]
    refine UniqueIndex.rows_le_one ?_ intake.id
    rw [List.filterMap_eq_map', paired]
    exact sound.identified
  · have none : state.announcing projectId key = [] := by
      apply List.filter_eq_nil_iff.mpr
      intro row _
      simp only [List.any_eq_true, Bool.and_eq_true, decide_eq_true_eq]
      rintro ⟨intake, member, keyed, -⟩
      exact stored ⟨intake, member, keyed⟩
    rw [none]
    exact Nat.zero_le 1

theorem replay_conflict {request : AcceptNotificationCommand} (ours : request.projectId = projectId)
    (asked : request.idempotencyKey = some key) {intake : NotificationIntake} (member : intake ∈ state.intakes)
    (keyed : intake.Keyed projectId key) (differs : intake.requestFingerprint ≠ runtime.fingerprint request) :
    replay runtime state.intakes request = .error .idempotencyKeyConflict := by
  cases found : replay runtime state.intakes request with
  | error error => rw [(replay_eq_error found).1]
  | ok answer =>
      cases answer with
      | none =>
          rw [← ours] at keyed
          exact absurd keyed (replay_eq_none found asked intake member)
      | some answer =>
          obtain ⟨name, named, other, also, same, agrees, -⟩ := replay_eq_answer found
          rw [asked] at named
          cases named
          rw [ours] at same
          rw [sound.keyed_eq member also keyed same] at differs
          exact absurd agrees differs

end Sound

theorem conflicting_next (sound : Sound runtime command state) {call : Nat} {intake : NotificationIntake} {key : Text}
    (asked : (command call).idempotencyKey = some key) (member : intake ∈ state.intakes)
    (keyed : intake.Keyed (command call).projectId key)
    (differs : intake.requestFingerprint ≠ runtime.fingerprint (command call)) :
    (step runtime command state (.look call) = some next ∨ step runtime command state (.relook call) = some next →
      next.phase call = .ended (.raised .idempotencyKeyConflict)) ∧
    (step runtime command state (.insert call) = some next →
      ∃ creation write, next.phase call = .lost creation write) := by
  have found := sound.replay_conflict rfl asked member keyed differs
  constructor
  · -- the look-up fails at the first statement or at the last
    rintro (taken | taken)
    · simp only [step, found] at taken
      split at taken <;> cases taken
      exact Function.update_self ..
    · simp only [step, found] at taken
      split at taken <;> cases taken
      exact Function.update_self ..
  · intro taken
    simp only [step] at taken
    split at taken
    · rename_i creation write stands
      have own := sound.justified call
      rw [stands] at own
      have entry : indexKey creation.intake = some ((command call).projectId, key) :=
        indexKey_eq_some.mpr ⟨own.1, own.2.1.trans asked⟩
      have taken_key : ((command call).projectId, key) ∈ state.index.committed := by
        rw [sound.indexed]
        exact List.mem_filterMap.mpr ⟨intake, member, indexKey_eq_some.mpr keyed⟩
      simp only [entry, UniqueIndex.insert, taken_key, if_true] at taken
      cases taken
      exact ⟨creation, write, Function.update_self ..⟩
    · cases taken

/-- A commit means that the stored intake is the request's own. -/
theorem conflicting_uncommitted (fresh : start.Fresh)
    (reached : Machine.run (step runtime command) start events = some final) {call : Nat} {intake : NotificationIntake}
    {key : Text} (asked : (command call).idempotencyKey = some key) (member : intake ∈ final.intakes)
    (keyed : intake.Keyed (command call).projectId key)
    (differs : intake.requestFingerprint ≠ runtime.fingerprint (command call)) (heard : Bool) :
    .commit call heard ∉ events := by
  intro committed
  have sound : Sound runtime command final := sound_run fresh reached
  obtain ⟨answer, ended⟩ := run_commit reached committed
  have own := sound.justified call
  rw [ended] at own
  have stored : ∃ other ∈ final.intakes, Requested runtime (command call) other ∧
      answer.transactionId = other.transactionId := by
    cases heard <;> exact own
  obtain ⟨other, also, ⟨project, named, agrees⟩, -⟩ := stored
  rw [sound.keyed_eq member also keyed ⟨project, named.trans asked⟩] at differs
  exact differs agrees

end AcceptRuns

/-- Accepting is idempotent in every run of concurrent calls: one intake and one announcement a key, stored
together; every answer names that intake; and a different request under the key commits nothing and is told
of the conflict, unless it was aborted. -/
theorem accept_idempotent {runtime : Runtime} {command : Nat → AcceptNotificationCommand}
    {start final : AcceptRuns.State} {events : List AcceptRuns.Event} (fresh : start.Fresh)
    (reached : Machine.run (AcceptRuns.step runtime command) start events = some final) (projectId : Uuid)
    (key : Text) :
    (final.intakes.filter fun intake => intake.Keyed projectId key).length ≤ 1 ∧
    (final.announcing projectId key).length ≤ 1 ∧
    List.Forall₂ (fun row intake => row.kind = .intake ∧ row.aggregateId = intake.id) final.outbox final.intakes ∧
    ∀ call, (command call).projectId = projectId → (command call).idempotencyKey = some key →
      (∀ answer, final.phase call = .ended (.returned answer) →
        ∃ intake ∈ final.intakes, intake.Keyed projectId key ∧ answer.transactionId = intake.transactionId) ∧
      ∀ intake ∈ final.intakes, intake.Keyed projectId key →
        intake.requestFingerprint ≠ runtime.fingerprint (command call) →
        (∀ heard, .commit call heard ∉ events) ∧
        (∀ outcome, final.phase call = .ended outcome →
          outcome = .raised .idempotencyKeyConflict ∨ ∃ refusal, outcome = .aborted refusal) ∧
        ∀ next,
          (AcceptRuns.step runtime command final (.look call) = some next ∨
              AcceptRuns.step runtime command final (.relook call) = some next →
            next.phase call = .ended (.raised .idempotencyKeyConflict)) ∧
          (AcceptRuns.step runtime command final (.insert call) = some next →
            ∃ creation write, next.phase call = .lost creation write) := by
  have sound : AcceptRuns.Sound runtime command final := AcceptRuns.sound_run fresh reached
  refine ⟨sound.keyed_le_one, sound.announcing_le_one, sound.announced, fun call ours asked =>
    ⟨fun answer ended => ?_, ?_⟩⟩
  · have own := sound.justified call
    rw [ended] at own
    obtain ⟨intake, member, same, named⟩ := own
    exact ⟨intake, member, ⟨same.1.trans ours, same.2.1.trans asked⟩, named⟩
  · intro intake member keyed differs
    rw [← ours] at keyed
    refine ⟨AcceptRuns.conflicting_uncommitted fresh reached asked member keyed differs, fun outcome ended => ?_,
      fun next => AcceptRuns.conflicting_next sound asked member keyed differs⟩
    have own := sound.justified call
    rw [ended] at own
    -- any other end would make the stored intake the request's own
    have foreign : ¬ ∃ other ∈ final.intakes, Requested runtime (command call) other := by
      rintro ⟨other, also, project, named, agrees⟩
      rw [sound.keyed_eq member also keyed ⟨project, named.trans asked⟩] at differs
      exact differs agrees
    cases outcome with
    | returned answer =>
        obtain ⟨other, also, same, -⟩ := own
        exact absurd ⟨other, also, same⟩ foreign
    | unheard answer =>
        obtain ⟨other, also, same, -⟩ := own
        exact absurd ⟨other, also, same⟩ foreign
    | raised error => exact .inl (by rw [own.1])
    | aborted refusal => exact .inr ⟨refusal, rfl⟩

/-! Three calls under one key: two alike, and one for another group. -/

def notice (addresses : Addresses) (group : Text) (key : Option Text) : AcceptNotificationCommand where
  projectId := 1
  recipientId := none
  addresses
  channels := none
  category := none
  topicSlug := none
  templateSlug := none
  templateVariables := none
  content := some ⟨"Your order is on its way".toList, none, [], [], by decide⟩
  groupKey := some group
  sendAt := none
  idempotencyKey := key

def phone : Addresses := fun channel => if channel = .sms then some "+15550100".toList else none

def orders : Nat → AcceptNotificationCommand := fun call =>
  notice phone (if call = 1 then "returns".toList else "orders".toList) (some "order-17".toList)

/-- `cpython`, with fingerprints that tell the requests' groups apart. -/
def grouping : Runtime :=
  { cpython with fingerprint := fun command => String.ofList (command.groupKey.getD []) }

theorem AcceptRuns.State.fresh_empty : ({} : AcceptRuns.State).Fresh :=
  ⟨fun _ => rfl, rfl, rfl, List.nodup_nil, List.nodup_nil, List.nodup_nil, .nil⟩

/-- The first two overtake each other up to the insert, where the second loses; the third comes late. -/
def crossing : List AcceptRuns.Event :=
  [.look 0, .look 1, .expand 1 [] [] ⟨20, 21, 22, 0⟩, .expand 0 [] [] firstIds, .write 0, .write 1, .insert 0,
    .commit 0 true, .insert 1, .look 2, .relook 1, .commit 2 true]

theorem concurrent_orders :
    ∃ final intake, Machine.run (AcceptRuns.step grouping orders) {} crossing = some final ∧
      final.intakes = [intake] ∧
      final.phase 0 = .ended (.returned ⟨intake.transactionId, 1, false⟩) ∧
      final.phase 1 = .ended (.raised .idempotencyKeyConflict) ∧
      (∀ heard, .commit 1 heard ∉ crossing) ∧
      ∀ answer, final.phase 2 = .ended (.returned answer) → answer.transactionId = intake.transactionId := by
  obtain ⟨final, intake, reached, stored, first, second, keyed, differs⟩ : ∃ final intake,
      Machine.run (AcceptRuns.step grouping orders) {} crossing = some final ∧
      final.intakes = [intake] ∧
      final.phase 0 = .ended (.returned ⟨intake.transactionId, 1, false⟩) ∧
      final.phase 1 = .ended (.raised .idempotencyKeyConflict) ∧
      intake.Keyed 1 "order-17".toList ∧ intake.requestFingerprint ≠ grouping.fingerprint (orders 1) :=
    ⟨_, _, rfl, rfl, rfl, rfl, ⟨rfl, rfl⟩, by decide⟩
  obtain ⟨-, -, -, calls⟩ := accept_idempotent AcceptRuns.State.fresh_empty reached 1 "order-17".toList
  refine ⟨final, intake, reached, stored, first, second, ?_, fun answer ended => ?_⟩
  · exact ((calls 1 rfl rfl).2 intake (by rw [stored]; exact .head _) keyed differs).1
  · obtain ⟨other, also, -, named⟩ := (calls 2 rfl rfl).1 answer ended
    rw [stored, List.mem_singleton] at also
    rw [named, also]

end Tiber
