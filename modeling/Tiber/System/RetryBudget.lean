import Mathlib.Data.Finset.Card
import Tiber.System.JobSafety

/-! The retry budget of one dispatch message: how often the jobs that descend from it call the provider.

A job carries the number of attempts before it, and the comparison with the ceiling comes before
the increment. So an attempt number is spent by the call that fails under it, and there is one
number more than the ceiling.
-/

set_option autoImplicit false

namespace Tiber

open Library

structure Handling where
  job : NotificationJob
  stored : Option Notification
  around : JobSurroundings

def NotificationJob.published (sendAt : Option Instant) : NotificationJob := { sendAt, counted := Nat.le_refl 0 }

section Descent

variable (settings : RetrySettings) (processor : NotificationDeliveryProcessor)

/-- The executions that descend from a job, in order; each schedules the next one or none. -/
def descendants : NotificationJob → List (Option Notification × JobSurroundings) → List Handling
  | _, [] => []
  | job, (stored, around) :: rest =>
      ⟨job, stored, around⟩ ::
        match (processNotification settings processor job stored around).scheduled with
        | none => []
        | some next => descendants next.job rest

def NotificationDeliveryProcessor.calls (loaded : Notification) (around : JobSurroundings) : Bool :=
  match processor.prepare loaded around.lookup around.clock with
  | .ok (.claim claim) =>
      match claimForDelivery (around.found loaded).toNotificationFields claim.processing claim.expectedStatus
          claim.staleBefore with
      | .ok (some _) => claim.usableAddress.isSome
      | .ok none | .error _ => false
  | .ok (.returned _) | .ok (.verdict _) | .error _ => false

/-- The execution calls the provider, which it does at most once. -/
def Handling.calls (handling : Handling) : Bool :=
  handling.job.sendAt.all (· ≤ handling.around.entry) && handling.around.interruption.isNone &&
    handling.stored.any fun loaded => processor.calls loaded handling.around

/-- No more calls than the ceiling, and no execution counts fewer prior attempts than one before it. -/
structure WithinBudget (run : List Handling) : Prop where
  calls : run.countP (·.calls processor) ≤ settings.maxAttempts
  kept : run.Pairwise fun first second => first.job.attempt ≤ second.job.attempt

structure Handling.Contacts (handling : Handling) (loaded : Notification) (recipient : Recipient) : Prop where
  stored : handling.stored = some loaded
  due : handling.job.sendAt.all (· ≤ handling.around.entry) = true
  contends : Contends processor loaded handling.around recipient
  won : Claimable (handling.around.found loaded) loaded processor.processingLease handling.around.clock.now
  address : (recipient.addresses.usable loaded.channel).isSome = true

end Descent

variable {settings : RetrySettings} {processor : NotificationDeliveryProcessor} {provider : Text} {lease : Int}
  {save : DeliveryAttempt → Checked Unit} {job : NotificationJob} {around : JobSurroundings} {loaded : Notification}

/-! ## Getting to the provider -/

theorem calls_iff : (workerProcessor provider lease save).calls loaded around = true ∧ around.interruption = none ↔
    ∃ recipient, Contends (workerProcessor provider lease save) loaded around recipient ∧
      Claimable (around.found loaded) loaded lease around.clock.now ∧
      (recipient.addresses.usable loaded.channel).isSome = true := by
  unfold NotificationDeliveryProcessor.calls
  by_cases eligible : loaded.Eligible lease around.clock.now
  swap
  · rw [NotificationDeliveryProcessor.prepare_ineligible eligible]
    exact ⟨fun both => absurd both.1 nofun, fun ⟨_, contends, _⟩ => absurd contends.eligible eligible⟩
  cases found : around.lookup.recipient with
  | none =>
      rw [NotificationDeliveryProcessor.prepare_orphan eligible found]
      refine ⟨fun both => absurd both.1 nofun, fun ⟨_, contends, _⟩ => ?_⟩
      rw [contends.found] at found
      cases found
  | some recipient =>
  have same {other : Recipient} (contends : Contends (workerProcessor provider lease save) loaded around other) :
      other = recipient := Option.some.inj (contends.found.symm.trans found)
  by_cases admitted : recipient.Admits loaded around.lookup.constraint around.clock.policy
  swap
  · obtain ⟨updated, prepared, -⟩ := NotificationDeliveryProcessor.prepare_rejected eligible found admitted
    rw [prepared]
    exact ⟨fun both => absurd both.1 nofun,
      fun ⟨_, contends, _⟩ => absurd (same contends ▸ contends.admitted) admitted⟩
  cases content : (workerProcessor provider lease save).contentFor loaded around.lookup with
  | error failure =>
      rw [NotificationDeliveryProcessor.prepare_unresolved eligible found admitted content]
      refine ⟨fun both => absurd both.1 nofun, fun ⟨_, contends, _⟩ => ?_⟩
      have resolved := contends.resolved
      rw [content] at resolved
      cases resolved
  | ok resolved =>
      obtain ⟨claim, prepared, expected, cutoff, address, -⟩ :=
        NotificationDeliveryProcessor.prepare_admitted eligible found admitted
          (by rw [content]; rfl)
      rw [prepared]
      dsimp only
      rw [claimForDelivery_found expected cutoff, address]
      constructor
      · rintro ⟨called, calm⟩
        split at called
        · rename_i row won
          have won : Claimable (around.found loaded) loaded lease around.clock.now := by
            by_contra beaten
            rw [if_neg beaten] at won
            cases won
          exact ⟨recipient, ⟨⟨eligible, found, admitted, by rw [content]; rfl⟩, calm⟩, won, called⟩
        · cases called
        · cases called
      · rintro ⟨other, contends, won, addressed⟩
        obtain rfl := same contends
        rw [if_pos won]
        exact ⟨addressed, contends.calm⟩

theorem Handling.calls_iff {handling : Handling} :
    handling.calls (workerProcessor provider lease save) = true ↔
      ∃ loaded recipient, handling.Contacts (workerProcessor provider lease save) loaded recipient := by
  simp only [Handling.calls, Bool.and_eq_true, Option.isNone_iff_eq_none]
  constructor
  · rintro ⟨⟨due, calm⟩, called⟩
    cases stored : handling.stored with
    | none => rw [stored] at called; cases called
    | some loaded =>
        rw [stored] at called
        obtain ⟨recipient, contends, won, address⟩ := Tiber.calls_iff.mp ⟨called, calm⟩
        exact ⟨loaded, recipient, stored, due, contends, won, address⟩
  · rintro ⟨loaded, recipient, contacts⟩
    obtain ⟨called, calm⟩ := Tiber.calls_iff.mpr ⟨recipient, contacts.contends, contacts.won, contacts.address⟩
    exact ⟨⟨contacts.due, calm⟩, by rw [contacts.stored]; exact called⟩

/-! ## What an execution leaves for the next one -/

theorem applyAsync_scheduled {row : Option NotificationFields} {sent next : Scheduled}
    (follows : next ∈ (applyAsync row around sent).scheduled) : next = sent := by
  unfold applyAsync at follows
  dsimp only at follows
  split at follows
  · cases follows
  · exact (Option.some.inj follows).symm

theorem retryOrDeadLetter_scheduled {row : Option NotificationFields} {failure : PyError} {next : Scheduled}
    (follows : next ∈ (retryOrDeadLetter settings job row around failure).scheduled) :
    next.job = job.retried ∧ job.attempt < settings.maxAttempts := by
  unfold retryOrDeadLetter at follows
  split at follows
  · rw [failPermanently_scheduled] at follows
    cases follows
  · rename_i left
    split at follows
    · cases follows
    · obtain rfl := applyAsync_scheduled follows
      exact ⟨rfl, Nat.not_le.mp left⟩

/-- A failure is retried under the next attempt number, or not at all. -/
theorem finish_failed_scheduled {ended : Ended} {failure : PyError} {next : Scheduled}
    (failed : ended.result = .error failure)
    (follows : next ∈ (finish settings lease job around ended).scheduled) :
    next.job = job.retried ∧ job.attempt < settings.maxAttempts := by
  simp only [finish, failed] at follows
  split at follows
  · rw [failPermanently_scheduled] at follows
    cases follows
  · exact retryOrDeadLetter_scheduled follows

theorem defer_scheduled {row : Option NotificationFields} {updated : Notification} {next : Scheduled}
    (follows : next ∈ (defer lease job row around updated).scheduled) : next.job = job.redispatched := by
  unfold defer at follows
  split at follows
  · rw [applyAsync_scheduled follows]
  · split at follows
    · cases follows
    · rw [applyAsync_scheduled follows]

theorem scheduled_job {stored : Option Notification} {next : Scheduled}
    (follows : next ∈ (processNotification settings processor job stored around).scheduled) :
    next.job = job.redispatched ∨ next.job = job.retried ∧ job.attempt < settings.maxAttempts := by
  unfold processNotification at follows
  split at follows
  · rw [applyAsync_scheduled follows]
    exact .inl rfl
  · cases result : (processor.processStored stored around).result with
    | error failure => exact .inr (finish_failed_scheduled result follows)
    | ok updated =>
        refine .inl ?_
        cases updated with
        | none =>
            simp only [finish, result] at follows
            cases follows
        | some updated =>
            simp only [finish, result] at follows
            split at follows
            · exact defer_scheduled follows
            · cases follows

theorem scheduled_attempt {stored : Option Notification} {next : Scheduled} (within : job.attempt ≤ settings.maxAttempts)
    (follows : next ∈ (processNotification settings processor job stored around).scheduled) :
    job.attempt ≤ next.job.attempt ∧ next.job.attempt ≤ settings.maxAttempts := by
  rcases scheduled_job follows with again | ⟨retried, left⟩
  · rw [again]
    exact ⟨Nat.le_refl _, within⟩
  · rw [retried]
    exact ⟨Nat.le_succ _, left⟩

theorem call_fails {failure : PyError} (raised : around.answer = .raised failure) (calm : around.interruption = none)
    (called : processor.calls loaded around = true) :
    ∃ other, (processor.process loaded around).result = .error other := by
  unfold NotificationDeliveryProcessor.calls at called
  split at called
  · rename_i claim prepared
    split at called
    · rename_i row won
      have taken : processor.takeOver loaded around = .ok (row, .inl claim) := by
        refine Checked.bind_eq_ok.mpr ⟨_, prepared, ?_⟩
        exact Checked.bind_eq_ok.mpr ⟨_, won, rfl⟩
      rw [process_claimed calm taken]
      unfold NotificationDeliveryProcessor.deliver
      simp only [called, raised, if_true]
      -- the outcome is lost, refused, or recorded as the exception it was
      split
      · exact ⟨_, rfl⟩
      · exact ⟨_, rfl⟩
    · cases called
    · cases called
  · cases called
  · cases called
  · cases called

/-- An execution that has called the provider is followed by a retry, if by anything. -/
theorem Handling.spends {handling : Handling} {failure : PyError} {next : Scheduled}
    (raised : handling.around.answer = .raised failure) (called : handling.calls processor = true)
    (follows : next ∈ (processNotification settings processor handling.job handling.stored
      handling.around).scheduled) : next.job = handling.job.retried := by
  simp only [Handling.calls, Bool.and_eq_true, Option.isNone_iff_eq_none] at called
  obtain ⟨⟨due, calm⟩, called⟩ := called
  have now : handling.job.sendAt.filter (handling.around.entry < ·) = none := by
    cases schedule : handling.job.sendAt with
    | none => rfl
    | some sendAt =>
        rw [schedule] at due
        simpa using due
  cases stored : handling.stored with
  | none => rw [stored] at called; cases called
  | some loaded =>
      rw [stored] at called
      obtain ⟨other, failed⟩ := call_fails raised calm called
      simp only [processNotification, now, NotificationDeliveryProcessor.processStored, stored] at follows
      exact (finish_failed_scheduled failed follows).1

/-! ## Runs -/

section Runs

variable {steps : List (Option Notification × JobSurroundings)}

theorem descendants_bounded (within : job.attempt ≤ settings.maxAttempts) :
    ∀ handling ∈ descendants settings processor job steps,
      job.attempt ≤ handling.job.attempt ∧ handling.job.attempt ≤ settings.maxAttempts := by
  induction steps generalizing job with
  | nil => exact fun _ member => nomatch member
  | cons step rest ih =>
      obtain ⟨stored, around⟩ := step
      intro handling member
      simp only [descendants, List.mem_cons] at member
      rcases member with rfl | member
      · exact ⟨Nat.le_refl _, within⟩
      · split at member
        · cases member
        · rename_i next follows
          obtain ⟨grown, left⟩ := scheduled_attempt within follows
          obtain ⟨before, limit⟩ := ih left handling member
          exact ⟨Nat.le_trans grown before, limit⟩

/-- Attempt numbers never go back, and a call that raises is the last one under its number. -/
theorem descendants_ordered (within : job.attempt ≤ settings.maxAttempts)
    (raising : ∀ step ∈ steps, ∃ failure, step.2.answer = .raised failure) :
    (descendants settings processor job steps).Pairwise fun first second =>
      first.job.attempt ≤ second.job.attempt ∧
        (first.calls processor = true → first.job.attempt < second.job.attempt) := by
  induction steps generalizing job with
  | nil => exact .nil
  | cons step rest ih =>
      obtain ⟨stored, around⟩ := step
      obtain ⟨⟨failure, raised⟩, later⟩ := List.forall_mem_cons.mp raising
      rw [descendants, List.pairwise_cons]
      cases follows : (processNotification settings processor job stored around).scheduled with
      | none => exact ⟨fun _ member => (nomatch member), .nil⟩
      | some next =>
          have onward := scheduled_attempt within follows
          refine ⟨fun other member => ?_, ih onward.2 later⟩
          have after := (descendants_bounded onward.2 other member).1
          refine ⟨Nat.le_trans onward.1 after, fun called => ?_⟩
          have spent := Handling.spends raised called follows
          rw [spent] at after
          exact after

end Runs

/-- Numbers up to a limit, each once: they are no more than the limit unless all of them are there. -/
theorem length_le_iff_missing {numbers : List Nat} {limit : Nat} (once : numbers.Nodup)
    (within : ∀ number ∈ numbers, number ≤ limit) :
    numbers.length ≤ limit ↔ ∃ number ≤ limit, number ∉ numbers := by
  rw [← List.toFinset_card_of_nodup once]
  constructor
  · intro few
    by_contra all
    push Not at all
    have every : Finset.range (limit + 1) ⊆ numbers.toFinset := fun number member =>
      List.mem_toFinset.mpr (all number (Nat.lt_succ_iff.mp (Finset.mem_range.mp member)))
    have many := Finset.card_le_card every
    rw [Finset.card_range] at many
    omega
  · rintro ⟨missing, below, absent⟩
    have some_only : numbers.toFinset ⊆ (Finset.range (limit + 1)).erase missing := by
      intro number member
      rw [List.mem_toFinset] at member
      refine Finset.mem_erase.mpr ⟨?_, Finset.mem_range.mpr (Nat.lt_succ_of_le (within number member))⟩
      rintro rfl
      exact absent member
    have few := Finset.card_le_card some_only
    rwa [Finset.card_erase_of_mem (Finset.mem_range.mpr (Nat.lt_succ_of_le below)), Finset.card_range] at few

/-- The jobs of one message keep to the ceiling exactly if some attempt number up to it is not used
for a provider call: there is one number more than calls allowed. -/
theorem retry_budget_iff {sendAt : Option Instant} {steps : List (Option Notification × JobSurroundings)}
    (raising : ∀ step ∈ steps, ∃ failure, step.2.answer = .raised failure) :
    WithinBudget settings (workerProcessor provider lease save)
        (descendants settings (workerProcessor provider lease save) (.published sendAt) steps) ↔
      ∃ attempt ≤ settings.maxAttempts,
        ∀ handling ∈ descendants settings (workerProcessor provider lease save) (.published sendAt) steps,
          handling.job.attempt = attempt →
            ∀ loaded recipient, ¬ handling.Contacts (workerProcessor provider lease save) loaded recipient := by
  have start : (NotificationJob.published sendAt).attempt ≤ settings.maxAttempts := Nat.zero_le _
  have ordered := @descendants_ordered settings (workerProcessor provider lease save) _ steps start raising
  have bounded := @descendants_bounded settings (workerProcessor provider lease save) _ steps start
  generalize descendants settings (workerProcessor provider lease save) (.published sendAt) steps = run
    at ordered bounded
  -- the numbers under which the provider is called
  have once : ((run.filter (·.calls (workerProcessor provider lease save))).map (·.job.attempt)).Nodup := by
    rw [List.Nodup, List.pairwise_map, List.pairwise_filter]
    exact ordered.imp fun both called _ => Nat.ne_of_lt (both.2 called)
  have within : ∀ number ∈ (run.filter (·.calls (workerProcessor provider lease save))).map (·.job.attempt),
      number ≤ settings.maxAttempts := by
    intro number member
    obtain ⟨handling, listed, rfl⟩ := List.mem_map.mp member
    exact (bounded handling (List.mem_filter.mp listed).1).2
  have counted := length_le_iff_missing once within
  rw [List.length_map, ← List.countP_eq_length_filter] at counted
  have kept : run.Pairwise fun first second => first.job.attempt ≤ second.job.attempt :=
    ordered.imp fun both => both.1
  rw [show WithinBudget settings (workerProcessor provider lease save) run ↔
      run.countP (·.calls (workerProcessor provider lease save)) ≤ settings.maxAttempts from
    ⟨fun within => within.calls, fun calls => ⟨calls, kept⟩⟩, counted]
  refine exists_congr fun attempt => and_congr_right fun _ => ?_
  simp only [List.mem_map, List.mem_filter, not_exists, not_and, and_imp]
  refine forall_congr' fun handling => forall_congr' fun member => ?_
  rw [Handling.calls_iff]
  constructor
  · intro unused same loaded recipient contacts
    exact unused ⟨loaded, recipient, contacts⟩ same
  · rintro unused ⟨loaded, recipient, contacts⟩ same
    exact unused same loaded recipient contacts

/-! ## A ceiling of one -/

section Outage

open DeliveryRuns

def outage (now : Instant) : JobSurroundings where
  lookup := { recipient := some sleeper }
  entry := now
  clock := ⟨now, now, now, now, now, now⟩
  answer := .raised (.raised "TimeoutError" "provider timed out")
  recording := ⟨0, now, now, now⟩
  failed := now
  deferred := now
  dispatched := now

def storedReminder : Option Notification := (Notification.build reminder).toOption

/-- What the first of two executions, under a ceiling of one, leaves in the table. -/
def reminderLeft : Option Notification :=
  (processNotification { maxAttempts := 1 } worker (.published none) storedReminder (outage (9 * Clock.hour))).row.bind
    fun row => (Notification.build row).toOption

def twoOutages : List (Option Notification × JobSurroundings) :=
  [(storedReminder, outage (9 * Clock.hour)), (reminderLeft, outage (9 * Clock.hour + 30 * Clock.second))]

theorem outage_raises {now : Instant} : ∃ failure, (outage now).answer = .raised failure := ⟨_, rfl⟩

/-- The provider is called for the message and once more for its retry. -/
theorem ceiling_of_one_calls_twice :
    (∀ step ∈ twoOutages, ∃ failure, step.2.answer = .raised failure) ∧
      (descendants { maxAttempts := 1 } worker (.published none) twoOutages).countP (·.calls worker) = 2 ∧
      ¬ WithinBudget { maxAttempts := 1 } worker
        (descendants { maxAttempts := 1 } worker (.published none) twoOutages) := by
  refine ⟨?_, by decide, fun within => absurd within.calls (by decide)⟩
  exact List.forall_mem_cons.mpr ⟨outage_raises, List.forall_mem_cons.mpr ⟨outage_raises, List.forall_mem_nil _⟩⟩

def deletedMeanwhile : List (Option Notification × JobSurroundings) :=
  [(storedReminder, outage (9 * Clock.hour)),
    (reminderLeft, { outage (9 * Clock.hour + 30 * Clock.second) with lookup := ⟨none, none, none⟩ })]

theorem ceiling_of_one_kept :
    WithinBudget { maxAttempts := 1 } worker
      (descendants { maxAttempts := 1 } worker (.published none) deletedMeanwhile) := by
  have raising : ∀ step ∈ deletedMeanwhile, ∃ failure, step.2.answer = .raised failure :=
    List.forall_mem_cons.mpr ⟨outage_raises, List.forall_mem_cons.mpr ⟨⟨_, rfl⟩, List.forall_mem_nil _⟩⟩
  refine (@retry_budget_iff { maxAttempts := 1 } "twilio".toList (300 * Clock.second) (fun _ => .ok ()) none
    deletedMeanwhile raising).mpr ⟨1, Nat.le_refl 1, ?_⟩
  intro handling member same loaded recipient contacts
  simp only [deletedMeanwhile, descendants, List.mem_cons] at member
  rcases member with rfl | member
  · exact absurd same (by decide)
  · split at member
    · cases member
    · rcases List.mem_cons.mp member with rfl | member
      · exact absurd contacts.contends.found nofun
      · split at member <;> cases member

end Outage

end Tiber
