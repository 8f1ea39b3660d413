import Tiber.Application.Dispatch
import Tiber.System.Acceptance
import Tiber.System.DeliveryFields

/-! The content of a notification after fan-out.

A first transaction renders the template again and its claim writes the result to the row, so
the stored content depends on a row of another aggregate that may be edited at any time.
-/

set_option autoImplicit false

namespace Tiber

open Library

/-- Where a first transaction comes as far as the template, the variant it reads still renders to the
stored content. -/
def Unedited (lease : Int) (fields : NotificationFields) (lookup : Lookup) (clock : Readings) : Prop :=
  ∀ loaded : Notification, loaded.toNotificationFields = fields → loaded.Eligible lease clock.now →
    ∀ recipient, lookup.recipient = some recipient → recipient.Admits loaded lookup.constraint clock.policy →
    ∀ template variant, loaded.templateId ≠ none → lookup.template = some template →
      template.variants loaded.channel = some variant →
      ∀ content, TemplateRenderer.render variant.content loaded.templateVariables = .ok content →
        content = loaded.content

namespace DeliveryRuns

variable {provider : Text} {lease : Int} {save : DeliveryAttempt → Checked Unit}

theorem contentFor_unedited {loaded : Notification} {lookup : Lookup} {clock : Readings} {recipient : Recipient}
    {content : NotificationContent} (unedited : Unedited lease loaded.toNotificationFields lookup clock)
    (eligible : loaded.Eligible lease clock.now) (found : lookup.recipient = some recipient)
    (admitted : recipient.Admits loaded lookup.constraint clock.policy)
    (resolved : (workerProcessor provider lease save).contentFor loaded lookup = .ok content) :
    content = loaded.content := by
  have resolving : resolveContent loaded lookup.template = .ok content := resolved
  unfold resolveContent at resolving
  split at resolving
  · exact (Except.ok.inj resolving).symm
  · rename_i templateId referenced
    split at resolving
    · cases resolving
    · rename_i template held
      split at resolving
      · cases resolving
      · rename_i variant offered
        exact unedited loaded rfl eligible recipient found admitted template variant (by rw [referenced]; nofun) held
          offered content resolving

theorem content_stable (stored : NotificationContent) :
    Stable (workerProcessor provider lease save) (Unedited lease) fun fields => fields.content = stored where
  judged {loaded updated lookup clock} same _ prepared := by
    obtain ⟨notification, staleBefore, recipient, eligible, -, -, applied⟩ :=
      NotificationDeliveryProcessor.prepare_verdict prepared
    rw [NotificationDeliveryProcessor.applyVerdict_fields applied,
      NotificationDeliveryProcessor.eligible_fields eligible]
    exact same
  prepared {loaded claim lookup clock} same unedited prepared := by
    obtain ⟨notification, staleBefore, recipient, eligible, found, allowed, claimed⟩ :=
      NotificationDeliveryProcessor.prepare_claim prepared
    have fields := NotificationDeliveryProcessor.eligible_fields eligible
    obtain ⟨resolved, written⟩ := NotificationDeliveryProcessor.claimFor_content claimed
    rw [NotificationDeliveryProcessor.contentFor_congr fields] at resolved
    have kept : claim.content = loaded.content := contentFor_unedited unedited
      (NotificationDeliveryProcessor.eligible_of_taken eligible) found
      ((NotificationDeliveryProcessor.judge_allowed fields).mp allowed) resolved
    exact ⟨written.trans (kept.trans same), kept.trans same⟩
  claimed _ carried := carried
  recorded same recorded := by
    rw [NotificationDeliveryProcessor.outcome_fields recorded]
    exact same
  cancelled same := same
  withdrawn same _ := same
  failed same := same

/-- In every run in which no first transaction finds the template edited, the content stays what fan-out
stored, and every provider call is given just that. -/
theorem accepted_content_immutable {start final : State} {events : List Event} (fresh : start.Fresh)
    (unedited : Machine.Along (step (workerProcessor provider lease save)) (Reading (Unedited lease)) start events)
    (reached : Machine.run (step (workerProcessor provider lease save)) start events = some final) :
    final.row.content = start.row.content ∧
      ∀ party claim, final.phase party = .sending claim → claim.content = start.row.content := by
  obtain ⟨row, carried⟩ := (content_stable start.row.content).run fresh rfl unedited reached
  refine ⟨row, fun party claim sending => ?_⟩
  have member : claim.sent ∈ (final.phase party).carried := by
    rw [sending]
    exact .tail _ (.head _)
  exact carried party claim.sent member

/-- Conversely, a first transaction that finds the template edited needs only to commit its claim. -/
theorem edited_content_written {state : State} {party : Nat} {lookup : Lookup} {clock : Readings}
    (idle : state.phase party = .idle) (edited : ¬ Unedited lease state.row lookup clock) :
    ∃ next, Machine.run (step (workerProcessor provider lease save)) state [.read party lookup clock, .claim party] =
      some next ∧ next.row.content ≠ state.row.content := by
  simp only [Unedited, not_forall] at edited
  obtain ⟨loaded, same, eligible, recipient, found, admitted, template, variant, referenced, held, offered, content,
    rendered, different⟩ := edited
  have loading : load state = .ok loaded := Notification.build_eq_ok.mpr same
  have resolved : (workerProcessor provider lease save).contentFor loaded lookup = .ok content := by
    obtain ⟨templateId, named⟩ := Option.ne_none_iff_exists'.mp referenced
    show resolveContent loaded lookup.template = .ok content
    simp only [resolveContent, named, held, offered, rendered]
  obtain ⟨claim, prepared, expected, cutoff, -⟩ :=
    @NotificationDeliveryProcessor.prepare_admitted provider lease save _ _ _ _ eligible found admitted
      (by rw [resolved]; rfl)
  have written : claim.processing.content = content := by
    obtain ⟨notification, staleBefore, _, taken, -, -, claimed⟩ := NotificationDeliveryProcessor.prepare_claim prepared
    obtain ⟨made, kept⟩ := NotificationDeliveryProcessor.claimFor_content claimed
    rw [NotificationDeliveryProcessor.contentFor_congr (NotificationDeliveryProcessor.eligible_fields taken), resolved]
      at made
    exact kept.trans (Except.ok.inj made).symm
  -- nothing has happened in between, so the conditional update finds the row
  obtain ⟨row, done⟩ : ∃ row,
      claimForDelivery state.row claim.processing claim.expectedStatus claim.staleBefore = .ok (some row) := by
    rw [NotificationDeliveryProcessor.claimForDelivery_isSome_iff, expected, ← same]
    refine ⟨rfl, fun working => ⟨_, cutoff working, ?_⟩⟩
    rcases eligible.1 with pending | postponed | ⟨-, lapsed⟩
    · rw [pending] at working; cases working
    · rw [postponed] at working; cases working
    · exact lapsed
  have first : step (workerProcessor provider lease save) state (.read party lookup clock) =
      some (state.enter party (.claiming claim)) := by
    simp only [step, idle, readPhase, loading, bind, Except.bind, prepared, Except.map]
  refine ⟨{ state.enter party (claimedPhase claim) with row, holder := some party }, ?_, ?_⟩
  · have second : step (workerProcessor provider lease save) (state.enter party (.claiming claim)) (.claim party) =
        some { state.enter party (claimedPhase claim) with row, holder := some party } := by
      have stands : (state.enter party (.claiming claim)).phase party = .claiming claim := Function.update_self ..
      have kept : (state.enter party (.claiming claim)).row = state.row := rfl
      simp only [step, stands, kept, done]
      simp [State.enter]
    rw [Machine.run, first, Option.bind_some, Machine.run, second]
    rfl
  · rw [NotificationDeliveryProcessor.claimForDelivery_fields done]
    show claim.processing.content ≠ _
    rw [written, ← same]
    exact different

/-! ## A greeting rendered for Ada, and its template after an edit -/

def greeted : NotificationFields := { reminder with
  content := ⟨"Hi Ada".toList, none, [], [], by decide⟩
  templateId := some 5
  templateVariables := some [("name".toList, .string "Ada".toList)] }

def greetingRead (template : Template) : Event :=
  .read 0 { recipient := some sleeper, template := some template }
    ⟨9 * Clock.hour, 9 * Clock.hour, 9 * Clock.hour, 9 * Clock.hour, 9 * Clock.hour, 9 * Clock.hour⟩

def parting : Template := greeting "Bye \x7b\x7bname\x7d\x7d".toList (by decide)

/-- The template is edited before dispatch: the row is rewritten, and the provider gets the new text. -/
theorem edited_greeting_sent :
    ∃ final claim, State.Fresh { row := greeted } ∧
      Machine.run (step worker) { row := greeted } [greetingRead parting, .claim 0, .send 0] = some final ∧
      final.phase 0 = .sending claim ∧ claim.content.body = "Bye Ada".toList ∧
      final.row.content.body = "Bye Ada".toList ∧ greeted.content.body = "Hi Ada".toList :=
  ⟨_, _, ⟨fun _ => rfl, rfl⟩, rfl, rfl, rfl, rfl, rfl⟩

theorem greeting_sent :
    ∃ final claim, Machine.run (step worker) { row := greeted } [greetingRead addressed, .claim 0, .send 0] =
        some final ∧
      final.phase 0 = .sending claim ∧ final.row.content = greeted.content ∧ claim.content = greeted.content := by
  obtain ⟨final, claim, reached, sending⟩ : ∃ final claim,
      Machine.run (step worker) { row := greeted } [greetingRead addressed, .claim 0, .send 0] = some final ∧
      final.phase 0 = .sending claim := ⟨_, _, rfl, rfl⟩
  have unedited : Machine.Along (step worker) (Reading (Unedited (300 * Clock.second))) { row := greeted }
      [greetingRead addressed, .claim 0, .send 0] := by
    refine ⟨?_, fun _ _ => ⟨fun _ _ _ same => (nomatch same), fun _ _ => ⟨fun _ _ _ same => (nomatch same),
      fun _ _ => trivial⟩⟩⟩
    intro party lookup clock same
    cases same
    intro loaded same _ recipient _ _ template variant _ held offered content rendered
    cases held
    rw [same] at offered rendered ⊢
    cases offered
    exact (Except.ok.inj rendered).symm
  obtain ⟨row, sent⟩ := accepted_content_immutable ⟨fun _ => rfl, rfl⟩ unedited reached
  exact ⟨final, claim, reached, sending, row, sent 0 claim sending⟩

end DeliveryRuns

end Tiber
