import Tiber.Domain.Restrictions

/-! The rules on the dates of the years 1 to 9999.

A `datetime` outside them raises `OverflowError`: in UTC or in the local time of a conversion, and
where a day or the grace margin is added. Inside them the rules are those of the unbounded clock.
-/

set_option autoImplicit false

namespace Tiber

open Library

def dateOutOfRange : PyError := .raised "OverflowError" "date value out of range"

namespace Dated

def held (wall : Wall) : Checked Wall :=
  if Clock.Representable wall then .ok wall else .error dateOutOfRange

/-- `t.astimezone(zone)`, for a datetime that carries another zone: it goes through UTC. -/
def astimezone (zone : Zone) (t : Instant) : Checked Wall := do
  let _ ← held t
  held (zone.wall t)

def nextWindowEnd (window : QuietHours) (zone : Zone) (after : Instant) : Checked Wall := do
  let here ← astimezone zone after
  let candidate := here - Zone.timeOfDay here + (window.windowEnd - window.windowEnd % Clock.second)
  held (if candidate ≤ here then candidate + Clock.day else candidate)

/-- `next_window_end(...) + timedelta(minutes=GRACE_MINUTES)` -/
def resumeAt (window : QuietHours) (zone : Zone) (after : Instant) : Checked Instant := do
  let wall ← nextWindowEnd window zone after
  let resumed ← held (wall + graceMinutes * Clock.minute)
  return zone.instantOf resumed false

/-- The chained comparison of both blackout tests: it converts the end only after the start. -/
def covers (period : BlackoutPeriod) (zone : Zone) (t : Instant) : Checked Bool := do
  let start ← astimezone zone period.start
  let here ← astimezone zone t
  if start ≤ here then
    let finish ← astimezone zone period.finish
    return here ≤ finish
  else return false

/-! ## The rules -/

section Rules

variable (ctx : PolicyContext)

/-- The second half of `_evaluate_blackout_and_quiet_hours`. -/
def evaluateRecipientQuietHours : Checked PolicyDecision :=
  let zone := PolicyRule.recipientZone ctx
  match ctx.recipient.preferences.quietHours with
  | none => .ok .allow
  | some window =>
      if window.channel = ctx.notification.channel then do
        let here ← astimezone zone ctx.judged
        if window.covers (Zone.timeOfDay here) then
          let resumed ← resumeAt window zone ctx.judged
          return PolicyRule.recipientQuietHoursRejection window resumed
        else return .allow
      else .ok .allow

def evaluateRecipientTimes : Checked PolicyDecision :=
  match ctx.recipient.preferences.blackoutPeriod with
  | none => evaluateRecipientQuietHours ctx
  | some blackout => do
      let inside ← covers blackout (PolicyRule.recipientZone ctx) ctx.judged
      if inside then return PolicyRule.recipientBlackoutRejection blackout
      else evaluateRecipientQuietHours ctx

def evaluatePreference : Checked PolicyDecision :=
  let preferences := ctx.recipient.preferences
  let notification := ctx.notification
  if notification.category ∈ preferences.unsubscribedCategories then
    .ok (.reject ("recipient unsubscribed from " ++ notification.category.value ++ " notifications")
      PolicyRule.recipientPreference.name .suppress)
  else if notification.channel ∈ preferences.optedOutChannels then
    .ok (.reject ("recipient opted out of " ++ notification.channel.value ++ " delivery channel")
      PolicyRule.recipientPreference.name .suppress)
  else
    match notification.topicId.filter fun topic => decide (topic ∈ preferences.unsubscribedTopics) with
    | some topic => .ok (.reject ("recipient unsubscribed from topic " ++ uuidText topic)
        PolicyRule.recipientPreference.name .suppress)
    | none => evaluateRecipientTimes ctx

def firstBlackout (zone : Zone) : List BlackoutPeriod → Checked PolicyDecision
  | [] => .ok .allow
  | period :: rest => do
      let inside ← covers period zone ctx.judged
      if inside then return PolicyRule.blackoutRejection period
      else firstBlackout zone rest

def evaluateBlackout : Checked PolicyDecision :=
  match ctx.deliveryConstraint with
  | none => .ok .allow
  | some constraint => firstBlackout ctx constraint.timezone constraint.blackoutPeriods

def firstWindow (zone : Zone) (here : Wall) : List QuietHours → Checked PolicyDecision
  | [] => .ok .allow
  | window :: rest =>
      if window.channel == ctx.notification.channel && window.covers (Zone.timeOfDay here) then do
        let resumed ← resumeAt window zone ctx.judged
        return PolicyRule.quietHoursRejection window resumed
      else firstWindow zone here rest

/-- The local time is taken before the first window is looked at. -/
def evaluateQuietHours : Checked PolicyDecision :=
  match ctx.deliveryConstraint with
  | none => .ok .allow
  | some constraint => do
      let here ← astimezone constraint.timezone ctx.judged
      firstWindow ctx constraint.timezone here constraint.quietHours

def evaluateRule : PolicyRule → Checked PolicyDecision
  | .recipientAddress => .ok (PolicyRule.evaluateAddress ctx)
  | .recipientPreference => evaluatePreference ctx
  | .projectBlackoutPeriod => evaluateBlackout ctx
  | .projectQuietHours => evaluateQuietHours ctx

def firstRejection : List PolicyRule → Checked PolicyDecision
  | [] => .ok .allow
  | rule :: rest => do
      let decision ← evaluateRule ctx rule
      if decision.allowed then firstRejection rest else return decision

end Rules

def evaluate (rules : List PolicyRule) (notification : Notification) (recipient : Recipient)
    (constraint : Option DeliveryConstraint) (now : Instant) : Checked PolicyDecision :=
  if notification.category = .critical then .ok .allow
  else firstRejection ⟨notification, recipient, constraint, now⟩ rules

end Dated

/-! ## What the rules need of the range -/

def Shows (zone : Zone) (t : Instant) : Prop := Clock.Representable t ∧ Clock.Representable (zone.wall t)

def BlackoutPeriod.Comparable (period : BlackoutPeriod) (zone : Zone) (t : Instant) : Prop :=
  Shows zone period.start ∧ Shows zone t ∧ (zone.wall period.start ≤ zone.wall t → Shows zone period.finish)

/-- The next end of the window is a date, and so is the one with the grace margin. -/
def QuietHours.Ends (window : QuietHours) (zone : Zone) (t : Instant) : Prop :=
  Clock.Representable (window.nextEnd zone t) ∧
    Clock.Representable (window.nextEnd zone t + graceMinutes * Clock.minute)

/-- The recipient's own windows stay in range, as far as they are looked at. -/
structure Recipient.TimesInRange (recipient : Recipient) (channel : DeliveryChannel) (t : Instant) : Prop where
  blackout : ∀ period ∈ recipient.preferences.blackoutPeriod, period.Comparable recipient.zone t
  quiet : recipient.preferences.blackoutPeriod.any (·.coversWall recipient.zone t) = false →
    ∀ window ∈ recipient.preferences.quietHours, window.channel = channel →
      Shows recipient.zone t ∧ (window.silences channel recipient.zone t = true → window.Ends recipient.zone t)

/-- The project's windows stay in range, whichever of them comes first. -/
structure DeliveryConstraint.TimesInRange (constraint : DeliveryConstraint) (channel : DeliveryChannel)
    (t : Instant) : Prop where
  blackouts : ∀ period ∈ constraint.blackoutPeriods, period.Comparable constraint.timezone t
  shown : Shows constraint.timezone t
  quiet : ∀ window ∈ constraint.quietHours, window.silences channel constraint.timezone t = true →
    window.Ends constraint.timezone t

namespace Dated

theorem held_eq_ok {wall result : Wall} : held wall = .ok result ↔ Clock.Representable wall ∧ wall = result := by
  unfold held
  split
  · rename_i inside
    simp [inside]
  · rename_i outside
    simp [outside]

theorem astimezone_eq_ok {zone : Zone} {t : Instant} {wall : Wall} :
    astimezone zone t = .ok wall ↔ Shows zone t ∧ zone.wall t = wall := by
  unfold astimezone Shows
  simp only [Checked.bind_eq_ok, held_eq_ok]
  constructor
  · rintro ⟨_, ⟨utc, -⟩, here, same⟩
    exact ⟨⟨utc, here⟩, same⟩
  · rintro ⟨⟨utc, here⟩, same⟩
    exact ⟨t, ⟨utc, rfl⟩, here, same⟩

theorem nextWindowEnd_eq_ok {window : QuietHours} {zone : Zone} {t : Instant} {wall : Wall} :
    nextWindowEnd window zone t = .ok wall ↔
      Shows zone t ∧ Clock.Representable (window.nextEnd zone t) ∧ window.nextEnd zone t = wall := by
  unfold nextWindowEnd
  simp only [Checked.bind_eq_ok, astimezone_eq_ok, held_eq_ok]
  constructor
  · rintro ⟨_, ⟨shown, rfl⟩, ends, same⟩
    exact ⟨shown, ends, same⟩
  · rintro ⟨shown, ends, same⟩
    exact ⟨_, ⟨shown, rfl⟩, ends, same⟩

theorem resumeAt_eq_ok {window : QuietHours} {zone : Zone} {t resumed : Instant} :
    resumeAt window zone t = .ok resumed ↔
      Shows zone t ∧ window.Ends zone t ∧ window.resumeAt zone t = resumed := by
  unfold resumeAt
  simp only [Checked.bind_eq_ok, nextWindowEnd_eq_ok, held_eq_ok]
  constructor
  · rintro ⟨_, ⟨shown, ends, rfl⟩, _, ⟨grace, rfl⟩, same⟩
    exact ⟨shown, ⟨ends, grace⟩, Except.ok.inj same⟩
  · rintro ⟨shown, ⟨ends, grace⟩, same⟩
    exact ⟨_, ⟨shown, ends, rfl⟩, _, ⟨grace, rfl⟩, congrArg Except.ok same⟩

theorem covers_eq_ok {period : BlackoutPeriod} {zone : Zone} {t : Instant} {inside : Bool} :
    covers period zone t = .ok inside ↔ period.Comparable zone t ∧ period.coversWall zone t = inside := by
  unfold covers BlackoutPeriod.Comparable BlackoutPeriod.coversWall
  simp only [Checked.bind_eq_ok, astimezone_eq_ok]
  constructor
  · rintro ⟨_, ⟨start, rfl⟩, _, ⟨here, rfl⟩, rest⟩
    split at rest
    · rename_i begun
      obtain ⟨_, ended, same⟩ := Checked.bind_eq_ok.mp rest
      obtain ⟨finish, rfl⟩ := astimezone_eq_ok.mp ended
      exact ⟨⟨start, here, fun _ => finish⟩, by simpa [begun] using Except.ok.inj same⟩
    · rename_i early
      exact ⟨⟨start, here, fun begun => absurd begun early⟩, by simpa [early] using Except.ok.inj rest⟩
  · rintro ⟨⟨start, here, finish⟩, same⟩
    refine ⟨_, ⟨start, rfl⟩, _, ⟨here, rfl⟩, ?_⟩
    split
    · rename_i begun
      have ended := astimezone_eq_ok.mpr ⟨finish begun, rfl⟩
      exact Checked.bind_eq_ok.mpr ⟨_, ended, by simp [← same, begun, pure, Except.pure]⟩
    · rename_i early
      simp [← same, early, pure, Except.pure]

section Rules

variable {ctx : PolicyContext} {decision : PolicyDecision}

theorem evaluateRecipientQuietHours_eq_ok
    (clear : ctx.recipient.preferences.blackoutPeriod.any (·.coversWall ctx.recipient.zone ctx.judged) = false) :
    evaluateRecipientQuietHours ctx = .ok decision ↔
      (∀ window ∈ ctx.recipient.preferences.quietHours, window.channel = ctx.notification.channel →
        Shows ctx.recipient.zone ctx.judged ∧
          (window.silences ctx.notification.channel ctx.recipient.zone ctx.judged = true →
            window.Ends ctx.recipient.zone ctx.judged)) ∧
      PolicyRule.evaluateRecipientTimes ctx = decision := by
  have zone : PolicyRule.recipientZone ctx = ctx.recipient.zone := rfl
  unfold evaluateRecipientQuietHours PolicyRule.evaluateRecipientTimes
  simp only [zone, PolicyRule.filter_eq_none.mpr clear]
  cases ctx.recipient.preferences.quietHours with
  | none => simp
  | some window =>
      simp only [Option.mem_def, Option.some.injEq, forall_eq', Option.filter_some]
      by_cases same : window.channel = ctx.notification.channel
      swap
      · have silent : (window.channel == ctx.notification.channel) = false := by simpa using same
        simp [same, silent]
      rw [if_pos same]
      simp only [Checked.bind_eq_ok, astimezone_eq_ok, same, true_implies, beq_self_eq_true, Bool.true_and,
        QuietHours.silences]
      by_cases inside : window.covers (Zone.timeOfDay (ctx.recipient.zone.wall ctx.judged)) = true
      · simp only [inside, if_true, true_implies]
        constructor
        · rintro ⟨_, ⟨shown, rfl⟩, rest⟩
          rw [if_pos inside] at rest
          obtain ⟨_, resumed, same⟩ := Checked.bind_eq_ok.mp rest
          obtain ⟨-, ends, rfl⟩ := resumeAt_eq_ok.mp resumed
          exact ⟨⟨shown, ends⟩, Except.ok.inj same⟩
        · rintro ⟨⟨shown, ends⟩, same⟩
          refine ⟨_, ⟨shown, rfl⟩, ?_⟩
          rw [if_pos inside]
          exact Checked.bind_eq_ok.mpr ⟨_, resumeAt_eq_ok.mpr ⟨shown, ends, rfl⟩, congrArg Except.ok same⟩
      · simp only [inside, Bool.false_eq_true, if_false, false_implies, and_true]
        constructor
        · rintro ⟨_, ⟨shown, rfl⟩, rest⟩
          rw [if_neg inside] at rest
          exact ⟨shown, Except.ok.inj rest⟩
        · rintro ⟨shown, same⟩
          refine ⟨_, ⟨shown, rfl⟩, ?_⟩
          rw [if_neg inside]
          exact congrArg Except.ok same

theorem evaluateRecipientTimes_blackout {blackout : BlackoutPeriod}
    (own : ctx.recipient.preferences.blackoutPeriod = some blackout)
    (covered : blackout.coversWall ctx.recipient.zone ctx.judged = true) :
    PolicyRule.evaluateRecipientTimes ctx = PolicyRule.recipientBlackoutRejection blackout := by
  have found : (ctx.recipient.preferences.blackoutPeriod.filter fun period =>
      period.coversWall (PolicyRule.recipientZone ctx) ctx.judged) = some blackout := by
    rw [own]
    exact if_pos covered
  simp only [PolicyRule.evaluateRecipientTimes, found]

theorem evaluateRecipientTimes_eq_ok :
    evaluateRecipientTimes ctx = .ok decision ↔
      ctx.recipient.TimesInRange ctx.notification.channel ctx.judged ∧
        PolicyRule.evaluateRecipientTimes ctx = decision := by
  unfold evaluateRecipientTimes
  cases own : ctx.recipient.preferences.blackoutPeriod with
  | none =>
      dsimp only
      rw [evaluateRecipientQuietHours_eq_ok (by rw [own]; rfl)]
      refine and_congr_left fun _ => ⟨fun quiet => ⟨?_, fun _ => quiet⟩, fun inRange => inRange.quiet (by rw [own]; rfl)⟩
      rw [own]
      exact fun _ absent => nomatch absent
  | some blackout =>
      have zone : PolicyRule.recipientZone ctx = ctx.recipient.zone := rfl
      simp only [zone, Checked.bind_eq_ok, covers_eq_ok]
      constructor
      · rintro ⟨inside, ⟨comparable, covered⟩, rest⟩
        have own' : ∀ period ∈ ctx.recipient.preferences.blackoutPeriod,
            period.Comparable ctx.recipient.zone ctx.judged := by
          rw [own]
          rintro _ ⟨⟩
          exact comparable
        cases inside with
        | true =>
            rw [if_pos rfl] at rest
            refine ⟨⟨own', fun clear => ?_⟩, ?_⟩
            · rw [own, Option.any_some, covered] at clear
              cases clear
            · rw [evaluateRecipientTimes_blackout own covered]
              exact Except.ok.inj rest
        | false =>
            rw [if_neg Bool.false_ne_true,
              evaluateRecipientQuietHours_eq_ok (by rw [own, Option.any_some]; exact covered)] at rest
            exact ⟨⟨own', fun _ => rest.1⟩, rest.2⟩
      · rintro ⟨inRange, same⟩
        refine ⟨_, ⟨inRange.blackout blackout own, rfl⟩, ?_⟩
        cases covered : blackout.coversWall ctx.recipient.zone ctx.judged with
        | true =>
            rw [if_pos rfl, ← same, evaluateRecipientTimes_blackout own covered]
            rfl
        | false =>
            have clear : ctx.recipient.preferences.blackoutPeriod.any
                (·.coversWall ctx.recipient.zone ctx.judged) = false := by rw [own, Option.any_some, covered]
            rw [if_neg Bool.false_ne_true, evaluateRecipientQuietHours_eq_ok clear]
            exact ⟨inRange.quiet clear, same⟩

theorem evaluatePreference_eq_ok :
    evaluatePreference ctx = .ok decision ↔
      (ctx.recipient.Consents ctx.notification →
        ctx.recipient.TimesInRange ctx.notification.channel ctx.judged) ∧
      PolicyRule.evaluatePreference ctx = decision := by
  unfold evaluatePreference PolicyRule.evaluatePreference Recipient.Consents
  dsimp only
  split_ifs with unsubscribed out
  · simp [unsubscribed]
  · simp [out]
  · cases found : ctx.notification.topicId.filter fun topic =>
        decide (topic ∈ ctx.recipient.preferences.unsubscribedTopics) with
    | some topic =>
        obtain ⟨about, withdrawn⟩ := Option.filter_eq_some_iff.mp found
        have refused : ¬ ∀ topic ∈ ctx.notification.topicId, topic ∉ ctx.recipient.preferences.unsubscribedTopics :=
          fun consents => consents topic about (of_decide_eq_true withdrawn)
        simp only [refused, and_false, false_implies, true_and, Except.ok.injEq]
    | none =>
        have clear : ∀ topic ∈ ctx.notification.topicId, topic ∉ ctx.recipient.preferences.unsubscribedTopics := by
          intro topic about withdrawn
          rw [about, Option.filter_some_pos (by simpa using withdrawn)] at found
          cases found
        exact evaluateRecipientTimes_eq_ok.trans
          (and_congr_left fun _ => ⟨fun inRange _ => inRange, fun inRange => inRange ⟨unsubscribed, out, clear⟩⟩)

theorem firstBlackout_head {zone : Zone} {period : BlackoutPeriod} {rest : List BlackoutPeriod}
    (found : firstBlackout ctx zone (period :: rest) = .ok decision) : period.Comparable zone ctx.judged := by
  obtain ⟨inside, covered, -⟩ := Checked.bind_eq_ok.mp found
  exact (covers_eq_ok.mp covered).1

theorem firstBlackout_inRange {zone : Zone} {periods : List BlackoutPeriod}
    (comparable : ∀ period ∈ periods, period.Comparable zone ctx.judged) :
    firstBlackout ctx zone periods = .ok (match periods.find? fun period => period.coversWall zone ctx.judged with
      | some period => PolicyRule.blackoutRejection period
      | none => .allow) := by
  induction periods with
  | nil => rfl
  | cons period rest ih =>
      obtain ⟨here, later⟩ := List.forall_mem_cons.mp comparable
      refine Checked.bind_eq_ok.mpr ⟨_, covers_eq_ok.mpr ⟨here, rfl⟩, ?_⟩
      cases covered : period.coversWall zone ctx.judged with
      | true => simp [covered, pure, Except.pure]
      | false => simpa [covered] using ih later

theorem firstWindow_head {zone : Zone} {window : QuietHours} {rest : List QuietHours}
    (found : firstWindow ctx zone (zone.wall ctx.judged) (window :: rest) = .ok decision)
    (silent : window.silences ctx.notification.channel zone ctx.judged = true) : window.Ends zone ctx.judged := by
  rw [firstWindow, QuietHours.silences_eq, if_pos silent] at found
  obtain ⟨_, resumed, -⟩ := Checked.bind_eq_ok.mp found
  exact (resumeAt_eq_ok.mp resumed).2.1

theorem firstWindow_inRange {zone : Zone} {windows : List QuietHours} (shown : Shows zone ctx.judged)
    (ends : ∀ window ∈ windows, window.silences ctx.notification.channel zone ctx.judged = true →
      window.Ends zone ctx.judged) :
    firstWindow ctx zone (zone.wall ctx.judged) windows =
      .ok (match windows.find? fun window => window.silences ctx.notification.channel zone ctx.judged with
        | some window => PolicyRule.quietHoursRejection window (window.resumeAt zone ctx.judged)
        | none => .allow) := by
  induction windows with
  | nil => rfl
  | cons window rest ih =>
      obtain ⟨here, later⟩ := List.forall_mem_cons.mp ends
      rw [firstWindow, QuietHours.silences_eq, List.find?_cons]
      cases silent : window.silences ctx.notification.channel zone ctx.judged with
      | true =>
          rw [if_pos rfl]
          exact Checked.bind_eq_ok.mpr ⟨_, resumeAt_eq_ok.mpr ⟨shown, here silent, rfl⟩, rfl⟩
      | false =>
          rw [if_neg Bool.false_ne_true]
          exact ih later

theorem evaluateBlackout_inRange
    (inRange : ∀ constraint ∈ ctx.deliveryConstraint, constraint.TimesInRange ctx.notification.channel ctx.judged) :
    evaluateBlackout ctx = .ok (PolicyRule.evaluateBlackout ctx) := by
  unfold evaluateBlackout PolicyRule.evaluateBlackout
  cases given : ctx.deliveryConstraint with
  | none => rfl
  | some constraint => exact firstBlackout_inRange (inRange constraint given).blackouts

theorem evaluateQuietHours_inRange
    (inRange : ∀ constraint ∈ ctx.deliveryConstraint, constraint.TimesInRange ctx.notification.channel ctx.judged) :
    evaluateQuietHours ctx = .ok (PolicyRule.evaluateQuietHours ctx) := by
  unfold evaluateQuietHours PolicyRule.evaluateQuietHours
  cases given : ctx.deliveryConstraint with
  | none => rfl
  | some constraint =>
      obtain ⟨-, shown, quiet⟩ := inRange constraint given
      exact Checked.bind_eq_ok.mpr ⟨_, astimezone_eq_ok.mpr ⟨shown, rfl⟩, firstWindow_inRange shown quiet⟩

end Rules

/-! ## The chain -/

/-- A chain whose rules all stay in range is the chain of the unbounded clock. -/
theorem firstRejection_inRange {ctx : PolicyContext} {rules : List PolicyRule}
    (inRange : ∀ rule ∈ rules, evaluateRule ctx rule = .ok (rule.evaluate ctx)) :
    firstRejection ctx rules = .ok (PolicyResolver.firstRejection ctx rules) := by
  induction rules with
  | nil => rfl
  | cons rule rest ih =>
      obtain ⟨here, later⟩ := List.forall_mem_cons.mp inRange
      refine Checked.bind_eq_ok.mpr ⟨_, here, ?_⟩
      rw [PolicyResolver.firstRejection]
      split
      · exact ih later
      · rfl

theorem firstRejection_head {ctx : PolicyContext} {rule : PolicyRule} {rest : List PolicyRule}
    {decision : PolicyDecision} (found : firstRejection ctx (rule :: rest) = .ok decision) :
    ∃ own, evaluateRule ctx rule = .ok own := by
  obtain ⟨own, evaluated, -⟩ := Checked.bind_eq_ok.mp found
  exact ⟨own, evaluated⟩

end Dated

end Tiber
