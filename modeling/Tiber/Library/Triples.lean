import Tiber.Library.TwoRuns

/-! Hoare triples of programs that may fail.

A triple says what holds behind a program that returns, with the value it returns, and what holds
behind one that fails: what was done before the failure stands, unless a transaction took it back.
-/

set_option autoImplicit false

namespace Library

namespace Program

variable {σ ε α β : Type}

theorem bind_ok {first : Program σ ε α} {next : α → Program σ ε β} {state later : σ} {value : α}
    (ran : first state = (.ok value, later)) : (first >>= next) state = next value later := by
  simp only [Bind.bind, ran]

theorem bind_error {first : Program σ ε α} {next : α → Program σ ε β} {state later : σ} {error : ε}
    (ran : first state = (.error error, later)) : (first >>= next) state = (.error error, later) := by
  simp only [Bind.bind, ran]

theorem final_return (program : Program σ ε α) (wrap : α → β) (state : σ) :
    (do return wrap (← program) : Program σ ε β).final state = program.final state := by
  unfold final
  rcases ran : program state with ⟨error | value, later⟩
  · exact congrArg Prod.snd (bind_error ran)
  · exact congrArg Prod.snd (bind_ok ran)

theorem checked_apply {γ : Type} {first : Program σ ε α} {check : α → Except ε β} {wrap : β → γ} {state later : σ} {value : α}
    (ran : first state = (.ok value, later)) :
    (do return wrap (← Program.lift (check (← first))) : Program σ ε γ) state = ((check value).map wrap, later) := by
  rw [bind_ok ran]
  cases tested : check value with
  | error error => exact bind_error (by rw [Program.lift])
  | ok result => exact bind_ok (by rw [Program.lift])

/-- From a state with `before` the program returns a value with `after`, or fails with `failing`. -/
def Triple (before : σ → Prop) (program : Program σ ε α) (after : α → σ → Prop) (failing : σ → Prop) : Prop :=
  ∀ state, before state →
    (∀ value, program.outcome state = .ok value → after value (program.final state)) ∧
      ∀ error, program.outcome state = .error error → failing (program.final state)

namespace Triple

variable {before : σ → Prop} {after : α → σ → Prop} {failing : σ → Prop}

protected theorem pure {value : α} (holds : ∀ state, before state → after value state) :
    Triple before (Pure.pure value : Program σ ε α) after failing := by
  intro state met
  refine ⟨?_, nofun⟩
  rintro _ ⟨⟩
  exact holds state met

theorem fail {error : ε} (holds : ∀ state, before state → failing state) :
    Triple before (Program.fail error) after failing :=
  fun state met => ⟨nofun, fun _ _ => holds state met⟩

theorem modify {change : σ → σ} {after : Unit → σ → Prop} (holds : ∀ state, before state → after () (change state)) :
    Triple before (Program.modify change : Program σ ε Unit) after failing :=
  fun state met => ⟨fun _ _ => holds state met, nofun⟩

theorem statement {run : σ → Except ε (α × σ)}
    (holds : ∀ state value later, before state → run state = .ok (value, later) → after value later)
    (fails : ∀ state, before state → failing state) : Triple before (Program.statement run) after failing := by
  intro state met
  unfold outcome final Program.statement
  rcases ran : run state with error | ⟨value, later⟩
  · exact ⟨nofun, fun _ _ => fails state met⟩
  · refine ⟨?_, nofun⟩
    rintro _ ⟨⟩
    exact holds state value later met ran

theorem bind {first : Program σ ε α} {next : α → Program σ ε β} (between : α → σ → Prop) {after : β → σ → Prop}
    (start : Triple before first between failing) (rest : ∀ value, Triple (between value) (next value) after failing) :
    Triple before (first >>= next) after failing := by
  intro state met
  obtain ⟨onward, stopped⟩ := start state met
  unfold outcome final at *
  simp only [Bind.bind]
  rcases ran : first state with ⟨error | value, later⟩ <;> simp only [ran] at onward stopped ⊢
  · exact ⟨nofun, fun _ _ => stopped _ rfl⟩
  · exact rest value later (onward _ rfl)

theorem rescue {program : Program σ ε α} {handler : ε → Program σ ε α} (caught : σ → Prop)
    (attempt : Triple before program after caught) (handled : ∀ error, Triple caught (handler error) after failing) :
    Triple before (program.rescue handler) after failing := by
  intro state met
  obtain ⟨onward, stopped⟩ := attempt state met
  unfold outcome final Program.rescue at *
  rcases ran : program state with ⟨error | value, later⟩ <;> simp only [ran] at onward stopped ⊢
  · exact handled error later (stopped _ rfl)
  · exact ⟨onward, nofun⟩

theorem transaction {program : Program σ ε α} (body : Triple before program after fun _ => True)
    (restored : ∀ state, before state → failing state) : Triple before program.transaction after failing := by
  intro state met
  obtain ⟨onward, -⟩ := body state met
  unfold outcome final Program.transaction at *
  rcases ran : program state with ⟨error | value, later⟩ <;> simp only [ran] at onward ⊢
  · exact ⟨nofun, fun _ _ => restored state met⟩
  · exact ⟨onward, nofun⟩

theorem under {before' : σ → Prop} {program : Program σ ε α} (triple : Triple before program after failing)
    (stronger : ∀ state, before' state → before state) : Triple before' program after failing :=
  fun state met => triple state (stronger state met)

theorem relaxed {after' : α → σ → Prop} {program : Program σ ε α} (triple : Triple before program after failing)
    (weaker : ∀ value state, after value state → after' value state) : Triple before program after' failing :=
  fun state met => ⟨fun value ran => weaker value _ ((triple state met).1 value ran), (triple state met).2⟩

/-- A triple may be proved for each state it may start in. -/
theorem each {program : Program σ ε α}
    (triple : ∀ state, before state → Triple (fun other => other = state) program after failing) :
    Triple before program after failing :=
  fun state met => triple state met state rfl

/-- What is read may be used behind the read. -/
theorem reading {view : σ → α} {next : α → Program σ ε β} {after : β → σ → Prop}
    (rest : ∀ value, Triple (fun state => before state ∧ view state = value) (next value) after failing) :
    Triple before (Program.read view >>= next) after failing :=
  fun state met => rest (view state) state ⟨met, rfl⟩

theorem checking {checked : Except ε α} {next : α → Program σ ε β} {after : β → σ → Prop}
    (fails : ∀ state, before state → failing state)
    (rest : ∀ value, checked = .ok value → Triple before (next value) after failing) :
    Triple before (Program.lift checked >>= next) after failing := by
  cases checked with
  | error error => exact fun state met => ⟨nofun, fun _ _ => fails state met⟩
  | ok value => exact fun state met => rest value rfl state met

/-- A fact that does not depend on the state may be used to prove the triple. -/
theorem given {fact : Prop} {program : Program σ ε α} (holds : ∀ state, before state → fact)
    (triple : fact → Triple before program after failing) : Triple before program after failing :=
  fun state met => triple (holds state met) state met

/-- What holds however the program ends holds of the state it leaves. -/
theorem final {always : σ → Prop} {program : Program σ ε α} (triple : Triple before program (fun _ => always) always)
    {state : σ} (met : before state) : always (program.final state) := by
  obtain ⟨returned, failed⟩ := triple state met
  cases ran : program.outcome state with
  | ok value => exact returned value ran
  | error error => exact failed error ran

end Triple

end Program

end Library
