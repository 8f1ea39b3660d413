import Tiber.Library.Text

/-! What a placeholder grammar accepts, without a scan.

`Spells` says what one placeholder looks like, `Occurs` that one stands
somewhere in a text and `Replaced` what a text becomes when every placeholder
gives way to a value. For a grammar whose characters keep apart, placeholders
never overlap, and the scan finds every one of them.
-/

set_option autoImplicit false

namespace Library

theorem not_inside {α : Type} {start body front back rest more : List α} (apart : ∀ c ∈ body, c ∉ start)
    (start_ne : start ≠ []) (body_ne : body ≠ []) (front_ne : front ≠ []) (back_ne : back ≠ [])
    (same : start ++ body = front ++ back) : back ++ rest ≠ start ++ more := by
  intro again
  obtain ⟨first, body, rfl⟩ := List.exists_cons_of_ne_nil body_ne
  rcases List.append_eq_append_iff.mp same with ⟨middle, rfl, inner⟩ | ⟨middle, opened, rfl⟩
  · -- the second word begins behind the first opening
    obtain ⟨mark, marks, rfl⟩ := List.exists_cons_of_ne_nil start_ne
    obtain ⟨c, back, rfl⟩ := List.exists_cons_of_ne_nil back_ne
    obtain rfl : c = mark := by simpa using congrArg List.head? again
    exact apart c (inner ▸ List.mem_append_right _ (List.mem_cons_self ..)) (List.mem_cons_self ..)
  · -- the two openings overlap
    have shorter : middle.length < start.length := by
      have := List.length_pos_iff.mpr front_ne
      simp only [opened, List.length_append]
      omega
    rw [List.append_assoc, List.append_eq_append_iff] at again
    rcases again with ⟨tail, whole, behind⟩ | ⟨tail, whole, -⟩
    · cases tail with
      | nil => simp [whole] at shorter
      | cons c tail =>
          obtain rfl : first = c := by simpa using congrArg List.head? behind
          exact apart first (List.mem_cons_self ..) (whole ▸ List.mem_append_right _ (List.mem_cons_self ..))
    · have := congrArg List.length whole
      simp only [List.length_append] at this
      omega

namespace Grammar

variable (grammar : Grammar)

def Spells (name spelled : Text) : Prop :=
  ∃ lead head tail trail, name = head :: tail ∧
    spelled = grammar.opening ++ (lead ++ (head :: (tail ++ (trail ++ grammar.closing)))) ∧
    (∀ c ∈ lead, grammar.isBlank c = true) ∧ grammar.isHead head = true ∧
    (∀ c ∈ tail, grammar.isTail c = true) ∧ ∀ c ∈ trail, grammar.isBlank c = true

def Occurs (name text : Text) : Prop :=
  ∃ before spelled after, grammar.Spells name spelled ∧ text = before ++ (spelled ++ after)

def Starts (text : Text) : Prop := ∃ name spelled after, grammar.Spells name spelled ∧ text = spelled ++ after

/-- What a text becomes when every placeholder gives way to its value and
everything else stays where it is. A value is not looked at again. -/
inductive Replaced (value : Text → Text) : Text → Text → Prop where
  | done : Replaced value [] []
  | hole {name spelled rest result : Text} : grammar.Spells name spelled → Replaced value rest result →
      Replaced value (spelled ++ rest) (value name ++ result)
  | plain {c : Char} {rest result : Text} : ¬ grammar.Starts (c :: rest) → Replaced value rest result →
      Replaced value (c :: rest) (c :: result)

/-- The parts of a placeholder are told apart by their characters. -/
structure Clear : Prop where
  opening_ne : grammar.opening ≠ []
  head_solid : ∀ c, grammar.isHead c = true → grammar.isBlank c = false
  tail_solid : ∀ c, grammar.isTail c = true → grammar.isBlank c = false
  closing_ne : grammar.closing ≠ []
  closing_apart : ∀ c ∈ grammar.closing, grammar.isBlank c = false ∧ grammar.isTail c = false
  opening_apart : ∀ c ∈ grammar.opening, c ∉ grammar.closing ∧ grammar.isBlank c = false ∧
    grammar.isHead c = false ∧ grammar.isTail c = false

variable {grammar}

theorem Clear.blank_not_tail (clear : grammar.Clear) {c : Char} (blank : grammar.isBlank c = true) :
    grammar.isTail c = false := by
  cases tail : grammar.isTail c with
  | false => rfl
  | true => rw [clear.tail_solid c tail] at blank; cases blank

theorem Clear.after_trail (clear : grammar.Clear) {trail rest : Text}
    (blanks : ∀ c ∈ trail, grammar.isBlank c = true) :
    ∀ c ∈ (trail ++ (grammar.closing ++ rest)).head?, grammar.isTail c = false := by
  intro c first
  cases trail with
  | nil =>
      obtain ⟨mark, marks, closing⟩ := List.exists_cons_of_ne_nil clear.closing_ne
      simp only [List.nil_append, closing, List.cons_append, List.head?_cons, Option.mem_def,
        Option.some.injEq] at first
      subst first
      exact (clear.closing_apart _ (by simp [closing])).2
  | cons blank trail =>
      simp only [List.cons_append, List.head?_cons, Option.mem_def, Option.some.injEq] at first
      subst first
      exact clear.blank_not_tail (blanks _ (List.mem_cons_self ..))

theorem Clear.after_blanks (clear : grammar.Clear) (rest : Text) :
    ∀ c ∈ (grammar.closing ++ rest).head?, grammar.isBlank c = false := by
  intro c first
  obtain ⟨mark, marks, closing⟩ := List.exists_cons_of_ne_nil clear.closing_ne
  simp only [closing, List.cons_append, List.head?_cons, Option.mem_def, Option.some.injEq] at first
  subst first
  exact (clear.closing_apart _ (by simp [closing])).1

theorem dropPrefix?_append (start rest : Text) : (start ++ rest).dropPrefix? start = some rest :=
  List.dropPrefix?_eq_some_iff.mpr ⟨start, rfl, by simp⟩

theorem hole?_spells (clear : grammar.Clear) {name spelled : Text} (spells : grammar.Spells name spelled)
    (rest : Text) : grammar.hole? (spelled ++ rest) = some (name, rest) := by
  obtain ⟨lead, head, tail, trail, rfl, rfl, leads, heads, tails, trails⟩ := spells
  have opened : (grammar.opening ++ (lead ++ (head :: (tail ++ (trail ++ grammar.closing)))) ++ rest).dropPrefix?
      grammar.opening = some (lead ++ (head :: (tail ++ (trail ++ (grammar.closing ++ rest))))) := by
    simpa using dropPrefix?_append grammar.opening
      (lead ++ (head :: (tail ++ (trail ++ (grammar.closing ++ rest)))))
  have inner : (lead ++ (head :: (tail ++ (trail ++ (grammar.closing ++ rest))))).dropWhile grammar.isBlank
      = head :: (tail ++ (trail ++ (grammar.closing ++ rest))) :=
    dropWhile_stop leads (by simpa using clear.head_solid head heads)
  unfold hole?
  rw [opened]
  simp only [Option.bind_eq_bind, Option.bind_some, inner, heads, if_true,
    takeWhile_stop tails (clear.after_trail trails), dropWhile_stop tails (clear.after_trail trails),
    dropWhile_stop trails (clear.after_blanks rest), dropPrefix?_append, Option.map_some]

theorem spells_of_hole? {text name rest : Text} (found : grammar.hole? text = some (name, rest)) :
    ∃ spelled, grammar.Spells name spelled ∧ text = spelled ++ rest := by
  unfold hole? at found
  obtain ⟨inner, opened, found⟩ := Option.bind_eq_some_iff.mp found
  obtain ⟨start, same, equal⟩ := List.dropPrefix?_eq_some_iff.mp opened
  obtain rfl : start = grammar.opening := by simpa using equal
  split at found
  · cases found
  · rename_i head tail start
    split at found
    · rename_i heads
      obtain ⟨after, closed, same'⟩ := Option.map_eq_some_iff.mp found
      obtain ⟨rfl, rfl⟩ := Prod.mk.inj same'
      obtain ⟨mark, behind, equal'⟩ := List.dropPrefix?_eq_some_iff.mp closed
      obtain rfl : mark = grammar.closing := by simpa using equal'
      refine ⟨_, ⟨inner.takeWhile grammar.isBlank, head, tail.takeWhile grammar.isTail,
        (tail.dropWhile grammar.isTail).takeWhile grammar.isBlank, rfl, rfl, ?_, heads, ?_, ?_⟩, ?_⟩
      · exact fun c found => List.mem_takeWhile_imp found
      · exact fun c found => List.mem_takeWhile_imp found
      · exact fun c found => List.mem_takeWhile_imp found
      · have outer : inner = inner.takeWhile grammar.isBlank ++ (head :: tail) := by
          rw [← start, List.takeWhile_append_dropWhile]
        have named : tail = tail.takeWhile grammar.isTail ++ tail.dropWhile grammar.isTail :=
          (List.takeWhile_append_dropWhile ..).symm
        have ended : tail.dropWhile grammar.isTail = (tail.dropWhile grammar.isTail).takeWhile grammar.isBlank ++
            (grammar.closing ++ after) := by
          rw [← behind, List.takeWhile_append_dropWhile]
        calc text = grammar.opening ++ inner := same
          _ = grammar.opening ++ (inner.takeWhile grammar.isBlank ++ (head :: tail)) := by rw [← outer]
          _ = grammar.opening ++ (inner.takeWhile grammar.isBlank ++ (head :: (tail.takeWhile grammar.isTail ++
                ((tail.dropWhile grammar.isTail).takeWhile grammar.isBlank ++ (grammar.closing ++ after))))) := by
              rw [← ended, ← named]
          _ = _ := by simp only [List.append_assoc, List.cons_append]
    · cases found

theorem starts_iff (clear : grammar.Clear) {text : Text} :
    grammar.Starts text ↔ (grammar.hole? text).isSome := by
  constructor
  · rintro ⟨name, spelled, after, spells, rfl⟩
    rw [hole?_spells clear spells]
    rfl
  · intro found
    obtain ⟨⟨name, after⟩, found⟩ := Option.isSome_iff_exists.mp found
    obtain ⟨spelled, spells, same⟩ := spells_of_hole? found
    exact ⟨name, spelled, after, spells, same⟩

/-- No placeholder starts inside another one. -/
theorem Clear.apart (clear : grammar.Clear) {name spelled front back : Text}
    (spells : grammar.Spells name spelled) (same : spelled = front ++ back) (front_ne : front ≠ [])
    (back_ne : back ≠ []) (rest : Text) : ¬ grammar.Starts (back ++ rest) := by
  rintro ⟨-, -, after, ⟨lead, head, tail, trail, -, rfl, -⟩, begins⟩
  obtain ⟨lead', head', tail', trail', -, rfl, leads, heads, tails, trails⟩ := spells
  refine not_inside ?_ clear.opening_ne (by simp) front_ne back_ne same (begins.trans (List.append_assoc ..))
  intro c inside opens
  obtain ⟨unclosed, unblank, unhead, untail⟩ := clear.opening_apart c opens
  simp only [List.mem_append, List.mem_cons] at inside
  rcases inside with lead | rfl | tail | trail | closing
  · rw [leads c lead] at unblank; cases unblank
  · rw [heads] at unhead; cases unhead
  · rw [tails c tail] at untail; cases untail
  · rw [trails c trail] at unblank; cases unblank
  · exact unclosed closing

/-- Induction along the scan of a text. -/
theorem scan_induction {motive : Text → Prop} (nil : motive [])
    (hole : ∀ text name rest, grammar.hole? text = some (name, rest) → motive rest → motive text)
    (plain : ∀ c rest, grammar.hole? (c :: rest) = none → motive rest → motive (c :: rest)) (text : Text) :
    motive text := by
  -- a placeholder takes several characters at once, so the induction is on a bound of the length
  suffices bounded : ∀ bound : Nat, ∀ text : Text, text.length ≤ bound → motive text from
    bounded text.length text le_rfl
  intro bound
  induction bound with
  | zero =>
      intro text short
      rw [List.eq_nil_of_length_eq_zero (Nat.le_zero.mp short)]
      exact nil
  | succ bound ih =>
      intro text short
      cases text with
      | nil => exact nil
      | cons c rest =>
          cases found : grammar.hole? (c :: rest) with
          | none => exact plain c rest found (ih rest (by simpa using short))
          | some taken =>
              have shorter := grammar.hole?_shorter found
              exact hole _ taken.1 taken.2 found (ih taken.2 (by omega))

@[simp] theorem not_occurs_nil (name : Text) : ¬ grammar.Occurs name [] := by
  rintro ⟨before, spelled, after, ⟨lead, head, tail, trail, -, rfl, -⟩, same⟩
  simp at same

theorem occurs_plain {name : Text} {c : Char} {rest : Text} (clear : grammar.Clear)
    (free : grammar.hole? (c :: rest) = none) : grammar.Occurs name (c :: rest) ↔ grammar.Occurs name rest := by
  constructor
  · rintro ⟨before, spelled, after, spells, same⟩
    cases before with
    | nil =>
        rw [same, List.nil_append, hole?_spells clear spells] at free
        cases free
    | cons d before =>
        obtain ⟨-, rfl⟩ := List.cons.inj same
        exact ⟨before, spelled, after, spells, rfl⟩
  · rintro ⟨before, spelled, after, spells, rfl⟩
    exact ⟨c :: before, spelled, after, spells, rfl⟩

theorem occurs_hole {name other : Text} {text rest : Text} (clear : grammar.Clear)
    (found : grammar.hole? text = some (other, rest)) :
    grammar.Occurs name text ↔ name = other ∨ grammar.Occurs name rest := by
  obtain ⟨spelled, spells, rfl⟩ := spells_of_hole? found
  constructor
  · rintro ⟨before, spelled', after, spells', same⟩
    -- it stands behind the first placeholder, or begins inside it; there only its very start is possible
    rcases List.append_eq_append_iff.mp same with ⟨more, rfl, behind⟩ | ⟨back, split, overlap⟩
    · exact .inr ⟨more, spelled', after, spells', behind⟩
    · by_cases first : before = []
      · subst first
        rw [same, List.nil_append, hole?_spells clear spells'] at found
        exact .inl (Prod.mk.inj (Option.some.inj found)).1
      · by_cases last : back = []
        · subst last
          exact .inr ⟨[], spelled', after, spells', overlap.symm⟩
        · exact absurd ⟨name, spelled', after, spells', overlap.symm⟩ (clear.apart spells split first last rest)
  · rintro (rfl | ⟨before, spelled', after, spells', rfl⟩)
    · exact ⟨[], spelled, rest, spells, rfl⟩
    · exact ⟨spelled ++ before, spelled', after, spells', by simp⟩

theorem pieces_hole {text name rest : Text} (found : grammar.hole? text = some (name, rest)) :
    grammar.pieces text = .hole name :: grammar.pieces rest := by
  cases text with
  | nil => exact absurd (grammar.hole?_shorter found) (Nat.not_lt_zero _)
  | cons c text => rw [pieces_cons, found]

theorem pieces_plain {c : Char} {rest : Text} (free : grammar.hole? (c :: rest) = none) :
    grammar.pieces (c :: rest) = .plain c :: grammar.pieces rest := by
  rw [pieces_cons, free]

/-- The scan finds every placeholder of the text, and nothing else. -/
theorem mem_names_iff (clear : grammar.Clear) {name text : Text} :
    name ∈ grammar.names text ↔ grammar.Occurs name text := by
  induction text using scan_induction with
  | nil => simp [names]
  | hole text other rest found ih =>
      rw [occurs_hole clear found, ← ih]
      simp [names, pieces_hole found]
  | plain c rest free ih =>
      rw [occurs_plain clear free, ← ih]
      simp [names, pieces_plain free]

theorem replaced_substitute (value : Text → Text) (clear : grammar.Clear) (text : Text) :
    grammar.Replaced value text (grammar.substitute value text) := by
  induction text using scan_induction with
  | nil => exact .done
  | hole text name rest found ih =>
      obtain ⟨spelled, spells, rfl⟩ := spells_of_hole? found
      have step := Replaced.hole spells ih
      simpa [substitute, pieces_hole found] using step
  | plain c rest free ih =>
      have step := Replaced.plain (by rw [starts_iff clear, free]; simp) ih
      simpa [substitute, pieces_plain free] using step

/-- Replacing is a function of the text, and the scan computes it. -/
theorem replaced_iff {value : Text → Text} (clear : grammar.Clear) {text result : Text} :
    grammar.Replaced value text result ↔ result = grammar.substitute value text := by
  constructor
  · intro replaced
    induction replaced with
    | done => rfl
    | hole spells _ ih => simp [substitute, pieces_hole (hole?_spells clear spells _), ih]
    | @plain c rest result free _ ih =>
        have none : grammar.hole? (c :: rest) = none := by simpa [starts_iff clear] using free
        simp [substitute, pieces_plain none, ih]
  · rintro rfl
    exact replaced_substitute value clear text

end Grammar

end Library
