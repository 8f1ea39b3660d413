import Mathlib.Data.List.DropRight
import Mathlib.Data.List.Lex
import Mathlib.Data.Char

/-! Text as a sequence of code points: blanks, and placeholders of the form
opening, blanks, a name, blanks, closing.

A scan goes from left to right, takes the first placeholder it can and
continues behind it, so placeholders never overlap.
-/

set_option autoImplicit false

namespace Library

abbrev Text := List Char

instance : LawfulBEq Text := inferInstance

section
variable {α : Type} {test : α → Bool} {front rest : List α}

theorem takeWhile_stop (run : ∀ c ∈ front, test c = true) (stop : ∀ c ∈ rest.head?, test c = false) :
    (front ++ rest).takeWhile test = front := by
  induction front with
  | nil =>
      cases rest with
      | nil => rfl
      | cons c rest => exact List.takeWhile_cons_of_neg (by simp [stop c rfl])
  | cons c front ih =>
      rw [List.cons_append, List.takeWhile_cons_of_pos (run c (List.mem_cons_self ..)),
        ih fun d later => run d (List.mem_cons_of_mem _ later)]

theorem dropWhile_stop (run : ∀ c ∈ front, test c = true) (stop : ∀ c ∈ rest.head?, test c = false) :
    (front ++ rest).dropWhile test = rest := by
  -- the whole is the run and what is dropped behind it, so only the run has to be known
  have whole := List.takeWhile_append_dropWhile (p := test) (l := front ++ rest)
  rw [takeWhile_stop run stop] at whole
  exact List.append_cancel_left whole

end

namespace Text

/-- What Python's `str.isspace` takes for white space. -/
def isSpace (c : Char) : Bool :=
  let n := c.toNat
  (9 ≤ n && n ≤ 13) || (28 ≤ n && n ≤ 32) || n == 0x85 || n == 0xa0 || n == 0x1680 ||
    (0x2000 ≤ n && n ≤ 0x200a) || n == 0x2028 || n == 0x2029 || n == 0x202f || n == 0x205f ||
    n == 0x3000

def strip (text : Text) : Text := (text.dropWhile isSpace).rdropWhile isSpace

def blank (text : Text) : Bool := text.all isSpace

def lowerAfter (unicode : Text → Char → Text → Text) : Text → Text → Text
  | _, [] => []
  | before, c :: after =>
      (if c.toNat < 128 then [c.toLower] else unicode before c after) ++ lowerAfter unicode (before ++ [c]) after

/-- Python's `str.lower`. ASCII has its own small letters; what any other character becomes is for
Unicode's tables to say, which see the text before and behind it. -/
def lower (unicode : Text → Char → Text → Text) (text : Text) : Text := lowerAfter unicode [] text

/-- One character inside Python's `repr`, between two of the quotes given. Outside ASCII the control
characters and the white space are escaped; what else Unicode does not call printable stays here as it is. -/
def reprChar (quote c : Char) : Text :=
  let n := c.toNat
  let hex := Nat.toDigits 16 n
  if c = quote ∨ c = '\\' then ['\\', c]
  else if c = '\t' then "\\t".toList
  else if c = '\n' then "\\n".toList
  else if c = '\r' then "\\r".toList
  else if n < 32 ∨ (127 ≤ n ∧ n ≤ 0xa0) then "\\x".toList ++ hex.leftpad 2 '0'
  else if isSpace c = true ∧ c ≠ ' ' then "\\u".toList ++ hex.leftpad 4 '0'
  else [c]

/-- Python's `repr` of a text: in single quotes, or in double ones when only single ones occur inside. -/
def repr (text : Text) : String :=
  let quote := if '\x27' ∈ text ∧ '\x22' ∉ text then '\x22' else '\x27'
  String.ofList (quote :: text.flatMap (reprChar quote) ++ [quote])

/-- Unicode's own white space, which leaves the information separators out. -/
def isWhite (c : Char) : Bool :=
  let n := c.toNat
  (9 ≤ n && n ≤ 13) || n == 32 || n == 0x85 || n == 0xa0 || n == 0x1680 ||
    (0x2000 ≤ n && n ≤ 0x200a) || n == 0x2028 || n == 0x2029 || n == 0x202f || n == 0x205f ||
    n == 0x3000

/-- Stripping as a validator written in Rust does it. -/
def trim (text : Text) : Text := (text.dropWhile isWhite).rdropWhile isWhite

section
variable {test : Char → Bool}

theorem dropWhile_ends (text : Text) :
    ((text.dropWhile test).rdropWhile test).dropWhile test = (text.dropWhile test).rdropWhile test := by
  cases stripped : (text.dropWhile test).rdropWhile test with
  | nil => rfl
  | cons c rest =>
      have front : (text.dropWhile test).head? = some c := by
        obtain ⟨tail, same⟩ := List.rdropWhile_prefix test (l := text.dropWhile test)
        rw [← same, stripped]
        rfl
      have solid := List.head?_dropWhile_not test text
      rw [front] at solid
      exact List.dropWhile_cons_of_neg (by simpa using solid)

end

theorem dropWhile_strip (text : Text) : (strip text).dropWhile isSpace = strip text := dropWhile_ends text

theorem strip_strip (text : Text) : strip (strip text) = strip text := by
  rw [strip, dropWhile_strip, strip, List.rdropWhile_idempotent]

@[simp] theorem trim_trim (text : Text) : trim (trim text) = trim text := by
  rw [trim, trim, dropWhile_ends, List.rdropWhile_idempotent]

theorem isSpace_of_isWhite {c : Char} (white : isWhite c = true) : isSpace c = true := by
  simp only [isWhite, isSpace, Bool.or_eq_true, Bool.and_eq_true, decide_eq_true_eq, beq_iff_eq] at white ⊢
  omega

theorem trim_ne_nil {text : Text} (solid : blank text = false) : trim text ≠ [] := by
  intro empty
  rw [trim, List.rdropWhile_eq_nil_iff] at empty
  have front : text.dropWhile isWhite = [] := by
    cases left : text.dropWhile isWhite with
    | nil => rfl
    | cons c rest =>
        have dark := List.head?_dropWhile_not isWhite text
        rw [left] at dark empty
        simp [empty c (.head _)] at dark
  have white := List.dropWhile_eq_nil_iff.mp front
  rw [blank, List.all_eq_false] at solid
  obtain ⟨c, inside, dark⟩ := solid
  exact dark (isSpace_of_isWhite (white c inside))

theorem lower_of_small {unicode : Text → Char → Text → Text} {text : Text}
    (small : ∀ c ∈ text, c.toNat < 128 ∧ c.toLower = c) : lower unicode text = text := by
  suffices general : ∀ before, lowerAfter unicode before text = text from general []
  induction text with
  | nil => exact fun before => rfl
  | cons c rest ih =>
      intro before
      obtain ⟨ascii, same⟩ := small c (.head _)
      rw [lowerAfter, if_pos ascii, same, ih (fun d inside => small d (.tail _ inside))]
      rfl

end Text

/-- A placeholder grammar. Blanks may surround the name. -/
structure Grammar where
  opening : Text
  closing : Text
  isBlank : Char → Bool
  isHead : Char → Bool
  isTail : Char → Bool

inductive Piece where
  | plain (c : Char)
  | hole (name : Text)
  deriving DecidableEq, Repr

namespace Grammar

variable (grammar : Grammar)

def hole? (text : Text) : Option (Text × Text) := do
  let inner ← text.dropPrefix? grammar.opening
  match inner.dropWhile grammar.isBlank with
  | [] => none
  | head :: tail =>
      if grammar.isHead head then
        let behind := (tail.dropWhile grammar.isTail).dropWhile grammar.isBlank
        (behind.dropPrefix? grammar.closing).map fun rest => (head :: tail.takeWhile grammar.isTail, rest)
      else none

def cut : Nat → Text → List Piece
  | 0, _ => []
  | _ + 1, [] => []
  | fuel + 1, c :: rest =>
      match grammar.hole? (c :: rest) with
      | some (name, after) => .hole name :: cut fuel after
      | none => .plain c :: cut fuel rest

def pieces (text : Text) : List Piece := grammar.cut text.length text

def names (text : Text) : List Text :=
  (grammar.pieces text).filterMap fun
    | .hole name => some name
    | .plain _ => none

def substitute (value : Text → Text) (text : Text) : Text :=
  (grammar.pieces text).flatMap fun
    | .hole name => value name
    | .plain c => [c]

theorem length_dropPrefix? {text start rest : Text} (found : text.dropPrefix? start = some rest) :
    rest.length ≤ text.length := by
  obtain ⟨_, rfl, _⟩ := List.dropPrefix?_eq_some_iff.mp found
  simp

theorem hole?_shorter {text name after : Text} (found : grammar.hole? text = some (name, after)) :
    after.length < text.length := by
  unfold hole? at found
  obtain ⟨inner, opened, found⟩ := Option.bind_eq_some_iff.mp found
  have outer := length_dropPrefix? opened
  have skipped := (List.dropWhile_sublist grammar.isBlank (l := inner)).length_le
  split at found
  · cases found
  · rename_i head tail start
    rw [start] at skipped
    split at found
    · obtain ⟨rest, closed, same⟩ := Option.map_eq_some_iff.mp found
      cases same
      have tailed := (List.dropWhile_sublist grammar.isTail (l := tail)).length_le
      have blanks := (List.dropWhile_sublist grammar.isBlank (l := tail.dropWhile grammar.isTail)).length_le
      have last := length_dropPrefix? closed
      simp only [List.length_cons] at skipped
      omega
    · cases found

/-- A scan needs no more steps than the text has characters. -/
theorem cut_of_le (text : Text) (fuel : Nat) (enough : text.length ≤ fuel) :
    grammar.cut fuel text = grammar.pieces text := by
  suffices general : ∀ (bound : Nat) (text : Text) (first second : Nat), text.length ≤ bound →
      text.length ≤ first → text.length ≤ second → grammar.cut first text = grammar.cut second text from
    general text.length text fuel text.length le_rfl enough le_rfl
  intro bound
  induction bound with
  | zero =>
      intro text first second small _ _
      obtain rfl : text = [] := List.eq_nil_of_length_eq_zero (by omega)
      cases first <;> cases second <;> rfl
  | succ bound ih =>
      intro text first second small one two
      cases text with
      | nil => cases first <;> cases second <;> rfl
      | cons c rest =>
          simp only [List.length_cons] at small one two
          obtain ⟨first, rfl⟩ : ∃ n, first = n + 1 := ⟨first - 1, by omega⟩
          obtain ⟨second, rfl⟩ : ∃ n, second = n + 1 := ⟨second - 1, by omega⟩
          simp only [cut]
          split
          · rename_i name after found
            have shorter := grammar.hole?_shorter found
            simp only [List.length_cons] at shorter
            rw [ih after first second (by omega) (by omega) (by omega)]
          · rw [ih rest first second (by omega) (by omega) (by omega)]

@[simp] theorem pieces_nil : grammar.pieces [] = [] := rfl

theorem pieces_cons (c : Char) (rest : Text) :
    grammar.pieces (c :: rest) = match grammar.hole? (c :: rest) with
      | some (name, after) => .hole name :: grammar.pieces after
      | none => .plain c :: grammar.pieces rest := by
  rw [pieces, List.length_cons, cut]
  split
  · rename_i name after found
    have shorter := grammar.hole?_shorter found
    rw [grammar.cut_of_le after _ (by simpa [Nat.lt_succ_iff] using shorter)]
  · rfl

end Grammar

end Library
