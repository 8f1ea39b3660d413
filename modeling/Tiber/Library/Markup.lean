import Tiber.Library.Text

/-! The part of HTML that is made of characters, start tags with quoted attributes and end tags.

Writing escapes what would be read as markup. The reader goes through the states of the tokenizer
that such a text can meet, one character after the other, and fails in any other. It takes the text
as it comes: carriage returns and NUL, which a browser normalises first, are out of its scope.
-/

set_option autoImplicit false

namespace Library

inductive Markup where
  | char (c : Char)
  | opening (name : Text) (attributes : List (Text × Text))
  | closing (name : Text)
  deriving DecidableEq

namespace Markup

/-! ## Writing -/

def escapeChar (c : Char) : Text :=
  if c = '&' then "&amp;".toList
  else if c = '<' then "&lt;".toList
  else if c = '>' then "&gt;".toList
  else if c = '\x22' then "&quot;".toList
  else if c = '\x27' then "&#x27;".toList
  else [c]

def writeAttribute (pair : Text × Text) : Text :=
  [' '] ++ pair.1 ++ ['=', '\x22'] ++ pair.2.flatMap escapeChar ++ ['\x22']

def writeItem : Markup → Text
  | char c => escapeChar c
  | opening name attributes => ['<'] ++ name ++ attributes.flatMap writeAttribute ++ ['>']
  | closing name => ['<', '/'] ++ name ++ ['>']

def write (items : List Markup) : Text := items.flatMap writeItem

/-! ## Reading -/

/-- A state of the tokenizer, with what it has read of the current item. -/
inductive Mode where
  | data
  | reference (spelled : Text)
  | tagOpen
  | closingName (name : Text)
  | openingName (name : Text)
  | attributeName (name : Text) (attributes : List (Text × Text)) (key : Text)
  | beforeValue (name : Text) (attributes : List (Text × Text)) (key : Text)
  | value (name : Text) (attributes : List (Text × Text)) (key value : Text)
  | valueReference (name : Text) (attributes : List (Text × Text)) (key value spelled : Text)
  | afterValue (name : Text) (attributes : List (Text × Text))

def isLetter (c : Char) : Bool := 'a' ≤ c && c ≤ 'z'

def referred (spelled : Text) : Option Char :=
  if spelled = "amp".toList then some '&'
  else if spelled = "lt".toList then some '<'
  else if spelled = "gt".toList then some '>'
  else if spelled = "quot".toList then some '\x22'
  else if spelled = "#x27".toList then some '\x27'
  else none

def Mode.step (seen : List Markup) (mode : Mode) (c : Char) : Option (List Markup × Mode) :=
  match mode with
  | .data =>
      if c = '<' then some (seen, .tagOpen)
      else if c = '&' then some (seen, .reference [])
      else some (seen ++ [.char c], .data)
  | .reference spelled =>
      if c = ';' then (referred spelled).map fun meant => (seen ++ [.char meant], .data)
      else some (seen, .reference (spelled ++ [c]))
  | .tagOpen =>
      if c = '/' then some (seen, .closingName [])
      else if isLetter c then some (seen, .openingName [c])
      else none
  | .closingName name =>
      if c = '>' then some (seen ++ [.closing name], .data)
      else if isLetter c then some (seen, .closingName (name ++ [c]))
      else none
  | .openingName name =>
      if c = '>' then some (seen ++ [.opening name []], .data)
      else if c = ' ' then some (seen, .attributeName name [] [])
      else if isLetter c then some (seen, .openingName (name ++ [c]))
      else none
  | .attributeName name attributes key =>
      if c = '=' then some (seen, .beforeValue name attributes key)
      else if isLetter c then some (seen, .attributeName name attributes (key ++ [c]))
      else none
  | .beforeValue name attributes key =>
      if c = '\x22' then some (seen, .value name attributes key []) else none
  | .value name attributes key given =>
      if c = '\x22' then some (seen, .afterValue name (attributes ++ [(key, given)]))
      else if c = '&' then some (seen, .valueReference name attributes key given [])
      else some (seen, .value name attributes key (given ++ [c]))
  | .valueReference name attributes key given spelled =>
      if c = ';' then (referred spelled).map fun meant => (seen, .value name attributes key (given ++ [meant]))
      else some (seen, .valueReference name attributes key given (spelled ++ [c]))
  | .afterValue name attributes =>
      if c = '>' then some (seen ++ [.opening name attributes], .data)
      else if c = ' ' then some (seen, .attributeName name attributes [])
      else none

def scan (state : List Markup × Mode) (text : Text) : Option (List Markup × Mode) :=
  text.foldlM (fun state c => state.2.step state.1 c) state

/-- What the text is read as, where it ends between two items. -/
def read (text : Text) : Option (List Markup) :=
  (scan ([], .data) text).bind fun state =>
    match state.2 with
    | .data => some state.1
    | _ => none

/-! ## Reading what is written -/

theorem scan_append (state : List Markup × Mode) (first rest : Text) :
    scan state (first ++ rest) = (scan state first).bind fun next => scan next rest :=
  List.foldlM_append ..

theorem scan_through {state next final : List Markup × Mode} {first rest : Text} (start : scan state first = some next)
    (finish : scan next rest = some final) : scan state (first ++ rest) = some final := by
  rw [scan_append, start]
  exact finish

theorem scan_cons {state next final : List Markup × Mode} {c : Char} {rest : Text}
    (start : state.2.step state.1 c = some next) (finish : scan next rest = some final) :
    scan state (c :: rest) = some final := by
  rw [scan, List.foldlM_cons, start]
  exact finish

/-- A character is written as it is, where it means nothing else, or as a reference to it. -/
theorem escapeChar_cases (c : Char) :
    escapeChar c = [c] ∧ c ≠ '<' ∧ c ≠ '&' ∧ c ≠ '\x22' ∨
      ∃ spelled, escapeChar c = '&' :: (spelled ++ [';']) ∧ ';' ∉ spelled ∧ referred spelled = some c := by
  unfold escapeChar
  split
  · rename_i same
    exact .inr ⟨"amp".toList, rfl, by decide, same ▸ rfl⟩
  · split
    · rename_i same
      exact .inr ⟨"lt".toList, rfl, by decide, same ▸ rfl⟩
    · split
      · rename_i same
        exact .inr ⟨"gt".toList, rfl, by decide, same ▸ rfl⟩
      · split
        · rename_i same
          exact .inr ⟨"quot".toList, rfl, by decide, same ▸ rfl⟩
        · split
          · rename_i same
            exact .inr ⟨"#x27".toList, rfl, by decide, same ▸ rfl⟩
          · rename_i ampersand less _ quote _
            exact .inl ⟨rfl, less, ampersand, quote⟩

theorem scan_reference (seen : List Markup) (start spelled : Text) (unended : ';' ∉ spelled) :
    scan (seen, .reference start) spelled = some (seen, .reference (start ++ spelled)) := by
  induction spelled generalizing start with
  | nil => simp [scan]
  | cons c rest ih =>
      rw [List.mem_cons, not_or] at unended
      have longer : (Mode.reference start).step seen c = some (seen, .reference (start ++ [c])) := by
        dsimp only [Mode.step]
        rw [if_neg (Ne.symm unended.1)]
      apply scan_cons longer
      rw [ih _ unended.2, List.append_assoc]
      rfl

theorem scan_escapeChar (seen : List Markup) (c : Char) :
    scan (seen, .data) (escapeChar c) = some (seen ++ [.char c], .data) := by
  rcases escapeChar_cases c with ⟨plain, less, ampersand, -⟩ | ⟨spelled, escaped, unended, meant⟩
  · rw [plain]
    apply scan_cons _ rfl
    dsimp only [Mode.step]
    rw [if_neg less, if_neg ampersand]
  · rw [escaped]
    apply scan_cons rfl
    apply scan_through (scan_reference seen [] spelled unended)
    apply scan_cons _ rfl
    dsimp only [Mode.step]
    rw [if_pos rfl, List.nil_append, meant]
    rfl

theorem scan_valueReference (seen : List Markup) (name : Text) (attributes : List (Text × Text))
    (key given start spelled : Text) (unended : ';' ∉ spelled) :
    scan (seen, .valueReference name attributes key given start) spelled =
      some (seen, .valueReference name attributes key given (start ++ spelled)) := by
  induction spelled generalizing start with
  | nil => simp [scan]
  | cons c rest ih =>
      rw [List.mem_cons, not_or] at unended
      have longer : (Mode.valueReference name attributes key given start).step seen c =
          some (seen, .valueReference name attributes key given (start ++ [c])) := by
        dsimp only [Mode.step]
        rw [if_neg (Ne.symm unended.1)]
      apply scan_cons longer
      rw [ih _ unended.2, List.append_assoc]
      rfl

theorem scan_escapeChar_value (seen : List Markup) (name : Text) (attributes : List (Text × Text)) (key given : Text)
    (c : Char) : scan (seen, .value name attributes key given) (escapeChar c) =
      some (seen, .value name attributes key (given ++ [c])) := by
  rcases escapeChar_cases c with ⟨plain, -, ampersand, quote⟩ | ⟨spelled, escaped, unended, meant⟩
  · rw [plain]
    apply scan_cons _ rfl
    dsimp only [Mode.step]
    rw [if_neg quote, if_neg ampersand]
  · rw [escaped]
    apply scan_cons rfl
    apply scan_through (scan_valueReference seen name attributes key given [] spelled unended)
    apply scan_cons _ rfl
    dsimp only [Mode.step]
    rw [if_pos rfl, List.nil_append, meant]
    rfl

theorem scan_value (seen : List Markup) (name : Text) (attributes : List (Text × Text)) (key given text : Text) :
    scan (seen, .value name attributes key given) (text.flatMap escapeChar) =
      some (seen, .value name attributes key (given ++ text)) := by
  induction text generalizing given with
  | nil => simp [scan]
  | cons c rest ih =>
      rw [List.flatMap_cons]
      apply scan_through (scan_escapeChar_value seen name attributes key given c)
      rw [ih, List.append_assoc]
      rfl

theorem isLetter_ne {c other : Char} (letter : isLetter c = true) (sign : isLetter other = false) : c ≠ other := by
  rintro rfl
  rw [letter] at sign
  cases sign

theorem scan_closingName (seen : List Markup) (name letters : Text) (spelled : ∀ c ∈ letters, isLetter c = true) :
    scan (seen, .closingName name) letters = some (seen, .closingName (name ++ letters)) := by
  induction letters generalizing name with
  | nil => simp [scan]
  | cons c rest ih =>
      have letter := spelled c (.head _)
      have longer : (Mode.closingName name).step seen c = some (seen, .closingName (name ++ [c])) := by
        dsimp only [Mode.step]
        rw [if_neg (isLetter_ne letter rfl), if_pos letter]
      apply scan_cons longer
      rw [ih _ fun d later => spelled d (.tail _ later), List.append_assoc]
      rfl

theorem scan_openingName (seen : List Markup) (name letters : Text) (spelled : ∀ c ∈ letters, isLetter c = true) :
    scan (seen, .openingName name) letters = some (seen, .openingName (name ++ letters)) := by
  induction letters generalizing name with
  | nil => simp [scan]
  | cons c rest ih =>
      have letter := spelled c (.head _)
      have longer : (Mode.openingName name).step seen c = some (seen, .openingName (name ++ [c])) := by
        dsimp only [Mode.step]
        rw [if_neg (isLetter_ne letter rfl), if_neg (isLetter_ne letter rfl), if_pos letter]
      apply scan_cons longer
      rw [ih _ fun d later => spelled d (.tail _ later), List.append_assoc]
      rfl

theorem scan_attributeName (seen : List Markup) (name : Text) (attributes : List (Text × Text)) (key letters : Text)
    (spelled : ∀ c ∈ letters, isLetter c = true) :
    scan (seen, .attributeName name attributes key) letters = some (seen, .attributeName name attributes (key ++ letters)) := by
  induction letters generalizing key with
  | nil => simp [scan]
  | cons c rest ih =>
      have letter := spelled c (.head _)
      have longer : (Mode.attributeName name attributes key).step seen c =
          some (seen, .attributeName name attributes (key ++ [c])) := by
        dsimp only [Mode.step]
        rw [if_neg (isLetter_ne letter rfl), if_pos letter]
      apply scan_cons longer
      rw [ih _ fun d later => spelled d (.tail _ later), List.append_assoc]
      rfl

inductive Within (name : Text) : List (Text × Text) → Mode → Prop where
  | named : Within name [] (.openingName name)
  | given (attributes : List (Text × Text)) : Within name attributes (.afterValue name attributes)

theorem scan_attribute (seen : List Markup) {mode : Mode} {name : Text} {attributes : List (Text × Text)}
    (within : Within name attributes mode) (pair : Text × Text) (spelled : ∀ c ∈ pair.1, isLetter c = true) :
    scan (seen, mode) (writeAttribute pair) = some (seen, .afterValue name (attributes ++ [pair])) := by
  have start : mode.step seen ' ' = some (seen, .attributeName name attributes []) := by
    cases within with
    | named => rfl
    | given => rfl
  unfold writeAttribute
  simp only [List.append_assoc, List.cons_append, List.nil_append]
  apply scan_cons start
  apply scan_through (scan_attributeName seen name attributes [] pair.1 spelled)
  apply scan_cons rfl
  apply scan_cons rfl
  apply scan_through (scan_value seen name attributes _ [] pair.2)
  rfl

theorem scan_attributes (seen : List Markup) {mode : Mode} {name : Text} {attributes : List (Text × Text)}
    (within : Within name attributes mode) (pairs : List (Text × Text))
    (spelled : ∀ pair ∈ pairs, ∀ c ∈ pair.1, isLetter c = true) :
    ∃ last : Mode, Within name (attributes ++ pairs) last ∧
      scan (seen, mode) (pairs.flatMap writeAttribute) = some (seen, last) := by
  induction pairs generalizing mode attributes with
  | nil => exact ⟨mode, by rwa [List.append_nil], rfl⟩
  | cons pair rest ih =>
      have first := scan_attribute seen within pair (spelled pair (.head _))
      obtain ⟨last, inside, scanned⟩ := ih (.given _) fun other later => spelled other (.tail _ later)
      rw [List.append_assoc] at inside
      exact ⟨last, inside, scan_through first scanned⟩

/-- Names are made of letters, and no tag is without one. -/
def Spelled : Markup → Prop
  | char _ => True
  | opening name attributes =>
      name ≠ [] ∧ (∀ c ∈ name, isLetter c = true) ∧ ∀ pair ∈ attributes, ∀ c ∈ pair.1, isLetter c = true
  | closing name => ∀ c ∈ name, isLetter c = true

theorem opening_spelled {name : Text} {attributes : List (Text × Text)} (solid : name ≠ [])
    (letters : name.all isLetter = true) (keys : attributes.all (fun pair => pair.1.all isLetter) = true) :
    (opening name attributes).Spelled := by
  simp only [List.all_eq_true] at letters keys
  exact ⟨solid, letters, keys⟩

theorem closing_spelled {name : Text} (letters : name.all isLetter = true) : (closing name).Spelled :=
  List.all_eq_true.mp letters

theorem scan_writeItem (seen : List Markup) {item : Markup} (spelled : item.Spelled) :
    scan (seen, .data) (writeItem item) = some (seen ++ [item], .data) := by
  cases item with
  | char c => exact scan_escapeChar seen c
  | closing name =>
      unfold writeItem
      simp only [List.cons_append, List.nil_append]
      apply scan_cons rfl
      apply scan_cons rfl
      exact scan_through (scan_closingName seen [] name spelled) rfl
  | opening name attributes =>
      obtain ⟨solid, letters, keys⟩ := spelled
      obtain ⟨first, rest, rfl⟩ := List.exists_cons_of_ne_nil solid
      have letter := letters first (.head _)
      have opens : Mode.tagOpen.step seen first = some (seen, .openingName [first]) := by
        dsimp only [Mode.step]
        rw [if_neg (isLetter_ne letter rfl), if_pos letter]
      obtain ⟨last, inside, scanned⟩ := scan_attributes seen .named attributes keys
      have closes : last.step seen '>' = some (seen ++ [.opening (first :: rest) attributes], .data) := by
        rw [List.nil_append] at inside
        cases inside with
        | named => rfl
        | given => rfl
      unfold writeItem
      simp only [List.append_assoc, List.cons_append, List.nil_append]
      apply scan_cons rfl
      apply scan_cons opens
      apply scan_through (scan_openingName seen [first] rest fun c later => letters c (.tail _ later))
      apply scan_through scanned
      exact scan_cons closes rfl

theorem scan_write (seen : List Markup) {items : List Markup} (spelled : ∀ item ∈ items, item.Spelled) :
    scan (seen, .data) (write items) = some (seen ++ items, .data) := by
  induction items generalizing seen with
  | nil => simp [write, scan]
  | cons item rest ih =>
      have behind := ih (seen ++ [item]) fun other later => spelled other (.tail _ later)
      rw [List.append_assoc] at behind
      exact scan_through (scan_writeItem seen (spelled item (.head _))) behind

/-- What is written is read back, whatever characters it is made of. -/
theorem read_write {items : List Markup} (spelled : ∀ item ∈ items, item.Spelled) : read (write items) = some items := by
  unfold read
  rw [scan_write [] spelled]
  rfl

end Markup

end Library
