import Tiber.Library.JsonTree
import Tiber.Library.Text

/-! The sorting encoder tells documents apart.

No encoded value begins another one in a way that what follows could not tell, so a text determines the
value at its start. Two values are written alike exactly when they are the same.
-/

set_option autoImplicit false

namespace Library

namespace JsonTree

/-! ## Strings -/

theorem hexText_length (count n : Nat) : (hexText count n).length = count := by
  rw [hexText, List.length_reverse, List.length_map]
  induction count generalizing n with
  | zero => rfl
  | succ count ih => rw [Spelling.hexDigits, List.length_cons, ih]

theorem hexText_injective {count first second : Nat} (small : first < 16 ^ count) (small' : second < 16 ^ count)
    (same : hexText count first = hexText count second) : first = second := by
  -- read both back and compare the numbers
  have digits := congrArg (fun text => (text.reverse.mapM' Spelling.hexValue).map (Nat.ofDigits 16)) same
  simp only [hexText, List.reverse_reverse, Spelling.mapM_hexValue _ (Spelling.hexDigits_lt _ _), Option.map_some,
    Spelling.ofDigits_hexDigits _ _ small, Spelling.ofDigits_hexDigits _ _ small'] at digits
  exact Option.some.inj digits

theorem unicodeEscape_append {first second : Nat} {rest others : Text} (small : first < 0x10000)
    (small' : second < 0x10000) (same : unicodeEscape first ++ rest = unicodeEscape second ++ others) :
    first = second ∧ rest = others := by
  simp only [unicodeEscape, List.cons_append, List.cons.injEq, true_and] at same
  obtain ⟨digits, behind⟩ := List.append_inj same (by rw [hexText_length, hexText_length])
  exact ⟨hexText_injective small small' digits, behind⟩

def shortEscape : Char → Option Char
  | '"' => some '"'
  | '\\' => some '\\'
  | 'n' => some '\n'
  | 'r' => some '\r'
  | 't' => some '\t'
  | 'f' => some (Char.ofNat 12)
  | 'b' => some (Char.ofNat 8)
  | _ => none

/-- The four forms a character is written in. -/
inductive Escaped (c : Char) : Text → Prop where
  | short {letter : Char} : shortEscape letter = some c → Escaped c ['\\', letter]
  | plain : c ≠ '\\' → c ≠ '"' → Escaped c [c]
  | unit : c.toNat < 0x10000 → Escaped c (unicodeEscape c.toNat)
  | pair : 0x10000 ≤ c.toNat → Escaped c (unicodeEscape (0xd800 + (c.toNat - 0x10000) / 1024) ++
      unicodeEscape (0xdc00 + (c.toNat - 0x10000) % 1024))

theorem escapeChar_escaped (c : Char) : Escaped c (escapeChar c) := by
  unfold escapeChar
  split_ifs with quote slash newline return' tab feed back printable small
  · exact .short (by rw [quote]; rfl)
  · exact .short (by rw [slash]; rfl)
  · exact .short (by rw [newline]; rfl)
  · exact .short (by rw [return']; rfl)
  · exact .short (by rw [tab]; rfl)
  · exact .short (by rw [← Char.ofNat_toNat c, feed]; rfl)
  · exact .short (by rw [← Char.ofNat_toNat c, back]; rfl)
  · exact .plain slash quote
  · exact .unit small
  · exact .pair (Nat.le_of_not_lt small)

theorem short_ne_unicode {c letter : Char} {number : Nat} {rest others : Text} (short : shortEscape letter = some c) :
    ['\\', letter] ++ rest ≠ unicodeEscape number ++ others := by
  intro same
  simp only [unicodeEscape, List.cons_append, List.nil_append, List.cons.injEq, true_and] at same
  rw [same.1] at short
  cases short

theorem plain_ne_unicode {c : Char} {number : Nat} {rest others : Text} (slash : c ≠ '\\') :
    [c] ++ rest ≠ unicodeEscape number ++ others := by
  intro same
  simp only [unicodeEscape, List.cons_append, List.nil_append, List.cons.injEq] at same
  exact slash same.1

theorem toNat_range (c : Char) : c.toNat < 0xd800 ∨ 0xdfff < c.toNat ∧ c.toNat < 0x110000 := c.valid

/-- What a character is written as tells it, and where it ends. -/
theorem Escaped.append {c d : Char} {text other rest others : Text} (written : Escaped c text)
    (written' : Escaped d other) (same : text ++ rest = other ++ others) : c = d ∧ rest = others := by
  have char {c d : Char} (number : c.toNat = d.toNat) : c = d := Char.toNat_inj.mp number
  have range := toNat_range c
  have range' := toNat_range d
  -- the four forms against each other: a backslash, the letter behind it and the hexadecimal digits tell them apart
  cases written with
  | short letter =>
      cases written' with
      | short letter' =>
          simp only [List.cons_append, List.nil_append, List.cons.injEq, true_and] at same
          obtain ⟨rfl, rest⟩ := same
          exact ⟨Option.some.inj (letter.symm.trans letter'), rest⟩
      | plain slash quote =>
          simp only [List.cons_append, List.nil_append, List.cons.injEq] at same
          exact absurd same.1.symm slash
      | unit small => exact absurd same (short_ne_unicode letter)
      | pair large =>
          rw [List.append_assoc] at same
          exact absurd same (short_ne_unicode letter)
  | plain slash quote =>
      cases written' with
      | short letter' =>
          simp only [List.cons_append, List.nil_append, List.cons.injEq] at same
          exact absurd same.1 slash
      | plain slash' quote' =>
          simp only [List.cons_append, List.nil_append, List.cons.injEq] at same
          exact same
      | unit small => exact absurd same (plain_ne_unicode slash)
      | pair large =>
          rw [List.append_assoc] at same
          exact absurd same (plain_ne_unicode slash)
  | unit small =>
      cases written' with
      | short letter' => exact absurd same.symm (short_ne_unicode letter')
      | plain slash' quote' => exact absurd same.symm (plain_ne_unicode slash')
      | unit small' =>
          obtain ⟨number, behind⟩ := unicodeEscape_append small small' same
          exact ⟨char number, behind⟩
      | pair large' =>
          -- no character is a surrogate
          rw [List.append_assoc] at same
          obtain ⟨number, -⟩ := unicodeEscape_append small (by omega) same
          omega
  | pair large =>
      rw [List.append_assoc] at same
      cases written' with
      | short letter' => exact absurd same.symm (short_ne_unicode letter')
      | plain slash' quote' => exact absurd same.symm (plain_ne_unicode slash')
      | unit small' =>
          obtain ⟨number, -⟩ := unicodeEscape_append (by omega) small' same
          omega
      | pair large' =>
          rw [List.append_assoc] at same
          obtain ⟨high, behind⟩ := unicodeEscape_append (by omega) (by omega) same
          obtain ⟨low, behind⟩ := unicodeEscape_append (by omega) (by omega) behind
          exact ⟨char (by omega), behind⟩

theorem Escaped.head {c : Char} {text : Text} (written : Escaped c text) : ∃ first rest, text = first :: rest ∧ first ≠ '"' := by
  cases written with
  | short letter => exact ⟨_, _, rfl, by decide⟩
  | plain slash quote => exact ⟨_, _, rfl, quote⟩
  | unit small => exact ⟨_, _, rfl, by decide⟩
  | pair large => exact ⟨_, _, rfl, by decide⟩

theorem quoted_append {text other rest others : Text} (same : quoted text ++ rest = quoted other ++ others) :
    text = other ∧ rest = others := by
  simp only [quoted, List.cons_append, List.cons.injEq, true_and, List.append_assoc, List.nil_append] at same
  induction text generalizing other with
  | nil =>
      cases other with
      | nil => exact ⟨rfl, by simpa using same⟩
      | cons d other =>
          obtain ⟨first, behind, written, apart⟩ := (escapeChar_escaped d).head
          simp only [List.flatMap_nil, List.nil_append, List.flatMap_cons, written, List.cons_append, List.cons.injEq] at same
          exact absurd same.1.symm apart
  | cons c text ih =>
      cases other with
      | nil =>
          obtain ⟨first, behind, written, apart⟩ := (escapeChar_escaped c).head
          simp only [List.flatMap_nil, List.nil_append, List.flatMap_cons, written, List.cons_append, List.cons.injEq] at same
          exact absurd same.1 apart
      | cons d other =>
          simp only [List.flatMap_cons, List.append_assoc] at same
          obtain ⟨rfl, behind⟩ := (escapeChar_escaped c).append (escapeChar_escaped d) same
          obtain ⟨rfl, rest⟩ := ih behind
          exact ⟨rfl, rest⟩

/-! ## Numbers -/

theorem decimal_chars {n : Nat} {c : Char} (member : c ∈ decimal n) : c.isDigit = true := by
  simp only [decimal, List.mem_reverse, List.mem_map] at member
  obtain ⟨digit, known, rfl⟩ := member
  have digits : ∀ digit < 10, (Nat.digitChar digit).isDigit = true := by decide
  exact digits digit (Nat.digits_lt_base (by decide) known)

theorem decimal_digits (n : Nat) : (decimal n).reverse.map (fun c => c.toNat - 48) = Nat.digits 10 n := by
  have value : ∀ digit < 10, (Nat.digitChar digit).toNat - 48 = digit := by decide
  rw [decimal, List.reverse_reverse, List.map_map]
  conv_rhs => rw [← List.map_id (Nat.digits 10 n)]
  exact List.map_congr_left fun digit known => value digit (Nat.digits_lt_base (by decide) known)

theorem decimal_injective {first second : Nat} (same : decimal first = decimal second) : first = second :=
  Nat.digits_inj_iff.mp (by rw [← decimal_digits first, ← decimal_digits second, same])

theorem decimal_ne_nil (n : Nat) : decimal (n + 1) ≠ [] := by
  simp [decimal]

theorem intText_chars {n : Int} {c : Char} (member : c ∈ intText n) : c.isDigit = true ∨ c = '-' := by
  unfold intText at member
  split at member
  · obtain rfl := List.mem_singleton.mp member
    exact .inl rfl
  · exact .inl (decimal_chars member)
  · rcases List.mem_cons.mp member with sign | digit
    · exact .inr sign
    · exact .inl (decimal_chars digit)

theorem intText_ne_nil (n : Int) : intText n ≠ [] := by
  unfold intText
  split
  · exact List.cons_ne_nil _ _
  · exact decimal_ne_nil _
  · exact List.cons_ne_nil _ _

theorem decimal_ne_zero (n : Nat) : decimal (n + 1) ≠ ['0'] := by
  intro zero
  have digits := decimal_digits (n + 1)
  rw [zero] at digits
  have value := Nat.ofDigits_digits 10 (n + 1)
  rw [← digits] at value
  simp at value

theorem intText_injective {first second : Int} (same : intText first = intText second) : first = second := by
  -- a sign is no digit
  have unsigned {n : Nat} {rest : Text} : decimal n ≠ '-' :: rest := by
    intro signed
    have digit : ('-').isDigit = true := decimal_chars (signed ▸ List.mem_cons_self ..)
    cases digit
  unfold intText at same
  split at same <;> split at same
  · rfl
  · exact absurd same.symm (decimal_ne_zero _)
  · cases same
  · exact absurd same (decimal_ne_zero _)
  · rw [Nat.succ.inj (decimal_injective same)]
  · exact absurd same unsigned
  · cases same
  · exact absurd same.symm unsigned
  · rw [Nat.succ.inj (decimal_injective (List.cons.inj same).2)]

theorem numberChar_of_int {n : Int} {c : Char} (member : c ∈ intText n) : numberChar c = true := by
  rcases intText_chars member with digit | rfl
  · simp [numberChar, digit]
  · rfl

theorem intText_ne_fractional (n : Int) (number : Fractional) : intText n ≠ number.text := by
  intro same
  obtain ⟨c, inside, mark⟩ := List.any_eq_true.mp number.fraction
  have digit := intText_chars (same ▸ inside)
  rcases (by simpa using mark : c = '.' ∨ c = 'e') with rfl | rfl <;> revert digit <;> decide

/-! ## Lists of texts -/

theorem separated_cons (first : Text) (rest : List Text) : separated (first :: rest) =
    first ++ match rest with
      | [] => []
      | _ => ',' :: separated rest := by
  cases rest with
  | nil => simp [separated]
  | cons second more => rfl

section
variable {stop : Text → Prop} {close : Char}

theorem separated_append (comma : ∀ rest, stop (',' :: rest)) (ends : ∀ rest, stop (close :: rest)) (apart : close ≠ ',')
    {first second : List Text} {rest others : Text}
    (free : ∀ text ∈ first, ∀ other ∈ second, ∀ behind after, stop behind → stop after →
      text ++ behind = other ++ after → text = other ∧ behind = after)
    (begins : ∀ text ∈ first ++ second, ∃ head tail, text = head :: tail ∧ head ≠ close)
    (same : separated first ++ close :: rest = separated second ++ close :: others) :
    first = second ∧ rest = others := by
  induction first generalizing second with
  | nil =>
      cases second with
      | nil => exact ⟨rfl, by simpa [separated] using same⟩
      | cons other second =>
          obtain ⟨head, tail, rfl, different⟩ := begins other (by simp)
          rw [separated_cons] at same
          simp only [separated, List.nil_append, List.cons_append, List.cons.injEq] at same
          exact absurd same.1.symm different
  | cons text first ih =>
      cases second with
      | nil =>
          obtain ⟨head, tail, rfl, different⟩ := begins text (by simp)
          rw [separated_cons] at same
          simp only [separated, List.nil_append, List.cons_append, List.cons.injEq] at same
          exact absurd same.1 different
      | cons other second =>
          rw [separated_cons, separated_cons, List.append_assoc, List.append_assoc] at same
          -- behind the first text stands a comma or the closing mark, so it ends in both at the same place
          have here := free text (.head _) other (.head _)
          cases first with
          | nil =>
              cases second with
              | nil =>
                  obtain ⟨rfl, behind⟩ := here _ _ (ends _) (ends _) same
                  exact ⟨rfl, (List.cons.inj behind).2⟩
              | cons next second =>
                  obtain ⟨-, behind⟩ := here _ _ (ends _) (comma _) same
                  exact absurd (List.cons.inj behind).1 apart
          | cons next first =>
              cases second with
              | nil =>
                  obtain ⟨-, behind⟩ := here _ _ (comma _) (ends _) same
                  exact absurd (List.cons.inj behind).1.symm apart
              | cons last second =>
                  obtain ⟨rfl, behind⟩ := here _ _ (comma _) (comma _) same
                  obtain ⟨rest', done⟩ := ih (fun text listed other there => free text (.tail _ listed) other (.tail _ there))
                    (fun text listed => begins text (by simp at listed ⊢; tauto)) (List.cons.inj behind).2
                  exact ⟨by rw [rest'], done⟩

end

/-! ## Values -/

def Stop (rest : Text) : Prop := ∀ c ∈ rest.head?, numberChar c = false

theorem stop_cons {c : Char} (mark : numberChar c = false) (rest : Text) : Stop (c :: rest) := by
  intro first held
  cases held
  exact mark

def mark : JsonTree → Char
  | .null => 'n'
  | .bool true => 't'
  | .bool false => 'f'
  | .int _ => '0'
  | .float _ => '0'
  | .string _ => '"'
  | .array _ => '['
  | .object _ => '\x7b'

def markOf (c : Char) : Char := if numberChar c then '0' else c

theorem dumps_head (tree : JsonTree) : ∃ first rest, dumps tree = first :: rest ∧ markOf first = mark tree := by
  have number {text : Text} (solid : text ≠ []) (chars : ∀ c ∈ text, numberChar c = true) :
      ∃ first rest, text = first :: rest ∧ markOf first = '0' := by
    obtain ⟨first, rest, rfl⟩ := List.exists_cons_of_ne_nil solid
    exact ⟨first, rest, rfl, by rw [markOf, if_pos (chars first (.head _))]⟩
  cases tree with
  | null => exact ⟨_, _, rfl, rfl⟩
  | bool value => cases value <;> exact ⟨_, _, rfl, rfl⟩
  | int n => exact number (intText_ne_nil n) fun c inside => numberChar_of_int inside
  | float literal =>
      refine number (fun empty => ?_) fun c inside => List.all_eq_true.mp literal.solid c inside
      have fraction := literal.fraction
      rw [show literal.text = [] from empty] at fraction
      cases fraction
  | string text => exact ⟨_, _, rfl, rfl⟩
  | array items => exact ⟨_, _, rfl, rfl⟩
  | object members => exact ⟨_, _, rfl, rfl⟩

theorem mark_eq {tree other : JsonTree} {rest others : Text} (same : dumps tree ++ rest = dumps other ++ others) :
    mark tree = mark other := by
  obtain ⟨first, tail, written, begins⟩ := dumps_head tree
  obtain ⟨first', tail', written', begins'⟩ := dumps_head other
  rw [written, written'] at same
  rw [← begins, ← begins', (List.cons.inj same).1]

theorem mark_of_dumps {tree other : JsonTree} (same : dumps tree = dumps other) : mark tree = mark other :=
  mark_eq (congrArg (· ++ []) same)

theorem of_mark_null {tree : JsonTree} (kind : 'n' = mark tree) : tree = .null := by
  cases tree with
  | null => rfl
  | bool value => cases value <;> cases kind
  | _ => cases kind

theorem of_mark_bool {value : Bool} {tree : JsonTree} (kind : mark (.bool value) = mark tree) : tree = .bool value := by
  cases tree with
  | bool other => cases value <;> cases other <;> first | rfl | cases kind
  | _ => cases value <;> cases kind

theorem of_mark_number {tree : JsonTree} (kind : '0' = mark tree) :
    (∃ n, tree = .int n) ∨ ∃ number, tree = .float number := by
  cases tree with
  | int n => exact .inl ⟨n, rfl⟩
  | float number => exact .inr ⟨number, rfl⟩
  | bool value => cases value <;> cases kind
  | _ => cases kind

theorem of_mark_string {tree : JsonTree} (kind : '"' = mark tree) : ∃ text, tree = .string text := by
  cases tree with
  | string text => exact ⟨text, rfl⟩
  | bool value => cases value <;> cases kind
  | _ => cases kind

theorem of_mark_array {tree : JsonTree} (kind : '[' = mark tree) : ∃ items, tree = .array items := by
  cases tree with
  | array items => exact ⟨items, rfl⟩
  | bool value => cases value <;> cases kind
  | _ => cases kind

theorem of_mark_object {tree : JsonTree} (kind : '\x7b' = mark tree) : ∃ members, tree = .object members := by
  cases tree with
  | object members => exact ⟨members, rfl⟩
  | bool value => cases value <;> cases kind
  | _ => cases kind

/-- A text after which any value's text that begins alike is the same. -/
def Free (text : Text) : Prop := ∀ (other : JsonTree) (rest others : Text), Stop rest → Stop others →
  text ++ rest = dumps other ++ others → text = dumps other ∧ rest = others

theorem number_append {text other rest others : Text} (chars : ∀ c ∈ text, numberChar c = true)
    (chars' : ∀ c ∈ other, numberChar c = true) (stop : Stop rest) (stop' : Stop others)
    (same : text ++ rest = other ++ others) : text = other ∧ rest = others := by
  -- a number goes on for as long as its characters do
  have front := takeWhile_stop chars stop
  rw [same, takeWhile_stop chars' stop'] at front
  subst front
  exact ⟨rfl, List.append_cancel_left same⟩

theorem number_chars {tree : JsonTree} (number : mark tree = '0') : ∀ c ∈ dumps tree, numberChar c = true := by
  cases tree with
  | int n => exact fun c inside => numberChar_of_int inside
  | float literal => exact fun c inside => List.all_eq_true.mp literal.solid c inside
  | bool value => cases value <;> cases number
  | _ => cases number

theorem mem_dumpsItems {items : List JsonTree} {text : Text} :
    text ∈ dumpsItems items ↔ ∃ item ∈ items, text = dumps item := by
  induction items with
  | nil => simp [dumpsItems]
  | cons item rest ih => simp [dumpsItems, ih]

theorem mem_dumpsMembers {members : List (Text × JsonTree)} {member : Text × Text} :
    member ∈ dumpsMembers members ↔ ∃ value, (member.1, value) ∈ members ∧ member.2 = dumps value := by
  induction members with
  | nil => simp [dumpsMembers]
  | cons first rest ih =>
      obtain ⟨name, value⟩ := first
      obtain ⟨own, text⟩ := member
      simp only [dumpsMembers, List.mem_cons, Prod.mk.injEq, ih]
      constructor
      · rintro (⟨rfl, rfl⟩ | ⟨other, inside, rfl⟩)
        · exact ⟨value, .inl ⟨rfl, rfl⟩, rfl⟩
        · exact ⟨other, .inr inside, rfl⟩
      · rintro ⟨other, ⟨rfl, rfl⟩ | inside, rfl⟩
        · exact .inl ⟨rfl, rfl⟩
        · exact .inr ⟨other, inside, rfl⟩

theorem dumps_ne_close {tree : JsonTree} : ∃ head tail, dumps tree = head :: tail ∧ head ≠ ']' := by
  obtain ⟨first, rest, written, begins⟩ := dumps_head tree
  refine ⟨first, rest, written, fun close => ?_⟩
  subst close
  have closing : mark tree = ']' := begins.symm.trans rfl
  cases tree with
  | bool value => cases value <;> cases closing
  | _ => cases closing

theorem array_append {texts : List Text} {others : List JsonTree} {rest behind : Text}
    (free : ∀ text ∈ texts, Free text) (begins : ∀ text ∈ texts, ∃ tree : JsonTree, text = dumps tree)
    (same : '[' :: (separated texts ++ [']']) ++ rest = dumps (.array others) ++ behind) :
    texts = dumpsItems others ∧ rest = behind := by
  rw [dumps] at same
  simp only [List.cons_append, List.append_assoc, List.nil_append, List.cons.injEq, true_and] at same
  refine @separated_append Stop ']' (stop_cons rfl) (stop_cons rfl) (by decide) _ _ _ _ ?_ ?_ same
  · intro text listed other there front after stop stop' equal
    obtain ⟨item, -, rfl⟩ := mem_dumpsItems.mp there
    exact free text listed item front after stop stop' equal
  · intro text listed
    rcases List.mem_append.mp listed with own | there
    · obtain ⟨tree, rfl⟩ := begins text own
      exact dumps_ne_close
    · obtain ⟨item, -, rfl⟩ := mem_dumpsItems.mp there
      exact dumps_ne_close

theorem memberText_append {member other : Text × Text} {rest others : Text} (value : ∃ tree : JsonTree, other.2 = dumps tree)
    (free : Free member.2) (stop : Stop rest) (stop' : Stop others)
    (same : memberText member ++ rest = memberText other ++ others) : member = other ∧ rest = others := by
  obtain ⟨tree, written⟩ := value
  simp only [memberText, List.append_assoc, List.cons_append] at same
  obtain ⟨name, behind⟩ := quoted_append same
  rw [written] at behind
  obtain ⟨text, done⟩ := free tree rest others stop stop' (List.cons.inj behind).2
  exact ⟨Prod.ext name (text.trans written.symm), done⟩

theorem memberText_injective : Function.Injective memberText := by
  intro member other same
  obtain ⟨name, value⟩ := quoted_append same
  exact Prod.ext name (List.cons.inj value).2

theorem mem_sortedMembers {members : List (Text × Text)} {member : Text × Text} :
    member ∈ sortedMembers members ↔ member ∈ members := List.mem_insertionSort _

theorem object_append {members : List (Text × Text)} {others : List (Text × JsonTree)} {rest behind : Text}
    (free : ∀ member ∈ members, Free member.2)
    (same : '\x7b' :: (separated ((sortedMembers members).map memberText) ++ ['\x7d']) ++ rest =
      dumps (.object others) ++ behind) :
    sortedMembers members = sortedMembers (dumpsMembers others) ∧ rest = behind := by
  rw [dumps] at same
  simp only [List.cons_append, List.append_assoc, List.nil_append, List.cons.injEq, true_and] at same
  have begins {member : Text × Text} : ∃ head tail, memberText member = head :: tail ∧ head ≠ '\x7d' :=
    ⟨_, _, rfl, by decide⟩
  obtain ⟨texts, done⟩ := @separated_append Stop '\x7d' (stop_cons rfl) (stop_cons rfl) (by decide) _ _ _ _
    (fun text listed other there front after stop stop' equal => by
      obtain ⟨member, own, rfl⟩ := List.mem_map.mp listed
      obtain ⟨member', here, rfl⟩ := List.mem_map.mp there
      obtain ⟨value, -, written⟩ := mem_dumpsMembers.mp (mem_sortedMembers.mp here)
      obtain ⟨pair, done⟩ := memberText_append ⟨value, written⟩ (free member (mem_sortedMembers.mp own)) stop stop' equal
      exact ⟨congrArg memberText pair, done⟩)
    (fun text listed => by
      rcases List.mem_append.mp listed with own | there
      · obtain ⟨member, -, rfl⟩ := List.mem_map.mp own
        exact begins
      · obtain ⟨member, -, rfl⟩ := List.mem_map.mp there
        exact begins) same
  exact ⟨(List.map_injective_iff.mpr memberText_injective) texts, done⟩

mutual

theorem dumps_free : ∀ tree : JsonTree, Free (dumps tree)
  | .null => fun other rest others stop stop' same => by
      obtain rfl := of_mark_null (mark_eq same)
      exact ⟨rfl, List.append_cancel_left same⟩
  | .bool value => fun other rest others stop stop' same => by
      obtain rfl := of_mark_bool (mark_eq same)
      exact ⟨rfl, List.append_cancel_left same⟩
  | .int n => fun other rest others stop stop' same =>
      number_append (number_chars rfl) (number_chars (mark_eq same).symm) stop stop' same
  | .float number => fun other rest others stop stop' same =>
      number_append (number_chars rfl) (number_chars (mark_eq same).symm) stop stop' same
  | .string text => fun other rest others stop stop' same => by
      obtain ⟨text', rfl⟩ := of_mark_string (mark_eq same)
      obtain ⟨rfl, done⟩ := quoted_append same
      exact ⟨rfl, done⟩
  | .array items => fun other rest others stop stop' same => by
      obtain ⟨items', rfl⟩ := of_mark_array (mark_eq same)
      obtain ⟨texts, done⟩ := array_append (dumpsItems_free items)
        (fun text listed => (mem_dumpsItems.mp listed).imp fun _ held => held.2) same
      exact ⟨by rw [dumps, dumps, texts], done⟩
  | .object members => fun other rest others stop stop' same => by
      obtain ⟨members', rfl⟩ := of_mark_object (mark_eq same)
      obtain ⟨sorted, done⟩ := object_append (dumpsMembers_free members) same
      exact ⟨by rw [dumps, dumps, sorted], done⟩

theorem dumpsItems_free : ∀ items : List JsonTree, ∀ text ∈ dumpsItems items, Free text
  | [] => fun _ impossible => nomatch impossible
  | item :: rest => List.forall_mem_cons.mpr ⟨dumps_free item, dumpsItems_free rest⟩

theorem dumpsMembers_free : ∀ members : List (Text × JsonTree), ∀ member ∈ dumpsMembers members, Free member.2
  | [] => fun _ impossible => nomatch impossible
  | (_, value) :: rest => List.forall_mem_cons.mpr ⟨dumps_free value, dumpsMembers_free rest⟩

end

/-! ## The same value -/

theorem uniqueItems_iff {items : List JsonTree} : UniqueItems items ↔ ∀ item ∈ items, item.UniqueKeys := by
  induction items with
  | nil => exact iff_of_true trivial nofun
  | cons item rest ih => rw [UniqueItems, ih, List.forall_mem_cons]

theorem uniqueMembers_iff {members : List (Text × JsonTree)} :
    UniqueMembers members ↔ ∀ member ∈ members, member.2.UniqueKeys := by
  induction members with
  | nil => exact iff_of_true trivial nofun
  | cons member rest ih => rw [UniqueMembers, ih, List.forall_mem_cons]

theorem dumpsMembers_names (members : List (Text × JsonTree)) :
    (dumpsMembers members).map Prod.fst = members.map Prod.fst := by
  induction members with
  | nil => rfl
  | cons first rest ih => rw [dumpsMembers, List.map_cons, List.map_cons, ih]

theorem dumpsMembers_length (members : List (Text × JsonTree)) : (dumpsMembers members).length = members.length := by
  simpa using congrArg List.length (dumpsMembers_names members)

theorem lookup_of_mem {members : List (Text × JsonTree)} (unique : (members.map Prod.fst).Nodup) {name : Text}
    {value : JsonTree} (listed : (name, value) ∈ members) : members.lookup name = some value := by
  induction members with
  | nil => cases listed
  | cons first rest ih =>
      obtain ⟨own, held⟩ := first
      rw [List.map_cons, List.nodup_cons] at unique
      rcases List.mem_cons.mp listed with here | later
      · cases here
        exact List.lookup_cons_self
      · have other : name ≠ own := fun same =>
          unique.1 (same ▸ List.mem_map.mpr ⟨(name, value), later, rfl⟩)
        rw [List.lookup_cons, beq_false_of_ne other]
        exact ih unique.2 later

theorem mem_of_lookup {members : List (Text × JsonTree)} {name : Text} {value : JsonTree}
    (found : members.lookup name = some value) : (name, value) ∈ members := by
  induction members with
  | nil => cases found
  | cons first rest ih =>
      obtain ⟨own, held⟩ := first
      rw [List.lookup_cons] at found
      split at found
      · next same =>
          cases found
          rw [beq_iff_eq.mp same]
          exact .head _
      · exact .tail _ (ih found)

theorem sortedMembers_eq {members others : List (Text × Text)} (unique : (members.map Prod.fst).Nodup)
    (same : members.Perm others) : sortedMembers members = sortedMembers others := by
  have total : Std.Total fun first second : Text × Text => first.1 ≤ second.1 := ⟨fun a b => le_total a.1 b.1⟩
  have order : IsTrans (Text × Text) fun first second => first.1 ≤ second.1 := ⟨fun a b c => le_trans⟩
  refine List.Perm.eq_of_pairwise ?_ (List.pairwise_insertionSort _ members) (List.pairwise_insertionSort _ others) ?_
  · intro first second listed there below above
    have listed' : first ∈ members := mem_sortedMembers.mp listed
    have there' : second ∈ members := same.mem_iff.mpr (mem_sortedMembers.mp there)
    exact List.inj_on_of_nodup_map unique listed' there' (le_antisymm below above)
  · exact (List.perm_insertionSort _ _).trans (same.trans (List.perm_insertionSort _ _).symm)

mutual

theorem same_of_dumps : ∀ tree other : JsonTree, tree.UniqueKeys → other.UniqueKeys → dumps tree = dumps other → Same tree other
  | .null, other, _, _, same => by
      obtain rfl := of_mark_null (mark_of_dumps same)
      exact trivial
  | .bool value, other, _, _, same => by
      obtain rfl := of_mark_bool (mark_of_dumps same)
      rfl
  | .int n, other, _, _, same => by
      obtain ⟨n', rfl⟩ | ⟨number, rfl⟩ := of_mark_number (mark_of_dumps same)
      · exact intText_injective same
      · exact absurd same (intText_ne_fractional n number)
  | .float number, other, _, _, same => by
      obtain ⟨n, rfl⟩ | ⟨number', rfl⟩ := of_mark_number (mark_of_dumps same)
      · exact absurd same.symm (intText_ne_fractional n number)
      · obtain ⟨text, solid, fraction⟩ := number
        cases same
        rfl
  | .string text, other, _, _, same => by
      obtain ⟨text', rfl⟩ := of_mark_string (mark_of_dumps same)
      exact (quoted_append (congrArg (· ++ []) same)).1
  | .array items, other, unique, unique', same => by
      obtain ⟨others, rfl⟩ := of_mark_array (mark_of_dumps same)
      obtain ⟨texts, -⟩ := array_append (dumpsItems_free items)
        (fun text listed => (mem_dumpsItems.mp listed).imp fun _ held => held.2) (congrArg (· ++ []) same)
      exact sameItems_of_dumps items others unique unique' texts
  | .object members, other, unique, unique', same => by
      obtain ⟨others, rfl⟩ := of_mark_object (mark_of_dumps same)
      obtain ⟨sorted, -⟩ := object_append (dumpsMembers_free members) (congrArg (· ++ []) same)
      -- sorted alike, so the same members in some order
      have first : (sortedMembers (dumpsMembers members)).Perm (dumpsMembers members) :=
        List.perm_insertionSort _ _
      have second : (sortedMembers (dumpsMembers others)).Perm (dumpsMembers others) :=
        List.perm_insertionSort _ _
      rw [sorted] at first
      have shared : (dumpsMembers members).Perm (dumpsMembers others) := first.symm.trans second
      refine ⟨?_, sameMembers_of_dumps members others unique.2 unique' fun member => shared.mem_iff.mp⟩
      rw [← dumpsMembers_length, shared.length_eq, dumpsMembers_length]

theorem sameItems_of_dumps : ∀ items others : List JsonTree, UniqueItems items → UniqueItems others →
    dumpsItems items = dumpsItems others → SameItems items others
  | [], [], _, _, _ => trivial
  | [], _ :: _, _, _, same => nomatch same
  | _ :: _, [], _, _, same => nomatch same
  | item :: rest, other :: others, unique, unique', same =>
      ⟨same_of_dumps item other unique.1 unique'.1 (List.cons.inj same).1,
        sameItems_of_dumps rest others unique.2 unique'.2 (List.cons.inj same).2⟩

theorem sameMembers_of_dumps : ∀ members others : List (Text × JsonTree), UniqueMembers members →
    (JsonTree.object others).UniqueKeys → (∀ member, member ∈ dumpsMembers members → member ∈ dumpsMembers others) →
    SameMembers members others
  | [], _, _, _, _ => trivial
  | (name, value) :: rest, others, unique, unique', inside => by
      obtain ⟨other, listed, written⟩ := mem_dumpsMembers.mp (inside (name, dumps value) (.head _))
      refine ⟨⟨other, lookup_of_mem unique'.1 listed, ?_⟩, ?_⟩
      · exact same_of_dumps value other unique.1 (uniqueMembers_iff.mp unique'.2 _ listed) written
      · exact sameMembers_of_dumps rest others unique.2 unique' fun member later => inside member (.tail _ later)

end

mutual

theorem dumps_of_same : ∀ tree other : JsonTree, tree.UniqueKeys → other.UniqueKeys → Same tree other → dumps tree = dumps other
  | .null, other, _, _, same => by cases other <;> first | rfl | cases same
  | .bool value, other, _, _, same => by cases other <;> first | (cases same; rfl) | cases same
  | .int n, other, _, _, same => by cases other <;> first | (cases same; rfl) | cases same
  | .float number, other, _, _, same => by cases other <;> first | (cases same; rfl) | cases same
  | .string text, other, _, _, same => by cases other <;> first | (cases same; rfl) | cases same
  | .array items, other, unique, unique', same => by
      cases other with
      | array others => rw [dumps, dumps, dumpsItems_of_same items others unique unique' same]
      | _ => cases same
  | .object members, other, unique, unique', same => by
      cases other with
      | object others =>
          -- as many members, each of them among the others, no name twice: the same in some order
          have inside : dumpsMembers members ⊆ dumpsMembers others :=
            dumpsMembers_of_same members others unique.2 unique' same.2
          have names : ((dumpsMembers members).map Prod.fst).Nodup := by rw [dumpsMembers_names]; exact unique.1
          have shared : (dumpsMembers members).Perm (dumpsMembers others) :=
            (List.subperm_of_subset names.of_map inside).perm_of_length_le
              (by rw [dumpsMembers_length, dumpsMembers_length, same.1])
          rw [dumps, dumps, sortedMembers_eq names shared]
      | _ => cases same

theorem dumpsItems_of_same : ∀ items others : List JsonTree, UniqueItems items → UniqueItems others →
    SameItems items others → dumpsItems items = dumpsItems others
  | [], [], _, _, _ => rfl
  | [], _ :: _, _, _, same => nomatch same
  | _ :: _, [], _, _, same => nomatch same
  | item :: rest, other :: others, unique, unique', same => by
      rw [dumpsItems, dumpsItems, dumps_of_same item other unique.1 unique'.1 same.1,
        dumpsItems_of_same rest others unique.2 unique'.2 same.2]

theorem dumpsMembers_of_same : ∀ members others : List (Text × JsonTree), UniqueMembers members →
    (JsonTree.object others).UniqueKeys → SameMembers members others →
    ∀ ⦃member⦄, member ∈ dumpsMembers members → member ∈ dumpsMembers others
  | [], _, _, _, _ => fun _ impossible => nomatch impossible
  | (name, value) :: rest, others, unique, unique', same => by
      intro member listed
      rcases List.mem_cons.mp listed with rfl | later
      · obtain ⟨⟨other, found, equal⟩, -⟩ := same
        have there := mem_of_lookup found
        exact mem_dumpsMembers.mpr ⟨other, there,
          dumps_of_same value other unique.1 (uniqueMembers_iff.mp unique'.2 _ there) equal⟩
      · exact dumpsMembers_of_same rest others unique.2 unique' same.2 later

end

/-- Two values are written alike exactly when they are the same. -/
theorem dumps_eq_iff {tree other : JsonTree} (unique : tree.UniqueKeys) (unique' : other.UniqueKeys) :
    dumps tree = dumps other ↔ Same tree other :=
  ⟨same_of_dumps tree other unique unique', dumps_of_same tree other unique unique'⟩

theorem same_refl {tree : JsonTree} (unique : tree.UniqueKeys) : Same tree tree := (dumps_eq_iff unique unique).mp rfl

end JsonTree

end Library
