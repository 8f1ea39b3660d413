import Mathlib.Data.Nat.Digits.Defs
import Mathlib.Logic.Equiv.Defs
import Tiber.Library.Text

/-! Values written as text and read back: numbers in hexadecimal, and UUIDs. -/

set_option autoImplicit false

namespace Library

/-- How a kind of value is written as text and read back. -/
structure Spelling (α : Type) where
  write : α → Text
  read : Text → Option α
  read_write : ∀ value, read (write value) = some value

namespace Spelling

variable {α β : Type}

theorem write_injective (spelling : Spelling α) : Function.Injective spelling.write := fun first second same => by
  have back := spelling.read_write first
  rw [same, spelling.read_write] at back
  exact (Option.some.inj back).symm

def along (spelling : Spelling β) (same : α ≃ β) : Spelling α where
  write value := spelling.write (same value)
  read text := (spelling.read text).map same.symm
  read_write value := by rw [spelling.read_write, Option.map_some, Equiv.symm_apply_apply]

/-! ## Vocabularies -/

def vocabulary (members : List α) (value : α → Text) (complete : ∀ member, member ∈ members)
    (distinct : Function.Injective value) : Spelling α where
  write := value
  read text := members.find? fun member => value member = text
  read_write wanted := by
    have listed := complete wanted
    clear complete
    induction members with
    | nil => cases listed
    | cons member rest ih =>
        by_cases same : member = wanted
        · subst same
          exact List.find?_cons_of_pos (decide_eq_true rfl)
        · have different : value member ≠ value wanted := fun texts => same (distinct texts)
          rw [List.find?_cons_of_neg (by simpa using different)]
          exact ih ((List.mem_cons.mp listed).resolve_left (Ne.symm same))

def naming [DecidableEq α] (spelling : Spelling α) (named : α) (name : Text)
    (free : ∀ value, spelling.write value ≠ name) : Spelling α where
  write value := if value = named then name else spelling.write value
  read text := if text = name then some named else spelling.read text
  read_write value := by
    by_cases same : value = named
    · rw [if_pos same, if_pos rfl, same]
    · rw [if_neg same, if_neg (free value), spelling.read_write]

/-! ## Hexadecimal -/

def hexChars : List Char := ['0', '1', '2', '3', '4', '5', '6', '7', '8', '9', 'a', 'b', 'c', 'd', 'e', 'f']

def hexChar (digit : Nat) : Char := hexChars.getD digit '0'

def hexValue (c : Char) : Option Nat := hexChars.findIdx? (· = c)

theorem hexValue_hexChar : ∀ digit < 16, hexValue (hexChar digit) = some digit := by decide

def hexDigits : Nat → Nat → List Nat
  | 0, _ => []
  | count + 1, n => n % 16 :: hexDigits count (n / 16)

theorem hexDigits_lt (count n : Nat) : ∀ digit ∈ hexDigits count n, digit < 16 := by
  induction count generalizing n with
  | zero => exact fun _ member => nomatch member
  | succ count ih => exact List.forall_mem_cons.mpr ⟨Nat.mod_lt n (by decide), ih (n / 16)⟩

theorem ofDigits_hexDigits (count n : Nat) (fits : n < 16 ^ count) : Nat.ofDigits 16 (hexDigits count n) = n := by
  induction count generalizing n with
  | zero => rw [Nat.pow_zero, Nat.lt_one_iff] at fits; exact fits.symm
  | succ count ih =>
      rw [Nat.pow_succ] at fits
      rw [hexDigits, Nat.ofDigits_cons, ih (n / 16) (by omega)]
      exact Nat.mod_add_div n 16

theorem mapM_hexValue (digits : List Nat) (small : ∀ digit ∈ digits, digit < 16) :
    (digits.map hexChar).mapM' hexValue = some digits := by
  induction digits with
  | nil => rfl
  | cons digit rest ih =>
      obtain ⟨first, others⟩ := List.forall_mem_cons.mp small
      rw [List.map_cons, List.mapM'_cons, hexValue_hexChar digit first, ih others]
      rfl

def hexCount (width n : Nat) : Nat := max width (n.log2 / 4 + 1)

theorem lt_hexCount (width n : Nat) : n < 16 ^ hexCount width n := by
  have enough : 2 ^ (n.log2 + 1) ≤ 2 ^ (4 * hexCount width n) := by
    refine Nat.pow_le_pow_right (by decide) ?_
    unfold hexCount
    omega
  rw [Nat.pow_mul] at enough
  exact Nat.lt_of_lt_of_le Nat.lt_log2_self enough

def hex (width : Nat) : Spelling Nat where
  write n := ((hexDigits (hexCount width n) n).map hexChar).reverse
  read text := (text.reverse.mapM' hexValue).map (Nat.ofDigits 16)
  read_write n := by
    rw [List.reverse_reverse, mapM_hexValue _ (hexDigits_lt _ _), Option.map_some,
      ofDigits_hexDigits _ _ (lt_hexCount width n)]

theorem hex_chars {width n : Nat} {c : Char} (member : c ∈ (hex width).write n) : c ∈ hexChars := by
  simp only [hex, List.mem_reverse, List.mem_map] at member
  obtain ⟨digit, known, rfl⟩ := member
  have digits : ∀ digit < 16, hexChar digit ∈ hexChars := by decide
  exact digits digit (hexDigits_lt _ _ digit known)

/-! ## Marks between groups -/

/-- The mark behind each group of the given lengths. -/
def marked (mark : Char) : List Nat → Text → Text
  | [], text => text
  | length :: rest, text => text.take length ++ mark :: marked mark rest (text.drop length)

theorem filter_marked (mark : Char) (groups : List Nat) (text : Text) (absent : mark ∉ text) :
    (marked mark groups text).filter (· ≠ mark) = text := by
  have clean (part : Text) (within : part ⊆ text) : part.filter (· ≠ mark) = part :=
    List.filter_eq_self.mpr fun c member => decide_eq_true fun same => absent (same ▸ within member)
  induction groups generalizing text with
  | nil => exact clean text (List.Subset.refl _)
  | cons length rest ih =>
      have later := ih (text.drop length) (fun member => absent (List.mem_of_mem_drop member))
        fun part within => clean part (List.Subset.trans within (List.drop_subset ..))
      rw [marked, List.filter_append, List.filter_cons_of_neg (by simp), clean _ (List.take_subset ..), later,
        List.take_append_drop]

def grouped (spelling : Spelling α) (mark : Char) (groups : List Nat)
    (absent : ∀ value, mark ∉ spelling.write value) : Spelling α where
  write value := marked mark groups (spelling.write value)
  read text := spelling.read (text.filter (· ≠ mark))
  read_write value := by rw [filter_marked mark groups _ (absent value), spelling.read_write]

/-- The spelling of a UUID: 32 hexadecimal digits in five groups. -/
def uuid : Spelling Nat := (hex 32).grouped '-' [8, 4, 4, 4] fun _ member => absurd (hex_chars member) (by decide)

example : uuid.write 0x0123456789abcdef0123456789abcdef = "01234567-89ab-cdef-0123-456789abcdef".toList := by decide

end Spelling

end Library
