import Tiber.Library.Spelling
import Mathlib.Data.List.Sort

/-! JSON documents: the tree a decoder builds, and the text a sorting encoder writes for it. -/

set_option autoImplicit false

namespace Library

def numberChar (c : Char) : Bool := c.isDigit || c == '-' || c == '+' || c == '.' || c == 'e'

/-- A number with a fraction or an exponent, by the text it is written as. -/
structure Fractional where
  text : Text
  solid : text.all numberChar = true
  fraction : text.any (fun c => c == '.' || c == 'e') = true
  deriving DecidableEq

inductive JsonTree where
  | null
  | bool (value : Bool)
  | int (n : Int)
  | float (number : Fractional)
  | string (text : Text)
  | array (items : List JsonTree)
  | object (members : List (Text × JsonTree))

namespace JsonTree

/-! ## Objects as maps -/

mutual

def UniqueKeys : JsonTree → Prop
  | .array items => UniqueItems items
  | .object members => (members.map Prod.fst).Nodup ∧ UniqueMembers members
  | _ => True

def UniqueItems : List JsonTree → Prop
  | [] => True
  | item :: rest => UniqueKeys item ∧ UniqueItems rest

def UniqueMembers : List (Text × JsonTree) → Prop
  | [] => True
  | (_, value) :: rest => UniqueKeys value ∧ UniqueMembers rest

end

mutual

/-- The same value: objects may list their members in another order. -/
def Same : JsonTree → JsonTree → Prop
  | .null, .null => True
  | .bool first, .bool second => first = second
  | .int first, .int second => first = second
  | .float first, .float second => first = second
  | .string first, .string second => first = second
  | .array first, .array second => SameItems first second
  | .object first, .object second => first.length = second.length ∧ SameMembers first second
  | _, _ => False

def SameItems : List JsonTree → List JsonTree → Prop
  | [], [] => True
  | first :: rest, second :: others => Same first second ∧ SameItems rest others
  | _, _ => False

def SameMembers : List (Text × JsonTree) → List (Text × JsonTree) → Prop
  | [], _ => True
  | (name, value) :: rest, others =>
      (∃ other, others.lookup name = some other ∧ Same value other) ∧ SameMembers rest others

end

/-! ## Text -/

def hexText (count n : Nat) : Text := ((Spelling.hexDigits count n).map Spelling.hexChar).reverse

def unicodeEscape (n : Nat) : Text := '\\' :: 'u' :: hexText 4 n

/-- A character inside a quoted string, in ASCII; outside the first plane it is a surrogate pair. -/
def escapeChar (c : Char) : Text :=
  if c = '"' then ['\\', '"']
  else if c = '\\' then ['\\', '\\']
  else if c = '\n' then ['\\', 'n']
  else if c = '\r' then ['\\', 'r']
  else if c = '\t' then ['\\', 't']
  else if c.toNat = 12 then ['\\', 'f']
  else if c.toNat = 8 then ['\\', 'b']
  else if 32 ≤ c.toNat ∧ c.toNat ≤ 126 then [c]
  else if c.toNat < 0x10000 then unicodeEscape c.toNat
  else unicodeEscape (0xd800 + (c.toNat - 0x10000) / 1024) ++ unicodeEscape (0xdc00 + (c.toNat - 0x10000) % 1024)

def quoted (text : Text) : Text := '"' :: (text.flatMap escapeChar ++ ['"'])

def decimal (n : Nat) : Text := ((Nat.digits 10 n).map Nat.digitChar).reverse

def intText : Int → Text
  | .ofNat 0 => ['0']
  | .ofNat (n + 1) => decimal (n + 1)
  | .negSucc n => '-' :: decimal (n + 1)

def separated : List Text → Text
  | [] => []
  | [last] => last
  | first :: second :: rest => first ++ ',' :: separated (second :: rest)

def sortedMembers (members : List (Text × Text)) : List (Text × Text) :=
  members.insertionSort fun first second => first.1 ≤ second.1

def memberText (member : Text × Text) : Text := quoted member.1 ++ ':' :: member.2

mutual

/-- `json.dumps(..., sort_keys=True, separators=(",", ":"))` -/
def dumps : JsonTree → Text
  | .null => "null".toList
  | .bool true => "true".toList
  | .bool false => "false".toList
  | .int n => intText n
  | .float number => number.text
  | .string text => quoted text
  | .array items => '[' :: (separated (dumpsItems items) ++ [']'])
  | .object members => '\x7b' :: (separated ((sortedMembers (dumpsMembers members)).map memberText) ++ ['\x7d'])

def dumpsItems : List JsonTree → List Text
  | [] => []
  | item :: rest => dumps item :: dumpsItems rest

def dumpsMembers : List (Text × JsonTree) → List (Text × Text)
  | [] => []
  | (name, value) :: rest => (name, dumps value) :: dumpsMembers rest

end

end JsonTree

end Library
