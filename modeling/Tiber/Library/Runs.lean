import Mathlib.Computability.RegularExpressions
import Tiber.Library.Retraction
import Tiber.Library.Text

/-! Longest runs of a class of elements, and words joined by a separator as a regular language. -/

set_option autoImplicit false

namespace Library

variable {α : Type}

/-- What a scan for `[class]+` finds, from left to right. -/
def runs (keep : α → Bool) : List α → List (List α)
  | [] => []
  | c :: rest =>
      if keep c then (c :: rest.takeWhile keep) :: runs keep (rest.dropWhile keep) else runs keep rest
termination_by text => text.length
decreasing_by
  · exact Nat.lt_succ_of_le (List.dropWhile_suffix keep).length_le
  · exact Nat.lt_succ_self _

theorem runs_solid (keep : α → Bool) (text : List α) :
    ∀ run ∈ runs keep text, run ≠ [] ∧ ∀ c ∈ run, keep c = true := by
  fun_induction runs keep text with
  | case1 => exact fun run member => nomatch member
  | case2 c rest kept ih =>
      intro run member
      rcases List.mem_cons.mp member with rfl | later
      · refine ⟨List.cons_ne_nil _ _, fun d inside => ?_⟩
        rcases List.mem_cons.mp inside with rfl | tail
        · exact kept
        · exact List.all_eq_true.mp List.all_takeWhile d tail
      · exact ih run later
  | case3 c rest skipped ih => exact ih

theorem runs_skip {keep : α → Bool} {c : α} (skipped : keep c = false) (rest : List α) :
    runs keep (c :: rest) = runs keep rest := by
  simp [runs, skipped]

/-- A solid word is the first run when the text ends behind it or goes on with something else. -/
theorem runs_append {keep : α → Bool} {word rest : List α} (solid : word ≠ []) (kept : ∀ c ∈ word, keep c = true)
    (stop : ∀ c ∈ rest.head?, keep c = false) : runs keep (word ++ rest) = word :: runs keep rest := by
  cases word with
  | nil => exact absurd rfl solid
  | cons first tail =>
      -- the run stops where the word does
      have later : ∀ c ∈ tail, keep c = true := fun c inside => kept c (.tail _ inside)
      rw [List.cons_append, runs, if_pos (kept first (.head _)), takeWhile_stop later stop, dropWhile_stop later stop]

/-- The runs of solid words, joined by something outside the class, are the words. -/
theorem runs_intercalate {keep : α → Bool} {separator : α} {words : List (List α)} (outside : keep separator = false)
    (each : ∀ word ∈ words, word ≠ [] ∧ ∀ c ∈ word, keep c = true) :
    runs keep (List.intercalate [separator] words) = words := by
  induction words with
  | nil => simp [runs]
  | cons first others ih =>
      obtain ⟨solid, kept⟩ := each first (.head _)
      have rest := ih fun word member => each word (.tail _ member)
      cases others with
      | nil =>
          have alone : runs keep (first ++ []) = first :: runs keep [] :=
            runs_append solid kept fun c ended => nomatch ended
          simpa [runs] using alone
      | cons second more =>
          -- the separator ends the first word, and the next run begins behind it
          rw [List.intercalate_cons_cons, List.append_assoc, List.singleton_append,
            runs_append solid kept (by simpa using outside), runs_skip outside, rest]

def oneOf (members : List α) : RegularExpression α :=
  members.foldr (fun c others => .char c + others) 0

def oneOrMoreOf (members : List α) : RegularExpression α := oneOf members * (oneOf members).star

theorem mem_oneOf {members : List α} {c : α} (listed : c ∈ members) : [c] ∈ (oneOf members).matches' := by
  induction members with
  | nil => cases listed
  | cons first others ih =>
      rw [oneOf, List.foldr_cons, RegularExpression.matches'_add, Language.mem_add]
      rcases List.mem_cons.mp listed with rfl | later
      · exact .inl rfl
      · exact .inr (ih later)

theorem mem_star_oneOf {members : List α} {word : List α} (listed : ∀ c ∈ word, c ∈ members) :
    word ∈ (oneOf members).star.matches' := by
  rw [RegularExpression.matches'_star, Language.mem_kstar]
  have spelled : (word.map fun c => [c]).flatten = word := by
    induction word with
    | nil => rfl
    | cons c rest ih => rw [List.map_cons, List.flatten_cons, ih fun d inside => listed d (.tail _ inside)]; rfl
  refine ⟨word.map fun c => [c], spelled.symm, fun one member => ?_⟩
  obtain ⟨c, inside, rfl⟩ := List.mem_map.mp member
  exact mem_oneOf (listed c inside)

theorem mem_oneOrMoreOf {members word : List α} (solid : word ≠ []) (listed : ∀ c ∈ word, c ∈ members) :
    word ∈ (oneOrMoreOf members).matches' := by
  obtain ⟨first, rest, rfl⟩ := List.exists_cons_of_ne_nil solid
  rw [oneOrMoreOf, RegularExpression.matches'_mul, Language.mem_mul]
  exact ⟨[first], mem_oneOf (listed first (.head _)), rest,
    mem_star_oneOf fun c inside => listed c (.tail _ inside), rfl⟩

theorem eq_of_mem_oneOf {members word : List α} (found : word ∈ (oneOf members).matches') :
    ∃ c ∈ members, word = [c] := by
  induction members with
  | nil => cases found
  | cons first others ih =>
      rw [oneOf, List.foldr_cons, RegularExpression.matches'_add, Language.mem_add] at found
      cases found with
      | inl same => exact ⟨first, .head _, same⟩
      | inr later =>
          obtain ⟨c, listed, same⟩ := ih later
          exact ⟨c, .tail _ listed, same⟩

theorem listed_of_mem_star {members word : List α} (found : word ∈ (oneOf members).star.matches') :
    ∀ c ∈ word, c ∈ members := by
  rw [RegularExpression.matches'_star, Language.mem_kstar] at found
  obtain ⟨parts, rfl, each⟩ := found
  intro c inside
  obtain ⟨part, member, within⟩ := List.mem_flatten.mp inside
  obtain ⟨d, listed, rfl⟩ := eq_of_mem_oneOf (each part member)
  rwa [List.mem_singleton.mp within]

theorem mem_oneOrMoreOf_iff {members word : List α} :
    word ∈ (oneOrMoreOf members).matches' ↔ word ≠ [] ∧ ∀ c ∈ word, c ∈ members := by
  constructor
  · intro found
    rw [oneOrMoreOf, RegularExpression.matches'_mul, Language.mem_mul] at found
    obtain ⟨front, one, rest, more, rfl⟩ := found
    obtain ⟨first, listed, rfl⟩ := eq_of_mem_oneOf one
    refine ⟨List.cons_ne_nil _ _, fun c inside => ?_⟩
    cases inside with
    | head => exact listed
    | tail _ later => exact listed_of_mem_star more c later
  · exact fun ⟨solid, listed⟩ => mem_oneOrMoreOf solid listed

/-- `word(separator word)*` -/
def joined (word : RegularExpression α) (separator : α) : RegularExpression α :=
  word * (RegularExpression.char separator * word).star

theorem intercalate_cons (separator first : List α) (others : List (List α)) :
    List.intercalate separator (first :: others) = first ++ (others.map fun word => separator ++ word).flatten := by
  induction others generalizing first with
  | nil => simp [List.intercalate]
  | cons second more ih =>
      have rest := ih second
      rw [List.intercalate] at rest ⊢
      rw [List.intersperse_cons_cons, List.flatten_cons, List.flatten_cons, rest, List.map_cons, List.flatten_cons,
        List.append_assoc]

theorem intercalate_mem_joined {word : RegularExpression α} {separator : α} {words : List (List α)}
    (some_word : words ≠ []) (each : ∀ one ∈ words, one ∈ word.matches') :
    List.intercalate [separator] words ∈ (joined word separator).matches' := by
  obtain ⟨first, others, rfl⟩ := List.exists_cons_of_ne_nil some_word
  rw [intercalate_cons, joined, RegularExpression.matches'_mul, RegularExpression.matches'_star]
  refine Language.append_mem_mul (each first (.head _)) (Language.join_mem_kstar fun next listed => ?_)
  obtain ⟨one, member, rfl⟩ := List.mem_map.mp listed
  exact Language.append_mem_mul rfl (each one (.tail _ member))

theorem spelled_of_mem_star {word : RegularExpression α} {separator : α} {text : List α}
    (found : text ∈ (RegularExpression.char separator * word).star.matches') :
    ∃ words : List (List α), (∀ one ∈ words, one ∈ word.matches') ∧
      text = (words.map fun one => [separator] ++ one).flatten := by
  rw [RegularExpression.matches'_star, Language.mem_kstar] at found
  obtain ⟨parts, rfl, each⟩ := found
  -- each round of the star is a separator and one word
  induction parts with
  | nil => exact ⟨[], List.forall_mem_nil _, rfl⟩
  | cons part others ih =>
      obtain ⟨words, matched, spelled⟩ := ih fun next member => each next (.tail _ member)
      have split := each part (.head _)
      rw [RegularExpression.matches'_mul, Language.mem_mul] at split
      obtain ⟨mark, marked, one, fits, rfl⟩ := split
      obtain rfl : mark = [separator] := marked
      have fit : ∀ next ∈ one :: words, next ∈ word.matches' := List.forall_mem_cons.mpr ⟨fits, matched⟩
      exact ⟨one :: words, fit, by rw [List.flatten_cons, spelled]; rfl⟩

theorem mem_joined_iff {word : RegularExpression α} {separator : α} {text : List α} :
    text ∈ (joined word separator).matches' ↔
      ∃ words : List (List α), words ≠ [] ∧ (∀ one ∈ words, one ∈ word.matches') ∧
        text = List.intercalate [separator] words := by
  constructor
  · intro found
    rw [joined, RegularExpression.matches'_mul, Language.mem_mul] at found
    obtain ⟨first, fits, rest, more, rfl⟩ := found
    obtain ⟨others, each, rfl⟩ := spelled_of_mem_star more
    have fit : ∀ one ∈ first :: others, one ∈ word.matches' := List.forall_mem_cons.mpr ⟨fits, each⟩
    exact ⟨first :: others, List.cons_ne_nil _ _, fit, (intercalate_cons ..).symm⟩
  · rintro ⟨words, some_word, each, rfl⟩
    exact intercalate_mem_joined some_word each

theorem listed_of_mem_joined {members text : List α} {separator : α}
    (found : text ∈ (joined (oneOrMoreOf members) separator).matches') : ∀ c ∈ text, c ∈ separator :: members := by
  obtain ⟨words, some_word, each, rfl⟩ := mem_joined_iff.mp found
  have listed : ∀ word ∈ words, ∀ c ∈ word, c ∈ separator :: members := fun word member c inside =>
    .tail _ ((mem_oneOrMoreOf_iff.mp (each word member)).2 c inside)
  obtain ⟨first, others, rfl⟩ := List.exists_cons_of_ne_nil some_word
  intro c inside
  rw [intercalate_cons, List.mem_append] at inside
  cases inside with
  | inl opening => exact listed first (.head _) c opening
  | inr behind =>
      obtain ⟨part, member, within⟩ := List.mem_flatten.mp behind
      obtain ⟨word, later, rfl⟩ := List.mem_map.mp member
      cases within with
      | head => exact .head _
      | tail _ inner => exact listed word (.tail _ later) c inner

section
variable [BEq α] [LawfulBEq α] {members : List α} {separator : α}

theorem join_runs_mem (text : List α) :
    List.intercalate [separator] (runs (fun c => members.contains c) text) = [] ∨
      List.intercalate [separator] (runs (fun c => members.contains c) text) ∈
        (joined (oneOrMoreOf members) separator).matches' := by
  by_cases none_found : runs (fun c => members.contains c) text = []
  · rw [none_found]
    exact .inl rfl
  · refine .inr (intercalate_mem_joined none_found fun run found => ?_)
    obtain ⟨solid, kept⟩ := runs_solid _ _ run found
    exact mem_oneOrMoreOf solid fun c inside => by simpa using kept c inside

theorem join_runs_of_mem (apart : separator ∉ members) {text : List α}
    (found : text ∈ (joined (oneOrMoreOf members) separator).matches') :
    List.intercalate [separator] (runs (fun c => members.contains c) text) = text := by
  obtain ⟨words, -, each, rfl⟩ := mem_joined_iff.mp found
  rw [runs_intercalate (by simpa using apart) fun word member => ?_]
  obtain ⟨solid, listed⟩ := mem_oneOrMoreOf_iff.mp (each word member)
  exact ⟨solid, fun c inside => by simpa using listed c inside⟩

/-- Joining the runs of a text is a normal form: nothing, or a text of the grammar. -/
theorem join_runs_retracts (apart : separator ∉ members) :
    RetractsOnto (fun text => List.intercalate [separator] (runs (fun c => members.contains c) text))
      {text | text = [] ∨ text ∈ (joined (oneOrMoreOf members) separator).matches'} where
  lands := join_runs_mem
  keeps text normal := by
    cases normal with
    | inl empty => simp [empty, runs]
    | inr found => exact join_runs_of_mem apart found

end

end Library
