import Tiber.Domain.Exceptions
import Tiber.Library.Runs
import Tiber.Library.Text

/-! Slugs: the grammar they are checked against, and their derivation from a name. -/

set_option autoImplicit false

namespace Tiber

open Library

def slugChars : List Char := "abcdefghijklmnopqrstuvwxyz0123456789".toList

def slugTokenRe : RegularExpression Char := oneOrMoreOf slugChars

def slugRe : RegularExpression Char := joined slugTokenRe '-'

section
variable (lower : Text → Text)

def slugTokens (name : Text) : List Text := runs (fun c => slugChars.contains c) (lower name)

def deriveSlug (name : Text) : Text := List.intercalate ['-'] (slugTokens lower name)

def requireDerivableName (name : Text) : Checked Unit :=
  if deriveSlug lower name = [] then
    .error (.invalidEntityAttribute
      ("Project name must contain at least one ASCII letter or digit for slug derivation (got: " ++
        Text.repr name ++ ")"))
  else .ok ()

theorem deriveSlug_matches {name : Text} (derivable : deriveSlug lower name ≠ []) :
    slugRe.rmatch (deriveSlug lower name) = true := by
  rw [RegularExpression.rmatch_iff_matches']
  exact (join_runs_mem (lower name)).resolve_left derivable

theorem requireDerivableName_error_iff (name : Text) :
    (∃ error, requireDerivableName lower name = .error error) ↔ deriveSlug lower name = [] := by
  by_cases nothing : deriveSlug lower name = []
  · simp [requireDerivableName, nothing]
  · simp [requireDerivableName, nothing]

end

section
variable (unicode : Text → Char → Text → Text)

theorem lower_slug {slug : Text} (matched : slugRe.rmatch slug = true) : Text.lower unicode slug = slug := by
  have small : ('-' :: slugChars).all (fun c => c.toNat < 128 ∧ c.toLower = c) = true := by decide
  rw [RegularExpression.rmatch_iff_matches'] at matched
  refine Text.lower_of_small fun c inside => ?_
  exact of_decide_eq_true (List.all_eq_true.mp small c (listed_of_mem_joined matched c inside))

/-- Deriving is a normal form, whatever Unicode's tables say: what it yields is nothing or a slug, and
these two it leaves alone. -/
theorem deriveSlug_retracts :
    RetractsOnto (deriveSlug (Text.lower unicode)) {text | text = [] ∨ slugRe.rmatch text = true} := by
  simp only [RegularExpression.rmatch_iff_matches']
  refine (join_runs_retracts (by decide)).comp fun text normal => ?_
  cases normal with
  | inl empty => rw [empty]; rfl
  | inr found => exact lower_slug unicode ((RegularExpression.rmatch_iff_matches' _ _).mpr found)

/-- Deriving a slug is a retraction onto the slugs and the empty text, and a name is turned down exactly
when nothing can be derived from it. -/
theorem deriveSlug_retraction :
    (∀ name, deriveSlug (Text.lower unicode) name = [] ∨
      slugRe.rmatch (deriveSlug (Text.lower unicode) name) = true) ∧
    (∀ text, deriveSlug (Text.lower unicode) text = text ↔ text = [] ∨ slugRe.rmatch text = true) ∧
    (∀ name, deriveSlug (Text.lower unicode) (deriveSlug (Text.lower unicode) name) =
      deriveSlug (Text.lower unicode) name) ∧
    (∀ slug, slugRe.rmatch slug = true → ∃ name, deriveSlug (Text.lower unicode) name = slug) ∧
    ∀ name, (∃ error, requireDerivableName (Text.lower unicode) name = .error error) ↔
      deriveSlug (Text.lower unicode) name = [] := by
  have retracts := deriveSlug_retracts unicode
  exact ⟨retracts.lands, retracts.eq_self_iff, retracts.twice, fun slug matched => retracts.reached (.inr matched),
    requireDerivableName_error_iff _⟩

end

/-- Capitals are lowered before the scan, so the Kelvin sign counts as a letter; other signs separate. -/
example : deriveSlug (Text.lower fun _ c _ => if c = '\u212a' then ['k'] else [c])
    "  My App--2.0 \u65e5\u212a".toList = "my-app-2-0-k".toList := by
  decide +kernel

end Tiber
