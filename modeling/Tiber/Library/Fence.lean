import Mathlib.Logic.Basic

/-! Fencing tokens. A grant carries the next token, and a client keeps the token of its grant
until it drops it, however many grants follow. A token that is still current is the holder's.
-/

set_option autoImplicit false

namespace Library

structure Fence (ι : Type) where
  token : Nat
  holder : Option ι
  held : ι → Option Nat

namespace Fence

variable {ι : Type} {fence next : Fence ι} {client : ι}

/-- No client is ahead of the fence, and only the holder is level with it. -/
structure Sound (fence : Fence ι) : Prop where
  bounded : ∀ client token, fence.held client = some token → token ≤ fence.token
  latest : ∀ client token, fence.held client = some token →
    (token = fence.token ↔ fence.holder = some client)

theorem Sound.of_unheld (unheld : ∀ client, fence.held client = none) : fence.Sound where
  bounded client token holds := by rw [unheld client] at holds; cases holds
  latest client token holds := by rw [unheld client] at holds; cases holds

theorem Sound.keep (sound : fence.Sound) (token : next.token = fence.token) (holder : next.holder = fence.holder)
    (held : ∀ client, next.held client = none ∨ next.held client = fence.held client) : next.Sound := by
  have older {client : ι} {carried : Nat} (holds : next.held client = some carried) :
      fence.held client = some carried := by
    rcases held client with dropped | kept
    · rw [dropped] at holds; cases holds
    · exact kept ▸ holds
  constructor
  · intro client carried holds
    rw [token]
    exact sound.bounded client carried (older holds)
  · intro client carried holds
    rw [token, holder]
    exact sound.latest client carried (older holds)

/-- A grant leaves every other client behind. -/
theorem Sound.grant (sound : fence.Sound) (token : next.token = fence.token + 1)
    (holder : next.holder = some client) (own : next.held client = some next.token)
    (others : ∀ other, other ≠ client → next.held other = fence.held other) : next.Sound := by
  have behind {other : ι} {carried : Nat} (different : other ≠ client) (holds : next.held other = some carried) :
      carried ≤ fence.token := sound.bounded other carried (others other different ▸ holds)
  constructor
  · intro other carried holds
    by_cases same : other = client
    · subst same
      obtain rfl := Option.some.inj (own.symm.trans holds)
      exact Nat.le_refl _
    · have := behind same holds
      omega
  · intro other carried holds
    rw [holder]
    by_cases same : other = client
    · subst same
      obtain rfl := Option.some.inj (own.symm.trans holds)
      exact iff_of_true rfl rfl
    · have := behind same holds
      exact iff_of_false (by omega) fun holds => same (Option.some.inj holds).symm

end Fence

end Library
