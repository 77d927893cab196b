import Setheum.Tokens.Pallet

/-!
# Free balances and transfers

The free balances of one currency and `Currency::transfer`, as the pallets
that hold funds in sub-accounts call it (for the native currency through
`pallet_balances`, for the others through `orml_currencies`). A transfer of
nothing, or to oneself, does nothing. Otherwise the source must hold the
value, and keep the existential deposit when it is to stay alive; the
destination must end at or above the existential deposit and within `u128`.
A source left below the existential deposit is reaped, and its dust burnt.
Reserves, locks and the reference counts of accounts are not modelled.
-/

namespace Setheum.Balances

open Tokens (ExistenceRequirement)

variable {AccountId : Type} [DecidableEq AccountId]

/-- `Currency::transfer` over the free balances. -/
def transfer (existentialDeposit : Nat) (balance : AccountId → Nat) (source dest : AccountId) (value : Nat)
    (existenceRequirement : ExistenceRequirement) : Option (AccountId → Nat) :=
  if value = 0 ∨ source = dest then some balance
  else if balance source < value then none
  else
    let left := balance source - value
    if existenceRequirement = .keepAlive ∧ left < existentialDeposit then none
    else if balance dest + value < existentialDeposit ∨ 2 ^ 128 ≤ balance dest + value then none
    else
      -- a source left with dust is reaped
      let left := if left < existentialDeposit then 0 else left
      some (Function.update (Function.update balance source left) dest (balance dest + value))

variable {existentialDeposit : Nat} {balance balance' : AccountId → Nat} {source dest : AccountId} {value : Nat}
  {existenceRequirement : ExistenceRequirement}

/-- A transfer that leaves no dust moves exactly the value: every balance,
with the value given back to the source, is the old one with the value given
to the destination. -/
theorem transfer_moves
    (h : transfer existentialDeposit balance source dest value existenceRequirement = some balance')
    (hdust : existenceRequirement = .keepAlive ∨ balance source = value) (x : AccountId) :
    balance' x + (if x = source then value else 0) = balance x + (if x = dest then value else 0) := by
  unfold transfer at h
  by_cases hnone : value = 0 ∨ source = dest
  · rw [if_pos hnone, Option.some.injEq] at h
    subst h
    rcases hnone with rfl | rfl
    · simp
    · by_cases hx : x = source <;> simp [hx]
  · rw [if_neg hnone] at h
    have hne : source ≠ dest := fun heq => hnone (.inr heq)
    have henough : ¬balance source < value := fun hlt => by rw [if_pos hlt] at h; cases h
    rw [if_neg henough] at h
    dsimp only at h
    have hkeep : ¬(existenceRequirement = .keepAlive ∧ balance source - value < existentialDeposit) :=
      fun hk => by rw [if_pos hk] at h; cases h
    have hreceive : ¬(balance dest + value < existentialDeposit ∨ 2 ^ 128 ≤ balance dest + value) :=
      fun hd => by rw [if_neg hkeep, if_pos hd] at h; cases h
    rw [if_neg hkeep, if_neg hreceive, Option.some.injEq] at h
    subst h
    have hleft : (if balance source - value < existentialDeposit then 0 else balance source - value) =
        balance source - value := by
      split_ifs with hlow
      · rcases hdust with hkeepAlive | hall
        · exact absurd ⟨hkeepAlive, hlow⟩ hkeep
        · omega
      · rfl
    rw [hleft]
    by_cases hxd : x = dest
    · subst hxd
      simp [Ne.symm hne]
    · by_cases hxs : x = source
      · subst hxs
        simp [hne]
        omega
      · simp [hxd, hxs]

theorem transfer_keepAlive
    (h : transfer existentialDeposit balance source dest value .keepAlive = some balance') (x : AccountId) :
    balance' x + (if x = source then value else 0) = balance x + (if x = dest then value else 0) :=
  transfer_moves h (.inl rfl) x

theorem transfer_all
    (h : transfer existentialDeposit balance source dest (balance source) existenceRequirement = some balance')
    (x : AccountId) :
    balance' x + (if x = source then balance source else 0) = balance x + (if x = dest then balance source else 0) :=
  transfer_moves h (.inr rfl) x

end Setheum.Balances
