import Setheum.Tokens.Pallet
import Setheum.Primitives.Currency

/-!
# A deployment of the tokens pallet

Three accounts hold Setheum's currencies with an existential deposit of 10 in
every currency; dust goes to the treasury (`TransferDust`), nobody is on the
dust-removal whitelist, and every account can lose its provider reference (no
account of the runs below holds a consumer reference when it dies).
-/

namespace Setheum.Tokens.Reference

inductive Account where
  | alice
  | bob
  | treasury
  deriving DecidableEq, Repr

instance : Fintype Account := ⟨{.alice, .bob, .treasury}, by intro x; cases x <;> simp⟩

def testConfig : Config Account CurrencyId where
  existentialDeposits _ := 10
  dustRemovalWhitelist _ := false
  maxLocks := 50
  onDust := .transferDust .treasury
  canDecProvider _ := true

/-- Lock identifiers are numbers here. -/
abbrev Storage := State Account CurrencyId Nat

/-- Alice and the treasury start with 100 SEU each. -/
def genesis : GenesisConfig Account CurrencyId :=
  ⟨[(.alice, .token .SEU, 100), (.treasury, .token .SEU, 100)]⟩

/-- The storage `genesis` builds. -/
def genesisState : Storage := (genesis.build testConfig (onDust testConfig 1) State.empty).getD State.empty

theorem genesisState_init : (system testConfig).init genesisState := by
  obtain ⟨t, ht⟩ := Option.isSome_iff_exists.1
    (by rfl : (genesis.build testConfig (onDust testConfig 1) (State.empty : Storage)).isSome)
  refine ⟨genesis, ?_⟩
  unfold genesisState
  rw [ht]
  rfl

end Setheum.Tokens.Reference
