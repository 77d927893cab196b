import Setheum.Vesting.Pallet
import Setheum.Tokens.Reference

/-!
# A deployment of the vesting pallet

The pallet's own test runtime: the tokens pallet holds the native currency
SEU, an account has at most two schedules, and a vested transfer moves at
least 5. The tokens pallet is the deployment of `Setheum.Tokens.Reference`,
whose locks are numbered; the vesting lock is lock 0. At genesis Alice, who
holds 100 SEU, vests 50 of them over five periods of ten blocks.
-/

namespace Setheum.Vesting.Reference

open Setheum.Tokens.Reference (Account testConfig Storage)

/-- `VESTING_LOCK_ID` among the numbered locks of the tokens deployment. -/
def vestingLockId : Nat := 0

/-- The tokens pallet as `MultiLockableCurrency` for SEU; `transfer` may reap
the sender (`ExistenceRequirement::AllowDeath`). -/
def tokensCurrency : MultiCurrency Account Storage where
  freeBalance l who := (l.account who (.token .SEU)).free
  transfer src dst amount l := (Tokens.doTransfer testConfig (Tokens.onDust testConfig 1)
    (.token .SEU) src dst amount .allowDeath l).toOption
  setLock who amount l := (Tokens.setLock testConfig (Tokens.onDust testConfig 1)
    vestingLockId (.token .SEU) who amount l).toOption
  removeLock who l := (Tokens.removeLock testConfig (Tokens.onDust testConfig 1)
    vestingLockId (.token .SEU) who l).toOption

def vestingConfig : Config Account Storage where
  currency := tokensCurrency
  nativeCurrencyId := .token .SEU
  minNativeVestedTransfer := 5
  maxNativeVestingSchedules := 2

/-- Alice vests 50 SEU from block 0, 10 at the end of each of five periods of
ten blocks. -/
def genesis : GenesisConfig Account := ⟨[(.alice, .token .SEU, ⟨0, 10, 5, 10⟩)]⟩

/-- The state before the vesting genesis: no schedule, the tokens genesis, block 0. -/
def preGenesis : State Account Storage := ⟨fun _ => [], Tokens.Reference.genesisState, 0⟩

def genesisState : State Account Storage := (genesis.build vestingConfig preGenesis).getD preGenesis

theorem genesisState_init : (system vestingConfig).init genesisState := by
  obtain ⟨t, ht⟩ := Option.isSome_iff_exists.1
    (by rfl : (genesis.build vestingConfig preGenesis).isSome)
  refine ⟨genesis, Tokens.Reference.genesisState, ?_⟩
  unfold genesisState
  rw [ht]
  exact ht

end Setheum.Vesting.Reference
