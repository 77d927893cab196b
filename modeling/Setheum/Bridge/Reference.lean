import Setheum.Bridge.Execution

/-!
# A reference runtime for the bridge

One bridged asset, held by five accounts. The transactor credits and debits
accounts; as the pallet's mock converts the parent chain to a preset account
(`ParentIsPreset`), the parent is that account here, and a location none of
the converters takes cannot be credited. Recipients decode from one byte for
the parent or such a remote location, and two for an account. Hashing and
signature recovery are stand-ins: every message hashes alike and every
signature recovers to the MPC key.
-/

namespace Setheum.Bridge.Reference

open Transition Encoding

inductive Account where
  | alice
  | bob
  | reserve
  | feeReserve
  /-- The parent chain's preset account. -/
  | parent
  deriving DecidableEq

inductive Location where
  | account (who : Account)
  /-- A location that no converter of the mock turns into an account. -/
  | remote
  deriving DecidableEq

/-- Balances of the bridged asset. -/
abbrev Ledger := Account → Nat

/-- `n` copies of the byte `b`. -/
def bytes (n : Nat) (b : UInt8) : FixedBytes n := ⟨List.replicate n b, List.length_replicate⟩

def withdraw (l : Ledger) (asset : Asset Unit) : Location → Option Ledger
  | .account who =>
      match asset.fungibility with
      | .fungible amount => if amount ≤ l who then some (Function.update l who (l who - amount)) else none
      | .nonFungible => none
  | .remote => none

def depositTo (l : Ledger) (asset : Asset Unit) : Location → Option Ledger
  | .account who =>
      match asset.fungibility with
      | .fungible amount => some (Function.update l who (l who + amount))
      | .nonFungible => none
  | .remote => none

def decodeLocation : List UInt8 → Option Location
  | [0, 1] => some (.account .bob)
  | [0, 0] => some (.account .alice)
  | [1] => some (.account .parent)
  | [2] => some .remote
  | _ => none

def mockConfig : Config Account Unit Location Ledger where
  keccak _ := bytes 32 1
  ecdsaRecover _ _ := some []
  eip712ChainId := 5
  destVerifyingContractAddress := bytes 20 0
  transferReserveAccounts _ := some .reserve
  feeReserveAccount := .feeReserve
  getFee _ _ := some 1
  withdrawAsset := withdraw
  depositAsset := depositTo
  resourcePairs := [((), bytes 32 0)]
  isReserve _ := true
  extractDest _ := none
  palletAccount := []
  convertTo asset := match asset.fungibility with
    | .fungible amount => some amount
    | .nonFungible => none
  convertFrom := some
  hasAccess origin _ := origin == .root
  accountLocation := .account
  decodeLocation := decodeLocation

/-- The default storage, with 1000 in the reserve account. -/
def emptyState : State Account Unit Ledger where
  depositCounts _ := 0
  isPaused _ := none
  mpcAddr := bytes 20 0
  usedNonces _ _ := 0
  destDomainIds _ := false
  destChainIds _ := none
  ledger who := if who = .reserve then 1000 else 0
  events := []

theorem emptyState_init : (system mockConfig).init emptyState :=
  ⟨fun _ => rfl, fun _ => rfl, rfl, fun _ _ => rfl, fun _ => rfl, fun _ => rfl, rfl⟩

/-- Root registers domain 1 and sets the MPC address, which unpauses it. -/
def setup : List (Call Account Unit Location) :=
  [.registerDomain .root 1 1, .setMpcAddress .root (bytes 20 1)]

def signature : List UInt8 := List.replicate 65 0

/-- A transfer of 100 from domain 1 with nonce 0, to `recipient`. -/
def transfer (recipient : List UInt8) : Proposal := ⟨1, 0, bytes 32 0, createDepositData 100 recipient⟩

/-- The transfer to Bob is paid once: run twice, it is executed once, and
Bob holds 100. -/
theorem executeProposal_pays_once_reference :
    let s := (system mockConfig).run emptyState
      (setup ++ [.executeProposal [transfer [0, 1]] signature, .executeProposal [transfer [0, 1]] signature])
    Reachable (system mockConfig) s ∧ (executions s.events).Nodup ∧ executions s.events = [(1, 0)] ∧
      s.ledger .bob = 100 ∧ s.ledger .reserve = 900 := by
  intro s
  have hreach : Reachable (system mockConfig) s := (Reachable.init emptyState_init).run _
  refine ⟨hreach, ((executeProposal_pays_once mockConfig).2.1 s hreach).1, ?_⟩
  decide

/-- The transfer to a remote location debits the reserve account and credits
no one, and stays unmarked: each time it is submitted, 100 more leave the
reserve account. -/
theorem executeProposal_keeps_failed_withdrawal_reference :
    let s := (system mockConfig).run emptyState setup
    executeProposal mockConfig [transfer [2]] signature s =
        .ok { s with
          ledger := Function.update s.ledger .reserve 900
          events := s.events ++ [.failedHandlerExecution .transactFailed 1 0] } ∧
      let s' := (system mockConfig).run s
        [.executeProposal [transfer [2]] signature, .executeProposal [transfer [2]] signature]
      s'.ledger .reserve = 800 ∧ executions s'.events = [] ∧ isProposalExecuted s' 0 1 = false := by
  intro s
  have hprep : prepareProposal mockConfig s (transfer [2]) = .ok (⟨(), .fungible 100⟩, .reserve, .remote) := by
    decide
  have hreserve : s.ledger .reserve = 1000 := by decide
  have hwithdraw : mockConfig.withdrawAsset s.ledger ⟨(), .fungible 100⟩ (mockConfig.accountLocation .reserve) =
      some (Function.update s.ledger .reserve 900) := by
    simp [mockConfig, withdraw, hreserve]
  refine ⟨executeProposal_keeps_failed_withdrawal mockConfig (by decide) (by decide) hprep
    rfl hwithdraw rfl, ?_⟩
  decide

end Setheum.Bridge.Reference
