import Setheum.Lib.Result
import Setheum.Lib.System
import Setheum.Lib.Encoding

/-!
# The bridge pallet

`module_bridge` moves fungible assets to and from other domains. An outbound
`deposit` withdraws the asset from the sender, pays the fee to the fee
reserve, puts the rest in the asset's reserve account when the asset is
reserved here, and reports a deposit under the domain's next nonce. Inbound
transfers arrive as a batch of proposals signed by the MPC address over an
EIP-712 message; `execute_proposal` runs them one by one, marks each that
succeeds in the `UsedNonces` bitmap, and reports each that fails and goes on
with the next.

The asset transactor, the decimal converter, the fee handler, the access
segregator, secp256k1 recovery and keccak-256 are parameters. Of the events,
those of deposits and of proposals are kept.
-/

namespace Setheum.Bridge

open Result Transition Encoding

/-- `Proposal`. -/
structure Proposal where
  originDomainId : UInt8
  depositNonce : UInt64
  resourceId : FixedBytes 32
  data : List UInt8
  deriving DecidableEq

/-- The fungibility of an XCM asset. -/
inductive Fungibility where
  | fungible (amount : Nat)
  | nonFungible
  deriving DecidableEq

/-- An XCM asset: its id and its fungibility. -/
structure Asset (AssetId : Type) where
  id : AssetId
  fungibility : Fungibility
  deriving DecidableEq

inductive Error where
  | accessDenied
  | badMpcSignature
  | transactFailed
  | feeTooExpensive
  | missingMpcAddress
  | mpcAddrNotUpdatable
  | bridgePaused
  | bridgeUnpaused
  | missingFeeConfig
  | assetNotBound
  | proposalAlreadyComplete
  | emptyProposalList
  | invalidDepositData
  | destDomainNotSupported
  | destChainIDNotMatch
  | extractDestDataFailed
  | decimalConversionFail
  | depositNonceOverflow
  | noLiquidityHolderAccountBound
  deriving DecidableEq

inductive DispatchError where
  | module (e : Error)
  | badOrigin
  deriving DecidableEq

inductive Origin (AccountId : Type) where
  | signed (who : AccountId)
  | root
  | none
  deriving DecidableEq

/-- The extrinsics the access segregator is asked about, by name. -/
inductive Method where
  | pauseBridge
  | unpauseBridge
  | setMpcAddress
  | registerDomain
  | unregisterDomain
  | retry
  | pauseAllBridges
  | unpauseAllBridges
  deriving DecidableEq

inductive Event (AccountId AssetId : Type) where
  | deposit (destDomainId : UInt8) (resourceId : FixedBytes 32) (depositNonce : Nat) (sender : AccountId)
      (depositData : List UInt8)
  | feeCollected (feePayer : AccountId) (destDomainId : UInt8) (resourceId : FixedBytes 32) (feeAmount : Nat)
      (feeAssetId : AssetId)
  | proposalExecution (originDomainId : UInt8) (depositNonce : UInt64) (dataHash : FixedBytes 32)
  | failedHandlerExecution (error : Error) (originDomainId : UInt8) (depositNonce : UInt64)
  deriving DecidableEq

/-- `Config` of the pallet, with the asset transactor acting on a ledger `L`
and the hashing and signature recovery of `sp_io`. -/
structure Config (AccountId AssetId Location L : Type) where
  keccak : List UInt8 → FixedBytes 32
  ecdsaRecover : FixedBytes 65 → FixedBytes 32 → Option (List UInt8)
  eip712ChainId : Nat
  destVerifyingContractAddress : FixedBytes 20
  transferReserveAccounts : AssetId → Option AccountId
  feeReserveAccount : AccountId
  getFee : UInt8 → Asset AssetId → Option Nat
  withdrawAsset : L → Asset AssetId → Location → Option L
  depositAsset : L → Asset AssetId → Location → Option L
  resourcePairs : List (AssetId × FixedBytes 32)
  isReserve : Asset AssetId → Bool
  extractDest : Location → Option (List UInt8 × UInt8)
  palletAccount : List UInt8
  convertTo : Asset AssetId → Option Nat
  convertFrom : Asset AssetId → Option (Asset AssetId)
  hasAccess : Origin AccountId → Method → Bool
  accountLocation : AccountId → Location
  decodeLocation : List UInt8 → Option Location

/-- The storage, the asset ledger, and the events deposited. `IsPaused` keeps
which domains have an entry, since pausing all domains writes every entry. -/
structure State (AccountId AssetId L : Type) where
  depositCounts : UInt8 → Nat
  isPaused : UInt8 → Option Bool
  mpcAddr : FixedBytes 20
  usedNonces : UInt8 → Nat → Nat
  destDomainIds : UInt8 → Bool
  destChainIds : UInt8 → Option Nat
  ledger : L
  events : List (Event AccountId AssetId)

variable {AccountId AssetId Location L : Type}

namespace State

/-- `IsPaused::get`, a `ValueQuery` with default `false`. -/
def paused (s : State AccountId AssetId L) (d : UInt8) : Bool := (s.isPaused d).getD false

/-- The entries of `DestDomainIds` and of `IsPaused` all set to `b`. -/
def setAllPaused (s : State AccountId AssetId L) (b : Bool) : State AccountId AssetId L :=
  { s with isPaused := fun d => if s.destDomainIds d || (s.isPaused d).isSome then some b else s.isPaused d }

end State

/-- `is_clear` of an address: all zero, the default. -/
def isClear (addr : FixedBytes 20) : Bool := addr.1.all (· == 0)

/-- `is_proposal_executed`: bit `nonce % 64` of word `nonce / 64`. -/
def isProposalExecuted (s : State AccountId AssetId L) (nonce : UInt64) (domainId : UInt8) : Bool :=
  (s.usedNonces domainId (nonce.toNat / 64) &&& (1 <<< (nonce.toNat % 64))) != 0

/-- `set_proposal_executed`. -/
def setProposalExecuted (s : State AccountId AssetId L) (nonce : UInt64) (domainId : UInt8) :
    State AccountId AssetId L :=
  let currentNonces := s.usedNonces domainId (nonce.toNat / 64) ||| (1 <<< (nonce.toNat % 64))
  { s with
    usedNonces := fun d w =>
      if d = domainId ∧ w = nonce.toNat / 64 then currentNonces else s.usedNonces d w }

/-- `EIP712_DOMAIN_TYPE_HASH`. -/
def eip712DomainTypeHash : List UInt8 :=
  [139, 115, 195, 198, 155, 184, 254, 61, 81, 46, 204, 76, 247, 89, 204, 121, 35, 159, 123, 23, 155, 15, 250, 202,
    169, 167, 93, 82, 43, 57, 64, 15]

def proposalsTypeString : String :=
  "Proposals(Proposal[] proposals)Proposal(uint8 originDomainID,uint64 depositNonce,bytes32 resourceID,bytes data)"

def proposalTypeString : String :=
  "Proposal(uint8 originDomainID,uint64 depositNonce,bytes32 resourceID,bytes data)"

def bridgeName : String := "Bridge"

def bridgeVersion : String := "3.1.0"

section Signing

variable (T : Config AccountId AssetId Location L)

/-- `EIP712Domain::separator` of the domain `Bridge` version `3.1.0`, without
salt: the ABI encoding of five words, hashed. -/
def domainSeparator : FixedBytes 32 :=
  T.keccak (eip712DomainTypeHash ++ (T.keccak bridgeName.toUTF8.toList).1 ++ (T.keccak bridgeVersion.toUTF8.toList).1 ++
    beBytes 32 T.eip712ChainId ++ List.replicate 12 0 ++ T.destVerifyingContractAddress.1)

/-- The hash of one proposal: the ABI encoding of the type hash, the domain,
the nonce, the resource id and the hash of the data, each one word. -/
def proposalHash (prop : Proposal) : FixedBytes 32 :=
  T.keccak ((T.keccak proposalTypeString.toUTF8.toList).1 ++ beBytes 32 prop.originDomainId.toNat ++
    beBytes 32 prop.depositNonce.toNat ++ prop.resourceId.1 ++ (T.keccak prop.data).1)

/-- `construct_ecdsa_signing_proposals_data`: the EIP-712 message of the
proposals. -/
def constructEcdsaSigningProposalsData (proposals : List Proposal) : FixedBytes 32 :=
  if proposals.isEmpty then ⟨List.replicate 32 0, List.length_replicate⟩
  else
    let keccakData := proposals.map (proposalHash T)
    let finalKeccakData := (keccakData.map Subtype.val).flatten
    let hashedKeccakData := T.keccak finalKeccakData
    let structHash := T.keccak ((T.keccak proposalsTypeString.toUTF8.toList).1 ++ hashedKeccakData.1)
    T.keccak ([0x19, 0x01] ++ (domainSeparator T).1 ++ structHash.1)

/-- `public_key_to_address`: bytes 12 to 32 of the key's hash. -/
def publicKeyToAddress (publicKey : List UInt8) : List UInt8 := (T.keccak publicKey).1.drop 12

/-- `verify_by_mpc_address`: a 65-byte signature whose recovered key has the
MPC address. -/
def verifyByMpcAddress (s : State AccountId AssetId L) (signingMessage : FixedBytes 32)
    (signature : List UInt8) : Bool :=
  if h : signature.length = 65 then
    match T.ecdsaRecover ⟨signature, h⟩ signingMessage with
    | some pubkey => publicKeyToAddress T pubkey == s.mpcAddr.1
    | none => false
  else false

end Signing

section Calls

variable [DecidableEq AssetId] (T : Config AccountId AssetId Location L)

/-- `rid_to_assetid`: the first pair with the resource id. -/
def ridToAssetid (rid : FixedBytes 32) : Option AssetId :=
  (T.resourcePairs.find? fun a => a.2 == rid).map (·.1)

/-- `extract_asset`: the resource id of a fungible asset, and its amount. -/
def extractAsset (asset : Asset AssetId) : Option (FixedBytes 32 × Nat) :=
  match asset.fungibility with
  | .fungible amount => (T.resourcePairs.find? fun a => a.1 == asset.id).map fun a => (a.2, amount)
  | .nonFungible => none

/-- `create_deposit_data`: the amount and the recipient's length as words,
then the recipient. -/
def createDepositData (amount : Nat) (recipient : List UInt8) : List UInt8 :=
  beBytes 32 amount ++ beBytes 32 recipient.length ++ recipient

/-- `extract_deposit_data`: the amount, below `2^128`, and the recipient,
whose length the second word gives. -/
def extractDepositData (data : List UInt8) : Except Error (Nat × Location) := do
  ensure (64 ≤ data.length) .invalidDepositData
  let amount := beValue (data.take 32)
  ensure (amount < 2 ^ 128) .invalidDepositData
  let recipientLen := beValue ((data.drop 32).take 32)
  ensure (recipientLen < 2 ^ 64) .invalidDepositData
  ensure (data.length - 64 = recipientLen) .invalidDepositData
  let location ← okOr (T.decodeLocation (data.drop 64)) .invalidDepositData
  pure (amount, location)

/-- The checks and reads of `execute_proposal_internal` before it moves
funds: the converted asset, its reserve account, and the recipient. -/
def prepareProposal (s : State AccountId AssetId L) (proposal : Proposal) :
    Except Error (Asset AssetId × AccountId × Location) := do
  ensure (!s.paused proposal.originDomainId) .bridgePaused
  ensure (s.destDomainIds proposal.originDomainId) .destDomainNotSupported
  ensure (!isProposalExecuted s proposal.depositNonce proposal.originDomainId) .proposalAlreadyComplete
  let assetId ← okOr (ridToAssetid T proposal.resourceId) .assetNotBound
  let (amount, location) ← extractDepositData T proposal.data
  let decimalConvertedAsset ← okOr (T.convertFrom ⟨assetId, .fungible amount⟩) .decimalConversionFail
  let tokenReservedAccount ← okOr (T.transferReserveAccounts assetId) .noLiquidityHolderAccountBound
  pure (decimalConvertedAsset, tokenReservedAccount, location)

/-- `execute_proposal_internal`: the ledger it leaves, and its result. It has
no storage layer of its own, so a deposit that fails after the withdrawal
from the reserve account leaves that withdrawal in place. -/
def executeProposalInternal (s : State AccountId AssetId L) (proposal : Proposal) : L × Except Error Unit :=
  match prepareProposal T s proposal with
  | .error e => (s.ledger, .error e)
  | .ok (asset, reserve, location) =>
      let withdrawn :=
        if T.isReserve asset then T.withdrawAsset s.ledger asset (T.accountLocation reserve) else some s.ledger
      match withdrawn with
      | none => (s.ledger, .error .transactFailed)
      | some l =>
          match T.depositAsset l asset location with
          | none => (l, .error .transactFailed)
          | some l' => (l', .ok ())

/-- One proposal of the batch: marked executed if it succeeds, reported if
it fails. -/
def executeOne (s : State AccountId AssetId L) (proposal : Proposal) : State AccountId AssetId L :=
  match executeProposalInternal T s proposal with
  | (l, .error e) =>
      { s with
        ledger := l
        events := s.events ++ [.failedHandlerExecution e proposal.originDomainId proposal.depositNonce] }
  | (l, .ok ()) =>
      let s := setProposalExecuted { s with ledger := l } proposal.depositNonce proposal.originDomainId
      { s with
        events := s.events ++
          [.proposalExecution proposal.originDomainId proposal.depositNonce
            (T.keccak (proposal.data ++ T.palletAccount))] }

/-- `execute_proposal`, by any origin. -/
def executeProposal (proposals : List Proposal) (signature : List UInt8) (s : State AccountId AssetId L) :
    Except DispatchError (State AccountId AssetId L) := do
  ensure (!isClear s.mpcAddr) (.module .missingMpcAddress)
  ensure (!proposals.isEmpty) (.module .emptyProposalList)
  let finalMessage := constructEcdsaSigningProposalsData T proposals
  ensure (verifyByMpcAddress T s finalMessage signature) (.module .badMpcSignature)
  pure (proposals.foldl (executeOne T) s)

def ensureSigned : Origin AccountId → Except DispatchError AccountId
  | .signed who => pure who
  | _ => throw .badOrigin

/-- `deposit`. It is transactional: on an error nothing of it stays. -/
def deposit (origin : Origin AccountId) (asset : Asset AssetId) (dest : Location) (s : State AccountId AssetId L) :
    Except DispatchError (State AccountId AssetId L) := do
  let sender ← ensureSigned origin
  ensure (!isClear s.mpcAddr) (.module .missingMpcAddress)
  let (recipient, destDomainId) ← okOr (T.extractDest dest) (.module .extractDestDataFailed)
  ensure (!s.paused destDomainId) (.module .bridgePaused)
  ensure (s.destDomainIds destDomainId) (.module .destDomainNotSupported)
  let (resourceId, amount) ← okOr (extractAsset T asset) (.module .assetNotBound)
  let fee ← okOr (T.getFee destDomainId asset) (.module .missingFeeConfig)
  ensure (fee < amount) (.module .feeTooExpensive)
  let l ← okOr (T.withdrawAsset s.ledger asset (T.accountLocation sender)) (.module .transactFailed)
  let l ← okOr (T.depositAsset l ⟨asset.id, .fungible fee⟩ (T.accountLocation T.feeReserveAccount))
    (.module .transactFailed)
  let bridgeAmount := amount - fee
  let tokenReservedAccount ← okOr (T.transferReserveAccounts asset.id) (.module .noLiquidityHolderAccountBound)
  let l ← if T.isReserve asset then
      okOr (T.depositAsset l ⟨asset.id, .fungible bridgeAmount⟩ (T.accountLocation tokenReservedAccount))
        (.module .transactFailed)
    else pure l
  let depositNonce := s.depositCounts destDomainId
  ensure (depositNonce + 1 < 2 ^ 64) (.module .depositNonceOverflow)
  let decimalConvertedAmount ← okOr (T.convertTo ⟨asset.id, .fungible bridgeAmount⟩) (.module .decimalConversionFail)
  pure
    { s with
      ledger := l
      depositCounts := Function.update s.depositCounts destDomainId (depositNonce + 1)
      events := s.events ++
        [.deposit destDomainId resourceId depositNonce sender (createDepositData decimalConvertedAmount recipient),
          .feeCollected sender destDomainId resourceId fee asset.id] }

def pauseBridge (origin : Origin AccountId) (destDomainId : UInt8) (s : State AccountId AssetId L) :
    Except DispatchError (State AccountId AssetId L) := do
  ensure (T.hasAccess origin .pauseBridge) (.module .accessDenied)
  ensure (s.destDomainIds destDomainId) (.module .destDomainNotSupported)
  pure { s with isPaused := Function.update s.isPaused destDomainId (some true) }

def unpauseBridge (origin : Origin AccountId) (destDomainId : UInt8) (s : State AccountId AssetId L) :
    Except DispatchError (State AccountId AssetId L) := do
  ensure (T.hasAccess origin .unpauseBridge) (.module .accessDenied)
  ensure (s.destDomainIds destDomainId) (.module .destDomainNotSupported)
  ensure (s.paused destDomainId) (.module .bridgeUnpaused)
  pure { s with isPaused := Function.update s.isPaused destDomainId (some false) }

/-- `set_mpc_address`: once only; it unpauses every domain. -/
def setMpcAddress (origin : Origin AccountId) (addr : FixedBytes 20) (s : State AccountId AssetId L) :
    Except DispatchError (State AccountId AssetId L) := do
  ensure (T.hasAccess origin .setMpcAddress) (.module .accessDenied)
  ensure (isClear s.mpcAddr) (.module .mpcAddrNotUpdatable)
  pure ({ s with mpcAddr := addr }.setAllPaused false)

def registerDomain (origin : Origin AccountId) (destDomainId : UInt8) (destChainId : Nat)
    (s : State AccountId AssetId L) : Except DispatchError (State AccountId AssetId L) := do
  ensure (T.hasAccess origin .registerDomain) (.module .accessDenied)
  pure
    { s with
      destDomainIds := Function.update s.destDomainIds destDomainId true
      destChainIds := Function.update s.destChainIds destDomainId (some destChainId) }

def unregisterDomain (origin : Origin AccountId) (destDomainId : UInt8) (destChainId : Nat)
    (s : State AccountId AssetId L) : Except DispatchError (State AccountId AssetId L) := do
  ensure (T.hasAccess origin .unregisterDomain) (.module .accessDenied)
  ensure (s.destDomainIds destDomainId && (s.destChainIds destDomainId).isSome) (.module .destDomainNotSupported)
  ensure (s.destChainIds destDomainId == some destChainId) (.module .destChainIDNotMatch)
  pure
    { s with
      destDomainIds := Function.update s.destDomainIds destDomainId false
      destChainIds := Function.update s.destChainIds destDomainId none }

/-- `retry` only checks and reports. -/
def retry (origin : Origin AccountId) (destDomainId : UInt8) (s : State AccountId AssetId L) :
    Except DispatchError (State AccountId AssetId L) := do
  ensure (T.hasAccess origin .retry) (.module .accessDenied)
  ensure (!isClear s.mpcAddr) (.module .missingMpcAddress)
  ensure (!s.paused destDomainId) (.module .bridgePaused)
  ensure (s.destDomainIds destDomainId) (.module .destDomainNotSupported)
  pure s

def pauseAllBridges (origin : Origin AccountId) (s : State AccountId AssetId L) :
    Except DispatchError (State AccountId AssetId L) := do
  ensure (T.hasAccess origin .pauseAllBridges) (.module .accessDenied)
  pure (s.setAllPaused true)

def unpauseAllBridges (origin : Origin AccountId) (s : State AccountId AssetId L) :
    Except DispatchError (State AccountId AssetId L) := do
  ensure (T.hasAccess origin .unpauseAllBridges) (.module .accessDenied)
  ensure (!isClear s.mpcAddr) (.module .missingMpcAddress)
  pure (s.setAllPaused false)

inductive Call (AccountId AssetId Location : Type) where
  | pauseBridge (origin : Origin AccountId) (destDomainId : UInt8)
  | unpauseBridge (origin : Origin AccountId) (destDomainId : UInt8)
  | setMpcAddress (origin : Origin AccountId) (addr : FixedBytes 20)
  | registerDomain (origin : Origin AccountId) (destDomainId : UInt8) (destChainId : Nat)
  | unregisterDomain (origin : Origin AccountId) (destDomainId : UInt8) (destChainId : Nat)
  | deposit (origin : Origin AccountId) (asset : Asset AssetId) (dest : Location)
  | retry (origin : Origin AccountId) (destDomainId : UInt8)
  | executeProposal (proposals : List Proposal) (signature : List UInt8)
  | pauseAllBridges (origin : Origin AccountId)
  | unpauseAllBridges (origin : Origin AccountId)

def dispatch (s : State AccountId AssetId L) :
    Call AccountId AssetId Location → Except DispatchError (State AccountId AssetId L)
  | .pauseBridge origin d => pauseBridge T origin d s
  | .unpauseBridge origin d => unpauseBridge T origin d s
  | .setMpcAddress origin addr => setMpcAddress T origin addr s
  | .registerDomain origin d c => registerDomain T origin d c s
  | .unregisterDomain origin d c => unregisterDomain T origin d c s
  | .deposit origin asset dest => deposit T origin asset dest s
  | .retry origin d => retry T origin d s
  | .executeProposal proposals signature => executeProposal T proposals signature s
  | .pauseAllBridges origin => pauseAllBridges T origin s
  | .unpauseAllBridges origin => unpauseAllBridges T origin s

/-- The pallet from its default storage, over any ledger. -/
def system : Transition.System (State AccountId AssetId L) (Call AccountId AssetId Location) where
  init s := (∀ d, s.depositCounts d = 0) ∧ (∀ d, s.isPaused d = none) ∧ isClear s.mpcAddr ∧
    (∀ d w, s.usedNonces d w = 0) ∧ (∀ d, s.destDomainIds d = false) ∧ (∀ d, s.destChainIds d = none) ∧
    s.events = []
  step s call := (dispatch T s call).toOption

end Calls

end Setheum.Bridge
