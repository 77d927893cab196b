import Setheum.Lib.Result
import Setheum.Lib.System
import Setheum.Lib.Encoding

/-!
# Unified accounts

`module_unified_accounts` binds 32-byte Substrate accounts to 20-byte EVM
addresses in two maps, `Accounts` from addresses and `EvmAddresses` from
accounts. An account binds an address by a signature of the address's key
over an EIP-712 message naming the account, or binds its default address, a
hash of the account. An unbound address stands for its padded account
`evm:` ++ address ++ eight zero bytes, and a padded account for the address
inside it. When an account is reaped its binding is removed.

Hashing, signature recovery, `TransferAll` and the accounts' existence are
parameters; the ledger they act on is `L`.
-/

namespace Setheum.UnifiedAccounts

open Result Transition Encoding

abbrev AccountId := FixedBytes 32

abbrev EvmAddress := FixedBytes 20

inductive Error where
  | accountIdHasMapped
  | ethAddressHasMapped
  | badSignature
  | invalidSignature
  deriving DecidableEq

inductive DispatchError where
  | module (e : Error)
  /-- An error of `TransferAll`, passed on. -/
  | transferAll
  deriving DecidableEq

/-- `Config` of the pallet, with the hashes and the signature recovery of
`sp_io`, the genesis block hash, and the currencies' `TransferAll`. -/
structure Config (L : Type) where
  keccak : List UInt8 → FixedBytes 32
  blake2 : List UInt8 → FixedBytes 32
  ecdsaRecover : FixedBytes 65 → FixedBytes 32 → Option (List UInt8)
  chainId : UInt64
  genesisHash : FixedBytes 32
  accountExists : L → AccountId → Bool
  transferAll : L → AccountId → AccountId → Option L

structure State (L : Type) where
  accounts : EvmAddress → Option AccountId
  evmAddresses : AccountId → Option EvmAddress
  ledger : L

variable {L : Type}

/-- `b"evm:"`. -/
def evmPrefix : List UInt8 := [101, 118, 109, 58]

/-- The account `get_account_id` gives an unbound address. -/
def paddedAccount (address : EvmAddress) : AccountId :=
  ⟨evmPrefix ++ address.1 ++ List.replicate 8 0, by
    rw [List.length_append, List.length_append, address.2, List.length_replicate]
    rfl⟩

/-- The address inside an account that starts with `evm:` and ends with
eight zero bytes. -/
def underlyingEvmAddress (accountId : AccountId) : Option EvmAddress :=
  if accountId.1.take 4 = evmPrefix ∧ accountId.1.drop 24 = List.replicate 8 0 then
    some ⟨(accountId.1.drop 4).take 20, by simp [accountId.2]⟩
  else none

/-- `get_account_id`. -/
def getAccountId (s : State L) (address : EvmAddress) : AccountId :=
  (s.accounts address).getD (paddedAccount address)

/-- `get_evm_address`. -/
def getEvmAddress (s : State L) (accountId : AccountId) : Option EvmAddress :=
  (s.evmAddresses accountId).or (underlyingEvmAddress accountId)

/-- Binding an address and an account, both ways. -/
def State.bind (s : State L) (address : EvmAddress) (accountId : AccountId) : State L :=
  { s with
    accounts := Function.update s.accounts address (some accountId)
    evmAddresses := Function.update s.evmAddresses accountId (some address) }

def eip712DomainTypeString : String := "EIP712Domain(string name,string version,uint256 chainId,bytes32 salt)"

def claimName : String := "Setheum EVM claim"

def claimVersion : String := "1"

def transactionTypeString : String := "Transaction(bytes substrateAddress)"

section Config

variable (T : Config L)

/-- `account_to_default_evm_address`: the first 20 bytes of the hash of
`evm:` and the account. -/
def accountToDefaultEvmAddress (accountId : AccountId) : EvmAddress :=
  ⟨(T.blake2 (evmPrefix ++ accountId.1)).1.take 20, by simp [(T.blake2 _).2]⟩

/-- `get_or_create_evm_address`: the address of the account, binding its
default address if it has none. -/
def getOrCreateEvmAddress (s : State L) (accountId : AccountId) : EvmAddress × State L :=
  match getEvmAddress s accountId with
  | some address => (address, s)
  | none =>
      let addr := accountToDefaultEvmAddress T accountId
      (addr, s.bind addr accountId)

/-- `evm_account_domain_separator`: the name, the version, the chain id and
the genesis block hash. -/
def evmAccountDomainSeparator : FixedBytes 32 :=
  T.keccak ((T.keccak eip712DomainTypeString.toUTF8.toList).1 ++ (T.keccak claimName.toUTF8.toList).1 ++
    (T.keccak claimVersion.toUTF8.toList).1 ++ beBytes 32 T.chainId.toNat ++ T.genesisHash.1)

/-- `evm_account_payload_hash`. -/
def evmAccountPayloadHash (who : AccountId) : FixedBytes 32 :=
  T.keccak ((T.keccak transactionTypeString.toUTF8.toList).1 ++ (T.keccak who.1).1)

/-- `eip712_signable_message`. -/
def eip712SignableMessage (who : AccountId) : List UInt8 :=
  [0x19, 0x01] ++ (evmAccountDomainSeparator T).1 ++ (evmAccountPayloadHash T who).1

/-- `recover_signer`: the last 20 bytes of the recovered key's hash. -/
def recoverSigner (sig : FixedBytes 65) (msgHash : FixedBytes 32) : Option EvmAddress :=
  (T.ecdsaRecover sig msgHash).map fun pubkey => ⟨(T.keccak pubkey).1.drop 12, by simp [(T.keccak _).2]⟩

/-- `verify_eip712_signature`. -/
def verifyEip712Signature (who : AccountId) (sig : FixedBytes 65) : Option EvmAddress :=
  recoverSigner T sig (T.keccak (eip712SignableMessage T who))

/-- `claim_account`: neither side bound, and a signature of the address over
the caller's message; the padded account's funds move to the caller. -/
def claimAccount (who : AccountId) (ethAddress : EvmAddress) (ethSignature : FixedBytes 65) (s : State L) :
    Except DispatchError (State L) := do
  ensure (s.evmAddresses who).isNone (.module .accountIdHasMapped)
  ensure (s.accounts ethAddress).isNone (.module .ethAddressHasMapped)
  let address ← okOr (verifyEip712Signature T who ethSignature) (.module .badSignature)
  ensure (ethAddress == address) (.module .invalidSignature)
  let accountId := getAccountId s ethAddress
  let ledger ← if T.accountExists s.ledger accountId then
      okOr (T.transferAll s.ledger accountId who) .transferAll
    else pure s.ledger
  pure ({ s with ledger := ledger }.bind ethAddress who)

/-- `do_claim_default_evm_address`. -/
def doClaimDefaultEvmAddress (who : AccountId) (s : State L) : Except DispatchError (EvmAddress × State L) := do
  ensure (s.evmAddresses who).isNone (.module .accountIdHasMapped)
  pure (getOrCreateEvmAddress T s who)

/-- `claim_default_account`. -/
def claimDefaultAccount (who : AccountId) (s : State L) : Except DispatchError (State L) :=
  (doClaimDefaultEvmAddress T who s).map Prod.snd

/-- `CallKillAccount::on_killed_account`. -/
def onKilledAccount (who : AccountId) (s : State L) : State L :=
  match s.evmAddresses who with
  | some evmAddr =>
      { s with
        accounts := Function.update s.accounts evmAddr none
        evmAddresses := Function.update s.evmAddresses who none }
  | none => s

/-- The pallet's calls by signed accounts, the mapping's creation of default
addresses by the runtime, and the hook on reaped accounts. -/
inductive Call where
  | claimAccount (who : AccountId) (ethAddress : EvmAddress) (ethSignature : FixedBytes 65)
  | claimDefaultAccount (who : AccountId)
  | getOrCreateEvmAddress (accountId : AccountId)
  | killAccount (who : AccountId)

def dispatch (s : State L) : Call → Except DispatchError (State L)
  | .claimAccount who ethAddress ethSignature => claimAccount T who ethAddress ethSignature s
  | .claimDefaultAccount who => claimDefaultAccount T who s
  | .getOrCreateEvmAddress accountId => pure (getOrCreateEvmAddress T s accountId).2
  | .killAccount who => pure (onKilledAccount who s)

/-- The pallet from empty maps, over any ledger. -/
def system : Transition.System (State L) Call where
  init s := (∀ e, s.accounts e = none) ∧ ∀ a, s.evmAddresses a = none
  step s call := (dispatch T s call).toOption

end Config

end Setheum.UnifiedAccounts
