import Setheum.Primitives.Currency
import Setheum.Primitives.Arithmetic

/-!
# The swap pallet: configuration and storage

The storage of `module-swap` (the runtime's `Dex`, whose copy `swap-legacy`
has the same storage and calls), its `Config`, and the `MultiCurrency` and
`Incentives` pallets it calls. Those two pallets are parameters of the model;
`Config.Lawful` states what the pallet relies on them for: a successful
transfer moves exactly its amount, a deposit or a withdrawal changes exactly
one balance, and staking shares never touches the DEX account. A call of
theirs that fails is `none`. Events and the `frame_system` reference counts
are not modelled: nothing the pallet computes reads them.
-/

namespace Setheum.Swap

/-- `ProvisioningParameters` (its `trading_fee` field is never read). -/
structure ProvisioningParameters where
  minContribution : Nat × Nat
  targetProvision : Nat × Nat
  accumulatedProvision : Nat × Nat
  notBefore : Nat
  deriving DecidableEq, Repr

/-- `TradingPairStatus`; the default is `Disabled`. -/
inductive TradingPairStatus where
  | disabled
  | provisioning (parameters : ProvisioningParameters)
  | enabled
  deriving DecidableEq, Repr

/-- `Error` of the pallet. -/
inductive Error where
  | alreadyEnabled
  | mustBeEnabled
  | mustBeProvisioning
  | mustBeDisabled
  | notAllowedList
  | invalidContributionIncrement
  | invalidLiquidityIncrement
  | invalidCurrencyId
  | invalidTradingPathLength
  | insufficientTargetAmount
  | excessiveSupplyAmount
  | insufficientLiquidity
  | zeroSupplyAmount
  | zeroTargetAmount
  | unacceptableShareIncrement
  | unacceptableLiquidityWithdrawn
  | invariantCheckFailed
  | unqualifiedProvision
  | stillProvisioning
  | assetUnregistered
  | invalidTradingPath
  | notAllowedRefund
  | cannotSwap
  deriving DecidableEq, Repr

/-- The errors a call returns; those of the pallets it calls are `external`. -/
inductive DispatchError where
  | badOrigin
  | module (e : Error)
  | arithmetic (e : ArithmeticError)
  | external
  deriving DecidableEq, Repr

inductive Origin (AccountId : Type) where
  | root
  | signed (who : AccountId)
  | none
  deriving DecidableEq, Repr

/-- `MultiCurrencyExtended`, as much of it as the pallet calls. -/
structure MultiCurrency (AccountId L : Type) where
  freeBalance : L → CurrencyId → AccountId → Nat
  totalIssuance : L → CurrencyId → Nat
  transfer : CurrencyId → AccountId → AccountId → Nat → L → Option L
  deposit : CurrencyId → AccountId → Nat → L → Option L
  withdraw : CurrencyId → AccountId → Nat → L → Option L

/-- `Incentives`: staking and unstaking of shares. -/
structure Incentives (AccountId L : Type) where
  doDepositDexShare : AccountId → CurrencyId → Nat → L → Option L
  doWithdrawDexShare : AccountId → CurrencyId → Nat → L → Option L

/-- The pallet's `Config`. -/
structure Config (AccountId L : Type) where
  currency : MultiCurrency AccountId L
  incentives : Incentives AccountId L
  /-- `GetExchangeFee`, a `(numerator, denominator)` of `u32`s. -/
  getExchangeFee : Nat × Nat
  tradingPathLimit : Nat
  /-- `account_id()`, derived from `PalletId`. -/
  palletAccount : AccountId
  extendedProvisioningBlocks : Nat
  /-- `Erc20InfoMapping::name`. -/
  erc20InfoName : CurrencyId → Option String
  /-- `ListingOrigin::ensure_origin` accepts the origin. -/
  listingOrigin : Origin AccountId → Bool

variable {AccountId L : Type}

/-- What the pallet relies on from the pallets it calls. -/
structure Config.Lawful [DecidableEq AccountId] (T : Config AccountId L) : Prop where
  transfer_balance : ∀ {c src dst amt l l'}, T.currency.transfer c src dst amt l = some l' →
    ∀ c' a, T.currency.freeBalance l' c' a + (if c' = c ∧ a = src ∧ src ≠ dst then amt else 0) =
      T.currency.freeBalance l c' a + (if c' = c ∧ a = dst ∧ src ≠ dst then amt else 0)
  deposit_balance : ∀ {c who amt l l'}, T.currency.deposit c who amt l = some l' →
    ∀ c' a, T.currency.freeBalance l' c' a =
      T.currency.freeBalance l c' a + (if c' = c ∧ a = who then amt else 0)
  withdraw_balance : ∀ {c who amt l l'}, T.currency.withdraw c who amt l = some l' →
    ∀ c' a, T.currency.freeBalance l' c' a + (if c' = c ∧ a = who then amt else 0) =
      T.currency.freeBalance l c' a
  stake_keeps_pallet : ∀ {who c amt l l'}, who ≠ T.palletAccount →
    T.incentives.doDepositDexShare who c amt l = some l' →
      ∀ c', T.currency.freeBalance l' c' T.palletAccount = T.currency.freeBalance l c' T.palletAccount
  unstake_keeps_pallet : ∀ {who c amt l l'}, who ≠ T.palletAccount →
    T.incentives.doWithdrawDexShare who c amt l = some l' →
      ∀ c', T.currency.freeBalance l' c' T.palletAccount = T.currency.freeBalance l c' T.palletAccount

/-- The pallet's storage, with the ledger of the pallets it calls and the
block number of `frame_system`. -/
structure State (AccountId L : Type) where
  ledger : L
  blockNumber : Nat
  liquidityPool : TradingPair → Nat × Nat
  tradingPairStatuses : TradingPair → TradingPairStatus
  provisioningPool : TradingPair → AccountId → Option (Nat × Nat)
  initialShareExchangeRates : TradingPair → FixedU128 × FixedU128

/-- The storage before genesis: every map at its default. -/
def State.empty (ledger : L) (blockNumber : Nat) : State AccountId L where
  ledger := ledger
  blockNumber := blockNumber
  liquidityPool _ := (0, 0)
  tradingPairStatuses _ := .disabled
  provisioningPool _ _ := none
  initialShareExchangeRates _ := (FixedU128.zero, FixedU128.zero)

/-! ## `ensure!`, `ok_or` and origins -/

def ensure (b : Bool) (e : DispatchError) : Except DispatchError Unit :=
  if b then pure () else throw e

def okOr {α : Type} (o : Option α) (e : DispatchError) : Except DispatchError α :=
  match o with
  | some a => pure a
  | none => throw e

/-- A call into `MultiCurrency` or `Incentives`, whose failure is passed on. -/
def external {α : Type} (o : Option α) : Except DispatchError α := okOr o .external

def ensureSigned : Origin AccountId → Except DispatchError AccountId
  | .signed who => pure who
  | _ => throw .badOrigin

def ensureListingOrigin (T : Config AccountId L) (origin : Origin AccountId) :
    Except DispatchError Unit :=
  ensure (T.listingOrigin origin) .badOrigin

@[simp] theorem ensure_eq_ok {b : Bool} {e : DispatchError} {u : Unit} :
    ensure b e = .ok u ↔ b = true := by
  unfold ensure; cases b <;> simp [pure, throw, Except.pure, throwThe, MonadExceptOf.throw]

@[simp] theorem okOr_eq_ok {α : Type} {o : Option α} {e : DispatchError} {a : α} :
    okOr o e = .ok a ↔ o = some a := by
  unfold okOr; cases o <;> simp [pure, throw, Except.pure, throwThe, MonadExceptOf.throw]

@[simp] theorem external_eq_ok {α : Type} {o : Option α} {a : α} :
    external o = .ok a ↔ o = some a := okOr_eq_ok

@[simp] theorem ensureSigned_eq_ok {origin : Origin AccountId} {who : AccountId} :
    ensureSigned origin = .ok who ↔ origin = .signed who := by
  unfold ensureSigned
  cases origin <;> simp [pure, throw, Except.pure, throwThe, MonadExceptOf.throw]

theorem ne_palletAccount_of_origin {T : Config AccountId L} {who : AccountId}
    (h : Origin.signed who ≠ .signed T.palletAccount) : who ≠ T.palletAccount :=
  fun hw => h (congrArg Origin.signed hw)

theorem bind_eq_ok {α β : Type} {x : Except DispatchError α} {f : α → Except DispatchError β}
    {b : β} : x >>= f = .ok b ↔ ∃ a, x = .ok a ∧ f a = .ok b := by
  cases x <;> simp [bind, Except.bind]

@[simp] theorem pure_eq_ok {α : Type} {a b : α} : (pure a : Except DispatchError α) = .ok b ↔ a = b := by
  simp [pure, Except.pure]

@[simp] theorem throw_ne_ok {α : Type} {e : DispatchError} {b : α} :
    (throw e : Except DispatchError α) ≠ .ok b := by
  simp [throw, throwThe, MonadExceptOf.throw]

theorem toOption_eq_some {α : Type} {x : Except DispatchError α} {a : α} :
    x.toOption = some a ↔ x = .ok a := by
  cases x <;> simp [Except.toOption]

end Setheum.Swap
