import Setheum.Lib.Result
import Setheum.Primitives.Arithmetic
import Setheum.Primitives.Currency

/-!
# Transaction fees

`ChargeTransactionPayment` withdraws the fee of a signed extrinsic before it
is dispatched (`pre_dispatch`) and refunds the unused part afterwards
(`post_dispatch`). The fee is the inclusion fee (base, length and weight fee,
the last scaled by `NextFeeMultiplier`) plus the tip; when the payer's native
balance is short, the fee is bought by a swap that costs a surplus on top.

The weight types and the post-dispatch helpers (`total_weight`,
`calc_actual_weight`, `calc_unspent`, `pays_fee`) are those of
`frame_support`. The fee functions of the runtime, the native currency and
the swaps that buy the fee in another currency are parameters.
-/

namespace Setheum.TransactionPayment

open Result

/-! ## Weights and dispatch information -/

/-- `Weight`: reference time and proof size, each a `u64`. -/
structure Weight where
  refTime : Nat
  proofSize : Nat
  deriving DecidableEq, Repr

namespace Weight

/-- `Weight::zero()`. -/
def zero : Weight := ⟨0, 0⟩

/-- `Weight::saturating_add`, per component. -/
def saturatingAdd (a b : Weight) : Weight :=
  ⟨min (a.refTime + b.refTime) (2 ^ 64 - 1), min (a.proofSize + b.proofSize) (2 ^ 64 - 1)⟩

/-- `Weight::min`, per component. -/
def min (a b : Weight) : Weight := ⟨Nat.min a.refTime b.refTime, Nat.min a.proofSize b.proofSize⟩

/-- `Weight - Weight`, per component. -/
def sub (a b : Weight) : Weight := ⟨a.refTime - b.refTime, a.proofSize - b.proofSize⟩

end Weight

inductive Pays where
  | yes
  | no
  deriving DecidableEq, Repr

inductive DispatchClass where
  | normal
  | operational
  | mandatory
  deriving DecidableEq, Repr

/-- `DispatchInfo`. -/
structure DispatchInfo where
  callWeight : Weight
  extensionWeight : Weight
  «class» : DispatchClass
  paysFee : Pays
  deriving DecidableEq, Repr

/-- `PostDispatchInfo`. -/
structure PostDispatchInfo where
  actualWeight : Option Weight
  paysFee : Pays
  deriving DecidableEq, Repr

/-- `DispatchInfo::total_weight`: the call's and the extensions' weight. -/
def DispatchInfo.totalWeight (info : DispatchInfo) : Weight :=
  info.callWeight.saturatingAdd info.extensionWeight

namespace PostDispatchInfo

/-- `calc_actual_weight`: the reported weight, at most the total weight. -/
def calcActualWeight (post : PostDispatchInfo) (info : DispatchInfo) : Weight :=
  match post.actualWeight with
  | some actualWeight => actualWeight.min info.totalWeight
  | none => info.totalWeight

/-- `calc_unspent`: the total weight less the actual weight. -/
def calcUnspent (post : PostDispatchInfo) (info : DispatchInfo) : Weight :=
  info.totalWeight.sub (post.calcActualWeight info)

/-- `pays_fee`: no fee if either the call or its result says so. -/
def paysFee' (post : PostDispatchInfo) (info : DispatchInfo) : Pays :=
  if info.paysFee = .no ∨ post.paysFee = .no then .no else .yes

end PostDispatchInfo

/-! ## Fees -/

/-- `InclusionFee`. -/
structure InclusionFee where
  baseFee : Nat
  lenFee : Nat
  adjustedWeightFee : Nat
  deriving DecidableEq, Repr

/-- `FeeDetails`. -/
structure FeeDetails where
  inclusionFee : Option InclusionFee
  tip : Nat
  deriving DecidableEq, Repr

/-- `InclusionFee::inclusion_fee`. -/
def InclusionFee.inclusionFee (f : InclusionFee) : Nat :=
  Balance.saturatingAdd (Balance.saturatingAdd f.baseFee f.lenFee) f.adjustedWeightFee

/-- `FeeDetails::final_fee`. -/
def FeeDetails.finalFee (d : FeeDetails) : Nat :=
  Balance.saturatingAdd ((d.inclusionFee.map InclusionFee.inclusionFee).getD 0) d.tip

/-- The native currency, as far as the pallet uses it. -/
structure Currency (AccountId L : Type) where
  freeBalance : L → AccountId → Nat
  minimumBalance : Nat
  /-- `ensure_can_withdraw(who, amount, reasons, new_balance)`. -/
  ensureCanWithdraw : L → AccountId → Nat → Nat → Bool
  /-- `withdraw(who, amount, reasons, KeepAlive)`. -/
  withdraw : L → AccountId → Nat → Option L
  depositIntoExisting : L → AccountId → Nat → Option L

/-- `Config` of the pallet: the runtime's weight and length fees, its block
weights, the native currency, and the swaps that buy the fee in another
currency (`charge_fee_currency`, and the alternative path of
`native_then_alternative_or_default`), each returning the surplus charged. -/
structure Config (AccountId L : Type) where
  weightToFee : Weight → Nat
  lengthToFee : Weight → Nat
  maxBlock : Weight
  baseExtrinsic : DispatchClass → Weight
  currency : Currency AccountId L
  chargeFeeCurrency : L → AccountId → Nat → CurrencyId → Option (AccountId × Nat × L)
  alternativeOrDefault : L → AccountId → Nat → Nat → Option (Nat × L)

/-- The storage the fee reads, and the currency's ledger. -/
structure State (L : Type) where
  nextFeeMultiplier : FixedU128
  ledger : L

variable {AccountId L : Type} (T : Config AccountId L)

/-- `length_to_fee`. -/
def lengthToFee (length : Nat) : Nat := T.lengthToFee ⟨length, 0⟩

/-- `weight_to_fee`: the weight is capped by the block's. -/
def weightToFee (weight : Weight) : Nat := T.weightToFee (weight.min T.maxBlock)

/-- `compute_fee_raw`. -/
def computeFeeRaw (s : State L) (len : Nat) (weight : Weight) (tip : Nat) (paysFee : Pays)
    (dispatchClass : DispatchClass) : FeeDetails :=
  if paysFee = .yes then
    let lenFee := lengthToFee T len
    let unadjustedWeightFee := weightToFee T weight
    let adjustedWeightFee := s.nextFeeMultiplier.saturatingMulInt unadjustedWeightFee
    let baseFee := weightToFee T (T.baseExtrinsic dispatchClass)
    ⟨some ⟨baseFee, lenFee, adjustedWeightFee⟩, tip⟩
  else ⟨none, tip⟩

/-- `compute_fee`: from the call's weight. -/
def computeFee (s : State L) (len : Nat) (info : DispatchInfo) (tip : Nat) : Nat :=
  (computeFeeRaw T s len info.callWeight tip info.paysFee info.class).finalFee

/-- `compute_actual_fee`: from the actual weight. -/
def computeActualFee (s : State L) (len : Nat) (info : DispatchInfo) (post : PostDispatchInfo)
    (tip : Nat) : Nat :=
  (computeFeeRaw T s len (post.calcActualWeight info) tip (post.paysFee' info) info.class).finalFee

/-! ## Charging the fee -/

/-- `check_native_is_not_enough`: `None` when the native balance pays the fee
and keeps the existential deposit, else the amount to buy. -/
def checkNativeIsNotEnough (l : L) (who : AccountId) (fee : Nat) : Option Nat :=
  let nativeExistentialDeposit := T.currency.minimumBalance
  let totalNative := T.currency.freeBalance l who
  if Balance.saturatingAdd fee nativeExistentialDeposit ≤ totalNative then
    match Balance.checkedSub totalNative fee with
    | some newFreeBalance =>
        if T.currency.ensureCanWithdraw l who fee newFreeBalance then none else some fee
    | none => some fee
  else some (Balance.saturatingAdd fee (nativeExistentialDeposit - totalNative))

/-- The call an extrinsic carries, as far as the fee is concerned:
`with_fee_currency` names the currency to pay in. -/
inductive FeeCall where
  | withFeeCurrency (currencyId : CurrencyId)
  | other

/-- `native_then_alternative_or_default`: no surplus when the native balance
pays, else the alternative paths. -/
def nativeThenAlternativeOrDefault (l : L) (who : AccountId) (fee : Nat) : Option (Nat × L) :=
  match checkNativeIsNotEnough T l who fee with
  | some amount => T.alternativeOrDefault l who fee amount
  | none => some (0, l)

/-- `ensure_can_charge_fee_with_call`: the payer and the surplus. -/
def ensureCanChargeFeeWithCall (l : L) (who : AccountId) (fee : Nat) :
    FeeCall → Option (AccountId × Nat × L)
  | .withFeeCurrency currencyId =>
      let fee := (checkNativeIsNotEnough T l who fee).getD fee
      T.chargeFeeCurrency l who fee currencyId
  | .other => (nativeThenAlternativeOrDefault T l who fee).map fun (surplus, l) => (who, surplus, l)

/-- `TransactionValidityError`, as far as the pallet raises it. -/
inductive TransactionValidityError where
  | payment
  /-- A panic of the source. -/
  | panicked
  deriving DecidableEq, Repr

/-- `Pre` of the extension: the tip, the payer, the withdrawn imbalance (its
amount), the fee with the surplus, and the surplus. -/
structure Pre (AccountId : Type) where
  tip : Nat
  payer : AccountId
  payed : Option Nat
  fee : Nat
  surplus : Nat

/-- `withdraw_fee`, then `pre_dispatch`: nothing is withdrawn for a zero fee;
otherwise the fee and the surplus, from the payer, keeping it alive. -/
def preDispatch (s : State L) (tip : Nat) (who : AccountId) (call : FeeCall) (info : DispatchInfo)
    (len : Nat) : Except TransactionValidityError (Pre AccountId × State L) :=
  let fee := computeFee T s len info tip
  if fee = 0 then pure (⟨tip, who, none, fee, 0⟩, s)
  else do
    let (payer, feeSurplus, l) ←
      okOr (ensureCanChargeFeeWithCall T s.ledger who fee call) .payment
    let l ← okOr (T.currency.withdraw l payer (fee + feeSurplus)) .payment
    pure (⟨tip, payer, some (fee + feeSurplus), fee + feeSurplus, feeSurplus⟩, { s with ledger := l })

/-- The refund `post_dispatch` computes: the unused fee, the tip refunded at
the tip's rate per unit of call weight times the unspent weight, less the
surplus the actual fee costs; and the tip actually paid. -/
def refundOf (s : State L) (pre : Pre AccountId) (info : DispatchInfo) (post : PostDispatchInfo)
    (len : Nat) : Except TransactionValidityError (Nat × Nat) := do
  let actualFee := computeActualFee T s len info post pre.tip
  let refundFee := pre.fee - actualFee
  let (refund, actualTip) :=
    if pre.tip ≠ 0 ∧ info.callWeight.refTime ≠ 0 then
      let refundTip := Balance.saturatingMul (pre.tip / info.callWeight.refTime)
        (post.calcUnspent info).refTime
      (Balance.saturatingAdd refundFee refundTip, pre.tip - refundTip)
    else (refundFee, pre.tip)
  let rate ← okOr (FixedU128.saturatingFromRational pre.surplus (pre.fee - pre.surplus)) .panicked
  let actualSurplus := rate.saturatingMulInt actualFee
  pure (refund - actualSurplus, actualTip)

/-- `post_dispatch`: the refund is deposited into the payer, and what is left
of the withdrawn amount goes to `OnTransactionPayment` as the fee and the
tip; a refund above the withdrawn amount is an error. -/
def postDispatch (s : State L) (pre : Option (Pre AccountId)) (info : DispatchInfo)
    (post : PostDispatchInfo) (len : Nat) :
    Except TransactionValidityError (State L × Option (Nat × Nat)) :=
  match pre with
  | some pre =>
      match pre.payed with
      | some payed => do
          let (refund, actualTip) ← refundOf T s pre info post len
          let (actualPayment, l) ←
            match T.currency.depositIntoExisting s.ledger pre.payer refund with
            | some l =>
                -- `payed.offset(refund_imbalance)`
                if refund ≤ payed then pure (payed - refund, l) else throw .payment
            | none => pure (payed, s.ledger)
          -- `actual_payment.split(actual_tip)`: the tip part first
          let tipPart := Nat.min actualTip actualPayment
          pure ({ s with ledger := l }, some (actualPayment - tipPart, tipPart))
      | none => pure (s, none)
  | none => pure (s, none)

end Setheum.TransactionPayment
