import Setheum.TransactionPayment.Pallet

/-!
# The refund of `post_dispatch`

The fee withdrawn up front is computed from the call's weight alone, but the
refund is computed over the total weight, the extensions' weight included:
the tip is refunded at its rate per unit of call weight times the unspent
total weight. For a call that reports less weight than it declared, the tip
refund alone can exceed everything that was withdrawn, and `post_dispatch`
then fails on `payed.offset(refund)`, after the dispatch.
-/

namespace Setheum.TransactionPayment

open Result

variable {AccountId L : Type} (T : Config AccountId L)

theorem tip_le_finalFee (i : Option InclusionFee) {tip : Nat} (h : tip < 2 ^ 128) :
    tip ≤ (⟨i, tip⟩ : FeeDetails).finalFee := by
  unfold FeeDetails.finalFee Balance.saturatingAdd
  dsimp only
  omega

theorem tip_le_computeFee {s : State L} {len tip : Nat} {info : DispatchInfo} (h : tip < 2 ^ 128) :
    tip ≤ computeFee T s len info tip := by
  unfold computeFee computeFeeRaw
  split_ifs <;> exact tip_le_finalFee _ h

theorem preDispatch_ok {s s' : State L} {tip len : Nat} {who : AccountId} {call : FeeCall}
    {info : DispatchInfo} {pre : Pre AccountId} (hfee : computeFee T s len info tip ≠ 0)
    (h : preDispatch T s tip who call info len = .ok (pre, s')) :
    pre.tip = tip ∧ pre.payed = some pre.fee ∧ pre.fee = computeFee T s len info tip + pre.surplus := by
  unfold preDispatch at h
  rw [if_neg hfee] at h
  simp only [bind_eq_ok, okOr_eq_ok, pure_eq_ok] at h
  obtain ⟨⟨payer, surplus, l⟩, -, l', -, h⟩ := h
  obtain ⟨rfl, -⟩ := Prod.mk.inj h
  exact ⟨rfl, rfl, rfl⟩

theorem refundOf_of_surplus_zero (s : State L) (post : PostDispatchInfo) (len : Nat)
    {pre : Pre AccountId} {info : DispatchInfo} (hsurplus : pre.surplus = 0) (hfee : pre.fee ≠ 0)
    (htip : pre.tip ≠ 0) (hcall : info.callWeight.refTime ≠ 0) :
    ∃ refund actualTip, refundOf T s pre info post len = .ok (refund, actualTip) ∧
      Balance.saturatingMul (pre.tip / info.callWeight.refTime) (post.calcUnspent info).refTime ≤
        refund := by
  have hrate : FixedU128.saturatingFromRational pre.surplus (pre.fee - pre.surplus) =
      some FixedU128.zero := by
    rw [hsurplus, Nat.sub_zero]
    simp [FixedU128.saturatingFromRational, FixedU128.checkedFromRational, hfee, FixedU128.zero]
  let actualFee := computeActualFee T s len info post pre.tip
  let refundTip := Balance.saturatingMul (pre.tip / info.callWeight.refTime) (post.calcUnspent info).refTime
  refine ⟨Balance.saturatingAdd (pre.fee - actualFee) refundTip - FixedU128.zero.saturatingMulInt actualFee,
    pre.tip - refundTip, ?_, ?_⟩
  · simp only [refundOf, htip, hcall, ne_eq, not_false_eq_true, and_self, if_true, hrate, okOr]
    rfl
  · simp only [FixedU128.saturatingMulInt, FixedU128.zero, Nat.zero_mul, Nat.zero_div]
    unfold Balance.saturatingAdd
    have : refundTip ≤ 2 ^ 128 - 1 := min_le_right _ _
    omega

/-- After a fee paid in native currency with a tip, `post_dispatch` fails
whenever the tip refund exceeds the fee charged up front and the refund can be
deposited: the refund is then more than was withdrawn. -/
theorem postDispatch_refund_exceeds_payment {s s₁ s₂ : State L} {tip len : Nat} {who : AccountId}
    {call : FeeCall} {info : DispatchInfo} {post : PostDispatchInfo} {pre : Pre AccountId}
    (htipLt : tip < 2 ^ 128)
    (hpre : preDispatch T s tip who call info len = .ok (pre, s₁)) (hsurplus : pre.surplus = 0)
    (hrefund : computeFee T s len info tip <
      Balance.saturatingMul (tip / info.callWeight.refTime) (post.calcUnspent info).refTime)
    (hdeposit : ∀ amount, (T.currency.depositIntoExisting s₂.ledger pre.payer amount).isSome) :
    postDispatch T s₂ (some pre) info post len = .error .payment := by
  have htip : tip ≠ 0 := by
    rintro rfl
    simp [Balance.saturatingMul] at hrefund
  have hcall : info.callWeight.refTime ≠ 0 := by
    intro h0
    simp [h0, Balance.saturatingMul] at hrefund
  have hfee : computeFee T s len info tip ≠ 0 :=
    Nat.pos_iff_ne_zero.1 (lt_of_lt_of_le (Nat.pos_of_ne_zero htip) (tip_le_computeFee T htipLt))
  obtain ⟨rfl, hpayed, hfeeEq⟩ := preDispatch_ok T hfee hpre
  rw [hsurplus, Nat.add_zero] at hfeeEq
  obtain ⟨refund, actualTip, hrefundOf, hle⟩ := refundOf_of_surplus_zero T s₂ post len
    hsurplus (by rw [hfeeEq]; exact hfee) htip hcall
  obtain ⟨l, hl⟩ := Option.isSome_iff_exists.1 (hdeposit refund)
  have hgt : ¬ refund ≤ pre.fee := by omega
  simp only [postDispatch, hpayed, hrefundOf, ok_bind, hl, if_neg hgt]
  rfl

namespace Reference

inductive Account where
  | alice
  | bob
  deriving DecidableEq, Repr

/-- Free native balances. -/
abbrev Ledger := Account → Nat

/-- A native currency with an existential deposit of 10 and no locks: a
withdrawal keeps the account alive, and a deposit needs a live account. -/
def nativeCurrency : Currency Account Ledger where
  freeBalance l who := l who
  minimumBalance := 10
  ensureCanWithdraw _ _ _ _ := true
  withdraw l who amount := if amount + 10 ≤ l who then some (Function.update l who (l who - amount)) else none
  depositIntoExisting l who amount := if l who ≠ 0 then some (Function.update l who (l who + amount)) else none

/-- The pallet's test runtime: a weight fee of 1 per unit of reference time,
a length fee of 2 per byte, no base weight, and no swap to buy the fee with. -/
def mockConfig : Config Account Ledger where
  weightToFee w := w.refTime
  lengthToFee w := 2 * w.refTime
  maxBlock := ⟨1024, 2 ^ 64 - 1⟩
  baseExtrinsic _ := Weight.zero
  currency := nativeCurrency
  chargeFeeCurrency _ _ _ _ := none
  alternativeOrDefault _ _ _ _ := none

/-- Alice holds 100000; the multiplier is one. -/
def genesisState : State Ledger := ⟨FixedU128.one, fun w => if w = .alice then 100000 else 0⟩

/-- A call of weight 1 under extensions of weight 1. -/
def info : DispatchInfo := ⟨⟨1, 0⟩, ⟨1, 0⟩, .normal, .yes⟩

/-- Alice sends a call of 10 bytes with a tip of 100: 121 is withdrawn. When
the call reports no weight, the fee computed afterwards (122) is above the
fee withdrawn; when it reports a weight of zero, the tip refund is 100 per
unit over two units, and `post_dispatch` fails. -/
theorem postDispatch_refund_exceeds_payment_reference :
    computeFee mockConfig genesisState 10 info 100 <
        computeActualFee mockConfig genesisState 10 info ⟨none, .yes⟩ 100 ∧
      ∃ pre s₁, preDispatch mockConfig genesisState 100 .alice .other info 10 = .ok (pre, s₁) ∧
        postDispatch mockConfig s₁ (some pre) info ⟨some Weight.zero, .yes⟩ 10 = .error .payment := by
  have hpre : preDispatch mockConfig genesisState 100 .alice .other info 10 =
      .ok (⟨100, .alice, some 121, 121, 0⟩,
        { genesisState with ledger := Function.update genesisState.ledger .alice (100000 - 121) }) := rfl
  refine ⟨by decide, _, _, hpre, ?_⟩
  exact postDispatch_refund_exceeds_payment mockConfig (by decide) hpre rfl (by decide)
    (fun amount => by simp [mockConfig, nativeCurrency, genesisState])

end Reference

end Setheum.TransactionPayment
