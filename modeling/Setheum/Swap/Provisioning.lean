import Setheum.Swap.Obligation
import Setheum.Swap.Reference

/-!
# A founder's provision after an abort

`abort_provisioning` sets a pair that missed its target to `Disabled` and
leaves its `InitialShareExchangeRates` at the default, so that founders take
their provisions back with `refund_provision`. `claim_dex_share` only refuses
a pair that is still `Provisioning`: on an aborted pair it deletes the owner's
entry and pays the shares of the default rates, which are zero. Any signed
account may call it for any owner, so a founder's provision can be taken out
of reach before the founder asks for it back: it stays in the DEX account and
`refund_provision` no longer finds an entry to pay.
-/

namespace Setheum.Swap

open Transition

variable {AccountId L : Type} [DecidableEq AccountId] [Fintype AccountId] {T : Config AccountId L}

/-- With the default rates a successful `claim_dex_share` deletes the owner's
entry of the pair and moves no balance of any account. -/
theorem claimDexShare_of_defaultRates (hT : T.Lawful) {s s' : State AccountId L}
    {signer owner : AccountId} {a b : CurrencyId} {p : TradingPair}
    (hp : TradingPair.fromCurrencyIds a b = some p)
    (hr : s.initialShareExchangeRates p = defaultRates)
    (h : dispatch T s (.signed signer) (.claimDexShare owner a b) = .ok s') :
    s'.provisioningPool p owner = none ∧
      ∀ c who, T.currency.freeBalance s'.ledger c who = T.currency.freeBalance s.ledger c who := by
  simp only [dispatch, bind_eq_ok, ensureSigned_eq_ok] at h
  obtain ⟨_, -, h⟩ := h
  obtain ⟨q, hq, -, s₁, hs₁, rfl⟩ := doClaimDexShare_ok T h
  obtain rfl : q = p := Option.some.inj (hq.symm.trans hp)
  have hs₁' : s₁.provisioningPool q owner = none ∧
      ∀ c who, T.currency.freeBalance s₁.ledger c who = T.currency.freeBalance s.ledger c who := by
    rcases hs₁ with ⟨hnone, rfl⟩ | ⟨e, l, -, -, hl, rfl⟩
    · exact ⟨hnone, fun _ _ => rfl⟩
    · refine ⟨by simp, fun c who => ?_⟩
      rw [hr, founderShares_default] at hl
      simpa using hT.transfer_balance hl c who
  split_ifs
  · exact hs₁'
  · exact hs₁'

namespace Reference

/-- At genesis Alice and Bob hold 1000 of each token, and nobody holds anything else. -/
def genesisBalances : Balances Account := fun c a =>
  match a, c with
  | .alice, .token _ => 1000
  | .bob, .token _ => 1000
  | _, _ => 0

theorem seu_lt_seusd : CurrencyId.token .SEU < .token .SEUSD := by decide

/-- The pair of the two tokens. -/
def seuSeusd : TradingPair :=
  ⟨.token .SEU, .token .SEUSD, seu_lt_seusd, CurrencyId.isTradingPairCurrencyId_token .SEU,
    CurrencyId.isTradingPairCurrencyId_token .SEUSD⟩

/-- Root lists the pair with a target of 1000 of each token and `not_before`
5; Alice provides 100 of each; eight blocks pass; Bob aborts. -/
def abortRun : List (Action Account) :=
  [.call .root (.listProvisioning (.token .SEU) (.token .SEUSD) 10 10 1000 1000 5),
    .call (.signed .alice) (.addProvision (.token .SEU) (.token .SEUSD) 100 100),
    .newBlock, .newBlock, .newBlock, .newBlock, .newBlock, .newBlock, .newBlock, .newBlock,
    .call (.signed .bob) (.abortProvisioning (.token .SEU) (.token .SEUSD))]

/-- The state after `abortRun`, from the genesis of an empty `GenesisConfig`. -/
def aborted : State Account (Balances Account) :=
  (system testConfig).run (State.empty genesisBalances 0) abortRun

theorem aborted_reachable : Reachable (system testConfig) aborted := by
  have h0 : (system testConfig).init (State.empty genesisBalances 0) :=
    ⟨⟨[], [], []⟩, genesisBalances, 0, by simp, rfl⟩
  exact (Reachable.init h0).run abortRun

/-- After the abort Alice's entry of 100 of each token is on record and she
holds 900 of each; Bob's `claim_dex_share` for her succeeds, deletes the entry
and leaves every balance where it was. -/
theorem claimDexShare_after_abort :
    Reachable (system testConfig) aborted ∧
      aborted.tradingPairStatuses seuSeusd = .disabled ∧
      aborted.provisioningPool seuSeusd .alice = some (100, 100) ∧
      aborted.ledger (.token .SEU) .alice = 900 ∧ aborted.ledger (.token .SEUSD) .alice = 900 ∧
      ∃ s', dispatch testConfig aborted (.signed .bob) (.claimDexShare .alice (.token .SEU)
          (.token .SEUSD)) = .ok s' ∧
        s'.provisioningPool seuSeusd .alice = none ∧
        ∀ c who, testConfig.currency.freeBalance s'.ledger c who =
          testConfig.currency.freeBalance aborted.ledger c who := by
  obtain ⟨s', hs'⟩ : ∃ s', dispatch testConfig aborted (.signed .bob)
      (.claimDexShare .alice (.token .SEU) (.token .SEUSD)) = .ok s' := by
    cases h : dispatch testConfig aborted (.signed .bob)
        (.claimDexShare .alice (.token .SEU) (.token .SEUSD)) with
    | ok s' => exact ⟨s', rfl⟩
    | error e =>
        have hok : (dispatch testConfig aborted (.signed .bob)
            (.claimDexShare .alice (.token .SEU) (.token .SEUSD))).toBool = true := by
          decide
        rw [h] at hok
        cases hok
  exact ⟨aborted_reachable, by decide, by decide, by decide,
    by decide, s', hs',
    claimDexShare_of_defaultRates testConfig_lawful (by decide) (by decide) hs'⟩

end Reference

end Setheum.Swap
