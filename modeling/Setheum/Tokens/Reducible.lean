import Setheum.Tokens.Dust

/-!
# The reducible balance against the checks of a transfer

`reducible_balance` of the `fungibles::Inspect` implementation computes what
an account can give away with its own formula: the liquid balance, free less
frozen, less what must stay for the account's total to reach the existential
deposit. `do_transfer` checks the sender inline: its free balance, the frozen
part (`ensure_can_withdraw`) and `would_be_dead`. The two agree while the
account's total does not saturate: under `Protect` a transfer of the reducible
balance passes every check of the sender and leaves it alive, and any larger
amount it holds fails; under `Expendable`, with a provider to spare, the
reducible balance is the liquid balance and bounds what a transfer may take.
-/

namespace Setheum.Tokens

open Result

variable {AccountId CurrencyId LockId : Type} [DecidableEq AccountId] [DecidableEq CurrencyId]

/-- `Preservation` of `frame_support::traits::tokens`. -/
inductive Preservation where
  | expendable
  | protect
  | preserve
  deriving DecidableEq, Repr

variable (T : Config AccountId CurrencyId) (dust : DustHook AccountId CurrencyId LockId)

/-- `fungibles::Inspect::reducible_balance`; its `Fortitude` argument is not
read. -/
def reducibleBalance (s : State AccountId CurrencyId LockId) (c : CurrencyId) (who : AccountId)
    (preservation : Preservation) : Nat :=
  let a := s.account who c
  -- Liquid balance is what is neither reserved nor locked/frozen.
  let liquid := a.free - a.frozen
  if T.canDecProvider who && !(preservation == .protect || preservation == .preserve) then liquid
  else
    -- the part of the liquid balance that must remain to keep the total over the deposit
    let mustRemainToExist := T.existentialDeposits c - (a.total - liquid)
    liquid - mustRemainToExist

/-- The recipient's half of the checks of `do_transfer`: its free balance can
take `amount`, and it is left at or above the existential deposit or is on
the whitelist. -/
def RecipientAccepts (s : State AccountId CurrencyId LockId) (c : CurrencyId) (dst : AccountId)
    (amount : Nat) : Prop :=
  (s.account dst c).free + amount < 2 ^ 128 ∧
    (T.existentialDeposits c ≤ { s.account dst c with free := (s.account dst c).free + amount }.total ∨
      T.dustRemovalWhitelist dst = true)

instance (s : State AccountId CurrencyId LockId) (c : CurrencyId) (dst : AccountId) (amount : Nat) :
    Decidable (RecipientAccepts T s c dst amount) :=
  inferInstanceAs (Decidable (_ ∧ _))

variable {T}

omit [DecidableEq AccountId] [DecidableEq CurrencyId] in
theorem reducibleBalance_protect (s : State AccountId CurrencyId LockId) (c : CurrencyId) (who : AccountId) :
    reducibleBalance T s c who .protect =
      ((s.account who c).free - (s.account who c).frozen) -
        (T.existentialDeposits c - ((s.account who c).total - ((s.account who c).free - (s.account who c).frozen))) := by
  simp [reducibleBalance]

omit [DecidableEq AccountId] [DecidableEq CurrencyId] in
theorem reducibleBalance_expendable {s : State AccountId CurrencyId LockId} {c : CurrencyId} {who : AccountId}
    (h : T.canDecProvider who = true) :
    reducibleBalance T s c who .expendable = (s.account who c).free - (s.account who c).frozen := by
  simp [reducibleBalance, h]

/-! ## The checks of `do_transfer` -/

omit [DecidableEq AccountId] [DecidableEq CurrencyId] in
theorem ensureCanWithdraw_eq_ok_iff {s : State AccountId CurrencyId LockId} {c : CurrencyId} {who : AccountId}
    {amount : Nat} :
    ensureCanWithdraw s c who amount = .ok () ↔
      amount = 0 ∨ amount + (s.account who c).frozen ≤ (s.account who c).free := by
  unfold ensureCanWithdraw
  split_ifs with h0
  · simp [h0]
  · simp only [bind_eq_ok, okOr_eq_ok, Balance.checkedSub_eq_some, ensure_eq_ok, decide_eq_true_eq]
    constructor
    · rintro ⟨_, ⟨hle, rfl⟩, hfrozen⟩
      omega
    · rintro (h | h)
      · exact absurd h h0
      · exact ⟨_, ⟨by omega, rfl⟩, by omega⟩

omit [DecidableEq AccountId] [DecidableEq CurrencyId] in
theorem wouldBeDead_eq_false_iff {who : AccountId} {c : CurrencyId} {account : AccountData}
    (hwl : T.dustRemovalWhitelist who = false) :
    wouldBeDead T who c account = false ↔ T.existentialDeposits c ≤ account.total := by
  unfold wouldBeDead
  split_ifs with hlt h0
  · simp only [false_iff]
    omega
  · simp only [hwl, Bool.not_false, Bool.true_eq_false, false_iff]
    omega
  · simp only [true_iff]
    omega

/-- A transfer between two accounts succeeds exactly when every check of its
closure passes; the sender is then stored first, then the recipient as read
before, credited. -/
theorem doTransfer_eq_ok_iff {c : CurrencyId} {src dst : AccountId} {amount : Nat}
    {req : ExistenceRequirement} {s s' : State AccountId CurrencyId LockId} (hne : amount ≠ 0)
    (hsd : src ≠ dst) :
    doTransfer T dust c src dst amount req s = .ok s' ↔
      ∃ free toFree, Balance.checkedSub (s.account src c).free amount = some free ∧
        Balance.checkedAdd (s.account dst c).free amount = some toFree ∧
        (decide (T.existentialDeposits c ≤ { s.account dst c with free := toFree }.total) ||
          T.dustRemovalWhitelist dst) = true ∧
        ensureCanWithdraw s c src amount = .ok () ∧
        ((req == .allowDeath && T.canDecProvider src) ||
          !wouldBeDead T src c { s.account src c with free }) = true ∧
        s' = (storeAccount T dust dst c { s.account dst c with free := toFree }
          (storeAccount T dust src c { s.account src c with free } s).2).2 := by
  unfold doTransfer
  rw [if_neg (by simp [hne, hsd])]
  simp only [tryMutateAccount, bind_eq_ok, pure_eq_ok, okOr_eq_ok, ensure_eq_ok]
  constructor
  · rintro ⟨_, ⟨_, ⟨_, ⟨_, ⟨free, hfree, toFree, hto, -, hed, ⟨⟩, hcw, -, hka, rfl⟩, rfl⟩, rfl⟩, rfl⟩, rfl⟩
    exact ⟨free, toFree, hfree, hto, hed, hcw, hka, rfl⟩
  · rintro ⟨free, toFree, hfree, hto, hed, hcw, hka, rfl⟩
    exact ⟨_, ⟨_, ⟨_, ⟨_, ⟨free, hfree, toFree, hto, (), hed, (), hcw, (), hka, rfl⟩, rfl⟩, rfl⟩, rfl⟩, rfl⟩

omit [DecidableEq AccountId] [DecidableEq CurrencyId] in
theorem AccountData.total_eq {a : AccountData} (h : a.free + a.reserved < 2 ^ 128) :
    a.total = a.free + a.reserved :=
  Balance.saturatingAdd_eq h

/-! ## Agreement -/

section Agreement

variable {s : State AccountId CurrencyId LockId} {c : CurrencyId} {who dst : AccountId}

/-- A transfer from `who` to another account of an amount that passes the
sender's checks, to a recipient that accepts it, succeeds and stores the
sender's account as debited. -/
theorem doTransfer_of_checks {amount : Nat} {req : ExistenceRequirement} (hdst : who ≠ dst)
    (hne : amount ≠ 0) (hfree : amount + (s.account who c).frozen ≤ (s.account who c).free)
    (halive : ((req == .allowDeath && T.canDecProvider who) ||
      !wouldBeDead T who c { s.account who c with free := (s.account who c).free - amount }) = true)
    (hdstOk : RecipientAccepts T s c dst amount) :
    ∃ s', doTransfer T dust c who dst amount req s = .ok s' := by
  obtain ⟨hfits, hed⟩ := hdstOk
  refine ⟨_, (doTransfer_eq_ok_iff dust hne hdst).mpr
    ⟨_, (s.account dst c).free + amount, ?_, ?_, ?_, ?_, halive, rfl⟩⟩
  · exact Balance.checkedSub_eq_some.mpr ⟨by omega, rfl⟩
  · exact Balance.checkedAdd_eq_some.mpr ⟨hfits, rfl⟩
  · rcases hed with hed | hed <;> simp [hed]
  · exact ensureCanWithdraw_eq_ok_iff.mpr (.inr hfree)

theorem checks_of_doTransfer {amount : Nat} {req : ExistenceRequirement} {s' : State AccountId CurrencyId LockId}
    (hdst : who ≠ dst) (hne : amount ≠ 0) (h : doTransfer T dust c who dst amount req s = .ok s') :
    amount + (s.account who c).frozen ≤ (s.account who c).free ∧
      ((req == .allowDeath && T.canDecProvider who) ||
        !wouldBeDead T who c { s.account who c with free := (s.account who c).free - amount }) = true := by
  obtain ⟨free, -, hfree, -, -, hcw, halive, -⟩ := (doTransfer_eq_ok_iff dust hne hdst).mp h
  obtain ⟨-, rfl⟩ := Balance.checkedSub_eq_some.mp hfree
  exact ⟨(ensureCanWithdraw_eq_ok_iff.mp hcw).resolve_left hne, halive⟩

theorem account_doTransfer {amount : Nat} {req : ExistenceRequirement} {s' : State AccountId CurrencyId LockId}
    (hdst : who ≠ dst) (hne : amount ≠ 0)
    (hed : T.existentialDeposits c ≤ { s.account who c with free := (s.account who c).free - amount }.total)
    (h : doTransfer T dust c who dst amount req s = .ok s') :
    s'.account who c = { s.account who c with free := (s.account who c).free - amount } := by
  obtain ⟨free, toFree, hfree, hto, hdstEd, -, -, rfl⟩ := (doTransfer_eq_ok_iff dust hne hdst).mp h
  obtain ⟨-, rfl⟩ := Balance.checkedSub_eq_some.mp hfree
  obtain ⟨-, rfl⟩ := Balance.checkedAdd_eq_some.mp hto
  have hsrc : settle T who c { s.account who c with free := (s.account who c).free - amount } =
      (some { s.account who c with free := (s.account who c).free - amount }, none) := by
    simp [settle, Nat.not_lt.mpr hed]
  have hdst0 : { s.account dst c with free := (s.account dst c).free + amount }.total ≠ 0 := by
    simp only [AccountData.total, Balance.saturatingAdd]
    omega
  rw [storeAccount_of_settle T dust s hsrc, storeAccount_of_settle T dust _ (settle_of_admitted T hdstEd hdst0),
    State.account_setAccount, if_neg fun h => hdst h.1, State.account_setAccount, if_pos ⟨rfl, rfl⟩]
  rfl

/-- Under `Expendable`, with a provider to spare, the reducible balance is the
liquid balance: every nonzero amount up to it passes an `AllowDeath` transfer
to a recipient that accepts it, and every larger amount fails. -/
theorem doTransfer_reducibleBalance_expendable (hdec : T.canDecProvider who = true) (hdst : who ≠ dst) :
    reducibleBalance T s c who .expendable = (s.account who c).free - (s.account who c).frozen ∧
      (∀ amount, 0 < amount → amount ≤ reducibleBalance T s c who .expendable →
        RecipientAccepts T s c dst amount → ∃ s', doTransfer T dust c who dst amount .allowDeath s = .ok s') ∧
      ∀ amount, reducibleBalance T s c who .expendable < amount →
        ∀ s', doTransfer T dust c who dst amount .allowDeath s ≠ .ok s' := by
  have hr := reducibleBalance_expendable (s := s) (c := c) hdec
  refine ⟨hr, fun amount hpos hle hdstOk => ?_, fun amount hlt s' h => ?_⟩
  · -- the sender may die: only its free and frozen balances are checked
    have halive : ((ExistenceRequirement.allowDeath == .allowDeath && T.canDecProvider who) ||
        !wouldBeDead T who c { s.account who c with free := (s.account who c).free - amount }) = true := by
      simp [hdec]
    exact doTransfer_of_checks dust hdst hpos.ne' (by omega) halive hdstOk
  · have := (checks_of_doTransfer dust hdst (by omega) h).1
    omega

variable (hwl : T.dustRemovalWhitelist who = false)
  (hfits : (s.account who c).free + (s.account who c).reserved < 2 ^ 128)
include hwl hfits

/-- Under `Protect`, the reducible balance passes the sender's checks of a
`KeepAlive` transfer, and a nonzero one leaves the sender at or above the
existential deposit. -/
theorem doTransfer_reducibleBalance_protect (hdst : who ≠ dst)
    (hdstOk : RecipientAccepts T s c dst (reducibleBalance T s c who .protect)) :
    ∃ s', doTransfer T dust c who dst (reducibleBalance T s c who .protect) .keepAlive s = .ok s' ∧
      (reducibleBalance T s c who .protect ≠ 0 → T.existentialDeposits c ≤ (s'.account who c).total) := by
  have hr := reducibleBalance_protect (T := T) s c who
  generalize reducibleBalance T s c who .protect = r at hr hdstOk ⊢
  have htotal := AccountData.total_eq hfits
  rcases Nat.eq_zero_or_pos r with rfl | hpos
  · -- a transfer of nothing is a no-op
    exact ⟨s, by simp [doTransfer], fun h => absurd rfl h⟩
  have hed : T.existentialDeposits c ≤ { s.account who c with free := (s.account who c).free - r }.total := by
    rw [AccountData.total_eq (by dsimp only; omega)]
    dsimp only
    omega
  have halive : ((ExistenceRequirement.keepAlive == .allowDeath && T.canDecProvider who) ||
      !wouldBeDead T who c { s.account who c with free := (s.account who c).free - r }) = true := by
    simp [(wouldBeDead_eq_false_iff hwl).mpr hed]
  obtain ⟨s', hs'⟩ := doTransfer_of_checks dust hdst hpos.ne' (by omega) halive hdstOk
  refine ⟨s', hs', fun _ => ?_⟩
  rw [account_doTransfer dust hdst hpos.ne' hed hs']
  exact hed

theorem doTransfer_above_reducibleBalance_protect (hdst : who ≠ dst) {amount : Nat}
    (hlt : reducibleBalance T s c who .protect < amount) (hle : amount ≤ (s.account who c).free)
    (s' : State AccountId CurrencyId LockId) :
    doTransfer T dust c who dst amount .keepAlive s ≠ .ok s' := by
  intro h
  obtain ⟨hfree, halive⟩ := checks_of_doTransfer dust hdst (by omega) h
  have hed : T.existentialDeposits c ≤ { s.account who c with free := (s.account who c).free - amount }.total := by
    simpa [(wouldBeDead_eq_false_iff hwl)] using halive
  rw [AccountData.total_eq (by dsimp only; omega)] at hed
  rw [reducibleBalance_protect, AccountData.total_eq hfits] at hlt
  dsimp only at hed
  omega

/-- For an account off the whitelist whose total does not saturate, and a
recipient other than itself: under `Protect`, a `KeepAlive` transfer of the
reducible balance to a recipient that accepts it succeeds and, unless it is
of nothing, leaves the sender at or above the existential deposit, while
every larger amount the sender holds fails; under `Expendable`, with a
provider to spare, the reducible balance is free less frozen and is the
largest amount an `AllowDeath` transfer takes. -/
theorem reducibleBalance_agrees_with_transfer (hdst : who ≠ dst) :
    (RecipientAccepts T s c dst (reducibleBalance T s c who .protect) →
      ∃ s', doTransfer T dust c who dst (reducibleBalance T s c who .protect) .keepAlive s = .ok s' ∧
        (reducibleBalance T s c who .protect ≠ 0 → T.existentialDeposits c ≤ (s'.account who c).total)) ∧
    (∀ amount, reducibleBalance T s c who .protect < amount → amount ≤ (s.account who c).free →
      ∀ s', doTransfer T dust c who dst amount .keepAlive s ≠ .ok s') ∧
    (T.canDecProvider who = true →
      reducibleBalance T s c who .expendable = (s.account who c).free - (s.account who c).frozen ∧
        (∀ amount, 0 < amount → amount ≤ reducibleBalance T s c who .expendable →
          RecipientAccepts T s c dst amount → ∃ s', doTransfer T dust c who dst amount .allowDeath s = .ok s') ∧
        ∀ amount, reducibleBalance T s c who .expendable < amount →
          ∀ s', doTransfer T dust c who dst amount .allowDeath s ≠ .ok s') :=
  ⟨doTransfer_reducibleBalance_protect dust hwl hfits hdst,
    fun _ hlt hle => doTransfer_above_reducibleBalance_protect dust hwl hfits hdst hlt hle,
    fun hdec => doTransfer_reducibleBalance_expendable dust hdec hdst⟩

end Agreement

namespace Reference

/-- Alice's `SEU` account of free 100, reserved 20 and frozen 30. -/
def frozenState : Storage := State.empty.setAccount .alice (.token .SEU) (some ⟨100, 20, 30⟩)

/-- Alice's `SEU` account of free `2 ^ 128 - 10` and reserved 10: its total
saturates. -/
def saturatedState : Storage := State.empty.setAccount .alice (.token .SEU) (some ⟨2 ^ 128 - 10, 10, 0⟩)

/-- Alice's `SEU` account of free 5, below the existential deposit of 10. -/
def dustState : Storage := State.empty.setAccount .alice (.token .SEU) (some ⟨5, 0, 0⟩)

end Reference

theorem reducibleBalance_agrees_with_transfer_reference :
    ∃ s', doTransfer Reference.testConfig (onDust Reference.testConfig 1) (.token .SEU) .alice .bob 70 .keepAlive
        Reference.frozenState = .ok s' ∧ 10 ≤ (s'.account .alice (.token .SEU)).total := by
  have h := reducibleBalance_agrees_with_transfer (T := Reference.testConfig) (onDust Reference.testConfig 1)
    (rfl : Reference.testConfig.dustRemovalWhitelist .alice = false)
    (by decide : (Reference.frozenState.account .alice (.token .SEU)).free +
      (Reference.frozenState.account .alice (.token .SEU)).reserved < 2 ^ 128)
    (by decide : Reference.Account.alice ≠ .bob)
  have hr : reducibleBalance Reference.testConfig Reference.frozenState (.token .SEU) .alice .protect = 70 := by
    decide
  obtain ⟨s', hs', hed⟩ := h.1 (by rw [hr]; decide)
  rw [hr] at hs' hed
  exact ⟨s', hs', hed (by decide)⟩

/-- Where the claim's bounds fail. An account whose total saturates at
`2 ^ 128 - 1` is given a reducible balance one too low: a `KeepAlive`
transfer of one more passes. An account already below the existential
deposit has nothing reducible, and the transfer of nothing leaves it there. -/
theorem reducibleBalance_saturated_or_dust :
    reducibleBalance Reference.testConfig Reference.saturatedState (.token .SEU) .alice .protect = 2 ^ 128 - 11 ∧
      (doTransfer Reference.testConfig (onDust Reference.testConfig 1) (.token .SEU) .alice .bob (2 ^ 128 - 10)
        .keepAlive Reference.saturatedState).toOption.isSome = true ∧
      reducibleBalance Reference.testConfig Reference.dustState (.token .SEU) .alice .protect = 0 ∧
      doTransfer Reference.testConfig (onDust Reference.testConfig 1) (.token .SEU) .alice .bob 0 .keepAlive
        Reference.dustState = .ok Reference.dustState ∧
      (Reference.dustState.account .alice (.token .SEU)).total < Reference.testConfig.existentialDeposits (.token .SEU) :=
  ⟨by decide, by decide, by decide, by simp [doTransfer], by decide⟩

end Setheum.Tokens
