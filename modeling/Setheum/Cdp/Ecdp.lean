import Setheum.Cdp.Engine
import Setheum.Lib.System
import Setheum.Lib.FiniteMap

/-!
# `module_ecdp`: the calls of the CDP owners

The dispatchables of the pallet, over the storage of the engine and the loans
pallet, the flag of the emergency shutdown, the pallet's `Authorization` and
its named reserves `RESERVE_ID` in the native currency.

The shutdown guard is written in four of the entry points: `do_adjust_loan`
and `adjust_loan_by_debit_value` refuse a debit adjustment, and
`do_close_loan_by_dex` and `transfer_loan_from` refuse to run at all.
`expand_position_collateral`, `shrink_position_debit` and `transfer_debit`
have no guard and go on moving debit after the shutdown. A loan moves to its
caller only from the caller itself or from an account that authorised it, and
what the pallet keeps reserved from an account is the sum of the deposits of
the account's authorisations.
-/

namespace Setheum.Cdp

open Result Transition

variable {AccountId L : Type} [DecidableEq AccountId]

namespace Ecdp

/-- The storage the pallet's calls reach. `Authorization` of an account maps
a currency and an authorised account to the deposit of the authorisation. -/
structure State (AccountId L : Type) where
  cdp : Cdp.State AccountId L
  /-- `EmergencyShutdown::is_shutdown()`. -/
  isShutdown : Bool
  authorization : AccountId → AList fun _ : CurrencyId × AccountId => Nat
  /-- The named reserves under `RESERVE_ID`. -/
  reserves : AccountId → Nat

variable (T : Config AccountId L) (s : State AccountId L)

/-- `check_authorization`. -/
def checkAuthorization (src dst : AccountId) (currencyId : CurrencyId) : Except DispatchError Unit :=
  ensure (decide (src = dst) || ((s.authorization src).lookup (currencyId, dst)).isSome) (.ecdp .noPermission)

/-- `do_adjust_loan`: no debit adjustment after the shutdown. -/
def doAdjustLoan (who : AccountId) (currencyId : CurrencyId) (collateralAdjustment debitAdjustment : Int) :
    Except DispatchError (State AccountId L) := do
  (if debitAdjustment ≠ 0 then ensure (!s.isShutdown) (.ecdp .alreadyShutdown) else pure ())
  let cdp ← SeusdEngine.adjustPosition T s.cdp who currencyId collateralAdjustment debitAdjustment
  pure { s with cdp }

/-- `do_close_loan_by_dex`: not after the shutdown. -/
def doCloseLoanByDex (who : AccountId) (currencyId : CurrencyId) (maxCollateralAmount : Nat) :
    Except DispatchError (State AccountId L) := do
  ensure (!s.isShutdown) (.ecdp .alreadyShutdown)
  let cdp ← SeusdEngine.closeCdpHasDebitByDex T s.cdp who currencyId maxCollateralAmount
  pure { s with cdp }

/-- `transfer_loan_from`: the position of `src` moves to the caller `dst`. -/
def transferLoanFrom (dst : AccountId) (currencyId : CurrencyId) (src : AccountId) :
    Except DispatchError (State AccountId L) := do
  ensure (!s.isShutdown) (.ecdp .alreadyShutdown)
  checkAuthorization s src dst currencyId
  let cdp ← Loans.transferLoan T s.cdp src dst currencyId
  pure { s with cdp }

/-- `reserve_named` under `RESERVE_ID`: a zero amount is a no-op. -/
def reserveNamed (who : AccountId) (value : Nat) : Except DispatchError (State AccountId L) :=
  if value = 0 then pure s
  else do
    let ledger ← okOr (T.reserve who value s.cdp.ledger) .external
    pure { s with cdp := { s.cdp with ledger },
                  reserves := Function.update s.reserves who (Balance.saturatingAdd (s.reserves who) value) }

/-- `unreserve_named` under `RESERVE_ID`: at most what is reserved there. -/
def unreserveNamed (who : AccountId) (value : Nat) : State AccountId L :=
  if value = 0 ∨ s.reserves who = 0 then s
  else
    let toChange := min (s.reserves who) value
    { s with cdp := { s.cdp with ledger := T.unreserve who toChange s.cdp.ledger },
             reserves := Function.update s.reserves who (s.reserves who - toChange) }

/-- `unreserve_all_named` under `RESERVE_ID`. -/
def unreserveAllNamed (who : AccountId) : State AccountId L :=
  unreserveNamed T s who (s.reserves who)

/-- `authorize`: a new entry, for a deposit reserved from the caller. -/
def authorize (who : AccountId) (currencyId : CurrencyId) (dst : AccountId) :
    Except DispatchError (State AccountId L) :=
  if who = dst then pure s
  else do
    ensure ((s.authorization who).lookup (currencyId, dst)).isNone (.ecdp .alreadyAuthorized)
    let reserveAmount := T.depositPerAuthorization
    let s ← reserveNamed T s who reserveAmount
    pure { s with authorization :=
      Function.update s.authorization who ((s.authorization who).insert (currencyId, dst) reserveAmount) }

/-- `unauthorize`: the entry is taken and its deposit unreserved. -/
def unauthorize (who : AccountId) (currencyId : CurrencyId) (dst : AccountId) :
    Except DispatchError (State AccountId L) := do
  let reserved ← okOr ((s.authorization who).lookup (currencyId, dst)) (.ecdp .authorizationNotExists)
  let authorization := Function.update s.authorization who ((s.authorization who).erase (currencyId, dst))
  pure (unreserveNamed T { s with authorization } who reserved)

/-- `unauthorize_all`. -/
def unauthorizeAll (who : AccountId) : State AccountId L :=
  unreserveAllNamed T { s with authorization := Function.update s.authorization who ∅ } who

/-- `adjust_loan_by_debit_value`: no debit adjustment after the shutdown. -/
def adjustLoanByDebitValue (who : AccountId) (currencyId : CurrencyId)
    (collateralAdjustment debitValueAdjustment : Int) : Except DispatchError (State AccountId L) := do
  (if debitValueAdjustment ≠ 0 then ensure (!s.isShutdown) (.ecdp .alreadyShutdown) else pure ())
  let cdp ← SeusdEngine.adjustPositionByDebitValue T s.cdp who currencyId collateralAdjustment
    debitValueAdjustment
  pure { s with cdp }

/-- `transfer_debit`: stable coin is issued to the caller for a moment, pays
back debit of one position, is borrowed again on the other and burnt. -/
def transferDebit (who : AccountId) (fromCurrency toCurrency : CurrencyId) (debitTransfer : Nat) :
    Except DispatchError (State AccountId L) := do
  let debitAmount ← (if debitTransfer < 2 ^ 127 then pure (debitTransfer : Int)
    else throw (.arithmetic .overflow) : Except DispatchError Int)
  let negativeDebit := -debitAmount
  let cdp ← SeusdTreasury.issueDebit T s.cdp who debitTransfer true
  let cdp ← SeusdEngine.adjustPosition T cdp who fromCurrency 0 negativeDebit
  let cdp ← SeusdEngine.adjustPosition T cdp who toCurrency 0 debitAmount
  let cdp ← SeusdTreasury.burnDebit T cdp who debitTransfer
  pure { s with cdp }

/-- The calls of signed origins, with the caller first. -/
inductive Call (AccountId : Type) where
  | adjustLoan (who : AccountId) (currencyId : CurrencyId) (collateralAdjustment debitAdjustment : Int)
  | closeLoanHasDebitByDex (who : AccountId) (currencyId : CurrencyId) (maxCollateralAmount : Nat)
  | transferLoanFrom (who : AccountId) (currencyId : CurrencyId) (src : AccountId)
  | authorize (who : AccountId) (currencyId : CurrencyId) (dst : AccountId)
  | unauthorize (who : AccountId) (currencyId : CurrencyId) (dst : AccountId)
  | unauthorizeAll (who : AccountId)
  | expandPositionCollateral (who : AccountId) (currencyId : CurrencyId)
      (increaseDebitValue minIncreaseCollateral : Nat)
  | shrinkPositionDebit (who : AccountId) (currencyId : CurrencyId) (decreaseCollateral minDecreaseDebitValue : Nat)
  | adjustLoanByDebitValue (who : AccountId) (currencyId : CurrencyId)
      (collateralAdjustment debitValueAdjustment : Int)
  | transferDebit (who : AccountId) (fromCurrency toCurrency : CurrencyId) (debitTransfer : Nat)

/-- A call, rolled back as a whole when it fails. -/
def dispatch : Call AccountId → Except DispatchError (State AccountId L)
  | .adjustLoan who currencyId collateralAdjustment debitAdjustment =>
      doAdjustLoan T s who currencyId collateralAdjustment debitAdjustment
  | .closeLoanHasDebitByDex who currencyId maxCollateralAmount =>
      doCloseLoanByDex T s who currencyId maxCollateralAmount
  | .transferLoanFrom who currencyId src => transferLoanFrom T s who currencyId src
  | .authorize who currencyId dst => authorize T s who currencyId dst
  | .unauthorize who currencyId dst => unauthorize T s who currencyId dst
  | .unauthorizeAll who => pure (unauthorizeAll T s who)
  | .expandPositionCollateral who currencyId increaseDebitValue minIncreaseCollateral => do
      let cdp ← SeusdEngine.expandPositionCollateral T s.cdp who currencyId increaseDebitValue
        minIncreaseCollateral
      pure { s with cdp }
  | .shrinkPositionDebit who currencyId decreaseCollateral minDecreaseDebitValue => do
      let cdp ← SeusdEngine.shrinkPositionDebit T s.cdp who currencyId decreaseCollateral minDecreaseDebitValue
      pure { s with cdp }
  | .adjustLoanByDebitValue who currencyId collateralAdjustment debitValueAdjustment =>
      adjustLoanByDebitValue T s who currencyId collateralAdjustment debitValueAdjustment
  | .transferDebit who fromCurrency toCurrency debitTransfer =>
      transferDebit T s who fromCurrency toCurrency debitTransfer

/-- The pallet from a storage without authorisations or reserves. -/
def system : Transition.System (State AccountId L) (Call AccountId) where
  init s := ∀ a, s.authorization a = ∅ ∧ s.reserves a = 0
  step s call := (dispatch T s call).toOption

/-- The calls the shutdown guard reaches, in their source or in the call
itself: all but `expand_position_collateral`, `shrink_position_debit` and
`transfer_debit`. -/
def Call.guarded : Call AccountId → Bool
  | .expandPositionCollateral .. | .shrinkPositionDebit .. | .transferDebit .. => false
  | _ => true

/-- The calls of `Authorization`. -/
def Call.authorizes : Call AccountId → Bool
  | .authorize .. | .unauthorize .. | .unauthorizeAll .. => true
  | _ => false

/-- Whether the balances pallet can hold the deposit `authorize` reserves: its
`reserve` fails before the defensive saturating add of `reserve_named` would
saturate, the named reserve being part of the reserved balance. -/
def reserveFits : Call AccountId → Bool
  | .authorize who _ _ => decide (s.reserves who + T.depositPerAuthorization < 2 ^ 128)
  | _ => true

/-! ## What the calls write -/

variable {T s}

omit [DecidableEq AccountId] in
theorem withCdp_eq_ok {x : Except DispatchError (Cdp.State AccountId L)} {t : State AccountId L}
    (h : (x >>= fun cdp => pure { s with cdp }) = .ok t) : x = .ok t.cdp ∧ t = { s with cdp := t.cdp } := by
  obtain ⟨cdp, hx, h⟩ := bind_eq_ok.mp h
  cases pure_eq_ok.mp h
  exact ⟨hx, rfl⟩

theorem reserveNamed_eq_ok {who : AccountId} {value : Nat} {t : State AccountId L}
    (h : reserveNamed T s who value = .ok t) :
    t.authorization = s.authorization ∧ t.isShutdown = s.isShutdown ∧ t.cdp.positions = s.cdp.positions ∧
      t.reserves = if value = 0 then s.reserves
        else Function.update s.reserves who (Balance.saturatingAdd (s.reserves who) value) := by
  unfold reserveNamed at h
  split_ifs at h with hvalue
  · cases pure_eq_ok.mp h
    exact ⟨rfl, rfl, rfl, (if_pos hvalue).symm⟩
  · obtain ⟨ledger, -, h⟩ := bind_eq_ok.mp h
    cases pure_eq_ok.mp h
    exact ⟨rfl, rfl, rfl, (if_neg hvalue).symm⟩

section Unreserve

variable (who : AccountId) (value : Nat)

@[simp] theorem unreserveNamed_authorization : (unreserveNamed T s who value).authorization = s.authorization := by
  unfold unreserveNamed; split_ifs <;> rfl

@[simp] theorem unreserveNamed_isShutdown : (unreserveNamed T s who value).isShutdown = s.isShutdown := by
  unfold unreserveNamed; split_ifs <;> rfl

@[simp] theorem unreserveNamed_positions : (unreserveNamed T s who value).cdp.positions = s.cdp.positions := by
  unfold unreserveNamed; split_ifs <;> rfl

theorem unreserveNamed_reserves :
    (unreserveNamed T s who value).reserves =
      Function.update s.reserves who (s.reserves who - min (s.reserves who) value) := by
  unfold unreserveNamed
  split_ifs with hnoop
  · -- nothing to take: the update writes back what is there
    exact (Function.update_eq_self_iff.mpr (by omega)).symm
  · rfl

end Unreserve

theorem authorize_eq_ok {who dst : AccountId} {currencyId : CurrencyId} {t : State AccountId L}
    (h : authorize T s who currencyId dst = .ok t) :
    t.isShutdown = s.isShutdown ∧ t.cdp.positions = s.cdp.positions ∧
      (who = dst ∧ t = s ∨
        who ≠ dst ∧ (currencyId, dst) ∉ s.authorization who ∧
          t.authorization = Function.update s.authorization who
            ((s.authorization who).insert (currencyId, dst) T.depositPerAuthorization) ∧
          t.reserves = if T.depositPerAuthorization = 0 then s.reserves
            else Function.update s.reserves who (Balance.saturatingAdd (s.reserves who) T.depositPerAuthorization)) := by
  unfold authorize at h
  split_ifs at h with hself
  · cases pure_eq_ok.mp h
    exact ⟨rfl, rfl, .inl ⟨hself, rfl⟩⟩
  · obtain ⟨_, hnew, h⟩ := bind_eq_ok.mp h
    obtain ⟨s₁, hreserve, h⟩ := bind_eq_ok.mp h
    cases pure_eq_ok.mp h
    obtain ⟨hauth, hshut, hpos, hres⟩ := reserveNamed_eq_ok hreserve
    have hfresh : (currencyId, dst) ∉ s.authorization who :=
      AList.lookup_eq_none.mp (Option.isNone_iff_eq_none.mp (ensure_eq_ok.mp hnew))
    exact ⟨hshut, hpos, .inr ⟨hself, hfresh, by rw [hauth], hres⟩⟩

theorem unauthorize_eq_ok {who dst : AccountId} {currencyId : CurrencyId} {t : State AccountId L}
    (h : unauthorize T s who currencyId dst = .ok t) :
    ∃ reserved, (s.authorization who).lookup (currencyId, dst) = some reserved ∧
      t = unreserveNamed T
        { s with
          authorization := Function.update s.authorization who ((s.authorization who).erase (currencyId, dst)) }
        who reserved := by
  obtain ⟨reserved, hreserved, h⟩ := bind_eq_ok.mp h
  exact ⟨reserved, okOr_eq_ok.mp hreserved, (pure_eq_ok.mp h).symm⟩

theorem transferLoanFrom_eq_ok {dst src : AccountId} {currencyId : CurrencyId} {t : State AccountId L}
    (h : transferLoanFrom T s dst currencyId src = .ok t) :
    s.isShutdown = false ∧ (src = dst ∨ (currencyId, dst) ∈ s.authorization src) ∧
      Loans.transferLoan T s.cdp src dst currencyId = .ok t.cdp ∧ t = { s with cdp := t.cdp } := by
  obtain ⟨_, hlive, h⟩ := bind_eq_ok.mp h
  obtain ⟨_, hauth, h⟩ := bind_eq_ok.mp h
  have hallowed := ensure_eq_ok.mp hauth
  simp only [Bool.or_eq_true, decide_eq_true_eq, AList.lookup_isSome] at hallowed
  exact ⟨by simpa using ensure_eq_ok.mp hlive, hallowed, withCdp_eq_ok h⟩

theorem dispatch_eq_withCdp {call : Call AccountId} {t : State AccountId L} (hcall : call.authorizes = false)
    (h : dispatch T s call = .ok t) : t = { s with cdp := t.cdp } := by
  cases call with
  | adjustLoan who currencyId collateralAdjustment debitAdjustment =>
      obtain ⟨_, -, h⟩ := bind_eq_ok.mp h
      exact (withCdp_eq_ok h).2
  | closeLoanHasDebitByDex who currencyId maxCollateralAmount =>
      obtain ⟨_, -, h⟩ := bind_eq_ok.mp h
      exact (withCdp_eq_ok h).2
  | transferLoanFrom who currencyId src => exact (transferLoanFrom_eq_ok h).2.2.2
  | authorize who currencyId dst => cases hcall
  | unauthorize who currencyId dst => cases hcall
  | unauthorizeAll who => cases hcall
  | expandPositionCollateral who currencyId increaseDebitValue minIncreaseCollateral =>
      exact (withCdp_eq_ok h).2
  | shrinkPositionDebit who currencyId decreaseCollateral minDecreaseDebitValue =>
      exact (withCdp_eq_ok h).2
  | adjustLoanByDebitValue who currencyId collateralAdjustment debitValueAdjustment =>
      obtain ⟨_, -, h⟩ := bind_eq_ok.mp h
      exact (withCdp_eq_ok h).2
  | transferDebit who fromCurrency toCurrency debitTransfer =>
      obtain ⟨_, -, h⟩ := bind_eq_ok.mp h
      obtain ⟨_, -, h⟩ := bind_eq_ok.mp h
      obtain ⟨_, -, h⟩ := bind_eq_ok.mp h
      obtain ⟨_, -, h⟩ := bind_eq_ok.mp h
      exact (withCdp_eq_ok h).2

theorem dispatch_isShutdown {call : Call AccountId} {t : State AccountId L} (h : dispatch T s call = .ok t) :
    t.isShutdown = s.isShutdown := by
  cases hcall : call.authorizes
  · rw [dispatch_eq_withCdp hcall h]
  · cases call with
    | authorize who currencyId dst => exact (authorize_eq_ok h).1
    | unauthorize who currencyId dst =>
        obtain ⟨_, -, rfl⟩ := unauthorize_eq_ok h
        rw [unreserveNamed_isShutdown]
    | unauthorizeAll who =>
        cases pure_eq_ok.mp h
        exact unreserveNamed_isShutdown ..
    | _ => cases hcall

/-! ## The guard of the shutdown -/

omit [DecidableEq AccountId] in
theorem ensure_live_ne_ok (hshut : s.isShutdown = true) {u : Unit} :
    ensure (!s.isShutdown) (DispatchError.ecdp .alreadyShutdown) ≠ .ok u := by
  rw [hshut]
  exact fun h => absurd (ensure_eq_ok.mp h) (by decide)

theorem debit_frozen_of_guarded {call : Call AccountId} {t : State AccountId L} (hshut : s.isShutdown = true)
    (hguarded : call.guarded = true) (h : dispatch T s call = .ok t) (c : CurrencyId) (a : AccountId) :
    (t.cdp.positions c a).debit = (s.cdp.positions c a).debit := by
  cases call with
  | adjustLoan who currencyId collateralAdjustment debitAdjustment =>
      obtain ⟨_, hguard, h⟩ := bind_eq_ok.mp h
      by_cases hdebit : debitAdjustment = 0
      · subst hdebit
        exact SeusdEngine.adjustPosition_debit_of_zero (withCdp_eq_ok h).1 c a
      · rw [if_pos hdebit] at hguard
        exact absurd hguard (ensure_live_ne_ok hshut)
  | closeLoanHasDebitByDex who currencyId maxCollateralAmount =>
      obtain ⟨_, hguard, -⟩ := bind_eq_ok.mp h
      exact absurd hguard (ensure_live_ne_ok hshut)
  | transferLoanFrom who currencyId src =>
      have hlive := (transferLoanFrom_eq_ok h).1
      rw [hshut] at hlive
      cases hlive
  | authorize who currencyId dst => rw [(authorize_eq_ok h).2.1]
  | unauthorize who currencyId dst =>
      obtain ⟨_, -, rfl⟩ := unauthorize_eq_ok h
      rw [unreserveNamed_positions]
  | unauthorizeAll who =>
      cases pure_eq_ok.mp h
      rw [unauthorizeAll, unreserveAllNamed, unreserveNamed_positions]
  | expandPositionCollateral => cases hguarded
  | shrinkPositionDebit => cases hguarded
  | adjustLoanByDebitValue who currencyId collateralAdjustment debitValueAdjustment =>
      obtain ⟨_, hguard, h⟩ := bind_eq_ok.mp h
      by_cases hdebit : debitValueAdjustment = 0
      · subst hdebit
        exact SeusdEngine.adjustPosition_debit_of_zero
          (SeusdEngine.adjustPositionByDebitValue_zero (withCdp_eq_ok h).1) c a
      · rw [if_pos hdebit] at hguard
        exact absurd hguard (ensure_live_ne_ok hshut)
  | transferDebit => cases hguarded

/-- After the shutdown, no run of the guarded calls changes a debit; a call
that fails is rolled back. -/
theorem debit_frozen_run (hshut : s.isShutdown = true) (calls : List (Call AccountId)) (c : CurrencyId)
    (a : AccountId) :
    ((((system T).restrict fun call => call.guarded = true).run s calls).cdp.positions c a).debit =
      (s.cdp.positions c a).debit := by
  -- the induction carries the shutdown flag along the run
  induction calls generalizing s with
  | nil => rfl
  | cons call calls ih =>
      simp only [System.run]
      cases hstep : ((system T).restrict fun call => call.guarded = true).step s call with
      | none => exact ih hshut
      | some t =>
          obtain ⟨hguarded, hstep⟩ := System.restrict_step_eq_some.mp hstep
          have h := toOption_eq_some.mp hstep
          rw [Option.getD_some, ih ((dispatch_isShutdown h).trans hshut)]
          exact debit_frozen_of_guarded hshut hguarded h c a

/-- `transfer_debit` has no guard: after the shutdown as before, it takes the
debit off one position of the caller and puts it on another. -/
theorem transferDebit_moves_debit_after_shutdown {who : AccountId} {fromCurrency toCurrency : CurrencyId}
    {debitTransfer : Nat} {t : State AccountId L} (hne : fromCurrency ≠ toCurrency) (hshut : s.isShutdown = true)
    (h : dispatch T s (.transferDebit who fromCurrency toCurrency debitTransfer) = .ok t) :
    t.isShutdown = true ∧
      (t.cdp.positions fromCurrency who).debit + debitTransfer = (s.cdp.positions fromCurrency who).debit ∧
      (t.cdp.positions toCurrency who).debit = (s.cdp.positions toCurrency who).debit + debitTransfer := by
  obtain ⟨debitAmount, hamount, h⟩ := bind_eq_ok.mp h
  have hsmall : debitTransfer < 2 ^ 127 ∧ debitAmount = debitTransfer := by
    split_ifs at hamount with hlt
    exact ⟨hlt, (pure_eq_ok.mp hamount).symm⟩
  obtain ⟨hlt, rfl⟩ := hsmall
  obtain ⟨cdp₁, h₁, h⟩ := bind_eq_ok.mp h
  obtain ⟨cdp₂, h₂, h⟩ := bind_eq_ok.mp h
  obtain ⟨cdp₃, h₃, h⟩ := bind_eq_ok.mp h
  obtain ⟨hburn, ht⟩ := withCdp_eq_ok h
  have hpos₁ := SeusdTreasury.issueDebit_positions T s.cdp h₁
  obtain ⟨hfrom₂, hother₂⟩ := SeusdEngine.adjustPosition_positions h₂
  obtain ⟨hto₃, hother₃⟩ := SeusdEngine.adjustPosition_positions h₃
  have hpos₄ := (SeusdTreasury.burnDebit_eq_ok T cdp₃ hburn).2.1
  have hto₂ : cdp₂.positions toCurrency who = cdp₁.positions toCurrency who :=
    hother₂ toCurrency who fun h => hne h.1.symm
  have hfrom₃ : cdp₃.positions fromCurrency who = cdp₂.positions fromCurrency who :=
    hother₃ fromCurrency who fun h => hne h.1
  obtain ⟨hle, hfrom⟩ := Loans.adjust_neg_natCast hlt hfrom₂
  have hto := Loans.adjust_natCast hlt hto₃
  rw [hpos₁] at hle hfrom
  rw [hto₂, hpos₁] at hto
  refine ⟨by rw [ht]; exact hshut, ?_, ?_⟩
  · rw [hpos₄, hfrom₃, hfrom]
    omega
  · rw [hpos₄, hto]

/-! ## The deposits of the authorisations -/

/-- The named reserve of every account is the total of the deposits of its
authorisations. -/
def ReservesMatch (s : State AccountId L) : Prop := ∀ a, s.reserves a = (s.authorization a).total

section ReservesMatch

variable {who dst : AccountId} {currencyId : CurrencyId} {t : State AccountId L}

theorem authorize_reservesMatch (hs : ReservesMatch s)
    (hfit : s.reserves who + T.depositPerAuthorization < 2 ^ 128) (h : authorize T s who currencyId dst = .ok t) :
    ReservesMatch t := by
  obtain ⟨-, -, ⟨-, rfl⟩ | ⟨-, hfresh, hauth, hres⟩⟩ := authorize_eq_ok h
  · exact hs
  intro a
  rw [hauth, hres]
  by_cases ha : a = who
  · -- the new entry's deposit is what the reserve took
    subst ha
    rw [Function.update_self, AList.total_insert_of_notMem _ hfresh, ← hs a]
    split_ifs with hzero
    · omega
    · rw [Function.update_self, Balance.saturatingAdd_eq hfit]
      omega
  · rw [Function.update_of_ne ha]
    split_ifs
    · exact hs a
    · rw [Function.update_of_ne ha]
      exact hs a

theorem unauthorize_reservesMatch (hs : ReservesMatch s) (h : unauthorize T s who currencyId dst = .ok t) :
    ReservesMatch t := by
  obtain ⟨reserved, hreserved, rfl⟩ := unauthorize_eq_ok h
  intro a
  rw [unreserveNamed_reserves, unreserveNamed_authorization]
  by_cases ha : a = who
  · -- the entry's deposit is within the reserve, and all of it is unreserved
    subst ha
    have htotal := AList.total_erase_add hreserved
    simp only [Function.update_self, hs a]
    omega
  · simp only [Function.update_of_ne ha]
    exact hs a

theorem unauthorizeAll_reservesMatch (hs : ReservesMatch s) (who : AccountId) :
    ReservesMatch (unauthorizeAll T s who) := by
  intro a
  rw [unauthorizeAll, unreserveAllNamed, unreserveNamed_reserves, unreserveNamed_authorization]
  by_cases ha : a = who
  · subst ha
    simp
  · simp only [Function.update_of_ne ha]
    exact hs a

end ReservesMatch

/-- In every run from a storage without authorisations, the named reserve of
each account is the total of the deposits of its live authorisations. -/
theorem reservesMatch_invariant :
    Invariant ((system T).guard fun s call => reserveFits T s call = true) ReservesMatch := by
  refine invariant_of_inductive _ (fun s hinit a => ?_) (fun s t call hs hstep => ?_)
  · rw [(hinit a).1, (hinit a).2]
    rfl
  · obtain ⟨hfit, hstep⟩ := System.guard_step_eq_some.mp hstep
    have h := toOption_eq_some.mp hstep
    cases hcall : call.authorizes
    · rw [dispatch_eq_withCdp hcall h]
      exact hs
    · cases call with
      | authorize who currencyId dst =>
          exact authorize_reservesMatch hs (by simpa [reserveFits] using hfit) h
      | unauthorize who currencyId dst => exact unauthorize_reservesMatch hs h
      | unauthorizeAll who =>
          cases pure_eq_ok.mp h
          exact unauthorizeAll_reservesMatch hs who
      | _ => cases hcall

end Ecdp

end Setheum.Cdp
