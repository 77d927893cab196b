import Setheum.Lib.Result
import Setheum.Lib.System
import Setheum.Primitives.Arithmetic
import Setheum.Primitives.Currency

/-!
# The vesting pallet

`module_vesting` keeps the native currency's vesting schedules of each
account and a `VESTING_LOCK_ID` lock on that account's native balance. A
schedule releases `per_period` at the end of each of its `period_count`
periods from `start`; `locked_amount` is what is still unreleased, and it
assumes a valid schedule: it panics on a zero period or on an overflow of
`per_period` times the unrealized count. `locked_balance` drops the schedules
that have fully vested and returns what the others still lock.

Block numbers and counts are `u32`, balances `u128`. The currency pallet is a
parameter: the free balance, transfers and the vesting lock of the native
currency. A panic makes the extrinsic invalid, so it changes nothing, as an
error does.
-/

namespace Setheum.Vesting

open Result

/-- `VestingSchedule`. -/
structure VestingSchedule where
  start : Nat
  period : Nat
  periodCount : Nat
  perPeriod : Nat
  deriving DecidableEq, Repr

namespace VestingSchedule

/-- `end`: `period * period_count + start`, `None` on an overflow. -/
def «end» (s : VestingSchedule) : Option Nat :=
  (U32.checkedMul s.period s.periodCount).bind fun e => U32.checkedAdd e s.start

/-- `total_amount`: `per_period * period_count`, `None` on an overflow. -/
def totalAmount (s : VestingSchedule) : Option Nat := Balance.checkedMul s.perPeriod s.periodCount

/-- `locked_amount`: `per_period` times the periods not yet over at `time`;
`none` where the source panics. -/
def lockedAmount (s : VestingSchedule) (time : Nat) : Option Nat :=
  if s.period = 0 then none
  else
    let full := (time - s.start) / s.period
    let unrealized := s.periodCount - full
    Balance.checkedMul s.perPeriod unrealized

end VestingSchedule

/-- `Error` of the pallet. -/
inductive Error where
  | zeroVestingPeriod
  | zeroVestingPeriodCount
  | insufficientBalanceToLock
  | tooManyVestingSchedules
  | amountLow
  | maxNativeVestingSchedulesExceeded
  deriving DecidableEq, Repr

inductive DispatchError where
  | module (e : Error)
  | arithmetic (e : ArithmeticError)
  /-- A call of the currency pallet that failed. -/
  | external
  /-- A panic: the extrinsic is invalid and changes nothing. -/
  | panicked
  deriving DecidableEq, Repr

/-- The native currency, as far as the pallet uses `MultiLockableCurrency`:
the free balance, transfers, and the `VESTING_LOCK_ID` lock. -/
structure MultiCurrency (AccountId L : Type) where
  freeBalance : L → AccountId → Nat
  transfer : AccountId → AccountId → Nat → L → Option L
  setLock : AccountId → Nat → L → Option L
  removeLock : AccountId → L → Option L

/-- `Config` of the pallet. -/
structure Config (AccountId L : Type) where
  currency : MultiCurrency AccountId L
  nativeCurrencyId : CurrencyId
  minNativeVestedTransfer : Nat
  maxNativeVestingSchedules : Nat

/-- The storage, the currency pallet's ledger and the block number. -/
structure State (AccountId L : Type) where
  nativeVestingSchedules : AccountId → List VestingSchedule
  ledger : L
  blockNumber : Nat

variable {AccountId L : Type}

namespace State

def setLedger (s : State AccountId L) (l : L) : State AccountId L := { s with ledger := l }

@[simp] theorem setLedger_schedules (s : State AccountId L) (l) :
    (s.setLedger l).nativeVestingSchedules = s.nativeVestingSchedules := rfl
@[simp] theorem setLedger_ledger (s : State AccountId L) (l) : (s.setLedger l).ledger = l := rfl
@[simp] theorem setLedger_blockNumber (s : State AccountId L) (l) :
    (s.setLedger l).blockNumber = s.blockNumber := rfl

variable [DecidableEq AccountId]

def setSchedules (s : State AccountId L) (who : AccountId) (l : List VestingSchedule) :
    State AccountId L :=
  { s with nativeVestingSchedules := Function.update s.nativeVestingSchedules who l }

variable (s : State AccountId L)

@[simp] theorem setSchedules_schedules (who l) :
    (s.setSchedules who l).nativeVestingSchedules = Function.update s.nativeVestingSchedules who l := rfl
@[simp] theorem setSchedules_ledger (who l) : (s.setSchedules who l).ledger = s.ledger := rfl
@[simp] theorem setSchedules_blockNumber (who l) :
    (s.setSchedules who l).blockNumber = s.blockNumber := rfl
@[simp] theorem setSchedules_setSchedules (who l l') :
    (s.setSchedules who l).setSchedules who l' = s.setSchedules who l' := by
  simp [setSchedules]

end State

variable [DecidableEq AccountId] (T : Config AccountId L)

/-- `ensure_valid_vesting_schedule`: a nonzero period and count, an end and a
total that do not overflow, and for the native currency a total of at least
`MinNativeVestedTransfer`; it returns the total. -/
def ensureValidVestingSchedule (c : CurrencyId) (schedule : VestingSchedule) :
    Except DispatchError Nat := do
  ensure (schedule.period != 0) (.module .zeroVestingPeriod)
  ensure (schedule.periodCount != 0) (.module .zeroVestingPeriodCount)
  ensure schedule.end.isSome (.arithmetic .overflow)
  let totalTotal ← okOr schedule.totalAmount (.arithmetic .overflow)
  if c = T.nativeCurrencyId then
    ensure (decide (T.minNativeVestedTransfer ≤ totalTotal)) (.module .amountLow)
  pure totalTotal

/-- The `retain` pass of `locked_balance` from the running `total`: the
schedules still locking something, and the total after adding what each locks
(a `saturating_add`); `none` where a schedule panics. -/
def retainLocked (now : Nat) (total : Nat) :
    List VestingSchedule → Option (List VestingSchedule × Nat)
  | [] => some ([], total)
  | schedule :: rest => do
      let amount ← schedule.lockedAmount now
      let (kept, total) ← retainLocked now (Balance.saturatingAdd total amount) rest
      pure (if amount = 0 then kept else schedule :: kept, total)

/-- `locked_balance`: for the native currency, the schedules that fully
vested are dropped and the entry is removed when nothing is locked. -/
def lockedBalance (c : CurrencyId) (who : AccountId) (s : State AccountId L) :
    Except DispatchError (Nat × State AccountId L) :=
  if c = T.nativeCurrencyId then do
    let (kept, total) ← okOr (retainLocked s.blockNumber 0 (s.nativeVestingSchedules who)) .panicked
    pure (total, s.setSchedules who (if total = 0 then [] else kept))
  else pure (0, s)

/-- `do_claim`: the lock follows what is still locked, and goes with the
schedules once nothing is; the currency pallet's results are ignored. -/
def doClaim (c : CurrencyId) (who : AccountId) (s : State AccountId L) :
    Except DispatchError (Nat × State AccountId L) := do
  let (locked, s) ← lockedBalance T c who s
  if locked = 0 then
    if c = T.nativeCurrencyId then
      let s := s.setSchedules who []
      let s := s.setLedger ((T.currency.removeLock who s.ledger).getD s.ledger)
      let s := s.setLedger ((T.currency.removeLock who s.ledger).getD s.ledger)
      pure (locked, s)
    else pure (locked, s)
  else pure (locked, s.setLedger ((T.currency.setLock who locked s.ledger).getD s.ledger))

/-- `do_vested_transfer`. -/
def doVestedTransfer (c : CurrencyId) (src dst : AccountId) (schedule : VestingSchedule)
    (s : State AccountId L) : Except DispatchError (State AccountId L) :=
  if c = T.nativeCurrencyId then do
    let scheduleAmount ← ensureValidVestingSchedule T T.nativeCurrencyId schedule
    let ledger ← okOr (T.currency.transfer src dst scheduleAmount s.ledger) .external
    let s := s.setLedger ledger
    ensure (decide ((s.nativeVestingSchedules dst).length < T.maxNativeVestingSchedules))
      (.module .maxNativeVestingSchedulesExceeded)
    let s := s.setSchedules dst (s.nativeVestingSchedules dst ++ [schedule])
    let (totalAmount, s) ← lockedBalance T T.nativeCurrencyId dst s
    let ledger ← okOr (T.currency.setLock dst totalAmount s.ledger) .external
    pure (s.setLedger ledger)
  else pure s

/-- `do_update_vesting_schedules`. -/
def doUpdateVestingSchedules (c : CurrencyId) (who : AccountId) (schedules : List VestingSchedule)
    (s : State AccountId L) : Except DispatchError (State AccountId L) :=
  if c = T.nativeCurrencyId then do
    ensure (decide (schedules.length ≤ T.maxNativeVestingSchedules))
      (.module .maxNativeVestingSchedulesExceeded)
    if schedules.isEmpty then
      let s := s.setSchedules who []
      pure (s.setLedger ((T.currency.removeLock who s.ledger).getD s.ledger))
    else do
      let s := s.setSchedules who schedules
      let (totalAmount, s) ← lockedBalance T T.nativeCurrencyId who s
      ensure (decide (totalAmount ≤ T.currency.freeBalance s.ledger who))
        (.module .insufficientBalanceToLock)
      let ledger ← okOr (T.currency.setLock who totalAmount s.ledger) .external
      pure (s.setLedger ledger)
  else pure s

/-- The dispatchables with their origins passed: `claim` and `claim_for` by
any signed account, `vested_transfer` by `VestedTransferOrigin` for `src`,
`update_vesting_schedules` by root; and the start of a new block. -/
inductive Call (AccountId : Type) where
  | claim (who : AccountId) (c : CurrencyId)
  | vestedTransfer (src : AccountId) (c : CurrencyId) (dst : AccountId) (schedule : VestingSchedule)
  | updateVestingSchedules (c : CurrencyId) (who : AccountId) (schedules : List VestingSchedule)
  | claimFor (c : CurrencyId) (dst : AccountId)
  | newBlock

def dispatch (s : State AccountId L) : Call AccountId → Except DispatchError (State AccountId L)
  | .claim who c => do
      let (_, s) ← doClaim T c who s
      pure s
  | .vestedTransfer src c dst schedule => do
      if dst = src then
        let total ← okOr schedule.totalAmount (.arithmetic .overflow)
        ensure (decide (total ≤ T.currency.freeBalance s.ledger src)) (.module .insufficientBalanceToLock)
      doVestedTransfer T c src dst schedule s
  | .updateVestingSchedules c who schedules => doUpdateVestingSchedules T c who schedules s
  | .claimFor c dst => do
      let (_, s) ← doClaim T c dst s
      pure s
  | .newBlock => pure { s with blockNumber := s.blockNumber + 1 }

/-! ## Genesis -/

/-- One entry of `GenesisConfig::build`: `(who, currency, start, period,
period_count, per_period)`; it panics on an invalid schedule, on too little
free balance, or on too many schedules, and ignores the lock's result. -/
def buildEntry (s : State AccountId L) :
    AccountId × CurrencyId × VestingSchedule → Option (State AccountId L)
  | (who, c, schedule) =>
      if c = T.nativeCurrencyId then do
        let total ← (ensureValidVestingSchedule T c schedule).toOption
        if total ≤ T.currency.freeBalance s.ledger who ∧
            (s.nativeVestingSchedules who).length < T.maxNativeVestingSchedules then
          let s := s.setSchedules who (s.nativeVestingSchedules who ++ [schedule])
          let (locked, s) ← (lockedBalance T c who s).toOption
          pure (s.setLedger ((T.currency.setLock who locked s.ledger).getD s.ledger))
        else none
      else some s

/-- `GenesisConfig`: the vesting entries, each a schedule of an account. -/
structure GenesisConfig (AccountId : Type) where
  vesting : List (AccountId × CurrencyId × VestingSchedule)

def GenesisConfig.build (g : GenesisConfig AccountId) (s : State AccountId L) :
    Option (State AccountId L) :=
  g.vesting.foldlM (buildEntry T) s

/-- The pallet from a genesis build over a given ledger at block zero. -/
def system : Transition.System (State AccountId L) (Call AccountId) where
  init s := ∃ (g : GenesisConfig AccountId) (ledger : L),
    g.build T ⟨fun _ => [], ledger, 0⟩ = some s
  step s call := (dispatch T s call).toOption

end Setheum.Vesting
