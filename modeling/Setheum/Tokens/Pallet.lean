import Setheum.Lib.Result
import Setheum.Lib.System
import Setheum.Primitives.Arithmetic

/-!
# The tokens pallet

`orml_tokens` as the runtime builds it: an `AccountData` of free, reserved
and frozen balance per account and currency, `TotalIssuance` per currency,
and the `Locks` of each account. Every write of an account goes through
`try_mutate_account`, which stores what the closure left, reaps an account
whose total is zero below the existential deposit, and hands a nonzero total
below it to the `OnDust` hook (`BurnDust` or `TransferDust`). The hook runs
after the account is written but while the calling closure may still hold
copies of other accounts, as in `do_transfer`, whose closure for the
recipient holds the recipient's account across the sender's write.

The hook calls back into `do_withdraw` or `do_transfer`, so the operations
are written over the hook they run (`DustHook`), and `onDust` ties the knot
level by level. The hook's own call moves or burns an account's whole total,
which leaves no dust behind, so no run of the pallet reaches a second level.
The `frame_system` reference counts are abstracted by `canDecProvider`, and
the other `MutationHooks` are the no-ops the runtime configures; events are
not modelled. A dispatchable whose result is an error is rolled back, so a
failed operation yields no state.
-/

namespace Setheum.Tokens

open Result

/-- `ExistenceRequirement`. -/
inductive ExistenceRequirement where
  | keepAlive
  | allowDeath
  deriving DecidableEq, Repr

/-- The runtime's `OnDust`: burn the dust, or move it to an account. -/
inductive OnDust (AccountId : Type) where
  | burnDust
  | transferDust (account : AccountId)
  deriving DecidableEq, Repr

/-- `Error` of the pallet, as far as the modelled calls raise it. -/
inductive Error where
  | balanceTooLow
  | liquidityRestrictions
  | maxLocksExceeded
  | keepAlive
  | existentialDeposit
  | deadAccount
  | tooManyReserves
  deriving DecidableEq, Repr

inductive DispatchError where
  | module (e : Error)
  | arithmetic (e : ArithmeticError)
  deriving DecidableEq, Repr

/-- `BalanceLock`. -/
structure BalanceLock (LockId : Type) where
  id : LockId
  amount : Nat
  deriving DecidableEq, Repr

/-- `AccountData`; its default is all zeros. -/
structure AccountData where
  free : Nat
  reserved : Nat
  frozen : Nat
  deriving DecidableEq, Repr

instance : Inhabited AccountData := ⟨⟨0, 0, 0⟩⟩

/-- `AccountData::total`, a `saturating_add`. -/
def AccountData.total (a : AccountData) : Nat := Balance.saturatingAdd a.free a.reserved

/-- `Config` of the pallet, with the runtime's hook and the `frame_system`
provider check it consults. -/
structure Config (AccountId CurrencyId : Type) where
  existentialDeposits : CurrencyId → Nat
  dustRemovalWhitelist : AccountId → Bool
  maxLocks : Nat
  onDust : OnDust AccountId
  canDecProvider : AccountId → Bool

/-- The storage: `Accounts`, `TotalIssuance` and `Locks`. -/
structure State (AccountId CurrencyId LockId : Type) where
  accounts : AccountId → CurrencyId → Option AccountData
  totalIssuance : CurrencyId → Nat
  locks : AccountId → CurrencyId → List (BalanceLock LockId)

variable {AccountId CurrencyId LockId : Type} [DecidableEq AccountId] [DecidableEq CurrencyId]

namespace State

/-- The storage before genesis. -/
def empty : State AccountId CurrencyId LockId := ⟨fun _ _ => none, fun _ => 0, fun _ _ => []⟩

/-- `Accounts::get`, a `ValueQuery`: the default for an account not stored. -/
def account (s : State AccountId CurrencyId LockId) (who : AccountId) (c : CurrencyId) :
    AccountData :=
  (s.accounts who c).getD default

def setAccount (s : State AccountId CurrencyId LockId) (who : AccountId) (c : CurrencyId)
    (a : Option AccountData) : State AccountId CurrencyId LockId :=
  { s with accounts := fun w d => if w = who ∧ d = c then a else s.accounts w d }

def setTotalIssuance (s : State AccountId CurrencyId LockId) (c : CurrencyId) (v : Nat) :
    State AccountId CurrencyId LockId :=
  { s with totalIssuance := Function.update s.totalIssuance c v }

def setLocks (s : State AccountId CurrencyId LockId) (who : AccountId) (c : CurrencyId)
    (l : List (BalanceLock LockId)) : State AccountId CurrencyId LockId :=
  { s with locks := fun w d => if w = who ∧ d = c then l else s.locks w d }

variable (s : State AccountId CurrencyId LockId)

@[simp] theorem setAccount_accounts (who c a w d) :
    (s.setAccount who c a).accounts w d = if w = who ∧ d = c then a else s.accounts w d := rfl
@[simp] theorem setAccount_totalIssuance (who c a) :
    (s.setAccount who c a).totalIssuance = s.totalIssuance := rfl
@[simp] theorem setAccount_locks (who c a) : (s.setAccount who c a).locks = s.locks := rfl
omit [DecidableEq AccountId] in
@[simp] theorem setTotalIssuance_accounts (c v) :
    (s.setTotalIssuance c v).accounts = s.accounts := rfl
omit [DecidableEq AccountId] in
@[simp] theorem setTotalIssuance_totalIssuance (c v) :
    (s.setTotalIssuance c v).totalIssuance = Function.update s.totalIssuance c v := rfl
omit [DecidableEq AccountId] in
@[simp] theorem setTotalIssuance_locks (c v) : (s.setTotalIssuance c v).locks = s.locks := rfl
omit [DecidableEq AccountId] in
@[simp] theorem account_setTotalIssuance (c v w d) : (s.setTotalIssuance c v).account w d = s.account w d := rfl
@[simp] theorem setLocks_accounts (who c l) : (s.setLocks who c l).accounts = s.accounts := rfl
@[simp] theorem setLocks_totalIssuance (who c l) :
    (s.setLocks who c l).totalIssuance = s.totalIssuance := rfl
@[simp] theorem setLocks_locks (who c l w d) :
    (s.setLocks who c l).locks w d = if w = who ∧ d = c then l else s.locks w d := rfl

theorem account_setAccount (who c a w d) :
    (s.setAccount who c a).account w d = if w = who ∧ d = c then a.getD default else s.account w d := by
  unfold account
  split_ifs with h <;> simp [h]

end State

/-- What the `OnDust` hook does to the storage: the account, the currency and
the amount of dust it is given. -/
abbrev DustHook (AccountId CurrencyId LockId : Type) :=
  AccountId → CurrencyId → Nat → State AccountId CurrencyId LockId → State AccountId CurrencyId LockId

variable (T : Config AccountId CurrencyId) (dust : DustHook AccountId CurrencyId LockId)

/-! ## `try_mutate_account` -/

/-- What `try_mutate_account` stores for an account the closure left as
`account`, and the dust it reports: an account whose total is below the
existential deposit is reaped if its total is zero, and is otherwise kept and
reported as dust unless it is on the whitelist. -/
def settle (who : AccountId) (c : CurrencyId) (account : AccountData) :
    Option AccountData × Option Nat :=
  if account.total < T.existentialDeposits c then
    if account.total = 0 then (none, none)
    else (some account, if T.dustRemovalWhitelist who then none else some account.total)
  else (some account, none)

/-- The end of `try_mutate_account`: the write of the account, then the
`OnDust` hook on the dust it reports. -/
def storeAccount (who : AccountId) (c : CurrencyId) (account : AccountData)
    (s : State AccountId CurrencyId LockId) : Option Nat × State AccountId CurrencyId LockId :=
  let (stored, maybeDust) := settle T who c account
  let s := s.setAccount who c stored
  match maybeDust with
  | none => (none, s)
  | some amount => (some amount, dust who c amount s)

/-- `try_mutate_account`: the closure gets the stored account (the default if
there is none) and whether it existed, and may write other storage; the
account it returns is written over whatever is stored by then. -/
def tryMutateAccount {R : Type} (who : AccountId) (c : CurrencyId)
    (f : AccountData → Bool → State AccountId CurrencyId LockId →
      Except DispatchError (R × AccountData × State AccountId CurrencyId LockId))
    (s : State AccountId CurrencyId LockId) :
    Except DispatchError ((R × Option Nat) × State AccountId CurrencyId LockId) := do
  let (result, account, s) ← f (s.account who c) (s.accounts who c).isSome s
  let (maybeDust, s) := storeAccount T dust who c account s
  pure ((result, maybeDust), s)

/-- `mutate_account`: `try_mutate_account` with a closure that cannot fail
and writes nothing else. -/
def mutateAccount {R : Type} (who : AccountId) (c : CurrencyId)
    (f : AccountData → Bool → R × AccountData) (s : State AccountId CurrencyId LockId) :
    (R × Option Nat) × State AccountId CurrencyId LockId :=
  let (result, account) := f (s.account who c) (s.accounts who c).isSome
  let (maybeDust, s) := storeAccount T dust who c account s
  ((result, maybeDust), s)

theorem tryMutateAccount_pure {R : Type} (who : AccountId) (c : CurrencyId)
    (f : AccountData → Bool → R × AccountData) (s : State AccountId CurrencyId LockId) :
    tryMutateAccount T dust who c (fun a e s => pure ((f a e).1, (f a e).2, s)) s =
      .ok (mutateAccount T dust who c f s) := rfl

/-- `set_free_balance`, which leaves `TotalIssuance` to its caller. -/
def setFreeBalance (c : CurrencyId) (who : AccountId) (amount : Nat)
    (s : State AccountId CurrencyId LockId) : State AccountId CurrencyId LockId :=
  (mutateAccount T dust who c (fun account _ => ((), { account with free := amount })) s).2

/-- `set_reserved_balance`, which leaves `TotalIssuance` to its caller. -/
def setReservedBalance (c : CurrencyId) (who : AccountId) (amount : Nat)
    (s : State AccountId CurrencyId LockId) : State AccountId CurrencyId LockId :=
  (mutateAccount T dust who c (fun account _ => ((), { account with reserved := amount })) s).2

/-! ## Free balance -/

/-- `ensure_can_withdraw`, against the stored account. -/
def ensureCanWithdraw (s : State AccountId CurrencyId LockId) (c : CurrencyId) (who : AccountId)
    (amount : Nat) : Except DispatchError Unit :=
  if amount = 0 then pure ()
  else do
    let newBalance ← okOr (Balance.checkedSub (s.account who c).free amount) (.module .balanceTooLow)
    ensure (decide ((s.account who c).frozen ≤ newBalance)) (.module .liquidityRestrictions)

/-- Whether an account left as `account` would be reaped: its total is zero
below the existential deposit, or nonzero there and off the whitelist. -/
def wouldBeDead (who : AccountId) (c : CurrencyId) (account : AccountData) : Bool :=
  if account.total < T.existentialDeposits c then
    if account.total = 0 then true else !T.dustRemovalWhitelist who
  else false

/-- `do_transfer`. The closure for the recipient holds its account while the
sender's account is written, and writes it back afterwards. -/
def doTransfer (c : CurrencyId) (src dst : AccountId) (amount : Nat)
    (existenceRequirement : ExistenceRequirement) (s : State AccountId CurrencyId LockId) :
    Except DispatchError (State AccountId CurrencyId LockId) :=
  if amount = 0 ∨ src = dst then pure s
  else do
    let (_, s) ← tryMutateAccount T dust dst c (fun toAccount _ s => do
      let ((toAccount, _), s) ← tryMutateAccount T dust src c (fun fromAccount _ s => do
        let free ← okOr (Balance.checkedSub fromAccount.free amount) (.module .balanceTooLow)
        let fromAccount := { fromAccount with free }
        let toFree ← okOr (Balance.checkedAdd toAccount.free amount) (.arithmetic .overflow)
        let toAccount := { toAccount with free := toFree }
        let ed := T.existentialDeposits c
        ensure (decide (ed ≤ toAccount.total) || T.dustRemovalWhitelist dst)
          (.module .existentialDeposit)
        ensureCanWithdraw s c src amount
        let allowDeath :=
          existenceRequirement == .allowDeath && T.canDecProvider src
        ensure (allowDeath || !wouldBeDead T src c fromAccount) (.module .keepAlive)
        pure (toAccount, fromAccount, s)) s
      pure ((), toAccount, s)) s
    pure s

/-- `do_withdraw`. -/
def doWithdraw (c : CurrencyId) (who : AccountId) (amount : Nat)
    (existenceRequirement : ExistenceRequirement) (changeTotalIssuance : Bool)
    (s : State AccountId CurrencyId LockId) : Except DispatchError (State AccountId CurrencyId LockId) :=
  if amount = 0 then pure s
  else do
    let (_, s) ← tryMutateAccount T dust who c (fun account _ s => do
      ensureCanWithdraw s c who amount
      let previousTotal := account.total
      let account := { account with free := account.free - amount }
      let ed := T.existentialDeposits c
      let wouldKill :=
        wouldBeDead T who c account && (decide (ed ≤ previousTotal) || previousTotal != 0)
      ensure (existenceRequirement == .allowDeath || !wouldKill) (.module .keepAlive)
      let s := if changeTotalIssuance then s.setTotalIssuance c (s.totalIssuance c - amount) else s
      pure ((), account, s)) s
    pure s

/-- `do_deposit`; it returns the amount deposited. -/
def doDeposit (c : CurrencyId) (who : AccountId) (amount : Nat)
    (requireExisted changeTotalIssuance : Bool) (s : State AccountId CurrencyId LockId) :
    Except DispatchError (Nat × State AccountId CurrencyId LockId) :=
  if amount = 0 then pure (amount, s)
  else do
    let (_, s) ← tryMutateAccount T dust who c (fun account existed s => do
      if requireExisted then ensure existed (.module .deadAccount)
      else
        ensure (decide (T.existentialDeposits c ≤ amount) || existed || T.dustRemovalWhitelist who)
          (.module .existentialDeposit)
      let newTotalIssuance ←
        okOr (Balance.checkedAdd (s.totalIssuance c) amount) (.arithmetic .overflow)
      let s := if changeTotalIssuance then s.setTotalIssuance c newTotalIssuance else s
      pure ((), { account with free := Balance.saturatingAdd account.free amount }, s)) s
    pure (amount, s)

/-! ## The dust hook -/

/-- `OnDust::on_dust` with `depth` levels of the hook beneath it; a failure
of the hook's call is ignored and leaves the storage as it was. -/
def onDust : Nat → DustHook AccountId CurrencyId LockId
  | 0 => fun _ _ _ s => s
  | depth + 1 => fun who c amount s =>
      match T.onDust with
      | .burnDust =>
          ((doWithdraw T (onDust depth) c who amount .allowDeath true s).toOption).getD s
      | .transferDust account =>
          ((doTransfer T (onDust depth) c who account amount .allowDeath s).toOption).getD s

/-! ## `MultiCurrency` -/

/-- `MultiCurrency::slash`: free balance first, then reserved; it returns
what could not be slashed. Both writes start from the account as read before
the first. -/
def slash (c : CurrencyId) (who : AccountId) (amount : Nat) (s : State AccountId CurrencyId LockId) :
    Nat × State AccountId CurrencyId LockId :=
  if amount = 0 then (amount, s)
  else
    let account := s.account who c
    let freeSlashedAmount := min account.free amount
    let remainingSlash := amount - freeSlashedAmount
    let s := if freeSlashedAmount = 0 then s
      else setFreeBalance T dust c who (account.free - freeSlashedAmount) s
    let reservedSlashedAmount := min account.reserved remainingSlash
    let (remainingSlash, s) := if reservedSlashedAmount = 0 then (remainingSlash, s)
      else (remainingSlash - reservedSlashedAmount,
        setReservedBalance T dust c who (account.reserved - reservedSlashedAmount) s)
    let s := s.setTotalIssuance c (s.totalIssuance c - (amount - remainingSlash))
    (remainingSlash, s)

/-- `MultiReservableCurrency::reserve`. -/
def reserve (c : CurrencyId) (who : AccountId) (value : Nat) (s : State AccountId CurrencyId LockId) :
    Except DispatchError (State AccountId CurrencyId LockId) :=
  if value = 0 then pure s
  else do
    ensureCanWithdraw s c who value
    pure (mutateAccount T dust who c (fun account _ => ((),
      { account with free := account.free - value,
                     reserved := Balance.saturatingAdd account.reserved value })) s).2

/-- `MultiReservableCurrency::unreserve`; it returns what could not be
unreserved. -/
def unreserve (c : CurrencyId) (who : AccountId) (value : Nat) (s : State AccountId CurrencyId LockId) :
    Nat × State AccountId CurrencyId LockId :=
  if value = 0 then (value, s)
  else
    let ((remaining, _), s) := mutateAccount T dust who c (fun account _ =>
      let actual := min account.reserved value
      (value - actual, { account with reserved := account.reserved - actual,
                                      free := Balance.saturatingAdd account.free actual })) s
    (remaining, s)

/-- `MultiReservableCurrency::slash_reserved`. -/
def slashReserved (c : CurrencyId) (who : AccountId) (value : Nat)
    (s : State AccountId CurrencyId LockId) : Nat × State AccountId CurrencyId LockId :=
  if value = 0 then (value, s)
  else
    let reservedBalance := (s.account who c).reserved
    let actual := min reservedBalance value
    let s := (mutateAccount T dust who c (fun account _ =>
      ((), { account with reserved := reservedBalance - actual })) s).2
    (value - actual, s.setTotalIssuance c (s.totalIssuance c - actual))

/-- `BalanceStatus`: where repatriated funds go in the beneficiary's account. -/
inductive BalanceStatus where
  | free
  | reserved
  deriving DecidableEq, Repr

/-- `MultiReservableCurrency::repatriate_reserved`, which never fails; it
returns what could not be moved. Both accounts are read before the first
write, and each write goes through `mutate_account`. -/
def repatriateReserved (c : CurrencyId) (slashed beneficiary : AccountId) (value : Nat)
    (status : BalanceStatus) (s : State AccountId CurrencyId LockId) :
    Nat × State AccountId CurrencyId LockId :=
  if value = 0 then (value, s)
  else if slashed = beneficiary then
    match status with
    | .free => unreserve T dust c slashed value s
    | .reserved => (value - (s.account slashed c).reserved, s)
  else
    let fromAccount := s.account slashed c
    let toAccount := s.account beneficiary c
    let actual := min fromAccount.reserved value
    let s := match status with
      | .free => setFreeBalance T dust c beneficiary (Balance.saturatingAdd toAccount.free actual) s
      | .reserved =>
          setReservedBalance T dust c beneficiary (Balance.saturatingAdd toAccount.reserved actual) s
    (value - actual, setReservedBalance T dust c slashed (fromAccount.reserved - actual) s)

/-! ## Locks -/

variable [DecidableEq LockId]

/-- The largest amount of a list of locks, `0` for none. -/
def maxLockAmount (locks : List (BalanceLock LockId)) : Nat :=
  locks.foldl (fun frozen lock => max frozen lock.amount) 0

/-- `update_locks`: `frozen` becomes the largest lock through
`mutate_account`, and then the list is stored, or removed when empty. -/
def updateLocks (c : CurrencyId) (who : AccountId) (locks : List (BalanceLock LockId))
    (s : State AccountId CurrencyId LockId) : Except DispatchError (State AccountId CurrencyId LockId) :=
  let s := (mutateAccount T dust who c (fun account _ =>
    ((), { account with frozen := maxLockAmount locks })) s).2
  if locks.isEmpty then pure (s.setLocks who c [])
  else do
    ensure (decide (locks.length ≤ T.maxLocks)) (.module .maxLocksExceeded)
    pure (s.setLocks who c locks)

/-- The `filter_map` pass of `set_lock`: the first lock with the id is
replaced by the new lock, which is then taken, so later ones with the id are
dropped; the new lock comes back if no lock had the id. -/
def replaceLock (lockId : LockId) :
    Option (BalanceLock LockId) → List (BalanceLock LockId) →
      List (BalanceLock LockId) × Option (BalanceLock LockId)
  | newLock, [] => ([], newLock)
  | newLock, lock :: rest =>
      if lock.id = lockId then
        let (rest, left) := replaceLock lockId none rest
        match newLock with
        | some l => (l :: rest, left)
        | none => (rest, left)
      else
        let (rest, left) := replaceLock lockId newLock rest
        (lock :: rest, left)

/-- The `filter_map` pass of `extend_lock`: as `replaceLock`, the first lock
with the id keeping the larger of its amount and the new one. -/
def extendLockList (lockId : LockId) :
    Option (BalanceLock LockId) → List (BalanceLock LockId) →
      List (BalanceLock LockId) × Option (BalanceLock LockId)
  | newLock, [] => ([], newLock)
  | newLock, lock :: rest =>
      if lock.id = lockId then
        let (rest, left) := extendLockList lockId none rest
        match newLock with
        | some l => (⟨lock.id, max lock.amount l.amount⟩ :: rest, left)
        | none => (rest, left)
      else
        let (rest, left) := extendLockList lockId newLock rest
        (lock :: rest, left)

/-- The list with the lock still left appended. -/
def pushLeft (locks : List (BalanceLock LockId) × Option (BalanceLock LockId)) :
    List (BalanceLock LockId) :=
  match locks.2 with
  | some lock => locks.1 ++ [lock]
  | none => locks.1

/-- `MultiLockableCurrency::set_lock`. -/
def setLock (lockId : LockId) (c : CurrencyId) (who : AccountId) (amount : Nat)
    (s : State AccountId CurrencyId LockId) : Except DispatchError (State AccountId CurrencyId LockId) :=
  if amount = 0 then pure s
  else updateLocks T dust c who (pushLeft (replaceLock lockId (some ⟨lockId, amount⟩) (s.locks who c))) s

/-- `MultiLockableCurrency::extend_lock`. -/
def extendLock (lockId : LockId) (c : CurrencyId) (who : AccountId) (amount : Nat)
    (s : State AccountId CurrencyId LockId) : Except DispatchError (State AccountId CurrencyId LockId) :=
  if amount = 0 then pure s
  else updateLocks T dust c who
    (pushLeft (extendLockList lockId (some ⟨lockId, amount⟩) (s.locks who c))) s

/-- `MultiLockableCurrency::remove_lock`. -/
def removeLock (lockId : LockId) (c : CurrencyId) (who : AccountId)
    (s : State AccountId CurrencyId LockId) : Except DispatchError (State AccountId CurrencyId LockId) :=
  updateLocks T dust c who ((s.locks who c).filter fun lock => lock.id != lockId) s

/-! ## Dispatchables -/

/-- `set_balance`: the account is set to the new balances, or emptied when
their sum is below the existential deposit, and `TotalIssuance` follows the
change of the total. -/
def setBalance (who : AccountId) (c : CurrencyId) (newFree newReserved : Nat)
    (s : State AccountId CurrencyId LockId) : Except DispatchError (State AccountId CurrencyId LockId) := do
  let (_, s) ← tryMutateAccount T dust who c (fun account _ s => do
    let newTotal ← okOr (Balance.checkedAdd newFree newReserved) (.arithmetic .overflow)
    let (newTotal, newFree, newReserved) :=
      if newTotal < T.existentialDeposits c then (0, 0, 0) else (newTotal, newFree, newReserved)
    let oldTotal := account.total
    let account := { account with free := newFree, reserved := newReserved }
    let s ←
      if oldTotal < newTotal then do
        let t ← okOr (Balance.checkedAdd (s.totalIssuance c) (newTotal - oldTotal))
          (.arithmetic .overflow)
        pure (s.setTotalIssuance c t)
      else if newTotal < oldTotal then do
        let t ← okOr (Balance.checkedSub (s.totalIssuance c) (oldTotal - newTotal))
          (.arithmetic .underflow)
        pure (s.setTotalIssuance c t)
      else pure s
    pure ((), account, s)) s
  pure s

/-- The calls a run of the pallet is made of: its dispatchables (with their
origin checks passed) and the trait operations other pallets call. -/
inductive Call (AccountId CurrencyId LockId : Type) where
  | transfer (src dst : AccountId) (c : CurrencyId) (amount : Nat)
  | transferKeepAlive (src dst : AccountId) (c : CurrencyId) (amount : Nat)
  | forceTransfer (src dst : AccountId) (c : CurrencyId) (amount : Nat)
  | setBalance (who : AccountId) (c : CurrencyId) (newFree newReserved : Nat)
  | deposit (c : CurrencyId) (who : AccountId) (amount : Nat)
  | withdraw (c : CurrencyId) (who : AccountId) (amount : Nat)
    (existenceRequirement : ExistenceRequirement)
  | slash (c : CurrencyId) (who : AccountId) (amount : Nat)
  | reserve (c : CurrencyId) (who : AccountId) (value : Nat)
  | unreserve (c : CurrencyId) (who : AccountId) (value : Nat)
  | slashReserved (c : CurrencyId) (who : AccountId) (value : Nat)
  | setLock (lockId : LockId) (c : CurrencyId) (who : AccountId) (amount : Nat)
  | extendLock (lockId : LockId) (c : CurrencyId) (who : AccountId) (amount : Nat)
  | removeLock (lockId : LockId) (c : CurrencyId) (who : AccountId)

/-- One call, run over the hook `dust`. -/
def dispatch (s : State AccountId CurrencyId LockId) :
    Call AccountId CurrencyId LockId → Except DispatchError (State AccountId CurrencyId LockId)
  | .transfer src dst c amount => doTransfer T dust c src dst amount .allowDeath s
  | .transferKeepAlive src dst c amount => doTransfer T dust c src dst amount .keepAlive s
  | .forceTransfer src dst c amount => doTransfer T dust c src dst amount .allowDeath s
  | .setBalance who c newFree newReserved => setBalance T dust who c newFree newReserved s
  | .deposit c who amount => do
      let (_, s) ← doDeposit T dust c who amount false true s
      pure s
  | .withdraw c who amount existenceRequirement =>
      doWithdraw T dust c who amount existenceRequirement true s
  | .slash c who amount => pure (slash T dust c who amount s).2
  | .reserve c who value => reserve T dust c who value s
  | .unreserve c who value => pure (unreserve T dust c who value s).2
  | .slashReserved c who value => pure (slashReserved T dust c who value s).2
  | .setLock lockId c who amount => setLock T dust lockId c who amount s
  | .extendLock lockId c who amount => extendLock T dust lockId c who amount s
  | .removeLock lockId c who => removeLock T dust lockId c who s

/-! ## Genesis -/

/-- `GenesisConfig`: the initial free balance of each account and currency. -/
structure GenesisConfig (AccountId CurrencyId : Type) where
  balances : List (AccountId × CurrencyId × Nat)

/-- One entry of `GenesisConfig::build`: it panics on a balance below the
existential deposit or an overflow of `TotalIssuance`. -/
def buildEntry (s : State AccountId CurrencyId LockId) :
    AccountId × CurrencyId × Nat → Option (State AccountId CurrencyId LockId)
  | (who, c, initialBalance) =>
      if T.existentialDeposits c ≤ initialBalance then
        let s := (mutateAccount T dust who c (fun account _ =>
          ((), { account with free := initialBalance })) s).2
        (Balance.checkedAdd (s.totalIssuance c) initialBalance).map fun t => s.setTotalIssuance c t
      else none

/-- `GenesisConfig::build`; it panics on an account and currency given twice. -/
def GenesisConfig.build (g : GenesisConfig AccountId CurrencyId)
    (s : State AccountId CurrencyId LockId) : Option (State AccountId CurrencyId LockId) :=
  if (g.balances.map fun b => (b.1, b.2.1)).Nodup then g.balances.foldlM (buildEntry T dust) s
  else none

/-! ## The pallet as a system -/

/-- The pallet from a genesis build: every call runs over the hook `onDust T 1`,
whose own calls meet no dust. -/
def system : Transition.System (State AccountId CurrencyId LockId) (Call AccountId CurrencyId LockId) where
  init s := ∃ g : GenesisConfig AccountId CurrencyId, g.build T (onDust T 1) State.empty = some s
  step s call := (dispatch T (onDust T 1) s call).toOption

end Setheum.Tokens
