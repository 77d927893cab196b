import Setheum.Bonding.Ledger
import Setheum.Lib.System

/-!
# The bonding controller

`BondingController`: the bonding ledgers of all accounts, stored by account,
and the five calls that change them. An implementation supplies the minimum
bond, the balance an account has free to bond (`available_balance`), the hook
run on each ledger written (`apply_ledger`, which locks the funds and may
fail) and the conversion of ledger errors.

Each call reads the account's ledger and runs one of the ledger's operations.
When the operation moved nothing the call returns without writing; otherwise
it writes the new ledger (removing one that `withdraw_unbonded` emptied) and
only then runs `apply_ledger`. An error of the hook is therefore returned with
the write in place: the controller does not roll back, its caller may.
-/

namespace Setheum.Bonding

open Transition

/-- `BondChange`: the balance before and after a call, and what it moved. -/
structure BondChange where
  new : Nat
  old : Nat
  change : Nat
deriving DecidableEq, Repr

/-- An implementation of `BondingController`: the constants and functions it supplies. -/
structure Controller (AccountId Moment DispatchError : Type) (maxUnbondingChunks : Nat) where
  minBond : Nat
  availableBalance : AccountId → BondingLedger Moment maxUnbondingChunks → Nat
  applyLedger : AccountId → BondingLedger Moment maxUnbondingChunks → Except DispatchError Unit
  convertError : Error → DispatchError

/-- The stored ledgers, `Ledger`. -/
abbrev Ledgers (AccountId Moment : Type) (maxUnbondingChunks : Nat) :=
  AccountId → Option (BondingLedger Moment maxUnbondingChunks)

/-- What a call answers, and the ledgers it leaves. -/
abbrev Outcome (AccountId Moment DispatchError : Type) (maxUnbondingChunks : Nat) :=
  Except DispatchError (Option BondChange) × Ledgers AccountId Moment maxUnbondingChunks

/-- The controller's calls. -/
inductive Call (AccountId Moment : Type)
  | bond (who : AccountId) (amount : Nat)
  | unbond (who : AccountId) (amount : Nat) (unlockAt : Moment)
  | unbondInstant (who : AccountId) (amount : Nat)
  | rebond (who : AccountId) (amount : Nat)
  | withdrawUnbonded (who : AccountId) (now : Moment)

/-- The account a call is about. -/
def Call.who {AccountId Moment : Type} : Call AccountId Moment → AccountId
  | .bond who _ | .unbond who _ _ | .unbondInstant who _ | .rebond who _ | .withdrawUnbonded who _ => who

/-- The times the unbond calls of a run unlock at, in order. -/
def unbondTimes {AccountId Moment : Type} : List (Call AccountId Moment) → List Moment
  | [] => []
  | .unbond _ _ unlockAt :: calls => unlockAt :: unbondTimes calls
  | .bond _ _ :: calls | .unbondInstant _ _ :: calls | .rebond _ _ :: calls
  | .withdrawUnbonded _ _ :: calls => unbondTimes calls

/-! ## Properties of every stored ledger -/

section Every

variable {AccountId Moment : Type} {maxUnbondingChunks : Nat}

/-- Every stored ledger satisfies `P`. -/
def EveryLedger (P : BondingLedger Moment maxUnbondingChunks → Prop)
    (ledgers : Ledgers AccountId Moment maxUnbondingChunks) : Prop :=
  ∀ who ledger, ledgers who = some ledger → P ledger

variable {P Q : BondingLedger Moment maxUnbondingChunks → Prop} {ledgers : Ledgers AccountId Moment maxUnbondingChunks}

theorem everyLedger_empty : EveryLedger P (fun _ : AccountId => none) := fun _ _ h => by cases h

theorem EveryLedger.mono (h : EveryLedger P ledgers) (hPQ : ∀ ledger, P ledger → Q ledger) : EveryLedger Q ledgers :=
  fun who ledger hwho => hPQ ledger (h who ledger hwho)

theorem EveryLedger.update [DecidableEq AccountId] (h : EveryLedger P ledgers) {who : AccountId}
    {entry : Option (BondingLedger Moment maxUnbondingChunks)} (hentry : ∀ ledger, entry = some ledger → P ledger) :
    EveryLedger P (Function.update ledgers who entry) := by
  intro x ledger hx
  by_cases hxw : x = who
  · subst hxw
    rw [Function.update_self] at hx
    exact hentry ledger hx
  · rw [Function.update_of_ne hxw] at hx
    exact h x ledger hx

end Every

/-- The chunks unlock at strictly increasing times, none later than any of `later`. -/
def InOrder {Moment : Type} [LinearOrder Moment] (later : List Moment) (chunks : List (UnlockChunk Moment)) : Prop :=
  (unlockTimes chunks).Pairwise (· < ·) ∧ ∀ t ∈ unlockTimes chunks, ∀ t' ∈ later, t ≤ t'

section InOrder

variable {Moment : Type} [LinearOrder Moment] {later : List Moment} {chunks chunks' : List (UnlockChunk Moment)}

theorem inOrder_nil : InOrder later ([] : List (UnlockChunk Moment)) :=
  ⟨List.Pairwise.nil, fun _ h => by cases h⟩

theorem InOrder.sublist (h : InOrder later chunks) (hsub : (unlockTimes chunks').Sublist (unlockTimes chunks)) :
    InOrder later chunks' :=
  ⟨h.1.sublist hsub, fun t ht => h.2 t (hsub.subset ht)⟩

theorem InOrder.of_cons {t : Moment} (h : InOrder (t :: later) chunks) : InOrder later chunks :=
  ⟨h.1, fun x hx t' ht' => h.2 x hx t' (List.mem_cons_of_mem _ ht')⟩

theorem InOrder.mergeOrPush {t : Moment} (h : InOrder (t :: later) chunks) (hlater : ∀ t' ∈ later, t ≤ t')
    (amount : Nat) : InOrder later (BondingLedger.mergeOrPush amount t chunks) := by
  obtain ⟨hinc, hle⟩ := BondingLedger.unlockTimes_mergeOrPush amount h.1 fun x hx => h.2 x hx t List.mem_cons_self
  exact ⟨hinc, fun x hx t' ht' => le_trans (hle x hx) (hlater t' ht')⟩

end InOrder

namespace Controller

variable {AccountId Moment DispatchError : Type} {maxUnbondingChunks : Nat} [DecidableEq AccountId]
  (C : Controller AccountId Moment DispatchError maxUnbondingChunks)

/-- The tail of every call that writes: run `apply_ledger` on the ledger just
written and report the change, or return the hook's error with the write kept. -/
def applyAndReport (who : AccountId) (ledger : BondingLedger Moment maxUnbondingChunks) (change : BondChange)
    (ledgers : Ledgers AccountId Moment maxUnbondingChunks) : Outcome AccountId Moment DispatchError maxUnbondingChunks :=
  match C.applyLedger who ledger with
  | .error e => (.error e, ledgers)
  | .ok () => (.ok (some change), ledgers)

/-- `bond`: bond up to the available balance; an account without a ledger
starts from the default one. -/
def bond (who : AccountId) (amount : Nat) (ledgers : Ledgers AccountId Moment maxUnbondingChunks) :
    Outcome AccountId Moment DispatchError maxUnbondingChunks :=
  let ledger := (ledgers who).getD .new
  let bondAmount := min amount (C.availableBalance who ledger)
  if bondAmount = 0 then (.ok none, ledgers)
  else
    let oldActive := ledger.active
    match ledger.bond C.minBond bondAmount with
    | .error e => (.error (C.convertError e), ledgers)
    | .ok ledger =>
        C.applyAndReport who ledger { new := ledger.active, old := oldActive, change := bondAmount }
          (Function.update ledgers who (some ledger))

/-- The shape `unbond`, `unbond_instant` and `rebond` share: fail when the
account has no ledger, write nothing when the ledger's operation moved
nothing, else write the new ledger and report the change of the active
balance. -/
def changeLedger (who : AccountId)
    (operation : BondingLedger Moment maxUnbondingChunks → Except Error (BondingLedger Moment maxUnbondingChunks × Nat))
    (ledgers : Ledgers AccountId Moment maxUnbondingChunks) : Outcome AccountId Moment DispatchError maxUnbondingChunks :=
  match ledgers who with
  | none => (.error (C.convertError .notBonded), ledgers)
  | some ledger =>
      let oldActive := ledger.active
      match operation ledger with
      | .error e => (.error (C.convertError e), ledgers)
      | .ok (ledger, amount) =>
          if amount = 0 then (.ok none, ledgers)
          else
            C.applyAndReport who ledger { new := ledger.active, old := oldActive, change := amount }
              (Function.update ledgers who (some ledger))

/-- `unbond`. -/
def unbond [DecidableEq Moment] (who : AccountId) (amount : Nat) (unlockAt : Moment)
    (ledgers : Ledgers AccountId Moment maxUnbondingChunks) : Outcome AccountId Moment DispatchError maxUnbondingChunks :=
  C.changeLedger who (fun ledger => ledger.unbond C.minBond amount unlockAt) ledgers

/-- `unbond_instant`. -/
def unbondInstant (who : AccountId) (amount : Nat) (ledgers : Ledgers AccountId Moment maxUnbondingChunks) :
    Outcome AccountId Moment DispatchError maxUnbondingChunks :=
  C.changeLedger who (fun ledger => ledger.unbondInstant C.minBond amount) ledgers

/-- `rebond`. -/
def rebond (who : AccountId) (amount : Nat) (ledgers : Ledgers AccountId Moment maxUnbondingChunks) :
    Outcome AccountId Moment DispatchError maxUnbondingChunks :=
  C.changeLedger who (fun ledger => ledger.rebond C.minBond amount) ledgers

/-- `withdraw_unbonded`: drop the chunks due by `now`; report the fall of the
total, and remove the ledger when its total is gone. -/
def withdrawUnbonded [LinearOrder Moment] (who : AccountId) (now : Moment)
    (ledgers : Ledgers AccountId Moment maxUnbondingChunks) : Outcome AccountId Moment DispatchError maxUnbondingChunks :=
  match ledgers who with
  | none => (.error (C.convertError .notBonded), ledgers)
  | some ledger =>
      let oldTotal := ledger.total
      let ledger := ledger.consolidateUnlocked now
      let newTotal := ledger.total
      let diff := oldTotal - newTotal
      if diff = 0 then (.ok none, ledgers)
      else
        C.applyAndReport who ledger { new := newTotal, old := oldTotal, change := diff }
          (Function.update ledgers who (if newTotal = 0 then none else some ledger))

/-! ## What a call can do

One inversion lemma per shape of call: each says every way the call can end,
with what it answers and the ledgers it leaves. The invariants below are read
off these, and never unfold a call again. -/

section Inversion

variable {who : AccountId} {ledgers ledgers' : Ledgers AccountId Moment maxUnbondingChunks}
  {ledger l : BondingLedger Moment maxUnbondingChunks} {change : BondChange}

omit [DecidableEq AccountId] in
@[simp] theorem applyAndReport_snd : (C.applyAndReport who ledger change ledgers).2 = ledgers := by
  unfold applyAndReport
  split <;> rfl

omit [DecidableEq AccountId] in
theorem applyAndReport_eq_ok {r : Option BondChange}
    (h : C.applyAndReport who ledger change ledgers = (.ok r, ledgers')) : r = some change ∧ ledgers' = ledgers := by
  unfold applyAndReport at h
  split at h <;> simp_all

omit [DecidableEq AccountId] in
theorem applyAndReport_error {e : DispatchError} (h : (C.applyAndReport who ledger change ledgers).1 = .error e) :
    C.applyLedger who ledger = .error e := by
  unfold applyAndReport at h
  split at h
  · rename_i e' happly
    cases h
    exact happly
  · cases h

theorem bond_cases (who : AccountId) (amount : Nat) (ledgers : Ledgers AccountId Moment maxUnbondingChunks) :
    (min amount (C.availableBalance who ((ledgers who).getD .new)) = 0 ∧ C.bond who amount ledgers = (.ok none, ledgers)) ∨
    (∃ e, ((ledgers who).getD .new).bond C.minBond (min amount (C.availableBalance who ((ledgers who).getD .new))) =
        .error e ∧ C.bond who amount ledgers = (.error (C.convertError e), ledgers)) ∨
    (∃ l, ((ledgers who).getD .new).bond C.minBond (min amount (C.availableBalance who ((ledgers who).getD .new))) =
        .ok l ∧ C.bond who amount ledgers =
          C.applyAndReport who l
            { new := l.active, old := ((ledgers who).getD .new).active,
              change := min amount (C.availableBalance who ((ledgers who).getD .new)) }
            (Function.update ledgers who (some l))) := by
  unfold bond
  dsimp only
  split_ifs with hzero
  · exact .inl ⟨hzero, rfl⟩
  · split
    · rename_i e hbond
      exact .inr (.inl ⟨e, hbond, rfl⟩)
    · rename_i l hbond
      exact .inr (.inr ⟨l, hbond, rfl⟩)

theorem changeLedger_cases (who : AccountId)
    (operation : BondingLedger Moment maxUnbondingChunks → Except Error (BondingLedger Moment maxUnbondingChunks × Nat))
    (ledgers : Ledgers AccountId Moment maxUnbondingChunks) :
    (ledgers who = none ∧ C.changeLedger who operation ledgers = (.error (C.convertError .notBonded), ledgers)) ∨
    (∃ ledger e, ledgers who = some ledger ∧ operation ledger = .error e ∧
      C.changeLedger who operation ledgers = (.error (C.convertError e), ledgers)) ∨
    (∃ ledger l, ledgers who = some ledger ∧ operation ledger = .ok (l, 0) ∧
      C.changeLedger who operation ledgers = (.ok none, ledgers)) ∨
    (∃ ledger l m, ledgers who = some ledger ∧ operation ledger = .ok (l, m) ∧ 0 < m ∧
      C.changeLedger who operation ledgers =
        C.applyAndReport who l { new := l.active, old := ledger.active, change := m }
          (Function.update ledgers who (some l))) := by
  unfold changeLedger
  cases hwho : ledgers who with
  | none => exact .inl ⟨rfl, rfl⟩
  | some ledger =>
      dsimp only
      cases hop : operation ledger with
      | error e => exact .inr (.inl ⟨ledger, e, rfl, hop, rfl⟩)
      | ok r =>
          obtain ⟨l, m⟩ := r
          dsimp only
          split_ifs with hzero
          · subst hzero
            exact .inr (.inr (.inl ⟨ledger, l, rfl, hop, rfl⟩))
          · exact .inr (.inr (.inr ⟨ledger, l, m, rfl, hop, Nat.pos_of_ne_zero hzero, rfl⟩))

theorem withdrawUnbonded_cases [LinearOrder Moment] (who : AccountId) (now : Moment) (ledgers : Ledgers AccountId Moment maxUnbondingChunks) :
    (ledgers who = none ∧ C.withdrawUnbonded who now ledgers = (.error (C.convertError .notBonded), ledgers)) ∨
    (∃ ledger, ledgers who = some ledger ∧ ledger.total - (ledger.consolidateUnlocked now).total = 0 ∧
      C.withdrawUnbonded who now ledgers = (.ok none, ledgers)) ∨
    (∃ ledger, ledgers who = some ledger ∧ 0 < ledger.total - (ledger.consolidateUnlocked now).total ∧
      C.withdrawUnbonded who now ledgers =
        C.applyAndReport who (ledger.consolidateUnlocked now)
          { new := (ledger.consolidateUnlocked now).total, old := ledger.total,
            change := ledger.total - (ledger.consolidateUnlocked now).total }
          (Function.update ledgers who
            (if (ledger.consolidateUnlocked now).total = 0 then none else some (ledger.consolidateUnlocked now)))) := by
  unfold withdrawUnbonded
  cases hwho : ledgers who with
  | none => exact .inl ⟨rfl, rfl⟩
  | some ledger =>
      dsimp only
      by_cases hzero : ledger.total - (ledger.consolidateUnlocked now).total = 0
      · rw [if_pos hzero]
        exact .inr (.inl ⟨ledger, rfl, hzero, rfl⟩)
      · rw [if_neg hzero]
        exact .inr (.inr ⟨ledger, rfl, Nat.pos_of_ne_zero hzero, rfl⟩)

end Inversion

variable [LinearOrder Moment]

/-- One call of the controller. -/
def dispatch : Call AccountId Moment → Ledgers AccountId Moment maxUnbondingChunks →
    Outcome AccountId Moment DispatchError maxUnbondingChunks
  | .bond who amount => C.bond who amount
  | .unbond who amount unlockAt => C.unbond who amount unlockAt
  | .unbondInstant who amount => C.unbondInstant who amount
  | .rebond who amount => C.rebond who amount
  | .withdrawUnbonded who now => C.withdrawUnbonded who now

/-- The controller as a transition system over the stored ledgers, from empty
storage. A call that returns an error keeps what it wrote. -/
def system : System (Ledgers AccountId Moment maxUnbondingChunks) (Call AccountId Moment) where
  init ledgers := ledgers = fun _ => none
  step ledgers call := some (C.dispatch call ledgers).2

/-- A bond whose amount keeps the account's total within `u128`; any other call. -/
def NoOverflow (ledgers : Ledgers AccountId Moment maxUnbondingChunks) : Call AccountId Moment → Prop
  | .bond who amount =>
      ((ledgers who).getD .new).total + min amount (C.availableBalance who ((ledgers who).getD .new)) < 2 ^ 128
  | _ => True

instance (ledgers : Ledgers AccountId Moment maxUnbondingChunks) (call : Call AccountId Moment) :
    Decidable (C.NoOverflow ledgers call) :=
  match call with
  | .bond _ _ => inferInstanceAs (Decidable (_ < _))
  | .unbond _ _ _ | .unbondInstant _ _ | .rebond _ _ | .withdrawUnbonded _ _ => inferInstanceAs (Decidable True)

/-! ## What the calls keep

A property of every stored ledger is kept by a call when the ledger the call
writes has it; the three shapes of call each get one lemma that says so, and
the accounting and the order of the chunks are then instances. -/

section Keep

variable {C} {ledgers : Ledgers AccountId Moment maxUnbondingChunks}
  {P Q : BondingLedger Moment maxUnbondingChunks → Prop}

omit [LinearOrder Moment] in
theorem bond_keeps {who : AccountId} {amount : Nat} (h : EveryLedger P ledgers) (hnew : P .new)
    (hbond : ∀ l, P ((ledgers who).getD .new) →
      ((ledgers who).getD .new).bond C.minBond (min amount (C.availableBalance who ((ledgers who).getD .new))) = .ok l →
      P l) :
    EveryLedger P (C.bond who amount ledgers).2 := by
  have hbefore : P ((ledgers who).getD .new) := by
    cases hwho : ledgers who with
    | none => exact hnew
    | some ledger => exact h who ledger hwho
  rcases C.bond_cases who amount ledgers with ⟨-, hout⟩ | ⟨_, -, hout⟩ | ⟨l, hl, hout⟩
  · rw [hout]
    exact h
  · rw [hout]
    exact h
  · rw [hout, applyAndReport_snd]
    refine h.update fun ledger hentry => ?_
    cases hentry
    exact hbond l hbefore hl

omit [LinearOrder Moment] in
/-- A call of the shape of `unbond`, `unbond_instant` and `rebond` takes the
ledgers from `P` to `Q`, when `P` gives `Q` and every ledger the operation
makes from one with `P` has `Q`. -/
theorem changeLedger_keeps {who : AccountId}
    {operation : BondingLedger Moment maxUnbondingChunks → Except Error (BondingLedger Moment maxUnbondingChunks × Nat)}
    (h : EveryLedger P ledgers) (hPQ : ∀ ledger, P ledger → Q ledger)
    (hoperation : ∀ ledger l m, P ledger → operation ledger = .ok (l, m) → 0 < m → Q l) :
    EveryLedger Q (C.changeLedger who operation ledgers).2 := by
  rcases C.changeLedger_cases who operation ledgers with
    ⟨-, hout⟩ | ⟨_, _, -, -, hout⟩ | ⟨_, _, -, -, hout⟩ | ⟨ledger, l, m, hwho, hl, hm, hout⟩
  · rw [hout]
    exact h.mono hPQ
  · rw [hout]
    exact h.mono hPQ
  · rw [hout]
    exact h.mono hPQ
  · rw [hout, applyAndReport_snd]
    refine (h.mono hPQ).update fun ledger' hentry => ?_
    cases hentry
    exact hoperation ledger l m (h who ledger hwho) hl hm

theorem withdrawUnbonded_keeps {who : AccountId} {now : Moment} (h : EveryLedger P ledgers)
    (hconsolidate : ∀ ledger, P ledger → P (ledger.consolidateUnlocked now)) :
    EveryLedger P (C.withdrawUnbonded who now ledgers).2 := by
  rcases C.withdrawUnbonded_cases who now ledgers with ⟨-, hout⟩ | ⟨_, -, -, hout⟩ | ⟨ledger, hwho, -, hout⟩
  · rw [hout]
    exact h
  · rw [hout]
    exact h
  · rw [hout, applyAndReport_snd]
    refine h.update fun ledger' hentry => ?_
    by_cases hgone : (ledger.consolidateUnlocked now).total = 0
    · rw [if_pos hgone] at hentry
      cases hentry
    · rw [if_neg hgone, Option.some.injEq] at hentry
      subst hentry
      exact hconsolidate ledger (h who ledger hwho)

theorem dispatch_keeps_valid {call : Call AccountId Moment} (h : EveryLedger (BondingLedger.Valid C.minBond) ledgers)
    (hfit : C.NoOverflow ledgers call) : EveryLedger (BondingLedger.Valid C.minBond) (C.dispatch call ledgers).2 := by
  cases call with
  | bond who amount =>
      exact bond_keeps h BondingLedger.new_valid fun l hv hl => BondingLedger.bond_valid hv hfit hl
  | unbond who amount unlockAt =>
      exact changeLedger_keeps h (fun _ hv => hv) fun _ _ _ hv hl hm => BondingLedger.unbond_valid hv hl hm
  | unbondInstant who amount =>
      exact changeLedger_keeps h (fun _ hv => hv) fun _ _ _ hv hl _ => BondingLedger.unbondInstant_valid hv hl
  | rebond who amount =>
      exact changeLedger_keeps h (fun _ hv => hv) fun _ _ _ hv hl _ => BondingLedger.rebond_valid hv hl
  | withdrawUnbonded who now =>
      exact withdrawUnbonded_keeps h fun _ hv => BondingLedger.consolidateUnlocked_valid hv now

theorem valid_invariant :
    Invariant (C.system.guard C.NoOverflow) (EveryLedger (BondingLedger.Valid C.minBond)) := by
  apply invariant_of_inductive
  · intro ledgers hinit
    obtain rfl : ledgers = fun _ => none := hinit
    exact everyLedger_empty
  · intro ledgers ledgers' call h hstep
    obtain ⟨hfit, hstep⟩ := System.guard_step_eq_some.mp hstep
    have hnext : (C.dispatch call ledgers).2 = ledgers' := Option.some.inj hstep
    rw [← hnext]
    exact dispatch_keeps_valid h hfit

theorem dispatch_keeps_order {call : Call AccountId Moment} {calls : List (Call AccountId Moment)}
    (hsorted : (unbondTimes (call :: calls)).Pairwise (· ≤ ·))
    (h : EveryLedger (fun l => InOrder (unbondTimes (call :: calls)) l.unlocking.1) ledgers) :
    EveryLedger (fun l => InOrder (unbondTimes calls) l.unlocking.1) (C.dispatch call ledgers).2 := by
  cases call with
  | bond who amount =>
      refine bond_keeps h inOrder_nil fun l hbefore hl => ?_
      rw [(BondingLedger.bond_eq_ok hl).1]
      exact hbefore
  | unbond who amount unlockAt =>
      have hlater : ∀ t' ∈ unbondTimes calls, unlockAt ≤ t' := (List.pairwise_cons.mp hsorted).1
      refine changeLedger_keeps h (fun _ hl => InOrder.of_cons hl) fun _ _ m hbefore hl _ => ?_
      rw [(BondingLedger.unbond_eq_ok hl).2.2.2.1]
      exact hbefore.mergeOrPush hlater m
  | unbondInstant who amount =>
      refine changeLedger_keeps h (fun _ hl => hl) fun _ _ _ hbefore hl _ => ?_
      rw [(BondingLedger.unbondInstant_eq_ok hl).2.1]
      exact hbefore
  | rebond who amount =>
      refine changeLedger_keeps h (fun _ hl => hl) fun _ _ _ hbefore hl _ => ?_
      exact hbefore.sublist (BondingLedger.rebond_spec hl).2.2.2.2.1.unlockTimes_isPrefixOf.sublist
  | withdrawUnbonded who now =>
      refine withdrawUnbonded_keeps h fun ledger hbefore => hbefore.sublist ?_
      exact (List.filter_sublist).map _

theorem run_in_order :
    ∀ (calls : List (Call AccountId Moment)) (ledgers : Ledgers AccountId Moment maxUnbondingChunks),
      (unbondTimes calls).Pairwise (· ≤ ·) → EveryLedger (fun l => InOrder (unbondTimes calls) l.unlocking.1) ledgers →
        EveryLedger (fun l => InOrder [] l.unlocking.1) (C.system.run ledgers calls)
  | [], _, _, h => h
  | call :: calls, ledgers, hsorted, h => by
      have hrest : (unbondTimes calls).Pairwise (· ≤ ·) := by
        cases call <;> first | exact hsorted | exact hsorted.of_cons
      exact run_in_order calls (C.dispatch call ledgers).2 hrest (dispatch_keeps_order hsorted h)

end Keep

/-! ## What `rebond` and `withdraw_unbonded` report -/

section Specs

variable {C} {ledgers ledgers' : Ledgers AccountId Moment maxUnbondingChunks} {who : AccountId}
  {ledger : BondingLedger Moment maxUnbondingChunks} {r : Option BondChange}

omit [LinearOrder Moment] in
/-- A rebond that succeeds moves `min value (chunkSum unlocking)` from the most
recent chunks to the active balance and reports it; when that is nothing, it
writes nothing. -/
theorem rebond_spec {value : Nat} (hwho : ledgers who = some ledger) (h : C.rebond who value ledgers = (.ok r, ledgers')) :
    (min value (chunkSum ledger.unlocking.1) = 0 → r = none ∧ ledgers' = ledgers) ∧
    (0 < min value (chunkSum ledger.unlocking.1) → ∃ l, ledgers' = Function.update ledgers who (some l) ∧
      l.active = ledger.active + min value (chunkSum ledger.unlocking.1) ∧ l.total = ledger.total ∧
      chunkSum l.unlocking.1 + min value (chunkSum ledger.unlocking.1) = chunkSum ledger.unlocking.1 ∧
      BondingLedger.TakenFromEnd ledger.unlocking.1 l.unlocking.1 ∧
      r = some { new := l.active, old := ledger.active, change := min value (chunkSum ledger.unlocking.1) }) := by
  unfold rebond at h
  rcases C.changeLedger_cases who (fun ledger => ledger.rebond C.minBond value) ledgers with
    ⟨hnone, -⟩ | ⟨_, _, -, -, hout⟩ | ⟨ledger', l, hwho', hl, hout⟩ | ⟨ledger', l, m, hwho', hl, hm, hout⟩
  · rw [hwho] at hnone
    cases hnone
  · rw [hout] at h
    cases h
  · -- nothing was moved
    rw [hwho, Option.some.injEq] at hwho'
    subst hwho'
    have hmoved := (BondingLedger.rebond_spec hl).1
    rw [hout, Prod.mk.injEq] at h
    obtain ⟨hr, rfl⟩ := h
    refine ⟨fun _ => ⟨(Except.ok.inj hr).symm, rfl⟩, fun hpos => ?_⟩
    omega
  · rw [hwho, Option.some.injEq] at hwho'
    subst hwho'
    obtain ⟨hmoved, htotal, hactive, hsum, htaken, -⟩ := BondingLedger.rebond_spec hl
    rw [hout] at h
    obtain ⟨hr, hledgers⟩ := C.applyAndReport_eq_ok h
    subst hmoved
    exact ⟨fun hzero => absurd hzero (Nat.pos_iff_ne_zero.mp hm), fun _ => ⟨l, hledgers, hactive, htotal, hsum, htaken, hr⟩⟩

/-- A withdrawal that succeeds lowers the total by exactly the value of the
chunks due, reports that, and removes the ledger exactly when its total
becomes nothing. -/
theorem withdrawUnbonded_spec {now : Moment} (hwho : ledgers who = some ledger) (hv : ledger.Valid C.minBond)
    (h : C.withdrawUnbonded who now ledgers = (.ok r, ledgers')) :
    (ledger.consolidateUnlocked now).total + BondingLedger.dueValue now ledger.unlocking.1 = ledger.total ∧
    r = (if BondingLedger.dueValue now ledger.unlocking.1 = 0 then none
      else some
        { new := ledger.total - BondingLedger.dueValue now ledger.unlocking.1, old := ledger.total,
          change := BondingLedger.dueValue now ledger.unlocking.1 }) ∧
    ledgers' = (if BondingLedger.dueValue now ledger.unlocking.1 = 0 then ledgers
      else Function.update ledgers who
        (if BondingLedger.dueValue now ledger.unlocking.1 = ledger.total then none
          else some (ledger.consolidateUnlocked now))) ∧
    (ledgers' who = none ↔ 0 < ledger.total ∧ (ledger.consolidateUnlocked now).total = 0) := by
  have hdue_le : BondingLedger.dueValue now ledger.unlocking.1 ≤ ledger.total :=
    le_trans (BondingLedger.dueValue_le now _) (hv.total_eq ▸ Nat.le_add_left _ _)
  have htotal : (ledger.consolidateUnlocked now).total = ledger.total - BondingLedger.dueValue now ledger.unlocking.1 :=
    BondingLedger.consolidateUnlocked_total now
  have hsum : (ledger.consolidateUnlocked now).total + BondingLedger.dueValue now ledger.unlocking.1 = ledger.total := by
    omega
  rcases C.withdrawUnbonded_cases who now ledgers with
    ⟨hnone, -⟩ | ⟨ledger', hwho', hzero, hout⟩ | ⟨ledger', hwho', hpos, hout⟩
  · rw [hwho] at hnone
    cases hnone
  · -- nothing was due: nothing is written
    rw [hwho, Option.some.injEq] at hwho'
    subst hwho'
    rw [hout, Prod.mk.injEq] at h
    obtain ⟨hr, rfl⟩ := h
    have hnothing : BondingLedger.dueValue now ledger.unlocking.1 = 0 := by omega
    refine ⟨hsum, by rw [if_pos hnothing, ← Except.ok.inj hr], by rw [if_pos hnothing], ?_⟩
    rw [hwho]
    simp only [reduceCtorEq, false_iff, not_and]
    omega
  · rw [hwho, Option.some.injEq] at hwho'
    subst hwho'
    rw [hout] at h
    obtain ⟨hr, rfl⟩ := C.applyAndReport_eq_ok h
    have hsome : BondingLedger.dueValue now ledger.unlocking.1 ≠ 0 := by omega
    have hchange : ledger.total - (ledger.consolidateUnlocked now).total = BondingLedger.dueValue now ledger.unlocking.1 := by
      omega
    have hgone : (ledger.consolidateUnlocked now).total = 0 ↔ BondingLedger.dueValue now ledger.unlocking.1 = ledger.total := by
      omega
    refine ⟨hsum, ?_, ?_, ?_⟩
    · rw [if_neg hsome, hr, hchange, htotal]
    · rw [if_neg hsome]
      by_cases hall : BondingLedger.dueValue now ledger.unlocking.1 = ledger.total
      · rw [if_pos hall, if_pos (hgone.mpr hall)]
      · rw [if_neg hall, if_neg (mt hgone.mp hall)]
    · rw [Function.update_self]
      by_cases hzero : (ledger.consolidateUnlocked now).total = 0
      · rw [if_pos hzero]
        simp only [true_iff]
        omega
      · rw [if_neg hzero]
        simp only [reduceCtorEq, false_iff, not_and]
        omega

end Specs

/-! ## Calls that fail -/

section Failure

/-- What a failed call can leave: the ledgers as they were, or the account's
entry written just before `apply_ledger` failed with `e` on the ledger written. -/
def FailedWith (who : AccountId) (e : DispatchError) (ledgers after : Ledgers AccountId Moment maxUnbondingChunks) : Prop :=
  after = ledgers ∨ ∃ ledger, C.applyLedger who ledger = .error e ∧
    (after = Function.update ledgers who (some ledger) ∨ after = Function.update ledgers who none)

variable {C} {ledgers : Ledgers AccountId Moment maxUnbondingChunks} {who : AccountId} {e : DispatchError}

omit [LinearOrder Moment] in
theorem applyAndReport_failedWith {ledger : BondingLedger Moment maxUnbondingChunks} {change : BondChange}
    {entry : Option (BondingLedger Moment maxUnbondingChunks)} (hentry : entry = some ledger ∨ entry = none)
    (h : (C.applyAndReport who ledger change (Function.update ledgers who entry)).1 = .error e) :
    C.FailedWith who e ledgers (C.applyAndReport who ledger change (Function.update ledgers who entry)).2 := by
  rw [applyAndReport_snd]
  refine .inr ⟨ledger, C.applyAndReport_error h, ?_⟩
  rcases hentry with rfl | rfl
  · exact .inl rfl
  · exact .inr rfl

omit [LinearOrder Moment] in
theorem bond_failedWith {amount : Nat} (h : (C.bond who amount ledgers).1 = .error e) :
    C.FailedWith who e ledgers (C.bond who amount ledgers).2 := by
  rcases C.bond_cases who amount ledgers with ⟨-, hout⟩ | ⟨_, -, hout⟩ | ⟨l, -, hout⟩
  · rw [hout]
    exact .inl rfl
  · rw [hout]
    exact .inl rfl
  · rw [hout] at h ⊢
    exact applyAndReport_failedWith (.inl rfl) h

omit [LinearOrder Moment] in
theorem changeLedger_failedWith
    {operation : BondingLedger Moment maxUnbondingChunks → Except Error (BondingLedger Moment maxUnbondingChunks × Nat)}
    (h : (C.changeLedger who operation ledgers).1 = .error e) :
    C.FailedWith who e ledgers (C.changeLedger who operation ledgers).2 := by
  rcases C.changeLedger_cases who operation ledgers with
    ⟨-, hout⟩ | ⟨_, _, -, -, hout⟩ | ⟨_, _, -, -, hout⟩ | ⟨_, l, _, -, -, -, hout⟩
  · rw [hout]
    exact .inl rfl
  · rw [hout]
    exact .inl rfl
  · rw [hout]
    exact .inl rfl
  · rw [hout] at h ⊢
    exact applyAndReport_failedWith (.inl rfl) h

theorem withdrawUnbonded_failedWith {now : Moment} (h : (C.withdrawUnbonded who now ledgers).1 = .error e) :
    C.FailedWith who e ledgers (C.withdrawUnbonded who now ledgers).2 := by
  rcases C.withdrawUnbonded_cases who now ledgers with ⟨-, hout⟩ | ⟨_, -, -, hout⟩ | ⟨ledger, -, -, hout⟩
  · rw [hout]
    exact .inl rfl
  · rw [hout]
    exact .inl rfl
  · rw [hout] at h ⊢
    refine applyAndReport_failedWith ?_ h
    by_cases hgone : (ledger.consolidateUnlocked now).total = 0
    · exact .inr (if_pos hgone)
    · exact .inl (if_neg hgone)

theorem dispatch_failedWith {call : Call AccountId Moment} (h : (C.dispatch call ledgers).1 = .error e) :
    C.FailedWith call.who e ledgers (C.dispatch call ledgers).2 := by
  cases call with
  | bond who amount => exact bond_failedWith h
  | unbond who amount unlockAt => exact changeLedger_failedWith h
  | unbondInstant who amount => exact changeLedger_failedWith h
  | rebond who amount => exact changeLedger_failedWith h
  | withdrawUnbonded who now => exact withdrawUnbonded_failedWith h

theorem dispatch_error_unchanged (happly : ∀ who ledger, C.applyLedger who ledger = .ok ())
    {call : Call AccountId Moment} (h : (C.dispatch call ledgers).1 = .error e) : (C.dispatch call ledgers).2 = ledgers := by
  rcases dispatch_failedWith h with hsame | ⟨ledger, hfail, -⟩
  · exact hsame
  · rw [happly] at hfail
    cases hfail

end Failure

end Controller

/-! ## The controller's accounting -/

section Accounting

variable {AccountId Moment DispatchError : Type} {maxUnbondingChunks : Nat} [DecidableEq AccountId] [LinearOrder Moment]

open Controller in
theorem bonding_ledger_accounting (C : Controller AccountId Moment DispatchError maxUnbondingChunks) :
    (∀ ledgers, Reachable (C.system.guard C.NoOverflow) ledgers → ∀ who ledger, ledgers who = some ledger →
      ledger.Valid C.minBond ∧ ledger.unlocking.1.length ≤ maxUnbondingChunks) ∧
    (∀ calls : List (Call AccountId Moment), (unbondTimes calls).Pairwise (· ≤ ·) →
      ∀ who ledger, C.system.run (fun _ => none) calls who = some ledger →
        (unlockTimes ledger.unlocking.1).Pairwise (· < ·)) ∧
    (∀ (ledgers ledgers' : Ledgers AccountId Moment maxUnbondingChunks) who ledger value r,
      ledgers who = some ledger → C.rebond who value ledgers = (.ok r, ledgers') →
      (min value (chunkSum ledger.unlocking.1) = 0 → r = none ∧ ledgers' = ledgers) ∧
      (0 < min value (chunkSum ledger.unlocking.1) → ∃ l, ledgers' = Function.update ledgers who (some l) ∧
        l.active = ledger.active + min value (chunkSum ledger.unlocking.1) ∧ l.total = ledger.total ∧
        chunkSum l.unlocking.1 + min value (chunkSum ledger.unlocking.1) = chunkSum ledger.unlocking.1 ∧
        BondingLedger.TakenFromEnd ledger.unlocking.1 l.unlocking.1 ∧
        r = some { new := l.active, old := ledger.active, change := min value (chunkSum ledger.unlocking.1) })) ∧
    (∀ (ledgers ledgers' : Ledgers AccountId Moment maxUnbondingChunks) who ledger now r,
      ledgers who = some ledger → ledger.Valid C.minBond → C.withdrawUnbonded who now ledgers = (.ok r, ledgers') →
      (ledger.consolidateUnlocked now).total + BondingLedger.dueValue now ledger.unlocking.1 = ledger.total ∧
      r = (if BondingLedger.dueValue now ledger.unlocking.1 = 0 then none
        else some
          { new := ledger.total - BondingLedger.dueValue now ledger.unlocking.1, old := ledger.total,
            change := BondingLedger.dueValue now ledger.unlocking.1 }) ∧
      (ledgers' who = none ↔ 0 < ledger.total ∧ (ledger.consolidateUnlocked now).total = 0)) ∧
    (∀ ledgers call e, (C.dispatch call ledgers).1 = .error e →
      (C.dispatch call ledgers).2 = ledgers ∨ ∃ ledger, C.applyLedger call.who ledger = .error e ∧
        ((C.dispatch call ledgers).2 = Function.update ledgers call.who (some ledger) ∨
          (C.dispatch call ledgers).2 = Function.update ledgers call.who none)) ∧
    ((∀ who ledger, C.applyLedger who ledger = .ok ()) →
      ∀ ledgers call e, (C.dispatch call ledgers).1 = .error e → (C.dispatch call ledgers).2 = ledgers) := by
  refine ⟨?_, ?_, ?_, ?_, ?_, ?_⟩
  · intro ledgers hreach who ledger hwho
    exact ⟨C.valid_invariant ledgers hreach who ledger hwho, ledger.unlocking.2⟩
  · intro calls hsorted who ledger hwho
    exact (C.run_in_order calls _ hsorted everyLedger_empty who ledger hwho).1
  · intro ledgers ledgers' who ledger value r hwho h
    exact rebond_spec hwho h
  · intro ledgers ledgers' who ledger now r hwho hv h
    obtain ⟨htotal, hr, -, hgone⟩ := withdrawUnbonded_spec hwho hv h
    exact ⟨htotal, hr, hgone⟩
  · intro ledgers call e h
    exact dispatch_failedWith h
  · intro happly ledgers call e h
    exact dispatch_error_unchanged happly h

end Accounting

namespace Reference

/-- A controller over accounts and moments numbered by `Nat`: a minimum bond
of 10, at most 3 chunks, 1000 free to bond, and a hook that always succeeds. -/
def controller : Controller Nat Nat Unit 3 where
  minBond := 10
  availableBalance _ _ := 1000
  applyLedger _ _ := .ok ()
  convertError _ := ()

/-- The same controller with a hook that always fails, as a lock that cannot be set. -/
def failingLock : Controller Nat Nat Unit 3 := { controller with applyLedger := fun _ _ => .error () }

/-- Account 0 bonds 100, then unbonds 50 at time 5 and 20 at time 7. -/
def sampleCalls : List (Call Nat Nat) := [.bond 0 100, .unbond 0 50 5, .unbond 0 20 7]

theorem bonding_ledger_accounting_reference :
    (∀ who ledger, (controller.system.guard controller.NoOverflow).run (fun _ => none) sampleCalls who =
        some ledger → ledger.Valid controller.minBond ∧ ledger.unlocking.1.length ≤ 3) ∧
    (∀ who ledger, controller.system.run (fun _ => none) sampleCalls who = some ledger →
      (unlockTimes ledger.unlocking.1).Pairwise (· < ·)) ∧
    (controller.rebond 0 30 (controller.system.run (fun _ => none) sampleCalls)).1 =
      .ok (some { new := 60, old := 30, change := 30 }) :=
  ⟨(bonding_ledger_accounting controller).1 _ ((Reachable.init rfl).run _),
    (bonding_ledger_accounting controller).2.1 sampleCalls (by decide), rfl⟩

/-- A bond whose lock cannot be set returns the hook's error with the new
ledger already stored. -/
theorem failed_lock_keeps_bond :
    (failingLock.dispatch (.bond 0 100) fun _ => none).1 = .error () ∧
      ((failingLock.dispatch (.bond 0 100) fun _ => none).2 0).map BondingLedger.total = some 100 :=
  ⟨rfl, rfl⟩

end Reference

end Setheum.Bonding
