import Setheum.Tokens.Issuance
import Setheum.Lib.BoundedVec
import Setheum.Lib.SortedList

/-!
# Named reserves

`NamedMultiReservableCurrency` of `orml_tokens`. Besides the reserved balance
of an account, `Reserves` holds a list of `ReserveData`, the amount reserved
under each identifier, in a `BoundedVec` of `MaxReserves` entries. Every
operation looks the identifier up with `binary_search_by_key` and moves the
balance with the unnamed operation of `MultiReservableCurrency`. `Reserves` is
written in `try_mutate`, so a closure that fails leaves it as it was, but not
the accounts written inside the closure: `repatriate_reserved_named` to a
reserve moves the balance before it inserts the beneficiary's entry, and a
full list then fails with the balance moved. A call that fails is rolled back
by the storage layer of the dispatch it runs in, as every call is here.

The lists stay sorted by identifier, so the search finds every entry, and the
amounts of an account's list add up to at most its reserved balance; the
reserved balance never saturates because `TotalIssuance` backs it.
-/

namespace Setheum.Tokens

open Result Transition SortedList

/-- `ReserveData`: an amount reserved under an identifier. -/
structure ReserveData (ReserveIdentifier : Type) where
  id : ReserveIdentifier
  amount : Nat
  deriving DecidableEq, Repr

/-- The storage with `Reserves`; an entry never written is the empty vector. -/
structure NamedState (AccountId CurrencyId LockId ReserveIdentifier : Type) (maxReserves : Nat)
    extends State AccountId CurrencyId LockId where
  reserves : AccountId → CurrencyId → BoundedVec (ReserveData ReserveIdentifier) maxReserves

variable {AccountId CurrencyId LockId ReserveIdentifier : Type} {maxReserves : Nat}
variable [DecidableEq AccountId] [DecidableEq CurrencyId]

/-- What `reserves[index].amount` reads at an index the search returned. -/
def amountAt (reserves : List (ReserveData ReserveIdentifier)) (index : Nat) : Nat :=
  ((reserves[index]?).map ReserveData.amount).getD 0

/-- What `mutate_exists` leaves of a list whose entry at `index` was written:
the entry removed when it is empty, and no list when it was the only one. -/
def removeIfEmpty {maxReserves : Nat} (reserves : BoundedVec (ReserveData ReserveIdentifier) maxReserves)
    (index : Nat) : BoundedVec (ReserveData ReserveIdentifier) maxReserves :=
  if amountAt reserves.1 index = 0 then
    if reserves.1.length = 1 then BoundedVec.empty else reserves.remove index
  else reserves

namespace NamedState

variable (s : NamedState AccountId CurrencyId LockId ReserveIdentifier maxReserves)

/-- `Reserves` with the entry of one account and currency written. -/
def setReserves (who : AccountId) (c : CurrencyId)
    (v : BoundedVec (ReserveData ReserveIdentifier) maxReserves) :
    NamedState AccountId CurrencyId LockId ReserveIdentifier maxReserves :=
  { s with reserves := fun w d => if w = who ∧ d = c then v else s.reserves w d }

@[simp] theorem setReserves_toState (who c v) : (s.setReserves who c v).toState = s.toState := rfl

@[simp] theorem setReserves_reserves (who c v w d) :
    (s.setReserves who c v).reserves w d = if w = who ∧ d = c then v else s.reserves w d := rfl

theorem setReserves_reserves_of_ne {who w : AccountId} (c v d) (h : w ≠ who) :
    (s.setReserves who c v).reserves w d = s.reserves w d := by
  rw [setReserves_reserves, if_neg fun h' => h h'.1]

end NamedState

variable [LinearOrder ReserveIdentifier]
variable (T : Config AccountId CurrencyId) (dust : DustHook AccountId CurrencyId LockId)

section Operations

variable (s : NamedState AccountId CurrencyId LockId ReserveIdentifier maxReserves)

/-- `reserved_balance_named`. -/
def reservedBalanceNamed (id : ReserveIdentifier) (c : CurrencyId) (who : AccountId) : Nat :=
  let reserves := (s.reserves who c).1
  match binarySearchByKey id ReserveData.id reserves with
  | .ok index => amountAt reserves index
  | .error _ => 0

/-- `reserve_named`: the entry is raised, or inserted where the search says,
and then `reserve` moves the balance; either failure leaves `Reserves`. -/
def reserveNamed (id : ReserveIdentifier) (c : CurrencyId) (who : AccountId) (value : Nat) :
    Except DispatchError (NamedState AccountId CurrencyId LockId ReserveIdentifier maxReserves) :=
  if value = 0 then pure s
  else do
    let reserves := s.reserves who c
    let reserves ← match binarySearchByKey id ReserveData.id reserves.1 with
      | .ok index => pure (reserves.modify index fun data =>
          { data with amount := Balance.saturatingAdd data.amount value })
      | .error index => okOr (reserves.tryInsert index ⟨id, value⟩) (.module .tooManyReserves)
    let state ← reserve T dust c who value s.toState
    pure { s.setReserves who c reserves with toState := state }

/-- `unreserve_named`: `unreserve` of what the entry holds, up to `value`; an
entry left empty is removed (`mutate_exists` deletes the list when it was the
last). It returns what could not be unreserved. -/
def unreserveNamed (id : ReserveIdentifier) (c : CurrencyId) (who : AccountId) (value : Nat) :
    Nat × NamedState AccountId CurrencyId LockId ReserveIdentifier maxReserves :=
  if value = 0 then (0, s)
  else
    let reserves := s.reserves who c
    match binarySearchByKey id ReserveData.id reserves.1 with
    | .ok index =>
        let toChange := min (amountAt reserves.1 index) value
        let (remain, state) := unreserve T dust c who toChange s.toState
        let actual := toChange - remain
        let reserves :=
          removeIfEmpty (reserves.modify index fun data => { data with amount := data.amount - actual }) index
        (value - actual, { s.setReserves who c reserves with toState := state })
    | .error _ => (value, s)

/-- `slash_reserved_named`: `slash_reserved` of what the entry holds, up to
`value`; the entry stays, possibly empty. -/
def slashReservedNamed (id : ReserveIdentifier) (c : CurrencyId) (who : AccountId) (value : Nat) :
    Nat × NamedState AccountId CurrencyId LockId ReserveIdentifier maxReserves :=
  if value = 0 then (0, s)
  else
    let reserves := s.reserves who c
    match binarySearchByKey id ReserveData.id reserves.1 with
    | .ok index =>
        let toChange := min (amountAt reserves.1 index) value
        let (remain, state) := slashReserved T dust c who toChange s.toState
        let actual := toChange - remain
        (value - actual, { s.setReserves who c (reserves.modify index fun data =>
          { data with amount := data.amount - actual }) with toState := state })
    | .error _ => (value, s)

/-- `repatriate_reserved_named`, with the storage it leaves even when it
fails. Every branch calls `repatriate_reserved` once with the same arguments,
before it writes the beneficiary's entry; a failure of the inner `try_mutate`
keeps the accounts it wrote and drops both lists' writes. -/
def repatriateReservedNamed (id : ReserveIdentifier) (c : CurrencyId) (slashed beneficiary : AccountId)
    (value : Nat) (status : BalanceStatus) :
    Except DispatchError Nat × NamedState AccountId CurrencyId LockId ReserveIdentifier maxReserves :=
  if value = 0 then (.ok 0, s)
  else if slashed = beneficiary then
    match status with
    | .free =>
        let (remain, s) := unreserveNamed T dust s id c slashed value
        (.ok remain, s)
    | .reserved => (.ok (value - reservedBalanceNamed s id c slashed), s)
  else
    let reserves := s.reserves slashed c
    match binarySearchByKey id ReserveData.id reserves.1 with
    | .ok index =>
        let toChange := min (amountAt reserves.1 index) value
        let (remain, state) := repatriateReserved T dust c slashed beneficiary toChange status s.toState
        let actual := toChange - remain
        let beneficiaryReserves :
            Except DispatchError (NamedState AccountId CurrencyId LockId ReserveIdentifier maxReserves) :=
          if status = .reserved then
            let toReserves := s.reserves beneficiary c
            match binarySearchByKey id ReserveData.id toReserves.1 with
            | .ok toIndex => pure (s.setReserves beneficiary c (toReserves.modify toIndex fun data =>
                { data with amount := Balance.saturatingAdd data.amount actual }))
            | .error toIndex => do
                let toReserves ← okOr (toReserves.tryInsert toIndex ⟨id, actual⟩) (.module .tooManyReserves)
                pure (s.setReserves beneficiary c toReserves)
          else pure s
        match beneficiaryReserves with
        | .ok s =>
            (.ok (value - actual), { s.setReserves slashed c (reserves.modify index fun data =>
              { data with amount := data.amount - actual }) with toState := state })
        | .error e => (.error e, { s with toState := state })
    | .error _ => (.ok value, s)

end Operations

/-! ## Lists split at the index of a search -/

/-- What the amounts of a list add up to. -/
def namedTotal (l : List (ReserveData ReserveIdentifier)) : Nat := (l.map ReserveData.amount).sum

omit [DecidableEq AccountId] [DecidableEq CurrencyId] [LinearOrder ReserveIdentifier] in
@[simp] theorem namedTotal_append (l l' : List (ReserveData ReserveIdentifier)) :
    namedTotal (l ++ l') = namedTotal l + namedTotal l' := by
  simp [namedTotal]

omit [DecidableEq AccountId] [DecidableEq CurrencyId] [LinearOrder ReserveIdentifier] in
@[simp] theorem namedTotal_cons (d : ReserveData ReserveIdentifier) (l : List (ReserveData ReserveIdentifier)) :
    namedTotal (d :: l) = d.amount + namedTotal l := by
  simp [namedTotal]

omit [DecidableEq AccountId] [DecidableEq CurrencyId] [LinearOrder ReserveIdentifier] in
@[simp] theorem amountAt_append_length (pre post : List (ReserveData ReserveIdentifier))
    (d : ReserveData ReserveIdentifier) : amountAt (pre ++ d :: post) pre.length = d.amount := by
  simp [amountAt]

omit [DecidableEq AccountId] [DecidableEq CurrencyId] in
theorem modify_of_search_ok {l : List (ReserveData ReserveIdentifier)} {id : ReserveIdentifier} {index : Nat}
    (h : binarySearchByKey id ReserveData.id l = .ok index) :
    ∃ pre d post, l = pre ++ d :: post ∧ pre.length = index ∧ d.id = id ∧ amountAt l index = d.amount ∧
      ∀ g : ReserveData ReserveIdentifier → ReserveData ReserveIdentifier,
        l.modify index g = pre ++ g d :: post := by
  obtain ⟨pre, d, post, rfl, rfl, hid, -⟩ := binarySearchByKey_eq_ok h
  exact ⟨pre, d, post, rfl, rfl, hid, amountAt_append_length pre post d, modify_append_length pre post d⟩

omit [DecidableEq AccountId] [DecidableEq CurrencyId] in
theorem insert_of_search_error {l : List (ReserveData ReserveIdentifier)} {id : ReserveIdentifier} {index : Nat}
    (h : binarySearchByKey id ReserveData.id l = .error index) (hs : Sorted ReserveData.id l) (amount : Nat) :
    Sorted ReserveData.id (l.insertIdx index ⟨id, amount⟩) ∧
      namedTotal (l.insertIdx index ⟨id, amount⟩) = namedTotal l + amount := by
  obtain ⟨pre, post, rfl, rfl, hpre, hpost⟩ := binarySearchByKey_eq_error h
  rw [insertIdx_append_length]
  refine ⟨hs.insert hpre hpost, ?_⟩
  simp only [namedTotal_append, namedTotal_cons]
  omega

omit [DecidableEq AccountId] [DecidableEq CurrencyId] [LinearOrder ReserveIdentifier] in
theorem val_removeIfEmpty_modify {v : BoundedVec (ReserveData ReserveIdentifier) maxReserves}
    {pre post : List (ReserveData ReserveIdentifier)} {d : ReserveData ReserveIdentifier}
    (g : ReserveData ReserveIdentifier → ReserveData ReserveIdentifier) (hv : v.1 = pre ++ d :: post) :
    (removeIfEmpty (v.modify pre.length g) pre.length).1 =
      if (g d).amount = 0 then pre ++ post else pre ++ g d :: post := by
  unfold removeIfEmpty
  simp only [BoundedVec.val_modify, hv, modify_append_length, amountAt_append_length]
  split_ifs with h0 h1
  · -- the only entry: nothing is left before or after it
    simp only [List.length_append, List.length_cons] at h1
    have hpre : pre = [] := List.eq_nil_of_length_eq_zero (by omega)
    have hpost : post = [] := List.eq_nil_of_length_eq_zero (by omega)
    simp [hpre, hpost]
  · rw [BoundedVec.val_remove, BoundedVec.val_modify, hv, modify_append_length, eraseIdx_append_length]
  · rw [BoundedVec.val_modify, hv, modify_append_length]

section Balance

variable {s : NamedState AccountId CurrencyId LockId ReserveIdentifier maxReserves} {who : AccountId}
  {c : CurrencyId}

omit [DecidableEq AccountId] [DecidableEq CurrencyId] in
theorem reservedBalanceNamed_of_mem {pre post : List (ReserveData ReserveIdentifier)} {d : ReserveData ReserveIdentifier}
    (hl : (s.reserves who c).1 = pre ++ d :: post) (hs : Sorted ReserveData.id (pre ++ d :: post)) :
    reservedBalanceNamed s d.id c who = d.amount := by
  unfold reservedBalanceNamed
  dsimp only
  rw [hl, binarySearchByKey_append_cons hs]
  exact amountAt_append_length pre post d

omit [DecidableEq AccountId] [DecidableEq CurrencyId] in
theorem reservedBalanceNamed_of_forall_ne {id : ReserveIdentifier} (h : ∀ x ∈ (s.reserves who c).1, x.id ≠ id) :
    reservedBalanceNamed s id c who = 0 := by
  obtain ⟨i, hi⟩ := binarySearchByKey_isError h
  unfold reservedBalanceNamed
  dsimp only
  rw [hi]

end Balance

/-! ## The invariant -/

/-- The named reserves' invariant: the issuance backs the balances, every list
is sorted by identifier, and its amounts add up to at most the reserved
balance of its account. -/
structure NamedInv (s : NamedState AccountId CurrencyId LockId ReserveIdentifier maxReserves) : Prop where
  issued : Issued s.toState
  sorted : ∀ who c, Sorted ReserveData.id (s.reserves who c).1
  total_le : ∀ who c, namedTotal (s.reserves who c).1 ≤ (s.toState.account who c).reserved

section Invariant

variable {T dust}
variable {s s' : NamedState AccountId CurrencyId LockId ReserveIdentifier maxReserves}

theorem NamedInv.setReserves (h : NamedInv s) {state : State AccountId CurrencyId LockId}
    {who : AccountId} {c : CurrencyId} {v : BoundedVec (ReserveData ReserveIdentifier) maxReserves}
    (hI : Issued state)
    (hres : ∀ w d, ¬(w = who ∧ d = c) → (state.account w d).reserved = (s.toState.account w d).reserved)
    (hsorted : Sorted ReserveData.id v.1) (htotal : namedTotal v.1 ≤ (state.account who c).reserved) :
    NamedInv { s.setReserves who c v with toState := state } where
  issued := hI
  sorted w d := by
    dsimp only
    rw [NamedState.setReserves_reserves]
    split_ifs
    · exact hsorted
    · exact h.sorted w d
  total_le w d := by
    dsimp only
    rw [NamedState.setReserves_reserves]
    split_ifs with hwd
    · rw [hwd.1, hwd.2]
      exact htotal
    · rw [hres w d hwd]
      exact h.total_le w d

theorem NamedInv.setReserves₂ (h : NamedInv s) {state : State AccountId CurrencyId LockId}
    {a b : AccountId} {c : CurrencyId} {va vb : BoundedVec (ReserveData ReserveIdentifier) maxReserves}
    (hI : Issued state)
    (hres : ∀ w d, ¬(w = a ∧ d = c) → ¬(w = b ∧ d = c) →
      (state.account w d).reserved = (s.toState.account w d).reserved)
    (hsa : Sorted ReserveData.id va.1) (hta : namedTotal va.1 ≤ (state.account a c).reserved)
    (hsb : Sorted ReserveData.id vb.1) (htb : namedTotal vb.1 ≤ (state.account b c).reserved) :
    NamedInv { (s.setReserves b c vb).setReserves a c va with toState := state } where
  issued := hI
  sorted w d := by
    dsimp only
    rw [NamedState.setReserves_reserves, NamedState.setReserves_reserves]
    split_ifs
    · exact hsa
    · exact hsb
    · exact h.sorted w d
  total_le w d := by
    dsimp only
    rw [NamedState.setReserves_reserves, NamedState.setReserves_reserves]
    split_ifs with hwa hwb
    · rw [hwa.1, hwa.2]
      exact hta
    · rw [hwb.1, hwb.2]
      exact htb
    · rw [hres w d hwa hwb]
      exact h.total_le w d

omit [DecidableEq AccountId] [DecidableEq CurrencyId] in
theorem NamedInv.onAccounts (h : NamedInv s) {state : State AccountId CurrencyId LockId} (hI : Issued state)
    (hres : ∀ w d, (state.account w d).reserved = (s.toState.account w d).reserved) :
    NamedInv { s with toState := state } where
  issued := hI
  sorted := h.sorted
  total_le w d := by
    dsimp only
    rw [hres w d]
    exact h.total_le w d

theorem NamedInv.reserveNamed (hd : HookSound dust) (h : NamedInv s) {id : ReserveIdentifier}
    {c : CurrencyId} {who : AccountId} {value : Nat} (hr : reserveNamed T dust s id c who value = .ok s') :
    NamedInv s' := by
  by_cases hv : value = 0
  · simp only [Tokens.reserveNamed, hv, if_true, pure_eq_ok] at hr
    exact hr ▸ h
  unfold Tokens.reserveNamed at hr
  rw [if_neg hv] at hr
  dsimp only at hr
  have hsorted := h.sorted who c
  have htotal := h.total_le who c
  split at hr
  · rename_i index hsearch
    rw [pure_bind] at hr
    obtain ⟨state, hstate, hs'⟩ := bind_eq_ok.1 hr
    rw [pure_eq_ok] at hs'
    subst hs'
    obtain ⟨hI, hres⟩ := h.issued.reserve hd hstate
    obtain ⟨pre, d, post, hl, -, -, -, hmod⟩ := modify_of_search_ok hsearch
    rw [hl] at hsorted htotal
    refine h.setReserves hI (fun w d' hwd => by rw [hres, if_neg hwd]) ?_ ?_
    · rw [BoundedVec.val_modify, hmod]
      exact hsorted.modify rfl
    · rw [hres, if_pos ⟨rfl, rfl⟩, BoundedVec.val_modify, hmod]
      simp only [namedTotal_append, namedTotal_cons, Balance.saturatingAdd] at htotal ⊢
      omega
  · rename_i index hsearch
    obtain ⟨v, hv', hrest⟩ := bind_eq_ok.1 hr
    obtain ⟨state, hstate, hs'⟩ := bind_eq_ok.1 hrest
    rw [pure_eq_ok] at hs'
    subst hs'
    obtain ⟨hI, hres⟩ := h.issued.reserve hd hstate
    obtain ⟨-, hv1⟩ := BoundedVec.tryInsert_eq_some.1 (okOr_eq_ok.1 hv')
    obtain ⟨hsorted', htotal'⟩ := insert_of_search_error hsearch hsorted value
    refine h.setReserves hI (fun w d' hwd => by rw [hres, if_neg hwd]) ?_ ?_
    · rw [hv1]
      exact hsorted'
    · rw [hres, if_pos ⟨rfl, rfl⟩, hv1, htotal']
      omega

/-- `unreserve_named` moves what the entry holds, up to `value`, from the
reserved balance to the free one: the entry and the reserved balance fall by
the same amount, and it returns the rest of `value`. -/
theorem NamedInv.unreserveNamed (hd : HookSound dust) (h : NamedInv s) (id : ReserveIdentifier)
    (c : CurrencyId) (who : AccountId) (value : Nat) :
    NamedInv (unreserveNamed T dust s id c who value).2 ∧
      (unreserveNamed T dust s id c who value).1 = value - min (reservedBalanceNamed s id c who) value ∧
      (∀ w d, ((unreserveNamed T dust s id c who value).2.toState.account w d).reserved =
        if w = who ∧ d = c then (s.toState.account who c).reserved - min (reservedBalanceNamed s id c who) value
        else (s.toState.account w d).reserved) ∧
      reservedBalanceNamed (unreserveNamed T dust s id c who value).2 id c who =
        reservedBalanceNamed s id c who - min (reservedBalanceNamed s id c who) value := by
  by_cases hv : value = 0
  · subst hv
    have h0 : Tokens.unreserveNamed T dust s id c who 0 = (0, s) := by simp [Tokens.unreserveNamed]
    rw [h0]
    refine ⟨h, by simp, fun w d => ?_, by simp⟩
    split_ifs with hwd
    · rw [hwd.1, hwd.2, Nat.min_zero, Nat.sub_zero]
    · rfl
  have hsorted := h.sorted who c
  have htotal := h.total_le who c
  unfold Tokens.unreserveNamed
  rw [if_neg hv]
  dsimp only
  split
  · rename_i index hsearch
    obtain ⟨pre, d, post, hl, rfl, rfl, hamt, -⟩ := modify_of_search_ok hsearch
    rw [hl] at hsorted htotal
    rw [hamt, reservedBalanceNamed_of_mem hl hsorted]
    have hle : d.amount ≤ (s.toState.account who c).reserved := by
      simp only [namedTotal_append, namedTotal_cons] at htotal
      omega
    obtain ⟨hI, hrem, hres⟩ := h.issued.unreserve hd c who (min d.amount value)
    rcases hu : Tokens.unreserve T dust c who (min d.amount value) s.toState with ⟨remain, state⟩
    rw [hu] at hI hrem hres
    dsimp only at hI hrem hres ⊢
    have hactual : min d.amount value - remain = min d.amount value := by
      rw [hrem]
      omega
    rw [hactual]
    have hmin : min (s.toState.account who c).reserved (min d.amount value) = min d.amount value :=
      Nat.min_eq_right ((Nat.min_le_left _ _).trans hle)
    rw [hmin] at hres
    have hframe : ∀ w d', ¬(w = who ∧ d' = c) → (state.account w d').reserved = (s.toState.account w d').reserved :=
      fun w d' hwd => by rw [hres, if_neg hwd]
    have hlist := val_removeIfEmpty_modify (v := s.reserves who c)
      (fun data => { data with amount := data.amount - min d.amount value }) hl
    dsimp only at hlist
    simp only [namedTotal_append, namedTotal_cons] at htotal
    by_cases h0 : d.amount - min d.amount value = 0
    · -- the emptied entry is removed, and its identifier with it
      rw [if_pos h0] at hlist
      refine ⟨h.setReserves hI hframe ?_ ?_, rfl, hres, ?_⟩
      · rw [hlist]
        exact hsorted.erase
      · rw [hres, if_pos (show who = who ∧ c = c from ⟨rfl, rfl⟩), hlist, namedTotal_append]
        omega
      · rw [reservedBalanceNamed_of_forall_ne]
        · omega
        · intro x hx
          simp only [NamedState.setReserves_reserves, and_self, if_true] at hx
          rw [hlist] at hx
          exact hsorted.ne_of_mem hx
    · rw [if_neg h0] at hlist
      refine ⟨h.setReserves hI hframe ?_ ?_, rfl, hres, ?_⟩
      · rw [hlist]
        exact hsorted.modify rfl
      · rw [hres, if_pos (show who = who ∧ c = c from ⟨rfl, rfl⟩), hlist, namedTotal_append, namedTotal_cons]
        dsimp only
        omega
      · have hsorted' : Sorted ReserveData.id
            (pre ++ { d with amount := d.amount - min d.amount value } :: post) := hsorted.modify rfl
        refine reservedBalanceNamed_of_mem ?_ hsorted'
        simp only [NamedState.setReserves_reserves, and_self, if_true]
        exact hlist
  · rename_i index hsearch
    have hN : reservedBalanceNamed s id c who = 0 := by
      unfold reservedBalanceNamed
      dsimp only
      rw [hsearch]
    rw [hN]
    refine ⟨h, by simp, fun w d => ?_, by simp⟩
    split_ifs with hwd
    · rw [hwd.1, hwd.2, Nat.zero_min, Nat.sub_zero]
    · rfl

/-- `slash_reserved_named` burns what the entry holds, up to `value`, from the
reserved balance: the entry and the reserved balance fall by the same amount,
and it returns the rest of `value`. -/
theorem NamedInv.slashReservedNamed (hd : HookSound dust) (h : NamedInv s) (id : ReserveIdentifier)
    (c : CurrencyId) (who : AccountId) (value : Nat) :
    NamedInv (slashReservedNamed T dust s id c who value).2 ∧
      (slashReservedNamed T dust s id c who value).1 = value - min (reservedBalanceNamed s id c who) value ∧
      (∀ w d, ((slashReservedNamed T dust s id c who value).2.toState.account w d).reserved =
        if w = who ∧ d = c then (s.toState.account who c).reserved - min (reservedBalanceNamed s id c who) value
        else (s.toState.account w d).reserved) ∧
      reservedBalanceNamed (slashReservedNamed T dust s id c who value).2 id c who =
        reservedBalanceNamed s id c who - min (reservedBalanceNamed s id c who) value := by
  by_cases hv : value = 0
  · subst hv
    have h0 : Tokens.slashReservedNamed T dust s id c who 0 = (0, s) := by simp [Tokens.slashReservedNamed]
    rw [h0]
    refine ⟨h, by simp, fun w d => ?_, by simp⟩
    split_ifs with hwd
    · rw [hwd.1, hwd.2, Nat.min_zero, Nat.sub_zero]
    · rfl
  have hsorted := h.sorted who c
  have htotal := h.total_le who c
  unfold Tokens.slashReservedNamed
  rw [if_neg hv]
  dsimp only
  split
  · rename_i index hsearch
    obtain ⟨pre, d, post, hl, rfl, rfl, hamt, hmod⟩ := modify_of_search_ok hsearch
    rw [hl] at hsorted htotal
    rw [hamt, reservedBalanceNamed_of_mem hl hsorted]
    simp only [namedTotal_append, namedTotal_cons] at htotal
    obtain ⟨hI, hrem, hres⟩ := h.issued.slashReserved hd c who (min d.amount value)
    rcases hu : Tokens.slashReserved T dust c who (min d.amount value) s.toState with ⟨remain, state⟩
    rw [hu] at hI hrem hres
    dsimp only at hI hrem hres ⊢
    have hmin : min (s.toState.account who c).reserved (min d.amount value) = min d.amount value :=
      Nat.min_eq_right ((Nat.min_le_left _ _).trans (by omega))
    rw [hmin] at hrem hres
    have hactual : min d.amount value - remain = min d.amount value := by
      rw [hrem]
      omega
    rw [hactual]
    have hsorted' : Sorted ReserveData.id
        (pre ++ { d with amount := d.amount - min d.amount value } :: post) := hsorted.modify rfl
    refine ⟨h.setReserves hI (fun w d' hwd => by rw [hres, if_neg hwd]) ?_ ?_, rfl, hres, ?_⟩
    · rw [BoundedVec.val_modify, hmod]
      exact hsorted'
    · rw [hres, if_pos (show who = who ∧ c = c from ⟨rfl, rfl⟩), BoundedVec.val_modify, hmod,
        namedTotal_append, namedTotal_cons]
      dsimp only
      omega
    · refine reservedBalanceNamed_of_mem ?_ hsorted'
      simp only [NamedState.setReserves_reserves, and_self, if_true, BoundedVec.val_modify, hmod]
  · rename_i index hsearch
    have hN : reservedBalanceNamed s id c who = 0 := by
      unfold reservedBalanceNamed
      dsimp only
      rw [hsearch]
    rw [hN]
    refine ⟨h, by simp, fun w d => ?_, by simp⟩
    split_ifs with hwd
    · rw [hwd.1, hwd.2, Nat.zero_min, Nat.sub_zero]
    · rfl

/-- `repatriate_reserved_named` between two accounts that succeeded moves what
the slashed account's entry holds, up to `value`: its entry and its reserved
balance fall by that amount, and to a reserve the beneficiary's entry and
reserved balance rise by it. It returns the rest of `value`. -/
theorem NamedInv.repatriateReservedNamed_of_ne (hd : HookSound dust) (h : NamedInv s) {id : ReserveIdentifier}
    {c : CurrencyId} {slashed beneficiary : AccountId} {value r : Nat} {status : BalanceStatus}
    (hne : slashed ≠ beneficiary)
    (hr : repatriateReservedNamed T dust s id c slashed beneficiary value status = (.ok r, s')) :
    NamedInv s' ∧ r = value - min (reservedBalanceNamed s id c slashed) value ∧
      (∀ w d, (s'.toState.account w d).reserved =
        if w = slashed ∧ d = c then
          (s.toState.account slashed c).reserved - min (reservedBalanceNamed s id c slashed) value
        else if w = beneficiary ∧ d = c ∧ status = .reserved then
          (s.toState.account beneficiary c).reserved + min (reservedBalanceNamed s id c slashed) value
        else (s.toState.account w d).reserved) ∧
      reservedBalanceNamed s' id c slashed =
        reservedBalanceNamed s id c slashed - min (reservedBalanceNamed s id c slashed) value ∧
      (status = .reserved → reservedBalanceNamed s' id c beneficiary =
        reservedBalanceNamed s id c beneficiary + min (reservedBalanceNamed s id c slashed) value) := by
  by_cases hv : value = 0
  · subst hv
    simp only [Tokens.repatriateReservedNamed, if_true, Prod.mk.injEq, Except.ok.injEq] at hr
    obtain ⟨rfl, rfl⟩ := hr
    refine ⟨h, by simp, fun w d => ?_, by simp, fun _ => by simp⟩
    split_ifs with h₁ h₂
    · rw [h₁.1, h₁.2, Nat.min_zero, Nat.sub_zero]
    · rw [h₂.1, h₂.2.1, Nat.min_zero, Nat.add_zero]
    · rfl
  have hsorted := h.sorted slashed c
  have htotal := h.total_le slashed c
  unfold Tokens.repatriateReservedNamed at hr
  rw [if_neg hv, if_neg hne] at hr
  dsimp only at hr
  split at hr
  · rename_i index hsearch
    obtain ⟨pre, d, post, hl, rfl, rfl, hamt, hmod⟩ := modify_of_search_ok hsearch
    rw [hl] at hsorted htotal
    rw [reservedBalanceNamed_of_mem hl hsorted]
    rw [hamt] at hr
    simp only [namedTotal_append, namedTotal_cons] at htotal
    obtain ⟨hI, hrem, hres⟩ := h.issued.repatriateReserved hd c hne (min d.amount value) status
    rcases hu : Tokens.repatriateReserved T dust c slashed beneficiary (min d.amount value) status s.toState with
      ⟨remain, state⟩
    rw [hu] at hI hrem hres hr
    dsimp only at hI hrem hres hr
    have hmin : min (s.toState.account slashed c).reserved (min d.amount value) = min d.amount value :=
      Nat.min_eq_right ((Nat.min_le_left _ _).trans (by omega))
    rw [hmin] at hrem hres
    have hactual : min d.amount value - remain = min d.amount value := by
      rw [hrem]
      omega
    rw [hactual] at hr
    have hsorted' : Sorted ReserveData.id
        (pre ++ { d with amount := d.amount - min d.amount value } :: post) := hsorted.modify rfl
    have hslashed : ∀ {s'' : NamedState AccountId CurrencyId LockId ReserveIdentifier maxReserves},
        (s''.reserves slashed c).1 = pre ++ { d with amount := d.amount - min d.amount value } :: post →
        reservedBalanceNamed s'' d.id c slashed = d.amount - min d.amount value :=
      fun hl' => reservedBalanceNamed_of_mem hl' hsorted'
    have hslashedTotal : namedTotal (pre ++ { d with amount := d.amount - min d.amount value } :: post) ≤
        (state.account slashed c).reserved := by
      rw [hres, if_pos ⟨rfl, rfl⟩, namedTotal_append, namedTotal_cons]
      dsimp only
      omega
    cases status with
    | free =>
        rw [if_neg (by decide)] at hr
        simp only [pure, Except.pure, Prod.mk.injEq, Except.ok.injEq] at hr
        obtain ⟨rfl, rfl⟩ := hr
        refine ⟨h.setReserves hI (fun w d' hwd => by simp [hres, hwd]) ?_ ?_, rfl, hres,
          hslashed ?_, fun hs => absurd hs (by decide)⟩
        · rw [BoundedVec.val_modify, hmod]
          exact hsorted'
        · rw [BoundedVec.val_modify, hmod]
          exact hslashedTotal
        · simp only [NamedState.setReserves_reserves, and_self, if_true, BoundedVec.val_modify, hmod]
    | reserved =>
        rw [if_pos rfl] at hr
        have hbsorted := h.sorted beneficiary c
        have hbtotal := h.total_le beneficiary c
        have hlt := h.issued.holding_add_lt c hne
        unfold holding at hlt
        have hbres : (state.account beneficiary c).reserved =
            (s.toState.account beneficiary c).reserved + min d.amount value := by
          rw [hres, if_neg fun h => hne h.1.symm, if_pos ⟨rfl, rfl, rfl⟩]
        have hframe : ∀ w d', ¬(w = slashed ∧ d' = c) → ¬(w = beneficiary ∧ d' = c) →
            (state.account w d').reserved = (s.toState.account w d').reserved := fun w d' h₁ h₂ => by
          rw [hres, if_neg h₁, if_neg fun h => h₂ ⟨h.1, h.2.1⟩]
        cases hbsearch : binarySearchByKey d.id ReserveData.id (s.reserves beneficiary c).1 with
        | ok toIndex =>
          rw [hbsearch] at hr
          obtain ⟨pre', b, post', hbl, rfl, hbid, hbamt, hbmod⟩ := modify_of_search_ok hbsearch
          rw [hbl] at hbsorted hbtotal
          simp only [namedTotal_append, namedTotal_cons] at hbtotal
          simp only [pure, Except.pure, Prod.mk.injEq, Except.ok.injEq] at hr
          obtain ⟨rfl, rfl⟩ := hr
          have hsat : Balance.saturatingAdd b.amount (min d.amount value) = b.amount + min d.amount value :=
            Balance.saturatingAdd_eq (by omega)
          have hbsorted' : Sorted ReserveData.id
              (pre' ++ { b with amount := b.amount + min d.amount value } :: post') := hbsorted.modify rfl
          refine ⟨h.setReserves₂ hI hframe ?_ ?_ ?_ ?_, rfl, hres, hslashed ?_, fun _ => ?_⟩
          · rw [BoundedVec.val_modify, hmod]
            exact hsorted'
          · rw [BoundedVec.val_modify, hmod]
            exact hslashedTotal
          · rw [BoundedVec.val_modify, hbmod, hsat]
            exact hbsorted'
          · rw [BoundedVec.val_modify, hbmod, hsat, hbres, namedTotal_append, namedTotal_cons]
            dsimp only
            omega
          · simp only [NamedState.setReserves_reserves, and_self, if_true, BoundedVec.val_modify, hmod]
          · rw [← hbid, reservedBalanceNamed_of_mem hbl hbsorted]
            refine (reservedBalanceNamed_of_mem (d := { b with amount := b.amount + min d.amount value })
              ?_ hbsorted')
            dsimp only
            rw [NamedState.setReserves_reserves_of_ne _ _ _ _ (Ne.symm hne)]
            simp only [NamedState.setReserves_reserves, and_self, if_true, BoundedVec.val_modify, hbmod, hsat]
        | error toIndex =>
          rw [hbsearch] at hr
          obtain ⟨pre', post', hbl, rfl, hbpre, hbpost⟩ := binarySearchByKey_eq_error hbsearch
          cases hins : (s.reserves beneficiary c).tryInsert pre'.length ⟨d.id, min d.amount value⟩ with
          | none =>
              simp only [hins, okOr, throw, throwThe, MonadExceptOf.throw, bind, Except.bind, Prod.mk.injEq,
                reduceCtorEq, false_and] at hr
          | some v =>
              simp only [hins, okOr, bind, Except.bind, pure, Except.pure, Prod.mk.injEq, Except.ok.injEq] at hr
              obtain ⟨rfl, rfl⟩ := hr
              obtain ⟨-, hv⟩ := BoundedVec.tryInsert_eq_some.1 hins
              rw [hbl, insertIdx_append_length] at hv
              rw [hbl] at hbsorted hbtotal
              have hbsorted' : Sorted ReserveData.id (pre' ++ ⟨d.id, min d.amount value⟩ :: post') :=
                hbsorted.insert hbpre hbpost
              refine ⟨h.setReserves₂ hI hframe ?_ ?_ ?_ ?_, rfl, hres, hslashed ?_, fun _ => ?_⟩
              · rw [BoundedVec.val_modify, hmod]
                exact hsorted'
              · rw [BoundedVec.val_modify, hmod]
                exact hslashedTotal
              · rw [hv]
                exact hbsorted'
              · rw [hv, hbres, namedTotal_append, namedTotal_cons]
                simp only [namedTotal_append] at hbtotal
                dsimp only
                omega
              · simp only [NamedState.setReserves_reserves, and_self, if_true, BoundedVec.val_modify, hmod]
              · rw [reservedBalanceNamed_of_forall_ne (s := s) fun x hx => ?_, Nat.zero_add]
                · refine reservedBalanceNamed_of_mem (d := ⟨d.id, min d.amount value⟩) ?_ hbsorted'
                  dsimp only
                  rw [NamedState.setReserves_reserves_of_ne _ _ _ _ (Ne.symm hne)]
                  simp only [NamedState.setReserves_reserves, and_self, if_true, hv]
                · rw [hbl] at hx
                  exact hbsorted'.ne_of_mem hx
  · rename_i index hsearch
    simp only [Prod.mk.injEq, Except.ok.injEq] at hr
    obtain ⟨rfl, rfl⟩ := hr
    have hN : reservedBalanceNamed s id c slashed = 0 := by
      unfold reservedBalanceNamed
      dsimp only
      rw [hsearch]
    rw [hN]
    refine ⟨h, by simp, fun w d => ?_, by simp, fun _ => by simp⟩
    split_ifs with h₁ h₂
    · rw [h₁.1, h₁.2, Nat.zero_min, Nat.sub_zero]
    · rw [h₂.1, h₂.2.1, Nat.zero_min, Nat.add_zero]
    · rfl

/-- A repatriation to a reserve whose beneficiary's list is full and has no
entry under `id` fails with `TooManyReserves` after `repatriate_reserved`
moved the balance: the storage it leaves has the accounts written and both
lists as they were. The dispatch it runs in rolls this storage back. -/
theorem repatriateReservedNamed_tooManyReserves {id : ReserveIdentifier}
    {c : CurrencyId} {slashed beneficiary : AccountId} {value index toIndex : Nat} (hv : value ≠ 0)
    (hne : slashed ≠ beneficiary) (hs : binarySearchByKey id ReserveData.id (s.reserves slashed c).1 = .ok index)
    (hb : binarySearchByKey id ReserveData.id (s.reserves beneficiary c).1 = .error toIndex)
    (hfull : maxReserves ≤ (s.reserves beneficiary c).1.length) :
    Tokens.repatriateReservedNamed T dust s id c slashed beneficiary value .reserved =
      (.error (.module .tooManyReserves), { s with toState := (repatriateReserved T dust c slashed beneficiary
        (min (amountAt (s.reserves slashed c).1 index) value) .reserved s.toState).2 }) := by
  have hnone : ∀ i a, (s.reserves beneficiary c).tryInsert i a = none := fun _ _ =>
    BoundedVec.tryInsert_eq_none.2 hfull
  unfold Tokens.repatriateReservedNamed
  rw [if_neg hv, if_neg hne]
  simp only [hs, hb, if_true, hnone, okOr, throw, throwThe, MonadExceptOf.throw, bind, Except.bind]

/-- `repatriate_reserved_named` from an account to itself: to the free balance
it is `unreserve_named`; to the reserve nothing is written, and it returns
`value` less the entry. -/
theorem NamedInv.repatriateReservedNamed_self (hd : HookSound dust) (h : NamedInv s) {id : ReserveIdentifier}
    {c : CurrencyId} {who : AccountId} {value r : Nat} {status : BalanceStatus}
    (hr : repatriateReservedNamed T dust s id c who who value status = (.ok r, s')) :
    NamedInv s' ∧ r = value - min (reservedBalanceNamed s id c who) value ∧
      (status = .free → (r, s') = Tokens.unreserveNamed T dust s id c who value) ∧ (status = .reserved → s' = s) := by
  unfold Tokens.repatriateReservedNamed at hr
  by_cases hv : value = 0
  · subst hv
    rw [if_pos rfl] at hr
    simp only [Prod.mk.injEq, Except.ok.injEq] at hr
    obtain ⟨rfl, rfl⟩ := hr
    exact ⟨h, by simp, fun _ => by simp [Tokens.unreserveNamed], fun _ => rfl⟩
  rw [if_neg hv, if_pos rfl] at hr
  cases status with
  | free =>
      obtain ⟨hinv, hrem, -, -⟩ := h.unreserveNamed hd id c who value
      rcases hu : Tokens.unreserveNamed T dust s id c who value with ⟨remain, s''⟩
      rw [hu] at hr hinv hrem
      simp only [Prod.mk.injEq, Except.ok.injEq] at hr
      obtain ⟨rfl, rfl⟩ := hr
      exact ⟨hinv, hrem, fun _ => rfl, fun hs => absurd hs (by decide)⟩
  | reserved =>
      simp only [Prod.mk.injEq, Except.ok.injEq] at hr
      obtain ⟨rfl, rfl⟩ := hr
      exact ⟨h, by omega, fun hs => absurd hs (by decide), fun _ => rfl⟩

omit [DecidableEq AccountId] [DecidableEq CurrencyId] in
theorem NamedInv.reservedBalanceNamed_eq (h : NamedInv s) {who : AccountId} {c : CurrencyId}
    {d : ReserveData ReserveIdentifier} (hd : d ∈ (s.reserves who c).1) :
    reservedBalanceNamed s d.id c who = d.amount := by
  obtain ⟨pre, post, hl⟩ := List.append_of_mem hd
  exact reservedBalanceNamed_of_mem hl (hl ▸ h.sorted who c)

/-- `repatriate_reserved_named` that succeeded returns `value` less what it
moved: the slashed entry and reserved balance fall by that amount, unless the
call repatriates a reserve onto itself and writes nothing, and a beneficiary's
reserve rises by it. -/
theorem NamedInv.repatriateReservedNamed (hd : HookSound dust) (h : NamedInv s) {id : ReserveIdentifier}
    {c : CurrencyId} {slashed beneficiary : AccountId} {value r : Nat} {status : BalanceStatus}
    (hr : Tokens.repatriateReservedNamed T dust s id c slashed beneficiary value status = (.ok r, s')) :
    r = value - min (reservedBalanceNamed s id c slashed) value ∧
      (slashed ≠ beneficiary ∨ status = .free →
        (s'.toState.account slashed c).reserved =
          (s.toState.account slashed c).reserved - min (reservedBalanceNamed s id c slashed) value ∧
        reservedBalanceNamed s' id c slashed =
          reservedBalanceNamed s id c slashed - min (reservedBalanceNamed s id c slashed) value) ∧
      (slashed ≠ beneficiary → status = .reserved →
        (s'.toState.account beneficiary c).reserved =
          (s.toState.account beneficiary c).reserved + min (reservedBalanceNamed s id c slashed) value ∧
        reservedBalanceNamed s' id c beneficiary =
          reservedBalanceNamed s id c beneficiary + min (reservedBalanceNamed s id c slashed) value) ∧
      (slashed = beneficiary → status = .reserved → s' = s) := by
  by_cases hne : slashed = beneficiary
  · subst hne
    obtain ⟨-, hrem, hfree, hsame⟩ := h.repatriateReservedNamed_self hd hr
    refine ⟨hrem, fun hs => ?_, fun hne => absurd rfl hne, fun _ => hsame⟩
    have hstatus : status = .free := hs.resolve_left (not_not_intro rfl)
    obtain ⟨-, -, hacc, hnamed⟩ := h.unreserveNamed hd id c slashed value
    rw [← hfree hstatus] at hacc hnamed
    exact ⟨by rw [hacc, if_pos ⟨rfl, rfl⟩], hnamed⟩
  · obtain ⟨-, hrem, hacc, hslashed, hben⟩ := h.repatriateReservedNamed_of_ne hd hne hr
    refine ⟨hrem, fun _ => ⟨by rw [hacc, if_pos ⟨rfl, rfl⟩], hslashed⟩, fun _ hs => ⟨?_, hben hs⟩,
      fun h => absurd h hne⟩
    rw [hacc, if_neg fun h => hne h.1.symm, if_pos ⟨rfl, rfl, hs⟩]

omit [DecidableEq AccountId] [DecidableEq CurrencyId] in
theorem NamedInv.of_keeps (h : NamedInv s) {state : State AccountId CurrencyId LockId} {owner : AccountId}
    (hk : Keeps s.toState state owner) : NamedInv { s with toState := state } :=
  h.onAccounts (h.issued.of_keeps hk) hk.reserved

end Invariant

/-! ## The pallet with named reserves -/

variable [DecidableEq LockId]

/-- The calls of a run: the named operations, with transfers, deposits and
withdrawals between them. -/
inductive NamedCall (AccountId CurrencyId ReserveIdentifier : Type) where
  | transfer (src dst : AccountId) (c : CurrencyId) (amount : Nat)
  | transferKeepAlive (src dst : AccountId) (c : CurrencyId) (amount : Nat)
  | forceTransfer (src dst : AccountId) (c : CurrencyId) (amount : Nat)
  | deposit (c : CurrencyId) (who : AccountId) (amount : Nat)
  | withdraw (c : CurrencyId) (who : AccountId) (amount : Nat) (existenceRequirement : ExistenceRequirement)
  | reserveNamed (id : ReserveIdentifier) (c : CurrencyId) (who : AccountId) (value : Nat)
  | unreserveNamed (id : ReserveIdentifier) (c : CurrencyId) (who : AccountId) (value : Nat)
  | slashReservedNamed (id : ReserveIdentifier) (c : CurrencyId) (who : AccountId) (value : Nat)
  | repatriateReservedNamed (id : ReserveIdentifier) (c : CurrencyId) (slashed beneficiary : AccountId)
    (value : Nat) (status : BalanceStatus)

/-- A call of the tokens pallet, on the storage beside `Reserves`. -/
def onAccounts (s : NamedState AccountId CurrencyId LockId ReserveIdentifier maxReserves)
    (call : Call AccountId CurrencyId LockId) :
    Except DispatchError (NamedState AccountId CurrencyId LockId ReserveIdentifier maxReserves) :=
  (fun state => { s with toState := state }) <$> dispatch T dust s.toState call

/-- One call, run over the hook `dust`; a failing call is rolled back. -/
def dispatchNamed (s : NamedState AccountId CurrencyId LockId ReserveIdentifier maxReserves) :
    NamedCall AccountId CurrencyId ReserveIdentifier →
      Except DispatchError (NamedState AccountId CurrencyId LockId ReserveIdentifier maxReserves)
  | .transfer src dst c amount => onAccounts T dust s (.transfer src dst c amount)
  | .transferKeepAlive src dst c amount => onAccounts T dust s (.transferKeepAlive src dst c amount)
  | .forceTransfer src dst c amount => onAccounts T dust s (.forceTransfer src dst c amount)
  | .deposit c who amount => onAccounts T dust s (.deposit c who amount)
  | .withdraw c who amount existenceRequirement =>
      onAccounts T dust s (.withdraw c who amount existenceRequirement)
  | .reserveNamed id c who value => reserveNamed T dust s id c who value
  | .unreserveNamed id c who value => pure (unreserveNamed T dust s id c who value).2
  | .slashReservedNamed id c who value => pure (slashReservedNamed T dust s id c who value).2
  | .repatriateReservedNamed id c slashed beneficiary value status =>
      match repatriateReservedNamed T dust s id c slashed beneficiary value status with
      | (.ok _, s) => pure s
      | (.error e, _) => .error e

/-- The pallet from a genesis build, with no named reserve, every call over
the runtime's hook. -/
def namedSystem : System (NamedState AccountId CurrencyId LockId ReserveIdentifier maxReserves)
    (NamedCall AccountId CurrencyId ReserveIdentifier) where
  init s := (∃ g : GenesisConfig AccountId CurrencyId, g.build T (onDust T 1) State.empty = some s.toState) ∧
    ∀ who c, s.reserves who c = BoundedVec.empty
  step s call := (dispatchNamed T (onDust T 1) s call).toOption

omit [LinearOrder ReserveIdentifier] in
theorem onAccounts_eq_ok {s s' : NamedState AccountId CurrencyId LockId ReserveIdentifier maxReserves}
    {call : Call AccountId CurrencyId LockId} :
    onAccounts T dust s call = .ok s' ↔ ∃ state, dispatch T dust s.toState call = .ok state ∧
      s' = { s with toState := state } := by
  unfold onAccounts
  cases dispatch T dust s.toState call <;> simp [Functor.map, Except.map, eq_comm]

section Run

variable {T dust}
variable {s s' : NamedState AccountId CurrencyId LockId ReserveIdentifier maxReserves}

/-- Every call keeps the invariant: a transfer, deposit or withdrawal keeps
every reserved balance and list, and each named operation keeps it as its own
lemma says. -/
theorem NamedInv.dispatchNamed (hd : HookSound dust) (h : NamedInv s)
    {call : NamedCall AccountId CurrencyId ReserveIdentifier} (hr : dispatchNamed T dust s call = .ok s') :
    NamedInv s' := by
  cases call with
  | transfer src dst c amount =>
      obtain ⟨state, hstate, rfl⟩ := (onAccounts_eq_ok T dust).1 hr
      exact h.of_keeps (keeps_doTransfer hd hstate)
  | transferKeepAlive src dst c amount =>
      obtain ⟨state, hstate, rfl⟩ := (onAccounts_eq_ok T dust).1 hr
      exact h.of_keeps (keeps_doTransfer hd hstate)
  | forceTransfer src dst c amount =>
      obtain ⟨state, hstate, rfl⟩ := (onAccounts_eq_ok T dust).1 hr
      exact h.of_keeps (keeps_doTransfer hd hstate)
  | deposit c who amount =>
      obtain ⟨state, hstate, rfl⟩ := (onAccounts_eq_ok T dust).1 hr
      obtain ⟨⟨r, state'⟩, hdep, hpure⟩ := bind_eq_ok.1 hstate
      rw [pure_eq_ok] at hpure
      subst hpure
      obtain ⟨hI, hres⟩ := h.issued.doDeposit hd hdep
      exact h.onAccounts hI hres
  | withdraw c who amount existenceRequirement =>
      obtain ⟨state, hstate, rfl⟩ := (onAccounts_eq_ok T dust).1 hr
      exact h.of_keeps (keeps_doWithdraw hd hstate)
  | reserveNamed id c who value => exact h.reserveNamed hd hr
  | unreserveNamed id c who value =>
      rw [Tokens.dispatchNamed, pure_eq_ok] at hr
      exact hr ▸ (h.unreserveNamed hd id c who value).1
  | slashReservedNamed id c who value =>
      rw [Tokens.dispatchNamed, pure_eq_ok] at hr
      exact hr ▸ (h.slashReservedNamed hd id c who value).1
  | repatriateReservedNamed id c slashed beneficiary value status =>
      rw [Tokens.dispatchNamed] at hr
      split at hr
      · rename_i r s'' hrep
        rw [pure_eq_ok] at hr
        subst hr
        by_cases hne : slashed = beneficiary
        · subst hne
          exact (h.repatriateReservedNamed_self hd hrep).1
        · exact (h.repatriateReservedNamed_of_ne hd hne hrep).1
      · cases hr

theorem NamedInv.init (hs : (namedSystem T : System (NamedState AccountId CurrencyId LockId ReserveIdentifier
    maxReserves) _).init s) : NamedInv s := by
  obtain ⟨⟨g, hg⟩, hempty⟩ := hs
  refine ⟨Issued.build (hookSound_onDust T 1) hg, fun who c => ?_, fun who c => ?_⟩
  · rw [hempty, BoundedVec.val_empty]
    exact List.Pairwise.nil
  · rw [hempty, BoundedVec.val_empty]
    exact Nat.zero_le _

theorem namedInv_reachable :
    Invariant (namedSystem T : System (NamedState AccountId CurrencyId LockId ReserveIdentifier maxReserves) _)
      NamedInv :=
  invariant_of_inductive _ (fun _ hs => NamedInv.init hs) fun _ _ _ h hstep =>
    h.dispatchNamed (hookSound_onDust T 1) (toOption_eq_some.1 hstep)

/-- Named reserves stay sorted maps bounded by the reserve: in every state a
run reaches, each list is strictly increasing by identifier, the search finds
each of its entries, and its amounts add up to at most the reserved balance;
`unreserve_named`, `slash_reserved_named` and `repatriate_reserved_named` each
return `value` less what they move. -/
theorem named_reserves_sorted_and_bounded (hs : Reachable (namedSystem T) s) :
    (∀ who c, Sorted ReserveData.id (s.reserves who c).1 ∧
      (∀ d ∈ (s.reserves who c).1, reservedBalanceNamed s d.id c who = d.amount) ∧
      namedTotal (s.reserves who c).1 ≤ (s.toState.account who c).reserved) ∧
    (∀ id c who value,
      (unreserveNamed T (onDust T 1) s id c who value).1 = value - min (reservedBalanceNamed s id c who) value ∧
      ((unreserveNamed T (onDust T 1) s id c who value).2.toState.account who c).reserved =
        (s.toState.account who c).reserved - min (reservedBalanceNamed s id c who) value ∧
      reservedBalanceNamed (unreserveNamed T (onDust T 1) s id c who value).2 id c who =
        reservedBalanceNamed s id c who - min (reservedBalanceNamed s id c who) value) ∧
    (∀ id c who value,
      (slashReservedNamed T (onDust T 1) s id c who value).1 = value - min (reservedBalanceNamed s id c who) value ∧
      ((slashReservedNamed T (onDust T 1) s id c who value).2.toState.account who c).reserved =
        (s.toState.account who c).reserved - min (reservedBalanceNamed s id c who) value ∧
      reservedBalanceNamed (slashReservedNamed T (onDust T 1) s id c who value).2 id c who =
        reservedBalanceNamed s id c who - min (reservedBalanceNamed s id c who) value) ∧
    (∀ id c slashed beneficiary value status r s',
      repatriateReservedNamed T (onDust T 1) s id c slashed beneficiary value status = (.ok r, s') →
      r = value - min (reservedBalanceNamed s id c slashed) value ∧
        (slashed ≠ beneficiary ∨ status = .free →
          (s'.toState.account slashed c).reserved =
            (s.toState.account slashed c).reserved - min (reservedBalanceNamed s id c slashed) value ∧
          reservedBalanceNamed s' id c slashed =
            reservedBalanceNamed s id c slashed - min (reservedBalanceNamed s id c slashed) value) ∧
        (slashed ≠ beneficiary → status = .reserved →
          (s'.toState.account beneficiary c).reserved =
            (s.toState.account beneficiary c).reserved + min (reservedBalanceNamed s id c slashed) value ∧
          reservedBalanceNamed s' id c beneficiary =
            reservedBalanceNamed s id c beneficiary + min (reservedBalanceNamed s id c slashed) value) ∧
        (slashed = beneficiary → status = .reserved → s' = s)) := by
  have h : NamedInv s := namedInv_reachable s hs
  have hd : HookSound (onDust T 1 : DustHook AccountId CurrencyId LockId) := hookSound_onDust T 1
  refine ⟨fun who c => ⟨h.sorted who c, fun d hmem => h.reservedBalanceNamed_eq hmem, h.total_le who c⟩,
    fun id c who value => ?_, fun id c who value => ?_,
    fun id c slashed beneficiary value status r s' hr => h.repatriateReservedNamed hd hr⟩
  · obtain ⟨-, hrem, hacc, hnamed⟩ := h.unreserveNamed hd id c who value
    exact ⟨hrem, by rw [hacc, if_pos ⟨rfl, rfl⟩], hnamed⟩
  · obtain ⟨-, hrem, hacc, hnamed⟩ := h.slashReservedNamed hd id c who value
    exact ⟨hrem, by rw [hacc, if_pos ⟨rfl, rfl⟩], hnamed⟩

end Run

end Setheum.Tokens

namespace Setheum.Tokens.Reference

open Transition

/-- The genesis of `testConfig` with no named reserve, up to four a list. -/
def namedGenesis : NamedState Account CurrencyId Nat Nat 4 :=
  { toState := genesisState, reserves := fun _ _ => BoundedVec.empty }

theorem namedGenesis_init : (namedSystem testConfig).init namedGenesis :=
  ⟨genesisState_init, fun _ _ => rfl⟩

/-- Alice reserves 30 SEU under identifier 1, then 20 under identifier 0. -/
def reservedTwice : NamedState Account CurrencyId Nat Nat 4 :=
  (namedSystem testConfig).run namedGenesis
    [.reserveNamed 1 (.token .SEU) .alice 30, .reserveNamed 0 (.token .SEU) .alice 20]

theorem reservedTwice_entries_found :
    Reachable (namedSystem testConfig) reservedTwice ∧
      ∀ d ∈ (reservedTwice.reserves .alice (.token .SEU)).1,
        reservedBalanceNamed reservedTwice d.id (.token .SEU) .alice = d.amount :=
  have hreach : Reachable (namedSystem testConfig) reservedTwice := (Reachable.init namedGenesis_init).run _
  ⟨hreach, ((named_reserves_sorted_and_bounded hreach).1 .alice (.token .SEU)).2.1⟩

/-- The second entry goes in front of the first, where the search put it. -/
example : (reservedTwice.reserves .alice (.token .SEU)).1 = [⟨0, 20⟩, ⟨1, 30⟩] := by rfl

end Setheum.Tokens.Reference
