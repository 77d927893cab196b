import Setheum.Bridge.Reference

/-!
# Outbound deposits

A `deposit` withdraws the whole asset from the sender, credits the fee to the
fee reserve account and, for an asset reserved here, the rest to the asset's
reserve account; it reports the deposit under the domain's count and raises
that count by one. Over any run the nonces reported for a domain are
`0, 1, 2, …` up to its count. The amounts moved are exact for an asset
transactor that moves what it is asked to (`Config.Lawful`).

The deposit data carries the amount and the recipient's length as 32-byte
big-endian words, then the recipient: `extract_deposit_data` reads back what
`create_deposit_data` wrote, and rejects data whose length word is not the
length of what follows.
-/

namespace Setheum.Bridge

open Result Transition Encoding

variable {AccountId AssetId Location L : Type}

/-! ## The deposit data -/

section Codec

variable (T : Config AccountId AssetId Location L)

theorem beValue_beBytes_of_lt {k n : Nat} (h : n < 256 ^ k) : beValue (beBytes k n) = n := by
  rw [beValue_beBytes, Nat.mod_eq_of_lt h]

theorem extractDepositData_createDepositData {amount : Nat} {recipient : List UInt8} {location : Location}
    (hamount : amount < 2 ^ 128) (hlen : recipient.length < 2 ^ 64)
    (hdecode : T.decodeLocation recipient = some location) :
    extractDepositData T (createDepositData amount recipient) = .ok (amount, location) := by
  have hwords : (2 : Nat) ^ 128 ≤ 256 ^ 32 := by
    rw [show (256 : Nat) = 2 ^ 8 by rfl, ← Nat.pow_mul]
    exact Nat.pow_le_pow_right Nat.two_pos (by omega)
  have hfirst : (createDepositData amount recipient).take 32 = beBytes 32 amount := by
    simp [createDepositData]
  have hsecond : ((createDepositData amount recipient).drop 32).take 32 = beBytes 32 recipient.length := by
    simp [createDepositData]
  have hrest : (createDepositData amount recipient).drop 64 = recipient := by
    simp [createDepositData, List.drop_append]
  have hlength : (createDepositData amount recipient).length = 64 + recipient.length := by
    simp [createDepositData]
    omega
  have hamount' : beValue (beBytes 32 amount) = amount := beValue_beBytes_of_lt (by omega)
  have hlen' : beValue (beBytes 32 recipient.length) = recipient.length := beValue_beBytes_of_lt (by omega)
  simp [-Nat.reducePow, extractDepositData, ensure, hfirst, hsecond, hrest, hlength, hamount', hlen', hamount,
    hlen, hdecode, okOr]

theorem extractDepositData_of_length_ne {data : List UInt8}
    (hlen : beValue ((data.drop 32).take 32) ≠ data.length - 64) :
    extractDepositData T data = .error .invalidDepositData := by
  unfold extractDepositData
  by_cases h64 : 64 ≤ data.length
  · by_cases hamount : beValue (data.take 32) < 2 ^ 128
    · by_cases hword : beValue ((data.drop 32).take 32) < 2 ^ 64
      · simp [-Nat.reducePow, ensure, h64, hamount, hword, Ne.symm hlen, throw_bind]
      · simp [-Nat.reducePow, ensure, h64, hamount, hword, throw_bind]
    · simp [-Nat.reducePow, ensure, h64, hamount, throw_bind]
  · simp [ensure, h64, throw_bind]

end Codec

/-! ## A deposit -/

section Deposit

variable (T : Config AccountId AssetId Location L)

theorem ensureSigned_eq_ok {origin : Origin AccountId} {who : AccountId} :
    ensureSigned origin = .ok who ↔ origin = .signed who := by
  cases origin <;> simp [ensureSigned, throw_ne_ok]

/-- What a successful deposit checked and did: the sender, the domain and the
recipient, the asset's amount and fee, the transactor's three calls, and the
storage it leaves. -/
theorem deposit_eq_ok [DecidableEq AssetId] {origin : Origin AccountId} {asset : Asset AssetId} {dest : Location}
    {s s' : State AccountId AssetId L} (h : deposit T origin asset dest s = .ok s') :
    ∃ sender recipient d resourceId amount fee l₁ l₂ reserve l₃ converted,
      origin = .signed sender ∧ isClear s.mpcAddr = false ∧ T.extractDest dest = some (recipient, d) ∧
      s.paused d = false ∧ s.destDomainIds d = true ∧ extractAsset T asset = some (resourceId, amount) ∧
      T.getFee d asset = some fee ∧ fee < amount ∧
      T.withdrawAsset s.ledger asset (T.accountLocation sender) = some l₁ ∧
      T.depositAsset l₁ ⟨asset.id, .fungible fee⟩ (T.accountLocation T.feeReserveAccount) = some l₂ ∧
      T.transferReserveAccounts asset.id = some reserve ∧
      (if T.isReserve asset then T.depositAsset l₂ ⟨asset.id, .fungible (amount - fee)⟩ (T.accountLocation reserve)
        else some l₂) = some l₃ ∧
      s.depositCounts d + 1 < 2 ^ 64 ∧ T.convertTo ⟨asset.id, .fungible (amount - fee)⟩ = some converted ∧
      s' = { s with
        ledger := l₃
        depositCounts := Function.update s.depositCounts d (s.depositCounts d + 1)
        events := s.events ++
          [.deposit d resourceId (s.depositCounts d) sender (createDepositData converted recipient),
            .feeCollected sender d resourceId fee asset.id] } := by
  simp only [deposit, bind_eq_ok, ensure_eq_ok, okOr_eq_ok, ensureSigned_eq_ok] at h
  obtain ⟨sender, hsigned, _, hmpc, ⟨recipient, d⟩, hdest, _, hpaused, _, hdomain, ⟨resourceId, amount⟩, hasset,
    fee, hfee, _, hlt, l₁, hwithdraw, l₂, hfeeDeposit, reserve, hreserve, h⟩ := h
  simp only [Bool.not_eq_eq_eq_not, Bool.not_true, decide_eq_true_eq] at hmpc hpaused hlt
  split at h
  · rename_i hisReserve
    simp only [bind_eq_ok, okOr_eq_ok, ensure_eq_ok, pure_eq_ok, decide_eq_true_eq] at h
    obtain ⟨l₃, hreserveDeposit, _, hnonce, converted, hconvert, rfl⟩ := h
    exact ⟨sender, recipient, d, resourceId, amount, fee, l₁, l₂, reserve, l₃, converted, hsigned, hmpc, hdest,
      hpaused, hdomain, hasset, hfee, hlt, hwithdraw, hfeeDeposit, hreserve, by rw [if_pos hisReserve, hreserveDeposit],
      hnonce, hconvert, rfl⟩
  · rename_i hisReserve
    simp only [bind_eq_ok, okOr_eq_ok, ensure_eq_ok, pure_eq_ok, pure_bind, decide_eq_true_eq] at h
    obtain ⟨_, hnonce, converted, hconvert, rfl⟩ := h
    exact ⟨sender, recipient, d, resourceId, amount, fee, l₁, l₂, reserve, l₂, converted, hsigned, hmpc, hdest,
      hpaused, hdomain, hasset, hfee, hlt, hwithdraw, hfeeDeposit, hreserve, by rw [if_neg hisReserve], hnonce,
      hconvert, rfl⟩

theorem extractAsset_fungibility [DecidableEq AssetId] {asset : Asset AssetId} {resourceId : FixedBytes 32} {amount : Nat}
    (h : extractAsset T asset = some (resourceId, amount)) : asset.fungibility = .fungible amount := by
  unfold extractAsset at h
  split at h
  · rename_i amount' hfungible
    obtain ⟨_, -, hpair⟩ := Option.map_eq_some_iff.mp h
    cases hpair
    exact hfungible
  · cases h

/-! ### The amounts moved -/

/-- An asset transactor that moves what it is asked to: withdrawing a
fungible amount of an asset from a location lowers that balance by the
amount, depositing raises it, and no other balance changes. -/
structure Config.Lawful [DecidableEq AssetId] [DecidableEq Location] (T : Config AccountId AssetId Location L)
    (balance : L → AssetId → Location → Nat) : Prop where
  withdraw : ∀ {l l' : L} {asset : Asset AssetId} {loc : Location} {amount : Nat},
    asset.fungibility = .fungible amount → T.withdrawAsset l asset loc = some l' →
      ∀ id x, balance l' id x + (if id = asset.id ∧ x = loc then amount else 0) = balance l id x
  deposit : ∀ {l l' : L} {asset : Asset AssetId} {loc : Location} {amount : Nat},
    asset.fungibility = .fungible amount → T.depositAsset l asset loc = some l' →
      ∀ id x, balance l' id x = balance l id x + (if id = asset.id ∧ x = loc then amount else 0)

/-- The balances a successful deposit leaves: the sender gave the amount, the
fee reserve got the fee and, for an asset reserved here, the reserve account
got the rest. -/
theorem deposit_balance [DecidableEq AssetId] [DecidableEq Location] {balance : L → AssetId → Location → Nat}
    (hlaw : T.Lawful balance) {origin : Origin AccountId} {asset : Asset AssetId} {dest : Location}
    {s s' : State AccountId AssetId L} (h : deposit T origin asset dest s = .ok s') :
    ∃ sender recipient d amount fee reserve resourceId data,
      origin = .signed sender ∧ T.extractDest dest = some (recipient, d) ∧ asset.fungibility = .fungible amount ∧
      T.getFee d asset = some fee ∧ fee < amount ∧ T.transferReserveAccounts asset.id = some reserve ∧
      (∀ id x, balance s'.ledger id x + (if id = asset.id ∧ x = T.accountLocation sender then amount else 0) =
        balance s.ledger id x + (if id = asset.id ∧ x = T.accountLocation T.feeReserveAccount then fee else 0) +
          (if T.isReserve asset = true ∧ id = asset.id ∧ x = T.accountLocation reserve then amount - fee else 0)) ∧
      s'.depositCounts = Function.update s.depositCounts d (s.depositCounts d + 1) ∧
      s'.events = s.events ++
        [.deposit d resourceId (s.depositCounts d) sender data, .feeCollected sender d resourceId fee asset.id] := by
  obtain ⟨sender, recipient, d, resourceId, amount, fee, l₁, l₂, reserve, l₃, converted, hsigned, -, hdest, -, -,
    hasset, hfee, hlt, hwithdraw, hfeeDeposit, hreserve, hreserveDeposit, -, -, rfl⟩ := deposit_eq_ok T h
  have hamount := extractAsset_fungibility T hasset
  refine ⟨sender, recipient, d, amount, fee, reserve, resourceId, _, hsigned, hdest, hamount, hfee, hlt, hreserve,
    fun id x => ?_, rfl, rfl⟩
  have hout := hlaw.withdraw hamount hwithdraw id x
  have hfeeIn := hlaw.deposit rfl hfeeDeposit id x
  dsimp only at hfeeIn ⊢
  by_cases hisReserve : T.isReserve asset = true
  · rw [if_pos hisReserve] at hreserveDeposit
    have hrest := hlaw.deposit rfl hreserveDeposit id x
    simp only [hisReserve, true_and] at hrest ⊢
    omega
  · rw [if_neg hisReserve, Option.some.injEq] at hreserveDeposit
    subst hreserveDeposit
    have hkept : ¬(T.isReserve asset = true ∧ id = asset.id ∧ x = T.accountLocation reserve) :=
      fun hmoved => hisReserve hmoved.1
    rw [if_neg hkept]
    omega

/-! ### The nonces over a run -/

/-- The nonce of a deposit to domain `d` that an event reports. -/
def Event.depositNonce? (d : UInt8) : Event AccountId AssetId → Option Nat
  | .deposit d' _ nonce _ _ => if d' = d then some nonce else none
  | _ => none

/-- The nonces of the deposits to domain `d` an event log reports, in order. -/
def depositNonces (d : UInt8) (events : List (Event AccountId AssetId)) : List Nat :=
  events.filterMap (Event.depositNonce? d)

@[simp] theorem depositNonces_append (d : UInt8) (es es' : List (Event AccountId AssetId)) :
    depositNonces d (es ++ es') = depositNonces d es ++ depositNonces d es' :=
  List.filterMap_append

/-- The deposits reported for each domain are numbered `0, 1, …` up to the
domain's count. -/
def NumbersDeposits (s : State AccountId AssetId L) : Prop :=
  ∀ d, depositNonces d s.events = List.range (s.depositCounts d)

theorem NumbersDeposits.of_eq {s t : State AccountId AssetId L} (hs : NumbersDeposits s)
    (hcounts : t.depositCounts = s.depositCounts) (hevents : ∀ d, depositNonces d t.events = depositNonces d s.events) :
    NumbersDeposits t := fun d => by rw [hevents, hcounts, hs]

theorem deposit_numbersDeposits [DecidableEq AssetId] {origin : Origin AccountId} {asset : Asset AssetId}
    {dest : Location} {s s' : State AccountId AssetId L} (h : deposit T origin asset dest s = .ok s')
    (hs : NumbersDeposits s) : NumbersDeposits s' := by
  obtain ⟨sender, -, d, resourceId, -, fee, -, -, -, -, converted, -, -, -, -, -, -, -, -, -, -, -, -, -, -, rfl⟩ :=
    deposit_eq_ok T h
  intro d'
  simp only [depositNonces_append, hs d']
  by_cases hd : d = d'
  · subst hd
    simp [depositNonces, Event.depositNonce?, List.range_succ]
  · simp [depositNonces, Event.depositNonce?, hd, Function.update_of_ne (Ne.symm hd)]

theorem executeOne_numbersDeposits {s : State AccountId AssetId L} (proposal : Proposal) (hs : NumbersDeposits s) :
    NumbersDeposits (executeOne T s proposal) := by
  unfold executeOne
  split
  · exact hs.of_eq rfl fun d => by simp [depositNonces, Event.depositNonce?]
  · exact hs.of_eq rfl fun d => by simp [depositNonces, Event.depositNonce?]

theorem dispatch_numbersDeposits [DecidableEq AssetId] {s s' : State AccountId AssetId L}
    {call : Call AccountId AssetId Location} (h : dispatch T s call = .ok s') (hs : NumbersDeposits s) :
    NumbersDeposits s' := by
  rcases dispatch_cases T h with ⟨_, _, _, -, hdeposit⟩ | ⟨proposals, _, -, hbatch⟩ | ⟨hcounts, -, -, hevents⟩
  · exact deposit_numbersDeposits T hdeposit hs
  · obtain ⟨-, -, -, rfl⟩ := executeProposal_ok T hbatch
    exact foldl_invariant (fun _ p _ ht => executeOne_numbersDeposits T p ht) hs
  · exact hs.of_eq hcounts fun d => by rw [hevents]

theorem numbersDeposits_invariant [DecidableEq AssetId] : Invariant (system T) NumbersDeposits :=
  invariant_of_inductive _ (fun _ h d => by obtain ⟨hcounts, -, -, -, -, -, hevents⟩ := h; simp [hcounts, hevents, depositNonces])
    (fun _ _ _ hs hstep => dispatch_numbersDeposits T (toOption_eq_some.1 hstep) hs)

end Deposit

end Setheum.Bridge

namespace Setheum.Bridge.Reference

/-- The reference transactor's balances: an account's, and none for a
remote location. -/
def balanceOf (l : Ledger) (_ : Unit) : Location → Nat
  | .account who => l who
  | .remote => 0

theorem mockConfig_lawful : mockConfig.Lawful balanceOf := by
  constructor
  · intro l l' asset loc amount hamount hwithdraw id x
    cases loc with
    | remote => cases hwithdraw
    | account who =>
        simp only [mockConfig, withdraw, hamount] at hwithdraw
        split at hwithdraw
        · rename_i henough
          cases hwithdraw
          cases x with
          | remote => simp [balanceOf]
          | account w =>
              by_cases hw : w = who
              · subst hw
                simp [balanceOf]
                omega
              · simp [balanceOf, hw]
        · cases hwithdraw
  · intro l l' asset loc amount hamount hdeposit id x
    cases loc with
    | remote => cases hdeposit
    | account who =>
        simp only [mockConfig, depositTo, hamount, Option.some.injEq] at hdeposit
        subst hdeposit
        cases x with
        | remote => simp [balanceOf]
        | account w =>
            by_cases hw : w = who
            · subst hw
              simp [balanceOf]
            · simp [balanceOf, hw]

end Setheum.Bridge.Reference

namespace Setheum.Bridge

open Transition Encoding

variable {AccountId AssetId Location L : Type}

/-- Outbound deposits move exactly the amount, the fee and the rest, and are
numbered without gaps or repeats; the deposit data reads back. -/
theorem deposit_conserves_and_numbers [DecidableEq AssetId] [DecidableEq Location]
    (T : Config AccountId AssetId Location L) (balance : L → AssetId → Location → Nat) (hlaw : T.Lawful balance) :
    (∀ (origin : Origin AccountId) (asset : Asset AssetId) (dest : Location) (s s' : State AccountId AssetId L),
      deposit T origin asset dest s = .ok s' →
        ∃ sender recipient d amount fee reserve resourceId data,
          origin = .signed sender ∧ T.extractDest dest = some (recipient, d) ∧
          asset.fungibility = .fungible amount ∧ T.getFee d asset = some fee ∧ fee < amount ∧
          T.transferReserveAccounts asset.id = some reserve ∧
          (∀ id x, balance s'.ledger id x + (if id = asset.id ∧ x = T.accountLocation sender then amount else 0) =
            balance s.ledger id x + (if id = asset.id ∧ x = T.accountLocation T.feeReserveAccount then fee else 0) +
              (if T.isReserve asset = true ∧ id = asset.id ∧ x = T.accountLocation reserve then amount - fee
                else 0)) ∧
          s'.depositCounts = Function.update s.depositCounts d (s.depositCounts d + 1) ∧
          s'.events = s.events ++
            [.deposit d resourceId (s.depositCounts d) sender data, .feeCollected sender d resourceId fee asset.id]) ∧
    (∀ (origin : Origin AccountId) (asset : Asset AssetId) (dest : Location) (s : State AccountId AssetId L) e,
      deposit T origin asset dest s = .error e → (system T).run s [.deposit origin asset dest] = s) ∧
    (∀ s, Reachable (system T) s → ∀ d, depositNonces d s.events = List.range (s.depositCounts d)) ∧
    (∀ amount recipient (location : Location), amount < 2 ^ 128 → recipient.length < 2 ^ 64 →
      T.decodeLocation recipient = some location →
        extractDepositData T (createDepositData amount recipient) = .ok (amount, location)) ∧
    ∀ data : List UInt8, beValue ((data.drop 32).take 32) ≠ data.length - 64 →
      extractDepositData T data = .error .invalidDepositData := by
  refine ⟨fun _ _ _ _ _ h => deposit_balance T hlaw h, fun _ _ _ _ _ h => ?_, numbersDeposits_invariant T,
    fun _ _ _ hamount hlen hdecode => extractDepositData_createDepositData T hamount hlen hdecode,
    fun _ hlen => extractDepositData_of_length_ne T hlen⟩
  simp [System.run, system, dispatch, h, Except.toOption]

/-- The reference runtime's transactor is lawful, and its deposits are
numbered `0, 1, …` in every reachable state. -/
theorem deposit_conserves_and_numbers_reference :
    Config.Lawful Reference.mockConfig Reference.balanceOf ∧
      ∀ s, Reachable (system Reference.mockConfig) s →
        ∀ d, depositNonces d s.events = List.range (s.depositCounts d) :=
  ⟨Reference.mockConfig_lawful,
    (deposit_conserves_and_numbers Reference.mockConfig Reference.balanceOf Reference.mockConfig_lawful).2.2.1⟩

end Setheum.Bridge
