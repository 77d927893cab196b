import Setheum.UnifiedAccounts.Pallet
import Setheum.Lib.PartialBijection

/-!
# The two maps stay inverse

Claiming binds an unbound account to an unbound address, and reaping an
account unbinds its pair, so both keep `Accounts` and `EvmAddresses` inverse.
`get_or_create_evm_address` binds an account's default address without
checking that the address is free; an address bound to another account is
then taken from it (`getOrCreateEvmAddress_breaks_inverse`). Over the runs
where that address is free and where padded accounts, for which no one holds
a key, do not sign, the maps stay inverse, and the lookups round-trip except
at the padded account of an address bound to another account: that account
still names the address, which names the other account.
-/

namespace Setheum.UnifiedAccounts

open Result Transition Encoding PartialBijection

variable {L : Type}

/-! ## Padded accounts -/

theorem underlyingEvmAddress_paddedAccount (address : EvmAddress) :
    underlyingEvmAddress (paddedAccount address) = some address := by
  have hlen := address.2
  unfold underlyingEvmAddress paddedAccount
  rw [if_pos]
  · congr 1
    apply Subtype.ext
    simp [evmPrefix, hlen]
  · simp [evmPrefix, hlen]

theorem eq_paddedAccount_of_underlying {accountId : AccountId} {address : EvmAddress}
    (h : underlyingEvmAddress accountId = some address) : accountId = paddedAccount address := by
  unfold underlyingEvmAddress at h
  split_ifs at h with hpadded
  obtain ⟨hhead, hsuffix⟩ := hpadded
  cases h
  apply Subtype.ext
  simp only [paddedAccount]
  rw [← hhead, ← hsuffix]
  rw [List.append_assoc, show 24 = 4 + 20 from rfl, ← List.drop_drop, List.take_append_drop,
    List.take_append_drop]

/-! ## The invariant -/

/-- The two maps are inverse, and no padded account is bound. -/
structure Consistent (s : State L) : Prop where
  inverse : Inverse s.accounts s.evmAddresses
  unpadded : ∀ a e, s.evmAddresses a = some e → underlyingEvmAddress a = none

theorem Consistent.bind {s : State L} (hs : Consistent s) {address : EvmAddress} {accountId : AccountId}
    (haddress : s.accounts address = none) (haccount : s.evmAddresses accountId = none)
    (hunpadded : underlyingEvmAddress accountId = none) : Consistent (s.bind address accountId) := by
  refine ⟨hs.inverse.bind haddress haccount, fun a e ha => ?_⟩
  by_cases hwho : a = accountId
  · rwa [hwho]
  · simp only [State.bind, Function.update_of_ne hwho] at ha
    exact hs.unpadded a e ha

theorem Consistent.onKilledAccount {s : State L} (hs : Consistent s) (who : AccountId) :
    Consistent (onKilledAccount who s) := by
  unfold UnifiedAccounts.onKilledAccount
  split
  · rename_i e he
    refine ⟨hs.inverse.unbind ((hs.inverse e who).2 he), fun a e' ha => ?_⟩
    by_cases hwho : a = who
    · subst hwho
      simp at ha
    · simp only [Function.update_of_ne hwho] at ha
      exact hs.unpadded a e' ha
  · exact hs

section Config

variable (T : Config L)

/-- Whether the default address of `accountId` is free, or bound to it. -/
def defaultFree (s : State L) (accountId : AccountId) : Bool :=
  match s.accounts (accountToDefaultEvmAddress T accountId) with
  | some b => b == accountId
  | none => true

/-- What the code does not check and the runs below assume: a padded account
does not sign, and the default address an account is given is not bound to
another account. -/
def allowed (s : State L) : Call → Bool
  | .claimAccount who _ _ => (underlyingEvmAddress who).isNone
  | .claimDefaultAccount who => defaultFree T s who
  | .getOrCreateEvmAddress accountId => defaultFree T s accountId
  | .killAccount _ => true

/-- The pallet over the runs `allowed` admits. -/
def guardedSystem : Transition.System (State L) Call := (system T).guard fun s call => allowed T s call = true

theorem claimAccount_ok {who : AccountId} {ethAddress : EvmAddress} {sig : FixedBytes 65} {s s' : State L}
    (h : claimAccount T who ethAddress sig s = .ok s') :
    verifyEip712Signature T who sig = some ethAddress ∧ s.evmAddresses who = none ∧
      s.accounts ethAddress = none ∧ ∃ l, s' = { s with ledger := l }.bind ethAddress who := by
  simp only [claimAccount, bind_eq_ok, ensure_eq_ok, okOr_eq_ok, Option.isNone_iff_eq_none, beq_iff_eq] at h
  obtain ⟨_, hwho, _, haddress, address, hverify, _, rfl, h⟩ := h
  refine ⟨hverify, hwho, haddress, ?_⟩
  split at h <;> simp only [bind_eq_ok, okOr_eq_ok, pure_eq_ok, pure_bind] at h
  · obtain ⟨l, -, rfl⟩ := h
    exact ⟨l, rfl⟩
  · exact ⟨s.ledger, h.symm⟩

theorem getOrCreateEvmAddress_consistent {s : State L} (hs : Consistent s) {accountId : AccountId}
    (hfree : defaultFree T s accountId = true) : Consistent (getOrCreateEvmAddress T s accountId).2 := by
  unfold getOrCreateEvmAddress
  split
  · exact hs
  · rename_i hnone
    obtain ⟨haccount, hunpadded⟩ := Option.or_eq_none_iff.1 hnone
    have haddress : s.accounts (accountToDefaultEvmAddress T accountId) = none := by
      unfold defaultFree at hfree
      split at hfree
      · rename_i b hb
        rw [beq_iff_eq] at hfree
        subst hfree
        rw [(hs.inverse _ _).1 hb] at haccount
        cases haccount
      · assumption
    exact hs.bind haddress haccount hunpadded

/-- Binding a default address already bound to another account takes it from
that account, which still names it. -/
theorem getOrCreateEvmAddress_breaks_inverse {s : State L} (hs : Consistent s) {accountId b : AccountId}
    (hnone : getEvmAddress s accountId = none) (hb : s.accounts (accountToDefaultEvmAddress T accountId) = some b) :
    ¬ Inverse (getOrCreateEvmAddress T s accountId).2.accounts (getOrCreateEvmAddress T s accountId).2.evmAddresses := by
  obtain ⟨haccount, -⟩ := Option.or_eq_none_iff.1 hnone
  have hbound := (hs.inverse _ _).1 hb
  have hne : b ≠ accountId := by
    rintro rfl
    rw [hbound] at haccount
    cases haccount
  simp only [getOrCreateEvmAddress, hnone]
  exact not_inverse_rebind hbound hne

theorem dispatch_consistent {s s' : State L} {call : Call} (hallowed : allowed T s call = true)
    (h : dispatch T s call = .ok s') (hs : Consistent s) : Consistent s' := by
  cases call with
  | claimAccount who ethAddress sig =>
      obtain ⟨-, hwho, haddress, l, rfl⟩ := claimAccount_ok T h
      exact Consistent.bind (s := { s with ledger := l }) ⟨hs.inverse, hs.unpadded⟩ haddress hwho
        (Option.isNone_iff_eq_none.1 hallowed)
  | claimDefaultAccount who =>
      simp only [dispatch, claimDefaultAccount, doClaimDefaultEvmAddress, map_eq_ok, bind_eq_ok, ensure_eq_ok,
        pure_eq_ok] at h
      obtain ⟨_, ⟨_, -, rfl⟩, rfl⟩ := h
      exact getOrCreateEvmAddress_consistent T hs hallowed
  | getOrCreateEvmAddress accountId =>
      simp only [dispatch, pure_eq_ok] at h
      subst h
      exact getOrCreateEvmAddress_consistent T hs hallowed
  | killAccount who =>
      simp only [dispatch, pure_eq_ok] at h
      subst h
      exact hs.onKilledAccount who

theorem consistent_invariant : Invariant (guardedSystem T) Consistent := by
  refine invariant_of_inductive _ (fun s hinit => ⟨fun e a => ?_, fun a e ha => ?_⟩) (fun s t call hs hstep => ?_)
  · rw [hinit.1 e, hinit.2 a]
    simp
  · rw [hinit.2 a] at ha
    cases ha
  · obtain ⟨hallowed, hstep⟩ := System.guard_step_eq_some.1 hstep
    exact dispatch_consistent T hallowed (toOption_eq_some.1 hstep) hs

end Config

/-! ## The lookups -/

theorem getAccountId_of_getEvmAddress {s : State L} (hs : Consistent s) {accountId : AccountId}
    {address : EvmAddress} (h : getEvmAddress s accountId = some address) :
    getAccountId s address = accountId ∨
      (accountId = paddedAccount address ∧ ∃ b, s.accounts address = some b ∧ b ≠ accountId) := by
  unfold getEvmAddress at h
  cases hbound : s.evmAddresses accountId with
  | some e =>
      rw [hbound, Option.some_or, Option.some.injEq] at h
      subst h
      left
      rw [getAccountId, (hs.inverse _ _).2 hbound, Option.getD_some]
  | none =>
      rw [hbound, Option.none_or] at h
      have hpadded := eq_paddedAccount_of_underlying h
      cases haddress : s.accounts address with
      | none =>
          left
          rw [getAccountId, haddress, Option.getD_none, hpadded]
      | some b =>
          refine Or.inr ⟨hpadded, b, rfl, fun hb => ?_⟩
          rw [← hb, (hs.inverse _ _).1 haddress] at hbound
          cases hbound

theorem getEvmAddress_getAccountId {s : State L} (hs : Consistent s) (address : EvmAddress) :
    getEvmAddress s (getAccountId s address) = some address := by
  unfold getAccountId getEvmAddress
  cases haddress : s.accounts address with
  | some b =>
      rw [Option.getD_some, (hs.inverse _ _).1 haddress, Option.some_or]
  | none =>
      rw [Option.getD_none]
      -- a bound padded account would contradict the invariant
      cases hpadded : s.evmAddresses (paddedAccount address) with
      | some e =>
          have := hs.unpadded _ _ hpadded
          rw [underlyingEvmAddress_paddedAccount] at this
          cases this
      | none => rw [Option.none_or, underlyingEvmAddress_paddedAccount]

/-- Over the runs where padded accounts do not sign and default addresses
are given only when free, `Accounts` and `EvmAddresses` are inverse; an
account's address names the account, except the padded account of an address
bound to another account; an address's account names the address; and
`claim_account` binds an address to the caller only when the caller's
message is signed by the address and neither was bound. -/
theorem unified_accounts_consistent (T : Config L) :
    (∀ s, Reachable (guardedSystem T) s →
      (∀ e a, s.accounts e = some a ↔ s.evmAddresses a = some e) ∧
      (∀ a e, getEvmAddress s a = some e →
        getAccountId s e = a ∨ (a = paddedAccount e ∧ ∃ b, s.accounts e = some b ∧ b ≠ a)) ∧
      ∀ e, getEvmAddress s (getAccountId s e) = some e) ∧
    ∀ (who : AccountId) (e : EvmAddress) (sig : FixedBytes 65) (s s' : State L),
      claimAccount T who e sig s = .ok s' →
        verifyEip712Signature T who sig = some e ∧ s.evmAddresses who = none ∧ s.accounts e = none ∧
          s'.accounts e = some who ∧ s'.evmAddresses who = some e := by
  refine ⟨fun s hs => ?_, fun who e sig s s' h => ?_⟩
  · have hcons := consistent_invariant T s hs
    exact ⟨hcons.inverse, fun a e h => getAccountId_of_getEvmAddress hcons h,
      getEvmAddress_getAccountId hcons⟩
  · obtain ⟨hverify, hwho, haddress, l, rfl⟩ := claimAccount_ok T h
    exact ⟨hverify, hwho, haddress, by simp [State.bind], by simp [State.bind]⟩

namespace Reference

/-- `n` copies of the byte `b`. -/
def bytes (n : Nat) (b : UInt8) : FixedBytes n := ⟨List.replicate n b, List.length_replicate⟩

/-- Balances of the native currency. -/
abbrev Ledger := AccountId → Nat

/-- Stand-ins for the hashes and the recovery: every key hashes to an
address of sevens, and every signature recovers a key. -/
def mockConfig : Config Ledger where
  keccak _ := ⟨List.replicate 12 0 ++ List.replicate 20 7, rfl⟩
  blake2 _ := bytes 32 9
  ecdsaRecover _ _ := some []
  chainId := 258
  genesisHash := bytes 32 0
  accountExists l who := l who != 0
  transferAll l source dest :=
    some (Function.update (Function.update l dest (l dest + l source)) source 0)

def alice : AccountId := bytes 32 1

def sevens : EvmAddress := bytes 20 7

/-- No binding; the padded account of `sevens` holds 50. -/
def genesisState : State Ledger :=
  ⟨fun _ => none, fun _ => none, fun who => if who = paddedAccount sevens then 50 else 0⟩

theorem genesisState_init : (guardedSystem mockConfig).init genesisState := ⟨fun _ => rfl, fun _ => rfl⟩

/-- Alice claims `sevens`, whose padded account's 50 move to her. -/
def claimed : State Ledger := (guardedSystem mockConfig).run genesisState [.claimAccount alice sevens (bytes 65 0)]

/-- Alice's address round-trips. -/
theorem unified_accounts_consistent_reference :
    Reachable (guardedSystem mockConfig) claimed ∧ claimed.evmAddresses alice = some sevens ∧
      getEvmAddress claimed (getAccountId claimed sevens) = some sevens := by
  have hreach : Reachable (guardedSystem mockConfig) claimed := (Reachable.init genesisState_init).run _
  exact ⟨hreach, by decide, ((unified_accounts_consistent mockConfig).1 claimed hreach).2.2 sevens⟩

/-- After Alice claims `sevens`, its padded account still names `sevens`,
but `sevens` names Alice: the round trip fails at the padded account. -/
theorem getAccountId_padded_reference :
    Reachable (guardedSystem mockConfig) claimed ∧
      getEvmAddress claimed (paddedAccount sevens) = some sevens ∧
      getAccountId claimed sevens = alice ∧ alice ≠ paddedAccount sevens ∧
      claimed.ledger alice = 50 ∧ claimed.ledger (paddedAccount sevens) = 0 :=
  ⟨(Reachable.init genesisState_init).run _, by decide⟩

def bob : AccountId := bytes 32 2

/-- Alice gets her default address. Bob's default address is the same, so
creating his takes it from her, and the mapping is no longer inverse. -/
theorem default_address_taken_reference :
    let s := (guardedSystem mockConfig).run genesisState [.getOrCreateEvmAddress alice]
    Reachable (guardedSystem mockConfig) s ∧
      ¬ Inverse (getOrCreateEvmAddress mockConfig s bob).2.accounts
        (getOrCreateEvmAddress mockConfig s bob).2.evmAddresses := by
  intro s
  have hreach : Reachable (guardedSystem mockConfig) s := (Reachable.init genesisState_init).run _
  have hbound : s.accounts (accountToDefaultEvmAddress mockConfig bob) = some alice := by decide
  exact ⟨hreach, getOrCreateEvmAddress_breaks_inverse mockConfig (consistent_invariant mockConfig s hreach)
    (by decide) hbound⟩

end Reference

end Setheum.UnifiedAccounts
