import Mathlib
import Setheum.Bridge.Signing

/-!
# Executing proposals

A proposal that succeeds is marked in the `UsedNonces` bitmap and reported
executed; one that fails is reported failed and left unmarked. Marking sets
one bit of one word, so it changes the status of that proposal alone, and a
proposal is checked unmarked before it runs: over any run the bitmap marks
exactly the proposals reported executed, and none is reported twice.

What a proposal does to the ledger is one of three outcomes: nothing, a
withdrawal from the reserve account that stays when the deposit to the
recipient fails, or the credit of the recipient its data names. Only the
credit marks the proposal, and no call unmarks one, so a recipient is
credited for a proposal at most once.
-/

namespace Setheum.Bridge

open Result Transition Encoding

variable {AccountId AssetId Location L : Type}

/-! ## The bitmap -/

section Frame

variable (s : State AccountId AssetId L) (nonce : UInt64) (domainId : UInt8)

@[simp] theorem setProposalExecuted_isPaused : (setProposalExecuted s nonce domainId).isPaused = s.isPaused := rfl
@[simp] theorem setProposalExecuted_destDomainIds :
    (setProposalExecuted s nonce domainId).destDomainIds = s.destDomainIds := rfl
@[simp] theorem setProposalExecuted_mpcAddr : (setProposalExecuted s nonce domainId).mpcAddr = s.mpcAddr := rfl
@[simp] theorem setProposalExecuted_ledger : (setProposalExecuted s nonce domainId).ledger = s.ledger := rfl
@[simp] theorem setProposalExecuted_events : (setProposalExecuted s nonce domainId).events = s.events := rfl
@[simp] theorem setProposalExecuted_depositCounts :
    (setProposalExecuted s nonce domainId).depositCounts = s.depositCounts := rfl

end Frame

theorem isProposalExecuted_eq (s : State AccountId AssetId L) (nonce : UInt64) (domainId : UInt8) :
    isProposalExecuted s nonce domainId =
      (s.usedNonces domainId (nonce.toNat / 64)).testBit (nonce.toNat % 64) := by
  rw [isProposalExecuted, Nat.one_shiftLeft, Nat.and_two_pow]
  cases (s.usedNonces domainId (nonce.toNat / 64)).testBit (nonce.toNat % 64) <;> simp

theorem isProposalExecuted_setProposalExecuted (s : State AccountId AssetId L) (nonce nonce' : UInt64)
    (domainId domainId' : UInt8) :
    isProposalExecuted (setProposalExecuted s nonce domainId) nonce' domainId' =
      (decide (domainId' = domainId ∧ nonce' = nonce) || isProposalExecuted s nonce' domainId') := by
  rw [isProposalExecuted_eq, isProposalExecuted_eq]
  simp only [setProposalExecuted]
  by_cases hword : domainId' = domainId ∧ nonce'.toNat / 64 = nonce.toNat / 64
  · obtain ⟨rfl, hw⟩ := hword
    rw [if_pos ⟨rfl, hw⟩, hw, Nat.testBit_or, Nat.one_shiftLeft, Nat.testBit_two_pow]
    have hbit : nonce' = nonce ↔ nonce.toNat % 64 = nonce'.toNat % 64 := by
      rw [← UInt64.toNat_inj]
      omega
    simp only [true_and, hbit]
    cases decide (nonce.toNat % 64 = nonce'.toNat % 64) <;> simp
  · rw [if_neg hword]
    have hne : ¬ (domainId' = domainId ∧ nonce' = nonce) := by
      rintro ⟨rfl, rfl⟩
      exact hword ⟨rfl, rfl⟩
    simp [hne]

/-! ## The proposals an event log reports executed -/

/-- The proposal an event reports executed. -/
def Event.execution? : Event AccountId AssetId → Option (UInt8 × UInt64)
  | .proposalExecution d n _ => some (d, n)
  | _ => none

/-- The proposals an event log reports executed, by domain and nonce. -/
def executions (events : List (Event AccountId AssetId)) : List (UInt8 × UInt64) :=
  events.filterMap Event.execution?

@[simp] theorem executions_append (es es' : List (Event AccountId AssetId)) :
    executions (es ++ es') = executions es ++ executions es' :=
  List.filterMap_append

/-- The bitmap marks exactly the proposals the events report executed, and
none is reported twice. -/
def MarksExecutions (s : State AccountId AssetId L) : Prop :=
  (executions s.events).Nodup ∧ ∀ d n, isProposalExecuted s n d = true ↔ (d, n) ∈ executions s.events

theorem MarksExecutions.of_eq {s t : State AccountId AssetId L} (hs : MarksExecutions s)
    (hnonces : t.usedNonces = s.usedNonces) (hevents : executions t.events = executions s.events) :
    MarksExecutions t := by
  obtain ⟨hnodup, hmarks⟩ := hs
  refine ⟨hevents ▸ hnodup, fun d n => ?_⟩
  rw [hevents, ← hmarks, isProposalExecuted_eq, isProposalExecuted_eq, hnonces]

section Calls

variable (T : Config AccountId AssetId Location L)

/-! ## One proposal -/

theorem prepareProposal_ok {s : State AccountId AssetId L} {proposal : Proposal}
    {x : Asset AssetId × AccountId × Location} (h : prepareProposal T s proposal = .ok x) :
    s.paused proposal.originDomainId = false ∧ s.destDomainIds proposal.originDomainId = true ∧
      isProposalExecuted s proposal.depositNonce proposal.originDomainId = false := by
  simp only [prepareProposal, bind_eq_ok, ensure_eq_ok, Bool.not_eq_eq_eq_not, Bool.not_true] at h
  obtain ⟨_, hpaused, _, hdomain, _, hexecuted, -⟩ := h
  exact ⟨hpaused, hdomain, hexecuted⟩

theorem executeProposalInternal_ok {s : State AccountId AssetId L} {proposal : Proposal} {l : L}
    (h : executeProposalInternal T s proposal = (l, .ok ())) :
    ∃ asset reserve location l₀, prepareProposal T s proposal = .ok (asset, reserve, location) ∧
      T.depositAsset l₀ asset location = some l := by
  unfold executeProposalInternal at h
  split at h
  · cases h
  · rename_i asset reserve location hprep
    dsimp only at h
    split at h
    · cases h
    · rename_i l₀ _
      split at h
      · cases h
      · rename_i l' hdeposit
        obtain ⟨rfl, -⟩ := Prod.mk.inj h
        exact ⟨asset, reserve, location, l₀, hprep, hdeposit⟩

/-- The domain and nonce a proposal marks, if it succeeds. -/
def executedPair (s : State AccountId AssetId L) (proposal : Proposal) : List (UInt8 × UInt64) :=
  match (executeProposalInternal T s proposal).2 with
  | .ok () => [(proposal.originDomainId, proposal.depositNonce)]
  | .error _ => []

theorem executedPair_checks {s : State AccountId AssetId L} {proposal : Proposal} {x : UInt8 × UInt64}
    (hx : x ∈ executedPair T s proposal) :
    x = (proposal.originDomainId, proposal.depositNonce) ∧ s.paused proposal.originDomainId = false ∧
      s.destDomainIds proposal.originDomainId = true ∧
      isProposalExecuted s proposal.depositNonce proposal.originDomainId = false := by
  unfold executedPair at hx
  split at hx
  · rename_i hok
    obtain ⟨_, _, _, _, hprep, -⟩ :=
      executeProposalInternal_ok T (l := (executeProposalInternal T s proposal).1) (by rw [← hok])
    exact ⟨List.mem_singleton.1 hx, prepareProposal_ok T hprep⟩
  · cases hx

theorem executeOne_executions (s : State AccountId AssetId L) (proposal : Proposal) :
    executions (executeOne T s proposal).events = executions s.events ++ executedPair T s proposal := by
  unfold executeOne executedPair
  rcases executeProposalInternal T s proposal with ⟨l, e | ⟨⟩⟩
  · simp [executions, Event.execution?]
  · simp [executions, Event.execution?]

theorem executeOne_marks (s : State AccountId AssetId L) (proposal : Proposal) (d : UInt8) (n : UInt64) :
    isProposalExecuted (executeOne T s proposal) n d = true ↔
      isProposalExecuted s n d = true ∨ (d, n) ∈ executedPair T s proposal := by
  unfold executeOne executedPair
  rcases executeProposalInternal T s proposal with ⟨l, e | ⟨⟩⟩
  · simp [isProposalExecuted]
  · change isProposalExecuted (setProposalExecuted { s with ledger := l } _ _) n d = true ↔ _
    rw [isProposalExecuted_setProposalExecuted, Bool.or_eq_true, decide_eq_true_eq, or_comm]
    simp only [List.mem_singleton, Prod.mk.injEq]
    rfl

theorem executeOne_frame (s : State AccountId AssetId L) (proposal : Proposal) :
    (executeOne T s proposal).isPaused = s.isPaused ∧
      (executeOne T s proposal).destDomainIds = s.destDomainIds ∧
      (executeOne T s proposal).mpcAddr = s.mpcAddr := by
  unfold executeOne
  split <;> exact ⟨rfl, rfl, rfl⟩

theorem executeOne_marksExecutions {s : State AccountId AssetId L} (proposal : Proposal)
    (h : MarksExecutions s) : MarksExecutions (executeOne T s proposal) := by
  obtain ⟨hnodup, hmarks⟩ := h
  rw [MarksExecutions, executeOne_executions]
  refine ⟨List.nodup_append.2 ⟨hnodup, ?_, ?_⟩, fun d n => ?_⟩
  · unfold executedPair
    split <;> simp
  · -- a proposal that runs was unmarked, so not reported before
    intro x hx y hy hxy
    subst hxy
    obtain ⟨rfl, -, -, hfresh⟩ := executedPair_checks T hy
    rw [← hmarks] at hx
    rw [hx] at hfresh
    cases hfresh
  · rw [executeOne_marks, hmarks, List.mem_append]

/-! ## What a proposal does to the ledger -/

/-- What one proposal of a batch does to the ledger and the bitmap. -/
inductive ProposalOutcome (s s' : State AccountId AssetId L) (p : Proposal) : Prop
  /-- A check or the withdrawal failed: the ledger and the bitmap stay. -/
  | rejected (hledger : s'.ledger = s.ledger)
      (hmarks : ∀ d n, isProposalExecuted s' n d = isProposalExecuted s n d)
  /-- The deposit to the recipient failed: the withdrawal from the reserve
  account stays, and the bitmap stays. -/
  | withdrawn (asset : Asset AssetId) (reserve : AccountId) (location : Location)
      (hprep : prepareProposal T s p = .ok (asset, reserve, location))
      (hledger : T.withdrawAsset s.ledger asset (T.accountLocation reserve) = some s'.ledger)
      (hmarks : ∀ d n, isProposalExecuted s' n d = isProposalExecuted s n d)
  /-- The recipient the proposal's data names is credited: the proposal was
  unmarked, on a registered and unpaused domain, and it alone becomes marked. -/
  | credited (asset : Asset AssetId) (reserve : AccountId) (amount : Nat) (location : Location) (l : L)
      (hprep : prepareProposal T s p = .ok (asset, reserve, location))
      (hdata : extractDepositData T p.data = .ok (amount, location))
      (hchecks : s.paused p.originDomainId = false ∧ s.destDomainIds p.originDomainId = true ∧
        isProposalExecuted s p.depositNonce p.originDomainId = false)
      (hwithdraw : (if T.isReserve asset then T.withdrawAsset s.ledger asset (T.accountLocation reserve)
        else some s.ledger) = some l)
      (hcredit : T.depositAsset l asset location = some s'.ledger)
      (hmarks : ∀ d n, isProposalExecuted s' n d = true ↔
        isProposalExecuted s n d = true ∨ (d, n) = (p.originDomainId, p.depositNonce))

theorem prepareProposal_location {s : State AccountId AssetId L} {proposal : Proposal}
    {asset : Asset AssetId} {reserve : AccountId} {location : Location}
    (h : prepareProposal T s proposal = .ok (asset, reserve, location)) :
    ∃ amount, extractDepositData T proposal.data = .ok (amount, location) := by
  simp only [prepareProposal, bind_eq_ok, ensure_eq_ok, okOr_eq_ok, pure_eq_ok] at h
  obtain ⟨_, -, _, -, _, -, _, -, ⟨amount, location'⟩, hdata, _, -, _, -, h⟩ := h
  simp only [Prod.mk.injEq] at h
  obtain ⟨-, -, rfl⟩ := h
  exact ⟨amount, hdata⟩

theorem executeOne_of_error (s : State AccountId AssetId L) (proposal : Proposal) {l : L} {e : Error}
    (h : executeProposalInternal T s proposal = (l, .error e)) :
    (executeOne T s proposal).ledger = l ∧
      ∀ d n, isProposalExecuted (executeOne T s proposal) n d = isProposalExecuted s n d := by
  unfold executeOne
  rw [h]
  exact ⟨rfl, fun _ _ => rfl⟩

theorem executeOne_outcome (s : State AccountId AssetId L) (p : Proposal) :
    ProposalOutcome T s (executeOne T s p) p := by
  rcases hprep : prepareProposal T s p with e | ⟨asset, reserve, location⟩
  · -- a check failed
    obtain ⟨hl, hm⟩ := executeOne_of_error T s p (l := s.ledger) (e := e)
      (by simp [executeProposalInternal, hprep])
    exact .rejected hl hm
  rcases hw : (if T.isReserve asset then T.withdrawAsset s.ledger asset (T.accountLocation reserve)
      else some s.ledger) with _ | l
  · obtain ⟨hl, hm⟩ := executeOne_of_error T s p (l := s.ledger) (e := .transactFailed)
      (by simp only [executeProposalInternal, hprep, hw])
    exact .rejected hl hm
  rcases hd : T.depositAsset l asset location with _ | l'
  · -- the withdrawal stays; without a reserve asset nothing was withdrawn
    obtain ⟨hl, hm⟩ := executeOne_of_error T s p (l := l) (e := .transactFailed)
      (by simp only [executeProposalInternal, hprep, hw, hd])
    by_cases hreserve : T.isReserve asset
    · rw [if_pos hreserve] at hw
      exact .withdrawn asset reserve location hprep (hl ▸ hw) hm
    · rw [if_neg hreserve] at hw
      exact .rejected (hl.trans (Option.some.inj hw).symm) hm
  · have h : executeProposalInternal T s p = (l', .ok ()) := by
      simp only [executeProposalInternal, hprep, hw, hd]
    obtain ⟨amount, hdata⟩ := prepareProposal_location T hprep
    refine .credited asset reserve amount location l hprep hdata (prepareProposal_ok T hprep) hw
      (by simp only [executeOne, h, setProposalExecuted_ledger, hd]) fun d n => ?_
    rw [executeOne_marks]
    simp only [executedPair, h, List.mem_singleton]

/-! ## A batch -/

/-- What a batch adds to the reported executions: proposals of the batch,
each on a registered and unpaused domain, unmarked before the batch, none
twice; and the bitmap gains exactly these. -/
theorem foldl_executeOne (proposals : List Proposal) (s : State AccountId AssetId L) :
    ∃ new, executions (proposals.foldl (executeOne T) s).events = executions s.events ++ new ∧ new.Nodup ∧
      (∀ x ∈ new, isProposalExecuted s x.2 x.1 = false ∧ ∃ p ∈ proposals,
        x = (p.originDomainId, p.depositNonce) ∧ s.destDomainIds p.originDomainId = true ∧
          s.paused p.originDomainId = false) ∧
      ∀ d n, isProposalExecuted (proposals.foldl (executeOne T) s) n d = true ↔
        isProposalExecuted s n d = true ∨ (d, n) ∈ new := by
  induction proposals generalizing s with
  | nil => exact ⟨[], by simp, List.nodup_nil, by simp, by simp⟩
  | cons p ps ih =>
      obtain ⟨new, hevents, hnodup, hnew, hmarks⟩ := ih (executeOne T s p)
      obtain ⟨hpaused, hdomains, -⟩ := executeOne_frame T s p
      refine ⟨executedPair T s p ++ new, ?_, ?_, ?_, ?_⟩
      · rw [List.foldl_cons, hevents, executeOne_executions, List.append_assoc]
      · refine List.nodup_append.2 ⟨?_, hnodup, ?_⟩
        · unfold executedPair
          split <;> simp
        · -- what the rest marks was unmarked after `p`, which `p` marked
          intro x hx y hy hxy
          subst hxy
          have hmarked := (executeOne_marks T s p x.1 x.2).2 (Or.inr hx)
          rw [(hnew x hy).1] at hmarked
          cases hmarked
      · intro x hx
        rcases List.mem_append.1 hx with hx | hx
        · obtain ⟨rfl, hp, hd, hfresh⟩ := executedPair_checks T hx
          exact ⟨hfresh, p, List.mem_cons_self, rfl, hd, hp⟩
        · obtain ⟨hfresh, q, hq, hxq, hd, hp⟩ := hnew x hx
          refine ⟨?_, q, List.mem_cons_of_mem _ hq, hxq, ?_, ?_⟩
          · cases hs : isProposalExecuted s x.2 x.1
            · rfl
            · have := (executeOne_marks T s p x.1 x.2).2 (Or.inl hs)
              rw [hfresh] at this
              cases this
          · rwa [hdomains] at hd
          · unfold State.paused at hp ⊢
            rwa [hpaused] at hp
      · intro d n
        rw [List.foldl_cons, hmarks, executeOne_marks, List.mem_append, or_assoc]

theorem foldl_executeOne_marksExecutions (proposals : List Proposal) {s : State AccountId AssetId L}
    (h : MarksExecutions s) : MarksExecutions (proposals.foldl (executeOne T) s) :=
  foldl_invariant (fun _ p _ hs => executeOne_marksExecutions T p hs) h

/-! ## The calls -/

theorem executeProposal_ok {proposals : List Proposal} {signature : List UInt8}
    {s s' : State AccountId AssetId L} (h : executeProposal T proposals signature s = .ok s') :
    isClear s.mpcAddr = false ∧ proposals ≠ [] ∧
      verifyByMpcAddress T s (constructEcdsaSigningProposalsData T proposals) signature = true ∧
      s' = proposals.foldl (executeOne T) s := by
  simp only [executeProposal, bind_eq_ok, ensure_eq_ok, pure_eq_ok, Bool.not_eq_eq_eq_not, Bool.not_true,
    List.isEmpty_eq_false_iff] at h
  obtain ⟨_, hmpc, _, hne, _, hsig, rfl⟩ := h
  exact ⟨hmpc, hne, hsig, rfl⟩

theorem deposit_ok [DecidableEq AssetId] {origin : Origin AccountId} {asset : Asset AssetId} {dest : Location}
    {s s' : State AccountId AssetId L} (h : deposit T origin asset dest s = .ok s') :
    s'.usedNonces = s.usedNonces ∧ executions s'.events = executions s.events := by
  simp only [deposit, bind_eq_ok, ensure_eq_ok, okOr_eq_ok] at h
  obtain ⟨_, -, _, -, _, -, _, -, _, -, _, -, _, -, _, -, _, -, _, -, _, -, h⟩ := h
  split at h <;> simp only [bind_eq_ok, ensure_eq_ok, okOr_eq_ok, pure_eq_ok, pure_bind] at h
  · obtain ⟨_, -, _, -, _, -, rfl⟩ := h
    simp [executions, Event.execution?]
  · obtain ⟨_, -, _, -, rfl⟩ := h
    simp [executions, Event.execution?]

/-- What a call can do: a deposit, a batch of proposals, or a change of the
bridge's configuration that leaves the counters, the bitmap, the ledger and
the events as they were. -/
theorem dispatch_cases [DecidableEq AssetId] {s s' : State AccountId AssetId L} {call : Call AccountId AssetId Location}
    (h : dispatch T s call = .ok s') :
    (∃ origin asset dest, call = .deposit origin asset dest ∧ deposit T origin asset dest s = .ok s') ∨
      (∃ proposals signature, call = .executeProposal proposals signature ∧
        executeProposal T proposals signature s = .ok s') ∨
      (s'.depositCounts = s.depositCounts ∧ s'.usedNonces = s.usedNonces ∧ s'.ledger = s.ledger ∧
        s'.events = s.events) := by
  cases call with
  | deposit origin asset dest => exact .inl ⟨origin, asset, dest, rfl, h⟩
  | executeProposal proposals signature => exact .inr (.inl ⟨proposals, signature, rfl, h⟩)
  | pauseBridge origin d =>
      simp only [dispatch, pauseBridge, bind_eq_ok, ensure_eq_ok, pure_eq_ok] at h
      obtain ⟨_, -, _, -, rfl⟩ := h
      exact .inr (.inr ⟨rfl, rfl, rfl, rfl⟩)
  | unpauseBridge origin d =>
      simp only [dispatch, unpauseBridge, bind_eq_ok, ensure_eq_ok, pure_eq_ok] at h
      obtain ⟨_, -, _, -, _, -, rfl⟩ := h
      exact .inr (.inr ⟨rfl, rfl, rfl, rfl⟩)
  | setMpcAddress origin addr =>
      simp only [dispatch, setMpcAddress, bind_eq_ok, ensure_eq_ok, pure_eq_ok] at h
      obtain ⟨_, -, _, -, rfl⟩ := h
      exact .inr (.inr ⟨rfl, rfl, rfl, rfl⟩)
  | registerDomain origin d c =>
      simp only [dispatch, registerDomain, bind_eq_ok, ensure_eq_ok, pure_eq_ok] at h
      obtain ⟨_, -, rfl⟩ := h
      exact .inr (.inr ⟨rfl, rfl, rfl, rfl⟩)
  | unregisterDomain origin d c =>
      simp only [dispatch, unregisterDomain, bind_eq_ok, ensure_eq_ok, pure_eq_ok] at h
      obtain ⟨_, -, _, -, _, -, rfl⟩ := h
      exact .inr (.inr ⟨rfl, rfl, rfl, rfl⟩)
  | retry origin d =>
      simp only [dispatch, retry, bind_eq_ok, ensure_eq_ok, pure_eq_ok] at h
      obtain ⟨_, -, _, -, _, -, _, -, rfl⟩ := h
      exact .inr (.inr ⟨rfl, rfl, rfl, rfl⟩)
  | pauseAllBridges origin =>
      simp only [dispatch, pauseAllBridges, bind_eq_ok, ensure_eq_ok, pure_eq_ok] at h
      obtain ⟨_, -, rfl⟩ := h
      exact .inr (.inr ⟨rfl, rfl, rfl, rfl⟩)
  | unpauseAllBridges origin =>
      simp only [dispatch, unpauseAllBridges, bind_eq_ok, ensure_eq_ok, pure_eq_ok] at h
      obtain ⟨_, -, _, -, rfl⟩ := h
      exact .inr (.inr ⟨rfl, rfl, rfl, rfl⟩)

theorem dispatch_marksExecutions [DecidableEq AssetId] {s s' : State AccountId AssetId L}
    {call : Call AccountId AssetId Location} (h : dispatch T s call = .ok s') (hs : MarksExecutions s) :
    MarksExecutions s' := by
  rcases dispatch_cases T h with ⟨_, _, _, -, hdeposit⟩ | ⟨proposals, _, -, hbatch⟩ | ⟨-, hnonces, -, hevents⟩
  · obtain ⟨hnonces, hevents⟩ := deposit_ok T hdeposit
    exact hs.of_eq hnonces hevents
  · obtain ⟨-, -, -, rfl⟩ := executeProposal_ok T hbatch
    exact foldl_executeOne_marksExecutions T proposals hs
  · exact hs.of_eq hnonces (by rw [hevents])

theorem marksExecutions_init [DecidableEq AssetId] {s : State AccountId AssetId L}
    (h : (system T).init s) : MarksExecutions s := by
  obtain ⟨-, -, -, hnonces, -, -, hevents⟩ := h
  refine ⟨by simp [hevents, executions], fun d n => ?_⟩
  simp [isProposalExecuted, hnonces, hevents, executions]

theorem marksExecutions_invariant [DecidableEq AssetId] :
    Invariant (system T) MarksExecutions :=
  invariant_of_inductive _ (fun _ h => marksExecutions_init T h)
    (fun _ _ _ hs hstep => dispatch_marksExecutions T (toOption_eq_some.1 hstep) hs)

theorem foldl_executeOne_outcome (proposals : List Proposal) (s : State AccountId AssetId L) {i : Nat}
    (hi : i < proposals.length) :
    ProposalOutcome T ((proposals.take i).foldl (executeOne T) s)
      ((proposals.take (i + 1)).foldl (executeOne T) s) proposals[i] := by
  rw [List.take_succ_eq_append_getElem hi, List.foldl_append, List.foldl_cons, List.foldl_nil]
  exact executeOne_outcome T _ _

theorem dispatch_keeps_marks [DecidableEq AssetId] {s s' : State AccountId AssetId L}
    {call : Call AccountId AssetId Location} (h : dispatch T s call = .ok s') {d : UInt8} {n : UInt64}
    (hmarked : isProposalExecuted s n d = true) : isProposalExecuted s' n d = true := by
  rcases dispatch_cases T h with ⟨_, _, _, -, hdeposit⟩ | ⟨proposals, _, -, hbatch⟩ | ⟨-, hnonces, -, -⟩
  · rwa [isProposalExecuted_eq, (deposit_ok T hdeposit).1, ← isProposalExecuted_eq]
  · obtain ⟨-, -, -, rfl⟩ := executeProposal_ok T hbatch
    obtain ⟨new, -, -, -, hmarks⟩ := foldl_executeOne T proposals s
    exact (hmarks d n).2 (.inl hmarked)
  · rwa [isProposalExecuted_eq, hnonces, ← isProposalExecuted_eq]

/-- Inbound transfers are authorized and paid once. A batch runs only under
the MPC address's signature of its message, and each of its proposals, from
the state the ones before it leave, is rejected, keeps a failed withdrawal
from the reserve account, or credits the recipient its data names; a
recipient is credited only for an unmarked proposal on a registered and
unpaused domain, which it alone marks. The batch adds to the reported
executions proposals of the batch, unmarked before it, none twice. Over any
run the bitmap marks exactly the proposals reported executed, none twice, and
no call unmarks one, so a proposal credits its recipient at most once. The
signed message determines the batch, unless keccak-256 has a collision. -/
theorem executeProposal_pays_once [DecidableEq AssetId] :
    (∀ (proposals : List Proposal) (signature : List UInt8) (s s' : State AccountId AssetId L),
      executeProposal T proposals signature s = .ok s' →
        isClear s.mpcAddr = false ∧
        verifyByMpcAddress T s (constructEcdsaSigningProposalsData T proposals) signature = true ∧
        s' = proposals.foldl (executeOne T) s ∧
        (∀ i (hi : i < proposals.length),
          ProposalOutcome T ((proposals.take i).foldl (executeOne T) s)
            ((proposals.take (i + 1)).foldl (executeOne T) s) proposals[i]) ∧
        ∃ new, executions s'.events = executions s.events ++ new ∧ new.Nodup ∧
          (∀ x ∈ new, isProposalExecuted s x.2 x.1 = false ∧ ∃ p ∈ proposals,
            x = (p.originDomainId, p.depositNonce) ∧ s.destDomainIds p.originDomainId = true ∧
              s.paused p.originDomainId = false) ∧
          ∀ d n, isProposalExecuted s' n d = true ↔ isProposalExecuted s n d = true ∨ (d, n) ∈ new) ∧
    (∀ s, Reachable (system T) s → MarksExecutions s) ∧
    (∀ s call s', (system T).step s call = some s' →
      ∀ d n, isProposalExecuted s n d = true → isProposalExecuted s' n d = true) ∧
    ∀ ps qs : List Proposal, ps ≠ [] → qs ≠ [] →
      constructEcdsaSigningProposalsData T ps = constructEcdsaSigningProposalsData T qs →
        ps = qs ∨ Collision T.keccak := by
  refine ⟨fun proposals signature s s' h => ?_, marksExecutions_invariant T,
    fun _ _ _ hstep _ _ hmarked => dispatch_keeps_marks T (toOption_eq_some.1 hstep) hmarked,
    fun _ _ hps hqs h => constructEcdsaSigningProposalsData_inj T hps hqs h⟩
  obtain ⟨hmpc, -, hsig, rfl⟩ := executeProposal_ok T h
  exact ⟨hmpc, hsig, rfl, fun _ hi => foldl_executeOne_outcome T proposals s hi, foldl_executeOne T proposals s⟩

/-! ## A failed deposit after the withdrawal -/

/-- A proposal whose recipient cannot be credited once the reserve account
is debited: the batch succeeds, the debit stays, the proposal stays unmarked,
and a failure is reported. -/
theorem executeProposal_keeps_failed_withdrawal {proposal : Proposal} {signature : List UInt8}
    {s : State AccountId AssetId L} {asset : Asset AssetId} {reserve : AccountId} {location : Location} {l : L}
    (hmpc : isClear s.mpcAddr = false)
    (hsig : verifyByMpcAddress T s (constructEcdsaSigningProposalsData T [proposal]) signature = true)
    (hprep : prepareProposal T s proposal = .ok (asset, reserve, location)) (hreserve : T.isReserve asset = true)
    (hwithdraw : T.withdrawAsset s.ledger asset (T.accountLocation reserve) = some l)
    (hdeposit : T.depositAsset l asset location = none) :
    executeProposal T [proposal] signature s =
      .ok { s with
        ledger := l
        events := s.events ++ [.failedHandlerExecution .transactFailed proposal.originDomainId proposal.depositNonce] } := by
  have hinternal : executeProposalInternal T s proposal = (l, .error .transactFailed) := by
    simp [executeProposalInternal, hprep, hreserve, hwithdraw, hdeposit]
  simp [executeProposal, hmpc, hsig, ensure, executeOne, hinternal]

end Calls

end Setheum.Bridge
