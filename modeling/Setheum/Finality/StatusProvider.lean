import Setheum.Finality.DataProvider

/-!
# How a node classifies a proposal

`get_proposal_status` of `data_io/status_provider.rs` with its three checks: a
hopeless fork (a block of the branch differs from the finalised block at its
height), the parent links along the branch, and the parent of the bottom block
being the finalised block just below the branch. The header verifier is the
environment's: `verify_header(header, false)` is read as whether it accepts
the header.

An honest proposal is finalised: the branch `get_proposal` builds from a walk
down a block tree is classified `Finalize`, with its blocks bottom up, by any
client that holds the same headers and has not finalised past the proposer's
finalised block.
-/

namespace Setheum.Finality

variable {Hash : Type} [DecidableEq Hash] (chainInfoProvider : ChainInfoProvider Hash)

/-- The loop of `is_hopeless_fork` from the `index`-th block of the branch on. -/
def isHopelessForkFrom (bottomNum : Nat) : Nat → List (BlockId Hash) → Bool
  | _, [] => false
  | index, id :: rest =>
      match chainInfoProvider.getFinalizedAt (bottomNum + index) with
      | some finalizedBlock =>
          if finalizedBlock.hash ≠ id.hash then true else isHopelessForkFrom bottomNum (index + 1) rest
      -- the finalised block at this height is not known
      | none => false

def isHopelessFork (proposal : SetBFTProposal Hash) : Bool :=
  let bottomNum := proposal.numberBottomBlock
  isHopelessForkFrom chainInfoProvider bottomNum 0 (proposal.blocksFromNum bottomNum)

def isAncestorFinalized (proposal : SetBFTProposal Hash) : Bool :=
  let bottom := proposal.bottomBlock
  match chainInfoProvider.getParentHash bottom with
  | none => false
  | some parentHash =>
      match chainInfoProvider.getFinalizedAt proposal.numberBelowBranch with
      | none => false
      | some finalized => decide (parentHash = finalized.hash)

def isBranchAncestryCorrect (proposal : SetBFTProposal Hash) : Bool :=
  let bottomNum := proposal.numberBottomBlock
  ((proposal.blocksFromNum bottomNum).zip (proposal.blocksFromNum (bottomNum + 1))).all
    fun (parent, current) =>
      match chainInfoProvider.getParentHash current with
      | some parentHash => decide (parentHash = parent.hash)
      | none => false

def getProposalStatus (verifyHeader : Header Hash → Bool) (proposal : SetBFTProposal Hash)
    (oldStatus : Option (ProposalStatus Hash)) : ProposalStatus Hash :=
  let currentHighestFinalized := chainInfoProvider.getHighestFinalized.number
  if currentHighestFinalized ≥ proposal.numberTopBlock then .ignore
  else if isHopelessFork chainInfoProvider proposal then .ignore
  else
    let oldStatus :=
      match oldStatus with
      | some status => status
      -- the header is verified here, so at most once
      | none =>
          if verifyHeader proposal.topBlockHeader then .pending .pendingTopBlock
          else .pending .topBlockImportedButIncorrectBranch
    match oldStatus with
    | .pending .pendingTopBlock =>
        if chainInfoProvider.isBlockImported proposal.topBlock then
          if isBranchAncestryCorrect chainInfoProvider proposal then
            if isAncestorFinalized chainInfoProvider proposal then
              .finalize (proposal.blocksFromNum (currentHighestFinalized + 1))
            else .pending .topBlockImportedButNotFinalizedAncestor
          else .pending .topBlockImportedButIncorrectBranch
        else .pending .pendingTopBlock
    | .pending .topBlockImportedButNotFinalizedAncestor =>
        if isAncestorFinalized chainInfoProvider proposal then
          .finalize (proposal.blocksFromNum (currentHighestFinalized + 1))
        else .pending .topBlockImportedButNotFinalizedAncestor
    | .pending .topBlockImportedButIncorrectBranch => .pending .topBlockImportedButIncorrectBranch
    | status => status

variable {chainInfoProvider}

/-! ## The checks -/

theorem isHopelessFork_of_none {proposal : SetBFTProposal Hash}
    (hnone : chainInfoProvider.getFinalizedAt proposal.numberBottomBlock = none) :
    isHopelessFork chainInfoProvider proposal = false := by
  unfold isHopelessFork
  dsimp only
  cases proposal.blocksFromNum proposal.numberBottomBlock with
  | nil => rfl
  | cons id rest => simp [isHopelessForkFrom, hnone]

/-- A proposal above the finalised height that is no hopeless fork, whose top
block is imported with a correct branch and a finalised parent, is finalised
from any status it can have reached without a failed check. -/
theorem getProposalStatus_eq_finalize {verifyHeader : Header Hash → Bool} {proposal : SetBFTProposal Hash}
    {oldStatus : Option (ProposalStatus Hash)}
    (hnew : chainInfoProvider.getHighestFinalized.number < proposal.numberTopBlock)
    (hfork : isHopelessFork chainInfoProvider proposal = false)
    (himported : chainInfoProvider.isBlockImported proposal.topBlock = true)
    (hancestry : isBranchAncestryCorrect chainInfoProvider proposal = true)
    (hfinalized : isAncestorFinalized chainInfoProvider proposal = true)
    (hold : oldStatus = none ∧ verifyHeader proposal.topBlockHeader = true ∨
      oldStatus = some (.pending .pendingTopBlock) ∨
      oldStatus = some (.pending .topBlockImportedButNotFinalizedAncestor)) :
    getProposalStatus chainInfoProvider verifyHeader proposal oldStatus =
      .finalize (proposal.blocksFromNum (chainInfoProvider.getHighestFinalized.number + 1)) := by
  unfold getProposalStatus
  rw [if_neg (by omega), if_neg (by simp [hfork])]
  rcases hold with ⟨rfl, hverify⟩ | rfl | rfl <;> simp [*]

theorem IsChain.zip_tail {α : Type} {R : α → α → Prop} :
    ∀ {l : List α}, l.IsChain R → ∀ x ∈ l.zip l.tail, R x.1 x.2
  | [], _ => by simp
  | [_], _ => by simp
  | x :: y :: rest, h => by
      rw [List.isChain_cons_cons] at h
      intro pair hpair
      simp only [List.tail_cons, List.zip_cons_cons, List.mem_cons] at hpair
      rcases hpair with rfl | hpair
      · exact h.1
      · exact IsChain.zip_tail h.2 pair (by simpa using hpair)

/-! ## An honest branch

`B` is the branch of `proposal`, bottom up, and `finalizedBlock :: B` a chain of
parent links in `client`; `client'` holds the headers `client` does and has
finalised `finalizedBlock` and nothing above it. -/

section Honest

variable {client client' : ChainStatus Hash} {finalizedBlock : BlockId Hash}

omit [DecidableEq Hash] in
theorem getParentHash_of_getParent (hext : client.Extends client') {b p : BlockId Hash}
    (h : getParent client b = some p) :
    (substrateChainInfoProvider client').getParentHash b = some p.hash := by
  obtain ⟨header, hheader, hparent⟩ := getParent_eq_some h
  simp [substrateChainInfoProvider, hext.header hheader, hparent]

variable {proposal : SetBFTProposal Hash} {B : List (BlockId Hash)}
  (hext : client.Extends client')
  (hhash : B.map BlockId.hash = proposal.tail ++ [proposal.head.hash])
  (hnumber : B.map BlockId.number = List.range' proposal.numberBottomBlock B.length)
  (hchain : (finalizedBlock :: B).IsChain fun x y => getParent client y = some x)
include hext hhash hnumber hchain

theorem isBranchAncestryCorrect_of_chain :
    isBranchAncestryCorrect (substrateChainInfoProvider client') proposal = true := by
  unfold isBranchAncestryCorrect
  dsimp only
  have hbottom := SetBFTProposal.blocksFromNum_eq hhash hnumber 0
  rw [Nat.add_zero] at hbottom
  rw [hbottom, SetBFTProposal.blocksFromNum_eq hhash hnumber 1, List.drop_zero, List.drop_one,
    List.all_eq_true]
  intro pair hpair
  have hlink := IsChain.zip_tail (List.isChain_cons.mp hchain).2 pair hpair
  simp [getParentHash_of_getParent hext hlink]

theorem isAncestorFinalized_of_chain
    (hfinalized : (client'.headerOfFinalizedAt finalizedBlock.number).map Header.id = some finalizedBlock) :
    isAncestorFinalized (substrateChainInfoProvider client') proposal = true := by
  have hbottom := SetBFTProposal.head?_eq_bottomBlock hhash hnumber
  obtain ⟨rest, rfl⟩ : ∃ rest, B = proposal.bottomBlock :: rest := by
    cases B with
    | nil => cases hbottom
    | cons b rest => exact ⟨rest, by simpa using hbottom⟩
  have hparent : getParent client proposal.bottomBlock = some finalizedBlock :=
    (List.isChain_cons_cons.mp hchain).1
  have hbelow : proposal.numberBelowBranch = finalizedBlock.number := by
    have h₁ := getParent_number hparent
    have h₂ := proposal.numberBelowBranch_add
    have h₃ : proposal.bottomBlock.number = proposal.numberBottomBlock := by
      simpa [List.range'_succ] using congrArg List.head? hnumber
    omega
  unfold isAncestorFinalized
  simp only [getParentHash_of_getParent hext hparent, hbelow]
  simp [substrateChainInfoProvider, hfinalized]

theorem getProposalStatus_of_chain {verifyHeader : Header Hash → Bool} {oldStatus : Option (ProposalStatus Hash)}
    (htop : client'.topFinalizedId = finalizedBlock)
    (hfinalized : (client'.headerOfFinalizedAt finalizedBlock.number).map Header.id = some finalizedBlock)
    (habove : ∀ n, finalizedBlock.number < n → client'.headerOfFinalizedAt n = none)
    (himported : (client'.header proposal.topBlock).isSome)
    (hold : oldStatus = none ∧ verifyHeader proposal.topBlockHeader = true ∨
      oldStatus = some (.pending .pendingTopBlock) ∨
      oldStatus = some (.pending .topBlockImportedButNotFinalizedAncestor)) :
    getProposalStatus (substrateChainInfoProvider client') verifyHeader proposal oldStatus = .finalize B := by
  have hbottom : proposal.numberBottomBlock = finalizedBlock.number + 1 := by
    have hbottomBlock := SetBFTProposal.head?_eq_bottomBlock hhash hnumber
    cases B with
    | nil => cases hbottomBlock
    | cons b rest =>
        have h₁ := getParent_number (List.isChain_cons_cons.mp hchain).1
        have h₂ : b.number = proposal.numberBottomBlock := by
          simpa [List.range'_succ] using congrArg List.head? hnumber
        omega
  have hnew : (substrateChainInfoProvider client').getHighestFinalized.number < proposal.numberTopBlock := by
    have := proposal.numberBelowBranch_add
    simp only [substrateChainInfoProvider, htop, SetBFTProposal.numberTopBlock_eq]
    have := proposal.branch_le_top
    rw [SetBFTProposal.numberBottomBlock_eq] at hbottom
    omega
  have hfork : isHopelessFork (substrateChainInfoProvider client') proposal = false :=
    isHopelessFork_of_none (by simp [substrateChainInfoProvider, hbottom, habove])
  rw [getProposalStatus_eq_finalize hnew hfork (by simpa [substrateChainInfoProvider] using himported)
    (isBranchAncestryCorrect_of_chain hext hhash hnumber hchain)
    (isAncestorFinalized_of_chain hext hhash hnumber hchain hfinalized) hold]
  simp only [substrateChainInfoProvider, htop, ← hbottom]
  rw [← Nat.add_zero proposal.numberBottomBlock, SetBFTProposal.blocksFromNum_eq hhash hnumber 0,
    List.drop_zero]

end Honest

/-! ## Honest proposals -/

/-- A chain of ten blocks above the genesis block, each hashed by its number,
finalised up to the block at height 2. -/
def referenceChain : ChainStatus Nat where
  headerForHash hash := if hash ≤ 10 then some ⟨hash, hash, hash - 1⟩ else none
  headerOfFinalizedAt number := if number ≤ 2 then some ⟨number, number, number - 1⟩ else none
  topFinalizedId := ⟨2, 2⟩

theorem referenceChain_isBlockTree : referenceChain.IsBlockTree where
  hash_eq := by
    intro x h hx
    simp only [referenceChain] at hx
    split at hx
    · rw [← Option.some.inj hx]
    · cases hx
  parent_stored := by
    intro x h p hx hp
    simp only [referenceChain] at hx
    split at hx
    · obtain rfl := Option.some.inj hx
      obtain ⟨rfl, hpos⟩ := Header.parentId_eq_some hp
      simp only at hpos
      simp only [ChainStatus.header, referenceChain]
      rw [if_pos (by omega : x - 1 ≤ 10)]
      simp
    · cases hx

theorem honest_proposals_accepted (client : ChainStatus Hash) (htree : client.IsBlockTree)
    (bestBlock finalizedBlock : BlockId Hash) (hbest : (client.header bestBlock).isSome) :
    (getProposal client bestBlock finalizedBlock = some (.ok none) ↔ bestBlock = finalizedBlock) ∧
    (∀ l, Descends client bestBlock l finalizedBlock → l ≠ [] →
      ∃ d below, getProposal client bestBlock finalizedBlock = some (.ok (some d)) ∧
        (l.filter fun x => x.number ≤ finalizedBlock.number + maxDataBranchLen) =
          d.headProposal.head.id :: below ∧
        (d.headProposal.head.id :: below).map BlockId.number =
          (List.range' (finalizedBlock.number + 1)
            (min (bestBlock.number - finalizedBlock.number) maxDataBranchLen)).reverse ∧
        d.headProposal.tail = below.reverse.map BlockId.hash ∧
        client.header d.headProposal.head.id = some d.headProposal.head ∧
        ∀ sessionBoundaries : SessionBoundaries, sessionBoundaries.firstBlock ≤ finalizedBlock.number + 1 →
          d.headProposal.head.number ≤ sessionBoundaries.lastBlock →
          ∃ proposal, d.headProposal.validateBounds sessionBoundaries = .ok proposal ∧
            ∀ (client' : ChainStatus Hash) (verifyHeader : Header Hash → Bool)
              (oldStatus : Option (ProposalStatus Hash)),
              client.Extends client' → client'.topFinalizedId = finalizedBlock →
              (client'.headerOfFinalizedAt finalizedBlock.number).map Header.id = some finalizedBlock →
              (∀ n, finalizedBlock.number < n → client'.headerOfFinalizedAt n = none) →
              (oldStatus = none ∧ verifyHeader d.headProposal.head = true ∨
                oldStatus = some (.pending .pendingTopBlock) ∨
                oldStatus = some (.pending .topBlockImportedButNotFinalizedAncestor)) →
              getProposalStatus (substrateChainInfoProvider client') verifyHeader proposal oldStatus =
                .finalize (d.headProposal.head.id :: below).reverse) ∧
    ((¬∃ l, Descends client bestBlock l finalizedBlock) →
      getProposal client bestBlock finalizedBlock = some (.error .bestContradictsFinalized)) := by
  refine ⟨getProposal_eq_ok_none_iff htree hbest, fun l hd hl => ?_, getProposal_of_not_descends htree hbest⟩
  obtain ⟨d, below, hget, hsplit, htail, hhead⟩ := getProposal_of_descends htree hd hl
  have htop := descends_of_filter hd hsplit
  have hnumbers := htop.map_number
  have hlen := hd.number
  have hkept : below.length + 1 = min (bestBlock.number - finalizedBlock.number) maxDataBranchLen := by
    have := congrArg List.length hsplit
    rw [filter_descends hd rfl, List.length_drop, List.length_cons] at this
    omega
  have htopNumber : d.headProposal.head.number = finalizedBlock.number + below.length + 1 := by
    have := congrArg List.head? hnumbers
    rw [List.length_cons, List.range'_1_concat, List.reverse_append] at this
    simp only [List.map_cons, List.head?_cons, List.reverse_singleton, List.singleton_append,
      Option.some.injEq, Header.id_number] at this
    omega
  refine ⟨d, below, hget, ?_, by rw [hnumbers, List.length_cons, hkept], htail, hhead,
    fun sessionBoundaries hfirst hlast => ?_⟩
  · rw [← hsplit]
    exact List.filter_congr fun x _ => by simp only [decide_eq_decide]; omega
  · have hshort : below.length + 1 ≤ maxDataBranchLen := by omega
    obtain ⟨proposal, hvalid, hphead, hptail⟩ := d.headProposal.validateBounds_eq_ok
      (by rw [htail, List.length_map, List.length_reverse]; exact hshort)
      (by rw [htail, List.length_map, List.length_reverse]; omega)
      (by rw [htail, List.length_map, List.length_reverse]; omega) hlast
    refine ⟨proposal, hvalid, fun client' verifyHeader oldStatus hext htopFinalized hfinalized habove hold => ?_⟩
    have hhash : ((d.headProposal.head.id :: below).reverse).map BlockId.hash =
        proposal.tail ++ [proposal.head.hash] := by
      rw [hptail, hphead, htail]
      simp [List.map_reverse]
    have hbottom : proposal.numberBottomBlock = finalizedBlock.number + 1 := by
      rw [SetBFTProposal.numberBottomBlock_eq, hphead, hptail, htail, htopNumber]
      simp only [List.length_map, List.length_reverse]
      omega
    have hnumber : ((d.headProposal.head.id :: below).reverse).map BlockId.number =
        List.range' proposal.numberBottomBlock ((d.headProposal.head.id :: below).reverse).length := by
      rw [List.map_reverse, hnumbers, List.reverse_reverse, hbottom, List.length_reverse, List.length_cons]
    have hchain : (finalizedBlock :: (d.headProposal.head.id :: below).reverse).IsChain
        fun x y => getParent client y = some x := by
      have := List.isChain_reverse.mpr htop.isChain
      rwa [List.reverse_append, List.reverse_singleton, List.singleton_append] at this
    have himported : (client'.header proposal.topBlock).isSome := by
      simp [SetBFTProposal.topBlock, SetBFTProposal.topBlockHeader, hphead, hext.header hhead]
    exact getProposalStatus_of_chain hext hhash hnumber hchain htopFinalized hfinalized habove himported
      (by simpa only [SetBFTProposal.topBlockHeader, hphead] using hold)

/-- On the reference chain a proposer at height 10 with the block at height 2
finalised has something to propose. -/
theorem honest_proposals_accepted_reference :
    referenceChain.IsBlockTree ∧ (referenceChain.header ⟨10, 10⟩).isSome ∧
      getProposal referenceChain ⟨10, 10⟩ ⟨2, 2⟩ ≠ some (.ok none) :=
  ⟨referenceChain_isBlockTree, rfl,
    fun h => absurd ((honest_proposals_accepted referenceChain referenceChain_isBlockTree ⟨10, 10⟩ ⟨2, 2⟩ rfl).1.mp h)
      (by decide)⟩

end Setheum.Finality
