import Setheum.Finality.Chain

/-!
# Proposals of blocks to finalise

`UnvalidatedSetBFTProposal` as it comes from another node, `validate_bounds`,
which turns it into a `SetBFTProposal` whose numbers cannot underflow, and the
branch a validated proposal stands for (`data_io/proposal.rs`). The branch is
the tail's hashes bottom up, then the head, at consecutive heights ending at the
head's number. `block_at_num` gives the block of the branch at a height and
`blocks_from_num` the blocks from a height up; both read the branch as the tail's
hashes followed by the head's, indexed from the bottom.
-/

namespace Setheum.Finality

/-- `MAX_DATA_BRANCH_LEN`. -/
def maxDataBranchLen : Nat := 7

structure SessionBoundaries where
  firstBlock : Nat
  lastBlock : Nat
  deriving DecidableEq, Repr

structure UnvalidatedSetBFTProposal (Hash : Type) where
  head : Header Hash
  tail : List Hash
  deriving DecidableEq, Repr

/-- `SetBFTData`: the data the consensus orders. -/
structure SetBFTData (Hash : Type) where
  headProposal : UnvalidatedSetBFTProposal Hash
  deriving DecidableEq, Repr

inductive ValidationError where
  | branchTooLong (branchSize : Nat)
  | blockNumberOutOfBounds (branchSize blockNumber : Nat)
  | blockOutsideSessionBoundaries (sessionStart sessionEnd topBlock bottomBlock : Nat)
  deriving DecidableEq, Repr

/-- A proposal that passed `validate_bounds`: its branch is not too long and
starts above the genesis block. -/
structure SetBFTProposal (Hash : Type) where
  head : Header Hash
  tail : List Hash
  branch_le : tail.length + 1 ≤ maxDataBranchLen
  branch_le_top : tail.length + 1 ≤ head.number

theorem BlockId.zipIdx_map_hash {Hash : Type} {B : List (BlockId Hash)} {n : Nat}
    (hnumber : B.map BlockId.number = List.range' n B.length) :
    (B.map BlockId.hash).zipIdx.map (fun (hash, index) => (⟨hash, n + index⟩ : BlockId Hash)) = B := by
  refine List.ext_getElem (by simp) fun i h₁ h₂ => ?_
  have hi : B[i].number = n + i := by
    have := List.getElem_of_eq hnumber (by simpa using h₂)
    rw [List.getElem_map, List.getElem_range'] at this
    simpa using this
  simp only [List.getElem_map, List.getElem_zipIdx, Nat.zero_add]
  rw [← hi]

namespace UnvalidatedSetBFTProposal

variable {Hash : Type} (p : UnvalidatedSetBFTProposal Hash)

def topBlock : BlockId Hash := p.head.id

def topNumber : Nat := p.topBlock.number

def branchLen : Nat := p.tail.length + 1

def validateBounds (sessionBoundaries : SessionBoundaries) : Except ValidationError (SetBFTProposal Hash) :=
  if hlen : p.branchLen > maxDataBranchLen then .error (.branchTooLong p.branchLen)
  -- this also excludes branches starting at the genesis block
  else if htop : p.topNumber < p.branchLen then .error (.blockNumberOutOfBounds p.branchLen p.topNumber)
  else
    let bottomBlock := p.topNumber - (p.branchLen - 1)
    let topBlock := p.topNumber
    let sessionStart := sessionBoundaries.firstBlock
    let sessionEnd := sessionBoundaries.lastBlock
    if sessionStart > bottomBlock ∨ topBlock > sessionEnd then
      .error (.blockOutsideSessionBoundaries sessionStart sessionEnd topBlock bottomBlock)
    else .ok ⟨p.head, p.tail, Nat.le_of_not_lt hlen, Nat.le_of_not_lt htop⟩

theorem validateBounds_eq_ok {sessionBoundaries : SessionBoundaries}
    (hlen : p.tail.length + 1 ≤ maxDataBranchLen) (htop : p.tail.length + 1 ≤ p.head.number)
    (hstart : sessionBoundaries.firstBlock ≤ p.head.number - p.tail.length)
    (hend : p.head.number ≤ sessionBoundaries.lastBlock) :
    ∃ q, p.validateBounds sessionBoundaries = .ok q ∧ q.head = p.head ∧ q.tail = p.tail := by
  have hnumber : p.topNumber = p.head.number := rfl
  have hshort : ¬p.branchLen > maxDataBranchLen := by
    simp only [branchLen]
    omega
  have habove : ¬p.topNumber < p.branchLen := by
    simp only [hnumber, branchLen]
    omega
  have hsession : ¬(sessionBoundaries.firstBlock > p.topNumber - (p.branchLen - 1) ∨
      p.topNumber > sessionBoundaries.lastBlock) := by
    simp only [hnumber, branchLen, Nat.add_sub_cancel]
    omega
  refine ⟨⟨p.head, p.tail, hlen, htop⟩, ?_, rfl, rfl⟩
  unfold validateBounds
  rw [dif_neg hshort, dif_neg habove]
  exact if_neg hsession

theorem validateBounds_ok {sessionBoundaries : SessionBoundaries} {q : SetBFTProposal Hash}
    (h : p.validateBounds sessionBoundaries = .ok q) :
    (p.tail.length + 1 ≤ maxDataBranchLen ∧ p.tail.length + 1 ≤ p.head.number ∧
      sessionBoundaries.firstBlock ≤ p.head.number - p.tail.length ∧ p.head.number ≤ sessionBoundaries.lastBlock) ∧
      q.head = p.head ∧ q.tail = p.tail := by
  unfold validateBounds at h
  dsimp only at h
  split_ifs at h with hlen htop hsession
  cases h
  simp only [branchLen, topNumber, topBlock, Header.id_number, gt_iff_lt, Nat.not_lt, not_or, Nat.add_sub_cancel]
    at hlen htop hsession
  exact ⟨⟨hlen, htop, hsession.1, hsession.2⟩, rfl, rfl⟩

end UnvalidatedSetBFTProposal

namespace SetBFTProposal

variable {Hash : Type} (p : SetBFTProposal Hash)

def len : Nat := p.tail.length + 1

def topBlockHeader : Header Hash := p.head

def topBlock : BlockId Hash := p.topBlockHeader.id

def numberTopBlock : Nat := p.topBlock.number

def numberBottomBlock : Nat := p.numberTopBlock - (p.len - 1)

def numberBelowBranch : Nat := p.numberTopBlock - p.len

def bottomBlock : BlockId Hash :=
  match p.tail.head? with
  | some hash => ⟨hash, p.numberBottomBlock⟩
  | none => p.topBlock

/-- `blocks_from_num`: the branch from the height `num` up, all of it if `num`
is below it. -/
def blocksFromNum (num : Nat) : List (BlockId Hash) :=
  let num := max num p.numberBottomBlock
  ((p.tail ++ [p.head.id.hash]).drop (num - p.numberBottomBlock)).zipIdx.map
    fun (hash, index) => ⟨hash, num + index⟩

@[simp] theorem numberTopBlock_eq : p.numberTopBlock = p.head.number := rfl

theorem numberBottomBlock_eq : p.numberBottomBlock = p.head.number - p.tail.length := by
  simp only [numberBottomBlock, numberTopBlock_eq, len, Nat.add_sub_cancel]

theorem numberBelowBranch_add : p.numberBelowBranch + 1 = p.numberBottomBlock := by
  have := p.branch_le_top
  simp only [numberBelowBranch, numberBottomBlock_eq, numberTopBlock_eq, len]
  omega

theorem index_lt {num : Nat} (h : p.numberBottomBlock ≤ num ∧ num < p.numberTopBlock) :
    num - p.numberBottomBlock < p.tail.length := by
  have := p.branch_le_top
  rw [numberBottomBlock_eq, numberTopBlock_eq] at *
  omega

/-- `block_at_num`: the top block at the top, a block of the tail from the
bottom up to below the top, else nothing. -/
def blockAtNum (num : Nat) : Option (BlockId Hash) :=
  if num = p.numberTopBlock then some p.topBlock
  else if h : p.numberBottomBlock ≤ num ∧ num < p.numberTopBlock then
    some ⟨p.tail.get ⟨num - p.numberBottomBlock, p.index_lt h⟩, num⟩
  else none

theorem blockAtNum_eq (num : Nat) :
    p.blockAtNum num =
      if p.numberBottomBlock ≤ num then
        ((p.tail ++ [p.head.hash])[num - p.numberBottomBlock]?).map fun hash => ⟨hash, num⟩
      else none := by
  have hle := p.branch_le_top
  have hbottom := p.numberBottomBlock_eq
  unfold blockAtNum
  by_cases htop : num = p.numberTopBlock
  · -- the top is `tail.length` above the bottom, where the head's hash is
    have hindex : num - p.numberBottomBlock = p.tail.length := by
      rw [htop, hbottom, numberTopBlock_eq]
      omega
    rw [if_pos htop, if_pos (by rw [htop, hbottom, numberTopBlock_eq]; omega), hindex,
      List.getElem?_concat_length, Option.map_some]
    simp only [topBlock, topBlockHeader, Header.id, htop, numberTopBlock_eq]
  · rw [if_neg htop]
    by_cases hin : p.numberBottomBlock ≤ num ∧ num < p.numberTopBlock
    · rw [dif_pos hin, if_pos hin.1, List.getElem?_append_left (p.index_lt hin), List.getElem?_eq_getElem (p.index_lt hin)]
      rfl
    · rw [dif_neg hin]
      split_ifs with hfrom
      · -- above the top the index runs past the branch
        have hpast : (p.tail ++ [p.head.hash]).length ≤ num - p.numberBottomBlock := by
          rw [numberTopBlock_eq] at htop hin
          simp only [List.length_append, List.length_singleton]
          rw [hbottom] at hfrom hin ⊢
          omega
        rw [List.getElem?_eq_none hpast, Option.map_none]
      · rfl

theorem blocksFromNum_map_some (num : Nat) :
    (p.blocksFromNum num).map some =
      (List.range' (max num p.numberBottomBlock) (p.numberTopBlock + 1 - max num p.numberBottomBlock)).map
        p.blockAtNum := by
  have hle := p.branch_le_top
  have hbottom := p.numberBottomBlock_eq
  have hlength : (p.tail ++ [p.head.hash]).length = p.numberTopBlock + 1 - p.numberBottomBlock := by
    simp only [List.length_append, List.length_singleton, hbottom, numberTopBlock_eq]
    omega
  apply List.ext_getElem
  · simp only [blocksFromNum, List.length_map, List.length_zipIdx, List.length_drop, Header.id_hash, hlength,
      List.length_range']
    omega
  · intro i hi _
    simp only [List.length_map, blocksFromNum, List.length_zipIdx, List.length_drop, Header.id_hash,
      hlength] at hi
    have hfrom : p.numberBottomBlock ≤ max num p.numberBottomBlock + i := by omega
    have hindex : max num p.numberBottomBlock + i - p.numberBottomBlock =
        max num p.numberBottomBlock - p.numberBottomBlock + i := by omega
    have hbound : max num p.numberBottomBlock - p.numberBottomBlock + i < (p.tail ++ [p.head.hash]).length := by
      rw [hlength]
      omega
    simp only [List.getElem_map, List.getElem_range', Nat.one_mul, blockAtNum_eq, if_pos hfrom, hindex,
      blocksFromNum, List.getElem_zipIdx, Nat.zero_add, List.getElem_drop, Header.id_hash]
    rw [List.getElem?_eq_getElem hbound, Option.map_some]

theorem blockAtNum_isSome_iff (num : Nat) :
    (p.blockAtNum num).isSome ↔ p.numberBottomBlock ≤ num ∧ num ≤ p.numberTopBlock := by
  have hle := p.branch_le_top
  have hbottom := p.numberBottomBlock_eq
  rw [blockAtNum_eq]
  split_ifs with hfrom
  · rw [Option.isSome_map, isSome_getElem?, List.length_append, List.length_singleton]
    rw [numberTopBlock_eq]
    omega
  · simp only [Option.isSome_none, Bool.false_eq_true, false_iff, not_and]
    exact fun h => absurd h hfrom

theorem numbers_add_len : p.numberBelowBranch + p.len = p.numberTopBlock ∧
    p.numberBottomBlock + (p.len - 1) = p.numberTopBlock := by
  have hle := p.branch_le_top
  simp only [numberBelowBranch, numberBottomBlock, len, numberTopBlock_eq, Nat.add_sub_cancel]
  omega

section Branch

/-! A list `B` of blocks is the branch of the proposal when it has the tail's
hashes and then the head's, at consecutive heights from the bottom. -/

variable {p} {B : List (BlockId Hash)} (hhash : B.map BlockId.hash = p.tail ++ [p.head.hash])
  (hnumber : B.map BlockId.number = List.range' p.numberBottomBlock B.length)
include hhash hnumber

theorem blocksFromNum_eq (k : Nat) : p.blocksFromNum (p.numberBottomBlock + k) = B.drop k := by
  have hmax : max (p.numberBottomBlock + k) p.numberBottomBlock = p.numberBottomBlock + k := by omega
  simp only [blocksFromNum, hmax, Nat.add_sub_cancel_left, Header.id_hash, ← hhash, ← List.map_drop]
  apply BlockId.zipIdx_map_hash
  rw [List.map_drop, hnumber, List.drop_range', List.length_drop]
  simp

theorem head?_eq_bottomBlock : B.head? = some p.bottomBlock := by
  cases B with
  | nil => simp at hhash
  | cons b B =>
      have hb : b.number = p.numberBottomBlock := by
        simpa [List.range'_succ] using congrArg List.head? hnumber
      unfold bottomBlock
      cases htail : p.tail with
      | nil =>
          rw [htail] at hhash
          simp only [List.map_cons, List.nil_append, List.cons.injEq, List.map_eq_nil_iff] at hhash
          have hbottom := numberBottomBlock_eq p
          rw [htail, List.length_nil, Nat.sub_zero] at hbottom
          simp only [List.head?_nil, List.head?_cons, topBlock, topBlockHeader, Option.some.injEq]
          simp only [Header.id, ← hhash.1, ← hbottom, ← hb]
      | cons t ts =>
          rw [htail] at hhash
          simp only [List.map_cons, List.cons_append, List.cons.injEq] at hhash
          simp only [List.head?_cons, Option.some.injEq]
          rw [← hhash.1, ← hb]

end Branch

end SetBFTProposal

theorem proposal_arithmetic_exact {Hash : Type} :
    (∀ (p : UnvalidatedSetBFTProposal Hash) (sessionBoundaries : SessionBoundaries),
      (∃ q, p.validateBounds sessionBoundaries = .ok q) ↔
        p.tail.length + 1 ≤ maxDataBranchLen ∧ p.tail.length + 1 ≤ p.head.number ∧
          sessionBoundaries.firstBlock ≤ p.head.number - p.tail.length ∧
          p.head.number ≤ sessionBoundaries.lastBlock) ∧
    (∀ (p : UnvalidatedSetBFTProposal Hash) (sessionBoundaries : SessionBoundaries) (q : SetBFTProposal Hash),
      p.validateBounds sessionBoundaries = .ok q →
        q.head = p.head ∧ q.tail = p.tail ∧
        q.numberBelowBranch + q.len = q.numberTopBlock ∧ q.numberBottomBlock + (q.len - 1) = q.numberTopBlock ∧
        (∀ num, (q.blockAtNum num).isSome ↔ q.numberBottomBlock ≤ num ∧ num ≤ q.numberTopBlock) ∧
        (∀ num, q.blockAtNum num =
          if q.numberBottomBlock ≤ num then
            ((q.tail ++ [q.head.hash])[num - q.numberBottomBlock]?).map fun hash => ⟨hash, num⟩
          else none) ∧
        (∀ num, (q.blocksFromNum num).map some =
          (List.range' (max num q.numberBottomBlock) (q.numberTopBlock + 1 - max num q.numberBottomBlock)).map
            q.blockAtNum)) := by
  refine ⟨fun p sessionBoundaries => ⟨fun ⟨q, h⟩ => (p.validateBounds_ok h).1, ?_⟩, ?_⟩
  · rintro ⟨hlen, htop, hstart, hend⟩
    obtain ⟨q, hq, -, -⟩ := p.validateBounds_eq_ok hlen htop hstart hend
    exact ⟨q, hq⟩
  · intro p sessionBoundaries q h
    obtain ⟨-, hhead, htail⟩ := p.validateBounds_ok h
    exact ⟨hhead, htail, q.numbers_add_len.1, q.numbers_add_len.2, q.blockAtNum_isSome_iff, q.blockAtNum_eq,
      q.blocksFromNum_map_some⟩

/-- A branch of three blocks ending at height 5, inside a session of blocks 1 to 10. -/
theorem three_block_branch_accepted :
    ∃ q, (⟨⟨10, 5, 9⟩, [7, 8]⟩ : UnvalidatedSetBFTProposal Nat).validateBounds ⟨1, 10⟩ = .ok q :=
  (proposal_arithmetic_exact.1 ⟨⟨10, 5, 9⟩, [7, 8]⟩ ⟨1, 10⟩).mpr ⟨by decide, by decide, by decide, by decide⟩

inductive PendingProposalStatus where
  | pendingTopBlock
  | topBlockImportedButIncorrectBranch
  | topBlockImportedButNotFinalizedAncestor
  deriving DecidableEq, Repr

inductive ProposalStatus (Hash : Type) where
  | finalize (blocks : List (BlockId Hash))
  | ignore
  | pending (status : PendingProposalStatus)
  deriving DecidableEq, Repr

end Setheum.Finality
