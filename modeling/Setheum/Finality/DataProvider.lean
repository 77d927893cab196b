import Mathlib
import Setheum.Finality.Proposal

/-!
# The proposal an honest node makes

`get_parent` and `get_proposal` of `data_io/data_provider.rs`. The proposer walks
down from its best block to the height of the highest finalised block, keeping
the blocks at most `MAX_DATA_BRANCH_LEN` above it, top first; the first it kept
becomes the head of the proposal and the others, reversed, its tail. A panic
(`expect` on a missing parent) is `none`.

The loop of the source runs while the current block is above the finalised
height. Each step lowers the height by one, since the client's header of an id
has the id's height; the model bounds the loop by that many steps, and
`collectBranch_of_descends` shows the bound is never reached.

A `Descends` path is the walk the loop makes: the blocks it visits from the best
block down, each the child of the next, and the block it stops at.
-/

namespace Setheum.Finality

inductive ProposalPreparationError where
  | missingHeader
  | bestContradictsFinalized
  deriving DecidableEq, Repr

variable {Hash : Type} (client : ChainStatus Hash)

def getParent (block : BlockId Hash) : Option (BlockId Hash) :=
  if block.number = 0 then none
  else
    match client.header block with
    | some header => header.parentId
    | none => none

/-- The loop of `get_proposal` from `currBlock`, with `branch` the blocks kept so
far, given `fuel` more steps; it returns the block it stops at and the branch. -/
def collectBranch (finalizedBlock : BlockId Hash) :
    Nat → BlockId Hash → List (BlockId Hash) → Option (BlockId Hash × List (BlockId Hash))
  | fuel, currBlock, branch =>
    if finalizedBlock.number < currBlock.number then
      let branch :=
        if currBlock.number - finalizedBlock.number ≤ maxDataBranchLen then branch ++ [currBlock] else branch
      match fuel, getParent client currBlock with
      | fuel + 1, some parent => collectBranch finalizedBlock fuel parent branch
      | _, _ => none
    else some (currBlock, branch)

def getProposal [DecidableEq Hash] (bestBlock finalizedBlock : BlockId Hash) :
    Option (Except ProposalPreparationError (Option (SetBFTData Hash))) := do
  let (currBlock, branch) ←
    collectBranch client finalizedBlock (bestBlock.number - finalizedBlock.number) bestBlock []
  if currBlock = finalizedBlock then
    match branch with
    | [] => pure (.ok none)
    | headId :: branch =>
        match client.header headId with
        | some head => pure (.ok (some ⟨⟨head, branch.reverse.map BlockId.hash⟩⟩))
        | none => pure (.error .missingHeader)
  else
    -- walking down from the best block reached a block conflicting with the finalised one
    pure (.error .bestContradictsFinalized)

/-- The walk from `b` visits the blocks `l`, `b` first, and stops at `a`. -/
inductive Descends : BlockId Hash → List (BlockId Hash) → BlockId Hash → Prop
  | here (b : BlockId Hash) : Descends b [] b
  | step {b p a : BlockId Hash} {l : List (BlockId Hash)} :
      getParent client b = some p → Descends p l a → Descends b (b :: l) a

variable {client}

/-! ## A step down -/

theorem getParent_eq_some {b p : BlockId Hash} (h : getParent client b = some p) :
    ∃ header, client.header b = some header ∧ header.parentId = some p := by
  unfold getParent at h
  split at h
  · cases h
  · split at h
    · exact ⟨_, ‹_›, h⟩
    · cases h

theorem getParent_number {b p : BlockId Hash} (h : getParent client b = some p) :
    p.number + 1 = b.number := by
  obtain ⟨header, hheader, hparent⟩ := getParent_eq_some h
  obtain ⟨rfl, hpos⟩ := Header.parentId_eq_some hparent
  have := ChainStatus.header_number hheader
  simp only
  omega

theorem exists_getParent (htree : client.IsBlockTree) {b : BlockId Hash} {header : Header Hash}
    (hb : client.header b = some header) (hpos : 0 < b.number) :
    ∃ p header', getParent client b = some p ∧ client.header p = some header' := by
  have hnumber := ChainStatus.header_number hb
  have hparent := Header.parentId_of_pos (h := header) (by omega)
  obtain ⟨header', hp⟩ := Option.isSome_iff_exists.mp
    (htree.parent_stored (ChainStatus.header_eq_some.mp hb).1 hparent)
  refine ⟨_, header', ?_, hp⟩
  simp only [getParent, if_neg (show b.number ≠ 0 by omega), hb, hparent]

/-! ## Paths down -/

theorem Descends.number {b a : BlockId Hash} {l : List (BlockId Hash)} (h : Descends client b l a) :
    b.number = a.number + l.length := by
  induction h with
  | here => rfl
  | step hp _ ih =>
      have := getParent_number hp
      simp only [List.length_cons]
      omega

theorem Descends.stored {b a : BlockId Hash} {l : List (BlockId Hash)} (h : Descends client b l a) :
    ∀ x ∈ l, (client.header x).isSome := by
  induction h with
  | here => simp
  | step hp _ ih =>
      intro x hx
      rcases List.mem_cons.mp hx with rfl | hx
      · obtain ⟨header, hheader, -⟩ := getParent_eq_some hp
        simp [hheader]
      · exact ih x hx

theorem Descends.map_number {b a : BlockId Hash} {l : List (BlockId Hash)} (h : Descends client b l a) :
    l.map BlockId.number = (List.range' (a.number + 1) l.length).reverse := by
  induction h with
  | here => rfl
  | @step b p a l hp hd ih =>
      have hb := hd.number
      have := getParent_number hp
      rw [List.map_cons, ih, List.length_cons, List.range'_1_concat, List.reverse_append]
      simp only [List.reverse_singleton, List.singleton_append, List.cons.injEq, and_true]
      omega

theorem exists_descends (htree : client.IsBlockTree) {b : BlockId Hash} (hb : (client.header b).isSome)
    {n : Nat} (hn : n ≤ b.number) : ∃ l a, Descends client b l a ∧ a.number = n := by
  -- induction on the height left to go down
  induction hk : b.number - n generalizing b with
  | zero => exact ⟨[], b, .here b, by omega⟩
  | succ k ih =>
      obtain ⟨header, hheader⟩ := Option.isSome_iff_exists.mp hb
      obtain ⟨p, header', hp, hp'⟩ := exists_getParent htree hheader (by omega)
      have hpnumber := getParent_number hp
      obtain ⟨l, a, hd, ha⟩ := ih (b := p) (by simp [hp']) (by omega) (by omega)
      exact ⟨b :: l, a, .step hp hd, ha⟩

/-! ## The loop -/

/-- Along a path down to the finalised height the loop keeps, after what it
already has, the blocks of the path at most `MAX_DATA_BRANCH_LEN` above that
height, and stops where the path does; the fuel it needs is the path's length. -/
theorem collectBranch_of_descends {finalizedBlock b a : BlockId Hash} {l : List (BlockId Hash)}
    (h : Descends client b l a) (ha : a.number = finalizedBlock.number) :
    ∀ (fuel : Nat) (branch : List (BlockId Hash)), l.length ≤ fuel →
      collectBranch client finalizedBlock fuel b branch =
        some (a, branch ++ l.filter fun x => x.number - finalizedBlock.number ≤ maxDataBranchLen) := by
  induction h with
  | here =>
      intro fuel branch _
      rw [collectBranch, if_neg (by omega)]
      simp
  | @step b p a l hp hd ih =>
      intro fuel branch hfuel
      obtain ⟨fuel, rfl⟩ : ∃ f, fuel = f + 1 := ⟨fuel - 1, by simp at hfuel; omega⟩
      have hb := (Descends.step hp hd).number
      simp only [List.length_cons] at hb hfuel
      rw [collectBranch, if_pos (by omega)]
      simp only [hp]
      rw [ih ha fuel _ (by omega), List.filter_cons]
      split <;> simp_all

theorem filter_descends {finalizedBlock b a : BlockId Hash} {l : List (BlockId Hash)}
    (h : Descends client b l a) (ha : a.number = finalizedBlock.number) :
    (l.filter fun x => x.number - finalizedBlock.number ≤ maxDataBranchLen) =
      l.drop (l.length - maxDataBranchLen) := by
  induction h with
  | here => rfl
  | @step b p a l hp hd ih =>
      have hb := (Descends.step hp hd).number
      simp only [List.length_cons] at hb
      rw [List.filter_cons, ih ha, List.length_cons]
      by_cases hlen : l.length + 1 ≤ maxDataBranchLen
      · rw [if_pos (by simp; omega), Nat.sub_eq_zero_of_le hlen, Nat.sub_eq_zero_of_le (by omega)]
        rfl
      · rw [if_neg (by simp; omega), show l.length + 1 - maxDataBranchLen =
          l.length - maxDataBranchLen + 1 by omega, List.drop_succ_cons]

theorem Descends.drop {b a : BlockId Hash} {l : List (BlockId Hash)} (h : Descends client b l a) :
    ∀ k, ∃ x, Descends client x (l.drop k) a := by
  induction h with
  | here b => exact fun _ => ⟨b, by simpa using Descends.here b⟩
  | @step b p a l hp hd ih =>
      intro k
      cases k with
      | zero => exact ⟨b, .step hp hd⟩
      | succ k => exact ih k

theorem Descends.start {b x a : BlockId Hash} {l : List (BlockId Hash)} (h : Descends client b (x :: l) a) :
    b = x := by
  cases h
  rfl

theorem Descends.isChain {b a : BlockId Hash} {l : List (BlockId Hash)} (h : Descends client b l a) :
    (l ++ [a]).IsChain fun x y => getParent client x = some y := by
  induction h with
  | here b => exact List.isChain_singleton b
  | @step b p a l hp hd ih =>
      refine List.IsChain.cons ih fun y hy => ?_
      have hstart : (l ++ [a]).head? = some p := by
        cases l with
        | nil => cases hd; rfl
        | cons x l => rw [hd.start]; rfl
      change y ∈ (l ++ [a]).head? at hy
      rw [hstart, Option.mem_def, Option.some.injEq] at hy
      rwa [← hy]

theorem descends_of_filter {finalizedBlock b headId : BlockId Hash} {l below : List (BlockId Hash)}
    (h : Descends client b l finalizedBlock)
    (hsplit : (l.filter fun x => x.number - finalizedBlock.number ≤ maxDataBranchLen) = headId :: below) :
    Descends client headId (headId :: below) finalizedBlock := by
  rw [filter_descends h rfl] at hsplit
  obtain ⟨x, hx⟩ := h.drop (l.length - maxDataBranchLen)
  rw [hsplit] at hx
  obtain rfl := hx.start
  exact hx

/-! ## What `get_proposal` answers -/

variable {bestBlock finalizedBlock : BlockId Hash}

theorem collectBranch_of_lt (hlt : bestBlock.number < finalizedBlock.number) :
    collectBranch client finalizedBlock (bestBlock.number - finalizedBlock.number) bestBlock [] =
      some (bestBlock, []) := by
  rw [collectBranch, if_neg (by omega)]

theorem exists_collectBranch (htree : client.IsBlockTree) (hbest : (client.header bestBlock).isSome)
    (hle : finalizedBlock.number ≤ bestBlock.number) :
    ∃ l a, Descends client bestBlock l a ∧ a.number = finalizedBlock.number ∧
      collectBranch client finalizedBlock (bestBlock.number - finalizedBlock.number) bestBlock [] =
        some (a, l.filter fun x => x.number - finalizedBlock.number ≤ maxDataBranchLen) := by
  obtain ⟨l, a, hd, ha⟩ := exists_descends htree hbest hle
  have hlen := hd.number
  refine ⟨l, a, hd, ha, ?_⟩
  rw [collectBranch_of_descends hd ha _ [] (by omega), List.nil_append]

theorem filter_ne_nil {b a : BlockId Hash} {l : List (BlockId Hash)} (h : Descends client b l a)
    (ha : a.number = finalizedBlock.number) (hl : l ≠ []) :
    (l.filter fun x => x.number - finalizedBlock.number ≤ maxDataBranchLen) ≠ [] := by
  rw [filter_descends h ha]
  have : 0 < l.length := List.length_pos_iff.mpr hl
  simp only [ne_eq, List.drop_eq_nil_iff, Nat.not_le, maxDataBranchLen]
  omega

theorem getProposal_eq_ok_none_iff [DecidableEq Hash] (htree : client.IsBlockTree) (hbest : (client.header bestBlock).isSome) :
    getProposal client bestBlock finalizedBlock = some (.ok none) ↔ bestBlock = finalizedBlock := by
  by_cases hle : finalizedBlock.number ≤ bestBlock.number
  · obtain ⟨l, a, hd, ha, hcollect⟩ := exists_collectBranch htree hbest hle
    simp only [getProposal, hcollect, Option.bind_eq_bind, Option.bind_some]
    cases l with
    | nil =>
        cases hd
        by_cases heq : bestBlock = finalizedBlock <;> simp [heq]
    | cons x l =>
        have hne := filter_ne_nil hd ha (List.cons_ne_nil x l)
        have hnumber := hd.number
        obtain ⟨headId, rest, hsplit⟩ := List.exists_cons_of_ne_nil hne
        have hbest_ne : bestBlock ≠ finalizedBlock := fun heq => by
          rw [heq, List.length_cons] at hnumber
          omega
        simp only [hsplit, hbest_ne, iff_false]
        split <;> simp
        split <;> simp
  · rw [Nat.not_le] at hle
    have hbest_ne : bestBlock ≠ finalizedBlock := fun heq => by rw [heq] at hle; omega
    simp [getProposal, collectBranch_of_lt hle, hbest_ne]

/-- A best block that descends from the finalised one gives the blocks of the
walk at most `MAX_DATA_BRANCH_LEN` above it: the highest as the head, the others
bottom up as the tail. -/
theorem getProposal_of_descends [DecidableEq Hash] (htree : client.IsBlockTree) {l : List (BlockId Hash)}
    (hd : Descends client bestBlock l finalizedBlock) (hl : l ≠ []) :
    ∃ d below, getProposal client bestBlock finalizedBlock = some (.ok (some d)) ∧
      (l.filter fun x => x.number - finalizedBlock.number ≤ maxDataBranchLen) = d.headProposal.head.id :: below ∧
      d.headProposal.tail = below.reverse.map BlockId.hash ∧
      client.header d.headProposal.head.id = some d.headProposal.head := by
  have hnumber := hd.number
  have hcollect := collectBranch_of_descends hd rfl (bestBlock.number - finalizedBlock.number) [] (by omega)
  obtain ⟨headId, below, hsplit⟩ := List.exists_cons_of_ne_nil (filter_ne_nil hd rfl hl)
  have hmem : headId ∈ l := List.mem_of_mem_filter (hsplit ▸ List.mem_cons_self)
  obtain ⟨head, hhead⟩ := Option.isSome_iff_exists.mp (hd.stored headId hmem)
  have hid := htree.header_id hhead
  refine ⟨⟨⟨head, below.reverse.map BlockId.hash⟩⟩, below, ?_, by rw [hsplit, hid], rfl, by rw [hid, hhead]⟩
  simp only [getProposal, hcollect, List.nil_append, hsplit]
  simp [hhead]

theorem getProposal_of_not_descends [DecidableEq Hash] (htree : client.IsBlockTree) (hbest : (client.header bestBlock).isSome)
    (hnot : ¬∃ l, Descends client bestBlock l finalizedBlock) :
    getProposal client bestBlock finalizedBlock = some (.error .bestContradictsFinalized) := by
  by_cases hle : finalizedBlock.number ≤ bestBlock.number
  · obtain ⟨l, a, hd, ha, hcollect⟩ := exists_collectBranch htree hbest hle
    have hne : a ≠ finalizedBlock := fun heq => hnot ⟨l, heq ▸ hd⟩
    simp [getProposal, hcollect, hne]
  · have hne : bestBlock ≠ finalizedBlock := fun heq => hnot ⟨[], heq ▸ .here bestBlock⟩
    simp [getProposal, collectBranch_of_lt (Nat.lt_of_not_le hle), hne]

end Setheum.Finality
