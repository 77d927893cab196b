import Mathlib

/-!
# Blocks, headers and what the finality gadget reads of the client

`BlockId` and the substrate `Header` of the finality gadget (`block/mod.rs`,
`block/substrate/mod.rs`), the client's `SubstrateChainStatus` as far as the
data provider and the status provider read it, and `ChainInfoProvider` with its
substrate implementation (`data_io/chain_info.rs`).

A header's parent id is its parent hash one height below (`parent_id`, with
`checked_sub`). The client answers `header(id)` with the header stored under the
id's hash only if it has the id's number; a mismatch is the client's
`MismatchedId` error, and every caller modelled here treats an error of the
client as a missing header. Block numbers are naturals: nothing here comes near
`u32::MAX`. The caching chain info provider only memoises the substrate one and
is not modelled.
-/

namespace Setheum.Finality

structure BlockId (Hash : Type) where
  hash : Hash
  number : Nat
  deriving DecidableEq, Repr

structure Header (Hash : Type) where
  hash : Hash
  number : Nat
  parentHash : Hash
  deriving DecidableEq, Repr

namespace Header

variable {Hash : Type} (h : Header Hash)

def id : BlockId Hash := ⟨h.hash, h.number⟩

def parentId : Option (BlockId Hash) :=
  if h.number = 0 then none else some ⟨h.parentHash, h.number - 1⟩

@[simp] theorem id_number : h.id.number = h.number := rfl

@[simp] theorem id_hash : h.id.hash = h.hash := rfl

variable {h}

theorem parentId_eq_some {p : BlockId Hash} (hp : h.parentId = some p) :
    p = ⟨h.parentHash, h.number - 1⟩ ∧ 0 < h.number := by
  unfold parentId at hp
  split at hp
  · cases hp
  · exact ⟨(Option.some.inj hp).symm, by omega⟩

theorem parentId_of_pos (hpos : 0 < h.number) : h.parentId = some ⟨h.parentHash, h.number - 1⟩ :=
  if_neg (by omega)

end Header

/-- What the gadget reads of the client: the header stored under a hash
(`header_for_hash`), the finalised header at a height (`header_of_finalized_at`)
and the highest finalised block (`top_finalized_id`). -/
structure ChainStatus (Hash : Type) where
  headerForHash : Hash → Option (Header Hash)
  headerOfFinalizedAt : Nat → Option (Header Hash)
  topFinalizedId : BlockId Hash

namespace ChainStatus

variable {Hash : Type} (c : ChainStatus Hash)

/-- `SubstrateChainStatus::header`. -/
def header (id : BlockId Hash) : Option (Header Hash) :=
  match c.headerForHash id.hash with
  | some header => if header.number = id.number then some header else none
  | none => none

/-- The stored headers form a block tree: each is stored under its own hash, and
the parent id of each resolves to a stored header. -/
structure IsBlockTree : Prop where
  hash_eq : ∀ {x h}, c.headerForHash x = some h → h.hash = x
  parent_stored : ∀ {x h p}, c.headerForHash x = some h → h.parentId = some p → (c.header p).isSome

variable {c}

theorem header_eq_some {id : BlockId Hash} {h : Header Hash} :
    c.header id = some h ↔ c.headerForHash id.hash = some h ∧ h.number = id.number := by
  unfold header
  cases hx : c.headerForHash id.hash with
  | none => simp
  | some h' =>
      by_cases hn : h'.number = id.number
      · simp only [hn, if_true, Option.some.injEq]
        exact ⟨fun e => ⟨e, e ▸ hn⟩, fun e => e.1⟩
      · simp only [hn, if_false, reduceCtorEq, Option.some.injEq, false_iff, not_and]
        rintro rfl
        exact hn

theorem header_number {id : BlockId Hash} {h : Header Hash} (hh : c.header id = some h) :
    h.number = id.number :=
  (header_eq_some.mp hh).2

theorem IsBlockTree.header_id (htree : c.IsBlockTree) {id : BlockId Hash} {h : Header Hash}
    (hh : c.header id = some h) : h.id = id := by
  obtain ⟨hx, hn⟩ := header_eq_some.mp hh
  have hhash := htree.hash_eq hx
  cases id
  simp only [Header.id, BlockId.mk.injEq]
  exact ⟨hhash, hn⟩

/-- Another client holds every header this one does. -/
def Extends (c' : ChainStatus Hash) : Prop :=
  ∀ x h, c.headerForHash x = some h → c'.headerForHash x = some h

theorem Extends.header {c' : ChainStatus Hash} (hext : c.Extends c') {id : BlockId Hash}
    {h : Header Hash} (hh : c.header id = some h) : c'.header id = some h := by
  obtain ⟨hx, hn⟩ := header_eq_some.mp hh
  exact header_eq_some.mpr ⟨hext _ _ hx, hn⟩

end ChainStatus

/-- `ChainInfoProvider`: what the status provider asks of the chain. -/
structure ChainInfoProvider (Hash : Type) where
  isBlockImported : BlockId Hash → Bool
  getFinalizedAt : Nat → Option (BlockId Hash)
  getParentHash : BlockId Hash → Option Hash
  getHighestFinalized : BlockId Hash

/-- `SubstrateChainInfoProvider::new(client)`. -/
def substrateChainInfoProvider {Hash : Type} (client : ChainStatus Hash) : ChainInfoProvider Hash where
  isBlockImported block := (client.header block).isSome
  getFinalizedAt number := (client.headerOfFinalizedAt number).map Header.id
  getParentHash block := (client.header block).bind fun header => header.parentId.map BlockId.hash
  getHighestFinalized := client.topFinalizedId

end Setheum.Finality
