import Setheum.Lib.Alignment

/-!
# The bump allocator of the contract runtime

`BumpAllocator` and `InnerAlloc` of `crates/allocator/src/bump.rs` on wasm32.
Addresses have `bits` bits: `+` and `*` wrap, since contract builds turn
overflow checks off, and the checked operations fail from `2^bits` on. The
linear memory is a number of 64 KiB pages; `memory.grow` extends it by the
pages asked for and returns the previous size, or fails once it would pass
`maxPages`. The heap starts at `__heap_base`, `heapStart`. Blocks are never
freed, and `alloc_zeroed` is `alloc`.

Over any run whose layouts are aligned to at most a page, on a memory that
stays below the end of the address space, every block handed out is aligned,
lies between the heap start and the heap's upper limit, and starts where the
blocks before it ended or later, so no two overlap (`allocAll_safe`). A layout
aligned to more than a page is not respected once the block needs new memory:
the allocator then returns the start of the new pages as it is.
-/

namespace Setheum.Allocator

open Alignment

/-- `PAGE_SIZE`. -/
def pageSize : Nat := 64 * 1024

structure Layout where
  size : Nat
  align : Nat
  align_pow : ∃ k, align = 2 ^ k

structure InnerAlloc where
  next : Nat
  upperLimit : Nat
  deriving DecidableEq, Repr

/-- The allocator with the size of the wasm memory, in pages. -/
structure Heap where
  inner : InnerAlloc
  pages : Nat
  deriving DecidableEq, Repr

section Model

variable (bits maxPages : Nat)

def checkedAdd (a b : Nat) : Option Nat := if a + b < 2 ^ bits then some (a + b) else none

def checkedMul (a b : Nat) : Option Nat := if a * b < 2 ^ bits then some (a * b) else none

def requiredPages (size : Nat) : Option Nat :=
  (checkedAdd bits size (pageSize - 1)).map (· / pageSize)

/-- `InnerAlloc::new`: the heap from `__heap_base` to the end of the memory. -/
def InnerAlloc.new (heapStart pages : Nat) : InnerAlloc := ⟨heapStart, pages * pageSize % 2 ^ bits⟩

def InnerAlloc.alignPtr (self : InnerAlloc) (layout : Layout) : Nat :=
  ((self.next + layout.align - 1) % 2 ^ bits) &&& (2 ^ bits - 1 - (layout.align - 1))

/-- `request_pages` through `memory.grow`: the start of the new pages and the
size of the memory after. -/
def requestPages (memoryPages pages : Nat) : Option Nat × Nat :=
  if memoryPages + pages ≤ maxPages then (some (memoryPages * pageSize % 2 ^ bits), memoryPages + pages)
  else (none, memoryPages)

/-- `InnerAlloc::alloc` on a memory of `pages` pages. A failure after the memory
grew keeps what was already written. -/
def InnerAlloc.alloc (self : InnerAlloc) (pages : Nat) (layout : Layout) : Option Nat × Heap :=
  let allocStart := self.alignPtr bits layout
  let alignedSize := layout.size
  match checkedAdd bits allocStart alignedSize with
  | none => (none, ⟨self, pages⟩)
  | some allocEnd =>
      if allocEnd > self.upperLimit then
        match requiredPages bits alignedSize with
        | none => (none, ⟨self, pages⟩)
        | some required =>
            match requestPages bits maxPages pages required with
            | (none, pages) => (none, ⟨self, pages⟩)
            | (some pageStart, pages) =>
                match (checkedMul bits required pageSize).bind (checkedAdd bits pageStart) with
                | none => (none, ⟨self, pages⟩)
                | some upperLimit =>
                    let self := { self with upperLimit }
                    match checkedAdd bits pageStart alignedSize with
                    | none => (none, ⟨self, pages⟩)
                    | some next => (some pageStart, ⟨{ self with next }, pages⟩)
      else (some allocStart, ⟨{ self with next := allocEnd }, pages⟩)

/-- What `BumpAllocator` keeps: `INNER`, set at the first allocation, and the
memory. -/
structure Global where
  inner : Option InnerAlloc
  pages : Nat
  deriving DecidableEq, Repr

/-- `GlobalAlloc::alloc`: the start of the block, or the null pointer `0`. -/
def BumpAllocator.alloc (heapStart : Nat) (global : Global) (layout : Layout) : Nat × Global :=
  let inner := global.inner.getD (InnerAlloc.new bits heapStart global.pages)
  let (start, heap) := inner.alloc bits maxPages global.pages layout
  (start.getD 0, ⟨some heap.inner, heap.pages⟩)

/-- Allocations one after another. -/
def allocAll : Heap → List Layout → List (Option Nat) × Heap
  | heap, [] => ([], heap)
  | heap, layout :: layouts =>
      let (start, heap) := heap.inner.alloc bits maxPages heap.pages layout
      let (starts, heap) := allocAll heap layouts
      (start :: starts, heap)

/-- The blocks a run hands out, as start and end. -/
def blocks (starts : List (Option Nat)) (layouts : List Layout) : List (Nat × Nat) :=
  (starts.zip layouts).filterMap fun (start, layout) => start.map fun p => (p, p + layout.size)

end Model

/-! ## Checked arithmetic -/

section Checked

variable {bits : Nat}

theorem checkedAdd_eq_some {a b c : Nat} : checkedAdd bits a b = some c ↔ a + b < 2 ^ bits ∧ a + b = c := by
  unfold checkedAdd
  split <;> simp [*]

theorem checkedMul_eq_some {a b c : Nat} : checkedMul bits a b = some c ↔ a * b < 2 ^ bits ∧ a * b = c := by
  unfold checkedMul
  split <;> simp [*]

theorem requiredPages_eq_some {size n : Nat} (h : requiredPages bits size = some n) :
    n = (size + (pageSize - 1)) / pageSize := by
  obtain ⟨m, hm, rfl⟩ := Option.map_eq_some_iff.mp h
  rw [(checkedAdd_eq_some.mp hm).2]

end Checked

/-! ## One allocation -/

/-- The heap is well formed: it starts at the heap start and ends at most at
the end of the memory, which has at most `maxPages` pages. -/
structure Heap.Valid (maxPages heapStart : Nat) (heap : Heap) : Prop where
  start_le : heapStart ≤ heap.inner.next
  next_le : heap.inner.next ≤ heap.inner.upperLimit
  upper_le : heap.inner.upperLimit ≤ heap.pages * pageSize
  pages_le : heap.pages ≤ maxPages

section Step

variable {bits maxPages heapStart : Nat} (hroom : (maxPages + 1) * pageSize ≤ 2 ^ bits)
include hroom

theorem room_add : maxPages * pageSize + pageSize ≤ 2 ^ bits := by
  rwa [Nat.succ_mul] at hroom

theorem alignPtr_eq {self : InnerAlloc} {layout : Layout} (halign : layout.align ≤ pageSize)
    (hnext : self.next ≤ maxPages * pageSize) :
    self.alignPtr bits layout = alignUp self.next layout.align := by
  obtain ⟨k, hk⟩ := layout.align_pow
  have hroom' := room_add hroom
  have hpos : 0 < 2 ^ k := Nat.two_pow_pos k
  have hfit : self.next + layout.align - 1 < 2 ^ bits := by omega
  have hkbits : k ≤ bits := (Nat.pow_le_pow_iff_right Nat.one_lt_two).mp (by omega)
  unfold InnerAlloc.alignPtr alignUp
  rw [Nat.mod_eq_of_lt hfit, hk, land_complement hkbits (hk ▸ hfit)]

omit hroom in
theorem mod_align_of_pages {layout : Layout} (halign : layout.align ≤ pageSize) (pages : Nat) :
    pages * pageSize % layout.align = 0 := by
  obtain ⟨k, hk⟩ := layout.align_pow
  have hk16 : k ≤ 16 := by
    have : 2 ^ k ≤ 2 ^ 16 := by rw [← hk]; exact halign
    exact (Nat.pow_le_pow_iff_right Nat.one_lt_two).mp this
  rw [hk]
  exact Nat.mod_eq_zero_of_dvd (Dvd.dvd.mul_left ((Nat.pow_dvd_pow 2 hk16).trans (by decide)) _)

theorem alloc_spec {self : InnerAlloc} {pages : Nat} {layout : Layout} {start : Option Nat} {heap : Heap}
    (hv : Heap.Valid maxPages heapStart ⟨self, pages⟩) (halign : layout.align ≤ pageSize)
    (h : self.alloc bits maxPages pages layout = (start, heap)) :
    Heap.Valid maxPages heapStart heap ∧ self.next ≤ heap.inner.next ∧
      ∀ p, start = some p → p % layout.align = 0 ∧ self.next ≤ p ∧ p + layout.size ≤ heap.inner.next := by
  obtain ⟨hstart, hnext, hupper, hpages⟩ := hv
  simp only at hstart hnext hupper hpages
  have hlimit : self.upperLimit ≤ maxPages * pageSize := hupper.trans (Nat.mul_le_mul_right _ hpages)
  have hround := alignPtr_eq hroom halign (hnext.trans hlimit)
  have hpos : 0 < layout.align := by
    obtain ⟨k, hk⟩ := layout.align_pow
    rw [hk]
    exact Nat.two_pow_pos k
  unfold InnerAlloc.alloc at h
  dsimp only at h
  split at h
  · -- the end of the block does not fit the address space
    cases h
    exact ⟨⟨hstart, hnext, hupper, hpages⟩, le_rfl, by simp⟩
  rename_i allocEnd hend
  obtain ⟨-, hend⟩ := checkedAdd_eq_some.mp hend
  split_ifs at h with hgrow
  · -- the block is past the upper limit: it goes at the start of new pages
    split at h
    · cases h
      exact ⟨⟨hstart, hnext, hupper, hpages⟩, le_rfl, by simp⟩
    rename_i required hrequired
    have hreq := requiredPages_eq_some hrequired
    unfold requestPages at h
    split_ifs at h with hgrown
    · have hpageStart : pages * pageSize % 2 ^ bits = pages * pageSize := by
        apply Nat.mod_eq_of_lt
        have := Nat.add_mul maxPages 1 pageSize
        have := Nat.mul_le_mul_right pageSize hpages
        unfold pageSize at *
        omega
      have hmore : pages * pageSize ≤ (pages + required) * pageSize := Nat.mul_le_mul_right _ (by omega)
      simp only [hpageStart] at h
      split at h
      · cases h
        exact ⟨⟨hstart, hnext, hupper.trans hmore, hgrown⟩, le_rfl, by simp⟩
      rename_i upperLimit hupperLimit
      obtain ⟨total, htotal, hadd⟩ := Option.bind_eq_some_iff.mp hupperLimit
      obtain ⟨-, rfl⟩ := checkedMul_eq_some.mp htotal
      obtain ⟨-, rfl⟩ := checkedAdd_eq_some.mp hadd
      have hsize : layout.size ≤ required * pageSize := by
        have hdiv := Nat.div_add_mod (layout.size + (pageSize - 1)) pageSize
        have hmod := Nat.mod_lt (layout.size + (pageSize - 1)) (show 0 < pageSize by decide)
        have hP : 0 < pageSize := by decide
        rw [hreq, Nat.mul_comm]
        omega
      have hends : pages * pageSize + required * pageSize = (pages + required) * pageSize :=
        (Nat.add_mul _ _ _).symm
      have hold : self.upperLimit ≤ pages * pageSize := hupper
      split at h
      · cases h
        exact ⟨⟨hstart, by simp only; omega, by simp only; omega, hgrown⟩, le_rfl, by simp⟩
      rename_i next hnextEq
      obtain ⟨-, rfl⟩ := checkedAdd_eq_some.mp hnextEq
      cases h
      refine ⟨⟨by simp only; omega, by simp only; omega, by simp only; omega, hgrown⟩,
        by simp only; omega, ?_⟩
      rintro p ⟨⟩
      exact ⟨mod_align_of_pages halign pages, by omega, le_rfl⟩
    · cases h
      exact ⟨⟨hstart, hnext, hupper, hpages⟩, le_rfl, by simp⟩
  · -- the block fits below the upper limit: it goes at the rounded-up `next`
    cases h
    have hle := le_alignUp self.next hpos
    refine ⟨⟨by simp only; omega, by simp only; omega, hupper, hpages⟩, by simp only; omega, ?_⟩
    rintro p ⟨⟩
    rw [hround]
    exact ⟨alignUp_mod _ _, hle, by rw [← hround]; simp only; omega⟩

theorem new_valid {pages : Nat} (hstart : heapStart ≤ pages * pageSize) (hpages : pages ≤ maxPages) :
    Heap.Valid maxPages heapStart ⟨InnerAlloc.new bits heapStart pages, pages⟩ := by
  have hfit : pages * pageSize < 2 ^ bits := by
    have := room_add hroom
    have := Nat.mul_le_mul_right pageSize hpages
    have : 0 < pageSize := by decide
    omega
  refine ⟨le_rfl, ?_, ?_, hpages⟩ <;> simp only [InnerAlloc.new, Nat.mod_eq_of_lt hfit]
  · exact hstart
  · exact le_rfl

/-! ## Runs -/

omit hroom in
theorem mem_blocks {starts : List (Option Nat)} {layouts : List Layout} {b : Nat × Nat}
    (hb : b ∈ blocks starts layouts) :
    ∃ p layout, (some p, layout) ∈ starts.zip layouts ∧ b = (p, p + layout.size) := by
  obtain ⟨⟨start, layout⟩, hmem, hmap⟩ := List.mem_filterMap.mp hb
  obtain ⟨p, rfl, rfl⟩ := Option.map_eq_some_iff.mp hmap
  exact ⟨p, layout, hmem, rfl⟩

/-- Over any run of allocations aligned to at most a page, from a well-formed
heap: the heap stays well formed, every block handed out is aligned and lies
between the `next` the run started from and the one it ends with, and each
block ends before the next one starts. -/
theorem allocAll_safe {layouts : List Layout} (halign : ∀ layout ∈ layouts, layout.align ≤ pageSize) :
    ∀ {heap : Heap}, Heap.Valid maxPages heapStart heap →
      Heap.Valid maxPages heapStart (allocAll bits maxPages heap layouts).2 ∧
      heap.inner.next ≤ (allocAll bits maxPages heap layouts).2.inner.next ∧
      (∀ p layout, (some p, layout) ∈ (allocAll bits maxPages heap layouts).1.zip layouts →
        p % layout.align = 0 ∧ heap.inner.next ≤ p ∧
          p + layout.size ≤ (allocAll bits maxPages heap layouts).2.inner.next) ∧
      (blocks (allocAll bits maxPages heap layouts).1 layouts).Pairwise fun b c => b.2 ≤ c.1 := by
  induction layouts with
  | nil => intro heap hv; simp [allocAll, blocks, hv]
  | cons layout layouts ih =>
      intro heap hv
      rcases hstep : heap.inner.alloc bits maxPages heap.pages layout with ⟨start, heap₁⟩
      obtain ⟨hv₁, hnext₁, hblock⟩ := alloc_spec hroom hv (halign layout List.mem_cons_self) hstep
      obtain ⟨hv₂, hnext₂, hrest, hpairwise⟩ := ih (fun l hl => halign l (List.mem_cons_of_mem _ hl)) hv₁
      have hrun : allocAll bits maxPages heap (layout :: layouts) =
          (start :: (allocAll bits maxPages heap₁ layouts).1, (allocAll bits maxPages heap₁ layouts).2) := by
        simp [allocAll, hstep]
      rw [hrun]
      refine ⟨hv₂, hnext₁.trans hnext₂, ?_, ?_⟩
      · intro p l hmem
        rw [List.zip_cons_cons, List.mem_cons] at hmem
        rcases hmem with heq | hmem
        · obtain ⟨rfl, rfl⟩ := Prod.mk.inj heq
          obtain ⟨haligned, hle, hend⟩ := hblock p rfl
          exact ⟨haligned, hle, hend.trans hnext₂⟩
        · obtain ⟨haligned, hle, hend⟩ := hrest p l hmem
          exact ⟨haligned, hnext₁.trans hle, hend⟩
      · cases start with
        | none => simpa [blocks] using hpairwise
        | some p =>
            refine List.pairwise_cons.mpr ⟨fun c hc => ?_, hpairwise⟩
            obtain ⟨q, l, hmem, rfl⟩ := mem_blocks hc
            exact (hblock p rfl).2.2.trans (hrest q l hmem).2.1

end Step

/-- Three allocations on a one-page heap of a 32-bit memory that may grow to
16 pages: the second needs new memory, and the blocks are aligned, in order
and apart. -/
theorem allocAll_safe_three :
    let layouts : List Layout := [⟨100, 8, 3, rfl⟩, ⟨70000, 16, 4, rfl⟩, ⟨10, 4096, 12, rfl⟩]
    let heap : Heap := ⟨InnerAlloc.new 32 1024 1, 1⟩
    Heap.Valid 16 1024 (allocAll 32 16 heap layouts).2 ∧
      (blocks (allocAll 32 16 heap layouts).1 layouts).Pairwise (fun b c => b.2 ≤ c.1) ∧
      blocks (allocAll 32 16 heap layouts).1 layouts = [(1024, 1124), (65536, 135536), (139264, 139274)] := by
  intro layouts heap
  have hv : Heap.Valid 16 1024 heap := ⟨le_rfl, by decide, by decide, by decide⟩
  obtain ⟨hv', -, -, hpairwise⟩ := @allocAll_safe 32 16 1024 (by decide) layouts (by decide) heap hv
  exact ⟨hv', hpairwise, by decide⟩

/-- A block aligned to 128 KiB that needs new memory is placed at the start of
the new page, which is only 64 KiB aligned. And once `next` is in the upper half
of a 32-bit address space, rounding it up to an alignment of `2^31` wraps to
address 0: the allocator hands out the null block and then blocks below the
heap start, over the block it handed out first. -/
theorem alloc_misaligns_and_overlaps :
    (BumpAllocator.alloc 32 16 1024 ⟨none, 1⟩ ⟨1, 131072, 17, rfl⟩).1 = 65536 ∧ 65536 % 131072 ≠ 0 ∧
      blocks (allocAll 32 65536 ⟨InnerAlloc.new 32 1024 1, 1⟩
          [⟨2147418113, 1, 0, rfl⟩, ⟨1, 2147483648, 31, rfl⟩, ⟨65536, 1, 0, rfl⟩]).1
        [⟨2147418113, 1, 0, rfl⟩, ⟨1, 2147483648, 31, rfl⟩, ⟨65536, 1, 0, rfl⟩] =
        [(65536, 2147483649), (0, 1), (1, 65537)] := by
  decide

end Setheum.Allocator
