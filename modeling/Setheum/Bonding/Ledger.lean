import Mathlib
import Setheum.Lib.BoundedVec
import Setheum.Lib.Result
import Setheum.Primitives.Arithmetic

/-!
# Bonding ledgers

`BondingLedger` of the primitives' bonding module: the funds an account has
bonded, split into the `active` balance and the `unlocking` chunks, each to be
released at its `unlock_at`, with `total` meant to be their sum. The chunks sit
in a `BoundedVec`, so there are never more than `MaxUnlockingChunks` of them.

`unbond` moves funds from `active` into a chunk, merged with the last one when
they unlock at the same time; `rebond` walks the chunks from the most recent,
popping whole chunks and splitting the last one it needs; `consolidate_unlocked`
drops the chunks that are due, wherever they are, and lowers the total by
their values. `Valid` is the accounting every stored ledger keeps; each
operation is shown to keep it here, under the assumptions the controller
supplies (a bond that does not saturate, an unbond that moves funds).
-/

namespace Setheum.Bonding

/-- `bonding::Error`. -/
inductive Error
  | belowMinBondThreshold
  | maxUnlockChunksExceeded
  | notBonded
deriving DecidableEq, Repr

/-- `UnlockChunk`: funds released at `unlock_at`. -/
structure UnlockChunk (Moment : Type) where
  value : Nat
  unlockAt : Moment
deriving DecidableEq, Repr

variable {Moment : Type}

/-- The chunks' values added up. -/
def chunkSum (chunks : List (UnlockChunk Moment)) : Nat := (chunks.map UnlockChunk.value).sum

@[simp] theorem chunkSum_nil : chunkSum ([] : List (UnlockChunk Moment)) = 0 := rfl

@[simp] theorem chunkSum_cons (c : UnlockChunk Moment) (chunks : List (UnlockChunk Moment)) :
    chunkSum (c :: chunks) = c.value + chunkSum chunks := by
  simp [chunkSum]

@[simp] theorem chunkSum_append (chunks chunks' : List (UnlockChunk Moment)) :
    chunkSum (chunks ++ chunks') = chunkSum chunks + chunkSum chunks' := by
  simp [chunkSum]

@[simp] theorem chunkSum_reverse (chunks : List (UnlockChunk Moment)) :
    chunkSum chunks.reverse = chunkSum chunks := by
  simp [chunkSum]

/-- `BondingLedger`. -/
structure BondingLedger (Moment : Type) (maxUnlockingChunks : Nat) where
  total : Nat
  active : Nat
  unlocking : BoundedVec (UnlockChunk Moment) maxUnlockingChunks
deriving DecidableEq

/-- The times the chunks unlock at, in the order they are stored. -/
def unlockTimes (chunks : List (UnlockChunk Moment)) : List Moment := chunks.map UnlockChunk.unlockAt

/-! ## The ledger's operations -/

namespace BondingLedger

variable {maxUnlockingChunks : Nat} (minBond : Nat)

/-- `BondingLedger::new`, the default ledger. -/
def new : BondingLedger Moment maxUnlockingChunks := ⟨0, 0, .empty⟩

/-- `check_min_bond`: an active balance is nothing or at least the minimum bond. -/
def checkMinBond (self : BondingLedger Moment maxUnlockingChunks) : Except Error Unit :=
  if 0 < self.active ∧ self.active < minBond then throw .belowMinBondThreshold else pure ()

/-- `bond`. -/
def bond (self : BondingLedger Moment maxUnlockingChunks) (amount : Nat) :
    Except Error (BondingLedger Moment maxUnlockingChunks) := do
  let self := { self with
    active := Balance.saturatingAdd self.active amount
    total := Balance.saturatingAdd self.total amount }
  self.checkMinBond minBond
  pure self

/-- The closure `unbond` passes to `try_mutate`: merge into the last chunk when
it unlocks at the same time, or push a new chunk. -/
def mergeOrPush [DecidableEq Moment] (amount : Nat) (unlockAt : Moment) (unlocking : List (UnlockChunk Moment)) :
    List (UnlockChunk Moment) :=
  match unlocking.getLast? with
  | some last =>
      if last.unlockAt = unlockAt then
        unlocking.dropLast ++ [{ last with value := Balance.saturatingAdd last.value amount }]
      else unlocking ++ [⟨amount, unlockAt⟩]
  | none => unlocking ++ [⟨amount, unlockAt⟩]

/-- `unbond`: at most the active balance starts unlocking at `unlock_at`. -/
def unbond [DecidableEq Moment] (self : BondingLedger Moment maxUnlockingChunks) (amount : Nat) (unlockAt : Moment) :
    Except Error (BondingLedger Moment maxUnlockingChunks × Nat) := do
  let amount := min amount self.active
  let self := { self with active := self.active - amount }
  self.checkMinBond minBond
  let unlocking ← Result.okOr (self.unlocking.tryMutate (mergeOrPush amount unlockAt)) .maxUnlockChunksExceeded
  pure ({ self with unlocking }, amount)

/-- `unbond_instant`: at most the active balance leaves the ledger at once. -/
def unbondInstant (self : BondingLedger Moment maxUnlockingChunks) (amount : Nat) :
    Except Error (BondingLedger Moment maxUnlockingChunks × Nat) := do
  let amount := min amount self.active
  let self := { self with active := self.active - amount, total := self.total - amount }
  self.checkMinBond minBond
  pure (self, amount)

/-- `consolidate_unlocked`: drop the chunks due by `now`; `retain`'s closure
lowers the total by each chunk it drops, saturating at zero. -/
def consolidateUnlocked [LinearOrder Moment] (self : BondingLedger Moment maxUnlockingChunks) (now : Moment) :
    BondingLedger Moment maxUnlockingChunks :=
  let total := self.unlocking.1.foldl
    (fun total chunk => if now < chunk.unlockAt then total else total - chunk.value) self.total
  { self with unlocking := self.unlocking.retain fun chunk => decide (now < chunk.unlockAt), total }

/-- The loop of `rebond`, over the chunks from the most recent one (the head
here is the source's `last`), with the unlocking balance and the active
balance it carries; it returns the chunks left, most recent first. -/
def rebondLoop (value : Nat) :
    List (UnlockChunk Moment) → Nat → Nat → List (UnlockChunk Moment) × Nat × Nat
  | [], unlockingBalance, active => ([], unlockingBalance, active)
  | last :: rest, unlockingBalance, active =>
      if unlockingBalance + last.value ≤ value then
        -- the whole chunk is rebonded and popped
        if value ≤ unlockingBalance + last.value then (rest, unlockingBalance + last.value, active + last.value)
        else rebondLoop value rest (unlockingBalance + last.value) (active + last.value)
      else
        -- part of the chunk is rebonded: the unlocking balance then reaches
        -- the value, so the loop's check always breaks here
        let diff := value - unlockingBalance
        ({ last with value := last.value - diff } :: rest, unlockingBalance + diff, active + diff)

theorem rebondLoop_length_le (value : Nat) :
    ∀ (chunks : List (UnlockChunk Moment)) (unlockingBalance active : Nat),
      (rebondLoop value chunks unlockingBalance active).1.length ≤ chunks.length
  | [], _, _ => Nat.le_refl _
  | last :: rest, unlockingBalance, active => by
      unfold rebondLoop
      split_ifs
      · exact Nat.le_succ _
      · exact Nat.le_trans (rebondLoop_length_le value rest _ _) (Nat.le_succ _)
      · exact Nat.le_refl _

/-- `rebond`: up to `value` of the unlocking funds go back to the active
balance, taken from the most recent chunks. The loop runs inside `try_mutate`,
which cannot fail since it only pops (the source's `expect`). -/
def rebond (self : BondingLedger Moment maxUnlockingChunks) (value : Nat) :
    Except Error (BondingLedger Moment maxUnlockingChunks × Nat) := do
  let loop := fun unlocking : List (UnlockChunk Moment) => rebondLoop value unlocking.reverse 0 self.active
  let r := loop self.unlocking.1
  let unlocking := (self.unlocking.tryMutate fun unlocking => (loop unlocking).1.reverse).get
    (BoundedVec.tryMutate_isSome_of_length_le (by
      simpa using rebondLoop_length_le value self.unlocking.1.reverse 0 self.active))
  let self := { self with active := r.2.2, unlocking }
  self.checkMinBond minBond
  pure (self, r.2.1)

/-! ## What each operation does -/

variable {minBond} {self l : BondingLedger Moment maxUnlockingChunks} {m : Nat}

theorem checkMinBond_eq_ok {u : Unit} :
    self.checkMinBond minBond = .ok u ↔ self.active = 0 ∨ minBond ≤ self.active := by
  unfold checkMinBond
  by_cases h : 0 < self.active ∧ self.active < minBond
  · rw [if_pos h]
    simp only [Result.throw_ne_ok, false_iff]
    omega
  · rw [if_neg h]
    simp only [Result.pure_eq_ok, true_iff]
    omega

theorem bond_eq_ok {amount : Nat} (h : self.bond minBond amount = .ok l) :
    l = { self with
      active := Balance.saturatingAdd self.active amount
      total := Balance.saturatingAdd self.total amount } ∧ (l.active = 0 ∨ minBond ≤ l.active) := by
  obtain ⟨_, hcheck, hl⟩ := Result.bind_eq_ok.mp h
  rw [Result.pure_eq_ok] at hl
  subst hl
  exact ⟨rfl, checkMinBond_eq_ok.mp hcheck⟩

theorem unbond_eq_ok [DecidableEq Moment] {amount : Nat} {unlockAt : Moment}
    (h : self.unbond minBond amount unlockAt = .ok (l, m)) :
    m = min amount self.active ∧ l.total = self.total ∧ l.active = self.active - m ∧
      l.unlocking.1 = mergeOrPush m unlockAt self.unlocking.1 ∧ (l.active = 0 ∨ minBond ≤ l.active) := by
  obtain ⟨_, hcheck, hrest⟩ := Result.bind_eq_ok.mp h
  obtain ⟨unlocking, hmutate, hl⟩ := Result.bind_eq_ok.mp hrest
  rw [Result.okOr_eq_ok, BoundedVec.tryMutate_eq_some] at hmutate
  rw [Result.pure_eq_ok, Prod.mk.injEq] at hl
  obtain ⟨rfl, rfl⟩ := hl
  exact ⟨rfl, rfl, rfl, hmutate, checkMinBond_eq_ok.mp hcheck⟩

theorem unbondInstant_eq_ok {amount : Nat} (h : self.unbondInstant minBond amount = .ok (l, m)) :
    m = min amount self.active ∧ l = { self with active := self.active - m, total := self.total - m } ∧
      (l.active = 0 ∨ minBond ≤ l.active) := by
  obtain ⟨_, hcheck, hl⟩ := Result.bind_eq_ok.mp h
  rw [Result.pure_eq_ok, Prod.mk.injEq] at hl
  obtain ⟨rfl, rfl⟩ := hl
  exact ⟨rfl, rfl, checkMinBond_eq_ok.mp hcheck⟩

theorem rebond_eq_ok {value : Nat} (h : self.rebond minBond value = .ok (l, m)) :
    l.total = self.total ∧ l.active = (rebondLoop value self.unlocking.1.reverse 0 self.active).2.2 ∧
      m = (rebondLoop value self.unlocking.1.reverse 0 self.active).2.1 ∧
      l.unlocking.1 = (rebondLoop value self.unlocking.1.reverse 0 self.active).1.reverse ∧
      (l.active = 0 ∨ minBond ≤ l.active) := by
  obtain ⟨_, hcheck, hl⟩ := Result.bind_eq_ok.mp h
  rw [Result.pure_eq_ok, Prod.mk.injEq] at hl
  obtain ⟨rfl, rfl⟩ := hl
  exact ⟨rfl, rfl, rfl, BoundedVec.val_tryMutate_get _, checkMinBond_eq_ok.mp hcheck⟩

/-! ## Merging into the last chunk -/

theorem mergeOrPush_cases [DecidableEq Moment] (amount : Nat) (unlockAt : Moment) (chunks : List (UnlockChunk Moment)) :
    (∃ pre last, chunks = pre ++ [last] ∧ last.unlockAt = unlockAt ∧
      mergeOrPush amount unlockAt chunks = pre ++ [{ last with value := Balance.saturatingAdd last.value amount }]) ∨
    ((∀ last, chunks.getLast? = some last → last.unlockAt ≠ unlockAt) ∧
      mergeOrPush amount unlockAt chunks = chunks ++ [⟨amount, unlockAt⟩]) := by
  unfold mergeOrPush
  cases hlast : chunks.getLast? with
  | none => exact .inr ⟨(fun _ h => by cases h), rfl⟩
  | some last =>
      obtain ⟨pre, rfl⟩ := List.getLast?_eq_some_iff.mp hlast
      dsimp only
      by_cases heq : last.unlockAt = unlockAt
      · -- the new funds join the last chunk
        exact .inl ⟨pre, last, rfl, heq, by rw [if_pos heq, List.dropLast_concat]⟩
      · refine .inr ⟨fun last' hlast' => ?_, by rw [if_neg heq]⟩
        rw [Option.some.injEq] at hlast'
        exact hlast' ▸ heq

theorem chunkSum_mergeOrPush [DecidableEq Moment] {amount : Nat} {unlockAt : Moment} {chunks : List (UnlockChunk Moment)}
    (hfit : chunkSum chunks + amount < 2 ^ 128) :
    chunkSum (mergeOrPush amount unlockAt chunks) = chunkSum chunks + amount := by
  rcases mergeOrPush_cases amount unlockAt chunks with ⟨pre, last, rfl, -, hmerge⟩ | ⟨-, hpush⟩
  · rw [hmerge]
    simp only [chunkSum_append, chunkSum_cons, chunkSum_nil] at hfit ⊢
    rw [Balance.saturatingAdd_eq (by omega)]
    omega
  · rw [hpush, chunkSum_append, chunkSum_cons, chunkSum_nil, Nat.add_zero]

theorem value_pos_mergeOrPush [DecidableEq Moment] {amount : Nat} {unlockAt : Moment} {chunks : List (UnlockChunk Moment)}
    (hpos : ∀ c ∈ chunks, 0 < c.value) (hamount : 0 < amount) :
    ∀ c ∈ mergeOrPush amount unlockAt chunks, 0 < c.value := by
  rcases mergeOrPush_cases amount unlockAt chunks with ⟨pre, last, rfl, -, hmerge⟩ | ⟨-, hpush⟩
  · rw [hmerge]
    intro c hc
    rcases List.mem_append.mp hc with hc | hc
    · exact hpos c (List.mem_append_left _ hc)
    · rw [List.mem_singleton.mp hc]
      simp only [Balance.saturatingAdd]
      omega
  · rw [hpush]
    intro c hc
    rcases List.mem_append.mp hc with hc | hc
    · exact hpos c hc
    · rw [List.mem_singleton.mp hc]
      exact hamount

theorem unlockTimes_mergeOrPush [DecidableEq Moment] [LinearOrder Moment] (amount : Nat) {unlockAt : Moment}
    {chunks : List (UnlockChunk Moment)} (hinc : (unlockTimes chunks).Pairwise (· < ·))
    (hle : ∀ t ∈ unlockTimes chunks, t ≤ unlockAt) :
    (unlockTimes (mergeOrPush amount unlockAt chunks)).Pairwise (· < ·) ∧
      ∀ t ∈ unlockTimes (mergeOrPush amount unlockAt chunks), t ≤ unlockAt := by
  rcases mergeOrPush_cases amount unlockAt chunks with ⟨pre, last, rfl, hat, hmerge⟩ | ⟨hne, hpush⟩
  · -- the merged chunk keeps its time
    have htimes : unlockTimes (mergeOrPush amount unlockAt (pre ++ [last])) = unlockTimes (pre ++ [last]) := by
      rw [hmerge]
      simp [unlockTimes]
    rw [htimes]
    exact ⟨hinc, hle⟩
  · rw [hpush]
    have hlt : ∀ t ∈ unlockTimes chunks, t < unlockAt := by
      cases hlast : chunks.getLast? with
      | none =>
          rw [List.getLast?_eq_none_iff.mp hlast]
          intro t ht
          cases ht
      | some last =>
          obtain ⟨pre, rfl⟩ := List.getLast?_eq_some_iff.mp hlast
          have hbefore : last.unlockAt < unlockAt :=
            lt_of_le_of_ne (hle _ (by simp [unlockTimes])) (hne last hlast)
          simp only [unlockTimes, List.map_append, List.map_cons, List.map_nil] at hinc ⊢
          intro t ht
          rcases List.mem_append.mp ht with ht | ht
          · exact lt_trans ((List.pairwise_append.mp hinc).2.2 t ht _ (List.mem_singleton_self _)) hbefore
          · exact (List.mem_singleton.mp ht) ▸ hbefore
    simp only [unlockTimes, List.map_append, List.map_cons, List.map_nil] at hinc hle hlt ⊢
    refine ⟨List.pairwise_append.mpr ⟨hinc, List.pairwise_singleton _ _, ?_⟩, ?_⟩
    · intro t ht t' ht'
      exact (List.mem_singleton.mp ht') ▸ hlt t ht
    · intro t ht
      rcases List.mem_append.mp ht with ht | ht
      · exact hle t ht
      · exact le_of_eq (List.mem_singleton.mp ht)

/-! ## Rebonding from the most recent chunks -/

/-- `chunks'` is what is left of `chunks` once funds are taken from the most
recent chunks: an initial run of them, whose last chunk may have lost part of
its value. -/
def TakenFromEnd (chunks chunks' : List (UnlockChunk Moment)) : Prop :=
  (∃ post, chunks = chunks' ++ post) ∨
    ∃ pre c post d, d < c.value ∧ chunks = pre ++ c :: post ∧ chunks' = pre ++ [{ c with value := c.value - d }]

variable {chunks chunks' : List (UnlockChunk Moment)}

theorem TakenFromEnd.append (h : TakenFromEnd chunks chunks') (more : List (UnlockChunk Moment)) :
    TakenFromEnd (chunks ++ more) chunks' := by
  rcases h with ⟨post, rfl⟩ | ⟨pre, c, post, d, hd, rfl, rfl⟩
  · exact .inl ⟨post ++ more, by rw [List.append_assoc]⟩
  · exact .inr ⟨pre, c, post ++ more, d, hd, by simp, rfl⟩

theorem TakenFromEnd.value_pos (h : TakenFromEnd chunks chunks') (hpos : ∀ c ∈ chunks, 0 < c.value) :
    ∀ c ∈ chunks', 0 < c.value := by
  rcases h with ⟨post, rfl⟩ | ⟨pre, c, post, d, hd, rfl, rfl⟩
  · exact fun c hc => hpos c (List.mem_append_left _ hc)
  · intro c' hc'
    rcases List.mem_append.mp hc' with hc' | hc'
    · exact hpos c' (List.mem_append_left _ hc')
    · rw [List.mem_singleton.mp hc']
      exact Nat.sub_pos_of_lt hd

theorem TakenFromEnd.unlockTimes_isPrefixOf (h : TakenFromEnd chunks chunks') :
    unlockTimes chunks' <+: unlockTimes chunks := by
  rcases h with ⟨post, rfl⟩ | ⟨pre, c, post, d, -, rfl, rfl⟩
  · exact (List.prefix_append _ _).map _
  · exact ⟨post.map UnlockChunk.unlockAt, by simp [unlockTimes]⟩

theorem rebondLoop_spec (value : Nat) :
    ∀ (chunks : List (UnlockChunk Moment)) (unlockingBalance active : Nat), unlockingBalance ≤ value →
      (rebondLoop value chunks unlockingBalance active).2 =
          (unlockingBalance + min (value - unlockingBalance) (chunkSum chunks),
            active + min (value - unlockingBalance) (chunkSum chunks)) ∧
        chunkSum (rebondLoop value chunks unlockingBalance active).1 +
          min (value - unlockingBalance) (chunkSum chunks) = chunkSum chunks
  | [], _, _, _ => by simp [rebondLoop]
  | last :: rest, unlockingBalance, active, hle => by
      unfold rebondLoop
      split_ifs with hwhole hbreak
      · -- the chunk was exactly what was left to rebond
        simp only [chunkSum_cons, Prod.mk.injEq]
        omega
      · -- the older chunks give the rest
        obtain ⟨hbalances, hsum⟩ :=
          rebondLoop_spec value rest (unlockingBalance + last.value) (active + last.value) (by omega)
        rw [hbalances]
        simp only [chunkSum_cons, Prod.mk.injEq] at hsum ⊢
        omega
      · -- the chunk keeps what is not needed
        simp only [chunkSum_cons, Prod.mk.injEq]
        omega

theorem rebondLoop_takenFromEnd (value : Nat) :
    ∀ (chunks : List (UnlockChunk Moment)) (unlockingBalance active : Nat), unlockingBalance ≤ value →
      TakenFromEnd chunks.reverse (rebondLoop value chunks unlockingBalance active).1.reverse
  | [], _, _, _ => .inl ⟨[], rfl⟩
  | last :: rest, unlockingBalance, active, hle => by
      unfold rebondLoop
      split_ifs with hwhole hbreak
      · exact .inl ⟨[last], by simp⟩
      · rw [List.reverse_cons]
        exact (rebondLoop_takenFromEnd value rest _ _ hwhole).append [last]
      · -- the chunk is split
        exact .inr ⟨rest.reverse, last, [], value - unlockingBalance, by omega, by simp, by simp⟩

theorem rebond_spec {value : Nat} (h : self.rebond minBond value = .ok (l, m)) :
    m = min value (chunkSum self.unlocking.1) ∧ l.total = self.total ∧ l.active = self.active + m ∧
      chunkSum l.unlocking.1 + m = chunkSum self.unlocking.1 ∧ TakenFromEnd self.unlocking.1 l.unlocking.1 ∧
      (l.active = 0 ∨ minBond ≤ l.active) := by
  obtain ⟨htotal, hactive, hm, hunlocking, hmin⟩ := rebond_eq_ok h
  obtain ⟨hbalances, hsum⟩ := rebondLoop_spec value self.unlocking.1.reverse 0 self.active (Nat.zero_le _)
  simp only [Nat.sub_zero, chunkSum_reverse, Nat.zero_add, Prod.ext_iff] at hbalances hsum
  have htaken := rebondLoop_takenFromEnd value self.unlocking.1.reverse 0 self.active (Nat.zero_le _)
  rw [List.reverse_reverse, ← hunlocking] at htaken
  have hmoved : m = min value (chunkSum self.unlocking.1) := hm.trans hbalances.1
  refine ⟨hmoved, htotal, ?_, ?_, htaken, hmin⟩
  · rw [hactive, hbalances.2, hmoved]
  · rw [hunlocking, chunkSum_reverse, hmoved, hsum]

/-! ## Dropping the chunks that are due -/

section Consolidate

variable [LinearOrder Moment]

theorem foldl_dropDue (now : Moment) :
    ∀ (chunks : List (UnlockChunk Moment)) (total : Nat),
      chunks.foldl (fun total chunk => if now < chunk.unlockAt then total else total - chunk.value) total =
        total - chunkSum (chunks.filter fun chunk => chunk.unlockAt ≤ now)
  | [], _ => rfl
  | c :: chunks, total => by
      rw [List.foldl_cons, foldl_dropDue now chunks, List.filter_cons]
      by_cases hdue : c.unlockAt ≤ now
      · rw [if_neg (not_lt.mpr hdue), if_pos (decide_eq_true hdue), chunkSum_cons, Nat.sub_sub]
      · rw [if_pos (lt_of_not_ge hdue), if_neg (by simpa using hdue)]

theorem chunkSum_kept_add_due (now : Moment) (chunks : List (UnlockChunk Moment)) :
    chunkSum (chunks.filter fun chunk => now < chunk.unlockAt) +
      chunkSum (chunks.filter fun chunk => chunk.unlockAt ≤ now) = chunkSum chunks := by
  have hdue : (chunks.filter fun chunk => chunk.unlockAt ≤ now) = chunks.filter fun chunk => ¬now < chunk.unlockAt :=
    List.filter_congr fun chunk _ => by simp [not_lt]
  rw [hdue]
  exact List.sum_map_filter_add_sum_map_filter_not _ _ _

/-- The value of the chunks due by `now`. -/
def dueValue (now : Moment) (chunks : List (UnlockChunk Moment)) : Nat :=
  chunkSum (chunks.filter fun chunk => chunk.unlockAt ≤ now)

theorem dueValue_le (now : Moment) (chunks : List (UnlockChunk Moment)) : dueValue now chunks ≤ chunkSum chunks := by
  have := chunkSum_kept_add_due now chunks
  unfold dueValue
  omega

theorem consolidateUnlocked_total (now : Moment) :
    (self.consolidateUnlocked now).total = self.total - dueValue now self.unlocking.1 :=
  foldl_dropDue now _ _

@[simp] theorem consolidateUnlocked_active (now : Moment) : (self.consolidateUnlocked now).active = self.active :=
  rfl

@[simp] theorem consolidateUnlocked_unlocking (now : Moment) :
    (self.consolidateUnlocked now).unlocking.1 = self.unlocking.1.filter fun chunk => now < chunk.unlockAt :=
  rfl

end Consolidate

/-! ## The accounting every stored ledger keeps -/

/-- The total is the active balance and the chunks, within `u128`; the
active balance is nothing or at least the minimum bond; no chunk is empty.
The bound on the number of chunks is the type's. -/
structure Valid (minBond : Nat) (ledger : BondingLedger Moment maxUnlockingChunks) : Prop where
  total_eq : ledger.total = ledger.active + chunkSum ledger.unlocking.1
  total_lt : ledger.total < 2 ^ 128
  active_min : ledger.active = 0 ∨ minBond ≤ ledger.active
  value_pos : ∀ c ∈ ledger.unlocking.1, 0 < c.value

theorem new_valid : (new : BondingLedger Moment maxUnlockingChunks).Valid minBond where
  total_eq := rfl
  total_lt := by norm_num [new]
  active_min := .inl rfl
  value_pos := fun _ h => by simp [new] at h

theorem Valid.active_le (hv : self.Valid minBond) : self.active ≤ self.total := by
  have := hv.total_eq
  omega

theorem bond_valid (hv : self.Valid minBond) {amount : Nat} (hfit : self.total + amount < 2 ^ 128)
    (h : self.bond minBond amount = .ok l) : l.Valid minBond := by
  obtain ⟨rfl, hmin⟩ := bond_eq_ok h
  have hactive : self.active + amount < 2 ^ 128 := by
    have := hv.active_le
    omega
  rw [Balance.saturatingAdd_eq hactive, Balance.saturatingAdd_eq hfit] at hmin ⊢
  refine ⟨?_, hfit, hmin, hv.value_pos⟩
  show self.total + amount = self.active + amount + chunkSum self.unlocking.1
  rw [hv.total_eq]
  omega

theorem unbond_valid [DecidableEq Moment] (hv : self.Valid minBond) {amount : Nat} {unlockAt : Moment}
    (h : self.unbond minBond amount unlockAt = .ok (l, m)) (hm : 0 < m) : l.Valid minBond := by
  obtain ⟨hmin_eq, htotal, hactive, hunlocking, hmin⟩ := unbond_eq_ok h
  have hle : m ≤ self.active := hmin_eq ▸ Nat.min_le_right _ _
  have hfit : chunkSum self.unlocking.1 + m < 2 ^ 128 := by
    have := hv.total_eq
    have := hv.total_lt
    omega
  refine ⟨?_, htotal ▸ hv.total_lt, hmin, ?_⟩
  · rw [htotal, hactive, hunlocking, chunkSum_mergeOrPush hfit, hv.total_eq]
    omega
  · rw [hunlocking]
    exact value_pos_mergeOrPush hv.value_pos hm

theorem unbondInstant_valid (hv : self.Valid minBond) {amount : Nat}
    (h : self.unbondInstant minBond amount = .ok (l, m)) : l.Valid minBond := by
  obtain ⟨hmin_eq, rfl, hmin⟩ := unbondInstant_eq_ok h
  have hle : m ≤ self.active := hmin_eq ▸ Nat.min_le_right _ _
  refine ⟨?_, lt_of_le_of_lt (Nat.sub_le _ _) hv.total_lt, hmin, hv.value_pos⟩
  show self.total - m = self.active - m + chunkSum self.unlocking.1
  rw [hv.total_eq]
  omega

theorem rebond_valid (hv : self.Valid minBond) {value : Nat} (h : self.rebond minBond value = .ok (l, m)) :
    l.Valid minBond := by
  obtain ⟨-, htotal, hactive, hsum, htaken, hmin⟩ := rebond_spec h
  refine ⟨?_, htotal ▸ hv.total_lt, hmin, htaken.value_pos hv.value_pos⟩
  rw [htotal, hactive, hv.total_eq]
  omega

theorem consolidateUnlocked_valid [LinearOrder Moment] (hv : self.Valid minBond) (now : Moment) :
    (self.consolidateUnlocked now).Valid minBond := by
  have hsplit := chunkSum_kept_add_due now self.unlocking.1
  refine ⟨?_, lt_of_le_of_lt ?_ hv.total_lt, hv.active_min, ?_⟩
  · rw [consolidateUnlocked_total, consolidateUnlocked_active, consolidateUnlocked_unlocking, hv.total_eq,
      dueValue]
    omega
  · rw [consolidateUnlocked_total]
    exact Nat.sub_le _ _
  · intro c hc
    rw [consolidateUnlocked_unlocking] at hc
    exact hv.value_pos c (List.mem_of_mem_filter hc)

end BondingLedger

end Setheum.Bonding
