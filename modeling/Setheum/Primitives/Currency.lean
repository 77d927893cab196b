import Mathlib

/-!
# Currencies and trading pairs

`TokenSymbol`, `DexShare`, `CurrencyId` and `TradingPair` of `primitives`.
The Rust enums derive `Ord`, which compares the variant first and then the
fields; `CurrencyId.key` encodes exactly that order into a lexicographic
triple. The finiteness instances only serve sums over all pairs.
-/

namespace Setheum

/-- `TokenSymbol`, with discriminants `SEU = 0` and `SEUSD = 1`. -/
inductive TokenSymbol where
  | SEU
  | SEUSD
  deriving DecidableEq, Repr

/-- `EvmAddress = H160`, ordered as its big-endian bytes. -/
abbrev EvmAddress := Fin (2 ^ 160)

/-- `ForeignAssetId = u16`. -/
abbrev ForeignAssetId := Fin (2 ^ 16)

/-- Literals of `ForeignAssetId` name this instance rather than a proof made up for each. -/
instance neZero_two_pow_sixteen : NeZero (2 ^ 16 : Nat) := ⟨by norm_num⟩

inductive DexShare where
  | token (symbol : TokenSymbol)
  | erc20 (address : EvmAddress)
  | foreignAsset (id : ForeignAssetId)
  deriving DecidableEq, Repr

inductive CurrencyId where
  | token (symbol : TokenSymbol)
  | dexShare (share0 share1 : DexShare)
  | erc20 (address : EvmAddress)
  | foreignAsset (id : ForeignAssetId)
  deriving DecidableEq, Repr

namespace TokenSymbol

def toNat : TokenSymbol → Nat
  | SEU => 0
  | SEUSD => 1

theorem toNat_injective : Function.Injective toNat := by
  intro a b h
  cases a <;> cases b <;> first | rfl | cases h

theorem toNat_lt_two (s : TokenSymbol) : s.toNat < 2 := by
  cases s <;> decide

instance : Fintype TokenSymbol := ⟨{SEU, SEUSD}, by intro x; cases x <;> simp⟩

end TokenSymbol

namespace DexShare

/-- The derived order: variant first, then the field. -/
def key : DexShare → Nat
  | token s => s.toNat
  | erc20 a => 2 + a.val
  | foreignAsset i => 2 + 2 ^ 160 + i.val

theorem key_injective : Function.Injective key := by
  intro x y h
  cases x with
  | token s =>
      cases y with
      | token t => exact congrArg token (TokenSymbol.toNat_injective h)
      | erc20 b => simp only [key] at h; have := s.toNat_lt_two; omega
      | foreignAsset j => simp only [key] at h; have := s.toNat_lt_two; omega
  | erc20 a =>
      cases y with
      | token t => simp only [key] at h; have := t.toNat_lt_two; omega
      | erc20 b => exact congrArg erc20 (Fin.ext (by simpa [key] using h))
      | foreignAsset j => simp only [key] at h; omega
  | foreignAsset i =>
      cases y with
      | token t => simp only [key] at h; have := t.toNat_lt_two; omega
      | erc20 b => simp only [key] at h; omega
      | foreignAsset j => exact congrArg foreignAsset (Fin.ext (by simpa [key] using h))

instance : LinearOrder DexShare := LinearOrder.lift' key key_injective

def equiv : DexShare ≃ TokenSymbol ⊕ EvmAddress ⊕ ForeignAssetId where
  toFun
    | token s => .inl s
    | erc20 a => .inr (.inl a)
    | foreignAsset i => .inr (.inr i)
  invFun
    | .inl s => token s
    | .inr (.inl a) => erc20 a
    | .inr (.inr i) => foreignAsset i
  left_inv x := by cases x <;> rfl
  right_inv x := by rcases x with s | a | i <;> rfl

instance : Fintype DexShare := Fintype.ofEquiv _ equiv.symm

end DexShare

namespace CurrencyId

/-- The derived order: variant first, then the fields. -/
def key : CurrencyId → ℕ ×ₗ ℕ ×ₗ ℕ
  | token s => toLex (0, toLex (s.toNat, 0))
  | dexShare a b => toLex (1, toLex (a.key, b.key))
  | erc20 a => toLex (2, toLex (a.val, 0))
  | foreignAsset i => toLex (3, toLex (i.val, 0))

theorem key_injective : Function.Injective key := by
  intro x y h
  cases x <;> cases y <;> simp only [key, toLex_inj, Prod.mk.injEq] at h <;>
    first
    | omega
    | (obtain ⟨-, h⟩ := h; congr; exact TokenSymbol.toNat_injective h.1)
    | (obtain ⟨-, h⟩ := h; congr 1 <;> exact DexShare.key_injective (by first | exact h.1 | exact h.2))
    | (obtain ⟨-, h⟩ := h; congr; exact Fin.ext h.1)

instance : LinearOrder CurrencyId := LinearOrder.lift' key key_injective

def equiv : CurrencyId ≃ TokenSymbol ⊕ (DexShare × DexShare) ⊕ EvmAddress ⊕ ForeignAssetId where
  toFun
    | token s => .inl s
    | dexShare a b => .inr (.inl (a, b))
    | erc20 a => .inr (.inr (.inl a))
    | foreignAsset i => .inr (.inr (.inr i))
  invFun
    | .inl s => token s
    | .inr (.inl (a, b)) => dexShare a b
    | .inr (.inr (.inl a)) => erc20 a
    | .inr (.inr (.inr i)) => foreignAsset i
  left_inv x := by cases x <;> rfl
  right_inv x := by rcases x with s | ⟨a, b⟩ | a | i <;> rfl

instance : Fintype CurrencyId := Fintype.ofEquiv _ equiv.symm

/-- `is_trading_pair_currency_id`: shares of the DEX are not traded. -/
def isTradingPairCurrencyId : CurrencyId → Bool
  | token _ | erc20 _ | foreignAsset _ => true
  | dexShare _ _ => false

theorem isTradingPairCurrencyId_token (s : TokenSymbol) :
    (token s).isTradingPairCurrencyId = true := rfl

/-- `is_dex_share_currency_id`. -/
def isDexShareCurrencyId : CurrencyId → Bool
  | dexShare _ _ => true
  | token _ | erc20 _ | foreignAsset _ => false

/-- The `DexShare` a currency stands for inside a share currency id. -/
def toDexShare : CurrencyId → Option DexShare
  | token s => some (.token s)
  | erc20 a => some (.erc20 a)
  | foreignAsset i => some (.foreignAsset i)
  | dexShare _ _ => none

/-- `join_dex_share_currency_id`. -/
def joinDexShareCurrencyId (currencyId0 currencyId1 : CurrencyId) : Option CurrencyId := do
  let share0 ← currencyId0.toDexShare
  let share1 ← currencyId1.toDexShare
  return dexShare share0 share1

theorem toDexShare_isSome {c : CurrencyId} (h : c.isTradingPairCurrencyId = true) :
    ∃ s, c.toDexShare = some s := by
  cases c <;> simp_all [isTradingPairCurrencyId, toDexShare]

theorem toDexShare_injective {c d : CurrencyId} {s : DexShare}
    (hc : c.toDexShare = some s) (hd : d.toDexShare = some s) : c = d := by
  cases c <;> cases d <;> simp only [toDexShare, Option.some.injEq, reduceCtorEq] at hc hd <;>
    subst hc <;> first | (cases hd; rfl) | cases hd

end CurrencyId

/-- `Into<CurrencyId> for DexShare`: the currency a component of a share stands for. -/
def DexShare.toCurrencyId : DexShare → CurrencyId
  | .token symbol => .token symbol
  | .erc20 address => .erc20 address
  | .foreignAsset foreignAssetId => .foreignAsset foreignAssetId

/-- `split_dex_share_currency_id`: the two currencies of a share. -/
def CurrencyId.splitDexShareCurrencyId : CurrencyId → Option (CurrencyId × CurrencyId)
  | .dexShare dexShare0 dexShare1 => some (dexShare0.toCurrencyId, dexShare1.toCurrencyId)
  | _ => none

/-- `TradingPair`. It is only built by `from_currency_ids` (and by its
decoder, which calls it), so its currencies are trading-pair currencies in
increasing order; the structure records that as fields. -/
structure TradingPair where
  first : CurrencyId
  second : CurrencyId
  first_lt_second : first < second
  first_valid : first.isTradingPairCurrencyId = true
  second_valid : second.isTradingPairCurrencyId = true

namespace TradingPair

theorem ext' {p q : TradingPair} (h1 : p.first = q.first) (h2 : p.second = q.second) : p = q := by
  cases p; cases q; cases h1; cases h2; rfl

instance : DecidableEq TradingPair := fun p q =>
  decidable_of_iff (p.first = q.first ∧ p.second = q.second)
    ⟨fun h => ext' h.1 h.2, fun h => h ▸ ⟨rfl, rfl⟩⟩

/-- `from_currency_ids`: the two currencies, sorted, if they can form a pair. -/
def fromCurrencyIds (currencyIdA currencyIdB : CurrencyId) : Option TradingPair :=
  if h : currencyIdA.isTradingPairCurrencyId = true ∧ currencyIdB.isTradingPairCurrencyId = true ∧
      currencyIdA ≠ currencyIdB then
    if hab : currencyIdA > currencyIdB then some ⟨currencyIdB, currencyIdA, hab, h.2.1, h.1⟩
    else some ⟨currencyIdA, currencyIdB, lt_of_le_of_ne (not_lt.1 hab) h.2.2, h.1, h.2.1⟩
  else none

/-- `dex_share_currency_id`; the `expect` of the source never fires since
both currencies can be joined. -/
def dexShareCurrencyId (p : TradingPair) : CurrencyId :=
  (CurrencyId.joinDexShareCurrencyId p.first p.second).getD p.first

def subtypeEquiv : TradingPair ≃ {c : CurrencyId × CurrencyId // c.1 < c.2 ∧
    c.1.isTradingPairCurrencyId = true ∧ c.2.isTradingPairCurrencyId = true} where
  toFun p := ⟨(p.first, p.second), p.first_lt_second, p.first_valid, p.second_valid⟩
  invFun c := ⟨c.1.1, c.1.2, c.2.1, c.2.2.1, c.2.2.2⟩
  left_inv _ := rfl
  right_inv _ := rfl

instance : Fintype TradingPair := Fintype.ofEquiv _ subtypeEquiv.symm

theorem first_ne_second (p : TradingPair) : p.first ≠ p.second := ne_of_lt p.first_lt_second

theorem fromCurrencyIds_spec {a b : CurrencyId} {p : TradingPair}
    (h : fromCurrencyIds a b = some p) :
    (a = p.first ∧ b = p.second) ∨ (a = p.second ∧ b = p.first) := by
  unfold fromCurrencyIds at h
  split_ifs at h with h1 h2 <;> cases h
  · exact .inr ⟨rfl, rfl⟩
  · exact .inl ⟨rfl, rfl⟩

theorem fromCurrencyIds_self (p : TradingPair) : fromCurrencyIds p.first p.second = some p := by
  have hlt := p.first_lt_second
  unfold fromCurrencyIds
  rw [dif_pos ⟨p.first_valid, p.second_valid, ne_of_lt hlt⟩, dif_neg (not_lt.2 hlt.le)]

theorem fromCurrencyIds_swap (p : TradingPair) : fromCurrencyIds p.second p.first = some p := by
  have hlt := p.first_lt_second
  unfold fromCurrencyIds
  rw [dif_pos ⟨p.second_valid, p.first_valid, ne_of_gt hlt⟩, dif_pos hlt]

theorem dexShareCurrencyId_eq (p : TradingPair) :
    ∃ s0 s1, p.first.toDexShare = some s0 ∧ p.second.toDexShare = some s1 ∧
      p.dexShareCurrencyId = .dexShare s0 s1 := by
  obtain ⟨s0, h0⟩ := CurrencyId.toDexShare_isSome p.first_valid
  obtain ⟨s1, h1⟩ := CurrencyId.toDexShare_isSome p.second_valid
  exact ⟨s0, s1, h0, h1, by simp [dexShareCurrencyId, CurrencyId.joinDexShareCurrencyId, h0, h1]⟩

@[simp] theorem dexShareCurrencyId_not_valid (p : TradingPair) :
    p.dexShareCurrencyId.isTradingPairCurrencyId = false := by
  obtain ⟨s0, s1, -, -, h⟩ := dexShareCurrencyId_eq p
  rw [h]; rfl

theorem dexShareCurrencyId_ne_first (p : TradingPair) : p.dexShareCurrencyId ≠ p.first := by
  intro h
  have := p.first_valid
  rw [← h, dexShareCurrencyId_not_valid] at this
  cases this

theorem dexShareCurrencyId_ne_second (p : TradingPair) : p.dexShareCurrencyId ≠ p.second := by
  intro h
  have := p.second_valid
  rw [← h, dexShareCurrencyId_not_valid] at this
  cases this

theorem dexShareCurrencyId_injective : Function.Injective dexShareCurrencyId := by
  intro p q h
  obtain ⟨s0, s1, hp0, hp1, hp⟩ := dexShareCurrencyId_eq p
  obtain ⟨t0, t1, hq0, hq1, hq⟩ := dexShareCurrencyId_eq q
  rw [hp, hq] at h
  cases h
  exact ext' (CurrencyId.toDexShare_injective hp0 hq0) (CurrencyId.toDexShare_injective hp1 hq1)

end TradingPair

end Setheum
