import Setheum.Primitives.Currency
import Setheum.Lib.Encoding
import Setheum.Lib.Result

/-!
# Currencies as EVM addresses

`primitives::evm` packs a `CurrencyId` into an `H160`: the nine leading bytes
are zero (the system-contract prefix), byte 9 is the currency's type, and the
fields are right-justified at fixed offsets. An `Erc20` currency is its own
address. Decoding reads an address that is not a system contract as an
`Erc20`; otherwise it reads the type byte and the fields, and keeps the result
only if encoding it gives the address back.

A `DexShare` side that is an `Erc20` is written as four bytes of its address
and never decoded, so only the currencies of `EncodesBack` come back; on them
the encoding is injective.
-/

namespace Setheum

open Encoding Result

namespace EvmAddress

/-- `H160::as_bytes`: twenty bytes, most significant first. -/
def asBytes (a : EvmAddress) : List UInt8 := beBytes 20 a.val

/-- `H160::from_slice` of twenty bytes. -/
def fromSlice (bytes : List UInt8) : EvmAddress := ⟨beValue bytes % 2 ^ 160, Nat.mod_lt _ (Nat.two_pow_pos 160)⟩

/-- `is_system_contract`: the address starts with nine zero bytes. -/
def isSystemContract (a : EvmAddress) : Bool := a.asBytes.take 9 == List.replicate 9 0

@[simp] theorem length_asBytes (a : EvmAddress) : a.asBytes.length = 20 := length_beBytes _ _

theorem asBytes_fromSlice {bytes : List UInt8} (h : bytes.length = 20) : (fromSlice bytes).asBytes = bytes := by
  have hlt := beValue_lt bytes
  rw [h] at hlt
  show beBytes 20 (beValue bytes % 2 ^ 160) = bytes
  rw [Nat.mod_eq_of_lt (by simpa using hlt), ← h, beBytes_beValue]

theorem fromSlice_asBytes (a : EvmAddress) : fromSlice a.asBytes = a := by
  apply Fin.ext
  show beValue (beBytes 20 a.val) % 2 ^ 160 = a.val
  have h : a.val < 256 ^ 20 := by simp
  rw [beValue_beBytes, Nat.mod_eq_of_lt h, Nat.mod_eq_of_lt a.isLt]

end EvmAddress

/-- `CurrencyIdType`, the address's byte 9. -/
inductive CurrencyIdType where
  | token
  | dexShare
  | foreignAsset
  deriving DecidableEq, Repr

namespace CurrencyIdType

def toU8 : CurrencyIdType → UInt8
  | token => 1
  | dexShare => 2
  | foreignAsset => 3

def tryFrom (v : UInt8) : Option CurrencyIdType :=
  if v = 1 then some token else if v = 2 then some dexShare else if v = 3 then some foreignAsset else none

theorem tryFrom_toU8 (t : CurrencyIdType) : tryFrom t.toU8 = some t := by
  cases t <;> decide

end CurrencyIdType

/-- `DexShareType`, the type byte of each side of a `DexShare`. -/
inductive DexShareType where
  | token
  | erc20
  | foreignAsset
  deriving DecidableEq, Repr

namespace DexShareType

def toU8 : DexShareType → UInt8
  | token => 0
  | erc20 => 1
  | foreignAsset => 2

def tryFrom (v : UInt8) : Option DexShareType :=
  if v = 0 then some token else if v = 1 then some erc20 else if v = 2 then some foreignAsset else none

theorem tryFrom_toU8 (t : DexShareType) : tryFrom t.toU8 = some t := by
  cases t <;> decide

end DexShareType

namespace TokenSymbol

/-- `Into<u8>`. -/
def toU8 (s : TokenSymbol) : UInt8 := UInt8.ofNat s.toNat

/-- `TryFrom<u8>`. -/
def tryFrom (v : UInt8) : Option TokenSymbol :=
  if v = 0 then some SEU else if v = 1 then some SEUSD else none

theorem tryFrom_toU8 (s : TokenSymbol) : tryFrom s.toU8 = some s := by
  cases s <;> decide

end TokenSymbol

/-- `ForeignAssetId::from_be_bytes`, of two bytes. -/
def ForeignAssetId.fromBeBytes (bytes : List UInt8) : ForeignAssetId := Fin.ofNat _ (beValue bytes)

theorem ForeignAssetId.fromBeBytes_beBytes (id : ForeignAssetId) : fromBeBytes (beBytes 2 id.val) = id := by
  apply Fin.ext
  have h : id.val < 256 ^ 2 := by simp
  simp only [fromBeBytes, Fin.val_ofNat, beValue_beBytes]
  rw [Nat.mod_eq_of_lt h, Nat.mod_eq_of_lt id.isLt]

namespace DexShare

def dexShareType : DexShare → DexShareType
  | token _ => .token
  | erc20 _ => .erc20
  | foreignAsset _ => .foreignAsset

/-- `From<DexShare> for u32`: the token in the last byte, the foreign asset in
the last two, and for an `Erc20` four bytes of the address from its first
nonzero byte, but no later than byte 16. -/
def toU32 (val : DexShare) : Nat :=
  let bytes : List UInt8 := List.replicate 4 0
  let bytes := match val with
    | token t => bytes.set 3 t.toU8
    | erc20 address =>
        let leadingZeros := (address.asBytes.takeWhile (· == 0)).length
        let index := if leadingZeros > 16 then 16 else leadingZeros
        copyFromSlice bytes 0 ((address.asBytes.drop index).take 4)
    | foreignAsset id => copyFromSlice bytes 2 (beBytes 2 id.val)
  beValue bytes

/-- The sides a `DexShare` address can be decoded to. -/
def IsDecodable : DexShare → Prop
  | erc20 _ => False
  | _ => True

instance : DecidablePred IsDecodable
  | erc20 _ => isFalse id
  | token _ => isTrue trivial
  | foreignAsset _ => isTrue trivial

end DexShare

/-- `TryFrom<CurrencyId> for EvmAddress`, which always succeeds. -/
def EvmAddress.tryFrom (val : CurrencyId) : Except Unit EvmAddress :=
  let address : List UInt8 := List.replicate 20 0
  let address := match val with
    | .token token => (address.set 9 CurrencyIdType.token.toU8).set 19 token.toU8
    | .dexShare left right =>
        let leftField := left.toU32
        let rightField := right.toU32
        let address := address.set 9 CurrencyIdType.dexShare.toU8
        let address := address.set 10 left.dexShareType.toU8
        let address := copyFromSlice address 11 (beBytes 4 leftField)
        let address := address.set 15 right.dexShareType.toU8
        copyFromSlice address 16 (beBytes 4 rightField)
    | .erc20 erc20 => copyFromSlice address 0 erc20.asBytes
    | .foreignAsset foreignAssetId =>
        copyFromSlice (address.set 9 CurrencyIdType.foreignAsset.toU8) 18 (beBytes 2 foreignAssetId.val)
  .ok (fromSlice address)

/-- `decode_evm_address_for_dex_share`. -/
def decodeEvmAddressForDexShare (address : List UInt8) (left : Bool) : Option DexShare :=
  let (dexShareType, dexShareField) := if left then (10, 11) else (15, 16)
  let field := (address.drop dexShareField).take 4
  match DexShareType.tryFrom (address.getD dexShareType 0) with
  | none => none
  | some .token => (TokenSymbol.tryFrom (field.getD 3 0)).map DexShare.token
  -- the mapping of an `Erc20` id back to its address needs the asset registry
  | some .erc20 => none
  | some .foreignAsset => some (.foreignAsset (ForeignAssetId.fromBeBytes (field.drop 2)))

/-- The `match` of `TryFrom<EvmAddress> for CurrencyId` on the bytes of a
system-contract address: the currency its type byte and fields spell. -/
def decodeSystemContractAddress (address : List UInt8) : Except Unit CurrencyId :=
  match CurrencyIdType.tryFrom (address.getD 9 0) with
  | none => throw ()
  | some .token => okOr ((TokenSymbol.tryFrom (address.getD 19 0)).map CurrencyId.token) ()
  | some .dexShare => do
      let left ← okOr (decodeEvmAddressForDexShare address true) ()
      let right ← okOr (decodeEvmAddressForDexShare address false) ()
      pure (.dexShare left right)
  | some .foreignAsset => pure (.foreignAsset (ForeignAssetId.fromBeBytes ((address.drop 18).take 2)))

/-- `TryFrom<EvmAddress> for CurrencyId`. -/
def CurrencyId.tryFrom (addr : EvmAddress) : Except Unit CurrencyId := do
  if !addr.isSystemContract then return .erc20 addr
  let currencyId ← decodeSystemContractAddress addr.asBytes
  -- keep the currency only if it encodes back to the address
  if EvmAddress.tryFrom currencyId = .ok addr then pure currencyId else throw ()

/-- The currencies whose address decodes back to them: an `Erc20` address must
not look like a system contract, and a `DexShare` may not have an `Erc20`
side. -/
def CurrencyId.EncodesBack : CurrencyId → Prop
  | .token _ => True
  | .foreignAsset _ => True
  | .erc20 a => a.isSystemContract = false
  | .dexShare left right => left.IsDecodable ∧ right.IsDecodable

instance : DecidablePred CurrencyId.EncodesBack
  | .token _ => isTrue trivial
  | .foreignAsset _ => isTrue trivial
  | .erc20 a => inferInstanceAs (Decidable (a.isSystemContract = false))
  | .dexShare left right => inferInstanceAs (Decidable (left.IsDecodable ∧ right.IsDecodable))

/-! ## Round trip -/

open EvmAddress

theorem tryFrom_token (t : TokenSymbol) :
    EvmAddress.tryFrom (.token t) =
      .ok (fromSlice (List.replicate 9 0 ++ 1 :: List.replicate 9 0 ++ [t.toU8])) := rfl

theorem tryFrom_foreignAsset (id : ForeignAssetId) :
    EvmAddress.tryFrom (.foreignAsset id) =
      .ok (fromSlice (List.replicate 9 0 ++ 3 :: List.replicate 8 0 ++ beBytes 2 id.val)) := rfl

theorem tryFrom_dexShare (left right : DexShare) :
    EvmAddress.tryFrom (.dexShare left right) =
      .ok (fromSlice (List.replicate 9 0 ++ 2 :: left.dexShareType.toU8 :: beBytes 4 left.toU32 ++
        right.dexShareType.toU8 :: beBytes 4 right.toU32)) := rfl

theorem tryFrom_erc20 (a : EvmAddress) : EvmAddress.tryFrom (.erc20 a) = .ok a := by
  show Except.ok (fromSlice ([] ++ a.asBytes ++ (List.replicate 20 0).drop (0 + a.asBytes.length))) = _
  simp [fromSlice_asBytes]

theorem DexShare.beBytes_toU32 {d : DexShare} (hd : d.IsDecodable) :
    beBytes 4 d.toU32 = match d with
      | .token t => [0, 0, 0, t.toU8]
      | .foreignAsset id => [0, 0] ++ beBytes 2 id.val
      | .erc20 _ => [] := by
  cases d with
  | token t => exact beBytes_beValue [0, 0, 0, t.toU8]
  | foreignAsset id => exact beBytes_beValue ([0, 0] ++ beBytes 2 id.val)
  | erc20 _ => exact hd.elim

theorem decodeEvmAddressForDexShare_eq {address : List UInt8} {left : Bool} {d : DexShare}
    (hd : d.IsDecodable) (htype : address.getD (if left then 10 else 15) 0 = d.dexShareType.toU8)
    (hfield : (address.drop (if left then 11 else 16)).take 4 = beBytes 4 d.toU32) :
    decodeEvmAddressForDexShare address left = some d := by
  have hrw : decodeEvmAddressForDexShare address left =
      match DexShareType.tryFrom (address.getD (if left then 10 else 15) 0) with
      | none => none
      | some .token =>
          (TokenSymbol.tryFrom (((address.drop (if left then 11 else 16)).take 4).getD 3 0)).map DexShare.token
      | some .erc20 => none
      | some .foreignAsset => some (.foreignAsset
          (ForeignAssetId.fromBeBytes (((address.drop (if left then 11 else 16)).take 4).drop 2))) := by
    cases left <;> rfl
  rw [hrw, htype, DexShareType.tryFrom_toU8, hfield, DexShare.beBytes_toU32 hd]
  cases d with
  | token t => simp [DexShare.dexShareType, TokenSymbol.tryFrom_toU8]
  | foreignAsset id => simp [DexShare.dexShareType, ForeignAssetId.fromBeBytes_beBytes]
  | erc20 _ => exact hd.elim

theorem CurrencyId.tryFrom_of_decode {addr : EvmAddress} {c : CurrencyId}
    (hsys : addr.isSystemContract = true) (hdec : decodeSystemContractAddress addr.asBytes = .ok c)
    (henc : EvmAddress.tryFrom c = .ok addr) : CurrencyId.tryFrom addr = .ok c := by
  simp [CurrencyId.tryFrom, hsys, hdec, ok_bind, henc]

theorem CurrencyId.tryFrom_evmAddress {c : CurrencyId} (hc : c.EncodesBack) :
    ∃ addr, EvmAddress.tryFrom c = .ok addr ∧ CurrencyId.tryFrom addr = .ok c := by
  cases c with
  | token t =>
      refine ⟨_, tryFrom_token t, tryFrom_of_decode ?_ ?_ (tryFrom_token t)⟩
      · rw [isSystemContract, asBytes_fromSlice (by simp)]
        rfl
      · rw [asBytes_fromSlice (by simp)]
        simp [decodeSystemContractAddress, CurrencyIdType.tryFrom, TokenSymbol.tryFrom_toU8]
  | foreignAsset id =>
      refine ⟨_, tryFrom_foreignAsset id, tryFrom_of_decode ?_ ?_ (tryFrom_foreignAsset id)⟩
      · rw [isSystemContract, asBytes_fromSlice (by simp)]
        rfl
      · rw [asBytes_fromSlice (by simp)]
        simp [decodeSystemContractAddress, CurrencyIdType.tryFrom, List.take_of_length_le,
          ForeignAssetId.fromBeBytes_beBytes]
  | dexShare left right =>
      obtain ⟨hl, hr⟩ := hc
      refine ⟨_, tryFrom_dexShare left right, tryFrom_of_decode ?_ ?_ (tryFrom_dexShare left right)⟩
      · rw [isSystemContract, asBytes_fromSlice (by simp)]
        rfl
      · rw [asBytes_fromSlice (by simp)]
        have hleft := @decodeEvmAddressForDexShare_eq
          (List.replicate 9 0 ++ 2 :: left.dexShareType.toU8 :: beBytes 4 left.toU32 ++
            right.dexShareType.toU8 :: beBytes 4 right.toU32) true left hl
          (by simp [List.getD_eq_getElem?_getD]) (by simp [List.drop_append])
        have hright := @decodeEvmAddressForDexShare_eq
          (List.replicate 9 0 ++ 2 :: left.dexShareType.toU8 :: beBytes 4 left.toU32 ++
            right.dexShareType.toU8 :: beBytes 4 right.toU32) false right hr
          (by simp [List.getD_eq_getElem?_getD]) (by simp [List.drop_append, List.drop_eq_nil_of_le])
        have htype : CurrencyIdType.tryFrom ((List.replicate 9 0 ++ 2 :: left.dexShareType.toU8 ::
            beBytes 4 left.toU32 ++ right.dexShareType.toU8 :: beBytes 4 right.toU32).getD 9 0) =
              some .dexShare := rfl
        rw [decodeSystemContractAddress, htype]
        simp only [hleft, hright, okOr]
        rfl
  | erc20 a => exact ⟨a, tryFrom_erc20 a, by simp [CurrencyId.tryFrom, show a.isSystemContract = false from hc]⟩

/-- Currencies and EVM addresses: every currency of `EncodesBack` is decoded
from the address it encodes to, and no two of them share an address. -/
theorem currencyId_evmAddress_round_trip :
    (∀ c : CurrencyId, c.EncodesBack → (EvmAddress.tryFrom c).bind CurrencyId.tryFrom = .ok c) ∧
      ∀ c₁ c₂ : CurrencyId, c₁.EncodesBack → c₂.EncodesBack →
        EvmAddress.tryFrom c₁ = EvmAddress.tryFrom c₂ → c₁ = c₂ := by
  refine ⟨fun c hc => ?_, fun c₁ c₂ h₁ h₂ heq => ?_⟩
  · obtain ⟨addr, henc, hdec⟩ := CurrencyId.tryFrom_evmAddress hc
    rw [henc]
    simp only [Except.bind]
    exact hdec
  · obtain ⟨a₁, henc₁, hdec₁⟩ := CurrencyId.tryFrom_evmAddress h₁
    obtain ⟨a₂, henc₂, hdec₂⟩ := CurrencyId.tryFrom_evmAddress h₂
    rw [henc₁, henc₂, Except.ok.injEq] at heq
    subst heq
    rw [hdec₁] at hdec₂
    exact Except.ok.inj hdec₂

/-- SEUSD and the share of SEU and SEUSD come back from their addresses, and
the two addresses differ. -/
theorem seusd_share_round_trip :
    (EvmAddress.tryFrom (.token .SEUSD)).bind CurrencyId.tryFrom = .ok (.token .SEUSD) ∧
      (EvmAddress.tryFrom (.dexShare (.token .SEU) (.token .SEUSD))).bind CurrencyId.tryFrom =
        .ok (.dexShare (.token .SEU) (.token .SEUSD)) ∧
      EvmAddress.tryFrom (.token .SEUSD) ≠ EvmAddress.tryFrom (.dexShare (.token .SEU) (.token .SEUSD)) :=
  ⟨currencyId_evmAddress_round_trip.1 _ (by decide), currencyId_evmAddress_round_trip.1 _ (by decide),
    fun h => CurrencyId.noConfusion (currencyId_evmAddress_round_trip.2 _ _ (by decide) (by decide) h)⟩

/-- A share with an `Erc20` side is written out but not read back. -/
example : ((EvmAddress.tryFrom (.dexShare (.token .SEU) (.erc20 ⟨1, by decide⟩))).bind
    CurrencyId.tryFrom).toOption = none := by decide

end Setheum
