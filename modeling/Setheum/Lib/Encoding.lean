import Mathlib

/-!
# Byte encodings and hash collisions

Fixed-size byte strings, fixed-width big-endian words, messages cut into
blocks of one length, and collisions: two different inputs a function maps
alike. A message built by hashing parts and hashing again determines its
parts unless one of the hashes has a collision; `eq_or_collision` and
`map_eq_or` are the steps of that argument.
-/

namespace Encoding

/-- Byte strings of length `n`, such as `[u8; n]`. -/
abbrev FixedBytes (n : Nat) := {b : List UInt8 // b.length = n}

/-- The `k` low bytes of `n`, most significant first. -/
def beBytes : Nat → Nat → List UInt8
  | 0, _ => []
  | k + 1, n => beBytes k (n / 256) ++ [UInt8.ofNat n]

/-- The number bytes spell, most significant first. -/
def beValue (bytes : List UInt8) : Nat := bytes.foldl (fun acc b => acc * 256 + b.toNat) 0

@[simp] theorem length_beBytes (k n : Nat) : (beBytes k n).length = k := by
  induction k generalizing n with
  | zero => rfl
  | succ k ih => simp [beBytes, ih]

theorem beValue_append_singleton (bytes : List UInt8) (b : UInt8) :
    beValue (bytes ++ [b]) = beValue bytes * 256 + b.toNat := by
  simp [beValue, List.foldl_append]

theorem beValue_beBytes (k n : Nat) : beValue (beBytes k n) = n % 256 ^ k := by
  induction k generalizing n with
  | zero => simp [beBytes, beValue, Nat.mod_one]
  | succ k ih =>
      have hbyte : (UInt8.ofNat n).toNat = n % 256 := by simp
      rw [beBytes, beValue_append_singleton, ih, hbyte, Nat.pow_succ, Nat.mul_comm (256 ^ k) 256, Nat.mod_mul]
      omega

theorem beBytes_inj {k n m : Nat} (hn : n < 256 ^ k) (hm : m < 256 ^ k)
    (h : beBytes k n = beBytes k m) : n = m := by
  have h' := congrArg beValue h
  rwa [beValue_beBytes, beValue_beBytes, Nat.mod_eq_of_lt hn, Nat.mod_eq_of_lt hm] at h'

theorem beValue_lt (bytes : List UInt8) : beValue bytes < 256 ^ bytes.length := by
  induction bytes using List.reverseRecOn with
  | nil => simp [beValue]
  | append_singleton bytes b ih =>
      rw [beValue_append_singleton, List.length_append, List.length_singleton, Nat.pow_succ]
      have hb := b.toNat_lt
      calc beValue bytes * 256 + b.toNat < beValue bytes * 256 + 256 := by omega
        _ = (beValue bytes + 1) * 256 := by omega
        _ ≤ 256 ^ bytes.length * 256 := Nat.mul_le_mul_right 256 ih

theorem beBytes_beValue (bytes : List UInt8) : beBytes bytes.length (beValue bytes) = bytes := by
  induction bytes using List.reverseRecOn with
  | nil => rfl
  | append_singleton bytes b ih =>
      have hb := b.toNat_lt
      have hdiv : (beValue bytes * 256 + b.toNat) / 256 = beValue bytes := by omega
      have hlow : UInt8.ofNat (beValue bytes * 256 + b.toNat) = b := by
        apply UInt8.toNat_inj.mp
        rw [UInt8.toNat_ofNat']
        omega
      rw [List.length_append, List.length_singleton, beBytes, beValue_append_singleton, hdiv, hlow, ih]

/-- `dst[start..start + src.len()].copy_from_slice(src)`. -/
def copyFromSlice {α : Type*} (dst : List α) (start : Nat) (src : List α) : List α :=
  dst.take start ++ src ++ dst.drop (start + src.length)

theorem flatten_inj_of_length {α : Type*} {k : Nat} (hk : 0 < k) :
    ∀ {L₁ L₂ : List (List α)}, (∀ b ∈ L₁, b.length = k) → (∀ b ∈ L₂, b.length = k) →
      L₁.flatten = L₂.flatten → L₁ = L₂
  | [], [], _, _, _ => rfl
  | [], b :: _, _, h₂, h => by
      have hlen := congrArg List.length h
      simp only [List.flatten_nil, List.length_nil, List.flatten_cons, List.length_append,
        h₂ b List.mem_cons_self] at hlen
      omega
  | b :: _, [], h₁, _, h => by
      have hlen := congrArg List.length h
      simp only [List.flatten_nil, List.length_nil, List.flatten_cons, List.length_append,
        h₁ b List.mem_cons_self] at hlen
      omega
  | b₁ :: L₁, b₂ :: L₂, h₁, h₂, h => by
      rw [List.flatten_cons, List.flatten_cons] at h
      have hlen : b₁.length = b₂.length := by
        rw [h₁ b₁ List.mem_cons_self, h₂ b₂ List.mem_cons_self]
      obtain ⟨rfl, hrest⟩ := List.append_inj h hlen
      rw [flatten_inj_of_length hk (fun b hb => h₁ b (List.mem_cons_of_mem _ hb))
        (fun b hb => h₂ b (List.mem_cons_of_mem _ hb)) hrest]

/-! ## Collisions -/

section Collision

variable {α β : Type*} (H : α → β)

/-- Two different inputs that `H` maps alike. -/
def Collision : Prop := ∃ x y, x ≠ y ∧ H x = H y

theorem not_collision_iff_injective : ¬ Collision H ↔ Function.Injective H := by
  constructor
  · intro h x y hxy
    by_contra hne
    exact h ⟨x, y, hne, hxy⟩
  · rintro hinj ⟨x, y, hne, hxy⟩
    exact hne (hinj hxy)

theorem eq_or_collision {x y : α} (h : H x = H y) : x = y ∨ Collision H := by
  by_cases hxy : x = y
  · exact Or.inl hxy
  · exact Or.inr ⟨x, y, hxy, h⟩

theorem map_eq_or {C : Prop} {G : α → β} (hG : ∀ x y, G x = G y → x = y ∨ C) :
    ∀ {L₁ L₂ : List α}, L₁.map G = L₂.map G → L₁ = L₂ ∨ C
  | [], [], _ => Or.inl rfl
  | [], _ :: _, h => absurd h (by simp)
  | _ :: _, [], h => absurd h (by simp)
  | x :: L₁, y :: L₂, h => by
      rw [List.map_cons, List.map_cons, List.cons.injEq] at h
      rcases hG x y h.1 with rfl | hC
      · rcases map_eq_or hG h.2 with rfl | hC
        · exact Or.inl rfl
        · exact Or.inr hC
      · exact Or.inr hC

end Collision

end Encoding
