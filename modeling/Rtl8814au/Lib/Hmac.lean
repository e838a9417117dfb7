import Rtl8814au.Lib.Bytes

/-!
# Lib.Hmac

The keyed hash of RFC 2104 over any hash function, and the password-based key of RFC 2898 over any
pseudorandom function.

* `hmac`: two hashes, each of a masked key of one block ahead of its text.
* `derivedKey`: PBKDF2, from the blocks `F`, each the exclusive or of a chain `U_1 .. U_c`.
* `derivedKey_eq`: the derived key as one cut of the blocks.
-/

namespace Hmac

variable (H : Bytes → Bytes) (B : Nat)

/-- The key of one block, hashed first when it is longer. -/
def blockKey (K : Bytes) : Bytes := Bytes.pad B (if B < K.length then H K else K)

def ipad : Bytes := List.replicate B 0x36

def opad : Bytes := List.replicate B 0x5C

def hmac (K text : Bytes) : Bytes :=
  H (Bytes.xor (blockKey H B K) (opad B) ++ H (Bytes.xor (blockKey H B K) (ipad B) ++ text))

variable {B}

theorem xor_replicate {b : Bytes} (h : b.length = B) (x : UInt8) :
    Bytes.xor b (List.replicate B x) = b.map (· ^^^ x) := by
  subst h
  induction b with
  | nil => rfl
  | cons y b ih =>
    rw [Bytes.xor] at ih
    rw [Bytes.xor, List.length_cons, List.replicate_succ, List.zipWith_cons_cons, ih, List.map_cons]

end Hmac

namespace Pbkdf2

variable (prf : Bytes → Bytes → Bytes) (hLen : Nat) (P S : Bytes)

/-- `U_{j+1}` of block `i`. -/
def U (i : Nat) : Nat → Bytes
  | 0 => prf P (S ++ Bytes.be 4 i)
  | j + 1 => prf P (U i j)

/-- `U_1 ^ .. ^ U_{j+1}` of block `i`. -/
def T (i : Nat) : Nat → Bytes
  | 0 => U prf P S i 0
  | j + 1 => Bytes.xor (T i j) (U prf P S i (j + 1))

/-- The block function, for `c` iterations. -/
def F (c i : Nat) : Bytes := T prf P S i (c - 1)

/-- `none` for "derived key too long". -/
def derivedKey (c dkLen : Nat) : Option Bytes :=
  if dkLen ≤ (2 ^ 32 - 1) * hLen then
    let l := (dkLen + (hLen - 1)) / hLen
    let r := dkLen - (l - 1) * hLen
    some (((List.range (l - 1)).flatMap fun k => F prf P S c (k + 1)) ++ (F prf P S c l).take r)
  else none

/-! ## Its blocks -/

section

variable {prf hLen P S}

theorem length_U (hprf : ∀ K text, (prf K text).length = hLen) (i j : Nat) :
    (U prf P S i j).length = hLen := by
  cases j with
  | zero => exact hprf _ _
  | succ j => exact hprf _ _

theorem length_F (hprf : ∀ K text, (prf K text).length = hLen) (c i : Nat) :
    (F prf P S c i).length = hLen := by
  rw [F]
  induction c - 1 with
  | zero => exact hprf _ _
  | succ j ih => rw [T, Bytes.length_xor, ih, length_U hprf, Nat.min_self]

/-- The first `b` blocks. -/
def firstBlocks (prf : Bytes → Bytes → Bytes) (P S : Bytes) (c b : Nat) : Bytes :=
  (List.range b).flatMap fun k => F prf P S c (k + 1)

theorem firstBlocks_succ (c b : Nat) : firstBlocks prf P S c (b + 1) =
    firstBlocks prf P S c b ++ F prf P S c (b + 1) := by
  simp only [firstBlocks, List.range_succ, List.flatMap_append, List.flatMap_singleton]

theorem length_firstBlocks (hprf : ∀ K text, (prf K text).length = hLen) (c b : Nat) :
    (firstBlocks prf P S c b).length = b * hLen := by
  induction b with
  | zero => rw [Nat.zero_mul]; rfl
  | succ b ih => rw [firstBlocks_succ, List.length_append, ih, length_F hprf, Nat.succ_mul]

/-- Enough blocks, cut to the length of the key. -/
theorem derivedKey_eq (hprf : ∀ K text, (prf K text).length = hLen) (hpos : 0 < hLen) {c dkLen : Nat}
    (hfit : dkLen ≤ (2 ^ 32 - 1) * hLen) : derivedKey prf hLen P S c dkLen =
      some ((firstBlocks prf P S c ((dkLen + (hLen - 1)) / hLen)).take dkLen) := by
  rw [derivedKey, if_pos hfit]
  dsimp only
  congr 1
  cases hl : (dkLen + (hLen - 1)) / hLen with
  | zero =>
    have hzero : dkLen = 0 := by
      rcases Nat.div_eq_zero_iff.mp hl with h | h
      · omega
      · omega
    rw [hzero, List.take_zero, Nat.zero_sub, Nat.zero_sub, List.take_zero, List.append_nil]
    rfl
  | succ l =>
    have hle : l * hLen ≤ dkLen := by
      have hmul := Nat.div_mul_le_self (dkLen + (hLen - 1)) hLen
      rw [hl, Nat.succ_mul] at hmul
      omega
    have hlength := @length_firstBlocks prf hLen P S hprf c l
    have hwhole : (firstBlocks prf P S c l).take dkLen = firstBlocks prf P S c l :=
      List.take_of_length_le (by rwa [hlength])
    rw [firstBlocks_succ, List.take_append, hlength, hwhole, Nat.add_sub_cancel]
    rfl

end

end Pbkdf2
