import Mathlib.Data.Fintype.Vector
import Rtl8814au.Crypto.Aes
import Rtl8814au.Lib.Gf256

/-!
# Crypto.AesInverse

`aes128Decrypt` undoes `aes128Encrypt`.

* `ofByte_gmul`: `gmul` is the multiplication of the field with 256 elements, so that it is linear.
* `rowOfProduct`, `invMixRow_mixRow`: the two column matrices are inverse, one row of the product.
  The rows are rotations of each other, so one row is enough.
* `decryptRound_encryptRound`: a decryption round takes the S-box and row layer of one round key to
  that of the one before.
-/

namespace Rtl8814au
namespace Crypto

open Gf256

/-! ## Substitution and permutation -/

/-- A property of a byte and its entry in the S-box. -/
theorem forall_sBox {P : UInt8 → UInt8 → Prop} (h : ∀ p ∈ sBox.zipIdx, P (UInt8.ofNat p.2) p.1)
    (b : UInt8) : P b (sBox.at b.toNat) := by
  have hlen : sBox.length = 256 := by decide +kernel
  have hentry : P (UInt8.ofNat b.toNat) (sBox.at b.toNat) :=
    Bytes.forall_entry (P := fun i s => P (UInt8.ofNat i) s) h (hlen ▸ b.toNat_lt)
  rwa [UInt8.ofNat_toNat] at hentry

theorem invSBox_sBox (b : UInt8) : invSBox.at (sBox.at b.toNat).toNat = b :=
  forall_sBox (P := fun b s => invSBox.at s.toNat = b) (by decide +kernel) b

theorem invSubBytes_subBytes (state : Block) : invSubBytes (subBytes state) = state := by
  apply Buf.ext
  simp only [invSubBytes, subBytes, Buf.map, List.map_map]
  exact List.map_id'' invSBox_sBox _

theorem map_at_range (state : Block) :
    [0, 1, 2, 3, 4, 5, 6, 7, 8, 9, 10, 11, 12, 13, 14, 15].map state.bytes.at = state.bytes := by
  refine List.ext_getElem (by simp) ?_
  intro i hi hi'
  have hrange : [0, 1, 2, 3, 4, 5, 6, 7, 8, 9, 10, 11, 12, 13, 14, 15] = List.range 16 := rfl
  simp only [hrange, List.getElem_map, List.getElem_range, Bytes.at, List.getD_eq_getElem?_getD,
    List.getElem?_eq_getElem hi', Option.getD_some]

theorem invShiftRows_shiftRows (state : Block) : invShiftRows (shiftRows state) = state :=
  Buf.ext (map_at_range state)

/-! ## Columns -/

theorem ofByte_xtime (b : UInt8) : ofByte (xtime b) = x * ofByte b := ofByte_double b

theorem ofByte_addend (a b r : UInt8) : ofByte (if b &&& 1 ≠ 0 then r ^^^ a else r) =
    ofByte r + ofBit (b.toNat.testBit 0) * ofByte a := by
  have hbit : b &&& 1 ≠ 0 ↔ b.toNat.testBit 0 = true :=
    Bytes.forall_byte (P := fun b => b &&& 1 ≠ 0 ↔ b.toNat.testBit 0 = true) (by decide +kernel) b
  by_cases h : b &&& 1 ≠ 0
  · rw [if_pos h, ofByte_xor, hbit.mp h]
    simp [ofBit]
  · rw [if_neg h, Bool.eq_false_iff.mpr fun htrue => h (hbit.mpr htrue)]
    simp [ofBit]

/-- The loop adds up the multiples of `a` by the bits of `b` it has seen. -/
theorem ofByte_gmulLoop (n : Nat) (a b r : UInt8) : ofByte (gmulLoop n a b r) =
    ofByte r + ofByte a * ∑ i ∈ Finset.range n, ofBit (b.toNat.testBit i) * x ^ i := by
  induction n generalizing a b r with
  | zero => simp [gmulLoop]
  | succ n ih =>
    have hshift : ∀ i, (b >>> 1).toNat.testBit i = b.toNat.testBit (i + 1) := by
      intro i
      show (b.toNat >>> 1).testBit i = _
      rw [Nat.testBit_shiftRight, Nat.add_comm]
    have hsum : ∑ i ∈ Finset.range n, ofBit (b.toNat.testBit (i + 1)) * x ^ (i + 1) =
        x * ∑ i ∈ Finset.range n, ofBit (b.toNat.testBit (i + 1)) * x ^ i := by
      rw [Finset.mul_sum]
      refine Finset.sum_congr rfl fun i _ => ?_
      ring
    rw [gmulLoop, ih, ofByte_addend, ofByte_xtime, Finset.sum_range_succ', hsum]
    simp only [hshift]
    ring

theorem ofByte_gmul (a b : UInt8) : ofByte (gmul a b) = ofByte a * ofByte b := by
  rw [gmul, ofByte_gmulLoop, ofByte_zero, zero_add]
  rfl

/-- Linear in the first factor, as the product of the field is. -/
theorem gmul_xor (a b c : UInt8) : gmul (a ^^^ b) c = gmul a c ^^^ gmul b c := by
  apply ofByte_bijective.injective
  rw [ofByte_xor, ofByte_gmul, ofByte_gmul, ofByte_gmul, ofByte_xor, add_mul]

/-- A row of the product of a column with the matrix of `mixColumn`. -/
def mixRow (a0 a1 a2 a3 : UInt8) : UInt8 := xtime a0 ^^^ (xtime a1 ^^^ a1) ^^^ a2 ^^^ a3

def invMixRow (a0 a1 a2 a3 : UInt8) : UInt8 :=
  gmul a0 0x0e ^^^ gmul a1 0x0b ^^^ gmul a2 0x0d ^^^ gmul a3 0x09

theorem mixColumn_eq (a0 a1 a2 a3 : UInt8) :
    (mixColumn a0 a1 a2 a3).bytes =
      [mixRow a0 a1 a2 a3, mixRow a1 a2 a3 a0, mixRow a2 a3 a0 a1, mixRow a3 a0 a1 a2] := by
  simp only [mixColumn, mixRow, List.cons.injEq, and_true]
  refine ⟨trivial, ?_, ?_, ?_⟩
  · ac_rfl
  · ac_rfl
  · ac_rfl

/-- What the first row of the product of the two matrices makes of one byte of a column. -/
structure RowOfProduct (a : UInt8) : Prop where
  first : gmul (xtime a) 0x0e ^^^ gmul a 0x0b ^^^ gmul a 0x0d ^^^
    (gmul (xtime a) 0x09 ^^^ gmul a 0x09) = a
  second : gmul (xtime a) 0x0e ^^^ gmul a 0x0e ^^^ gmul (xtime a) 0x0b ^^^ gmul a 0x0d ^^^
    gmul a 0x09 = 0
  third : gmul a 0x0e ^^^ (gmul (xtime a) 0x0b ^^^ gmul a 0x0b) ^^^ gmul (xtime a) 0x0d ^^^
    gmul a 0x09 = 0
  fourth : gmul a 0x0e ^^^ gmul a 0x0b ^^^ (gmul (xtime a) 0x0d ^^^ gmul a 0x0d) ^^^
    gmul (xtime a) 0x09 = 0

/-- The coefficients of the second matrix. -/
theorem ofByte_coefficients : ofByte 0x0e = x ^ 3 + x ^ 2 + x ∧ ofByte 0x0b = x ^ 3 + x + 1 ∧
    ofByte 0x0d = x ^ 3 + x ^ 2 + 1 ∧ ofByte 0x09 = x ^ 3 + 1 := by
  refine ⟨?_, ?_, ?_, ?_⟩
  · simp [ofByte, ofBit, Finset.sum_range_succ, Nat.testBit]
    ring
  · simp [ofByte, ofBit, Finset.sum_range_succ, Nat.testBit]
    ring
  · simp [ofByte, ofBit, Finset.sum_range_succ, Nat.testBit]
    ring
  · simp [ofByte, ofBit, Finset.sum_range_succ, Nat.testBit]
    ring

/-- The coefficients of the product are those of one, up to multiples of two. -/
theorem rowOfProduct (a : UInt8) : RowOfProduct a := by
  obtain ⟨he, hb, hd, h9⟩ := ofByte_coefficients
  constructor
  · apply ofByte_bijective.injective
    simp only [ofByte_xor, ofByte_gmul, ofByte_xtime, he, hb, hd, h9]
    linear_combination (x ^ 4 + 2 * x ^ 3 + x ^ 2 + x + 1) * ofByte a * two_eq_zero
  · apply ofByte_bijective.injective
    simp only [ofByte_xor, ofByte_gmul, ofByte_xtime, ofByte_zero, he, hb, hd, h9]
    linear_combination (x ^ 4 + 2 * x ^ 3 + 2 * x ^ 2 + x + 1) * ofByte a * two_eq_zero
  · apply ofByte_bijective.injective
    simp only [ofByte_xor, ofByte_gmul, ofByte_xtime, ofByte_zero, he, hb, hd, h9]
    linear_combination (x ^ 4 + 2 * x ^ 3 + x ^ 2 + 2 * x + 1) * ofByte a * two_eq_zero
  · apply ofByte_bijective.injective
    simp only [ofByte_xor, ofByte_gmul, ofByte_xtime, ofByte_zero, he, hb, hd, h9]
    linear_combination (x ^ 4 + 2 * x ^ 3 + x ^ 2 + 2 * x + 1) * ofByte a * two_eq_zero

theorem invMixRow_mixRow (a0 a1 a2 a3 : UInt8) :
    invMixRow (mixRow a0 a1 a2 a3) (mixRow a1 a2 a3 a0) (mixRow a2 a3 a0 a1) (mixRow a3 a0 a1 a2) =
      a0 := by
  simp only [invMixRow, mixRow, gmul_xor]
  calc
    _ = (gmul (xtime a0) 0x0e ^^^ gmul a0 0x0b ^^^ gmul a0 0x0d ^^^
          (gmul (xtime a0) 0x09 ^^^ gmul a0 0x09)) ^^^
        (gmul (xtime a1) 0x0e ^^^ gmul a1 0x0e ^^^ gmul (xtime a1) 0x0b ^^^ gmul a1 0x0d ^^^
          gmul a1 0x09) ^^^
        (gmul a2 0x0e ^^^ (gmul (xtime a2) 0x0b ^^^ gmul a2 0x0b) ^^^ gmul (xtime a2) 0x0d ^^^
          gmul a2 0x09) ^^^
        (gmul a3 0x0e ^^^ gmul a3 0x0b ^^^ (gmul (xtime a3) 0x0d ^^^ gmul a3 0x0d) ^^^
          gmul (xtime a3) 0x09) := by ac_rfl
    _ = a0 ^^^ 0 ^^^ 0 ^^^ 0 := by
      rw [(rowOfProduct a0).first, (rowOfProduct a1).second, (rowOfProduct a2).third,
        (rowOfProduct a3).fourth]
    _ = a0 := by simp

theorem invMixColumn_eq (b0 b1 b2 b3 : UInt8) :
    (invMixColumn b0 b1 b2 b3).bytes = [invMixRow b0 b1 b2 b3, invMixRow b1 b2 b3 b0,
      invMixRow b2 b3 b0 b1, invMixRow b3 b0 b1 b2] := by
  simp only [invMixColumn, invMixRow, List.cons.injEq, and_true]
  refine ⟨trivial, ?_, ?_, ?_⟩ <;> ac_rfl

/-- Each row of the product is the first one, rotated. -/
theorem invMixColumn_mixColumn (a0 a1 a2 a3 : UInt8) :
    (invMixColumn ((mixColumn a0 a1 a2 a3).bytes.at 0) ((mixColumn a0 a1 a2 a3).bytes.at 1)
      ((mixColumn a0 a1 a2 a3).bytes.at 2) ((mixColumn a0 a1 a2 a3).bytes.at 3)).bytes =
        [a0, a1, a2, a3] := by
  rw [invMixColumn_eq, mixColumn_eq]
  simp only [Bytes.at, List.getD_cons_zero, List.getD_cons_succ, invMixRow_mixRow]

theorem invMixColumns_mixColumns (state : Block) : invMixColumns (mixColumns state) = state := by
  have hcolumn : ∀ c ∈ [0, 4, 8, 12], (invMixColumn ((mixColumns state).bytes.at c)
      ((mixColumns state).bytes.at (c + 1)) ((mixColumns state).bytes.at (c + 2))
      ((mixColumns state).bytes.at (c + 3))).bytes = [state.bytes.at c, state.bytes.at (c + 1),
        state.bytes.at (c + 2), state.bytes.at (c + 3)] := by
    intro c hc
    simp only [List.mem_cons, List.not_mem_nil, or_false] at hc
    rcases hc with rfl | rfl | rfl | rfl
    · exact invMixColumn_mixColumn _ _ _ _
    · exact invMixColumn_mixColumn _ _ _ _
    · exact invMixColumn_mixColumn _ _ _ _
    · exact invMixColumn_mixColumn _ _ _ _
  exact Buf.ext ((List.flatMap_congr hcolumn).trans (map_at_range state))

/-! ## Rounds -/

theorem addRoundKey_addRoundKey (state key : Block) :
    addRoundKey (addRoundKey state key) key = state :=
  Buf.ext (Bytes.xor_xor_cancel (by simp))

theorem decryptRound_encryptRound (schedule : Bytes) (state : Block) (round : Nat) :
    decryptRound schedule (shiftRows (subBytes (encryptRound schedule state round))) round =
      shiftRows (subBytes state) := by
  rw [decryptRound, invShiftRows_shiftRows, invSubBytes_subBytes, encryptRound,
    addRoundKey_addRoundKey, invMixColumns_mixColumns]

theorem foldr_decryptRound (schedule : Bytes) (rounds : List Nat) (state : Block) :
    rounds.reverse.foldl (decryptRound schedule)
        (shiftRows (subBytes (rounds.foldl (encryptRound schedule) state))) =
      shiftRows (subBytes state) := by
  induction rounds generalizing state with
  | nil => rfl
  | cons round rounds ih =>
    simp only [List.reverse_cons, List.foldl_append, List.foldl_cons, List.foldl_nil, ih]
    exact decryptRound_encryptRound schedule state round

theorem aes128Decrypt_aes128Encrypt (key plaintext : Block) :
    aes128Decrypt key (aes128Encrypt key plaintext) = plaintext := by
  simp only [aes128Decrypt, aes128Encrypt, addRoundKey_addRoundKey]
  rw [show [9, 8, 7, 6, 5, 4, 3, 2, 1] = [1, 2, 3, 4, 5, 6, 7, 8, 9].reverse from rfl,
    foldr_decryptRound, invShiftRows_shiftRows, invSubBytes_subBytes, addRoundKey_addRoundKey]

/-! ## The other direction -/

instance : Finite Block := by
  have hbyte : Finite UInt8 := Finite.of_injective UInt8.toFin fun _ _ => UInt8.toFin_inj.mp
  let asVector (b : Block) : List.Vector UInt8 16 := ⟨b.bytes, b.length_eq⟩
  apply Finite.of_injective asVector
  intro a b h
  exact Buf.ext (congrArg Subtype.val h)

/-- There are finitely many blocks, so that a left inverse of encryption is a right one. -/
theorem aes128Encrypt_aes128Decrypt (key ciphertext : Block) :
    aes128Encrypt key (aes128Decrypt key ciphertext) = ciphertext := by
  have hleft : Function.LeftInverse (aes128Decrypt key) (aes128Encrypt key) :=
    aes128Decrypt_aes128Encrypt key
  have hsurjective : Function.Surjective (aes128Encrypt key) :=
    Finite.surjective_of_injective hleft.injective
  exact hleft.rightInverse_of_surjective hsurjective ciphertext

theorem aes128_inversion (key block : Block) :
    aes128Decrypt key (aes128Encrypt key block) = block ∧
      aes128Encrypt key (aes128Decrypt key block) = block :=
  ⟨aes128Decrypt_aes128Encrypt key block, aes128Encrypt_aes128Decrypt key block⟩

end Crypto
end Rtl8814au
