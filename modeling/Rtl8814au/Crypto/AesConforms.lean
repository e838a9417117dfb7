import Rtl8814au.Crypto.AesInverse
import Rtl8814au.Spec.Fips197

/-!
# Crypto.AesConforms

`aes128Encrypt` is the cipher of FIPS 197.

* `stateOf` reads a block as a state of the standard; each layer of a round commutes with it.
* `ofByte_sBox`, `ofByte_rcon`: the tables hold what the field gives.
* `spec_mixColumn_eq`: a product modulo `X^4 + 1` in its coefficients.
* `ofByte_schedule`: the key schedule, word by word.
-/

namespace Rtl8814au
namespace Crypto

open Gf256 Spec.Fips197

/-! ## The tables -/

/-- The affine transformation of the S-box, undone: three rotations and a constant. -/
def unaffine (b : UInt8) : UInt8 :=
  (b <<< 1 ||| b >>> 7) ^^^ (b <<< 3 ||| b >>> 5) ^^^ (b <<< 6 ||| b >>> 2) ^^^ 0x05

theorem affine_unaffine (b : UInt8) : affine (unaffine b) = b :=
  Bytes.forall_byte (P := fun b => affine (unaffine b) = b) (by decide +kernel) b

theorem mul_unaffine_sBox (b : UInt8) : b = 0 ∨ mul b (unaffine (sBox.at b.toNat)) = 1 :=
  forall_sBox (P := fun b s => b = 0 ∨ mul b (unaffine s) = 1) (by decide +kernel) b

theorem ofByte_sBox (b : UInt8) : ofByte (sBox.at b.toNat) = Spec.Fips197.sBox (ofByte b) := by
  have hinv : (ofByte b)⁻¹ = ofByte (unaffine (sBox.at b.toNat)) := by
    rcases mul_unaffine_sBox b with rfl | hone
    · rw [ofByte_zero, inv_zero, ← ofByte_zero]
      rfl
    · exact inv_ofByte hone
  rw [Spec.Fips197.sBox, hinv, toByte_ofByte, affine_unaffine]

theorem rcon_eq {j : Nat} (hpos : 0 < j) (hle : j ≤ 10) : rcon.at j = power (j - 1) := by
  have hall : ∀ j : Fin 11, 0 < j.val → rcon.at j = power (j - 1) := by decide +kernel
  exact hall ⟨j, by omega⟩ hpos

theorem ofByte_rcon {j : Nat} (hpos : 0 < j) (hle : j ≤ 10) : ofByte (rcon.at j) = x ^ (j - 1) := by
  rw [rcon_eq hpos hle, ofByte_power]

/-! ## The layers -/

theorem stateOf_subBytes (b : Block) :
    stateOf (subBytes b) = Spec.Fips197.subBytes (stateOf b) := by
  funext r c
  have hin : r.val + 4 * c.val < b.bytes.length := by rw [b.length_eq]; omega
  have hat : (subBytes b).bytes.at (r + 4 * c) = sBox.at (b.bytes.at (r + 4 * c)).toNat := by
    simp only [subBytes, Buf.map, Bytes.at, List.getD_eq_getElem?_getD, List.getElem?_map,
      List.getElem?_eq_getElem hin, Option.map_some, Option.getD_some]
  rw [stateOf, hat, ofByte_sBox]
  rfl

theorem stateOf_shiftRows (b : Block) :
    stateOf (shiftRows b) = Spec.Fips197.shiftRows (stateOf b) := by
  funext r c
  fin_cases r <;> fin_cases c <;> rfl

theorem stateOf_addRoundKey (b key : Block) (r c : Fin 4) :
    stateOf (addRoundKey b key) r c = stateOf b r c + stateOf key r c := by
  have hat : (addRoundKey b key).bytes.at (r + 4 * c) =
      b.bytes.at (r + 4 * c) ^^^ key.bytes.at (r + 4 * c) :=
    Bytes.at_xor (by rw [b.length_eq]; omega) (by rw [key.length_eq]; omega)
  rw [stateOf, hat, ofByte_xor]
  rfl

/-! ## Columns -/

section

open Polynomial

theorem monic_column : (X ^ 4 + 1 : Elem[X]).Monic := by
  monicity!

/-- The product modulo `X^4 + 1`: what is of degree four and more comes back at the bottom. -/
theorem columnFactor_mul_mod (a : Word) :
    columnFactor * columnPolynomial a %ₘ (X ^ 4 + 1) =
      C (ofByte 3 * a 0 + a 1 + a 2 + ofByte 2 * a 3) * X ^ 3 +
        C (a 0 + a 1 + ofByte 2 * a 2 - ofByte 3 * a 3) * X ^ 2 +
        C (a 0 + ofByte 2 * a 1 - ofByte 3 * a 2 - a 3) * X +
        C (ofByte 2 * a 0 - ofByte 3 * a 1 - a 2 - a 3) := by
  have hone : ofByte 0x01 = 1 := ofByte_one
  refine (div_modByMonic_unique (C (ofByte 3 * a 3) * X ^ 2 + C (ofByte 3 * a 2 + a 3) * X +
    C (ofByte 3 * a 1 + a 2 + a 3)) _ monic_column ⟨?_, ?_⟩).2
  · rw [columnFactor, columnPolynomial, hone]
    simp only [C_add, C_sub, C_mul, C_1]
    ring
  · have hdeg : (X ^ 4 + 1 : Elem[X]).degree = 4 := by compute_degree!
    rw [hdeg]
    exact degree_cubic_lt

theorem neg_eq (a : Elem) : -a = a := by
  linear_combination -a * two_eq_zero

theorem coeff_cubic (p0 p1 p2 p3 : Elem) (r : Fin 4) :
    (C p3 * X ^ 3 + C p2 * X ^ 2 + C p1 * X + C p0).coeff r = ![p0, p1, p2, p3] r := by
  fin_cases r <;> simp [coeff_X, coeff_C]

/-- The matrix of the column transformation. -/
theorem spec_mixColumn_eq (a : Word) (r : Fin 4) :
    Spec.Fips197.mixColumn a r =
      ofByte 2 * a r + ofByte 3 * a (r + 1) + a (r + 2) + a (r + 3) := by
  rw [Spec.Fips197.mixColumn, columnFactor_mul_mod, coeff_cubic]
  simp only [sub_eq_add_neg, neg_eq]
  fin_cases r
  · rfl
  · show a 0 + ofByte 2 * a 1 + ofByte 3 * a 2 + a 3 = ofByte 2 * a 1 + ofByte 3 * a 2 + a 3 + a 0
    ring
  · show a 0 + a 1 + ofByte 2 * a 2 + ofByte 3 * a 3 = ofByte 2 * a 2 + ofByte 3 * a 3 + a 0 + a 1
    ring
  · show ofByte 3 * a 0 + a 1 + a 2 + ofByte 2 * a 3 = ofByte 2 * a 3 + ofByte 3 * a 0 + a 1 + a 2
    ring

end

theorem ofByte_mixColumn (a : Fin 4 → UInt8) (r : Fin 4) :
    ofByte ((mixColumn (a 0) (a 1) (a 2) (a 3)).bytes.at r) =
      Spec.Fips197.mixColumn (fun i => ofByte (a i)) r := by
  have hthree : ofByte 3 = x + 1 := by
    rw [← ofByte_two, ← ofByte_one, ← ofByte_xor]
    rfl
  rw [spec_mixColumn_eq, ofByte_two, hthree]
  simp only [mixColumn, Bytes.at]
  fin_cases r
  · simp [ofByte_xor, ofByte_xtime]
    ring
  · simp [ofByte_xor, ofByte_xtime]
    ring
  · simp [ofByte_xor, ofByte_xtime]
    ring
  · simp [ofByte_xor, ofByte_xtime]
    ring

theorem at_mixColumns (b : Block) (r c : Fin 4) :
    (mixColumns b).bytes.at (r + 4 * c) =
      (mixColumn (b.bytes.at ((0 : Fin 4) + 4 * c)) (b.bytes.at ((1 : Fin 4) + 4 * c))
        (b.bytes.at ((2 : Fin 4) + 4 * c)) (b.bytes.at ((3 : Fin 4) + 4 * c))).bytes.at r := by
  fin_cases r <;> fin_cases c <;> rfl

theorem stateOf_mixColumns (b : Block) :
    stateOf (mixColumns b) = Spec.Fips197.mixColumns (stateOf b) := by
  funext r c
  rw [stateOf, at_mixColumns]
  exact ofByte_mixColumn (fun i => b.bytes.at (i + 4 * c)) r

/-! ## The key schedule -/

noncomputable def wordOf (schedule : Bytes) (i : Nat) : Word := fun r =>
  ofByte (schedule.at (4 * i + r))

/-- The first words are those of the standard. -/
structure Expanded (key : Block) (n : Nat) (schedule : Bytes) : Prop where
  length : schedule.length = 16 + 4 * n
  words : ∀ i < 4 + n, wordOf schedule i = w key i

/-- The rotated and substituted word, with a constant in its first byte. -/
theorem ofByte_rotated (t : Bytes) (c : UInt8) (r : Fin 4) :
    ofByte (Bytes.at [sBox.at (t.at 1).toNat ^^^ c, sBox.at (t.at 2).toNat,
        sBox.at (t.at 3).toNat, sBox.at (t.at 0).toNat] r) =
      subWord (rotWord fun i => ofByte (t.at i)) r + if r = 0 then ofByte c else 0 := by
  fin_cases r
  · show ofByte (sBox.at (t.at 1).toNat ^^^ c) = Spec.Fips197.sBox (ofByte (t.at 1)) + ofByte c
    rw [ofByte_xor, ofByte_sBox]
  · show ofByte (sBox.at (t.at 2).toNat) = Spec.Fips197.sBox (ofByte (t.at 2)) + 0
    rw [ofByte_sBox, add_zero]
  · show ofByte (sBox.at (t.at 3).toNat) = Spec.Fips197.sBox (ofByte (t.at 3)) + 0
    rw [ofByte_sBox, add_zero]
  · show ofByte (sBox.at (t.at 0).toNat) = Spec.Fips197.sBox (ofByte (t.at 0)) + 0
    rw [ofByte_sBox, add_zero]

theorem wordOf_expandKeyStep {key : Block} {n : Nat} {schedule : Bytes}
    (h : Expanded key n schedule) (hn : n < 40) :
    wordOf (expandKeyStep schedule) (4 + n) = w key (4 + n) := by
  have hlen := h.length
  have hold : ∀ i (r : Fin 4), i < 4 + n → ofByte (schedule.at (4 * i + r)) = w key i r := by
    intro i r hi
    rw [← h.words i hi]
    rfl
  have hlast : (schedule.slice (16 + 4 * n - 4) 4).length = 4 := Bytes.length_slice (by omega)
  have hfirst : (schedule.slice (16 + 4 * n - 16) 4).length = 4 := Bytes.length_slice (by omega)
  funext r
  rw [w, if_neg (by omega), show 4 + n - 4 = n by omega, show 4 + n - 1 = n + 3 by omega]
  simp only [wordOf, expandKeyStep, hlen]
  rw [Bytes.at_append_right (by omega), hlen, show 4 * (4 + n) + r.val - (16 + 4 * n) = r.val by omega]
  have hbefore : ofByte (schedule.at (16 + 4 * n - 16 + r)) = w key n r := by
    rw [← hold n r (by omega), show 16 + 4 * n - 16 = 4 * n by omega]
  by_cases hround : n % 4 = 0
  · have hword : (fun i : Fin 4 => ofByte ((schedule.slice (16 + 4 * n - 4) 4).at i)) =
        w key (n + 3) := by
      funext i
      rw [Bytes.at_slice i.isLt, ← hold (n + 3) i (by omega),
        show 16 + 4 * n - 4 = 4 * (n + 3) by omega]
    have hrcon : ofByte (rcon.at ((16 + 4 * n) / 16)) = x ^ ((4 + n) / 4 - 1) := by
      rw [show (16 + 4 * n) / 16 = (4 + n) / 4 by omega]
      exact ofByte_rcon (by omega) (by omega)
    rw [if_pos (by omega), if_pos (by omega), Bytes.at_xor (by omega) r.isLt, ofByte_xor,
      Bytes.at_slice r.isLt, hbefore, ofByte_rotated, hword, hrcon]
    rfl
  · rw [if_neg (by omega), if_neg (by omega), Bytes.at_xor (by omega) (by omega), ofByte_xor,
      Bytes.at_slice r.isLt, Bytes.at_slice r.isLt, hbefore,
      show 16 + 4 * n - 4 = 4 * (n + 3) by omega, hold (n + 3) r (by omega)]
    rfl

theorem Expanded.step {key : Block} {n : Nat} {schedule : Bytes} (h : Expanded key n schedule)
    (hn : n < 40) : Expanded key (n + 1) (expandKeyStep schedule) where
  length := by
    have hlen := h.length
    have hword : (schedule.slice (schedule.length - 16) 4).length = 4 := Bytes.length_slice (by omega)
    have hlast : (schedule.slice (schedule.length - 4) 4).length = 4 := Bytes.length_slice (by omega)
    simp only [expandKeyStep, List.length_append, Bytes.length_xor, hword]
    split
    · simp only [List.length_cons, List.length_nil]
      omega
    · omega
  words i hi := by
    by_cases hnew : i = 4 + n
    · rw [hnew]
      exact wordOf_expandKeyStep h hn
    · have hlen := h.length
      rw [← h.words i (by omega)]
      funext r
      rw [wordOf, expandKeyStep, Bytes.at_append_left (by omega)]
      rfl

theorem expanded_keyExpansion (key : Block) : Expanded key 40 (aes128KeyExpansion key) := by
  have hall : ∀ n ≤ 40, Expanded key n (Nat.repeat expandKeyStep n key.bytes) := by
    intro n
    induction n with
    | zero =>
      intro _
      refine ⟨key.length_eq, ?_⟩
      intro i hi
      rw [w, if_pos hi]
      rfl
    | succ n ih =>
      intro hn
      exact (ih (by omega)).step hn
  exact hall 40 (Nat.le_refl 40)

theorem stateOf_roundKey (key : Block) {round : Nat} (h : round ≤ 10) (r c : Fin 4) :
    stateOf (roundKey (aes128KeyExpansion key) round) r c = w key (4 * round + c) r := by
  have hexpanded := expanded_keyExpansion key
  have hlen := hexpanded.length
  have hbytes : (roundKey (aes128KeyExpansion key) round).bytes =
      (aes128KeyExpansion key).slice (round * 16) 16 :=
    Buf.bytes_ofBytes (Bytes.length_slice (by omega))
  rw [← hexpanded.words _ (by omega), stateOf, hbytes, Bytes.at_slice (by omega), wordOf,
    show round * 16 + (r.val + 4 * c.val) = 4 * (4 * round + c.val) + r.val by omega]

/-! ## The cipher -/

theorem stateOf_addRound (b key : Block) {round : Nat} (h : round ≤ 10) :
    stateOf (addRoundKey b (roundKey (aes128KeyExpansion key) round)) =
      Spec.Fips197.addRoundKey key (stateOf b) round := by
  funext r c
  rw [stateOf_addRoundKey, stateOf_roundKey key h]
  rfl

theorem stateOf_encryptRound (b key : Block) {round : Nat} (h : round ≤ 10) :
    stateOf (encryptRound (aes128KeyExpansion key) b round) =
      Spec.Fips197.round key (stateOf b) round := by
  rw [encryptRound, stateOf_addRound _ _ h, stateOf_mixColumns, stateOf_shiftRows, stateOf_subBytes]
  rfl

theorem stateOf_rounds (key : Block) {rounds : List Nat} (h : ∀ i ∈ rounds, i ≤ 10) (b : Block) :
    stateOf (rounds.foldl (encryptRound (aes128KeyExpansion key)) b) =
      rounds.foldl (Spec.Fips197.round key) (stateOf b) := by
  induction rounds generalizing b with
  | nil => rfl
  | cons i rounds ih =>
    rw [List.foldl_cons, List.foldl_cons, ih (fun j hj => h j (List.mem_cons_of_mem i hj)),
      stateOf_encryptRound b key (h i List.mem_cons_self)]

theorem output_stateOf (b : Block) : output (stateOf b) = b := by
  apply Buf.ext
  simp only [output, stateOf, toByte_ofByte]
  exact map_at_range b

theorem aes128Encrypt_conforms (key plaintext : Block) :
    aes128Encrypt key plaintext = cipher key plaintext := by
  have hrounds : ∀ i ∈ [1, 2, 3, 4, 5, 6, 7, 8, 9], i ≤ 10 := by decide
  rw [← output_stateOf (aes128Encrypt key plaintext)]
  simp only [aes128Encrypt, cipher]
  rw [stateOf_addRound _ _ (Nat.le_refl 10), stateOf_shiftRows, stateOf_subBytes,
    stateOf_rounds key hrounds, stateOf_addRound _ _ (Nat.zero_le 10)]

end Crypto
end Rtl8814au
