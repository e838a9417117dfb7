import Rtl8814au.Crypto.CcmpCorrect
import Rtl8814au.Spec.Mpdu

/-!
# Crypto.CcmpStandard

`ccmp_encrypt` as RFC 3610 CCM over what 802.11 takes from the header.

* `ccmpNonce_setProtected`, `ccmpAad_setProtected`: nonce and AAD are those of the standard, for any
  header of 24 or 26 bytes.
* `ccmpSeal_eq_rfc3610`: the two chains are those of the RFC.
* `ccmpEncrypt_standard`: the frame that comes out, and the blocks that went into the cipher.
-/

namespace Rtl8814au
namespace Crypto

open Spec.Mpdu (Mutable protectedBit frameControl aadFrameControl)

/-! ## The header with the Protected Frame bit set -/

theorem at_setProtected (frame : Bytes) {i : Nat} (hi : i ≠ 1) :
    (setProtected frame).at i = frame.at i := by
  simp only [setProtected, Bytes.at, List.getD_eq_getElem?_getD, List.getElem?_set_ne hi.symm]

theorem at_one_setProtected {frame : Bytes} (h : 1 < frame.length) :
    (setProtected frame).at 1 = frame.at 1 ||| 0x40 := by
  rw [setProtected, Bytes.at, List.getD_eq_getElem?_getD, List.getElem?_set_self h,
    Option.getD_some]

theorem slice_setProtected (frame : Bytes) {off : Nat} (n : Nat) (h : 2 ≤ off) :
    (setProtected frame).slice off n = frame.slice off n := by
  rw [setProtected, Bytes.slice, Bytes.slice, List.drop_set_of_lt (by omega)]

/-! ## Nonce and AAD -/

/-- Bit by bit, what the two masks keep of the frame control is what the AAD has of it. -/
theorem frameControl_masks (header : Bytes) :
    [header.at 0 &&& 0x8F, (header.at 1 ||| 0x40) &&& 0xC7] =
      Bytes.le 2 (aadFrameControl (frameControl header)) := by
  have hmask0 : ∀ j < 8, (0x8F : UInt8).toNat.testBit j =
      (decide (j = protectedBit) || !decide (Mutable j)) := by decide
  have hmask1 : ∀ j < 8, (0xC7 : UInt8).toNat.testBit j = !decide (Mutable (8 + j)) := by decide
  have hset : ∀ j < 8, (0x40 : UInt8).toNat.testBit j = decide (8 + j = protectedBit) := by decide
  have h0 : header.at 0 &&& 0x8F = UInt8.ofNat (aadFrameControl (frameControl header)) := by
    apply Bytes.ext_testBit
    intro j hj
    have hbyte := header.bit_byte (i := 0) hj
    rw [Nat.mul_zero, Nat.zero_add] at hbyte
    have hne : j ≠ protectedBit := by
      rw [protectedBit]
      omega
    rw [Bytes.testBit_ofNat _ hj, Spec.Mpdu.testBit_aadFrameControl _ (by omega),
      Spec.Mpdu.testBit_frameControl _ (by omega), UInt8.toNat_and, Nat.testBit_and, hmask0 j hj,
      hbyte, decide_eq_false hne, Bool.false_or, Bool.false_or]
  have h1 : (header.at 1 ||| 0x40) &&& 0xC7 =
      UInt8.ofNat (aadFrameControl (frameControl header) / 2 ^ 8) := by
    apply Bytes.ext_testBit
    intro j hj
    have hbyte := header.bit_byte (i := 1) hj
    rw [Nat.mul_one] at hbyte
    have hkept : decide (8 + j = protectedBit) = true → (!decide (Mutable (8 + j))) = true := by
      rw [decide_eq_true_eq]
      intro hj'
      rw [hj']
      decide
    rw [Bytes.testBit_ofNat _ hj, Nat.testBit_div_two_pow, Nat.add_comm j 8,
      Spec.Mpdu.testBit_aadFrameControl _ (by omega), Spec.Mpdu.testBit_frameControl _ (by omega),
      UInt8.toNat_and, Nat.testBit_and, UInt8.toNat_or, Nat.testBit_or, hset j hj, hmask1 j hj,
      hbyte]
    cases hp : decide (8 + j = protectedBit) with
    | false => rw [Bool.or_false, Bool.false_or]
    | true => rw [hkept hp, Bool.or_true, Bool.true_or, Bool.and_true]
  rw [h0, h1]
  rfl

/-- The low half of the QoS control: the nonce and the AAD have it. -/
theorem low_bits_tid (header : Bytes) : header.at 24 &&& 0x0F = UInt8.ofNat (Spec.Mpdu.tid header) := by
  have hlow := Spec.Mpdu.le_low_bits (header.slice 24 2)
  rw [Bytes.at_slice (by decide)] at hlow
  exact (List.head_eq_of_cons_eq hlow).symm

theorem ccmpNonce_setProtected {header : Bytes} {hdrLen : Nat} (hh : hdrLen = 24 ∨ hdrLen = 26)
    (pn : UInt64) : ccmpNonce (setProtected header) hdrLen (pnBytes pn) =
      Spec.Mpdu.nonce header (decide (hdrLen = 26)) pn.toNat := by
  rw [ccmpNonce, slice_setProtected _ _ (by decide), pnBytes_eq, Spec.Mpdu.nonce, ccmpPriority,
    at_setProtected _ (by decide), low_bits_tid]
  rcases hh with rfl | rfl
  · rfl
  · rfl

theorem ccmpAad_setProtected {header : Bytes} {hdrLen : Nat} (hh : hdrLen = 24 ∨ hdrLen = 26)
    (hl : header.length = hdrLen) : ccmpAad (setProtected header) hdrLen =
      Spec.Mpdu.aad header (decide (hdrLen = 26)) := by
  have hfragment := Spec.Mpdu.le_low_bits (header.slice 22 2)
  have htid := Spec.Mpdu.le_low_bits (header.slice 24 2)
  rw [Bytes.at_slice (by decide)] at hfragment htid
  rw [ccmpAad, slice_setProtected _ _ (by decide), slice_setProtected _ _ (by decide),
    slice_setProtected _ _ (by decide), at_one_setProtected (by omega), at_setProtected _ (by decide),
    at_setProtected _ (by decide), at_setProtected _ (by decide), frameControl_masks]
  unfold Spec.Mpdu.aad Spec.Mpdu.fragmentNumber Spec.Mpdu.sequenceControl Spec.Mpdu.tid
    Spec.Mpdu.qosControl
  rw [hfragment, htid]
  rcases hh with rfl | rfl
  · rfl
  · rfl

/-! ## Against the RFC -/

section

variable {header : Bytes} (qos : Bool)

theorem length_mpduAad (h : 22 ≤ header.length) :
    (Spec.Mpdu.aad header qos).length = if qos then 24 else 22 := by
  have h1 : (Spec.Mpdu.address1 header).length = 6 := Bytes.length_slice (by omega)
  have h2 : (Spec.Mpdu.address2 header).length = 6 := Bytes.length_slice (by omega)
  have h3 : (Spec.Mpdu.address3 header).length = 6 := Bytes.length_slice (by omega)
  cases qos with
  | false => simp [Spec.Mpdu.aad, h1, h2, h3]
  | true => simp [Spec.Mpdu.aad, h1, h2, h3]

theorem length_mpduNonce (h : 22 ≤ header.length) (pn : Nat) :
    (Spec.Mpdu.nonce header qos pn).length = 13 := by
  have h2 : (Spec.Mpdu.address2 header).length = 6 := Bytes.length_slice (by omega)
  rw [Spec.Mpdu.nonce, List.length_cons, List.length_append, h2, Bytes.length_be]

/-- The sizes are those that CCM allows. -/
theorem fits_ccmParams (h : 22 ≤ header.length) (pn : Nat) {body : Bytes}
    (hbody : body.length ≤ 65535) : Spec.Mpdu.ccmParams.Fits (Spec.Mpdu.nonce header qos pn)
      (Spec.Mpdu.aad header qos) body := by
  refine ⟨length_mpduNonce qos h pn, ?_, ?_⟩
  · show body.length < 65536
    omega
  · rw [length_mpduAad qos h]
    split
    · decide
    · decide

theorem ccmpCtrBlock_eq_rfc3610 (nonce : Bytes) :
    ccmpCtrBlock nonce = Spec.Mpdu.ccmParams.counterBlock nonce := rfl

theorem ccmpB0_eq_rfc3610 (nonce : Bytes) {aad : Bytes} (haad : aad ≠ []) (body : Bytes) :
    ccmpB0 nonce body.length = Spec.Mpdu.ccmParams.block0 nonce aad body := by
  rw [Rfc3610.Params.block0, decide_eq_true haad]
  rfl

end

theorem ccmpSeal_eq_rfc3610 (tk : Block) {header body : Bytes} {hdrLen : Nat} (pn : UInt64)
    (hh : hdrLen = 24 ∨ hdrLen = 26) (hl : header.length = hdrLen) (hbody : body.length ≤ 65535) :
    let sealed := ccmpSeal tk (setProtected header) hdrLen (pnBytes pn) body
    Rfc3610.encrypt (aes128Encrypt tk) Spec.Mpdu.ccmParams
        (Spec.Mpdu.nonce header (decide (hdrLen = 26)) pn.toNat)
        (Spec.Mpdu.aad header (decide (hdrLen = 26))) body = some (sealed.1 ++ sealed.2) := by
  intro sealed
  have hlen : 22 ≤ header.length := by omega
  have haadLen := length_mpduAad (decide (hdrLen = 26)) hlen
  have hbounds : 14 < (Spec.Mpdu.aad header (decide (hdrLen = 26))).length ∧
      (Spec.Mpdu.aad header (decide (hdrLen = 26))).length ≤ 24 := by
    rw [haadLen]
    split
    · decide
    · decide
  have haad : Spec.Mpdu.aad header (decide (hdrLen = 26)) ≠ [] := by
    apply List.ne_nil_of_length_pos
    omega
  have hprefix : Rfc3610.encodeLength (Spec.Mpdu.aad header (decide (hdrLen = 26))).length =
      Bytes.be 2 (Spec.Mpdu.aad header (decide (hdrLen = 26))).length :=
    if_pos (by omega)
  rw [Rfc3610.encrypt_eq (fits_ccmParams _ hlen pn.toNat hbody) haad, hprefix,
    ← ccmpB0_eq_rfc3610 _ haad, ← ccmpMacStart_chain tk _ body.length hbounds.1 (by omega),
    ← ccmpCtrBlock_eq_rfc3610, ← ccmpNonce_setProtected hh, ← ccmpAad_setProtected hh hl]
  rfl

theorem ccmpIv_eq (pn : UInt64) (keyId : UInt8) :
    ccmpIv pn keyId = Spec.Mpdu.ccmpHeader pn.toNat (keyId.toNat % 4) := by
  have hkey : ∀ k : UInt8, (0x20 : UInt8) ||| ((k &&& 0x03) <<< 6) =
      UInt8.ofNat (2 ^ 5 + 2 ^ 6 * (k.toNat % 4)) :=
    Bytes.forall_byte (by decide +kernel)
  have hpn : pnBytes pn = [Spec.Mpdu.pnByte pn.toNat 5, Spec.Mpdu.pnByte pn.toNat 4,
      Spec.Mpdu.pnByte pn.toNat 3, Spec.Mpdu.pnByte pn.toNat 2, Spec.Mpdu.pnByte pn.toNat 1,
      Spec.Mpdu.pnByte pn.toNat 0] := by
    rw [pnBytes_eq]
    simp only [Bytes.be, Spec.Mpdu.pnByte, Nat.div_div_eq_div_mul, List.nil_append,
      List.cons_append, pow_zero, Nat.div_one, pow_one]
    rfl
  simp only [pnBytes, List.cons.injEq, and_true] at hpn
  obtain ⟨h5, h4, h3, h2, h1, h0⟩ := hpn
  rw [ccmpIv, h0, h1, h2, h3, h4, h5, hkey, Spec.Mpdu.ccmpHeader]

/-- The frame that comes out is the protected header, the CCMP header, and the CCM of the RFC over
nonce and AAD of 802.11; `B_0`, `A_0` and the counter blocks of the body are all different. -/
theorem ccmpEncrypt_standard (tk : Block) (header body : Bytes) (hdrLen : Nat) (pn : UInt64)
    (keyId : UInt8) (hh : hdrLen = 24 ∨ hdrLen = 26) (hl : header.length = hdrLen)
    (hbody : body.length ≤ 65535) :
    (∃ sealed, Rfc3610.encrypt (aes128Encrypt tk) Spec.Mpdu.ccmParams
        (Spec.Mpdu.nonce header (decide (hdrLen = 26)) pn.toNat)
        (Spec.Mpdu.aad header (decide (hdrLen = 26))) body = some sealed ∧
      (ccmpEncrypt tk (header ++ body) hdrLen pn keyId).1.toNat = hdrLen + body.length + 16 ∧
      (ccmpEncrypt tk (header ++ body) hdrLen pn keyId).2 =
        setProtected header ++ (Spec.Mpdu.ccmpHeader pn.toNat (keyId.toNat % 4) ++ sealed)) ∧
    (ccmpB0 (ccmpNonce (setProtected header) hdrLen (pnBytes pn)) body.length ::
      (List.range ((Bytes.chunksOf 16 body).length + 1)).map
        (ccmpCtrBlock (ccmpNonce (setProtected header) hdrLen (pnBytes pn)))).Nodup := by
  have hlen : 22 ≤ header.length := by omega
  constructor
  · refine ⟨_, ccmpSeal_eq_rfc3610 tk pn hh hl hbody, ?_, ?_⟩
    · rw [ccmpEncrypt_eq hh hl, UInt32.toNat_add, UInt32.toNat_ofNat']
      show (_ + 16) % _ = _
      omega
    · rw [ccmpEncrypt_eq hh hl, ccmpIv_eq]
  · have hnodup := Rfc3610.nodup_blocks
      (fits_ccmParams (decide (hdrLen = 26)) hlen pn.toNat hbody)
    have haad : Spec.Mpdu.aad header (decide (hdrLen = 26)) ≠ [] := by
      apply List.ne_nil_of_length_pos
      rw [length_mpduAad _ hlen]
      split
      · decide
      · decide
    have hcount : (Bytes.chunksOf 16 body).length = Rfc3610.blockCount body :=
      Bytes.length_chunksOf (by decide) body
    rw [← ccmpB0_eq_rfc3610 _ haad, ← ccmpCtrBlock_eq_rfc3610, ← ccmpNonce_setProtected hh,
      ← hcount] at hnodup
    exact hnodup

theorem ccmpEncrypt_standard_sample :
    (ccmpEncrypt (Buf.zero 16) (Bytes.zeros 26 ++ [1, 2, 3]) 26 7 1).1.toNat = 45 := by
  obtain ⟨⟨-, -, hlength, -⟩, -⟩ := ccmpEncrypt_standard (Buf.zero 16) (Bytes.zeros 26) [1, 2, 3] 26 7
    1 (.inr rfl) rfl (by decide)
  exact hlength

end Crypto
end Rtl8814au
