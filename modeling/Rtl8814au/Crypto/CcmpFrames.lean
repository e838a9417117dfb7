import Rtl8814au.Crypto.CcmpCorrect
import Rtl8814au.Spec.Ccmp

/-!
# Crypto.CcmpFrames

`ccmp_encrypt` and `ccmp_decrypt` on data frames, against the specification.

* `ccmpAad_encode`, `ccmpNonce_encode`, `ccmpMacStart_eq` — the inputs of CCM are the specified ones.
* `ccmpEncrypt_encode` — encryption gives the protected header and the specified body.
* `ccmpDecrypt_encode` — decryption takes a specified body under a protected header.
-/

namespace Rtl8814au
namespace Crypto

open Spec (DataHeader)

/-- The header with the Protected Frame bit set. -/
def protectHeader (h : DataHeader) : DataHeader := { h with isProtected := true }

/-! ## Bits of the flags -/

/-- Setting the bit in the header and in the flags is the same. -/
theorem flags_protectHeader (h : DataHeader) : h.flags ||| 0x40 = (protectHeader h).flags := by
  simp only [DataHeader.flags, protectHeader]
  generalize h.toDs = b0
  generalize h.fromDs = b1
  generalize h.moreFragments = b2
  generalize h.retry = b3
  generalize h.powerManagement = b4
  generalize h.moreData = b5
  generalize h.isProtected = b6
  revert b0 b1 b2 b3 b4 b5 b6
  decide +kernel

theorem flags_masked {h : DataHeader} (hp : h.isProtected = true) :
    h.flags &&& 0xC7 = h.masked.flags := by
  simp only [DataHeader.flags, DataHeader.masked, hp]
  generalize h.toDs = b0
  generalize h.fromDs = b1
  generalize h.moreFragments = b2
  generalize h.retry = b3
  generalize h.powerManagement = b4
  generalize h.moreData = b5
  revert b0 b1 b2 b3 b4 b5
  decide +kernel

theorem frameControl0_masked (h : DataHeader) : h.frameControl0 &&& 0x8F = h.frameControl0 := by
  unfold DataHeader.frameControl0
  split
  · rfl
  · rfl

theorem setProtected_encode (h : DataHeader) :
    setProtected h.encode = (protectHeader h).encode := by
  have hflags : h.encode.at 1 ||| 0x40 = (protectHeader h).flags := flags_protectHeader h
  rw [setProtected, hflags]
  rfl

/-! ## Nonce and AAD -/

theorem ccmpPriority_encode (h : DataHeader) : ccmpPriority h.encode h.length = h.tid := by
  unfold ccmpPriority DataHeader.tid
  cases hq : h.qosControl with
  | none =>
    have hlength : h.length = 24 := by rw [DataHeader.length, hq]; rfl
    rw [hlength]
    rfl
  | some control =>
    have hlength : h.length = 26 := by rw [DataHeader.length, hq]; rfl
    have hslice := h.slice_qosControl [] hq
    rw [List.append_nil] at hslice
    have hat : h.encode.at 24 = control.bytes.at 0 := by
      rw [← hslice, Bytes.at_slice (by decide)]
    rw [hlength, if_pos rfl, hat]

theorem ccmpNonce_encode (h : DataHeader) (pn : Buf 6) :
    ccmpNonce h.encode h.length pn.bytes = h.nonce pn := by
  have haddress := h.slice_address2 []
  rw [List.append_nil] at haddress
  rw [ccmpNonce, ccmpPriority_encode, haddress]
  rfl

theorem ccmpAad_encode {h : DataHeader} (hp : h.isProtected = true) :
    ccmpAad h.encode h.length = h.aad := by
  have h1 := h.slice_address1 []
  have h2 := h.slice_address2 []
  have h3 := h.slice_address3 []
  have hseq := h.slice_sequence []
  have htid := ccmpPriority_encode h
  rw [List.append_nil] at h1 h2 h3 hseq
  have hat : h.encode.at 22 = h.sequence.bytes.at 0 := by
    rw [← hseq, Bytes.at_slice (by decide)]
  have h0 : h.encode.at 0 &&& 0x8F = h.frameControl0 := frameControl0_masked h
  have hflags : h.encode.at 1 &&& 0xC7 = h.masked.flags := flags_masked hp
  unfold ccmpAad DataHeader.aad
  rw [h0, hflags, h1, h2, h3, hat]
  unfold ccmpPriority at htid
  simp only [List.append_assoc]
  cases hq : h.qosControl with
  | none =>
    have hlength : h.length = 24 := by rw [DataHeader.length, hq]; rfl
    rw [hlength]
    rfl
  | some control =>
    have hlength : h.length = 26 := by rw [DataHeader.length, hq]; rfl
    rw [hlength, if_pos rfl] at htid
    rw [hlength, if_pos rfl, htid]
    rfl

/-! ## The CBC-MAC over `B_0` and the AAD -/

theorem xor_zero (b : Block) : b.xor (Buf.zero 16) = b := by
  ext1
  show Bytes.xor b.bytes (Bytes.zeros 16) = b.bytes
  obtain ⟨bytes, hlen⟩ := b
  show Bytes.xor bytes (Bytes.zeros 16) = bytes
  rw [Bytes.xor, Bytes.zeros, ← hlen]
  clear hlen
  induction bytes with
  | nil => rfl
  | cons x bytes ih =>
    rw [List.length_cons, List.replicate_succ, List.zipWith_cons_cons, ih, UInt8.xor_zero]

theorem length_aad (h : DataHeader) : 14 < h.aad.length ∧ h.aad.length ≤ 30 := by
  simp only [DataHeader.aad, List.length_append, List.length_cons, List.length_nil, Buf.length_eq]
  split
  · exact ⟨by simp, by simp⟩
  · exact ⟨by simp, by simp⟩

theorem ccmpMacStart_eq (tk : Block) (h : DataHeader) (pn : Buf 6) (textLen : Nat) :
    ccmpMacStart tk (h.nonce pn) h.aad textLen = Spec.ccmpStart tk h pn textLen := by
  obtain ⟨hlong, hshort⟩ := length_aad h
  rw [ccmpMacStart_chain tk _ textLen hlong hshort, Spec.ccmpStart, Ccm.cbcMac, xor_zero]
  rfl

/-! ## The two functions -/

/-- The packet number in the nonce and in the IV, from its 64-bit counter. -/
def pnOf (pn : UInt64) : Buf 6 := ⟨pnBytes pn, rfl⟩

theorem ccmpSeal_encode (tk : Block) {h : DataHeader} (hp : h.isProtected = true) (pn : Buf 6)
    (text : Bytes) : ccmpSeal tk h.encode h.length pn.bytes text =
      Ccm.sealText (aes128Encrypt tk) (Spec.ccmpCounterBlock (h.nonce pn))
        (Spec.ccmpStart tk h pn text.length) 8 text := by
  unfold ccmpSeal
  dsimp only
  rw [ccmpNonce_encode, ccmpAad_encode hp, ccmpMacStart_eq]
  rfl

/-- With the key id 0 of a pairwise key. -/
theorem ccmpEncrypt_encode (tk : Block) (h : DataHeader) (text : Bytes) (pn : UInt64) :
    (ccmpEncrypt tk (h.encode ++ text) h.length pn 0).2 = (protectHeader h).encode ++
      Spec.ccmpEncap tk (protectHeader h) (pnOf pn) 0 text := by
  have hseal := ccmpSeal_encode tk (h := protectHeader h) rfl (pnOf pn) text
  rw [ccmpEncrypt_eq h.length_cases h.length_encode, setProtected_encode]
  dsimp only
  have hlength : h.length = (protectHeader h).length := rfl
  have hpn : pnBytes pn = (pnOf pn).bytes := rfl
  rw [hlength, hpn, hseal]
  rfl

theorem ccmpCtrBlock_eq (nonce : Bytes) :
    ccmpCtrBlock nonce = Spec.ccmpCounterBlock nonce := rfl

theorem ivPnBytes_ccmpHeader (pn : Buf 6) (keyId : Fin 4) :
    ivPnBytes (Spec.ccmpHeader pn keyId) = pn.bytes := by
  obtain ⟨bytes, hlen⟩ := pn
  match bytes, hlen with
  | [_, _, _, _, _, _], _ => rfl

theorem ccmpDecrypt_encode (tk : Block) {h : DataHeader} (hp : h.isProtected = true) (pn : Buf 6)
    (keyId : Fin 4) (text : Bytes) :
    ∃ mic, mic.length = 8 ∧
      ccmpDecrypt tk (h.encode ++ Spec.ccmpEncap tk h pn keyId text) h.length =
        (true, h.encode ++ (Spec.ccmpHeader pn keyId ++ (text ++ mic))) := by
  have hseal := ccmpSeal_encode tk hp pn text
  have hcipher : (Ccm.ctrText (aes128Encrypt tk) (Spec.ccmpCounterBlock (h.nonce pn)) text).length =
      text.length := Ccm.length_ctrText (by decide) text
  have hmic : (Ccm.tag (aes128Encrypt tk) (Spec.ccmpCounterBlock (h.nonce pn))
      (Spec.ccmpStart tk h pn text.length) 8 text).length = 8 := Ccm.length_tag (by decide) text
  have hback : Ccm.ctrText (aes128Encrypt tk) (Spec.ccmpCounterBlock (h.nonce pn))
      (Ccm.ctrText (aes128Encrypt tk) (Spec.ccmpCounterBlock (h.nonce pn)) text) = text :=
    Ccm.ctrText_ctrText (by decide) text
  have hopen : ccmpOpen tk h.encode h.length pn.bytes
      (Ccm.sealText (aes128Encrypt tk) (Spec.ccmpCounterBlock (h.nonce pn))
        (Spec.ccmpStart tk h pn text.length) 8 text) = some text := by
    have hlen : (ccmpSeal tk h.encode h.length pn.bytes text).1.length = text.length :=
      Ccm.length_ctrText (by decide) text
    rw [← hseal]
    simp only [ccmpOpen, hlen]
    exact Ccm.openText_sealText (by decide) text
  unfold Ccm.sealText at hopen
  refine ⟨_, hmic, ?_⟩
  unfold Spec.ccmpEncap Ccm.sealText
  dsimp only
  rw [ccmpDecrypt_eq h.length_cases h.length_encode rfl hmic, ivPnBytes_ccmpHeader, hopen,
    ccmpNonce_encode, ccmpCtrBlock_eq, hback]
  rfl

end Crypto
end Rtl8814au
