import Rtl8814au.Crypto.Ccmp

/-!
# Crypto.CcmpCorrect

The two CCMP functions against each other.

* `ccmpEncrypt_eq`, `ccmpDecrypt_eq` — each function is CCM over the same header, packet number and
  body, in the layout header, IV, body, MIC.
* `ccmp_roundTrip` — decryption accepts and inverts every encryption, and every protected frame that
  decryption accepts is the encryption of what it yields, up to the reserved bits of the IV.
-/

namespace Rtl8814au
namespace Crypto

/-! ## Both as counter mode with CBC-MAC -/

section

variable {tk : Block} {nonce : Bytes}

theorem ccmpDecryptLoop_eq {chunks : List Bytes} {counter : Nat} {macState : Block} :
    ccmpDecryptLoop tk nonce counter macState chunks =
      (Ccm.cbcMac (aes128Encrypt tk) macState
          (Ccm.ctrXor (aes128Encrypt tk) (ccmpCtrBlock nonce) counter chunks),
        Ccm.ctrXor (aes128Encrypt tk) (ccmpCtrBlock nonce) counter chunks) := by
  induction chunks generalizing counter macState with
  | nil => rfl
  | cons chunk rest ih =>
    simp only [ccmpDecryptLoop, ih, Ccm.cbcMac, Ccm.ctrXor]

theorem ccmpEncryptLoop_eq {chunks : List Bytes} {counter : Nat} {macState : Block} :
    ccmpEncryptLoop tk nonce counter macState chunks =
      (Ccm.cbcMac (aes128Encrypt tk) macState chunks,
        Ccm.ctrXor (aes128Encrypt tk) (ccmpCtrBlock nonce) counter chunks) := by
  induction chunks generalizing counter macState with
  | nil => rfl
  | cons chunk rest ih =>
    simp only [ccmpEncryptLoop, ih, Ccm.cbcMac, Ccm.ctrXor]

end

def ccmpB0 (nonce : Bytes) (bodyLen : Nat) : Block :=
  Buf.ofBytes 16 (0x59 :: nonce ++ Bytes.be 2 bodyLen)

/-- The two AAD blocks that the code pads by hand. -/
theorem ccmpMacStart_chain (tk : Block) (nonce : Bytes) {aad : Bytes} (bodyLen : Nat)
    (hlong : 14 < aad.length) (hshort : aad.length ≤ 30) :
    ccmpMacStart tk nonce aad bodyLen =
      Ccm.cbcMac (aes128Encrypt tk) (aes128Encrypt tk (ccmpB0 nonce bodyLen))
        (Bytes.chunksOf 16 (Bytes.be 2 aad.length ++ aad)) := by
  have hfirst : (Bytes.be 2 aad.length ++ aad.take 14).length = 16 := by
    rw [List.length_append, Bytes.length_be, List.length_take_of_le (Nat.le_of_lt hlong)]
  have hrest : (aad.drop 14).length = aad.length - 14 := List.length_drop
  have hne : aad.drop 14 ≠ [] := by
    intro hnil
    rw [hnil] at hrest
    simp only [List.length_nil] at hrest
    omega
  have hchunks : Bytes.chunksOf 16 (Bytes.be 2 aad.length ++ aad) =
      [Bytes.be 2 aad.length ++ aad.take 14, aad.drop 14] := by
    have hsplit : Bytes.be 2 aad.length ++ aad =
        (Bytes.be 2 aad.length ++ aad.take 14) ++ aad.drop 14 := by
      rw [List.append_assoc, List.take_append_drop]
    rw [hsplit, Bytes.chunksOf_append (by decide) hfirst,
      Bytes.chunksOf_of_le (by decide) hne (by omega)]
  unfold ccmpMacStart
  rw [hchunks]
  simp only [Ccm.cbcMac, if_pos (show aad.length > 14 from hlong)]
  rfl

/-- The header part of a frame, as far as the nonce and the AAD read it. -/
theorem ccmp_header {header : Bytes} {hdrLen : Nat} (hh : hdrLen = 24 ∨ hdrLen = 26)
    (hl : header.length = hdrLen) (rest : Bytes) :
    ccmpPriority (header ++ rest) hdrLen = ccmpPriority header hdrLen ∧
      (header ++ rest).slice 10 6 = header.slice 10 6 ∧
      ccmpAad (header ++ rest) hdrLen = ccmpAad header hdrLen := by
  have hlt : 24 ≤ header.length := by omega
  refine ⟨?_, Bytes.slice_append_left (by omega), ?_⟩
  · simp only [ccmpPriority]
    split
    · rw [Bytes.at_append_left (by omega)]
    · rfl
  · simp only [ccmpAad]
    rw [Bytes.at_append_left (by omega), Bytes.at_append_left (by omega),
      Bytes.slice_append_left (by omega), Bytes.slice_append_left (by omega),
      Bytes.slice_append_left (by omega), Bytes.at_append_left (by omega)]
    split
    · rw [Bytes.at_append_left (by omega)]
    · rfl

def ccmpNonce (header : Bytes) (hdrLen : Nat) (pn : Bytes) : Bytes :=
  ccmpPriority header hdrLen :: header.slice 10 6 ++ pn

/-- The CCM of a header and a packet number: block cipher, counter blocks and initial state. -/
def ccmpSeal (tk : Block) (header : Bytes) (hdrLen : Nat) (pn body : Bytes) : Bytes × Bytes :=
  let nonce := ccmpNonce header hdrLen pn
  Ccm.sealText (aes128Encrypt tk) (ccmpCtrBlock nonce)
    (ccmpMacStart tk nonce (ccmpAad header hdrLen) body.length) 8 body

def ccmpOpen (tk : Block) (header : Bytes) (hdrLen : Nat) (pn : Bytes) (sealed : Bytes × Bytes) :
    Option Bytes :=
  let nonce := ccmpNonce header hdrLen pn
  Ccm.openText (aes128Encrypt tk) (ccmpCtrBlock nonce)
    (ccmpMacStart tk nonce (ccmpAad header hdrLen) sealed.1.length) 8 sealed

/-! ## The two functions as CCM -/

@[simp] theorem length_setProtected (frame : Bytes) : (setProtected frame).length = frame.length := by
  simp [setProtected]

@[simp] theorem length_ccmpIv (pn : UInt64) (keyId : UInt8) : (ccmpIv pn keyId).length = 8 := rfl

theorem ccmpEncrypt_eq {tk : Block} {header body : Bytes} {hdrLen : Nat} {pn : UInt64}
    {keyId : UInt8} (hh : hdrLen = 24 ∨ hdrLen = 26) (hl : header.length = hdrLen) :
    ccmpEncrypt tk (header ++ body) hdrLen pn keyId =
      (UInt32.ofNat (hdrLen + body.length) + 16,
        setProtected header ++ (ccmpIv pn keyId ++
          ((ccmpSeal tk (setProtected header) hdrLen (pnBytes pn) body).1 ++
            (ccmpSeal tk (setProtected header) hdrLen (pnBytes pn) body).2))) := by
  have hnot : ¬(hdrLen ≠ 24 ∧ hdrLen ≠ 26) := by omega
  have ht : (header ++ body).take hdrLen = header := List.take_left' hl
  have hd : (header ++ body).drop hdrLen = body := List.drop_left' hl
  simp only [ccmpEncrypt, if_neg hnot, ht, hd, ccmpEncryptLoop_eq, List.length_append, hl,
    List.append_assoc]
  rfl

theorem ccmpDecrypt_eq {tk : Block} {header iv cipher mic : Bytes} {hdrLen : Nat}
    (hh : hdrLen = 24 ∨ hdrLen = 26) (hl : header.length = hdrLen) (hiv : iv.length = 8)
    (hmic : mic.length = 8) :
    ccmpDecrypt tk (header ++ (iv ++ (cipher ++ mic))) hdrLen =
      ((ccmpOpen tk header hdrLen (ivPnBytes iv) (cipher, mic)).isSome,
        header ++ (iv ++ (Ccm.ctrText (aes128Encrypt tk)
          (ccmpCtrBlock (ccmpNonce header hdrLen (ivPnBytes iv))) cipher ++ mic))) := by
  have hnot : ¬(hdrLen ≠ 24 ∧ hdrLen ≠ 26) := by omega
  have hlen : (header ++ (iv ++ (cipher ++ mic))).length = hdrLen + 8 + cipher.length + 8 := by
    simp only [List.length_append]
    omega
  have hshort : ¬ hdrLen + 8 + cipher.length + 8 < hdrLen + 8 + 8 := by omega
  have hbody : hdrLen + 8 + cipher.length + 8 - hdrLen - 8 - 8 = cipher.length := by omega
  have hsiv : (header ++ (iv ++ (cipher ++ mic))).slice hdrLen 8 = iv :=
    Bytes.slice_append_mid hl hiv
  have hsbody : (header ++ (iv ++ (cipher ++ mic))).slice (hdrLen + 8) cipher.length = cipher := by
    rw [← List.append_assoc header iv]
    exact Bytes.slice_append_mid (by simp [hl, hiv]) rfl
  have hsmic : (header ++ (iv ++ (cipher ++ mic))).slice (hdrLen + 8 + cipher.length + 8 - 8) 8
      = mic := by
    have hpos : (header ++ iv ++ cipher).length = hdrLen + 8 + cipher.length := by
      simp [hl, hiv]
      omega
    simpa using Bytes.slice_append_mid (c := []) hpos hmic
  have htake : (header ++ (iv ++ (cipher ++ mic))).take (hdrLen + 8) = header ++ iv := by
    rw [← List.append_assoc header iv]
    exact List.take_left' (by simp [hl, hiv])
  obtain ⟨hprio, haddr, haad⟩ := ccmp_header hh hl (iv ++ (cipher ++ mic))
  simp only [ccmpDecrypt, if_neg hnot, hlen, if_neg hshort, hbody, hsiv, hsbody, hsmic, htake,
    hprio, haddr, haad, ccmpDecryptLoop_eq, List.append_assoc]
  simp only [ccmpOpen, Ccm.isSome_openText, Ccm.tag, Ccm.chunksOf_ctrText (n := 16) (by decide)]
  rfl

/-! ## The IV -/

theorem pnBytes_eq (pn : UInt64) : pnBytes pn = Bytes.be 6 pn.toNat := by
  have hbyte : ∀ k : UInt64, (pn >>> k).toUInt8 = UInt8.ofNat (pn.toNat >>> (k.toNat % 64)) := by
    intro k
    apply UInt8.toNat_inj.mp
    simp
  have h0 : pn.toUInt8 = UInt8.ofNat pn.toNat := by
    apply UInt8.toNat_inj.mp
    simp
  simp only [pnBytes, Bytes.be, hbyte, h0, Nat.shiftRight_eq_div_pow, Nat.div_div_eq_div_mul,
    List.nil_append, List.cons_append]
  rfl

def ivPn (iv : Bytes) : UInt64 := UInt64.ofNat (Bytes.beNat (ivPnBytes iv))

def ivKeyId (iv : Bytes) : UInt8 := iv.at 3 >>> 6

theorem ivPnBytes_ccmpIv (pn : UInt64) (keyId : UInt8) :
    ivPnBytes (ccmpIv pn keyId) = pnBytes pn := rfl

theorem pnBytes_ivPn (iv : Bytes) : pnBytes (ivPn iv) = ivPnBytes iv := by
  have hlt := Bytes.beNat_lt (ivPnBytes iv)
  have hlen : (ivPnBytes iv).length = 6 := rfl
  rw [hlen] at hlt
  have hn : (ivPn iv).toNat = Bytes.beNat (ivPnBytes iv) := by
    rw [ivPn, UInt64.toNat_ofNat']
    omega
  rw [pnBytes_eq, hn, ← hlen, Bytes.be_beNat]

theorem ivPn_ccmpIv {pn : UInt64} (keyId : UInt8) (h : pn.toNat < 2 ^ 48) :
    ivPn (ccmpIv pn keyId) = pn := by
  apply UInt64.toNat_inj.mp
  rw [ivPn, ivPnBytes_ccmpIv, pnBytes_eq, Bytes.beNat_be, UInt64.toNat_ofNat']
  omega

theorem ivKeyId_ccmpIv (pn : UInt64) {keyId : UInt8} (h : keyId.toNat ≤ 3) :
    ivKeyId (ccmpIv pn keyId) = keyId := by
  have hall : ∀ k : Fin 4, ((0x20 : UInt8) ||| ((UInt8.ofNat k.val &&& 0x03) <<< 6)) >>> 6 =
      UInt8.ofNat k.val := by decide
  have := hall ⟨keyId.toNat, by omega⟩
  simpa [ivKeyId, ccmpIv, Bytes.at] using this

/-- An IV rebuilt from its packet number and key id: the reserved bits are normalised. -/
theorem ccmpIv_of_iv {iv : Bytes} (h : iv.length = 8) :
    ccmpIv (ivPn iv) (ivKeyId iv) = (iv.set 2 0).set 3 (0x20 ||| (iv.at 3 &&& 0xC0)) := by
  have hkey : ∀ x : UInt8, (0x20 : UInt8) ||| (((x >>> 6) &&& 0x03) <<< 6) = 0x20 ||| (x &&& 0xC0) := by
    have hall : ∀ n : Fin 256, (0x20 : UInt8) ||| (((UInt8.ofFin n >>> 6) &&& 0x03) <<< 6) =
        0x20 ||| (UInt8.ofFin n &&& 0xC0) := by decide +kernel
    intro x
    exact hall x.toFin
  obtain ⟨b0, b1, b2, b3, b4, b5, b6, b7, rfl⟩ :
      ∃ b0 b1 b2 b3 b4 b5 b6 b7, iv = [b0, b1, b2, b3, b4, b5, b6, b7] := by
    match iv, h with
    | [b0, b1, b2, b3, b4, b5, b6, b7], _ => exact ⟨_, _, _, _, _, _, _, _, rfl⟩
  have hpn := pnBytes_ivPn [b0, b1, b2, b3, b4, b5, b6, b7]
  simp only [pnBytes, ivPnBytes, List.cons.injEq, and_true] at hpn
  obtain ⟨h5, h4, h3, h2, h1, h0⟩ := hpn
  simp only [ccmpIv, h0, h1, h2, h3, h4, h5, ivKeyId, hkey]
  rfl

/-! ## The round trips -/

theorem setProtected_of_protected {header : Bytes} (h : header.at 1 &&& 0x40 ≠ 0) :
    setProtected header = header := by
  have hall : ∀ n : Fin 256, UInt8.ofFin n &&& 0x40 ≠ 0 → UInt8.ofFin n ||| 0x40 = UInt8.ofFin n := by
    decide +kernel
  have hbyte : header.at 1 ||| 0x40 = header.at 1 := hall (header.at 1).toFin h
  rw [setProtected, hbyte]
  match header with
  | [] => rfl
  | [_] => rfl
  | _ :: _ :: _ => rfl

/-- Decryption inverts encryption. -/
theorem ccmpDecrypt_ccmpEncrypt (tk : Block) {header : Bytes} (body : Bytes) {hdrLen : Nat}
    (pn : UInt64) (keyId : UInt8) (hh : hdrLen = 24 ∨ hdrLen = 26)
    (hl : header.length = hdrLen) :
    ∃ mic, mic.length = 8 ∧ ccmpDecrypt tk (ccmpEncrypt tk (header ++ body) hdrLen pn keyId).2 hdrLen =
      (true, setProtected header ++ (ccmpIv pn keyId ++ (body ++ mic))) := by
  have hlen : (ccmpSeal tk (setProtected header) hdrLen (pnBytes pn) body).1.length = body.length :=
    Ccm.length_ctrText (by decide) body
  have htag : (ccmpSeal tk (setProtected header) hdrLen (pnBytes pn) body).2.length = 8 :=
    Ccm.length_tag (by decide) body
  have hopen : ccmpOpen tk (setProtected header) hdrLen (pnBytes pn)
      (ccmpSeal tk (setProtected header) hdrLen (pnBytes pn) body) = some body := by
    simp only [ccmpOpen, hlen]
    exact Ccm.openText_sealText (by decide) body
  refine ⟨_, htag, ?_⟩
  rw [ccmpEncrypt_eq hh hl]
  simp only
  rw [ccmpDecrypt_eq hh (by simpa using hl) (length_ccmpIv pn keyId) htag, ivPnBytes_ccmpIv, hopen]
  have htext : Ccm.ctrText (aes128Encrypt tk) (ccmpCtrBlock (ccmpNonce (setProtected header) hdrLen
      (pnBytes pn))) (ccmpSeal tk (setProtected header) hdrLen (pnBytes pn) body).1 = body :=
    Ccm.ctrText_ctrText (by decide) body
  rw [htext]
  rfl

theorem length_ccmpEncrypt (tk : Block) {header : Bytes} (body : Bytes) {hdrLen : Nat}
    (pn : UInt64) (keyId : UInt8) (hh : hdrLen = 24 ∨ hdrLen = 26)
    (hl : header.length = hdrLen) :
    (ccmpEncrypt tk (header ++ body) hdrLen pn keyId).2.length = hdrLen + body.length + 16 := by
  have h1 : (ccmpSeal tk (setProtected header) hdrLen (pnBytes pn) body).1.length = body.length :=
    Ccm.length_ctrText (by decide) body
  have h2 : (ccmpSeal tk (setProtected header) hdrLen (pnBytes pn) body).2.length = 8 :=
    Ccm.length_tag (by decide) body
  have hheader : (setProtected header).length = hdrLen := by simpa using hl
  simp only [ccmpEncrypt_eq hh hl, List.length_append, hheader, length_ccmpIv, h1, h2]
  omega

theorem ccmp_split {frame : Bytes} {hdrLen : Nat} (h : hdrLen + 16 ≤ frame.length) :
    ∃ header iv cipher mic, header.length = hdrLen ∧ iv.length = 8 ∧ mic.length = 8 ∧
      frame = header ++ (iv ++ (cipher ++ mic)) := by
  refine ⟨frame.take hdrLen, (frame.drop hdrLen).take 8,
    ((frame.drop hdrLen).drop 8).take (frame.length - hdrLen - 16),
    ((frame.drop hdrLen).drop 8).drop (frame.length - hdrLen - 16), ?_, ?_, ?_, ?_⟩
  · simp; omega
  · simp; omega
  · simp; omega
  · rw [List.take_append_drop, List.take_append_drop, List.take_append_drop]

theorem length_of_ccmpDecrypt {tk : Block} {frame dec : Bytes} {hdrLen : Nat}
    (h : ccmpDecrypt tk frame hdrLen = (true, dec)) : hdrLen + 16 ≤ frame.length := by
  simp only [ccmpDecrypt] at h
  split at h
  · cases h
  · split at h
    · cases h
    · omega

/-- Encryption inverts decryption, up to the reserved bits of the IV. -/
theorem ccmpEncrypt_ccmpDecrypt {tk : Block} {frame dec : Bytes} {hdrLen : Nat}
    (hh : hdrLen = 24 ∨ hdrLen = 26) (hdec : ccmpDecrypt tk frame hdrLen = (true, dec))
    (hprot : frame.at 1 &&& 0x40 ≠ 0) :
    ccmpEncrypt tk (dec.take hdrLen ++ dec.slice (hdrLen + 8) (frame.length - hdrLen - 16)) hdrLen
        (ivPn (frame.slice hdrLen 8)) (ivKeyId (frame.slice hdrLen 8)) =
      (UInt32.ofNat frame.length, (frame.set (hdrLen + 2) 0).set (hdrLen + 3)
        (0x20 ||| (frame.at (hdrLen + 3) &&& 0xC0))) := by
  obtain ⟨header, iv, cipher, mic, hl, hiv, hmic, rfl⟩ := ccmp_split (length_of_ccmpDecrypt hdec)
  rw [ccmpDecrypt_eq hh hl hiv hmic] at hdec
  simp only [Prod.mk.injEq] at hdec
  obtain ⟨hopen, rfl⟩ := hdec
  have hlen : (header ++ (iv ++ (cipher ++ mic))).length = hdrLen + 8 + cipher.length + 8 := by
    simp only [List.length_append]
    omega
  -- what was decrypted, sealed again
  have hseal := Ccm.sealText_of_openText (by decide) (Ccm.openText_eq_some hopen)
  generalize htext : Ccm.ctrText (aes128Encrypt tk) (ccmpCtrBlock (ccmpNonce header hdrLen
      (ivPnBytes iv))) cipher = text at hseal ⊢
  have htlen : text.length = cipher.length := by
    rw [← htext]
    exact Ccm.length_ctrText (by decide) cipher
  have hheader : (header ++ (iv ++ (text ++ mic))).take hdrLen = header := List.take_left' hl
  have hbody : (header ++ (iv ++ (text ++ mic))).slice (hdrLen + 8) cipher.length = text := by
    rw [← List.append_assoc header iv]
    exact Bytes.slice_append_mid (by simp [hl, hiv]) htlen
  have hsiv : (header ++ (iv ++ (cipher ++ mic))).slice hdrLen 8 = iv :=
    Bytes.slice_append_mid hl hiv
  have hbodyLen : hdrLen + 8 + cipher.length + 8 - hdrLen - 16 = cipher.length := by omega
  have hprot' : setProtected header = header := by
    apply setProtected_of_protected
    rwa [Bytes.at_append_left (by omega)] at hprot
  have hkey : (header ++ (iv ++ (cipher ++ mic))).at (hdrLen + 3) = iv.at 3 := by
    rw [Bytes.at_append_right (by omega), Bytes.at_append_left (by omega)]
    congr 1
    omega
  have hcc : ccmpSeal tk header hdrLen (ivPnBytes iv) text = (cipher, mic) := by
    rw [ccmpSeal, htlen]
    exact hseal
  rw [hlen, hbodyLen, hheader, hbody, hsiv, hkey, ccmpEncrypt_eq hh hl, hprot', pnBytes_ivPn, hcc,
    ccmpIv_of_iv hiv, htlen]
  refine Prod.ext ?_ ?_
  · apply UInt32.toNat_inj.mp
    simp
    omega
  · have hset : ∀ (l : Bytes) (j : Nat) (x : UInt8), (header ++ l).set (hdrLen + j) x =
        header ++ l.set j x := by
      intro l j x
      rw [List.set_append_right _ _ (by omega), hl, Nat.add_sub_cancel_left]
    simp only [hset]
    rw [List.set_append_left _ _ (by omega), List.set_append_left _ _ (by simp; omega)]

/-- The two functions are inverse to each other: decryption accepts and inverts every encryption,
and a protected frame that decryption accepts is the encryption of what it yields, with the packet
number and key id of its IV, but for IV byte 2 and the low six bits of IV byte 3. -/
theorem ccmp_roundTrip (tk : Block) (hdrLen : Nat) (hh : hdrLen = 24 ∨ hdrLen = 26) :
    (∀ (header body : Bytes) (pn : UInt64) (keyId : UInt8), header.length = hdrLen →
      hdrLen + body.length + 16 < 2 ^ 32 → pn.toNat < 2 ^ 48 → keyId.toNat ≤ 3 →
      let encrypted := ccmpEncrypt tk (header ++ body) hdrLen pn keyId
      let decrypted := ccmpDecrypt tk encrypted.2 hdrLen
      encrypted.1.toNat = (header ++ body).length + 16 ∧
      encrypted.2.length = encrypted.1.toNat ∧
      ivPn (encrypted.2.slice hdrLen 8) = pn ∧
      ivKeyId (encrypted.2.slice hdrLen 8) = keyId ∧
      decrypted.1 = true ∧
      decrypted.2.take hdrLen = setProtected header ∧
      decrypted.2.slice (hdrLen + 8) body.length = body) ∧
    ∀ frame dec : Bytes, ccmpDecrypt tk frame hdrLen = (true, dec) → frame.at 1 &&& 0x40 ≠ 0 →
      ccmpEncrypt tk (dec.take hdrLen ++ dec.slice (hdrLen + 8) (frame.length - hdrLen - 16)) hdrLen
          (ivPn (frame.slice hdrLen 8)) (ivKeyId (frame.slice hdrLen 8)) =
        (UInt32.ofNat frame.length, (frame.set (hdrLen + 2) 0).set (hdrLen + 3)
          (0x20 ||| (frame.at (hdrLen + 3) &&& 0xC0))) := by
  refine ⟨?_, fun frame dec hdec hprot => ccmpEncrypt_ccmpDecrypt hh hdec hprot⟩
  intro header body pn keyId hl hfit hpn hkey encrypted decrypted
  have hheader : (setProtected header).length = hdrLen := by simpa using hl
  obtain ⟨mic, hmic, hdec⟩ := ccmpDecrypt_ccmpEncrypt tk body pn keyId hh hl
  have hsiv : encrypted.2.slice hdrLen 8 = ccmpIv pn keyId := by
    simp only [encrypted, ccmpEncrypt_eq hh hl]
    exact Bytes.slice_append_mid hheader (length_ccmpIv pn keyId)
  have hlen : encrypted.1.toNat = (header ++ body).length + 16 := by
    simp [encrypted, ccmpEncrypt_eq hh hl, hl]
    omega
  refine ⟨hlen, ?_, ?_, ?_, ?_, ?_, ?_⟩
  · rw [hlen, List.length_append, hl]
    exact length_ccmpEncrypt tk body pn keyId hh hl
  · rw [hsiv, ivPn_ccmpIv keyId hpn]
  · rw [hsiv, ivKeyId_ccmpIv pn hkey]
  · simp only [decrypted, encrypted, hdec]
  · simp only [decrypted, encrypted, hdec]
    exact List.take_left' hheader
  · simp only [decrypted, encrypted, hdec]
    rw [← List.append_assoc (setProtected header)]
    exact Bytes.slice_append_mid (by simp [hl]) rfl

/-- A three-byte body under an all-zero key and header. -/
def sampleFrame : Bytes := (ccmpEncrypt (Buf.zero 16) (Bytes.zeros 24 ++ [1, 2, 3]) 24 1 0).2

theorem ccmp_roundTrip_sampleFrame :
    (ccmpDecrypt (Buf.zero 16) sampleFrame 24).2.slice 32 3 = [1, 2, 3] ∧
      (ccmpEncrypt (Buf.zero 16)
          ((ccmpDecrypt (Buf.zero 16) sampleFrame 24).2.take 24 ++
            (ccmpDecrypt (Buf.zero 16) sampleFrame 24).2.slice 32 (sampleFrame.length - 24 - 16)) 24
          (ivPn (sampleFrame.slice 24 8)) (ivKeyId (sampleFrame.slice 24 8))).2 =
        (sampleFrame.set 26 0).set 27 (0x20 ||| (sampleFrame.at 27 &&& 0xC0)) := by
  obtain ⟨hforth, hback⟩ := ccmp_roundTrip (Buf.zero 16) 24 (.inl rfl)
  obtain ⟨-, -, -, -, hok, -, hbody⟩ :=
    hforth (Bytes.zeros 24) [1, 2, 3] 1 0 rfl (by simp) (by simp) (by simp)
  have hprot : sampleFrame.at 1 &&& 0x40 ≠ 0 := by
    rw [sampleFrame, ccmpEncrypt_eq (.inl rfl) rfl, Bytes.at_append_left (by decide)]
    decide
  have hdec : ccmpDecrypt (Buf.zero 16) sampleFrame 24 =
      (true, (ccmpDecrypt (Buf.zero 16) sampleFrame 24).2) := by
    rw [← show (ccmpDecrypt (Buf.zero 16) sampleFrame 24).1 = true from hok]
  refine ⟨hbody, ?_⟩
  rw [hback sampleFrame _ hdec hprot]

end Crypto
end Rtl8814au
