import Rtl8814au.Crypto.CcmpStandard

/-!
# Crypto.CcmpMasking

Which bits of a header CCMP depends on.

* `ccmpAad_eq_iff`: two headers have one AAD when they agree on every bit that is not mutable.
* `decryptInputs`, `encryptInputs`: the nonce and the AAD that each of the two functions works with.
* `ccmpDecrypt_inputs`, `ccmpEncrypt_inputs`: both are CCM under these inputs, whose chains are
  `sealUnder` and `openUnder`.
* `ccmp_masking`: the mutable bits change nothing behind the header, and every other bit changes the
  inputs.
-/

namespace Rtl8814au
namespace Crypto

open Spec.Mpdu (Mutable protectedBit)

/-! ## The masks -/

/-- The bits of byte `i` of the header that the AAD takes. -/
def aadMask (i : Nat) : UInt8 :=
  if i = 0 then 0x8F
  else if i = 1 then 0xC7
  else if i < 4 then 0
  else if i < 22 then 0xFF
  else if i = 22 ∨ i = 24 then 0x0F
  else 0

theorem testBit_aadMask : ∀ i < 26, ∀ j < 8,
    (aadMask i).toNat.testBit j = !decide (Mutable (8 * i + j)) := by decide +kernel

/-- The bytes of the header that the AAD takes anything from. -/
def aadPositions (hdrLen : Nat) : List Nat := [0, 1] ++ List.range' 4 (hdrLen - 4)

/-- Address bytes are taken whole. -/
theorem slice_masked {frame : Bytes} {off n : Nat} (h : off + n ≤ frame.length) (hlow : 4 ≤ off)
    (hhigh : off + n ≤ 22) :
    frame.slice off n = (List.range' off n).map fun i => frame.at i &&& aadMask i := by
  rw [Bytes.slice_eq_map h]
  apply List.map_congr_left
  intro i hi
  rw [List.mem_range'_1] at hi
  have hmask : aadMask i = 0xFF := by
    rw [aadMask, if_neg (by omega), if_neg (by omega), if_neg (by omega), if_pos (by omega)]
  have hall : ∀ x : UInt8, x &&& 0xFF = x := Bytes.forall_byte (by decide +kernel)
  rw [hmask, hall]

theorem ccmpAad_eq_map {frame : Bytes} {hdrLen : Nat} (hh : hdrLen = 24 ∨ hdrLen = 26)
    (hl : hdrLen ≤ frame.length) :
    ccmpAad frame hdrLen = (aadPositions hdrLen).map fun i => frame.at i &&& aadMask i := by
  rw [ccmpAad, slice_masked (by omega) (by decide) (by decide),
    slice_masked (by omega) (by decide) (by decide), slice_masked (by omega) (by decide) (by decide)]
  have hzero : ∀ x : UInt8, x &&& 0 = 0 := Bytes.forall_byte (by decide +kernel)
  rcases hh with rfl | rfl
  · have hpositions : aadPositions 24 =
        [0, 1] ++ List.range' 4 6 ++ List.range' 10 6 ++ List.range' 16 6 ++ [22, 23] := by decide
    rw [hpositions, if_neg (by decide)]
    simp only [List.map_append, List.map_cons, List.map_nil, List.append_nil]
    rw [show aadMask 23 = 0 from rfl, hzero]
    rfl
  · have hpositions : aadPositions 26 = [0, 1] ++ List.range' 4 6 ++ List.range' 10 6 ++
        List.range' 16 6 ++ [22, 23] ++ [24, 25] := by decide
    rw [hpositions, if_pos rfl]
    simp only [List.map_append, List.map_cons, List.map_nil]
    rw [show aadMask 23 = 0 from rfl, show aadMask 25 = 0 from rfl, hzero, hzero]
    rfl

/-- Agreement on the header bits that 802.11 authenticates. -/
def AgreeUnmasked (hdrLen : Nat) (frame frame' : Bytes) : Prop :=
  ∀ k < 8 * hdrLen, ¬Mutable k → frame.bit k = frame'.bit k

theorem agreeUnmasked_iff {frame frame' : Bytes} {hdrLen : Nat} (hh : hdrLen ≤ 26) :
    AgreeUnmasked hdrLen frame frame' ↔
      ∀ i < hdrLen, frame.at i &&& aadMask i = frame'.at i &&& aadMask i := by
  constructor
  · intro h i hi
    apply Bytes.and_eq_and_iff.mpr
    intro j hj hm
    rw [testBit_aadMask i (by omega) j hj] at hm
    rw [← Bytes.bit_byte _ hj, ← Bytes.bit_byte _ hj]
    exact h (8 * i + j) (by omega) (by simpa using hm)
  · intro h k hk hmutable
    have hj : k % 8 < 8 := Nat.mod_lt k (by decide)
    have hm : (aadMask (k / 8)).toNat.testBit (k % 8) = true := by
      rw [testBit_aadMask _ (by omega) _ hj, Nat.div_add_mod]
      simpa using hmutable
    exact Bytes.and_eq_and_iff.mp (h (k / 8) (by omega)) _ hj hm

theorem ccmpAad_eq_iff {frame frame' : Bytes} {hdrLen : Nat} (hh : hdrLen = 24 ∨ hdrLen = 26)
    (hl : hdrLen ≤ frame.length) (hl' : hdrLen ≤ frame'.length) :
    ccmpAad frame hdrLen = ccmpAad frame' hdrLen ↔ AgreeUnmasked hdrLen frame frame' := by
  rw [ccmpAad_eq_map hh hl, ccmpAad_eq_map hh hl', List.map_inj_left, agreeUnmasked_iff (by omega)]
  have hmem : ∀ i, i ∈ aadPositions hdrLen ↔ i < hdrLen ∧ i ≠ 2 ∧ i ≠ 3 := by
    intro i
    simp only [aadPositions, List.mem_append, List.mem_cons, List.not_mem_nil, or_false,
      List.mem_range'_1]
    omega
  constructor
  · intro h i hi
    by_cases hmasked : i = 2 ∨ i = 3
    · have hzero : aadMask i = 0 := by rcases hmasked with rfl | rfl <;> rfl
      rw [hzero, UInt8.and_zero, UInt8.and_zero]
    · exact h i ((hmem i).mpr ⟨hi, by omega, by omega⟩)
  · intro h i hi
    exact h i ((hmem i).mp hi).1

/-- The nonce takes nothing of the header that the AAD does not take. -/
theorem ccmpNonce_of_agree {frame frame' : Bytes} {hdrLen : Nat} (hh : hdrLen = 24 ∨ hdrLen = 26)
    (hl : hdrLen ≤ frame.length) (hl' : hdrLen ≤ frame'.length)
    (h : AgreeUnmasked hdrLen frame frame') (pn : Bytes) :
    ccmpNonce frame hdrLen pn = ccmpNonce frame' hdrLen pn := by
  have hbytes := (agreeUnmasked_iff (by omega)).mp h
  have haddress : frame.slice 10 6 = frame'.slice 10 6 := by
    rw [slice_masked (by omega) (by decide) (by decide),
      slice_masked (by omega) (by decide) (by decide)]
    apply List.map_congr_left
    intro i hi
    rw [List.mem_range'_1] at hi
    exact hbytes i (by omega)
  have hpriority : ccmpPriority frame hdrLen = ccmpPriority frame' hdrLen := by
    rcases hh with rfl | rfl
    · rfl
    · exact hbytes 24 (by decide)
  rw [ccmpNonce, ccmpNonce, haddress, hpriority]

/-! ## The frames behind the headers -/

section

variable {hdrLen : Nat} {header header' : Bytes}

theorem agreeUnmasked_setProtected (hh : hdrLen = 24 ∨ hdrLen = 26) (hl : header.length = hdrLen)
    (hl' : header'.length = hdrLen) (h : AgreeUnmasked hdrLen header header') :
    AgreeUnmasked hdrLen (setProtected header) (setProtected header') := by
  have hbytes := (agreeUnmasked_iff (by omega)).mp h
  have hset : ∀ x : UInt8, (x ||| 0x40) &&& 0xC7 = (x &&& 0xC7) ||| 0x40 :=
    Bytes.forall_byte (by decide +kernel)
  apply (agreeUnmasked_iff (by omega)).mpr
  intro i hi
  by_cases hi1 : i = 1
  · subst hi1
    have hone : header.at 1 &&& 0xC7 = header'.at 1 &&& 0xC7 := hbytes 1 hi
    show (setProtected header).at 1 &&& 0xC7 = (setProtected header').at 1 &&& 0xC7
    rw [at_one_setProtected (by omega), at_one_setProtected (by omega), hset, hset, hone]
  · rw [at_setProtected _ hi1, at_setProtected _ hi1]
    exact hbytes i hi

theorem ccmpSeal_of_agree (hh : hdrLen = 24 ∨ hdrLen = 26) (hl : header.length = hdrLen)
    (hl' : header'.length = hdrLen) (h : AgreeUnmasked hdrLen header header') (tk : Block)
    (pn body : Bytes) : ccmpSeal tk header hdrLen pn body = ccmpSeal tk header' hdrLen pn body := by
  rw [ccmpSeal, ccmpSeal, ccmpNonce_of_agree hh (by omega) (by omega) h,
    (ccmpAad_eq_iff hh (by omega) (by omega)).mpr h]

theorem ccmpOpen_of_agree (hh : hdrLen = 24 ∨ hdrLen = 26) (hl : header.length = hdrLen)
    (hl' : header'.length = hdrLen) (h : AgreeUnmasked hdrLen header header') (tk : Block)
    (pn : Bytes) (sealed : Bytes × Bytes) :
    ccmpOpen tk header hdrLen pn sealed = ccmpOpen tk header' hdrLen pn sealed := by
  rw [ccmpOpen, ccmpOpen, ccmpNonce_of_agree hh (by omega) (by omega) h,
    (ccmpAad_eq_iff hh (by omega) (by omega)).mpr h]

/-- A frame without room for IV and MIC comes back as it was. -/
theorem ccmpDecrypt_short (hh : hdrLen = 24 ∨ hdrLen = 26) (hl : header.length = hdrLen) (tk : Block)
    {rest : Bytes} (hshort : rest.length < 16) :
    ccmpDecrypt tk (header ++ rest) hdrLen = (false, header ++ rest) := by
  have hlen : (header ++ rest).length < hdrLen + 8 + 8 := by
    rw [List.length_append]
    omega
  rw [ccmpDecrypt, if_neg (by omega), if_pos hlen]

theorem ccmpDecrypt_of_agree (hh : hdrLen = 24 ∨ hdrLen = 26) (hl : header.length = hdrLen)
    (hl' : header'.length = hdrLen) (h : AgreeUnmasked hdrLen header header') (tk : Block)
    (rest : Bytes) :
    (ccmpDecrypt tk (header ++ rest) hdrLen).1 = (ccmpDecrypt tk (header' ++ rest) hdrLen).1 ∧
      (ccmpDecrypt tk (header ++ rest) hdrLen).2.drop hdrLen =
        (ccmpDecrypt tk (header' ++ rest) hdrLen).2.drop hdrLen := by
  by_cases hshort : rest.length < 16
  · rw [ccmpDecrypt_short hh hl tk hshort, ccmpDecrypt_short hh hl' tk hshort, List.drop_left' hl,
      List.drop_left' hl']
    exact ⟨rfl, rfl⟩
  · obtain ⟨none, iv, cipher, mic, hnone, hiv, hmic, hrest⟩ :=
      ccmp_split (show 0 + 16 ≤ rest.length by omega)
    rw [List.eq_nil_of_length_eq_zero hnone, List.nil_append] at hrest
    subst hrest
    rw [ccmpDecrypt_eq hh hl hiv hmic, ccmpDecrypt_eq hh hl' hiv hmic, ccmpOpen_of_agree hh hl hl' h,
      ccmpNonce_of_agree hh (by omega) (by omega) h, List.drop_left' hl, List.drop_left' hl']
    exact ⟨rfl, rfl⟩

theorem ccmpEncrypt_of_agree (hh : hdrLen = 24 ∨ hdrLen = 26) (hl : header.length = hdrLen)
    (hl' : header'.length = hdrLen) (h : AgreeUnmasked hdrLen header header') (tk : Block)
    (body : Bytes) (pn : UInt64) (keyId : UInt8) :
    (ccmpEncrypt tk (header ++ body) hdrLen pn keyId).1 =
        (ccmpEncrypt tk (header' ++ body) hdrLen pn keyId).1 ∧
      (ccmpEncrypt tk (header ++ body) hdrLen pn keyId).2.drop hdrLen =
        (ccmpEncrypt tk (header' ++ body) hdrLen pn keyId).2.drop hdrLen := by
  have hp : (setProtected header).length = hdrLen := by rw [length_setProtected, hl]
  have hp' : (setProtected header').length = hdrLen := by rw [length_setProtected, hl']
  have hagree := agreeUnmasked_setProtected hh hl hl' h
  rw [ccmpEncrypt_eq hh hl, ccmpEncrypt_eq hh hl', ccmpSeal_of_agree hh hp hp' hagree,
    List.drop_left' hp, List.drop_left' hp']
  exact ⟨rfl, rfl⟩

end

/-! ## The inputs of CCM -/

/-- Nonce and AAD of `ccmpDecrypt`. -/
def decryptInputs (frame : Bytes) (hdrLen : Nat) : Bytes × Bytes :=
  (ccmpNonce frame hdrLen (ivPnBytes (frame.slice hdrLen 8)), ccmpAad frame hdrLen)

/-- Nonce and AAD of `ccmpEncrypt`. -/
def encryptInputs (frame : Bytes) (hdrLen : Nat) (pn : UInt64) : Bytes × Bytes :=
  let header := setProtected (frame.take hdrLen)
  (ccmpNonce header hdrLen (pnBytes pn), ccmpAad header hdrLen)

theorem length_ccmpAad {frame : Bytes} {hdrLen : Nat} (hh : hdrLen = 24 ∨ hdrLen = 26)
    (hl : hdrLen ≤ frame.length) : (ccmpAad frame hdrLen).length = hdrLen - 2 := by
  rw [ccmpAad_eq_map hh hl, List.length_map, aadPositions, List.length_append, List.length_range']
  show 2 + _ = _
  omega

/-- The chain over `B_0` and over the AAD behind its length. -/
def macStartUnder (tk : Block) (inputs : Bytes × Bytes) (bodyLen : Nat) : Block :=
  Ccm.cbcMac (aes128Encrypt tk) (aes128Encrypt tk (ccmpB0 inputs.1 bodyLen))
    (Bytes.chunksOf 16 (Bytes.be 2 inputs.2.length ++ inputs.2))

/-- CCM of a body under a nonce and an AAD: ciphertext and MIC. -/
def sealUnder (tk : Block) (inputs : Bytes × Bytes) (body : Bytes) : Bytes × Bytes :=
  Ccm.sealText (aes128Encrypt tk) (ccmpCtrBlock inputs.1) (macStartUnder tk inputs body.length) 8 body

/-- What the ciphertext deciphers to, whether or not the MIC is the right one. -/
def decipherUnder (tk : Block) (inputs : Bytes × Bytes) (cipher : Bytes) : Bytes :=
  Ccm.ctrText (aes128Encrypt tk) (ccmpCtrBlock inputs.1) cipher

def openUnder (tk : Block) (inputs : Bytes × Bytes) (sealed : Bytes × Bytes) : Option Bytes :=
  Ccm.openText (aes128Encrypt tk) (ccmpCtrBlock inputs.1)
    (macStartUnder tk inputs sealed.1.length) 8 sealed

section

variable {tk : Block} {header : Bytes}

theorem ccmpMacStart_under (hh : header.length = 24 ∨ header.length = 26) (nonce : Bytes)
    (bodyLen : Nat) : ccmpMacStart tk nonce (ccmpAad header header.length) bodyLen =
      macStartUnder tk (nonce, ccmpAad header header.length) bodyLen := by
  have haad := length_ccmpAad hh (Nat.le_refl header.length)
  exact ccmpMacStart_chain tk nonce bodyLen (by omega) (by omega)

theorem decryptInputs_append (hh : header.length = 24 ∨ header.length = 26) {iv : Bytes}
    (hiv : iv.length = 8) (rest : Bytes) : decryptInputs (header ++ (iv ++ rest)) header.length =
      (ccmpNonce header header.length (ivPnBytes iv), ccmpAad header header.length) := by
  obtain ⟨hpriority, haddress, haad⟩ := ccmp_header hh rfl (iv ++ rest)
  have hslice : (header ++ (iv ++ rest)).slice header.length 8 = iv := Bytes.slice_append_mid rfl hiv
  rw [decryptInputs, hslice, ccmpNonce, ccmpNonce, hpriority, haddress, haad]

theorem encryptInputs_append (header body : Bytes) (pn : UInt64) :
    encryptInputs (header ++ body) header.length pn =
      (ccmpNonce (setProtected header) header.length (pnBytes pn),
        ccmpAad (setProtected header) header.length) := by
  rw [encryptInputs, List.take_left]

/-- Nothing of the header goes into the decision and the plaintext but the two inputs. -/
theorem ccmpDecrypt_inputs (hh : header.length = 24 ∨ header.length = 26) {iv cipher mic : Bytes}
    (hiv : iv.length = 8) (hmic : mic.length = 8) :
    let inputs := decryptInputs (header ++ (iv ++ (cipher ++ mic))) header.length
    ccmpDecrypt tk (header ++ (iv ++ (cipher ++ mic))) header.length =
      ((openUnder tk inputs (cipher, mic)).isSome,
        header ++ (iv ++ (decipherUnder tk inputs cipher ++ mic))) := by
  intro inputs
  have hinputs : inputs = _ := decryptInputs_append hh hiv (cipher ++ mic)
  rw [ccmpDecrypt_eq hh rfl hiv hmic, hinputs, ccmpOpen, ccmpMacStart_under hh]
  rfl

/-- The same for ciphertext and MIC. -/
theorem ccmpEncrypt_inputs (hh : header.length = 24 ∨ header.length = 26) (body : Bytes)
    (pn : UInt64) (keyId : UInt8) :
    let inputs := encryptInputs (header ++ body) header.length pn
    ccmpEncrypt tk (header ++ body) header.length pn keyId =
      (UInt32.ofNat (header.length + body.length) + 16,
        setProtected header ++ (ccmpIv pn keyId ++
          ((sealUnder tk inputs body).1 ++ (sealUnder tk inputs body).2))) := by
  intro inputs
  have hprotected : (setProtected header).length = 24 ∨ (setProtected header).length = 26 := by
    rwa [length_setProtected]
  have hstart := @ccmpMacStart_under tk _ hprotected
  rw [length_setProtected] at hstart
  have hinputs : inputs = _ := encryptInputs_append header body pn
  rw [ccmpEncrypt_eq hh rfl, hinputs, ccmpSeal, hstart]
  rfl

end

/-- Headers of different sizes, or that differ in a bit that is not mutable. -/
def DifferUnmasked (header header' : Bytes) : Prop :=
  header.length ≠ header'.length ∨
    ∃ k < 8 * header.length, ¬Mutable k ∧ header.bit k ≠ header'.bit k

theorem ccmpAad_ne {header header' : Bytes} (hh : header.length = 24 ∨ header.length = 26)
    (hh' : header'.length = 24 ∨ header'.length = 26) (h : DifferUnmasked header header') :
    ccmpAad header header.length ≠ ccmpAad header' header'.length := by
  intro heq
  have hlength := congrArg List.length heq
  rw [length_ccmpAad hh (Nat.le_refl _), length_ccmpAad hh' (Nat.le_refl _)] at hlength
  have hsame : header'.length = header.length := by omega
  rw [hsame] at heq
  have hagree := (ccmpAad_eq_iff hh (Nat.le_refl _) (Nat.le_of_eq hsame.symm)).mp heq
  rcases h with hne | ⟨k, hk, hmutable, hbit⟩
  · exact hne hsame.symm
  · exact hbit (hagree k hk hmutable)

theorem setProtected_of_bit {header : Bytes} (h : header.bit protectedBit = true) :
    setProtected header = header := by
  have hall : ∀ x : UInt8, x.toNat.testBit 6 = true → x &&& 0x40 ≠ 0 :=
    Bytes.forall_byte (by decide +kernel)
  exact setProtected_of_protected (hall _ h)

/-- Frames that differ only in mutable header bits are accepted alike and give the same bytes behind
the header, in both directions. Both functions are CCM under their nonce and AAD, and protected frames
that differ in any other header bit, or in the size of the header, give another pair of these. -/
theorem ccmp_masking :
    (∀ (hdrLen : Nat) (header header' : Bytes), hdrLen = 24 ∨ hdrLen = 26 →
      header.length = hdrLen → header'.length = hdrLen → AgreeUnmasked hdrLen header header' →
      (∀ (tk : Block) (rest : Bytes),
        (ccmpDecrypt tk (header ++ rest) hdrLen).1 = (ccmpDecrypt tk (header' ++ rest) hdrLen).1 ∧
        (ccmpDecrypt tk (header ++ rest) hdrLen).2.drop hdrLen =
          (ccmpDecrypt tk (header' ++ rest) hdrLen).2.drop hdrLen) ∧
      ∀ (tk : Block) (body : Bytes) (pn : UInt64) (keyId : UInt8),
        (ccmpEncrypt tk (header ++ body) hdrLen pn keyId).1 =
          (ccmpEncrypt tk (header' ++ body) hdrLen pn keyId).1 ∧
        (ccmpEncrypt tk (header ++ body) hdrLen pn keyId).2.drop hdrLen =
          (ccmpEncrypt tk (header' ++ body) hdrLen pn keyId).2.drop hdrLen) ∧
    (∀ (tk : Block) (header : Bytes), header.length = 24 ∨ header.length = 26 →
      (∀ rest : Bytes, rest.length < 16 →
        ccmpDecrypt tk (header ++ rest) header.length = (false, header ++ rest)) ∧
      (∀ iv cipher mic : Bytes, iv.length = 8 → mic.length = 8 →
        let inputs := decryptInputs (header ++ (iv ++ (cipher ++ mic))) header.length
        ccmpDecrypt tk (header ++ (iv ++ (cipher ++ mic))) header.length =
          ((openUnder tk inputs (cipher, mic)).isSome,
            header ++ (iv ++ (decipherUnder tk inputs cipher ++ mic)))) ∧
      ∀ (body : Bytes) (pn : UInt64) (keyId : UInt8),
        let inputs := encryptInputs (header ++ body) header.length pn
        ccmpEncrypt tk (header ++ body) header.length pn keyId =
          (UInt32.ofNat (header.length + body.length) + 16,
            setProtected header ++ (ccmpIv pn keyId ++
              ((sealUnder tk inputs body).1 ++ (sealUnder tk inputs body).2)))) ∧
    ∀ header header' : Bytes, header.length = 24 ∨ header.length = 26 →
      header'.length = 24 ∨ header'.length = 26 → header.bit protectedBit = true →
      header'.bit protectedBit = true → DifferUnmasked header header' →
      (∀ rest rest' : Bytes, decryptInputs (header ++ rest) header.length ≠
        decryptInputs (header' ++ rest') header'.length) ∧
      ∀ (body body' : Bytes) (pn pn' : UInt64), encryptInputs (header ++ body) header.length pn ≠
        encryptInputs (header' ++ body') header'.length pn' := by
  refine ⟨?_, ?_, ?_⟩
  · intro hdrLen header header' hh hl hl' h
    exact ⟨ccmpDecrypt_of_agree hh hl hl' h, ccmpEncrypt_of_agree hh hl hl' h⟩
  · intro tk header hh
    exact ⟨fun rest => ccmpDecrypt_short hh rfl tk, fun iv cipher mic => ccmpDecrypt_inputs hh,
      ccmpEncrypt_inputs hh⟩
  · intro header header' hh hh' hp hp' h
    have haad := ccmpAad_ne hh hh' h
    constructor
    · intro rest rest' heq
      obtain ⟨-, -, hrest⟩ := ccmp_header hh rfl rest
      obtain ⟨-, -, hrest'⟩ := ccmp_header hh' rfl rest'
      apply haad
      rw [← hrest, ← hrest']
      exact congrArg Prod.snd heq
    · intro body body' pn pn' heq
      have hinputs := congrArg Prod.snd heq
      rw [encryptInputs_append, encryptInputs_append, setProtected_of_bit hp,
        setProtected_of_bit hp'] at hinputs
      exact haad hinputs

/-- A header with other retry and duration bits, one with another receiver, and the size of a body of
three bytes. -/
theorem ccmp_masking_sample :
    (ccmpDecrypt (Buf.zero 16) ([0x08, 0x40] ++ Bytes.zeros 22 ++ Bytes.zeros 20) 24).1 =
        (ccmpDecrypt (Buf.zero 16) ([0x08, 0x48, 0x3C] ++ Bytes.zeros 21 ++ Bytes.zeros 20) 24).1 ∧
      (ccmpEncrypt (Buf.zero 16) ([0x08, 0x40] ++ Bytes.zeros 22 ++ [1, 2, 3]) 24 1 0).1 = 43 ∧
      decryptInputs ([0x08, 0x40] ++ Bytes.zeros 22 ++ Bytes.zeros 20) 24 ≠
        decryptInputs ([0x08, 0x40, 0, 0, 1] ++ Bytes.zeros 19 ++ Bytes.zeros 20) 24 := by
  obtain ⟨hsame, hunder, hdiffer⟩ := ccmp_masking
  refine ⟨?_, ?_, ?_⟩
  · exact ((hsame 24 ([0x08, 0x40] ++ Bytes.zeros 22) ([0x08, 0x48, 0x3C] ++ Bytes.zeros 21)
      (.inl rfl) rfl rfl (by unfold AgreeUnmasked; decide +kernel)).1 (Buf.zero 16)
      (Bytes.zeros 20)).1
  · have hseal := (hunder (Buf.zero 16) ([0x08, 0x40] ++ Bytes.zeros 22) (.inl rfl)).2.2 [1, 2, 3] 1 0
    exact congrArg Prod.fst hseal
  · exact (hdiffer ([0x08, 0x40] ++ Bytes.zeros 22) ([0x08, 0x40, 0, 0, 1] ++ Bytes.zeros 19)
      (.inl rfl) (.inl rfl) rfl rfl (.inr ⟨32, by decide, by decide, by decide⟩)).1 (Bytes.zeros 20)
      (Bytes.zeros 20)

end Crypto
end Rtl8814au
