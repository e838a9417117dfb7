import Rtl8814au.Lib.Ccm
import Rtl8814au.Crypto.Aes

/-!
# Spec.Ccmp

Data frames with three addresses, and CCMP over them.

* `DataHeader`: `encode` and `decode` are its two directions, `decode_encode` the round trip.
* `aad`, `nonce`: what CCMP takes from a header.
* `ccmpEncap`, `ccmpDecap`: the frame body, from and to plaintext; `ccmpDecap_ccmpEncap`.
-/

namespace Rtl8814au
namespace Spec

open Crypto (Block aes128Encrypt)

/-! ## The header -/

/-- What no field stands for is zero: version, power save bits of the subtype, order. -/
structure DataHeader where
  toDs : Bool
  fromDs : Bool
  moreFragments : Bool
  retry : Bool
  powerManagement : Bool
  moreData : Bool
  isProtected : Bool
  duration : Buf 2
  address1 : Buf 6
  address2 : Buf 6
  address3 : Buf 6
  sequence : Buf 2 -- The fragment number is in the low four bits of the first byte.
  qosControl : Option (Buf 2) -- The TID is in the low four bits of the first byte.

namespace DataHeader

def bit (b : Bool) (mask : UInt8) : UInt8 := if b then mask else 0

def flags (h : DataHeader) : UInt8 :=
  bit h.toDs 0x01 ||| bit h.fromDs 0x02 ||| bit h.moreFragments 0x04 ||| bit h.retry 0x08 |||
    bit h.powerManagement 0x10 ||| bit h.moreData 0x20 ||| bit h.isProtected 0x40

def frameControl0 (h : DataHeader) : UInt8 := if h.qosControl.isSome then 0x88 else 0x08

def qosBytes (h : DataHeader) : Bytes :=
  match h.qosControl with
  | none => []
  | some control => control.bytes

def length (h : DataHeader) : Nat := if h.qosControl.isSome then 26 else 24

def encode (h : DataHeader) : Bytes :=
  [h.frameControl0, h.flags] ++ (h.duration.bytes ++ (h.address1.bytes ++ (h.address2.bytes ++
    (h.address3.bytes ++ (h.sequence.bytes ++ h.qosBytes)))))

/-- The fields ahead of the QoS control. -/
def read (b : Bytes) (qosControl : Option (Buf 2)) : DataHeader where
  toDs := b.at 1 &&& 0x01 ≠ 0
  fromDs := b.at 1 &&& 0x02 ≠ 0
  moreFragments := b.at 1 &&& 0x04 ≠ 0
  retry := b.at 1 &&& 0x08 ≠ 0
  powerManagement := b.at 1 &&& 0x10 ≠ 0
  moreData := b.at 1 &&& 0x20 ≠ 0
  isProtected := b.at 1 &&& 0x40 ≠ 0
  duration := Buf.ofBytes 2 (b.slice 2 2)
  address1 := Buf.ofBytes 6 (b.slice 4 6)
  address2 := Buf.ofBytes 6 (b.slice 10 6)
  address3 := Buf.ofBytes 6 (b.slice 16 6)
  sequence := Buf.ofBytes 2 (b.slice 22 2)
  qosControl := qosControl

/-- A header and the body behind it. -/
def decode (b : Bytes) : Option (DataHeader × Bytes) :=
  if b.at 1 &&& 0x80 ≠ 0 then none
  else if b.at 0 = 0x08 ∧ 24 ≤ b.length then some (read b none, b.drop 24)
  else if b.at 0 = 0x88 ∧ 26 ≤ b.length then
    some (read b (some (Buf.ofBytes 2 (b.slice 24 2))), b.drop 26)
  else none

/-! ### Fields of an encoded header, whatever follows it -/

theorem length_qosBytes (h : DataHeader) : h.qosBytes.length + 24 = h.length := by
  unfold qosBytes length
  cases h.qosControl with
  | none => rfl
  | some control => rw [control.length_eq]; rfl

theorem length_encode (h : DataHeader) : h.encode.length = h.length := by
  have hqos := h.length_qosBytes
  simp only [encode, List.length_append, List.length_cons, List.length_nil, Buf.length_eq]
  omega

theorem length_cases (h : DataHeader) : h.length = 24 ∨ h.length = 26 := by
  unfold length
  split
  · exact .inr rfl
  · exact .inl rfl

theorem encode_append (h : DataHeader) (x : Bytes) :
    h.encode ++ x = [h.frameControl0, h.flags] ++ (h.duration.bytes ++ (h.address1.bytes ++
      (h.address2.bytes ++ (h.address3.bytes ++ (h.sequence.bytes ++ (h.qosBytes ++ x)))))) := by
  simp only [encode, List.append_assoc]

section Fields

variable (h : DataHeader) (x : Bytes)

theorem at_frameControl0 : (h.encode ++ x).at 0 = h.frameControl0 := rfl

theorem at_flags : (h.encode ++ x).at 1 = h.flags := rfl

theorem slice_duration : (h.encode ++ x).slice 2 2 = h.duration.bytes := by
  rw [encode_append]
  exact (Bytes.slice_skip 0 (by rfl)).trans (Bytes.slice_here h.duration.length_eq)

/-- Past the duration. -/
theorem slice_encode (off n : Nat) : (h.encode ++ x).slice (4 + off) n =
    (h.address1.bytes ++ (h.address2.bytes ++ (h.address3.bytes ++ (h.sequence.bytes ++
      (h.qosBytes ++ x))))).slice off n := by
  rw [encode_append, show 4 + off = 2 + (2 + off) by omega, Bytes.slice_skip _ (by rfl),
    Bytes.slice_skip _ h.duration.length_eq]

theorem slice_address1 : (h.encode ++ x).slice 4 6 = h.address1.bytes :=
  (h.slice_encode x 0 6).trans (Bytes.slice_here h.address1.length_eq)

theorem slice_address2 : (h.encode ++ x).slice 10 6 = h.address2.bytes :=
  (h.slice_encode x 6 6).trans ((Bytes.slice_skip 0 h.address1.length_eq).trans
    (Bytes.slice_here h.address2.length_eq))

theorem slice_address3 : (h.encode ++ x).slice 16 6 = h.address3.bytes :=
  (h.slice_encode x 12 6).trans ((Bytes.slice_skip 6 h.address1.length_eq).trans
    ((Bytes.slice_skip 0 h.address2.length_eq).trans (Bytes.slice_here h.address3.length_eq)))

/-- Past the addresses. -/
theorem slice_encode_sequence (off n : Nat) : (h.encode ++ x).slice (22 + off) n =
    (h.sequence.bytes ++ (h.qosBytes ++ x)).slice off n := by
  rw [show 22 + off = 4 + (6 + (6 + (6 + off))) by omega, slice_encode,
    Bytes.slice_skip _ h.address1.length_eq, Bytes.slice_skip _ h.address2.length_eq,
    Bytes.slice_skip _ h.address3.length_eq]

theorem slice_sequence : (h.encode ++ x).slice 22 2 = h.sequence.bytes :=
  (h.slice_encode_sequence x 0 2).trans (Bytes.slice_here h.sequence.length_eq)

theorem slice_qosControl {control : Buf 2} (hq : h.qosControl = some control) :
    (h.encode ++ x).slice 24 2 = control.bytes := by
  have hbytes : h.qosBytes = control.bytes := by rw [qosBytes, hq]
  refine (h.slice_encode_sequence x 2 2).trans ((Bytes.slice_skip 0 h.sequence.length_eq).trans ?_)
  rw [hbytes]
  exact Bytes.slice_here control.length_eq

end Fields

/-- The bits of the flags, one by one. -/
theorem flags_bits (h : DataHeader) :
    (h.flags &&& 0x80 = 0 ∧ decide (h.flags &&& 0x40 ≠ 0) = h.isProtected) ∧
      (decide (h.flags &&& 0x01 ≠ 0) = h.toDs ∧ decide (h.flags &&& 0x02 ≠ 0) = h.fromDs ∧
      decide (h.flags &&& 0x04 ≠ 0) = h.moreFragments ∧ decide (h.flags &&& 0x08 ≠ 0) = h.retry ∧
      decide (h.flags &&& 0x10 ≠ 0) = h.powerManagement ∧
      decide (h.flags &&& 0x20 ≠ 0) = h.moreData) := by
  unfold flags
  generalize h.toDs = b0
  generalize h.fromDs = b1
  generalize h.moreFragments = b2
  generalize h.retry = b3
  generalize h.powerManagement = b4
  generalize h.moreData = b5
  generalize h.isProtected = b6
  revert b0 b1 b2 b3 b4 b5 b6
  decide +kernel

theorem read_encode (h : DataHeader) (x : Bytes) : read (h.encode ++ x) h.qosControl = h := by
  obtain ⟨⟨-, h6⟩, h0, h1, h2, h3, h4, h5⟩ := h.flags_bits
  unfold read
  rw [h.at_flags x, h.slice_duration x, h.slice_address1 x, h.slice_address2 x, h.slice_address3 x,
    h.slice_sequence x]
  simp only [Buf.ofBytes_bytes, h0, h1, h2, h3, h4, h5, h6]

theorem decode_encode (h : DataHeader) (x : Bytes) : decode (h.encode ++ x) = some (h, x) := by
  have hlen : (h.encode ++ x).length = h.length + x.length := by
    rw [List.length_append, h.length_encode]
  have hread := h.read_encode x
  have hdrop : (h.encode ++ x).drop h.length = x := List.drop_left' h.length_encode
  unfold decode
  rw [h.at_flags x, if_neg (not_not.mpr h.flags_bits.1.1), h.at_frameControl0 x, hlen]
  cases hq : h.qosControl with
  | none =>
    have hlength : h.length = 24 := by rw [length, hq]; rfl
    have hfc : h.frameControl0 = 0x08 := by rw [frameControl0, hq]; rfl
    rw [hq] at hread
    rw [hlength] at hdrop
    rw [if_pos ⟨hfc, by omega⟩, hread, hdrop]
  | some control =>
    have hlength : h.length = 26 := by rw [length, hq]; rfl
    have hfc : h.frameControl0 = 0x88 := by rw [frameControl0, hq]; rfl
    rw [hq] at hread
    rw [hlength] at hdrop
    rw [if_neg (by rw [hfc]; exact fun hne => absurd hne.1 (by decide)),
      if_pos ⟨hfc, by omega⟩, h.slice_qosControl x hq, Buf.ofBytes_bytes, hread, hdrop]

/-! ## What CCMP takes from it -/

def tid (h : DataHeader) : UInt8 :=
  match h.qosControl with
  | none => 0
  | some control => control.bytes.at 0 &&& 0x0F

/-- Bits that a retransmission may change do not count, and the frame is a protected one. -/
def masked (h : DataHeader) : DataHeader :=
  { h with retry := false, powerManagement := false, moreData := false, isProtected := true }

/-- The sequence number does not count either; of the QoS control, only the TID does. -/
def aad (h : DataHeader) : Bytes :=
  [h.frameControl0, h.masked.flags] ++ (h.address1.bytes ++ (h.address2.bytes ++
    (h.address3.bytes ++ ([h.sequence.bytes.at 0 &&& 0x0F, 0] ++
      if h.qosControl.isSome then [h.tid, 0] else []))))

def nonce (h : DataHeader) (pn : Buf 6) : Bytes := h.tid :: (h.address2.bytes ++ pn.bytes)

end DataHeader

/-! ## Bodies -/

/-- `B_0`, for a MIC of eight bytes and a length of two. -/
def ccmpFirstBlock (nonce : Bytes) (textLen : Nat) : Bytes := 0x59 :: (nonce ++ Bytes.be 2 textLen)

def ccmpCounterBlock (nonce : Bytes) (counter : Nat) : Block :=
  Buf.ofBytes 16 (0x01 :: (nonce ++ Bytes.be 2 counter))

/-- The CBC-MAC over `B_0` and over the AAD behind its length. -/
def ccmpStart (tk : Block) (h : DataHeader) (pn : Buf 6) (textLen : Nat) : Block :=
  Ccm.cbcMac (aes128Encrypt tk) (Buf.zero 16) (ccmpFirstBlock (h.nonce pn) textLen ::
    Bytes.chunksOf 16 (Bytes.be 2 h.aad.length ++ h.aad))

/-- Packet number, most significant byte last, and key id, with the extended-IV bit. -/
def ccmpHeader (pn : Buf 6) (keyId : Fin 4) : Bytes :=
  [pn.bytes.at 5, pn.bytes.at 4, 0, (0x20 : UInt8) ||| (UInt8.ofNat keyId.val <<< 6),
    pn.bytes.at 3, pn.bytes.at 2, pn.bytes.at 1, pn.bytes.at 0]

def headerPn (iv : Bytes) : Buf 6 :=
  Buf.ofBytes 6 [iv.at 7, iv.at 6, iv.at 5, iv.at 4, iv.at 1, iv.at 0]

def ccmpEncap (tk : Block) (h : DataHeader) (pn : Buf 6) (keyId : Fin 4) (text : Bytes) : Bytes :=
  let sealed := Ccm.sealText (aes128Encrypt tk) (ccmpCounterBlock (h.nonce pn))
    (ccmpStart tk h pn text.length) 8 text
  ccmpHeader pn keyId ++ (sealed.1 ++ sealed.2)

def ccmpDecap (tk : Block) (h : DataHeader) (body : Bytes) : Option Bytes :=
  if body.length < 16 then none
  else
    let pn := headerPn body
    let cipher := body.slice 8 (body.length - 16)
    Ccm.openText (aes128Encrypt tk) (ccmpCounterBlock (h.nonce pn))
      (ccmpStart tk h pn cipher.length) 8 (cipher, body.drop (body.length - 8))

theorem headerPn_ccmpHeader (pn : Buf 6) (keyId : Fin 4) (x : Bytes) :
    headerPn (ccmpHeader pn keyId ++ x) = pn := by
  obtain ⟨bytes, hlen⟩ := pn
  match bytes, hlen with
  | [_, _, _, _, _, _], _ => rfl

theorem length_ccmpEncap (tk : Block) (h : DataHeader) (pn : Buf 6) (keyId : Fin 4)
    (text : Bytes) : (ccmpEncap tk h pn keyId text).length = text.length + 16 := by
  have hcipher : (Ccm.ctrText (aes128Encrypt tk) (ccmpCounterBlock (h.nonce pn)) text).length =
      text.length := Ccm.length_ctrText (by decide) text
  have htag : (Ccm.tag (aes128Encrypt tk) (ccmpCounterBlock (h.nonce pn))
      (ccmpStart tk h pn text.length) 8 text).length = 8 := Ccm.length_tag (by decide) text
  simp only [ccmpEncap, Ccm.sealText, List.length_append, hcipher, htag, ccmpHeader,
    List.length_cons, List.length_nil]
  omega

theorem ccmpDecap_ccmpEncap (tk : Block) (h : DataHeader) (pn : Buf 6) (keyId : Fin 4)
    (text : Bytes) : ccmpDecap tk h (ccmpEncap tk h pn keyId text) = some text := by
  have hlen := length_ccmpEncap tk h pn keyId text
  have hcipher : (Ccm.ctrText (aes128Encrypt tk) (ccmpCounterBlock (h.nonce pn)) text).length =
      text.length := Ccm.length_ctrText (by decide) text
  have hopen : Ccm.openText (aes128Encrypt tk) (ccmpCounterBlock (h.nonce pn))
      (ccmpStart tk h pn text.length) 8 (Ccm.sealText (aes128Encrypt tk)
        (ccmpCounterBlock (h.nonce pn)) (ccmpStart tk h pn text.length) 8 text) = some text :=
    Ccm.openText_sealText (by decide) text
  unfold ccmpDecap
  rw [hlen, if_neg (by omega), Nat.add_sub_cancel, show text.length + 16 - 8 = 8 + text.length by
    omega]
  unfold ccmpEncap
  dsimp only
  rw [headerPn_ccmpHeader]
  unfold Ccm.sealText at hopen ⊢
  generalize Ccm.tag _ _ _ 8 text = mic at hopen ⊢
  generalize Ccm.ctrText _ _ text = cipher at hcipher hopen ⊢
  have hslice : (ccmpHeader pn keyId ++ (cipher ++ mic)).slice 8 text.length = cipher :=
    (Bytes.slice_skip 0 (by rfl)).trans (Bytes.slice_here hcipher)
  have hdrop : (ccmpHeader pn keyId ++ (cipher ++ mic)).drop (8 + text.length) = mic := by
    rw [← List.append_assoc]
    refine List.drop_left' ?_
    rw [List.length_append, hcipher]
    rfl
  rw [hslice, hdrop, hcipher]
  exact hopen

/-- A body is made from the nonce and the AAD. -/
theorem ccmpEncap_congr {h h' : DataHeader} (haad : h.aad = h'.aad) (htid : h.tid = h'.tid)
    (haddress : h.address2 = h'.address2) (tk : Block) (pn : Buf 6) (keyId : Fin 4)
    (text : Bytes) : ccmpEncap tk h pn keyId text = ccmpEncap tk h' pn keyId text := by
  have hnonce : h.nonce pn = h'.nonce pn := by
    rw [DataHeader.nonce, DataHeader.nonce, htid, haddress]
  unfold ccmpEncap ccmpStart
  rw [haad, hnonce]

end Spec
end Rtl8814au
