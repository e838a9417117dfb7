import Rtl8814au.Crypto.CcmpFrames
import Rtl8814au.Device.RxAuth
import Rtl8814au.Device.RxSafety
import Rtl8814au.Spec.AccessPoint

/-!
# Device.Decapsulation

What the rx path makes of the data frames of the access point.

* `Yields`: what is in hand past the LLC/SNAP check.
* `rxKey_encode`: the key is the one the access point used.
* `rxDecap_clear_yields`, `rxDecap_sealed_yields`: of a frame in the clear, and of one under CCMP,
  the packet that was put in it.
-/

namespace Rtl8814au
namespace Device

open Crypto
open Spec (AccessPoint DataHeader Msdu)

/-- What is in hand past the LLC/SNAP check is packet `m`. -/
structure Yields (r : Decap) (m : Msdu) : Prop where
  destination : r.frameData.slice 4 6 = m.destination.bytes
  source : r.frameData.slice 16 6 = m.source.bytes
  etherType : r.frameData.slice (r.hdrLen.toNat + 6) 2 = m.etherType.bytes
  payload : r.payload = m.payload
  payloadLen : r.payloadLen.toNat = m.payload.length
  ethLen : r.ethLen.toNat = 14 + m.payload.length

/-- A header of which the two addresses are left, the packet, and whatever is behind it. -/
theorem rxDecap_yields {d : Device} {frame head rest : Bytes} {frameLength : UInt32} {m : Msdu}
    (hpayload : m.payload.length ≤ 1600)
    (hhead : head.length = (k80211HeaderLen frame).toNat)
    (hdestination : head.slice 4 6 = m.destination.bytes)
    (hsource : head.slice 16 6 = m.source.bytes)
    (hframe : (k80211HeaderLen frame).toNat + 8 ≤ frame.length) (hlong : frame.length ≤ 2400)
    (hrx : d.rxDecrypt frame = some (head ++ (m.snap ++ rest), frameLength))
    (hlen : frameLength.toNat = (k80211HeaderLen frame).toNat + m.snap.length) :
    ∃ r, d.rxDecap frame = some r ∧ Yields r m := by
  have hcases := toNat_headerLen frame
  have hsnap := m.length_snap
  have hn : (UInt32.ofNat frame.length).toNat = frame.length := by
    rw [UInt32.toNat_ofNat']
    omega
  have h8 : ¬ UInt32.ofNat frame.length < k80211HeaderLen frame + 8 := by
    rw [UInt32.lt_iff_toNat_lt, hn]
    simp only [UInt32.toNat_add, UInt32.reduceToNat]
    omega
  have hbehind : ∀ off n, (head ++ (m.snap ++ rest)).slice ((k80211HeaderLen frame).toNat + off) n =
      (m.snap ++ rest).slice off n := fun off n => Bytes.slice_skip off hhead
  have hllc : (head ++ (m.snap ++ rest)).slice (k80211HeaderLen frame).toNat 3 =
      [0xAA, 0xAA, 0x03] := (hbehind 0 3).trans rfl
  have hpay : (frameLength - k80211HeaderLen frame - 8).toNat = m.payload.length := by
    simp only [UInt32.toNat_sub, UInt32.reduceToNat, hlen, hsnap]
    omega
  refine ⟨_, rxDecap_of_llc h8 hrx hllc, ?_, ?_, ?_, ?_, hpay, ?_⟩
  · exact (Bytes.slice_append_left (by omega)).trans hdestination
  · exact (Bytes.slice_append_left (by omega)).trans hsource
  · refine (hbehind 6 2).trans ?_
    rw [Msdu.snap, List.append_assoc, List.append_assoc]
    exact (Bytes.slice_skip 0 (by rfl)).trans (Bytes.slice_here m.etherType.length_eq)
  · show (head ++ (m.snap ++ rest)).slice ((k80211HeaderLen frame).toNat + 8)
      (frameLength - k80211HeaderLen frame - 8).toNat = m.payload
    rw [hpay, hbehind, Msdu.snap, List.append_assoc, List.append_assoc]
    exact (Bytes.slice_skip 2 (by rfl)).trans ((Bytes.slice_skip 0 m.etherType.length_eq).trans
      (Bytes.slice_here rfl))
  · show (14 + (frameLength - k80211HeaderLen frame - 8)).toNat = _
    rw [UInt32.toNat_add, hpay]
    show (14 + m.payload.length) % 2 ^ 32 = _
    omega

section Header

variable (h : DataHeader) (x : Bytes)

theorem k80211HeaderLen_encode : (k80211HeaderLen (h.encode ++ x)).toNat = h.length := by
  unfold k80211HeaderLen isQosData
  rw [h.at_frameControl0 x]
  unfold DataHeader.frameControl0 DataHeader.length
  cases h.qosControl with
  | none => rfl
  | some control =>
    simp only [Option.isSome_some, ↓reduceIte]
    decide

theorem isProtected_encode : isProtected (h.encode ++ x) = h.isProtected := by
  unfold isProtected
  rw [h.at_flags x]
  exact h.flags_bits.1.2

theorem frameType_encode : frameType (h.encode ++ x) = 2 := by
  unfold frameType
  rw [h.at_frameControl0 x]
  unfold DataHeader.frameControl0
  split
  · rfl
  · rfl

theorem isGroupAddressed_encode {m : Msdu} (hm : h.address1 = m.destination) :
    isGroupAddressed (h.encode ++ x) = m.isGroup := by
  have hat : (h.encode ++ x).at 4 = m.destination.bytes.at 0 := by
    have hslice := h.slice_address1 x
    rw [← hm, ← hslice, Bytes.at_slice (by decide)]
  unfold isGroupAddressed Msdu.isGroup
  rw [hat]

end Header

/-- The keys the access point uses for packet `m` are installed. -/
structure HoldsKeys (a : AccessPoint) (m : Msdu) (d : Device) : Prop where
  enabled : d.fCcmpEnabled = true
  group : m.isGroup = true → d.fGtkValid = true ∧ d.fGtk = a.gtk
  pairwise : m.isGroup = false → d.fPtkValid = true ∧ d.tk = a.tk m.destination

theorem rxKey_encode {a : AccessPoint} {m : Msdu} {d : Device} (hk : HoldsKeys a m d)
    {h : DataHeader} (hm : h.address1 = m.destination) (x : Bytes) :
    d.rxKey (h.encode ++ x) = some (a.key m) := by
  unfold rxKey AccessPoint.key
  rw [isGroupAddressed_encode h x hm]
  cases hg : m.isGroup with
  | true =>
    obtain ⟨hvalid, hgtk⟩ := hk.group hg
    rw [if_pos rfl, if_pos hvalid, if_pos rfl, hgtk]
  | false =>
    obtain ⟨hvalid, htk⟩ := hk.pairwise hg
    rw [if_neg Bool.false_ne_true, if_pos hvalid, if_neg Bool.false_ne_true, htk]

/-- The plaintext moved over the IV. -/
theorem memmove_plaintext {head iv text mic : Bytes} {hdr : Nat} (hhead : head.length = hdr)
    (hiv : iv.length = 8) : memmove (head ++ (iv ++ (text ++ mic))) hdr (hdr + 8) text.length =
      head ++ (text ++ (head ++ (iv ++ (text ++ mic))).drop (hdr + text.length)) := by
  have htake : (head ++ (iv ++ (text ++ mic))).take hdr = head := List.take_left' hhead
  have hslice : (head ++ (iv ++ (text ++ mic))).slice (hdr + 8) text.length = text :=
    (Bytes.slice_skip 8 hhead).trans ((Bytes.slice_skip 0 hiv).trans (Bytes.slice_here rfl))
  rw [memmove, htake, hslice, List.append_assoc]

/-- In the clear. -/
theorem rxDecap_clear_yields (d : Device) {h : DataHeader} {m : Msdu}
    (hpayload : m.payload.length ≤ 1600) (hp : h.isProtected = false)
    (hdestination : h.address1 = m.destination) (hsource : h.address3 = m.source) :
    ∃ r, d.rxDecap (h.encode ++ m.snap) = some r ∧ Yields r m := by
  have hhdr := k80211HeaderLen_encode h m.snap
  have hcases := h.length_cases
  have hlen : (h.encode ++ m.snap).length = h.length + m.snap.length := by
    rw [List.length_append, h.length_encode]
  have hsnap := m.length_snap
  have h1 := h.slice_address1 []
  have h3 := h.slice_address3 []
  rw [List.append_nil] at h1 h3
  have hclear : ¬ d.Decrypted (h.encode ++ m.snap) := by
    rintro ⟨hprot, -⟩
    rw [isProtected_encode, hp] at hprot
    cases hprot
  have hrx : d.rxDecrypt (h.encode ++ m.snap) =
      some (h.encode ++ (m.snap ++ []), UInt32.ofNat (h.encode ++ m.snap).length) := by
    rw [List.append_nil]
    exact rxDecrypt_plain hclear
  refine rxDecap_yields hpayload (h.length_encode.trans hhdr.symm)
    (h1.trans (congrArg Buf.bytes hdestination)) (h3.trans (congrArg Buf.bytes hsource)) (by omega)
    (by omega) hrx ?_
  rw [UInt32.toNat_ofNat', hlen, hhdr]
  omega

/-- Under CCMP with the key that `Address1` selects. -/
theorem rxDecap_sealed_yields {a : AccessPoint} {d : Device} {h : DataHeader} {m : Msdu}
    (hk : HoldsKeys a m d) (hpayload : m.payload.length ≤ 1600) (hp : h.isProtected = true)
    (hdestination : h.address1 = m.destination) (hsource : h.address3 = m.source) (pn : Buf 6)
    (keyId : Fin 4) :
    ∃ r, d.rxDecap (h.encode ++ Spec.ccmpEncap (a.key m) h pn keyId m.snap) = some r ∧
      Yields r m := by
  have hencap := Spec.length_ccmpEncap (a.key m) h pn keyId m.snap
  obtain ⟨mic, -, hdec⟩ := ccmpDecrypt_encode (a.key m) hp pn keyId m.snap
  have hkey := rxKey_encode hk hdestination (Spec.ccmpEncap (a.key m) h pn keyId m.snap)
  have hhdr := k80211HeaderLen_encode h (Spec.ccmpEncap (a.key m) h pn keyId m.snap)
  have hprot := isProtected_encode h (Spec.ccmpEncap (a.key m) h pn keyId m.snap)
  generalize Spec.ccmpEncap (a.key m) h pn keyId m.snap = body at *
  have hcases := h.length_cases
  have hlen : (h.encode ++ body).length = h.length + (m.snap.length + 16) := by
    rw [List.length_append, h.length_encode, hencap]
  have hsnap := m.length_snap
  rw [← hhdr] at hdec
  obtain ⟨x, frameLength, hrx, hfl⟩ :=
    rxDecrypt_accepted ⟨hprot.trans hp, hk.enabled⟩ (by omega) hkey hdec
  have htext : (h.encode ++ body).length - (k80211HeaderLen (h.encode ++ body)).toNat - 16 =
      m.snap.length := by
    rw [hlen, hhdr]
    omega
  rw [htext, memmove_plaintext (h.length_encode.trans hhdr.symm) (by rfl),
    List.set_append_left _ _ (by rw [h.length_encode]; omega)] at hrx
  have h1 := h.slice_address1 []
  have h3 := h.slice_address3 []
  rw [List.append_nil] at h1 h3
  refine rxDecap_yields hpayload ?_ ?_ ?_ (by omega) (by omega) hrx ?_
  · rw [List.length_set, h.length_encode, hhdr]
  · rw [slice_set (by decide), h1, hdestination]
  · rw [slice_set (by decide), h3, hsource]
  · rw [hfl, hlen, hhdr]
    omega

theorem etherType_yields {r : Decap} {m : Msdu} (h : Yields r m) :
    r.etherType = etherTypeAt m.etherType.bytes 0 := by
  unfold Decap.etherType etherTypeAt
  rw [← h.etherType, Bytes.at_slice (by decide), Bytes.at_slice (by decide)]

end Device
end Rtl8814au
