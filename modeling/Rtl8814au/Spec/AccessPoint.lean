import Rtl8814au.Spec.Ccmp

/-!
# Spec.AccessPoint

An access point that passes packets on between its stations.

* `Msdu`: a packet; `ethernet` and `snap` are what it looks like on the two kinds of link.
* `OnAir`: what a radio fills in of a frame it sends.
* `receive`: the packet in a frame to the distribution system; `receive_clear`, `receive_sealed`.
* `forward`: the frame from the distribution system, under the choices an access point has.
-/

namespace Rtl8814au
namespace Spec

open Crypto (Block)

/-! ## Packets -/

structure Msdu where
  destination : Buf 6
  source : Buf 6
  etherType : Buf 2
  payload : Bytes

namespace Msdu

def ethernet (m : Msdu) : Bytes :=
  m.destination.bytes ++ (m.source.bytes ++ (m.etherType.bytes ++ m.payload))

def ofEthernet (b : Bytes) : Msdu where
  destination := Buf.ofBytes 6 (b.slice 0 6)
  source := Buf.ofBytes 6 (b.slice 6 6)
  etherType := Buf.ofBytes 2 (b.slice 12 2)
  payload := b.drop 14

/-- Behind an LLC/SNAP header. -/
def snap (m : Msdu) : Bytes :=
  [0xAA, 0xAA, 0x03, 0x00, 0x00, 0x00] ++ (m.etherType.bytes ++ m.payload)

def ofSnap (destination source : Buf 6) (text : Bytes) : Option Msdu :=
  if text.take 6 = [0xAA, 0xAA, 0x03, 0x00, 0x00, 0x00] ∧ 8 ≤ text.length then
    some {
      destination := destination
      source := source
      etherType := Buf.ofBytes 2 (text.slice 6 2)
      payload := text.drop 8 }
  else none

def isGroup (m : Msdu) : Bool := m.destination.bytes.at 0 &&& 0x01 ≠ 0

theorem length_ethernet (m : Msdu) : m.ethernet.length = 14 + m.payload.length := by
  simp only [ethernet, List.length_append, Buf.length_eq]
  omega

theorem length_snap (m : Msdu) : m.snap.length = 8 + m.payload.length := by
  simp only [snap, List.length_append, Buf.length_eq, List.length_cons, List.length_nil]
  omega

theorem ethernet_ofEthernet {b : Bytes} (h : 14 ≤ b.length) : (ofEthernet b).ethernet = b := by
  have h6 : (b.slice 0 6).length = 6 := Bytes.length_slice (by omega)
  have h12 : (b.slice 6 6).length = 6 := Bytes.length_slice (by omega)
  have h14 : (b.slice 12 2).length = 2 := Bytes.length_slice (by omega)
  have hsplit : ∀ i n, b.drop i = b.slice i n ++ b.drop (i + n) := fun i n => by
    rw [Bytes.slice, ← List.drop_drop, List.take_append_drop]
  unfold ethernet ofEthernet
  rw [Buf.bytes_ofBytes h6, Buf.bytes_ofBytes h12, Buf.bytes_ofBytes h14, ← hsplit 12 2,
    ← hsplit 6 6, ← hsplit 0 6, List.drop_zero]

theorem ofSnap_snap (m : Msdu) : ofSnap m.destination m.source m.snap = some m := by
  have htype : m.snap.slice 6 2 = m.etherType.bytes :=
    (Bytes.slice_skip 0 (by rfl)).trans (Bytes.slice_here m.etherType.length_eq)
  have hpayload : m.snap.drop 8 = m.payload := by
    rw [snap, ← List.append_assoc]
    exact List.drop_left' (by rw [List.length_append, m.etherType.length_eq]; rfl)
  have hlen := m.length_snap
  unfold ofSnap
  rw [if_pos ⟨rfl, by omega⟩, htype, hpayload, Buf.ofBytes_bytes]

end Msdu

/-! ## Frames on the air -/

/-- Retry bit, duration and sequence number. -/
structure OnAir where
  retry : Bool
  duration : Buf 2
  sequence : Buf 2

namespace OnAir

/-- An unfragmented frame has fragment number 0. -/
def sequenceControl (t : OnAir) : Buf 2 :=
  ⟨[t.sequence.bytes.at 0 &&& 0xF0, t.sequence.bytes.at 1], rfl⟩

def frame (t : OnAir) (b : Bytes) : Bytes :=
  [b.at 0, b.at 1 ||| DataHeader.bit t.retry 0x08] ++ (t.duration.bytes ++ (b.slice 4 18 ++
    (t.sequenceControl.bytes ++ b.drop 24)))

def header (t : OnAir) (h : DataHeader) : DataHeader :=
  { h with retry := t.retry, duration := t.duration, sequence := t.sequenceControl }

theorem flags_header (t : OnAir) {h : DataHeader} (hr : h.retry = false) :
    h.flags ||| DataHeader.bit t.retry 0x08 = (t.header h).flags := by
  simp only [DataHeader.flags, header, hr]
  generalize h.toDs = b0
  generalize h.fromDs = b1
  generalize h.moreFragments = b2
  generalize t.retry = b3
  generalize h.powerManagement = b4
  generalize h.moreData = b5
  generalize h.isProtected = b6
  revert b0 b1 b2 b3 b4 b5 b6
  decide +kernel

theorem frame_encode (t : OnAir) {h : DataHeader} (hr : h.retry = false) (x : Bytes) :
    t.frame (h.encode ++ x) = (t.header h).encode ++ x := by
  have hflags : (h.encode ++ x).at 1 ||| DataHeader.bit t.retry 0x08 = (t.header h).flags :=
    t.flags_header hr
  have haddresses : (h.address1.bytes ++ (h.address2.bytes ++ h.address3.bytes)).length = 18 := by
    simp only [List.length_append, Buf.length_eq]
  have hslice : (h.encode ++ x).slice 4 18 =
      h.address1.bytes ++ (h.address2.bytes ++ h.address3.bytes) := by
    have hbehind := h.slice_encode x 0 18
    rw [← List.append_assoc h.address2.bytes, ← List.append_assoc h.address1.bytes] at hbehind
    exact hbehind.trans (Bytes.slice_here haddresses)
  have hdrop : (h.encode ++ x).drop 24 = h.qosBytes ++ x := by
    rw [h.encode_append, ← List.append_assoc h.address2.bytes, ← List.append_assoc h.address1.bytes,
      ← List.append_assoc _ h.sequence.bytes, ← List.append_assoc h.duration.bytes,
      ← List.append_assoc]
    refine List.drop_left' ?_
    simp only [List.length_append, List.length_cons, List.length_nil, Buf.length_eq]
  have hqos : (t.header h).qosBytes = h.qosBytes := rfl
  rw [frame, hflags, hslice, hdrop, h.at_frameControl0 x, DataHeader.encode_append, hqos]
  simp only [List.append_assoc]
  rfl

/-- CCMP covers none of it. -/
theorem aad_header (t : OnAir) {h : DataHeader} (hs : h.sequence.bytes.at 0 &&& 0x0F = 0) :
    (t.header h).aad = h.aad := by
  have hfragment : ∀ x : UInt8, (x &&& 0xF0) &&& 0x0F = 0 :=
    fun x => Bytes.forall_byte (P := fun x => (x &&& 0xF0) &&& 0x0F = 0) (by decide +kernel) x
  have hseq : (t.header h).sequence.bytes.at 0 &&& 0x0F = h.sequence.bytes.at 0 &&& 0x0F :=
    (hfragment _).trans hs.symm
  unfold DataHeader.aad
  rw [hseq]
  rfl

end OnAir

/-! ## The access point -/

structure AccessPoint where
  bssid : Buf 6
  tk : Buf 6 → Block -- The pairwise key of each station.
  gtk : Block

namespace AccessPoint

def plaintext (a : AccessPoint) (h : DataHeader) (body : Bytes) : Option Bytes :=
  if h.isProtected then ccmpDecap (a.tk h.address2) h body else some body

/-- `Address1` is the access point, `Address2` the sender, `Address3` the destination. -/
def receive (a : AccessPoint) (frame : Bytes) : Option Msdu :=
  match DataHeader.decode frame with
  | none => none
  | some (h, body) =>
    if h.toDs = true ∧ h.fromDs = false ∧ h.address1 = a.bssid then
      (a.plaintext h body).bind (Msdu.ofSnap h.address3 h.address2)
    else none

/-- The choices of the access point when it forwards a packet. -/
structure Forwarding where
  retry : Bool
  powerManagement : Bool
  moreData : Bool
  duration : Buf 2
  sequence : Buf 2
  qosControl : Option (Buf 2)
  protection : Option (Buf 6 × Fin 4) -- The packet number and the key id of CCMP.

/-- `Address1` is the destination, `Address2` the access point, `Address3` the source. -/
def header (a : AccessPoint) (c : Forwarding) (m : Msdu) : DataHeader where
  toDs := false
  fromDs := true
  moreFragments := false
  retry := c.retry
  powerManagement := c.powerManagement
  moreData := c.moreData
  isProtected := c.protection.isSome
  duration := c.duration
  address1 := m.destination
  address2 := a.bssid
  address3 := m.source
  sequence := c.sequence
  qosControl := c.qosControl

def key (a : AccessPoint) (m : Msdu) : Block := if m.isGroup then a.gtk else a.tk m.destination

def forward (a : AccessPoint) (c : Forwarding) (m : Msdu) : Bytes :=
  (a.header c m).encode ++
    match c.protection with
    | none => m.snap
    | some (pn, keyId) => ccmpEncap (a.key m) (a.header c m) pn keyId m.snap

theorem length_forward (a : AccessPoint) (c : Forwarding) (m : Msdu) :
    32 + m.payload.length ≤ (a.forward c m).length ∧
      (a.forward c m).length ≤ 50 + m.payload.length := by
  have hheader := (a.header c m).length_cases
  have hsnap := m.length_snap
  unfold forward
  rw [List.length_append, DataHeader.length_encode]
  cases c.protection with
  | none =>
    dsimp only
    omega
  | some protection =>
    have hbody := length_ccmpEncap (a.key m) (a.header c m) protection.1 protection.2 m.snap
    dsimp only
    omega

/-- A header of a frame to the access point with packet `m`. -/
structure Carries (a : AccessPoint) (h : DataHeader) (m : Msdu) : Prop where
  toDs : h.toDs = true
  fromDs : h.fromDs = false
  address1 : h.address1 = a.bssid
  address2 : h.address2 = m.source
  address3 : h.address3 = m.destination

theorem receive_clear {a : AccessPoint} {h : DataHeader} {m : Msdu} (hc : a.Carries h m)
    (hp : h.isProtected = false) : a.receive (h.encode ++ m.snap) = some m := by
  have htext : a.plaintext h m.snap = some m.snap := by rw [plaintext, hp]; rfl
  unfold receive
  rw [h.decode_encode]
  dsimp only
  rw [if_pos ⟨hc.toDs, hc.fromDs, hc.address1⟩, htext, hc.address2, hc.address3]
  exact m.ofSnap_snap

theorem receive_sealed {a : AccessPoint} {h : DataHeader} {m : Msdu} (hc : a.Carries h m)
    (hp : h.isProtected = true) (pn : Buf 6) (keyId : Fin 4) :
    a.receive (h.encode ++ ccmpEncap (a.tk m.source) h pn keyId m.snap) = some m := by
  have htext : a.plaintext h (ccmpEncap (a.tk m.source) h pn keyId m.snap) = some m.snap := by
    rw [plaintext, if_pos hp, hc.address2, ccmpDecap_ccmpEncap]
  unfold receive
  rw [h.decode_encode]
  dsimp only
  rw [if_pos ⟨hc.toDs, hc.fromDs, hc.address1⟩, htext, hc.address2, hc.address3]
  exact m.ofSnap_snap

end AccessPoint
end Spec
end Rtl8814au
