import Rtl8814au.RxPath.Descriptor
import Mathlib.Algebra.Order.Group.Nat

/-!
# RxPath.Walk

`_ProcessTransfer`: the walk over the packets the chip has aggregated into one bulk-IN transfer.

* `readUnit`          — one turn of the loop, up to the outcome; `walk` is the loop.
* `Packet`, `encode`  — a packet with its descriptor, driver-info section, gap and padding.
* `readUnit_encode`   — the spec of one turn: a packet at the front is read and stepped over.
* `walk_encode`       — by induction, a whole transfer.
-/

namespace Rtl8814au
namespace RxPath

open Fields

def kRxAggregationAlign : Nat := 8

/-- `(n + align - 1) & ~(align - 1)`. -/
def alignUp (n : Nat) : Nat := (n + kRxAggregationAlign - 1) / kRxAggregationAlign * kRxAggregationAlign

structure RxStats where
  fFramesReceived : Nat := 0
  fCrcErrors : Nat := 0
  fFramesDropped : Nat := 0
  fDropsFromWalk : Nat := 0
  fDropsFromIcv : Nat := 0
deriving DecidableEq

/-- What stands at the current position of the walk. -/
inductive RxUnit
  | done -- less than a descriptor, or the padding after the last packet
  | bail -- a packet that does not fit into the transfer
  | packet (info : RxFrameInfo) (payload : Bytes) (aligned : Nat)
deriving DecidableEq

/-- The driver-info size the descriptor reports, in bytes. -/
def drvInfoSize (dword0 : Nat) : Nat :=
  extract kRxDescDrvInfoSize_Mask kRxDescDrvInfoSize_Shift dword0 * 8

/-- The size the walk goes by: the chip reports none for the usual 32-byte PHY status block. -/
def phyStatusBytes (dword0 : Nat) (hasPhyStatus : Bool) : Nat :=
  if drvInfoSize dword0 = 0 && hasPhyStatus then 32 else drvInfoSize dword0

/-- One turn of the loop; `rest` is the transfer from the current offset on. -/
def readUnit (rest : Bytes) : RxUnit :=
  if rest.length < kRxDescSize then .done
  else
    let info := parseDescriptor rest
    let dword0 := dword rest 0
    let headerSize := kRxDescSize + phyStatusBytes dword0 info.hasPhyStatus
    let payloadLength := info.packetLength
    let rawPacketLength := extract kRxDescPktLen_Mask kRxDescPktLen_Shift dword0
    let shift := extract kRxDescShift_Mask kRxDescShift_Shift dword0
    let payloadOffset := headerSize + shift
    if payloadLength = 0 then .done
    else if payloadOffset + payloadLength > rest.length then .bail
    else
      let info :=
        if info.hasPhyStatus && drvInfoSize dword0 > 0 then
          parsePhyStatus (rest.slice kRxDescSize (phyStatusBytes dword0 info.hasPhyStatus)) info
        else info
      .packet info (rest.slice payloadOffset payloadLength)
        (alignUp (headerSize + shift + rawPacketLength))

/-- The walk always advances. -/
theorem readUnit_aligned {rest payload : Bytes} {info : RxFrameInfo} {aligned : Nat}
    (h : readUnit rest = .packet info payload aligned) :
    kRxDescSize ≤ aligned ∧ kRxDescSize ≤ rest.length := by
  simp only [readUnit] at h
  split at h
  · cases h
  · rename_i hlen
    split at h
    · cases h
    · split at h
      · cases h
      · simp only [RxUnit.packet.injEq] at h
        obtain ⟨-, -, rfl⟩ := h
        simp only [alignUp, kRxAggregationAlign, kRxDescSize] at *
        omega

/-- The loop. The callbacks are listed in the order they are made; `callback` says whether one is
set. -/
def walk (callback : Bool) (rest : Bytes) (stats : RxStats) :
    RxStats × List (Bytes × RxFrameInfo) :=
  match _h : readUnit rest with
  | .done => (stats, [])
  | .bail =>
    ({ stats with
        fFramesDropped := stats.fFramesDropped + 1
        fDropsFromWalk := stats.fDropsFromWalk + 1 }, [])
  | .packet info payload aligned =>
    if info.crcError then
      walk callback (rest.drop aligned) { stats with fCrcErrors := stats.fCrcErrors + 1 }
    else if info.icvError then
      walk callback (rest.drop aligned)
        { stats with
          fFramesDropped := stats.fFramesDropped + 1
          fDropsFromIcv := stats.fDropsFromIcv + 1 }
    else if payload.length > 0 && callback then
      let r := walk callback (rest.drop aligned)
        { stats with fFramesReceived := stats.fFramesReceived + 1 }
      (r.1, (payload, info) :: r.2)
    else walk callback (rest.drop aligned) stats
termination_by rest.length
decreasing_by
  all_goals
    have := readUnit_aligned _h
    simp only [List.length_drop, kRxDescSize] at *
    omega

section

variable {callback : Bool} {rest : Bytes}

/-- One turn of `walk` over a packet. -/
theorem walk_unit {payload : Bytes} {info : RxFrameInfo} {aligned : Nat}
    (h : readUnit rest = .packet info payload aligned) (stats : RxStats) :
    walk callback rest stats =
      if info.crcError then
        walk callback (rest.drop aligned) { stats with fCrcErrors := stats.fCrcErrors + 1 }
      else if info.icvError then
        walk callback (rest.drop aligned) { stats with
          fFramesDropped := stats.fFramesDropped + 1
          fDropsFromIcv := stats.fDropsFromIcv + 1 }
      else if payload.length > 0 && callback then
        let r := walk callback (rest.drop aligned)
          { stats with fFramesReceived := stats.fFramesReceived + 1 }
        (r.1, (payload, info) :: r.2)
      else walk callback (rest.drop aligned) stats := by
  rw [walk]
  split
  · rename_i hdone
    rw [h] at hdone
    cases hdone
  · rename_i hbail
    rw [h] at hbail
    cases hbail
  · rename_i hpacket
    rw [h] at hpacket
    cases hpacket
    rfl

theorem walk_done (h : readUnit rest = .done) (stats : RxStats) :
    walk callback rest stats = (stats, []) := by
  rw [walk]
  split
  · rfl
  · rename_i hbail
    rw [h] at hbail
    cases hbail
  · rename_i hpacket
    rw [h] at hpacket
    cases hpacket

theorem walk_bail (h : readUnit rest = .bail) (stats : RxStats) :
    walk callback rest stats =
      ({ stats with
        fFramesDropped := stats.fFramesDropped + 1
        fDropsFromWalk := stats.fDropsFromWalk + 1 }, []) := by
  rw [walk]
  split
  · rename_i hdone
    rw [h] at hdone
    cases hdone
  · rfl
  · rename_i hpacket
    rw [h] at hpacket
    cases hpacket

end

def processTransfer (callback : Bool) (data : Bytes) (stats : RxStats) :
    RxStats × List (Bytes × RxFrameInfo) := walk callback data stats

/-! ## Packets in the chip's layout -/

/-- One received packet and everything the chip writes around it. -/
structure Packet where
  descriptor : Descriptor
  drvInfo : Bytes
  gap : Bytes
  raw : Bytes
  padding : Bytes
  -- the driver-info section has the encoded size, or 32 bytes when none is encoded
  drvInfo_length : drvInfo.length =
    if descriptor.drvInfoSize.val = 0 ∧ descriptor.hasPhyStatus = true then 32
    else descriptor.drvInfoSize.val * 8
  gap_length : gap.length = descriptor.shift.val
  raw_length : raw.length = descriptor.length.val
  raw_pos : 4 < raw.length -- longer than the FCS
  padding_lt : padding.length < kRxAggregationAlign
  padded : kRxAggregationAlign ∣
    kRxDescSize + drvInfo.length + gap.length + raw.length + padding.length

namespace Packet

variable (p : Packet)

def encode : Bytes := p.descriptor.bytes ++ (p.drvInfo ++ (p.gap ++ (p.raw ++ p.padding)))

/-- The raw packet without its FCS. -/
def payload : Bytes := p.raw.take (p.raw.length - 4)

/-- The encoded fields, with the RSSI of the PHY status block when the descriptor announces one. -/
def info : RxFrameInfo :=
  if p.descriptor.hasPhyStatus && p.descriptor.drvInfoSize.val * 8 > 0 then
    parsePhyStatus p.drvInfo p.descriptor.info
  else p.descriptor.info

/-- The fields as the driver reads them: rate and bandwidth share two bits. -/
def infoRead : RxFrameInfo :=
  p.info.withRate p.descriptor.rateRead p.descriptor.bandwidthRead

def crcErrored : Bool := p.descriptor.crcError
def icvErrored : Bool := p.descriptor.icvError
def good : Bool := !p.crcErrored && !p.icvErrored

end Packet

/-- A transfer: the packets one after the other, then `tail` zero bytes. -/
def encodeTransfer (packets : List Packet) (tail : Nat) : Bytes :=
  packets.flatMap Packet.encode ++ Bytes.zeros tail

/-! ## One turn -/

/-- The PHY status only contributes the RSSI. -/
theorem parsePhyStatus_withRate (phyStatus : Bytes) (info : RxFrameInfo) (rate bandwidth : Nat) :
    parsePhyStatus phyStatus (info.withRate rate bandwidth) =
      (parsePhyStatus phyStatus info).withRate rate bandwidth := by
  simp only [parsePhyStatus]
  split
  · rfl
  · split
    · rfl
    · split <;> rfl

theorem parsePhyStatus_errors (phyStatus : Bytes) (info : RxFrameInfo) :
    (parsePhyStatus phyStatus info).crcError = info.crcError ∧
      (parsePhyStatus phyStatus info).icvError = info.icvError := by
  simp only [parsePhyStatus]
  split
  · exact ⟨rfl, rfl⟩
  · split
    · exact ⟨rfl, rfl⟩
    · split <;> exact ⟨rfl, rfl⟩

namespace Packet

variable (p : Packet)

theorem infoRead_errors :
    p.infoRead.crcError = p.crcErrored ∧ p.infoRead.icvError = p.icvErrored := by
  simp only [infoRead, info, crcErrored, icvErrored, RxFrameInfo.withRate]
  split
  · exact parsePhyStatus_errors p.drvInfo p.descriptor.info
  · exact ⟨rfl, rfl⟩

theorem payload_pos : p.payload.length > 0 := by
  have := p.raw_pos
  simp [payload]
  omega

theorem length_encode : p.encode.length =
    alignUp (kRxDescSize + p.drvInfo.length + p.descriptor.shift.val + p.descriptor.length.val) := by
  have hpad := p.padded
  have hlt := p.padding_lt
  have hgap := p.gap_length
  have hraw := p.raw_length
  simp only [encode, List.length_append, Descriptor.length_bytes, alignUp,
    kRxAggregationAlign] at *
  omega

end Packet

theorem readUnit_encode (p : Packet) (rest : Bytes) :
    readUnit (p.encode ++ rest) = .packet p.infoRead p.payload p.encode.length := by
  obtain ⟨hlen, hdrv, hshift⟩ :=
    p.descriptor.sizes_bytes (p.drvInfo ++ (p.gap ++ (p.raw ++ p.padding)) ++ rest)
  have hparse := p.descriptor.parseDescriptor_bytes
    (p.drvInfo ++ (p.gap ++ (p.raw ++ p.padding)) ++ rest)
  have henc : p.encode ++ rest =
      p.descriptor.bytes ++ (p.drvInfo ++ (p.gap ++ (p.raw ++ p.padding)) ++ rest) := by
    simp [Packet.encode]
  rw [← henc] at hlen hdrv hshift hparse
  have hhas : (p.descriptor.info.withRate p.descriptor.rateRead
      p.descriptor.bandwidthRead).hasPhyStatus = p.descriptor.hasPhyStatus := rfl
  have hphy : phyStatusBytes (dword (p.encode ++ rest) 0) p.descriptor.hasPhyStatus
      = p.drvInfo.length := by
    rw [p.drvInfo_length]
    simp only [phyStatusBytes, drvInfoSize, hdrv]
    cases p.descriptor.hasPhyStatus <;> simp
  have hgap := p.gap_length
  have hraw := p.raw_length
  have hpos := p.raw_pos
  have hpacket : (p.descriptor.info.withRate p.descriptor.rateRead
      p.descriptor.bandwidthRead).packetLength = p.raw.length - 4 := by
    simp only [RxFrameInfo.withRate, Descriptor.info]
    rw [if_pos (by omega), hraw]
  have htotal : (p.encode ++ rest).length = kRxDescSize + p.drvInfo.length + p.gap.length +
      p.raw.length + p.padding.length + rest.length := by
    simp only [Packet.encode, List.length_append, Descriptor.length_bytes]
    omega
  have hshort : ¬ (p.encode ++ rest).length < kRxDescSize := by omega
  have hfull : ¬ p.raw.length - 4 = 0 := by omega
  rw [← hgap] at hshift
  have hfits : ¬ kRxDescSize + p.drvInfo.length + p.gap.length + (p.raw.length - 4) >
      (p.encode ++ rest).length := by omega
  have hslice : (p.encode ++ rest).slice kRxDescSize p.drvInfo.length = p.drvInfo := by
    rw [henc, List.append_assoc]
    exact Bytes.slice_append_mid p.descriptor.length_bytes rfl
  have hpayload : (p.encode ++ rest).slice (kRxDescSize + p.drvInfo.length + p.gap.length)
      (p.raw.length - 4) = p.payload := by
    have hcut : p.encode ++ rest = p.descriptor.bytes ++ p.drvInfo ++ p.gap ++
        (p.payload ++ (p.raw.drop (p.raw.length - 4) ++ (p.padding ++ rest))) := by
      have hfcs : p.payload ++ p.raw.drop (p.raw.length - 4) = p.raw := List.take_append_drop _ _
      rw [← List.append_assoc p.payload, hfcs]
      simp only [Packet.encode, List.append_assoc]
    rw [hcut]
    exact Bytes.slice_append_mid (by simp [Nat.add_assoc]) (by simp [Packet.payload])
  simp only [readUnit, if_neg hshort, hparse, hhas, hphy, hlen, hshift, hpacket, if_neg hfull,
    if_neg hfits, hslice, hpayload, RxUnit.packet.injEq, true_and]
  refine ⟨?_, ?_⟩
  · simp only [Packet.infoRead, Packet.info, parsePhyStatus_withRate, drvInfoSize, hdrv]
    split <;> rfl
  · rw [p.length_encode, hgap]

/-! ## The whole transfer -/

def RxStats.count (stats : RxStats) (p : Packet) : RxStats :=
  if p.crcErrored then { stats with fCrcErrors := stats.fCrcErrors + 1 }
  else if p.icvErrored then
    { stats with
      fFramesDropped := stats.fFramesDropped + 1
      fDropsFromIcv := stats.fDropsFromIcv + 1 }
  else { stats with fFramesReceived := stats.fFramesReceived + 1 }

theorem walk_packet (p : Packet) (rest : Bytes) (stats : RxStats) :
    walk true (p.encode ++ rest) stats =
      ((walk true rest (stats.count p)).1,
        (if p.good then [(p.payload, p.infoRead)] else []) ++ (walk true rest (stats.count p)).2) := by
  obtain ⟨hcrc, hicv⟩ := p.infoRead_errors
  have hpos := p.payload_pos
  rw [walk_unit (readUnit_encode p rest), List.drop_left]
  simp only [hcrc, hicv, RxStats.count, Packet.good]
  by_cases hc : p.crcErrored = true
  · simp [hc]
  · by_cases hi : p.icvErrored = true
    · simp [hc, hi]
    · simp [hc, hi, hpos]

/-- An all-zero tail ends the walk without a count. -/
theorem walk_zeros (tail : Nat) (stats : RxStats) :
    walk true (Bytes.zeros tail) stats = (stats, []) := by
  have hunit : readUnit (Bytes.zeros tail) = .done := by
    by_cases h : tail < kRxDescSize
    · simp [readUnit, h]
    · have hz : dword (Bytes.zeros tail) 0 = 0 := by
        have : (Bytes.zeros tail).slice (4 * 0) 4 = [0, 0, 0, 0] := by
          have hmin : min 4 tail = 4 := by simp only [kRxDescSize] at h; omega
          simp [Bytes.slice, Bytes.zeros, List.take_replicate, hmin, List.replicate]
        rw [dword, this]
        rfl
      have hp : (parseDescriptor (Bytes.zeros tail)).packetLength = 0 := by
        simp only [parseDescriptor, hz]
        decide
      simp [readUnit, h, hp]
  exact walk_done hunit stats

/-- By induction on the packets: every good packet is delivered, once and in order. -/
theorem walk_encodeTransfer (packets : List Packet) (tail : Nat) (stats : RxStats) :
    walk true (encodeTransfer packets tail) stats =
      (packets.foldl RxStats.count stats,
        (packets.filter Packet.good).map fun p => (p.payload, p.infoRead)) := by
  induction packets generalizing stats with
  | nil => exact walk_zeros tail stats
  | cons p packets ih =>
    have hsplit : encodeTransfer (p :: packets) tail = p.encode ++ encodeTransfer packets tail := by
      simp [encodeTransfer]
    rw [hsplit, walk_packet, ih, List.foldl_cons]
    cases hg : p.good <;> simp [hg]

theorem foldl_count (packets : List Packet) (stats : RxStats) :
    packets.foldl RxStats.count stats =
      { stats with
        fFramesReceived := stats.fFramesReceived + packets.countP Packet.good
        fCrcErrors := stats.fCrcErrors + packets.countP Packet.crcErrored
        fFramesDropped :=
          stats.fFramesDropped + packets.countP fun p => p.icvErrored && !p.crcErrored
        fDropsFromIcv :=
          stats.fDropsFromIcv + packets.countP fun p => p.icvErrored && !p.crcErrored } := by
  induction packets generalizing stats with
  | nil => rfl
  | cons p packets ih =>
    rw [List.foldl_cons, ih]
    cases hc : p.crcErrored <;> cases hi : p.icvErrored <;>
      simp [RxStats.count, Packet.good, hc, hi] <;> omega

/-! ## Delivery -/

/-- Every good packet is handed to the callback once, in order, with the encoded fields, and each
counter grows by the number of packets of its kind. -/
structure Delivered (stats : RxStats) (packets : List Packet)
    (r : RxStats × List (Bytes × RxFrameInfo)) : Prop where
  callbacks : r.2 = (packets.filter Packet.good).map fun p => (p.payload, p.info)
  received : r.1.fFramesReceived = stats.fFramesReceived + packets.countP Packet.good
  crcErrors : r.1.fCrcErrors = stats.fCrcErrors + packets.countP Packet.crcErrored
  dropped : r.1.fFramesDropped = stats.fFramesDropped + packets.countP Packet.icvErrored

theorem Packet.infoRead_eq_iff (p : Packet) : p.infoRead = p.info ↔
    p.descriptor.bandwidth.val = p.descriptor.dataRate.val / 16 % 4 := by
  have hfields : p.info.dataRate = p.descriptor.dataRate ∧
      p.info.bandwidth = p.descriptor.bandwidth := by
    simp only [Packet.info, parsePhyStatus]
    split
    · split
      · exact ⟨rfl, rfl⟩
      · split
        · exact ⟨rfl, rfl⟩
        · split <;> exact ⟨rfl, rfl⟩
    · exact ⟨rfl, rfl⟩
  rw [← p.descriptor.overlap_iff, ← hfields.1, ← hfields.2]
  constructor
  · intro h
    rw [← h]
    exact ⟨rfl, rfl⟩
  · rintro ⟨hr, hb⟩
    rw [Packet.infoRead, hr, hb, RxFrameInfo.withRate]

theorem countP_and_not {α : Type} (l : List α) (p q : α → Bool) :
    l.countP p = (l.countP fun x => p x && !q x) + l.countP fun x => p x && q x := by
  induction l with
  | nil => rfl
  | cons x l ih =>
    simp only [List.countP_cons, ih]
    cases p x <;> cases q x <;> simp <;> omega

/-- The walk delivers exactly when each good packet has a bandwidth that agrees with bits 4 and 5 of
its rate, and no packet has both error bits. -/
theorem processTransfer_delivered_iff (packets : List Packet) (tail : Nat) (stats : RxStats) :
    Delivered stats packets (processTransfer true (encodeTransfer packets tail) stats) ↔
      (∀ p ∈ packets, p.good = true →
        p.descriptor.bandwidth.val = p.descriptor.dataRate.val / 16 % 4) ∧
      ∀ p ∈ packets, ¬(p.crcErrored = true ∧ p.icvErrored = true) := by
  have hcount := countP_and_not packets Packet.icvErrored Packet.crcErrored
  rw [processTransfer, walk_encodeTransfer, foldl_count]
  constructor
  · rintro ⟨hcb, -, -, hdrop⟩
    refine ⟨?_, ?_⟩
    · intro p hp hgood
      have := List.map_inj_left.mp hcb p (List.mem_filter.mpr ⟨hp, hgood⟩)
      exact p.infoRead_eq_iff.mp (congrArg Prod.snd this)
    · intro p hp hboth
      have hzero : (packets.countP fun x => x.icvErrored && x.crcErrored) = 0 := by
        simp only at hdrop
        omega
      have := List.countP_eq_zero.mp hzero p hp
      simp [hboth.1, hboth.2] at this
  · rintro ⟨hbw, hboth⟩
    refine ⟨?_, rfl, rfl, ?_⟩
    · apply List.map_inj_left.mpr
      intro p hp
      obtain ⟨hmem, hgood⟩ := List.mem_filter.mp hp
      rw [p.infoRead_eq_iff.mpr (hbw p hmem hgood)]
    · have hzero : (packets.countP fun x => x.icvErrored && x.crcErrored) = 0 := by
        rw [List.countP_eq_zero]
        intro p hp hand
        simp only [Bool.and_eq_true] at hand
        exact hboth p hp ⟨hand.2, hand.1⟩
      simp only
      omega

/-- A ten-byte packet with the given rate and error bits, on 20 MHz. -/
def samplePacket (dataRate : Fin 128) (crcError icvError : Bool) : Packet where
  descriptor :=
    { length := 10, crcError := crcError, icvError := icvError, drvInfoSize := 0, shift := 0
      hasPhyStatus := false, swDecNeeded := false, macID := 0, tid := 0, securityType := 0
      sequenceNumber := 0, fragmentNumber := 0, isC2H := false, dataRate := dataRate
      bandwidth := 0, spare := fun _ => 0 }
  drvInfo := []
  gap := []
  raw := Bytes.zeros 10
  padding := Bytes.zeros 6
  drvInfo_length := rfl
  gap_length := rfl
  raw_length := rfl
  raw_pos := by decide
  padding_lt := by decide
  padded := by decide

/-- MCS4 on 20 MHz is reported as 40 MHz, and a packet with both error bits is counted once. -/
theorem processTransfer_overlap :
    ¬ Delivered {} [samplePacket 16 false false]
        (processTransfer true (encodeTransfer [samplePacket 16 false false] 0) {}) ∧
      ¬ Delivered {} [samplePacket 0 true true]
        (processTransfer true (encodeTransfer [samplePacket 0 true true] 0) {}) := by
  rw [processTransfer, processTransfer, walk_encodeTransfer, walk_encodeTransfer, foldl_count,
    foldl_count]
  refine ⟨?_, ?_⟩
  · intro h
    exact absurd h.callbacks (by decide)
  · intro h
    exact absurd h.dropped (by decide)

end RxPath
end Rtl8814au
