import Rtl8814au.Lib.Checked
import Rtl8814au.RxPath.Walk

/-!
# RxPath.Bounds

`_ProcessTransfer` on the bytes of the transfer, with every read and every sum checked.

* `parseDescriptorAt`, `parsePhyStatusAt` — the two parsers, by the offset they are called with.
* `processTurn`                           — one turn of the loop.
* `processTurn_spec`                      — a turn is a turn of `walk`, and where its slice lies.
* `processTransfer_bounds`                — whatever the bytes, the loop comes to its end and hands
  out slices of the transfer in increasing order.
-/

namespace Rtl8814au
namespace RxPath

open Fields
open Checked (Turn)

def kUsbRxBufferSize : Nat := 32768

def dwordAt (data : Bytes) (descriptor i : Nat) : Checked Nat := do
  let bytes ← Checked.bytesAt data (descriptor + 4 * i) 4
  pure (Bytes.leNat bytes)

def parseDescriptorAt (data : Bytes) (descriptor : Nat) : Checked RxFrameInfo := do
  let dword0 ← dwordAt data descriptor 0
  let dword1 ← dwordAt data descriptor 1
  let dword2 ← dwordAt data descriptor 2
  let dword3 ← dwordAt data descriptor 3
  let packetLength := extract kRxDescPktLen_Mask kRxDescPktLen_Shift dword0
  let packetLength ← (if packetLength ≥ 4 then Checked.sub packetLength 4 else pure packetLength)
  pure {
    packetLength := packetLength
    crcError := flag kRxDescCRC32_Err dword0
    icvError := flag kRxDescICV_Err dword0
    hasPhyStatus := flag kRxDescPHYStatus dword0
    swDecNeeded := flag kRxDescSWDec dword0
    macID := extract kRxDescMACID_Mask kRxDescMACID_Shift dword1
    tid := extract kRxDescTID_Mask kRxDescTID_Shift dword1
    securityType := extract kRxDescSecType_Mask kRxDescSecType_Shift dword1
    isC2H := flag kRxDescRptSel dword2
    sequenceNumber := extract kRxDescSeq_Mask kRxDescSeq_Shift dword2
    fragmentNumber := extract kRxDescFrag_Mask kRxDescFrag_Shift dword2
    dataRate := extract kRxDescRxRate_Mask kRxDescRxRate_Shift dword3
    bandwidth := extract kRxDescBW_Mask kRxDescBW_Shift dword3
    rssi := 0
    rssiPerPath := List.replicate kRfPathCount 0 }

def parsePhyStatusAt (data : Bytes) (phyStatus phyStatusSize : Nat) (info : RxFrameInfo) :
    Checked RxFrameInfo := do
  if phyStatusSize < 4 then
    pure info
  else
    let phyType ← Checked.byteAt data phyStatus
    if phyType = 0 then
      let raw ← Checked.byteAt data (phyStatus + 1)
      let rssi := raw.toInt8 - 110
      pure { info with rssi := rssi, rssiPerPath := List.replicate kRfPathCount rssi }
    else if phyStatusSize ≥ 8 then
      let raws ← (List.range' 4 kRfPathCount).mapM fun i => Checked.byteAt data (phyStatus + i)
      let paths := raws.map fun raw => if raw > 0 then raw.toInt8 - 110 else -110
      let active := (raws.zip paths).filter fun p => p.1 > 0
      let total := (active.map fun p => p.2.toInt).sum
      pure { info with
        rssiPerPath := paths
        rssi := if active.length > 0 then Int8.ofInt (total.tdiv active.length) else -110 }
    else
      pure info

/-- A payload as the callback gets it: where in the transfer it starts, and its length. -/
structure Delivery where
  payloadOffset : Nat
  payloadLength : Nat
  info : RxFrameInfo

structure WalkState where
  offset : Nat
  stats : RxStats
  delivered : List Delivery

/-- What becomes of a packet that fits. -/
def deliverAt (callback : Bool) (info : RxFrameInfo) (payloadOffset payloadLength : Nat)
    (s : WalkState) : Checked WalkState := do
  if info.crcError then
    pure { s with stats := { s.stats with fCrcErrors := s.stats.fCrcErrors + 1 } }
  else if info.icvError then
    pure { s with stats := { s.stats with
      fFramesDropped := s.stats.fFramesDropped + 1
      fDropsFromIcv := s.stats.fDropsFromIcv + 1 } }
  else if payloadLength > 0 && callback then
    -- the log reports where in its unit the payload starts
    let _ ← Checked.sub payloadOffset s.offset
    pure { s with
      stats := { s.stats with fFramesReceived := s.stats.fFramesReceived + 1 }
      delivered := s.delivered ++ [⟨payloadOffset, payloadLength, info⟩] }
  else
    pure s

def alignUpAt (n : Nat) : Checked Nat := do
  let n ← Checked.add n kRxAggregationAlign
  let n ← Checked.sub n 1
  pure (n / kRxAggregationAlign * kRxAggregationAlign)

def processTurn (callback : Bool) (data : Bytes) (s : WalkState) : Checked (Turn WalkState) := do
  let stop ← Checked.add s.offset kRxDescSize
  if stop ≤ data.length then
    let info ← parseDescriptorAt data s.offset
    let dword0 ← dwordAt data s.offset 0
    let drvInfoSize ←
      Checked.mul (extract kRxDescDrvInfoSize_Mask kRxDescDrvInfoSize_Shift dword0) 8
    let phyStatusBytes := if drvInfoSize = 0 && info.hasPhyStatus then 32 else drvInfoSize
    let headerSize ← Checked.add kRxDescSize phyStatusBytes
    let payloadOffset ← Checked.add s.offset headerSize
    let payloadLength := info.packetLength
    let rawPacketLength := extract kRxDescPktLen_Mask kRxDescPktLen_Shift dword0
    let shift := extract kRxDescShift_Mask kRxDescShift_Shift dword0
    let payloadOffset ← Checked.add payloadOffset shift
    if payloadLength = 0 then
      pure (.exit s)
    else
      let payloadEnd ← Checked.add payloadOffset payloadLength
      if payloadEnd > data.length then
        -- the log reports the bytes that remain
        let _ ← Checked.sub data.length s.offset
        pure (.exit { s with stats := { s.stats with
          fFramesDropped := s.stats.fFramesDropped + 1
          fDropsFromWalk := s.stats.fDropsFromWalk + 1 } })
      else
        let phyStatus ← Checked.add s.offset kRxDescSize
        let info ← (if info.hasPhyStatus && drvInfoSize > 0 then
            parsePhyStatusAt data phyStatus phyStatusBytes info
          else pure info)
        let s ← deliverAt callback info payloadOffset payloadLength s
        let totalFrameSize ← Checked.add headerSize shift
        let totalFrameSize ← Checked.add totalFrameSize rawPacketLength
        let aligned ← alignUpAt totalFrameSize
        let offset ← Checked.add s.offset aligned
        pure (.next { s with offset := offset })
  else
    pure (.exit s)

/-- The loop, with room for as many turns as there are bytes. -/
def processTransferAt (callback : Bool) (data : Bytes) (stats : RxStats) : Checked WalkState :=
  Checked.iterate (processTurn callback data) (data.length + 1)
    { offset := 0, stats := stats, delivered := [] }

/-! ## The reads -/

section

variable {data : Bytes}

theorem dwordAt_eq {descriptor i : Nat} (h : descriptor + 4 * i + 4 ≤ data.length) :
    dwordAt data descriptor i = .ok (dword (data.drop descriptor) i) := by
  rw [dwordAt, Checked.bytesAt_ok h, Checked.ok_bind, dword, Bytes.slice_drop]
  rfl

theorem parseDescriptorAt_eq {descriptor : Nat} (h : descriptor + 16 ≤ data.length) :
    parseDescriptorAt data descriptor = .ok (parseDescriptor (data.drop descriptor)) := by
  rw [parseDescriptorAt, dwordAt_eq (by omega), dwordAt_eq (by omega), dwordAt_eq (by omega),
    dwordAt_eq (by omega)]
  simp only [Checked.ok_bind, parseDescriptor]
  split
  · rename_i hfcs
    rw [Checked.sub_ok hfcs]
    rfl
  · rfl

theorem parsePhyStatusAt_eq {phyStatus phyStatusSize : Nat} (info : RxFrameInfo)
    (h : phyStatus + phyStatusSize ≤ data.length) :
    parsePhyStatusAt data phyStatus phyStatusSize info =
      .ok (parsePhyStatus (data.slice phyStatus phyStatusSize) info) := by
  have hlen : (data.slice phyStatus phyStatusSize).length = phyStatusSize := Bytes.length_slice h
  rw [parsePhyStatusAt, parsePhyStatus, hlen]
  by_cases hshort : phyStatusSize < 4
  · rw [if_pos hshort, if_pos hshort]
    rfl
  · have htype : (data.slice phyStatus phyStatusSize).at 0 = data.at phyStatus :=
      Bytes.at_slice (by omega)
    have hcck : (data.slice phyStatus phyStatusSize).at 1 = data.at (phyStatus + 1) :=
      Bytes.at_slice (by omega)
    rw [if_neg hshort, if_neg hshort, Checked.byteAt_ok (by omega), Checked.ok_bind, htype, hcck]
    by_cases hcck : data.at phyStatus = 0
    · rw [if_pos hcck, if_pos hcck, Checked.byteAt_ok (by omega), Checked.ok_bind]
      rfl
    · rw [if_neg hcck, if_neg hcck]
      by_cases hpaths : phyStatusSize ≥ 8
      · have hraws : (data.slice phyStatus phyStatusSize).slice 4 kRfPathCount =
            data.slice (phyStatus + 4) kRfPathCount :=
          Bytes.slice_slice (by simp only [kRfPathCount]; omega)
        rw [if_pos hpaths, if_pos hpaths, Checked.mapM_byteAt (by simp only [kRfPathCount]; omega),
          Checked.ok_bind, hraws]
        rfl
      · rw [if_neg hpaths, if_neg hpaths]
        rfl

end

/-! ## One turn -/

theorem alignUpAt_eq {n : Nat} (h : n + kRxAggregationAlign < 2 ^ 32) : alignUpAt n = .ok (alignUp n) := by
  rw [alignUpAt, Checked.add_ok h, Checked.ok_bind,
    Checked.sub_ok (by simp only [kRxAggregationAlign]; omega), Checked.ok_bind]
  rfl

theorem alignUp_bounds (n : Nat) : n ≤ alignUp n ∧ alignUp n ≤ n + 7 := by
  simp only [alignUp, kRxAggregationAlign]
  omega

/-- How large the fields of a descriptor can be, whatever it holds. -/
theorem sizes_lt (dword0 : Nat) :
    extract kRxDescPktLen_Mask kRxDescPktLen_Shift dword0 < 2 ^ 14 ∧
      drvInfoSize dword0 < 2 ^ 7 ∧ extract kRxDescShift_Mask kRxDescShift_Shift dword0 < 2 ^ 2 := by
  have hlen : kRxDescPktLen_Mask = (2 ^ 14 - 1) <<< kRxDescPktLen_Shift := rfl
  have hdrv : kRxDescDrvInfoSize_Mask = (2 ^ 4 - 1) <<< kRxDescDrvInfoSize_Shift := rfl
  have hshift : kRxDescShift_Mask = (2 ^ 2 - 1) <<< kRxDescShift_Shift := rfl
  refine ⟨?_, ?_, ?_⟩
  · rw [extract_eq hlen]
    exact Nat.mod_lt _ (Nat.two_pow_pos _)
  · have hunits := Nat.mod_lt (dword0 / 2 ^ kRxDescDrvInfoSize_Shift) (Nat.two_pow_pos 4)
    rw [drvInfoSize, extract_eq hdrv]
    omega
  · rw [extract_eq hshift]
    exact Nat.mod_lt _ (Nat.two_pow_pos _)

theorem phyStatusBytes_lt (dword0 : Nat) (hasPhyStatus : Bool) :
    phyStatusBytes dword0 hasPhyStatus < 2 ^ 7 := by
  have hdrv := (sizes_lt dword0).2.1
  rw [phyStatusBytes]
  split
  · decide
  · exact hdrv

/-- The walk goes by the length with the FCS, the delivery by the length without. -/
theorem packetLength_bounds (rest : Bytes) :
    (parseDescriptor rest).packetLength ≤
        extract kRxDescPktLen_Mask kRxDescPktLen_Shift (dword rest 0) ∧
      extract kRxDescPktLen_Mask kRxDescPktLen_Shift (dword rest 0) ≤
        (parseDescriptor rest).packetLength + 4 := by
  simp only [parseDescriptor]
  split
  · omega
  · omega

/-- The offset after the last packet may lie past the end, by the FCS and the padding. -/
def WalkState.Near (data : Bytes) (s : WalkState) : Prop := s.offset ≤ data.length + 11

/-- A packet is delivered once or not at all, as `walk` has it. -/
theorem deliverAt_spec (callback : Bool) (info : RxFrameInfo) {payloadOffset : Nat}
    (payloadLength : Nat) {s : WalkState} (h : s.offset ≤ payloadOffset) :
    ∃ s' new, deliverAt callback info payloadOffset payloadLength s = .ok s' ∧
      s'.offset = s.offset ∧ s'.delivered = s.delivered ++ new ∧
      (new = [] ∨ new = [⟨payloadOffset, payloadLength, info⟩] ∧ 0 < payloadLength) ∧
      ∀ {rest payload : Bytes} {aligned : Nat}, payload.length = payloadLength →
        readUnit rest = .packet info payload aligned →
        walk callback rest s.stats =
          ((walk callback (rest.drop aligned) s'.stats).1,
            new.map (fun d => (payload, d.info)) ++
              (walk callback (rest.drop aligned) s'.stats).2) := by
  unfold deliverAt
  by_cases hcrc : info.crcError = true
  · refine ⟨{ s with stats := { s.stats with fCrcErrors := s.stats.fCrcErrors + 1 } }, [],
      if_pos hcrc, rfl, (List.append_nil _).symm, .inl rfl, ?_⟩
    intro rest payload aligned _ hunit
    rw [walk_unit hunit, if_pos hcrc]
    rfl
  · by_cases hicv : info.icvError = true
    · refine ⟨{ s with stats := { s.stats with
          fFramesDropped := s.stats.fFramesDropped + 1
          fDropsFromIcv := s.stats.fDropsFromIcv + 1 } }, [],
        (if_neg hcrc).trans (if_pos hicv), rfl, (List.append_nil _).symm, .inl rfl, ?_⟩
      intro rest payload aligned _ hunit
      rw [walk_unit hunit, if_neg hcrc, if_pos hicv]
      rfl
    · rw [if_neg hcrc, if_neg hicv]
      by_cases hcall : (decide (payloadLength > 0) && callback) = true
      · have hpos : 0 < payloadLength := of_decide_eq_true (Bool.and_eq_true_iff.mp hcall).1
        rw [if_pos hcall, Checked.sub_ok h]
        refine ⟨_, [⟨payloadOffset, payloadLength, info⟩], rfl, rfl, rfl, .inr ⟨rfl, hpos⟩, ?_⟩
        intro rest payload aligned hpayload hunit
        rw [walk_unit hunit, if_neg hcrc, if_neg hicv, hpayload, if_pos hcall]
        rfl
      · refine ⟨s, [], if_neg hcall, rfl, (List.append_nil _).symm, .inl rfl, ?_⟩
        intro rest payload aligned hpayload hunit
        rw [walk_unit hunit, if_neg hcrc, if_neg hicv, hpayload, if_neg hcall]
        rfl

/-- Whatever the descriptor says, the steps of a turn go right. -/
theorem processTurn_eq (callback : Bool) {data : Bytes} {s : WalkState}
    (hlen : data.length ≤ kUsbRxBufferSize) (hin : s.offset + kRxDescSize ≤ data.length) :
    let info := parseDescriptor (data.drop s.offset)
    let dword0 := dword (data.drop s.offset) 0
    let headerSize := kRxDescSize + phyStatusBytes dword0 info.hasPhyStatus
    let shift := extract kRxDescShift_Mask kRxDescShift_Shift dword0
    let payloadOffset := s.offset + headerSize + shift
    processTurn callback data s =
      if info.packetLength = 0 then .ok (.exit s)
      else if payloadOffset + info.packetLength > data.length then
        .ok (.exit { s with stats := { s.stats with
          fFramesDropped := s.stats.fFramesDropped + 1
          fDropsFromWalk := s.stats.fDropsFromWalk + 1 } })
      else
        deliverAt callback
          (if info.hasPhyStatus && drvInfoSize dword0 > 0 then
            parsePhyStatus (data.slice (s.offset + kRxDescSize)
              (phyStatusBytes dword0 info.hasPhyStatus)) info
          else info)
          payloadOffset info.packetLength s >>= fun s' =>
        Checked.add s'.offset (alignUp (headerSize + shift +
          extract kRxDescPktLen_Mask kRxDescPktLen_Shift dword0)) >>= fun offset =>
        .ok (.next { s' with offset := offset }) := by
  simp only [kUsbRxBufferSize] at hlen
  obtain ⟨hraw, hdrv, hshift⟩ := sizes_lt (dword (data.drop s.offset) 0)
  obtain ⟨hpacket, hfcs⟩ := packetLength_bounds (data.drop s.offset)
  have hphy := phyStatusBytes_lt (dword (data.drop s.offset) 0)
    (parseDescriptor (data.drop s.offset)).hasPhyStatus
  have hsize : kRxDescSize = 24 := rfl
  have halign : kRxAggregationAlign = 8 := rfl
  simp only
  rw [processTurn, Checked.add_ok (by omega), Checked.ok_bind, if_pos hin,
    parseDescriptorAt_eq (by omega), Checked.ok_bind, dwordAt_eq (by omega), Checked.ok_bind]
  generalize dword (data.drop s.offset) 0 = dword0 at *
  generalize parseDescriptor (data.drop s.offset) = info at *
  have hmul : Checked.mul (extract kRxDescDrvInfoSize_Mask kRxDescDrvInfoSize_Shift dword0) 8 =
      .ok (drvInfoSize dword0) := by
    rw [drvInfoSize] at hdrv ⊢
    exact Checked.mul_ok (by omega)
  have hdef : (if (decide (drvInfoSize dword0 = 0) && info.hasPhyStatus) = true then 32
      else drvInfoSize dword0) = phyStatusBytes dword0 info.hasPhyStatus := rfl
  rw [hmul, Checked.ok_bind, hdef]
  generalize extract kRxDescPktLen_Mask kRxDescPktLen_Shift dword0 = rawPacketLength at *
  generalize extract kRxDescShift_Mask kRxDescShift_Shift dword0 = shift at *
  generalize phyStatusBytes dword0 info.hasPhyStatus = phyBytes at *
  dsimp only
  rw [Checked.add_ok (by omega), Checked.ok_bind, Checked.add_ok (by omega), Checked.ok_bind,
    Checked.add_ok (by omega), Checked.ok_bind]
  by_cases hempty : info.packetLength = 0
  · rw [if_pos hempty, if_pos hempty]
    rfl
  · rw [if_neg hempty, if_neg hempty, Checked.add_ok (by omega), Checked.ok_bind]
    by_cases hfit : s.offset + (kRxDescSize + phyBytes) + shift + info.packetLength > data.length
    · rw [if_pos hfit, if_pos hfit, Checked.sub_ok (by omega)]
      rfl
    · -- the block lies ahead of a payload that fits
      have hblock : s.offset + kRxDescSize + phyBytes ≤ data.length := by omega
      have hinfo : ∀ c : Bool, (if c = true then
            .ok (parsePhyStatus (data.slice (s.offset + kRxDescSize) phyBytes) info)
          else pure info : Checked RxFrameInfo) = .ok (if c = true then
            parsePhyStatus (data.slice (s.offset + kRxDescSize) phyBytes) info else info) :=
        fun c => (apply_ite Except.ok _ _ _).symm
      rw [if_neg hfit, if_neg hfit, Checked.ok_bind, parsePhyStatusAt_eq info hblock, hinfo,
        Checked.ok_bind]
      refine bind_congr fun s' => ?_
      rw [Checked.add_ok (by omega), Checked.ok_bind, Checked.add_ok (by omega), Checked.ok_bind,
        alignUpAt_eq (by omega)]
      rfl

/-- A turn is a turn of `walk`; of a packet, the payload is a slice of the unit it was found in. -/
theorem processTurn_spec (callback : Bool) {data : Bytes} {s : WalkState}
    (hlen : data.length ≤ kUsbRxBufferSize) (hnear : s.Near data) :
    match readUnit (data.drop s.offset) with
    | .done => processTurn callback data s = .ok (.exit s)
    | .bail => processTurn callback data s = .ok (.exit { s with stats := { s.stats with
          fFramesDropped := s.stats.fFramesDropped + 1
          fDropsFromWalk := s.stats.fDropsFromWalk + 1 } })
    | .packet info payload aligned => ∃ payloadOffset,
        data.slice payloadOffset payload.length = payload ∧ s.offset ≤ payloadOffset ∧
        payloadOffset + payload.length ≤ data.length ∧
        payloadOffset + payload.length ≤ s.offset + aligned ∧
        s.offset + aligned ≤ data.length + 11 ∧
        processTurn callback data s =
          deliverAt callback info payloadOffset payload.length s >>= fun s' =>
          Checked.add s'.offset aligned >>= fun offset =>
          .ok (.next { s' with offset := offset }) := by
  have hdrop : (data.drop s.offset).length = data.length - s.offset := List.length_drop
  have hsize : kRxDescSize = 24 := rfl
  by_cases hshort : (data.drop s.offset).length < kRxDescSize
  · have hnear : s.offset ≤ data.length + 11 := hnear
    have hmax : data.length ≤ 32768 := hlen
    rw [readUnit, if_pos hshort, processTurn, Checked.add_ok (by omega), Checked.ok_bind,
      if_neg (by omega)]
    rfl
  · obtain ⟨hpacket, hfcs⟩ := packetLength_bounds (data.drop s.offset)
    have hturn := processTurn_eq callback hlen (s := s) (by omega)
    dsimp only at hturn
    rw [readUnit, if_neg hshort]
    dsimp only
    rw [hdrop]
    by_cases hempty : (parseDescriptor (data.drop s.offset)).packetLength = 0
    · rw [if_pos hempty]
      rw [if_pos hempty] at hturn
      exact hturn
    · rw [if_neg hempty]
      rw [if_neg hempty] at hturn
      generalize dword (data.drop s.offset) 0 = dword0 at *
      generalize parseDescriptor (data.drop s.offset) = info at *
      rw [Bytes.slice_drop, Bytes.slice_drop]
      generalize extract kRxDescPktLen_Mask kRxDescPktLen_Shift dword0 = rawPacketLength at *
      generalize extract kRxDescShift_Mask kRxDescShift_Shift dword0 = shift at *
      generalize phyStatusBytes dword0 info.hasPhyStatus = phyBytes at *
      by_cases hfit : kRxDescSize + phyBytes + shift + info.packetLength > data.length - s.offset
      · rw [if_pos hfit]
        rw [if_pos (by omega)] at hturn
        exact hturn
      · have halign := alignUp_bounds (kRxDescSize + phyBytes + shift + rawPacketLength)
        have hpayload : (data.slice (s.offset + (kRxDescSize + phyBytes + shift))
            info.packetLength).length = info.packetLength := Bytes.length_slice (by omega)
        rw [if_neg hfit]
        rw [if_neg (by omega)] at hturn
        refine ⟨s.offset + (kRxDescSize + phyBytes + shift), ?_, by omega, ?_, ?_, by omega, ?_⟩
        · rw [hpayload]
        · rw [hpayload]
          omega
        · rw [hpayload]
          omega
        · rw [hpayload, hturn, Nat.add_assoc s.offset]

/-! ## The loop -/

/-- The payloads themselves. -/
def payloads (data : Bytes) (delivered : List Delivery) : List (Bytes × RxFrameInfo) :=
  delivered.map fun d => (data.slice d.payloadOffset d.payloadLength, d.info)

/-- Slices of the transfer, none of them empty, one after the other. -/
structure InOrder (data : Bytes) (delivered : List Delivery) : Prop where
  inside : ∀ d ∈ delivered, 0 < d.payloadLength ∧ d.payloadOffset + d.payloadLength ≤ data.length
  increasing : delivered.Pairwise fun d e => d.payloadOffset + d.payloadLength ≤ e.payloadOffset

/-- Before every turn: what is delivered ends before the offset, and `walk` from here on makes up
what is left of `goal`. -/
structure Midway (callback : Bool) (data : Bytes) (goal : RxStats × List (Bytes × RxFrameInfo))
    (s : WalkState) : Prop where
  near : s.Near data
  inOrder : InOrder data s.delivered
  behind : ∀ d ∈ s.delivered, d.payloadOffset + d.payloadLength ≤ s.offset
  stats : (walk callback (data.drop s.offset) s.stats).1 = goal.1
  delivered : payloads data s.delivered ++ (walk callback (data.drop s.offset) s.stats).2 = goal.2

/-- After the last one. -/
def Complete (data : Bytes) (goal : RxStats × List (Bytes × RxFrameInfo)) (s : WalkState) : Prop :=
  InOrder data s.delivered ∧ s.stats = goal.1 ∧ payloads data s.delivered = goal.2

theorem InOrder.append {data : Bytes} {delivered : List Delivery} (h : InOrder data delivered)
    {d : Delivery} (hpos : 0 < d.payloadLength)
    (hin : d.payloadOffset + d.payloadLength ≤ data.length)
    (hbehind : ∀ e ∈ delivered, e.payloadOffset + e.payloadLength ≤ d.payloadOffset) :
    InOrder data (delivered ++ [d]) where
  inside e he := by
    rcases List.mem_append.mp he with he | he
    · exact h.inside e he
    · rw [List.mem_singleton.mp he]
      exact ⟨hpos, hin⟩
  increasing := by
    refine List.pairwise_append.mpr ⟨h.increasing, List.pairwise_singleton _ _, ?_⟩
    intro e he x hx
    rw [List.mem_singleton.mp hx]
    exact hbehind e he

section

variable {data payload : Bytes} {info : RxFrameInfo} {payloadOffset : Nat} {delivered new : List Delivery}
  (hnew : new = [] ∨ new = [⟨payloadOffset, payload.length, info⟩] ∧ 0 < payload.length)

include hnew

theorem InOrder.deliver {offset : Nat} (h : InOrder data delivered)
    (hbehind : ∀ d ∈ delivered, d.payloadOffset + d.payloadLength ≤ offset)
    (hstart : offset ≤ payloadOffset) (hin : payloadOffset + payload.length ≤ data.length) :
    InOrder data (delivered ++ new) := by
  rcases hnew with rfl | ⟨rfl, hpos⟩
  · rwa [List.append_nil]
  · exact h.append hpos hin fun d hd => Nat.le_trans (hbehind d hd) hstart

theorem behind_deliver {offset next : Nat} (hnext : offset ≤ next)
    (hbehind : ∀ d ∈ delivered, d.payloadOffset + d.payloadLength ≤ offset)
    (hunder : payloadOffset + payload.length ≤ next) :
    ∀ d ∈ delivered ++ new, d.payloadOffset + d.payloadLength ≤ next := by
  intro d hd
  rcases List.mem_append.mp hd with hd | hd
  · exact Nat.le_trans (hbehind d hd) hnext
  · rcases hnew with rfl | ⟨rfl, -⟩
    · cases hd
    · rw [List.mem_singleton.mp hd]
      exact hunder

theorem payloads_deliver (old : List Delivery)
    (hslice : data.slice payloadOffset payload.length = payload) :
    payloads data (old ++ new) = payloads data old ++ new.map fun d => (payload, d.info) := by
  rw [payloads, List.map_append]
  rcases hnew with rfl | ⟨rfl, -⟩
  · rfl
  · rw [List.map_singleton, List.map_singleton, hslice]
    rfl

end

theorem processTurn_midway (callback : Bool) {data : Bytes}
    {goal : RxStats × List (Bytes × RxFrameInfo)} {s : WalkState}
    (hlen : data.length ≤ kUsbRxBufferSize) (h : Midway callback data goal s) :
    (∃ s', processTurn callback data s = .ok (.next s') ∧ Midway callback data goal s' ∧
      data.length - s'.offset < data.length - s.offset) ∨
    ∃ s', processTurn callback data s = .ok (.exit s') ∧ Complete data goal s' := by
  have hturn := processTurn_spec callback hlen h.near
  have hstats := h.stats
  have hdelivered := h.delivered
  split at hturn
  · rename_i hunit
    right
    rw [walk_done hunit] at hstats hdelivered
    exact ⟨s, hturn, h.inOrder, hstats, by rwa [List.append_nil] at hdelivered⟩
  · rename_i hunit
    right
    rw [walk_bail hunit] at hstats hdelivered
    exact ⟨_, hturn, h.inOrder, hstats, by rwa [List.append_nil] at hdelivered⟩
  · rename_i info payload aligned hunit
    left
    obtain ⟨payloadOffset, hslice, hstart, hin, hunder, hnear, hrun⟩ := hturn
    obtain ⟨s', new, hdeliver, hoff, hnew, hone, hwalk⟩ :=
      deliverAt_spec callback info payload.length hstart
    have hmax : data.length ≤ 32768 := hlen
    obtain ⟨hadvance, hleft⟩ := readUnit_aligned hunit
    rw [List.length_drop, kRxDescSize] at hleft
    rw [kRxDescSize] at hadvance
    rw [hdeliver, Checked.ok_bind, hoff, Checked.add_ok (by omega), Checked.ok_bind] at hrun
    rw [hwalk rfl hunit, List.drop_drop] at hstats hdelivered
    have horder : InOrder data s'.delivered := hnew ▸ h.inOrder.deliver hone h.behind hstart hin
    have hbehind := behind_deliver hone (Nat.le_add_right s.offset aligned) h.behind hunder
    rw [← hnew] at hbehind
    have hpayloads := payloads_deliver hone s.delivered hslice
    rw [← hnew] at hpayloads
    rw [← List.append_assoc, ← hpayloads] at hdelivered
    refine ⟨_, hrun, ⟨hnear, horder, hbehind, hstats, hdelivered⟩, ?_⟩
    dsimp only
    omega

/-- For any content of a transfer of any length up to that of the buffer. -/
theorem processTransfer_bounds (callback : Bool) (data : Bytes) (stats : RxStats)
    (hlen : data.length ≤ kUsbRxBufferSize) :
    ∃ s, processTransferAt callback data stats = .ok s ∧
      (∀ d ∈ s.delivered, d.payloadOffset + d.payloadLength ≤ data.length) ∧
      (s.delivered.Pairwise fun d e => d.payloadOffset + d.payloadLength ≤ e.payloadOffset) ∧
      (∀ d ∈ s.delivered, 0 < d.payloadLength) ∧
      (s.stats, payloads data s.delivered) = processTransfer callback data stats := by
  have hstart : Midway callback data (processTransfer callback data stats)
      { offset := 0, stats := stats, delivered := [] } := by
    refine ⟨Nat.zero_le _, ⟨by simp, List.Pairwise.nil⟩, by simp, ?_, ?_⟩
    · rw [List.drop_zero]
      rfl
    · rw [List.drop_zero]
      rfl
  obtain ⟨s, hrun, horder, hstats, hpayloads⟩ :=
    Checked.iterate_spec (fun s : WalkState => data.length - s.offset)
      (fun s hs => processTurn_midway callback hlen hs) hstart (Nat.lt_succ_self data.length)
  refine ⟨s, hrun, fun d hd => (horder.inside d hd).2, horder.increasing,
    fun d hd => (horder.inside d hd).1, ?_⟩
  rw [hstats, hpayloads]

/-- Two packets and padding. -/
def sampleTransfer : Bytes :=
  encodeTransfer [samplePacket 16 false false, samplePacket 3 false false] 24

theorem processTransfer_bounds_sample :
    ∃ s, processTransferAt true sampleTransfer {} = .ok s ∧
      (∀ d ∈ s.delivered, d.payloadOffset + d.payloadLength ≤ sampleTransfer.length) ∧
      (s.delivered.Pairwise fun d e => d.payloadOffset + d.payloadLength ≤ e.payloadOffset) ∧
      (∀ d ∈ s.delivered, 0 < d.payloadLength) ∧
      (s.stats, payloads sampleTransfer s.delivered) = processTransfer true sampleTransfer {} :=
  processTransfer_bounds true sampleTransfer {} (by decide)

end RxPath
end Rtl8814au
