import Rtl8814au.Lib.Bytes
import Rtl8814au.Lib.Fields

/-!
# RxPath.Descriptor

The 24-byte RX descriptor and the PHY status block: `_ParseDescriptor` and `_ParsePhyStatus`, with
the masks and shifts of the header file, and the descriptor as the chip lays it out from a packet.
`parseDescriptor_bytes` says which fields come back.
-/

namespace Rtl8814au
namespace RxPath

open Fields

def kRxDescSize : Nat := 24
def kRfPathCount : Nat := 4

def kRxDescPktLen_Shift : Nat := 0
def kRxDescPktLen_Mask : Nat := 0x00003FFF
def kRxDescCRC32_Err : Nat := 1 <<< 14
def kRxDescICV_Err : Nat := 1 <<< 15
def kRxDescDrvInfoSize_Shift : Nat := 16
def kRxDescDrvInfoSize_Mask : Nat := 0x000F0000
def kRxDescShift_Shift : Nat := 24
def kRxDescShift_Mask : Nat := 0x03000000
def kRxDescPHYStatus : Nat := 1 <<< 26
def kRxDescSWDec : Nat := 1 <<< 27
def kRxDescMACID_Shift : Nat := 0
def kRxDescMACID_Mask : Nat := 0x0000007F
def kRxDescTID_Shift : Nat := 8
def kRxDescTID_Mask : Nat := 0x00000F00
def kRxDescSecType_Shift : Nat := 20
def kRxDescSecType_Mask : Nat := 0x00700000
def kRxDescSeq_Shift : Nat := 0
def kRxDescSeq_Mask : Nat := 0x00000FFF
def kRxDescFrag_Shift : Nat := 12
def kRxDescFrag_Mask : Nat := 0x0000F000
def kRxDescRptSel : Nat := 1 <<< 28
def kRxDescRxRate_Shift : Nat := 0
def kRxDescRxRate_Mask : Nat := 0x0000007F
def kRxDescBW_Shift : Nat := 4
def kRxDescBW_Mask : Nat := 0x00000030

structure RxFrameInfo where
  packetLength : Nat
  dataRate : Nat
  bandwidth : Nat
  rssi : Int8
  rssiPerPath : List Int8
  macID : Nat
  tid : Nat
  sequenceNumber : Nat
  fragmentNumber : Nat
  securityType : Nat
  crcError : Bool
  icvError : Bool
  isC2H : Bool
  hasPhyStatus : Bool
  swDecNeeded : Bool
deriving DecidableEq

def RxFrameInfo.withRate (info : RxFrameInfo) (rate bandwidth : Nat) : RxFrameInfo :=
  { info with dataRate := rate, bandwidth := bandwidth }

/-- Dword `i` of a descriptor, little-endian. -/
def dword (descriptor : Bytes) (i : Nat) : Nat := Bytes.leNat (descriptor.slice (4 * i) 4)

def parseDescriptor (descriptor : Bytes) : RxFrameInfo :=
  let dword0 := dword descriptor 0
  let dword1 := dword descriptor 1
  let dword2 := dword descriptor 2
  let dword3 := dword descriptor 3
  let packetLength := extract kRxDescPktLen_Mask kRxDescPktLen_Shift dword0
  { -- the 4-byte FCS is stripped
    packetLength := if packetLength ≥ 4 then packetLength - 4 else packetLength
    crcError := flag kRxDescCRC32_Err dword0
    icvError := flag kRxDescICV_Err dword0
    hasPhyStatus := flag kRxDescPHYStatus dword0
    swDecNeeded := flag kRxDescSWDec dword0
    macID := extract kRxDescMACID_Mask kRxDescMACID_Shift dword1
    tid := extract kRxDescTID_Mask kRxDescTID_Shift dword1
    securityType := extract kRxDescSecType_Mask kRxDescSecType_Shift dword1
    isC2H := flag kRxDescRptSel dword2
    sequenceNumber := extract kRxDescSeq_Mask kRxDescSeq_Shift dword2
    fragmentNumber := extract kRxDescFrag_Mask kRxDescFrag_Shift dword2
    dataRate := extract kRxDescRxRate_Mask kRxDescRxRate_Shift dword3
    bandwidth := extract kRxDescBW_Mask kRxDescBW_Shift dword3
    rssi := 0
    rssiPerPath := List.replicate kRfPathCount 0 }

/-- RSSI from the PHY status block, which is `phyStatusSize` bytes long. -/
def parsePhyStatus (phyStatus : Bytes) (info : RxFrameInfo) : RxFrameInfo :=
  if phyStatus.length < 4 then info
  else if phyStatus.at 0 = 0 then
    let rssi := (phyStatus.at 1).toInt8 - 110
    { info with rssi := rssi, rssiPerPath := List.replicate kRfPathCount rssi }
  else if phyStatus.length ≥ 8 then
    let raws := phyStatus.slice 4 kRfPathCount
    let paths := raws.map fun raw => if raw > 0 then raw.toInt8 - 110 else -110
    let active := (raws.zip paths).filter fun p => p.1 > 0
    let total := (active.map fun p => p.2.toInt).sum
    { info with
      rssiPerPath := paths
      rssi := if active.length > 0 then Int8.ofInt (total.tdiv active.length) else -110 }
  else info

/-! ## The layout -/

/-- What the chip puts in front of a packet. `spare` are the bits and dwords the driver does not
read; in dword 3 the rate and the bandwidth share bits 4 and 5, as the header file has them. -/
structure Descriptor where
  length : Fin (2 ^ 14)
  crcError : Bool
  icvError : Bool
  drvInfoSize : Fin 16
  shift : Fin 4
  hasPhyStatus : Bool
  swDecNeeded : Bool
  macID : Fin 128
  tid : Fin 16
  securityType : Fin 8
  sequenceNumber : Fin 4096
  fragmentNumber : Fin 16
  isC2H : Bool
  dataRate : Fin 128
  bandwidth : Fin 4
  spare : Fin 10 → Nat

namespace Descriptor

variable (d : Descriptor)

def fields0 : List (Nat × Nat) :=
  [(14, d.length), (1, d.crcError.toNat), (1, d.icvError.toNat), (4, d.drvInfoSize),
    (4, d.spare 0), (2, d.shift), (1, d.hasPhyStatus.toNat), (1, d.swDecNeeded.toNat),
    (4, d.spare 1)]

def fields1 : List (Nat × Nat) :=
  [(7, d.macID), (1, d.spare 2), (4, d.tid), (8, d.spare 3), (3, d.securityType), (9, d.spare 4)]

def fields2 : List (Nat × Nat) :=
  [(12, d.sequenceNumber), (4, d.fragmentNumber), (12, d.spare 5), (1, d.isC2H.toNat),
    (3, d.spare 6)]

def fields3 : List (Nat × Nat) := [(7, d.dataRate.val ||| d.bandwidth.val <<< 4), (25, d.spare 7)]

def bytes : Bytes :=
  Bytes.le 4 (pack d.fields0) ++ Bytes.le 4 (pack d.fields1) ++ Bytes.le 4 (pack d.fields2) ++
    Bytes.le 4 (pack d.fields3) ++ Bytes.le 4 (d.spare 8) ++ Bytes.le 4 (d.spare 9)

@[simp] theorem length_bytes : d.bytes.length = kRxDescSize := by simp [bytes, kRxDescSize]

/-- The fields as the driver reports them: the length without the FCS. -/
def info : RxFrameInfo where
  packetLength := if d.length.val ≥ 4 then d.length.val - 4 else d.length.val
  dataRate := d.dataRate
  bandwidth := d.bandwidth
  rssi := 0
  rssiPerPath := List.replicate kRfPathCount 0
  macID := d.macID
  tid := d.tid
  sequenceNumber := d.sequenceNumber
  fragmentNumber := d.fragmentNumber
  securityType := d.securityType
  crcError := d.crcError
  icvError := d.icvError
  isC2H := d.isC2H
  hasPhyStatus := d.hasPhyStatus
  swDecNeeded := d.swDecNeeded

theorem dword_bytes (rest : Bytes) :
    dword (d.bytes ++ rest) 0 = pack d.fields0 ∧ dword (d.bytes ++ rest) 1 = pack d.fields1 ∧
      dword (d.bytes ++ rest) 2 = pack d.fields2 ∧ dword (d.bytes ++ rest) 3 = pack d.fields3 := by
  have hle : ∀ {fs : List (Nat × Nat)}, width fs = 32 → Bytes.leNat (Bytes.le 4 (pack fs)) = pack fs := by
    intro fs hw
    have := pack_lt fs
    rw [hw] at this
    rw [Bytes.leNat_le]
    exact Nat.mod_eq_of_lt this
  simp only [dword, bytes, List.append_assoc]
  refine ⟨?_, ?_, ?_, ?_⟩
  · exact (congrArg _ (Bytes.slice_append_mid (a := []) rfl (Bytes.length_le _ _))).trans (hle rfl)
  · rw [Bytes.slice_append_mid (Bytes.length_le _ _) (Bytes.length_le _ _), hle rfl]
  · rw [← List.append_assoc (Bytes.le 4 (pack d.fields0)),
      Bytes.slice_append_mid (by simp) (Bytes.length_le _ _), hle rfl]
  · rw [← List.append_assoc (Bytes.le 4 (pack d.fields0)),
      ← List.append_assoc (Bytes.le 4 (pack d.fields0) ++ Bytes.le 4 (pack d.fields1)),
      Bytes.slice_append_mid (by simp) (Bytes.length_le _ _), hle rfl]

/-- The rate and the bandwidth as the driver reads them from bits 0 to 6 and 4 to 5. -/
def rateRead : Nat := d.dataRate.val ||| d.bandwidth.val <<< 4
def bandwidthRead : Nat := d.rateRead / 16 % 4

/-- The parser returns every field but the two that overlap. -/
theorem parseDescriptor_bytes (rest : Bytes) :
    parseDescriptor (d.bytes ++ rest) =
      d.info.withRate d.rateRead d.bandwidthRead := by
  obtain ⟨h0, h1, h2, h3⟩ := d.dword_bytes rest
  have hrate : d.rateRead < 2 ^ 7 := by
    have hr := d.dataRate.isLt
    have hb := d.bandwidth.isLt
    refine Nat.or_lt_two_pow (by omega) ?_
    rw [Nat.shiftLeft_eq]
    omega
  have hlen : extract kRxDescPktLen_Mask kRxDescPktLen_Shift (pack d.fields0) = d.length.val :=
    extract_pack (k := 0) rfl rfl rfl d.length.isLt
  have hmac : extract kRxDescMACID_Mask kRxDescMACID_Shift (pack d.fields1) = d.macID.val :=
    extract_pack (k := 0) rfl rfl rfl d.macID.isLt
  have htid : extract kRxDescTID_Mask kRxDescTID_Shift (pack d.fields1) = d.tid.val :=
    extract_pack (k := 2) rfl rfl rfl d.tid.isLt
  have hsec : extract kRxDescSecType_Mask kRxDescSecType_Shift (pack d.fields1)
      = d.securityType.val :=
    extract_pack (k := 4) rfl rfl rfl d.securityType.isLt
  have hseq : extract kRxDescSeq_Mask kRxDescSeq_Shift (pack d.fields2)
      = d.sequenceNumber.val :=
    extract_pack (k := 0) rfl rfl rfl d.sequenceNumber.isLt
  have hfrag : extract kRxDescFrag_Mask kRxDescFrag_Shift (pack d.fields2)
      = d.fragmentNumber.val :=
    extract_pack (k := 1) rfl rfl rfl d.fragmentNumber.isLt
  have hrr : extract kRxDescRxRate_Mask kRxDescRxRate_Shift (pack d.fields3) = d.rateRead :=
    extract_pack (k := 0) rfl rfl rfl hrate
  have hbw : extract kRxDescBW_Mask kRxDescBW_Shift (pack d.fields3) = d.bandwidthRead := by
    have hlow : pack d.fields3 % 2 ^ 7 = d.rateRead := by
      have := pack_field (l := d.fields3) (k := 0) rfl
      rw [show width (d.fields3.take 0) = 0 from rfl, Nat.pow_zero, Nat.div_one] at this
      rw [this]
      exact Nat.mod_eq_of_lt hrate
    have hmask : kRxDescBW_Mask = (2 ^ 2 - 1) <<< kRxDescBW_Shift := rfl
    refine (extract_eq hmask _).trans ?_
    rw [bandwidthRead, ← hlow]
    simp only [kRxDescBW_Shift]
    omega
  have hcrc : flag kRxDescCRC32_Err (pack d.fields0) = d.crcError :=
    flag_pack (l := d.fields0) (k := 1) rfl rfl rfl
  have hicv : flag kRxDescICV_Err (pack d.fields0) = d.icvError :=
    flag_pack (l := d.fields0) (k := 2) rfl rfl rfl
  have hphy : flag kRxDescPHYStatus (pack d.fields0) = d.hasPhyStatus :=
    flag_pack (l := d.fields0) (k := 6) rfl rfl rfl
  have hsw : flag kRxDescSWDec (pack d.fields0) = d.swDecNeeded :=
    flag_pack (l := d.fields0) (k := 7) rfl rfl rfl
  have hc2h : flag kRxDescRptSel (pack d.fields2) = d.isC2H :=
    flag_pack (l := d.fields2) (k := 3) rfl rfl rfl
  simp only [parseDescriptor, h0, h1, h2, h3, hlen, hmac, htid, hsec, hseq, hfrag, hrr, hbw, hcrc,
    hicv, hphy, hsw, hc2h, info, RxFrameInfo.withRate]

/-- The sizes that `_ProcessTransfer` reads for itself. -/
theorem sizes_bytes (rest : Bytes) :
    extract kRxDescPktLen_Mask kRxDescPktLen_Shift (dword (d.bytes ++ rest) 0) = d.length ∧
      extract kRxDescDrvInfoSize_Mask kRxDescDrvInfoSize_Shift (dword (d.bytes ++ rest) 0)
        = d.drvInfoSize ∧
      extract kRxDescShift_Mask kRxDescShift_Shift (dword (d.bytes ++ rest) 0) = d.shift := by
  rw [(d.dword_bytes rest).1]
  refine ⟨?_, ?_, ?_⟩
  · exact extract_pack (k := 0) rfl rfl rfl d.length.isLt
  · exact extract_pack (k := 3) rfl rfl rfl d.drvInfoSize.isLt
  · exact extract_pack (k := 5) rfl rfl rfl d.shift.isLt

/-- Both overlapping fields come back exactly when they agree on the bits they share. -/
theorem overlap_iff : (d.rateRead = d.dataRate ∧ d.bandwidthRead = d.bandwidth) ↔
    d.bandwidth.val = d.dataRate.val / 16 % 4 := by
  have hall : ∀ (r : Fin 128) (b : Fin 4),
      ((r.val ||| b.val <<< 4) = r.val ∧ (r.val ||| b.val <<< 4) / 16 % 4 = b.val) ↔
        b.val = r.val / 16 % 4 := by
    decide +kernel
  exact hall d.dataRate d.bandwidth

end Descriptor

end RxPath
end Rtl8814au
