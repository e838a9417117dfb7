import Rtl8814au.Lib.Checked
import Rtl8814au.Lib.Fields
import Rtl8814au.RxPath.Descriptor
import Rtl8814au.TxPath.Slots
import Rtl8814au.WiFi.BssTable

/-!
# TxPath.Descriptor

The buffer that `Transmit` submits: `_BuildDescriptor` with the masks and shifts of the header file,
the gap that keeps a transfer off a packet boundary, and the frame.

* `buildDescriptor`: the ten dwords and the checksum over the first eight.
* `transmit`: the sizes, the slot and the copies into its buffer, every byte of it checked.
* `Layout`: what the chip reads out of the buffer.
* `transmit_encoding`: of every frame that is submitted, for any state of the sequence counter.
-/

namespace Rtl8814au
namespace TxPath

open Fields
open RxPath (dword)

def kTxDescSize : Nat := 40
def kUsbTxBufferSize : Nat := 16384
def kBulkBoundary : Nat := 512

def kTxDescPktLen_Shift : Nat := 0
def kTxDescPktLen_Mask : Nat := 0x0000FFFF
def kTxDescOffset_Shift : Nat := 16
def kTxDescOffset_Mask : Nat := 0x00FF0000
def kTxDescBMC : Nat := 1 <<< 24
def kTxDescLS : Nat := 1 <<< 26
def kTxDescDisQSelSeq : Nat := 1 <<< 31
def kTxDescMACID_Shift : Nat := 0
def kTxDescMACID_Mask : Nat := 0x0000007F
def kTxDescQueueSel_Shift : Nat := 8
def kTxDescQueueSel_Mask : Nat := 0x00001F00
def kTxDescRateID_Shift : Nat := 16
def kTxDescRateID_Mask : Nat := 0x001F0000
def kTxDescSecType_Shift : Nat := 22
def kTxDescSecType_Mask : Nat := 0x00C00000
def kTxDescPktOffset_Shift : Nat := 24
def kTxDescPktOffset_Mask : Nat := 0x1F000000
def kTxDescBK : Nat := 1 <<< 16
def kTxDescUseRate : Nat := 1 <<< 8 -- `USE_RATE`
def kTxDescDataRate_Shift : Nat := 0
def kTxDescDataRate_Mask : Nat := 0x0000007F
def kTxDescRetryLimitEn : Nat := 1 <<< 17
def kTxDescRetryLimit_Shift : Nat := 18
def kTxDescRetryLimit_Mask : Nat := 0x00FC0000
def kTxDescDataShort : Nat := 1 <<< 4
def kTxDescSwDefineFixedRate : Nat := 1 <<< 0
def kTxDescHwSeqEn : Nat := 1 <<< 15
def kTxDescSeqNum_Shift : Nat := 12
def kTxDescSeqNum_Mask : Nat := 0x00FFF000

def kRateCCK11 : UInt8 := 0x03

/-- RATEID_IDX_MIX2 -/
def kRateID : Nat := 12

/-- The `kQsl` value of a queue. -/
def qslt : TxQueueSelect → Nat
  | .kTxQueueVO => 0x07
  | .kTxQueueVI => 0x05
  | .kTxQueueBE => 0x00
  | .kTxQueueBK => 0x02
  | .kTxQueueBCN => 0x10
  | .kTxQueueMGT => 0x12
  | .kTxQueueHIGH => 0x11
  | .kTxQueueCMD => 0x13

/-- The value of the enumerator. -/
def secValue : SecurityType → Nat
  | .kSecurityNone => 0
  | .kSecurityWEP40 => 1
  | .kSecurityTKIP => 2
  | .kSecurityAESCCMP => 3
  | .kSecurityWEP104 => 4

/-- The arguments of `Transmit`. -/
structure TxFrame where
  frameData : Bytes
  queueSelect : TxQueueSelect
  dataRate : UInt8
  macID : UInt8
  secType : SecurityType
  isBroadcast : Bool

def isData (frameControl : UInt8) : Bool := (frameControl >>> 2) &&& 0x03 = 2

def isQosData (frameControl : UInt8) : Bool :=
  isData frameControl ∧ (frameControl >>> 4) &&& 0x08 ≠ 0

def isManagementQueue (queueSelect : TxQueueSelect) : Bool :=
  queueSelect = .kTxQueueMGT ∨ queueSelect = .kTxQueueCMD

def effectiveMacID (c : TxFrame) : UInt8 :=
  if c.macID = 0 ∧ (isManagementQueue c.queueSelect ∨ c.isBroadcast) then 1 else c.macID

/-! ## The dwords -/

def dword0 (frameLength : Nat) (qos isBroadcast : Bool) : Nat :=
  field kTxDescPktLen_Mask kTxDescPktLen_Shift frameLength |||
    field kTxDescOffset_Mask kTxDescOffset_Shift kTxDescSize ||| kTxDescLS |||
    (if qos then 0 else kTxDescDisQSelSeq) ||| (if isBroadcast then kTxDescBMC else 0)

def dword1 (macID queue secType packetOffset : Nat) : Nat :=
  field kTxDescMACID_Mask kTxDescMACID_Shift macID |||
    field kTxDescQueueSel_Mask kTxDescQueueSel_Shift queue |||
    field kTxDescRateID_Mask kTxDescRateID_Shift kRateID |||
    field kTxDescSecType_Mask kTxDescSecType_Shift secType |||
    field kTxDescPktOffset_Mask kTxDescPktOffset_Shift packetOffset

def dword2 (queueSelect : TxQueueSelect) : Nat :=
  if isManagementQueue queueSelect then 0 else kTxDescBK

def dword4 (dataRate : Nat) (queueSelect : TxQueueSelect) : Nat :=
  field kTxDescDataRate_Mask kTxDescDataRate_Shift dataRate |||
    (if isManagementQueue queueSelect then
      kTxDescRetryLimitEn ||| field kTxDescRetryLimit_Mask kTxDescRetryLimit_Shift 12
    else 0)

def dword5 (dataRate : UInt8) : Nat := if dataRate ≤ kRateCCK11 then kTxDescDataShort else 0

def dword8 (qos : Bool) : Nat := if qos then 0 else kTxDescHwSeqEn

def dword9 (qos : Bool) (sequence : UInt16) : Nat :=
  if qos then field kTxDescSeqNum_Mask kTxDescSeqNum_Shift sequence.toNat else 0

def descriptorDwords (c : TxFrame) (frameLength packetOffset : Nat) (frameControl : UInt8)
    (sequence : UInt16) : List Nat :=
  let qos := isQosData frameControl
  [dword0 frameLength qos c.isBroadcast,
    dword1 (effectiveMacID c).toNat (qslt c.queueSelect) (secValue c.secType) packetOffset,
    dword2 c.queueSelect, kTxDescUseRate, dword4 c.dataRate.toNat c.queueSelect,
    dword5 c.dataRate, kTxDescSwDefineFixedRate, 0, dword8 qos, dword9 qos sequence]

/-! ## The checksum -/

/-- The first sixteen 16-bit words. -/
def words (descriptor : Bytes) : List Nat :=
  (List.range 16).map fun i => Bytes.leNat (descriptor.slice (2 * i) 2)

def xorAll (l : List Nat) : Nat := l.foldr (· ^^^ ·) 0

/-- The checksum in place: the XOR of the words, in the word that was zero. -/
def withChecksum (descriptor : Bytes) : Bytes :=
  descriptor.take 28 ++ (Bytes.le 2 (xorAll (words descriptor)) ++ descriptor.drop 30)

/-! ## Transmit -/

/-- The counter of QoS frames stays in twelve bits. -/
structure Transmitter where
  fInitStatus : Status
  fSequenceNumber : UInt16
  inRange : fSequenceNumber ≤ 0x0FFF

namespace Transmitter

def start (status : Status) : Transmitter where
  fInitStatus := status
  fSequenceNumber := 0
  inRange := by decide

def nextSequence (n : UInt16) : UInt16 := if n + 1 > 0x0FFF then 0 else n + 1

theorem nextSequence_le (n : UInt16) : nextSequence n ≤ 0x0FFF := by
  unfold nextSequence
  split
  · decide
  · rename_i h
    exact UInt16.not_lt.mp h

def bump (t : Transmitter) : Transmitter where
  fInitStatus := t.fInitStatus
  fSequenceNumber := nextSequence t.fSequenceNumber
  inRange := nextSequence_le _

end Transmitter

/-- What `Transmit` meets: the buffer of the slot it gets, unless the deadline passes, and what
`queue_bulk` answers. -/
structure TxEnv where
  slot : Option (Buf 16384)
  queueBulk : Status

structure TxReply where
  transmitter : Transmitter
  status : Status
  submitted : Option Bytes -- What is handed to `queue_bulk`.

/-- `_BuildDescriptor`, with the counter behind it. -/
def buildDescriptor (t : Transmitter) (c : TxFrame) (frameLength packetOffset : Nat) :
    Checked (Transmitter × Bytes) := do
  let frameControl ← Checked.byteAt c.frameData 0
  let dwords := descriptorDwords c frameLength packetOffset frameControl t.fSequenceNumber
  pure (if isQosData frameControl then t.bump else t, withChecksum (dwords.flatMap (Bytes.le 4)))

/-- The chip is not handed stale bytes of a frame before. -/
def zeroGap (buffer : Bytes) (packetOffset : Nat) : Checked Bytes :=
  if 0 < packetOffset then Checked.store buffer kTxDescSize (Bytes.zeros (packetOffset * 8))
  else pure buffer

/-- The copies into the buffer of the slot, and what of it is handed over. -/
def fill (buffer descriptor frameData : Bytes) (packetOffset frameLength totalLength : Nat) :
    Checked Bytes := do
  let buffer ← Checked.store buffer 0 descriptor
  let buffer ← zeroGap buffer packetOffset
  let frame ← Checked.bytesAt frameData 0 frameLength
  let buffer ← Checked.store buffer (kTxDescSize + packetOffset * 8) frame
  Checked.bytesAt buffer 0 totalLength

def transmit (t : Transmitter) (c : TxFrame) (env : TxEnv) : Checked TxReply :=
  if t.fInitStatus ≠ .ok then pure ⟨t, t.fInitStatus, none⟩
  else
    let frameLength := UInt32.ofNat c.frameData.length
    let packetOffset : UInt32 :=
      if (UInt32.ofNat kTxDescSize + frameLength) % UInt32.ofNat kBulkBoundary = 0 then 1 else 0
    let totalLength := UInt32.ofNat kTxDescSize + packetOffset * 8 + frameLength
    if totalLength > UInt32.ofNat kUsbTxBufferSize then pure ⟨t, .badValue, none⟩
    else
      match env.slot with
      | none => pure ⟨t, .timedOut, none⟩
      | some buffer => do
        let (t, descriptor) ← buildDescriptor t c frameLength.toNat packetOffset.toNat
        let submitted ← fill buffer.bytes descriptor c.frameData packetOffset.toNat
          frameLength.toNat totalLength.toNat
        pure ⟨t, env.queueBulk, some submitted⟩

/-! ## What the dwords say -/

section

variable (frameLength : Nat) (qos isBroadcast : Bool) (macID queue secType packetOffset : Nat)

theorem extract_packetSize : extract kTxDescPktLen_Mask kTxDescPktLen_Shift
    (dword0 frameLength qos isBroadcast) = frameLength % 2 ^ 16 := by
  have hls : extract kTxDescPktLen_Mask kTxDescPktLen_Shift kTxDescLS = 0 := by decide
  rw [dword0, extract_or, extract_or, extract_or, extract_or, extract_field (w := 16) (by decide),
    extract_field_disjoint (by decide), hls, extract_ite _ (by decide) (by decide),
    extract_ite _ (by decide) (by decide)]
  simp only [Nat.or_zero]

theorem extract_offset : extract kTxDescOffset_Mask kTxDescOffset_Shift
    (dword0 frameLength qos isBroadcast) = kTxDescSize := by
  have hls : extract kTxDescOffset_Mask kTxDescOffset_Shift kTxDescLS = 0 := by decide
  rw [dword0, extract_or, extract_or, extract_or, extract_or,
    extract_field_disjoint (by decide), extract_field (w := 8) (by decide), hls,
    extract_ite _ (by decide) (by decide), extract_ite _ (by decide) (by decide)]
  rfl

theorem extract_macID : extract kTxDescMACID_Mask kTxDescMACID_Shift
    (dword1 macID queue secType packetOffset) = macID % 2 ^ 7 := by
  rw [dword1, extract_or, extract_or, extract_or, extract_or, extract_field (w := 7) (by decide),
    extract_field_disjoint (by decide), extract_field_disjoint (by decide),
    extract_field_disjoint (by decide), extract_field_disjoint (by decide)]
  simp only [Nat.or_zero]

theorem extract_queueSel : extract kTxDescQueueSel_Mask kTxDescQueueSel_Shift
    (dword1 macID queue secType packetOffset) = queue % 2 ^ 5 := by
  rw [dword1, extract_or, extract_or, extract_or, extract_or, extract_field_disjoint (by decide),
    extract_field (w := 5) (by decide), extract_field_disjoint (by decide),
    extract_field_disjoint (by decide), extract_field_disjoint (by decide)]
  simp only [Nat.or_zero, Nat.zero_or]

theorem extract_rateID : extract kTxDescRateID_Mask kTxDescRateID_Shift
    (dword1 macID queue secType packetOffset) = kRateID := by
  rw [dword1, extract_or, extract_or, extract_or, extract_or, extract_field_disjoint (by decide),
    extract_field_disjoint (by decide), extract_field (w := 5) (by decide),
    extract_field_disjoint (by decide), extract_field_disjoint (by decide)]
  rfl

theorem extract_secType : extract kTxDescSecType_Mask kTxDescSecType_Shift
    (dword1 macID queue secType packetOffset) = secType % 2 ^ 2 := by
  rw [dword1, extract_or, extract_or, extract_or, extract_or, extract_field_disjoint (by decide),
    extract_field_disjoint (by decide), extract_field_disjoint (by decide),
    extract_field (w := 2) (by decide), extract_field_disjoint (by decide)]
  simp only [Nat.or_zero, Nat.zero_or]

theorem extract_pktOffset : extract kTxDescPktOffset_Mask kTxDescPktOffset_Shift
    (dword1 macID queue secType packetOffset) = packetOffset % 2 ^ 5 := by
  rw [dword1, extract_or, extract_or, extract_or, extract_or, extract_field_disjoint (by decide),
    extract_field_disjoint (by decide), extract_field_disjoint (by decide),
    extract_field_disjoint (by decide), extract_field (w := 5) (by decide)]
  simp only [Nat.zero_or]

theorem extract_dataRate (dataRate : Nat) (queueSelect : TxQueueSelect) :
    extract kTxDescDataRate_Mask kTxDescDataRate_Shift (dword4 dataRate queueSelect) =
      dataRate % 2 ^ 7 := by
  rw [dword4, extract_or, extract_field (w := 7) (by decide),
    extract_ite _ (by decide) (by decide), Nat.or_zero]

theorem flag_hwSeqEn : flag kTxDescHwSeqEn (dword8 qos) = !qos := by
  cases qos <;> decide

theorem extract_seqNum (sequence : UInt16) :
    extract kTxDescSeqNum_Mask kTxDescSeqNum_Shift (dword9 qos sequence) =
      if qos then sequence.toNat % 2 ^ 12 else 0 := by
  cases qos with
  | false =>
    show extract kTxDescSeqNum_Mask kTxDescSeqNum_Shift 0 = 0
    decide
  | true => exact extract_field (by decide) _

end

/-! ## The descriptor as bytes -/

/-- Dword `i` of the dwords written out. -/
theorem dword_flatMap (vs rest : List Nat) (v : Nat) :
    dword ((vs ++ v :: rest).flatMap (Bytes.le 4)) vs.length = v % 2 ^ 32 := by
  rw [dword, Bytes.slice_flatMap_le, Bytes.leNat_le]
  rfl

theorem xorAll_append (a b : List Nat) : xorAll (a ++ b) = xorAll a ^^^ xorAll b := by
  induction a with
  | nil => exact (Nat.zero_xor _).symm
  | cons x a ih =>
    rw [List.cons_append]
    show x ^^^ xorAll (a ++ b) = (x ^^^ xorAll a) ^^^ xorAll b
    rw [ih, Nat.xor_assoc]

theorem xorAll_lt {n : Nat} {l : List Nat} (h : ∀ x ∈ l, x < 2 ^ n) : xorAll l < 2 ^ n := by
  induction l with
  | nil => exact Nat.two_pow_pos n
  | cons x l ih =>
    exact Nat.xor_lt_two_pow (h x List.mem_cons_self) (ih fun y hy => h y (List.mem_cons_of_mem x hy))

section

variable {descriptor : Bytes}

theorem length_withChecksum (h : descriptor.length = 40) : (withChecksum descriptor).length = 40 := by
  simp only [withChecksum, List.length_append, List.length_take, List.length_drop,
    Bytes.length_le, h]
  rfl

/-- All but the bytes of the checksum stay. -/
theorem slice_withChecksum (h : descriptor.length = 40) {off n : Nat}
    (hoff : off + n ≤ 28 ∨ 30 ≤ off) :
    (withChecksum descriptor).slice off n = descriptor.slice off n := by
  have htake : (descriptor.take 28).length = 28 := by
    rw [List.length_take, h]
    rfl
  rcases hoff with hlow | hhigh
  · rw [withChecksum, Bytes.slice_append_left (by omega), Bytes.slice, Bytes.slice, List.drop_take,
      List.take_take, Nat.min_eq_left (by omega)]
  · have hskip : off = 28 + (2 + (off - 30)) := by omega
    rw [withChecksum, hskip, Bytes.slice_skip _ htake, Bytes.slice_skip _ (Bytes.length_le 2 _),
      Bytes.slice_drop]
    congr 1
    omega

theorem words_lt {x : Nat} (h : x ∈ words descriptor) : x < 2 ^ 16 := by
  obtain ⟨i, -, rfl⟩ := List.mem_map.mp h
  have hlt := Bytes.beNat_lt (descriptor.slice (2 * i) 2).reverse
  have hlen : (descriptor.slice (2 * i) 2).reverse.length ≤ 2 := by
    rw [List.length_reverse, Bytes.slice, List.length_take]
    exact Nat.min_le_left _ _
  exact Nat.lt_of_lt_of_le hlt (Nat.pow_le_pow_right (by decide) hlen)

/-- With the word of the checksum zero before, the words cancel. -/
theorem xorAll_withChecksum (h : descriptor.length = 40)
    (hzero : descriptor.slice 28 2 = [0, 0]) : xorAll (words (withChecksum descriptor)) = 0 := by
  have hsplit : List.range 16 = List.range 14 ++ [14, 15] := rfl
  have hlow : (List.range 14).map (fun i => Bytes.leNat ((withChecksum descriptor).slice (2 * i) 2)) =
      (List.range 14).map fun i => Bytes.leNat (descriptor.slice (2 * i) 2) := by
    apply List.map_congr_left
    intro i hi
    have hlt := List.mem_range.mp hi
    rw [slice_withChecksum h (.inl (by omega))]
  have htake : (descriptor.take 28).length = 28 := by
    rw [List.length_take, h]
    rfl
  have hsum : Bytes.leNat ((withChecksum descriptor).slice 28 2) = xorAll (words descriptor) := by
    rw [withChecksum]
    have hslice := Bytes.slice_append_mid (c := descriptor.drop 30) htake
      (Bytes.length_le 2 (xorAll (words descriptor)))
    rw [hslice, Bytes.leNat_le]
    exact Nat.mod_eq_of_lt (xorAll_lt fun x hx => words_lt hx)
  have hhigh := slice_withChecksum (n := 2) h (.inr (Nat.le_refl 30))
  have hwords : xorAll (words descriptor) =
      xorAll ((List.range 14).map fun i => Bytes.leNat (descriptor.slice (2 * i) 2)) ^^^
        Bytes.leNat (descriptor.slice 30 2) := by
    rw [words, hsplit, List.map_append, xorAll_append]
    show _ ^^^ (Bytes.leNat (descriptor.slice 28 2) ^^^ (Bytes.leNat (descriptor.slice 30 2) ^^^ 0)) =
      _
    rw [hzero, Nat.xor_zero]
    exact congrArg _ (Nat.zero_xor _)
  rw [words, hsplit, List.map_append, xorAll_append, hlow]
  show _ ^^^ (Bytes.leNat ((withChecksum descriptor).slice 28 2) ^^^
    (Bytes.leNat ((withChecksum descriptor).slice 30 2) ^^^ 0)) = 0
  rw [hsum, hhigh, hwords, Nat.xor_zero]
  generalize xorAll ((List.range 14).map fun i => Bytes.leNat (descriptor.slice (2 * i) 2)) = a
  generalize Bytes.leNat (descriptor.slice 30 2) = b
  rw [Nat.xor_assoc a b b, Nat.xor_self, Nat.xor_zero, Nat.xor_self]

end

/-! ## The buffer -/

/-- Units of eight bytes between the descriptor and the frame. -/
def gapUnits (frameLength : Nat) : Nat := if (kTxDescSize + frameLength) % kBulkBoundary = 0 then 1 else 0

def descriptorOf (t : Transmitter) (c : TxFrame) : Bytes :=
  withChecksum ((descriptorDwords c c.frameData.length (gapUnits c.frameData.length)
    (c.frameData.at 0) t.fSequenceNumber).flatMap (Bytes.le 4))

theorem length_dwords (t : Transmitter) (c : TxFrame) :
    ((descriptorDwords c c.frameData.length (gapUnits c.frameData.length)
      (c.frameData.at 0) t.fSequenceNumber).flatMap (Bytes.le 4)).length = 40 := by
  rw [List.length_flatMap]
  simp only [Bytes.length_le, descriptorDwords, List.map_cons, List.map_nil, List.sum_cons,
    List.sum_nil]
  rfl

theorem length_descriptorOf (t : Transmitter) (c : TxFrame) : (descriptorOf t c).length = 40 :=
  length_withChecksum (length_dwords t c)

theorem gapUnits_le (frameLength : Nat) : gapUnits frameLength ≤ 1 := by
  unfold gapUnits
  split
  · exact Nat.le_refl 1
  · exact Nat.zero_le 1

/-- Any bytes that long, in three parts and a rest. -/
theorem three_parts {b : Bytes} {k m n : Nat} (h : k + m + n ≤ b.length) :
    ∃ b0 b1 b2 b3 : Bytes, b = b0 ++ (b1 ++ (b2 ++ b3)) ∧ b0.length = k ∧ b1.length = m ∧
      b2.length = n := by
  refine ⟨b.take k, (b.drop k).take m, ((b.drop k).drop m).take n, ((b.drop k).drop m).drop n, ?_,
    ?_, ?_, ?_⟩
  · rw [List.take_append_drop, List.take_append_drop, List.take_append_drop]
  · rw [List.length_take]
    omega
  · rw [List.length_take, List.length_drop]
    omega
  · rw [List.length_take, List.length_drop, List.length_drop]
    omega

/-- Whatever was in the buffer of the slot. -/
theorem fill_eq {b descriptor frame : Bytes} {p n : Nat} (hd : descriptor.length = 40)
    (hn : frame.length = n) (hroom : 40 + p * 8 + n ≤ b.length) :
    fill b descriptor frame p n (40 + p * 8 + n) =
      .ok (descriptor ++ (Bytes.zeros (8 * p) ++ frame)) := by
  obtain ⟨b0, b1, b2, b3, rfl, h0, h1, h2⟩ := three_parts hroom
  have hwhole : frame.slice 0 n = frame := List.take_of_length_le (Nat.le_of_eq hn)
  have hfirst : Checked.store (b0 ++ (b1 ++ (b2 ++ b3))) 0 descriptor =
      .ok (descriptor ++ (b1 ++ (b2 ++ b3))) :=
    Checked.store_append (a := []) rfl (h0.trans hd.symm)
  have hgap : zeroGap (descriptor ++ (b1 ++ (b2 ++ b3))) p =
      .ok (descriptor ++ (Bytes.zeros (8 * p) ++ (b2 ++ b3))) := by
    rw [zeroGap, Nat.mul_comm p 8]
    rw [Nat.mul_comm p 8] at h1
    split
    · exact Checked.store_append hd (by rw [h1, Bytes.length_zeros])
    · have hzero : p = 0 := by omega
      subst hzero
      have hnil : b1 = [] := List.eq_nil_of_length_eq_zero h1
      rw [hnil]
      rfl
  have hassoc : descriptor ++ (Bytes.zeros (8 * p) ++ (b2 ++ b3)) =
      (descriptor ++ Bytes.zeros (8 * p)) ++ (b2 ++ b3) := (List.append_assoc _ _ _).symm
  have hframe : Checked.store ((descriptor ++ Bytes.zeros (8 * p)) ++ (b2 ++ b3))
      (kTxDescSize + p * 8) frame =
      .ok ((descriptor ++ Bytes.zeros (8 * p)) ++ (frame ++ b3)) := by
    refine Checked.store_append ?_ (h2.trans hn.symm)
    rw [List.length_append, hd, Bytes.length_zeros, Nat.mul_comm, kTxDescSize]
  have hlen : ((descriptor ++ Bytes.zeros (8 * p)) ++ frame).length = 40 + p * 8 + n := by
    rw [List.length_append, List.length_append, hd, Bytes.length_zeros, hn, Nat.mul_comm]
  rw [fill, hfirst, Checked.ok_bind, hgap, Checked.ok_bind, Checked.bytesAt_ok (by omega), Checked.ok_bind,
    hwhole, hassoc, hframe, Checked.ok_bind, ← List.append_assoc,
    Checked.bytesAt_ok (by rw [List.length_append, hlen]; omega), Bytes.slice_here hlen,
    List.append_assoc]

/-! ## The run of Transmit -/

/-- What is submitted, where anything is. -/
def bufferOf (t : Transmitter) (c : TxFrame) : Bytes :=
  descriptorOf t c ++ (Bytes.zeros (8 * gapUnits c.frameData.length) ++ c.frameData)

def sequenceAfter (t : Transmitter) (c : TxFrame) : Transmitter :=
  if isQosData (c.frameData.at 0) then t.bump else t

theorem length_bufferOf (t : Transmitter) (c : TxFrame) :
    (bufferOf t c).length = 40 + 8 * gapUnits c.frameData.length + c.frameData.length := by
  rw [bufferOf, List.length_append, List.length_append, length_descriptorOf, Bytes.length_zeros,
    Nat.add_assoc]

/-- One step off a boundary, a gap of eight bytes does not reach the next. -/
theorem length_mod_boundary (t : Transmitter) (c : TxFrame) :
    (bufferOf t c).length % kBulkBoundary ≠ 0 := by
  rw [length_bufferOf]
  by_cases h : (kTxDescSize + c.frameData.length) % kBulkBoundary = 0
  · rw [gapUnits, if_pos h]
    simp only [kTxDescSize, kBulkBoundary] at h ⊢
    omega
  · rw [gapUnits, if_neg h]
    exact h

theorem buildDescriptor_eq (t : Transmitter) (c : TxFrame) (h : 1 ≤ c.frameData.length) :
    buildDescriptor t c c.frameData.length (gapUnits c.frameData.length) =
      .ok (sequenceAfter t c, descriptorOf t c) := by
  rw [buildDescriptor, Checked.byteAt_ok h]
  rfl

section

variable {c : TxFrame} (hlast : c.frameData.length ≤ 2 ^ 32 - 49)
include hlast

theorem toNat_frameLength : (UInt32.ofNat c.frameData.length).toNat = c.frameData.length :=
  UInt32.toNat_ofNat_of_lt' (by simp only [UInt32.size]; omega)

theorem toNat_packetOffset :
    (if (UInt32.ofNat kTxDescSize + UInt32.ofNat c.frameData.length) %
      UInt32.ofNat kBulkBoundary = 0 then (1 : UInt32) else 0).toNat =
      gapUnits c.frameData.length := by
  have hsum : ((UInt32.ofNat kTxDescSize + UInt32.ofNat c.frameData.length) %
      UInt32.ofNat kBulkBoundary).toNat = (kTxDescSize + c.frameData.length) % kBulkBoundary := by
    rw [UInt32.toNat_mod, UInt32.toNat_add, toNat_frameLength hlast]
    simp only [kTxDescSize, kBulkBoundary, UInt32.reduceOfNat, UInt32.reduceToNat]
    omega
  have hzero := UInt32.toNat_inj (b := 0) (a := (UInt32.ofNat kTxDescSize +
    UInt32.ofNat c.frameData.length) % UInt32.ofNat kBulkBoundary)
  rw [hsum, UInt32.toNat_zero] at hzero
  unfold gapUnits
  split
  · rename_i h
    rw [if_pos (hzero.mpr h)]
    rfl
  · rename_i h
    rw [if_neg fun heq => h (hzero.mp heq)]
    rfl

/-- No sum of the sizes wraps. -/
theorem toNat_totalLength {p : UInt32} (hp : p.toNat = gapUnits c.frameData.length) :
    (UInt32.ofNat kTxDescSize + p * 8 + UInt32.ofNat c.frameData.length).toNat =
      40 + gapUnits c.frameData.length * 8 + c.frameData.length := by
  have hle := gapUnits_le c.frameData.length
  rw [UInt32.toNat_add, UInt32.toNat_add, UInt32.toNat_mul, toNat_frameLength hlast, hp]
  simp only [kTxDescSize, UInt32.reduceOfNat, UInt32.reduceToNat]
  omega

/-- Every way through `Transmit`. -/
theorem transmit_eq (t : Transmitter) (env : TxEnv) (hfirst : 1 ≤ c.frameData.length) :
    transmit t c env = .ok (
      if t.fInitStatus ≠ .ok then ⟨t, t.fInitStatus, none⟩
      else if (bufferOf t c).length > kUsbTxBufferSize then ⟨t, .badValue, none⟩
      else match env.slot with
        | none => ⟨t, .timedOut, none⟩
        | some _ => ⟨sequenceAfter t c, env.queueBulk, some (bufferOf t c)⟩) := by
  have hgap := toNat_packetOffset hlast
  have htotal := toNat_totalLength hlast hgap
  have hlen := length_bufferOf t c
  rw [transmit]
  split
  · rfl
  · simp only [gt_iff_lt, UInt32.lt_iff_toNat_lt, htotal, hgap, toNat_frameLength hlast, hlen,
      Nat.mul_comm 8]
    have hsize : (UInt32.ofNat kUsbTxBufferSize).toNat = kUsbTxBufferSize := rfl
    rw [hsize]
    split
    · rfl
    · rename_i hroom
      cases env.slot with
      | none => rfl
      | some slot =>
        have hfill := fill_eq (length_descriptorOf t c) rfl
          (Nat.le_trans (Nat.not_lt.mp hroom) (Nat.le_of_eq slot.length_eq.symm))
        simp only [buildDescriptor_eq t c hfirst, Checked.ok_bind, hfill]
        rfl

end

/-! ## What the chip reads -/

/-- The fields of a descriptor. -/
structure TxFields where
  packetSize : Nat
  offset : Nat
  macID : Nat
  queueSel : Nat
  rateID : Nat
  secType : Nat
  pktOffset : Nat
  dataRate : Nat
  hwSeqEn : Bool
  seqNum : Nat

def decode (descriptor : Bytes) : TxFields where
  packetSize := extract kTxDescPktLen_Mask kTxDescPktLen_Shift (dword descriptor 0)
  offset := extract kTxDescOffset_Mask kTxDescOffset_Shift (dword descriptor 0)
  macID := extract kTxDescMACID_Mask kTxDescMACID_Shift (dword descriptor 1)
  queueSel := extract kTxDescQueueSel_Mask kTxDescQueueSel_Shift (dword descriptor 1)
  rateID := extract kTxDescRateID_Mask kTxDescRateID_Shift (dword descriptor 1)
  secType := extract kTxDescSecType_Mask kTxDescSecType_Shift (dword descriptor 1)
  pktOffset := extract kTxDescPktOffset_Mask kTxDescPktOffset_Shift (dword descriptor 1)
  dataRate := extract kTxDescDataRate_Mask kTxDescDataRate_Shift (dword descriptor 4)
  hwSeqEn := flag kTxDescHwSeqEn (dword descriptor 8)
  seqNum := extract kTxDescSeqNum_Mask kTxDescSeqNum_Shift (dword descriptor 9)

/-- All but the checksum is as it was put together. -/
theorem dword_descriptorOf (t : Transmitter) (c : TxFrame) (vs : List Nat) {rest : List Nat} {v i : Nat}
    (hsplit : descriptorDwords c c.frameData.length (gapUnits c.frameData.length)
      (c.frameData.at 0) t.fSequenceNumber = vs ++ v :: rest) (hlen : vs.length = i) (hi : i ≠ 7) :
    dword (descriptorOf t c) i = v % 2 ^ 32 := by
  have hrest : 4 * i + 4 ≤ 28 ∨ 30 ≤ 4 * i := by omega
  rw [dword, descriptorOf, slice_withChecksum (length_dwords t c) hrest, hsplit, ← hlen]
  exact dword_flatMap vs rest v

/-- What comes back of each field, for any frame and queue: as many bits as the field has. -/
theorem decode_descriptorOf (t : Transmitter) (c : TxFrame) :
    decode (descriptorOf t c) =
      { packetSize := c.frameData.length % 2 ^ 16
        offset := kTxDescSize
        macID := (effectiveMacID c).toNat % 2 ^ 7
        queueSel := qslt c.queueSelect % 2 ^ 5
        rateID := kRateID
        secType := secValue c.secType % 2 ^ 2
        pktOffset := gapUnits c.frameData.length % 2 ^ 5
        dataRate := c.dataRate.toNat % 2 ^ 7
        hwSeqEn := !isQosData (c.frameData.at 0)
        seqNum := if isQosData (c.frameData.at 0) then t.fSequenceNumber.toNat % 2 ^ 12 else 0 } := by
  have h0 := dword_descriptorOf t c (i := 0) [] rfl rfl (by decide)
  have h1 := dword_descriptorOf t c (i := 1) [_] rfl rfl (by decide)
  have h4 := dword_descriptorOf t c (i := 4) [_, _, _, _] rfl rfl (by decide)
  have h8 := dword_descriptorOf t c (i := 8) [_, _, _, _, _, _, _, _] rfl rfl (by decide)
  have h9 := dword_descriptorOf t c (i := 9) [_, _, _, _, _, _, _, _, _] rfl rfl (by decide)
  rw [decode, h0, h1, h4, h8, h9]
  simp (disch := decide) only [extract_mod, flag_mod, extract_packetSize, extract_offset,
    extract_macID, extract_queueSel, extract_rateID, extract_secType, extract_pktOffset,
    extract_dataRate, flag_hwSeqEn, extract_seqNum]

/-! ## The encoding -/

/-- What a submitted buffer says of its frame, besides the three fields below. -/
structure Layout (t : Transmitter) (c : TxFrame) (descriptor buffer : Bytes) : Prop where
  size : descriptor.length = kTxDescSize
  parts : buffer = descriptor ++ (Bytes.zeros (8 * (decode descriptor).pktOffset) ++ c.frameData)
  packetSize : (decode descriptor).packetSize = c.frameData.length
  offset : (decode descriptor).offset = kTxDescSize
  pktOffset : (decode descriptor).pktOffset = gapUnits c.frameData.length
  queueSel : (decode descriptor).queueSel = qslt c.queueSelect
  rateID : (decode descriptor).rateID = kRateID
  hwSeqEn : (decode descriptor).hwSeqEn = !isQosData (c.frameData.at 0)
  seqNum : isQosData (c.frameData.at 0) → (decode descriptor).seqNum = t.fSequenceNumber.toNat
  checksum : xorAll (words descriptor) = 0
  boundary : buffer.length % kBulkBoundary ≠ 0
  room : buffer.length ≤ kUsbTxBufferSize

/-- Management, command or broadcast. -/
def isManaged (c : TxFrame) : Prop :=
  c.queueSelect = .kTxQueueMGT ∨ c.queueSelect = .kTxQueueCMD ∨ c.isBroadcast = true

/-- The fields as wide as their arguments. -/
structure Kept (c : TxFrame) (fields : TxFields) : Prop where
  security : fields.secType = secValue c.secType
  rate : fields.dataRate = c.dataRate.toNat
  macID : fields.macID = 1 ↔ c.macID = 1 ∨ c.macID = 0 ∧ isManaged c

/-- The fields as wide as their masks: seven bits for the rate and the MACID. -/
structure Masked (c : TxFrame) (fields : TxFields) : Prop where
  security : c.secType ≠ .kSecurityWEP104 → fields.secType = secValue c.secType
  rate : fields.dataRate = c.dataRate.toNat % 2 ^ 7
  macID : fields.macID = 1 ↔ c.macID = 1 ∨ c.macID = 129 ∨ c.macID = 0 ∧ isManaged c

theorem effectiveMacID_one (c : TxFrame) : (effectiveMacID c).toNat % 2 ^ 7 = 1 ↔
    c.macID = 1 ∨ c.macID = 129 ∨ c.macID = 0 ∧ isManaged c := by
  have hmanaged : isManagementQueue c.queueSelect ∨ c.isBroadcast ↔ isManaged c := by
    rw [isManagementQueue, decide_eq_true_iff, or_assoc]
    rfl
  have hone := UInt8.toNat_inj (a := c.macID) (b := 1)
  have hhigh := UInt8.toNat_inj (a := c.macID) (b := 129)
  have hlt := c.macID.toNat_lt
  rw [effectiveMacID]
  split
  · rename_i h
    exact ⟨fun _ => .inr (.inr ⟨h.1, hmanaged.mp h.2⟩), fun _ => rfl⟩
  · rename_i h
    rw [← hone, ← hhigh]
    constructor
    · intro hmod
      have : c.macID.toNat = 1 ∨ c.macID.toNat = 129 := by omega
      exact this.imp_right .inl
    · rintro (h1 | h129 | ⟨hzero, hm⟩)
      · rw [h1]
        rfl
      · rw [h129]
        rfl
      · exact absurd ⟨hzero, hmanaged.mpr hm⟩ h

theorem layout_bufferOf {t : Transmitter} {c : TxFrame}
    (hroom : (bufferOf t c).length ≤ kUsbTxBufferSize) :
    Layout t c (descriptorOf t c) (bufferOf t c) := by
  have hlen := length_bufferOf t c
  have hgap := gapUnits_le c.frameData.length
  have hpkt : (decode (descriptorOf t c)).pktOffset = gapUnits c.frameData.length := by
    rw [decode_descriptorOf]
    exact Nat.mod_eq_of_lt (by omega)
  have hseq : t.fSequenceNumber.toNat < 2 ^ 12 := by
    have hle := UInt16.le_iff_toNat_le.mp t.inRange
    exact Nat.lt_succ_of_le hle
  constructor
  · exact length_descriptorOf t c
  · rw [hpkt]
    rfl
  · rw [decode_descriptorOf]
    have hmax : kUsbTxBufferSize = 16384 := rfl
    exact Nat.mod_eq_of_lt (by omega)
  · rw [decode_descriptorOf]
  · exact hpkt
  · rw [decode_descriptorOf]
    cases c.queueSelect <;> rfl
  · rw [decode_descriptorOf]
  · rw [decode_descriptorOf]
  · intro hqos
    rw [decode_descriptorOf]
    exact (if_pos hqos).trans (Nat.mod_eq_of_lt hseq)
  · exact xorAll_withChecksum (length_dwords t c) rfl
  · exact length_mod_boundary t c
  · exact hroom

theorem masked_descriptorOf (t : Transmitter) (c : TxFrame) :
    Masked c (decode (descriptorOf t c)) := by
  rw [decode_descriptorOf]
  constructor
  · intro h
    cases hs : c.secType <;> first | rfl | exact absurd hs h
  · rfl
  · exact effectiveMacID_one c

/-- Nothing outside a buffer, no sum that wraps, and what is submitted reads back. -/
def Encodes (fits : TxFrame → TxFields → Prop) (t : Transmitter) (c : TxFrame) (env : TxEnv) :
    Prop :=
  ∃ reply, transmit t c env = .ok reply ∧
    ∀ buffer, reply.submitted = some buffer →
      ∃ descriptor, Layout t c descriptor buffer ∧ fits c (decode descriptor)

theorem transmit_encoding (t : Transmitter) (c : TxFrame) (env : TxEnv)
    (hfirst : 1 ≤ c.frameData.length) (hlast : c.frameData.length ≤ 2 ^ 32 - 49) :
    Encodes Masked t c env := by
  refine ⟨_, transmit_eq hlast t env hfirst, ?_⟩
  intro buffer hbuffer
  split at hbuffer
  · cases hbuffer
  · split at hbuffer
    · cases hbuffer
    · rename_i hroom
      cases hslot : env.slot with
      | none =>
        rw [hslot] at hbuffer
        cases hbuffer
      | some slot =>
        rw [hslot] at hbuffer
        cases hbuffer
        exact ⟨_, layout_bufferOf (Nat.not_lt.mp hroom), masked_descriptorOf t c⟩

/-- There is one descriptor to read. -/
theorem fits_of_encodes {fits : TxFrame → TxFields → Prop} {t : Transmitter} {c : TxFrame}
    {env : TxEnv} (h : Encodes fits t c env) (hfirst : 1 ≤ c.frameData.length)
    (hstatus : t.fInitStatus = .ok) (hroom : (bufferOf t c).length ≤ kUsbTxBufferSize)
    (hslot : env.slot.isSome) : fits c (decode (descriptorOf t c)) := by
  have hlen := length_bufferOf t c
  have hmax : kUsbTxBufferSize = 16384 := rfl
  obtain ⟨slot, hslot⟩ := Option.isSome_iff_exists.mp hslot
  obtain ⟨reply, hrun, hsubmitted⟩ := h
  rw [transmit_eq (by omega) t env hfirst, if_neg (not_not.mpr hstatus),
    if_neg (Nat.not_lt.mpr hroom), hslot] at hrun
  obtain ⟨descriptor, hlayout, hfits⟩ := hsubmitted (bufferOf t c) (by cases hrun; rfl)
  have hsame : descriptorOf t c = descriptor :=
    (List.append_inj hlayout.parts ((length_descriptorOf t c).trans hlayout.size.symm)).1
  rw [hsame]
  exact hfits

/-- A probe request. -/
def probeRequest : TxFrame where
  frameData := [0x40, 0x00]
  queueSelect := .kTxQueueMGT
  dataRate := 0
  macID := 0
  secType := .kSecurityNone
  isBroadcast := true

def idleSlot : TxEnv where
  slot := some (Buf.zero 16384)
  queueBulk := .ok

theorem transmit_encoding_probe : Encodes Masked (.start .ok) probeRequest idleSlot :=
  transmit_encoding (.start .ok) probeRequest idleSlot (by decide) (by decide)

/-- The top bit of a rate, the top bit of a MACID and WEP104 do not fit their fields. -/
theorem transmit_not_kept :
    ¬ Encodes Kept (.start .ok) { probeRequest with dataRate := 0x80 } idleSlot ∧
      ¬ Encodes Kept (.start .ok) { probeRequest with macID := 129 } idleSlot ∧
      ¬ Encodes Kept (.start .ok) { probeRequest with secType := .kSecurityWEP104 } idleSlot := by
  refine ⟨fun h => ?_, fun h => ?_, fun h => ?_⟩
  · have hkept := fits_of_encodes h (by decide) rfl (by rw [length_bufferOf]; decide) rfl
    rw [decode_descriptorOf] at hkept
    exact absurd hkept.rate (by decide)
  · have hkept := fits_of_encodes h (by decide) rfl (by rw [length_bufferOf]; decide) rfl
    rw [decode_descriptorOf] at hkept
    rcases hkept.macID.mp rfl with hone | ⟨hzero, -⟩
    · exact absurd hone (by decide)
    · exact absurd hzero (by decide)
  · have hkept := fits_of_encodes h (by decide) rfl (by rw [length_bufferOf]; decide) rfl
    rw [decode_descriptorOf] at hkept
    exact absurd hkept.security (by decide)

end TxPath
end Rtl8814au
