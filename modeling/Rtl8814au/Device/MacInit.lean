import Rtl8814au.EfuseReader.Decode
import Rtl8814au.Lib.Fields
import Rtl8814au.Lib.RegisterFile
import Rtl8814au.RegisterIO.Poll
import Rtl8814au.TxPath.Slots

/-!
# Device.MacInit

The register accesses that power the chip on and set its MAC up, as `_PowerOnSequence`, `_InitMAC`
and `_InitRxAggregation` make them. None of the three looks at the status of a write, and a read that
fails gives all ones.

* `powerOnSequence`, `initMAC`, `initRxAggregation` — the accesses in their order.
* `ChipStep`      — the chip: any access may fail, and a failed read may be what a write is made from.
* `mac_held`      — the MAC is off until the firmware runs, exactly if `REG_CR` was not guessed.
* `queues_mapped` — the chip takes every queue but that of the commands from the endpoint where
  `_QueueToPipeIndex` puts it, exactly if `REG_TRXDMA_CTRL` was not guessed after it was set up.
* `address_written` — the chip gets the address of a station, whatever the EFUSE has.
-/

namespace Rtl8814au
namespace MacInit

open Dialogue RegisterIO

def kRegApsFsmco : Nat := 0x0004
def kRegSysClkr : Nat := 0x0006
def kRegSysFuncEn : Nat := 0x0002
def kRegRsvCtrl : Nat := 0x001C
def kRegApsRsvd : Nat := 0x001E
def kRegAfeCtrl1 : Nat := 0x0024
def kRegAfeCtrl2 : Nat := 0x0028
def kRegMcuFwDl : Nat := 0x0080
def kRegSysCfg : Nat := 0x00F0

def kSysFuncEnBBRSTB : Nat := 1 <<< 0
def kSysFuncEnBBGlbRst : Nat := 1 <<< 1
def kSysFuncEnUSBA : Nat := 1 <<< 2
def kSysFuncEnUSBD : Nat := 1 <<< 4
def kSysFuncEnDcore : Nat := 1 <<< 13

def kRegCR : Nat := 0x0100
def kCR_HCI_TxDMA_En : Nat := 1 <<< 0
def kCR_HCI_RxDMA_En : Nat := 1 <<< 1
def kCR_TxDMA_En : Nat := 1 <<< 2
def kCR_RxDMA_En : Nat := 1 <<< 3
def kCR_Protocol_En : Nat := 1 <<< 4
def kCR_Schedule_En : Nat := 1 <<< 5
def kCR_MAC_TX_En : Nat := 1 <<< 6
def kCR_MAC_RX_En : Nat := 1 <<< 7
def kCR_EnSec : Nat := 1 <<< 9

def kRegTrxDmaCfg : Nat := 0x010C
def kQueueLow : Nat := 1
def kQueueNormal : Nat := 2
def kQueueHigh : Nat := 3
def kTxDmaVOQShift : Nat := 4
def kTxDmaVIQShift : Nat := 6
def kTxDmaBEQShift : Nat := 8
def kTxDmaBKQShift : Nat := 10
def kTxDmaMGQShift : Nat := 12
def kTxDmaHIQShift : Nat := 14
def kTxDmaQMask : Nat := 0x3
def kTxDmaPriorityBit2 : Nat := 1 <<< 2
def kTrxDmaCtrlRxDmaAggEn : Nat := 0x0004

def kRegFIFOPage : Nat := 0x0204
def kRegAutoLLT : Nat := 0x0208
def kAutoLLTInit : Nat := 0x11
def kRegTxDmaOffsetChk : Nat := 0x020C
def kTxDmaOffsetChkInit : Nat := 0x0FFD0200
def kRegRQPN_Ctrl_2 : Nat := 0x022C
def kRQPNCommit : Nat := 0x80000000
def kRegFIFOPage_Info_1 : Nat := 0x0230
def kRegFIFOPage_Info_2 : Nat := 0x0234
def kRegFIFOPage_Info_3 : Nat := 0x0238
def kRegFIFOPage_Info_4 : Nat := 0x023C
def kRegFIFOPage_Info_5 : Nat := 0x0240
def kPageNumHPQ : Nat := 0x20
def kPageNumLPQ : Nat := 0x20
def kPageNumNPQ : Nat := 0x20
def kPageNumEPQ : Nat := 0x20
def kPageNumPUB : Nat := 0x776
def kRegTxPktBufBcnQBdy : Nat := 0x0424
def kRegMgQPgBndy : Nat := 0x047A
def kFwTxPktBufBoundary : Nat := 0x07F6

def kRegRxDmaAggPgTh : Nat := 0x0280
def kRxDmaAggUsb2Value : Nat := 0x2020
def kRegRxPktNum : Nat := 0x0284
def kRegRxDmaStatus : Nat := 0x0288
def kRegRxDmaPro : Nat := 0x0290
def kRxDmaProBurstSzMask : Nat := 0x30
def kRxDmaProUsb2Value : Nat := 0x1E

def kRegHwSeqCtrl : Nat := 0x0423
def kHwSeqCtrlAllQueues : Nat := 0xFF
def kRegLifetimeEn : Nat := 0x0426
def kRegRetryLimit : Nat := 0x042A
def kRetryLimitInit : Nat := 0x3030
def kRegDARFRC : Nat := 0x0430
def kRegDARFRCHigh : Nat := 0x0434
def kRegRARFRCHigh : Nat := 0x043C
def kDARFRCInit : Nat := 0x01000000
def kDARFRCHighInit : Nat := 0x08070504
def kRARFRCHighInit : Nat := 0x08070504
def kRegRRSR : Nat := 0x0440
def kRRSRInit : Nat := 0x00000FFF
def kRegARFR0 : Nat := 0x0444
def kRegARFR1 : Nat := 0x044C
def kARFR0InitLow : Nat := 0xFE01F010
def kARFR0InitHigh : Nat := 0x40000000
def kARFR1InitLow : Nat := 0x003FF010
def kARFR1InitHigh : Nat := 0x40000000
def kRegBBCckCheck : Nat := 0x0454
def kRegAmpduMaxTime : Nat := 0x0456
def kAmpduMaxTime : Nat := 0x70
def kRegAmpduMaxLength : Nat := 0x0458
def kAmpduMaxLengthInit : Nat := 0x0003FFFF
def kRegTxHangCtrl : Nat := 0x045E
def kTxHangCtrlInit : Nat := 0x04
def kRegPktLifeTime : Nat := 0x04C0
def kPktLifeTimeDisabled : Nat := 0xFFFFFFFF
def kRegProtModeCtrl : Nat := 0x04C8
def kProtModeCtrlInit : Nat := 0xFF
def kRegProtModeCtrlHigh : Nat := 0x04CC
def kProtModeCtrlHighInit : Nat := 0x0201FFFF
def kRegMacIdSleep : Nat := 0x04D4
def kRegDropPktNum : Nat := 0x04EC
def kRegPtclTxRpt : Nat := 0x04F0

def kRegEdcaVoParam : Nat := 0x0500
def kRegEdcaViParam : Nat := 0x0504
def kRegEdcaBeParam : Nat := 0x0508
def kRegEdcaBkParam : Nat := 0x050C
def kRegSIFS_CTX : Nat := 0x0514
def kRegSIFS_TRX : Nat := 0x0516
def kSIFSInit : Nat := 0x100A
def kRegTxPause : Nat := 0x0522

def kRegRCR : Nat := 0x0608
def kRCR_APM : Nat := 1 <<< 1
def kRCR_AM : Nat := 1 <<< 2
def kRCR_AB : Nat := 1 <<< 3
def kRCR_ADF : Nat := 1 <<< 11
def kRCR_AMF : Nat := 1 <<< 13
def kRCR_HTC_LOC_CTRL : Nat := 1 <<< 14
def kRCR_APP_PHYST_RXFF : Nat := 1 <<< 28
def kRCR_APP_ICV : Nat := 1 <<< 29
def kRCR_APP_MIC : Nat := 1 <<< 30
def kRegMAC_ADDR : Nat := 0x0610
def kRegRespSIFSCCK : Nat := 0x063C
def kRegRespSIFSOFDM : Nat := 0x063E
def kRegACKTo : Nat := 0x0640
def kRespSIFSCCKInit : Nat := 0x0808
def kRespSIFSOFDMInit : Nat := 0x0A0A
def kACKToInit : Nat := 0x80
def kRegRxFltMap0 : Nat := 0x06A0
def kRegRxFltMap1 : Nat := 0x06A2
def kRegRxFltMap2 : Nat := 0x06A4
def kRegBBOfdmCckEn : Nat := 0x0808
def kRegBBTxPath : Nat := 0x080C
def kRegBBCckRxPath : Nat := 0x0A04
def kRegBBRfePinmux0 : Nat := 0x0CB0

/-! ## Power on -/

/-- The supplies, the clocks and the digital core. The pauses are left out. -/
def powerAnalog : DeviceIo Unit := do
  let reg10C2 ← read8 0x10C2
  let _ ← write8 0x10C2 (reg10C2 ||| 0x02)
  let _ ← write8 kRegApsRsvd 0x00
  let _ ← maskedWrite8 kRegApsRsvd 0x01 0x01
  let _ ← maskedWrite8 kRegAfeCtrl1 0x80 0x80
  let _ ← maskedWrite8 kRegAfeCtrl2 0x02 0x02
  let _ ← maskedWrite8 kRegRsvCtrl 0x02 0x00
  let _ ← maskedWrite8 kRegAfeCtrl2 0x04 0x04
  let sysFuncEn ← read16 kRegSysFuncEn
  let _ ← write16 kRegSysFuncEn (sysFuncEn ||| (kSysFuncEnUSBA ||| kSysFuncEnUSBD))
  let _ ← maskedWrite8 (kRegAfeCtrl2 + 1) 0x18 0x18
  let sysFuncEn ← read16 kRegSysFuncEn
  let _ ← write16 kRegSysFuncEn
    (sysFuncEn ||| (kSysFuncEnBBRSTB ||| kSysFuncEnBBGlbRst ||| kSysFuncEnDcore))
  pure ()

/-- From the emulation of the card to the active state. -/
def activate : DeviceIo StatusCode := do
  let _ ← maskedWrite8 (kRegApsFsmco + 1) 0x04 0x00
  let status ← pollFor8 kRegSysClkr 0x02 0x02 200
  if status ≠ .ok then pure status
  else
    let _ ← maskedWrite8 (kRegApsFsmco + 1) 0x08 0x00
    let _ ← maskedWrite8 kRegSysCfg 0x80 0x00
    let _ ← maskedWrite8 (kRegMcuFwDl + 1) 0x30 0x20
    let _ ← maskedWrite8 (kRegApsFsmco + 1) 0x01 0x01
    pollFor8 (kRegApsFsmco + 1) 0x01 0x00 200

def dmaEngines : Nat :=
  kCR_HCI_TxDMA_En ||| kCR_HCI_RxDMA_En ||| kCR_TxDMA_En ||| kCR_RxDMA_En ||| kCR_Protocol_En |||
    kCR_Schedule_En ||| kCR_EnSec

def enableDmaEngines : DeviceIo Unit := do
  let _ ← write16 kRegCR 0x0000
  let crValue ← read16 kRegCR
  let _ ← write16 kRegCR (crValue ||| dmaEngines)
  let _ ← read16 kRegCR
  pure ()

def powerOnSequence : DeviceIo StatusCode := do
  powerAnalog
  let status ← activate
  if status ≠ .ok then pure status
  else
    enableDmaEngines
    pure .ok

/-! ## The MAC -/

def initPageAllocation : DeviceIo StatusCode := do
  let _ ← write32 kRegFIFOPage_Info_1 kPageNumHPQ
  let _ ← write32 kRegFIFOPage_Info_2 kPageNumLPQ
  let _ ← write32 kRegFIFOPage_Info_3 kPageNumNPQ
  let _ ← write32 kRegFIFOPage_Info_4 kPageNumEPQ
  let _ ← write32 kRegFIFOPage_Info_5 kPageNumPUB
  let _ ← write32 kRegRQPN_Ctrl_2 kRQPNCommit
  let _ ← write16 kRegTxPktBufBcnQBdy kFwTxPktBufBoundary
  let _ ← write16 kRegMgQPgBndy kFwTxPktBufBoundary
  let _ ← write16 kRegFIFOPage kFwTxPktBufBoundary
  let _ ← write16 (kRegFIFOPage + 2) kFwTxPktBufBoundary
  let _ ← write8 kRegAutoLLT kAutoLLTInit
  let _ ← write32 kRegTxDmaOffsetChk kTxDmaOffsetChkInit
  pure .ok

def priorityMap : Nat :=
  kQueueHigh <<< kTxDmaVOQShift ||| kQueueNormal <<< kTxDmaVIQShift ||| kQueueLow <<< kTxDmaBEQShift |||
    kQueueLow <<< kTxDmaBKQShift ||| kQueueHigh <<< kTxDmaMGQShift ||| kQueueHigh <<< kTxDmaHIQShift

def initQueuePriority : DeviceIo StatusCode := do
  let existing ← read16 kRegTrxDmaCfg
  let preserved := existing &&& 0x07
  let _ ← write16 kRegTrxDmaCfg (preserved ||| priorityMap ||| kTxDmaPriorityBit2)
  pure .ok

def enableDMA : DeviceIo StatusCode := pure .ok

/-- The contention for the medium, the retries and the timing of the responses. -/
def initTransmission : DeviceIo Unit := do
  let _ ← write8 kRegTxPause 0x00
  let _ ← write32 kRegEdcaVoParam 0x002F3222
  let _ ← write32 kRegEdcaViParam 0x005E4322
  let _ ← write32 kRegEdcaBeParam 0x0000A42B
  let _ ← write32 kRegEdcaBkParam 0x0000A44F
  let _ ← write16 kRegRetryLimit kRetryLimitInit
  let _ ← read16 kRegRetryLimit
  let _ ← write16 kRegSIFS_CTX kSIFSInit
  let _ ← write16 kRegSIFS_TRX kSIFSInit
  let _ ← write16 kRegRespSIFSCCK kRespSIFSCCKInit
  let _ ← write16 kRegRespSIFSOFDM kRespSIFSOFDMInit
  let _ ← write8 kRegACKTo kACKToInit
  let _ ← write8 kRegHwSeqCtrl kHwSeqCtrlAllQueues
  let _ ← read8 kRegTxHangCtrl
  let _ ← write8 kRegTxHangCtrl kTxHangCtrlInit
  let _ ← read8 kRegTxHangCtrl
  pure ()

/-- The rates to fall back to, the aggregates, the lifetimes and the protection. -/
def initRates : DeviceIo Unit := do
  let _ ← write32 kRegDARFRC kDARFRCInit
  let _ ← write32 kRegDARFRCHigh kDARFRCHighInit
  let _ ← write32 kRegRARFRCHigh kRARFRCHighInit
  let _ ← write32 kRegRRSR kRRSRInit
  let _ ← write32 kRegARFR0 kARFR0InitLow
  let _ ← write32 (kRegARFR0 + 4) kARFR0InitHigh
  let _ ← write32 kRegARFR1 kARFR1InitLow
  let _ ← write32 (kRegARFR1 + 4) kARFR1InitHigh
  let _ ← write8 kRegAmpduMaxTime kAmpduMaxTime
  let _ ← write32 kRegAmpduMaxLength kAmpduMaxLengthInit
  let _ ← write32 kRegPktLifeTime kPktLifeTimeDisabled
  let _ ← read8 kRegLifetimeEn
  let _ ← read32 kRegPktLifeTime
  let _ ← write32 kRegMacIdSleep 0
  let _ ← write8 kRegProtModeCtrl kProtModeCtrlInit
  let _ ← write32 kRegProtModeCtrlHigh kProtModeCtrlHighInit
  pure ()

def rxFilter : Nat :=
  kRCR_APM ||| kRCR_AM ||| kRCR_AB ||| kRCR_ADF ||| kRCR_AMF ||| kRCR_HTC_LOC_CTRL |||
    kRCR_APP_PHYST_RXFF ||| kRCR_APP_ICV ||| kRCR_APP_MIC

def initMAC : DeviceIo StatusCode := do
  let _ ← read16 kRegCR
  let status ← initPageAllocation
  if status ≠ .ok then pure status
  else
    let status ← initQueuePriority
    if status ≠ .ok then pure status
    else
      initTransmission
      initRates
      let _ ← write32 kRegRCR rxFilter
      let _ ← read16 kRegDropPktNum
      let _ ← read16 kRegPtclTxRpt
      let status ← enableDMA
      if status ≠ .ok then pure status else pure .ok

/-! ## The reception -/

def dumpRxState : DeviceIo Unit := do
  let _ ← read16 kRegCR
  let _ ← read32 kRegRCR
  let _ ← read16 kRegRxFltMap0
  let _ ← read16 kRegRxFltMap1
  let _ ← read16 kRegRxFltMap2
  let _ ← read16 kRegRxPktNum
  let _ ← read32 kRegRxDmaStatus
  let _ ← read16 kRegTrxDmaCfg
  let _ ← read32 kRegBBOfdmCckEn
  let _ ← read32 kRegBBTxPath
  let _ ← read32 kRegBBCckRxPath
  let _ ← read8 kRegBBCckCheck
  let _ ← read32 kRegBBRfePinmux0
  pure ()

/-- The filters of the subtypes, and what the log tells of the reception. -/
def openFilters : DeviceIo Unit := do
  let _ ← read16 kRegRxFltMap0
  let _ ← read16 kRegRxFltMap1
  let _ ← read16 kRegRxFltMap2
  let _ ← write8 0x060F 0x04
  let _ ← write16 kRegRxFltMap0 0xFFFF
  let _ ← write16 kRegRxFltMap1 0xFFFF
  let _ ← write16 kRegRxFltMap2 0xFFFF
  let _ ← read16 kRegRxDmaAggPgTh
  let _ ← read16 kRegTrxDmaCfg
  let _ ← read16 kRegRxFltMap0
  let _ ← read16 kRegRxFltMap1
  let _ ← read16 kRegRxFltMap2
  dumpRxState

def initRxAggregation : DeviceIo StatusCode := do
  let _ ← write16 kRegRxDmaAggPgTh kRxDmaAggUsb2Value
  let dmaPro ← read8 kRegRxDmaPro
  let _ ← write8 kRegRxDmaPro (dmaPro &&& (0xFF ^^^ kRxDmaProBurstSzMask) ||| kRxDmaProUsb2Value)
  let trxCtrl ← read16 kRegTrxDmaCfg
  let _ ← write16 kRegTrxDmaCfg (trxCtrl ||| kTrxDmaCtrlRxDmaAggEn)
  openFilters
  pure .ok

/-! ## The chip -/

structure Chip where
  regs : RegisterFile
  blind : List Nat -- the registers whose last read failed
  guessed : List Nat -- those that a write has reached while they were blind
  lost : List Nat -- those that a write has not reached

namespace Chip

def start (regs : RegisterFile) : Chip := ⟨regs, [], [], []⟩

def read (s : Chip) (address : Nat) : Chip := { s with blind := s.blind.filter (· ≠ address) }
def miss (s : Chip) (address : Nat) : Chip := { s with blind := address :: s.blind }
def lose (s : Chip) (address : Nat) : Chip := { s with lost := address :: s.lost }

def write (s : Chip) (address : Nat) (data : Bytes) : Chip where
  regs := s.regs.store address data
  blind := s.blind
  guessed := if address ∈ s.blind then address :: s.guessed else s.guessed
  lost := s.lost

end Chip

/-- The bytes of `REG_CR` and `REG_TRXDMA_CTRL`, which keep what is written. Other registers may change
by themselves. -/
def held : List Nat := [kRegCR, kRegCR + 1, kRegTrxDmaCfg, kRegTrxDmaCfg + 1]

/-- Any access may fail. A write that is reported `B_OK` is taken to have arrived, with all its bytes. -/
inductive ChipStep : Dialogue.Env Chip (Access.Answer DeviceCall.Answer)
  | read {s : Chip} {address length : Nat} (b : Buf length)
    (h : ∀ i < length, address + i ∈ held → b.bytes.at i = s.regs (address + i)) :
    ChipStep s (.vendorRead address length) (some b) (s.read address)
  | miss {s : Chip} {address length : Nat} :
    ChipStep s (.vendorRead address length) none (s.miss address)
  | write {s : Chip} {address : Nat} {data : Bytes} (status : StatusCode) :
    ChipStep s (.vendorWrite address data) status (s.write address data)
  | lose {s : Chip} {address : Nat} {data : Bytes} {status : StatusCode} (h : status ≠ .ok) :
    ChipStep s (.vendorWrite address data) status (s.lose address)
  | call {s : Chip} {c : DeviceCall} (r : c.Answer) : ChipStep s (.call c) r s

/-- The bytes at `places` are the same, and no access has been made to those that are `unread`. -/
structure Same (places unread : List Nat) (s s' : Chip) : Prop where
  regs : ∀ a ∈ places, s'.regs a = s.regs a
  guessed : ∀ a ∈ places, a ∈ s'.guessed ↔ a ∈ s.guessed
  lost : ∀ a ∈ places, a ∈ s'.lost ↔ a ∈ s.lost
  blind : ∀ a ∈ unread, a ∈ s'.blind ↔ a ∈ s.blind

def Keeps {α : Type} (places unread : List Nat) (p : DeviceIo α) : Prop :=
  ∀ s, wp ChipStep (fun _ s' => Same places unread s s') p s

section

variable {places unread : List Nat} {α β : Type} {p : DeviceIo α} {s s' s'' : Chip}
  {address length : Nat}

theorem Same.refl : Same places unread s s :=
  ⟨fun _ _ => rfl, fun _ _ => .rfl, fun _ _ => .rfl, fun _ _ => .rfl⟩

theorem Same.trans (h : Same places unread s s') (h' : Same places unread s' s'') :
    Same places unread s s'' where
  regs a ha := (h'.regs a ha).trans (h.regs a ha)
  guessed a ha := (h'.guessed a ha).trans (h.guessed a ha)
  lost a ha := (h'.lost a ha).trans (h.lost a ha)
  blind a ha := (h'.blind a ha).trans (h.blind a ha)

theorem Keeps.pure (a : α) : Keeps places unread (pure a) := fun _ => .refl

theorem Keeps.bind {f : α → DeviceIo β} (hp : Keeps places unread p)
    (hf : ∀ a, Keeps places unread (f a)) : Keeps places unread (p >>= f) := fun s =>
  wp_seq (hp s) fun a s' h => wp_mono (hf a s') fun _ _ h' => h.trans h'

theorem Keeps.mono {places' unread' : List Nat} (h : Keeps places unread p)
    (hplaces : ∀ a ∈ places', a ∈ places) (hunread : ∀ a ∈ unread', a ∈ unread) :
    Keeps places' unread' p := fun s =>
  wp_mono (h s) fun _ _ hs =>
    ⟨fun a ha => hs.regs a (hplaces a ha), fun a ha => hs.guessed a (hplaces a ha),
      fun a ha => hs.lost a (hplaces a ha), fun a ha => hs.blind a (hunread a ha)⟩

theorem Keeps.vendorRead (h : address ∉ unread) :
    Keeps places unread (vendorRead address length) := by
  rintro s answer s' (⟨b, -⟩ | _)
  · refine ⟨fun _ _ => rfl, fun _ _ => .rfl, fun _ _ => .rfl, fun a ha => ?_⟩
    have hne : a ≠ address := fun heq => h (heq ▸ ha)
    simp [Chip.read, hne]
  · refine ⟨fun _ _ => rfl, fun _ _ => .rfl, fun _ _ => .rfl, fun a ha => ?_⟩
    have hne : a ≠ address := fun heq => h (heq ▸ ha)
    simp [Chip.miss, hne]

theorem Keeps.read (h : address ∉ unread) : Keeps places unread (read length address) :=
  (Keeps.vendorRead h).bind fun answer => .pure (valueOf answer)

/-- A write of bytes that lie apart from all of them. -/
theorem Keeps.write {value : Nat} (hlength : 0 < length)
    (h : ∀ a ∈ places, a < address ∨ address + length ≤ a) :
    Keeps places unread (write length address value) := by
  have hne : ∀ a ∈ places, a ≠ address := fun a ha => by have := h a ha; omega
  have hdata : (Bytes.le length value).length = length := Bytes.length_le length value
  rintro s status s' (_ | _)
  · refine ⟨fun a ha => ?_, fun a ha => ?_, fun _ _ => .rfl, fun _ _ => .rfl⟩
    · refine RegisterFile.store_apart ?_
      rw [hdata]
      exact h a ha
    · simp only [Chip.write]
      split
      · simp [hne a ha]
      · exact .rfl
  · refine ⟨fun _ _ => rfl, fun _ _ => .rfl, fun a ha => ?_, fun _ _ => .rfl⟩
    simp [Chip.lose, hne a ha]

theorem Keeps.maskedWrite {mask value : Nat} (hread : address ∉ unread) (hlength : 0 < length)
    (h : ∀ a ∈ places, a < address ∨ address + length ≤ a) :
    Keeps places unread (maskedWrite length address mask value) :=
  (Keeps.read hread).bind fun _ => .write hlength h

theorem Keeps.pollFor {mask expected : Nat} (h : address ∉ unread) (n : Nat) :
    Keeps places unread (pollFor length address mask expected n) := by
  induction n with
  | zero => exact .pure _
  | succ n ih =>
    refine (Keeps.read h).bind fun value => ?_
    split
    · exact .pure _
    · refine Keeps.bind ?_ fun present => ?_
      · rintro s present s' ⟨⟩
        exact .refl
      · split
        · exact ih
        · exact .pure _

end

/-! ## Who touches what -/

theorem powerAnalog_keeps : Keeps held held powerAnalog := by
  refine (Keeps.read (by decide)).bind fun reg10C2 => ?_
  refine (Keeps.write (by decide) (by decide)).bind fun _ => ?_
  refine (Keeps.write (by decide) (by decide)).bind fun _ => ?_
  iterate 5 refine (Keeps.maskedWrite (by decide) (by decide) (by decide)).bind fun _ => ?_
  refine (Keeps.read (by decide)).bind fun sysFuncEn => ?_
  refine (Keeps.write (by decide) (by decide)).bind fun _ => ?_
  refine (Keeps.maskedWrite (by decide) (by decide) (by decide)).bind fun _ => ?_
  refine (Keeps.read (by decide)).bind fun sysFuncEn => ?_
  exact (Keeps.write (by decide) (by decide)).bind fun _ => .pure ()

theorem activate_keeps : Keeps held held activate := by
  refine (Keeps.maskedWrite (by decide) (by decide) (by decide)).bind fun _ => ?_
  refine (Keeps.pollFor (by decide) 200).bind fun status => ?_
  split
  · exact .pure status
  · iterate 4 refine (Keeps.maskedWrite (by decide) (by decide) (by decide)).bind fun _ => ?_
    exact .pollFor (by decide) 200

theorem initPageAllocation_keeps : Keeps held held initPageAllocation := by
  iterate 12 refine (Keeps.write (by decide) (by decide)).bind fun _ => ?_
  exact .pure _

theorem initTransmission_keeps : Keeps held held initTransmission := by
  iterate 6 refine (Keeps.write (by decide) (by decide)).bind fun _ => ?_
  refine (Keeps.read (by decide)).bind fun _ => ?_
  iterate 6 refine (Keeps.write (by decide) (by decide)).bind fun _ => ?_
  refine (Keeps.read (by decide)).bind fun _ => ?_
  refine (Keeps.write (by decide) (by decide)).bind fun _ => ?_
  exact (Keeps.read (by decide)).bind fun _ => .pure ()

theorem initRates_keeps : Keeps held held initRates := by
  iterate 11 refine (Keeps.write (by decide) (by decide)).bind fun _ => ?_
  iterate 2 refine (Keeps.read (by decide)).bind fun _ => ?_
  iterate 3 refine (Keeps.write (by decide) (by decide)).bind fun _ => ?_
  exact .pure ()

theorem dumpRxState_keeps : Keeps held [] dumpRxState := by
  iterate 13 refine (Keeps.read (by decide)).bind fun _ => ?_
  exact .pure ()

theorem initQueuePriority_keeps : Keeps [kRegCR, kRegCR + 1] [] initQueuePriority := by
  refine (Keeps.read (by decide)).bind fun existing => ?_
  exact (Keeps.write (by decide) (by decide)).bind fun _ => .pure _

section

variable {α : Type} {Q : α → Chip → Prop} {s : Chip} {address : Nat}

/-- The word at an address. -/
def word (regs : RegisterFile) (address : Nat) : Nat := Bytes.leNat (regs.load address 2)

theorem word_write (s : Chip) (address value : Nat) :
    word (s.write address (Bytes.le 2 value)).regs address = value % 2 ^ 16 := by
  have hload := RegisterFile.load_store s.regs address (Bytes.le 2 value)
  rw [Bytes.length_le] at hload
  rw [word, Chip.write, hload, Bytes.leNat_le, show (256 : Nat) ^ 2 = 2 ^ 16 from rfl]

/-- A read of one of the two registers gives its word, or all ones. -/
theorem wp_read16 {f : Nat → DeviceIo α} (h₀ : address ∈ held) (h₁ : address + 1 ∈ held)
    (hread : wp ChipStep Q (f (word s.regs address)) (s.read address))
    (hmiss : wp ChipStep Q (f 0xFFFF) (s.miss address)) :
    wp ChipStep Q (read16 address >>= f) s := by
  refine wp_bind.mpr ?_
  rintro answer s' (⟨b, hb⟩ | _)
  · have hbytes : b.bytes = s.regs.load address 2 := by
      refine List.ext_getElem (b.length_eq.trans RegisterFile.length_load.symm) fun i hi hi' => ?_
      have hlt : i < 2 := b.length_eq ▸ hi
      have hat : b.bytes.at i = (s.regs.load address 2).at i := by
        rw [RegisterFile.at_load hlt]
        refine hb i hlt ?_
        obtain rfl | rfl : i = 0 ∨ i = 1 := by omega
        · exact h₀
        · exact h₁
      rwa [Bytes.at, Bytes.at, List.getD_eq_getElem _ _ hi, List.getD_eq_getElem _ _ hi'] at hat
    show wp ChipStep Q (f (Bytes.leNat b.bytes)) _
    rw [hbytes]
    exact hread
  · exact hmiss

theorem wp_write16 {value : Nat} {f : StatusCode → DeviceIo α}
    (hwrite : ∀ status, wp ChipStep Q (f status) (s.write address (Bytes.le 2 value)))
    (hlose : ∀ status, wp ChipStep Q (f status) (s.lose address)) :
    wp ChipStep Q (write16 address value >>= f) s := by
  refine wp_bind.mpr ?_
  rintro status s' (_ | _)
  · exact hwrite status
  · exact hlose status

end

/-! ## The MAC is held -/

/-- What of the two engines of the MAC is on. -/
def macBits (regs : RegisterFile) : Nat := word regs kRegCR &&& (kCR_MAC_TX_En ||| kCR_MAC_RX_En)

/-- At the end of a run that began with nothing guessed. An engine that is on was on before, unless the
command register was guessed; and if the chip has got every write to it, both are off exactly if it was
not. -/
structure MacHeld (regs : RegisterFile) (s : Chip) : Prop where
  kept : kRegCR ∉ s.guessed → macBits s.regs = macBits regs ∨ macBits s.regs = 0
  off : kRegCR ∉ s.lost → (macBits s.regs = 0 ↔ kRegCR ∉ s.guessed)

theorem macBits_congr {regs regs' : RegisterFile} (h : ∀ a ∈ [kRegCR, kRegCR + 1], regs' a = regs a) :
    macBits regs' = macBits regs := by
  have hload : regs'.load kRegCR 2 = regs.load kRegCR 2 := by
    refine RegisterFile.load_congr fun i hi => h _ ?_
    obtain rfl | rfl : i = 0 ∨ i = 1 := by omega
    · exact .head _
    · exact .tail _ (.head _)
  rw [macBits, macBits, word, word, hload]

theorem macBits_write (s : Chip) (value : Nat) :
    macBits (s.write kRegCR (Bytes.le 2 value)).regs = value &&& (kCR_MAC_TX_En ||| kCR_MAC_RX_En) := by
  rw [macBits, word_write, Fields.mod_and (by decide)]

/-- A read at the end makes no difference. -/
theorem MacHeld.readLast {regs : RegisterFile} {s : Chip} (h : MacHeld regs s) :
    wp ChipStep (fun _ s' => MacHeld regs s') (read16 kRegCR >>= fun _ => pure () : DeviceIo Unit) s :=
  wp_read16 (by decide) (by decide) ⟨h.kept, h.off⟩ ⟨h.kept, h.off⟩

/-- `REG_CR` after a first write that has reached it, or not. -/
structure Reset (regs : RegisterFile) (s : Chip) : Prop where
  bits : macBits s.regs = macBits regs ∨ macBits s.regs = 0
  off : kRegCR ∉ s.lost → macBits s.regs = 0
  guessed : kRegCR ∉ s.guessed

section

variable {regs : RegisterFile} {s : Chip}

theorem Reset.read (h : Reset regs s) : Reset regs (s.read kRegCR) := ⟨h.bits, h.off, h.guessed⟩

theorem Reset.miss (h : Reset regs s) : Reset regs (s.miss kRegCR) := ⟨h.bits, h.off, h.guessed⟩

theorem Reset.lose (h : Reset regs s) : MacHeld regs (s.lose kRegCR) :=
  ⟨fun _ => h.bits, fun hno => absurd (.head _) hno⟩

/-- The value was read. -/
theorem Reset.enable (h : Reset regs s) : MacHeld regs
    ((s.read kRegCR).write kRegCR (Bytes.le 2 (word s.regs kRegCR ||| dmaEngines))) := by
  have hbits : macBits ((s.read kRegCR).write kRegCR
      (Bytes.le 2 (word s.regs kRegCR ||| dmaEngines))).regs = macBits s.regs := by
    have hengines : dmaEngines &&& (kCR_MAC_TX_En ||| kCR_MAC_RX_En) = 0 := by decide
    rw [macBits_write, Nat.and_or_distrib_right, hengines, Nat.or_zero, macBits]
  have hguessed : kRegCR ∉ ((s.read kRegCR).write kRegCR
      (Bytes.le 2 (word s.regs kRegCR ||| dmaEngines))).guessed := by
    simp [Chip.write, Chip.read, h.guessed]
  refine ⟨fun _ => ?_, fun hno => iff_of_true (hbits.trans (h.off hno)) hguessed⟩
  rw [hbits]
  exact h.bits

/-- The value was guessed. -/
theorem Reset.guess : MacHeld regs
    ((s.miss kRegCR).write kRegCR (Bytes.le 2 (0xFFFF ||| dmaEngines))) := by
  have hbits : macBits ((s.miss kRegCR).write kRegCR (Bytes.le 2 (0xFFFF ||| dmaEngines))).regs =
      kCR_MAC_TX_En ||| kCR_MAC_RX_En := by
    rw [macBits_write]
    rfl
  have hguessed : kRegCR ∈ ((s.miss kRegCR).write kRegCR
      (Bytes.le 2 (0xFFFF ||| dmaEngines))).guessed := by
    simp [Chip.write, Chip.miss]
  refine ⟨fun hno => absurd hguessed hno, fun _ => iff_of_false ?_ (not_not.mpr hguessed)⟩
  rw [hbits]
  decide

theorem enableDmaEngines_spec (hblind : kRegCR ∉ s.blind) (hguessed : kRegCR ∉ s.guessed)
    (hbits : macBits s.regs = macBits regs) :
    wp ChipStep (fun _ s' => MacHeld regs s') enableDmaEngines s := by
  have hrest : ∀ s', Reset regs s' → wp ChipStep (fun _ s' => MacHeld regs s') (do
      let crValue ← read16 kRegCR
      let _ ← write16 kRegCR (crValue ||| dmaEngines)
      let _ ← read16 kRegCR
      pure () : DeviceIo Unit) s' := by
    intro s' h
    refine wp_read16 (by decide) (by decide) ?_ ?_
    · exact wp_write16 (fun _ => h.enable.readLast) fun _ => h.read.lose.readLast
    · exact wp_write16 (fun _ => Reset.guess.readLast) fun _ => h.miss.lose.readLast
  refine wp_write16 (fun _ => hrest _ ?_) fun _ => hrest _ ?_
  · have hzero : macBits (s.write kRegCR (Bytes.le 2 0)).regs = 0 := by
      rw [macBits_write]
      rfl
    refine ⟨.inr hzero, fun _ => hzero, ?_⟩
    simp [Chip.write, hblind, hguessed]
  · exact ⟨.inl hbits, fun hno => absurd (.head _) hno, hguessed⟩

end

theorem initMAC_keeps : Keeps [kRegCR, kRegCR + 1] [] initMAC := by
  have hall : ∀ {α : Type} {p : DeviceIo α}, Keeps held held p → Keeps [kRegCR, kRegCR + 1] [] p :=
    fun h => h.mono (by decide) (by decide)
  refine (Keeps.read (by decide)).bind fun _ => ?_
  refine (hall initPageAllocation_keeps).bind fun status => ?_
  split
  · exact .pure _
  · refine initQueuePriority_keeps.bind fun status => ?_
    split
    · exact .pure _
    · refine (hall initTransmission_keeps).bind fun _ => (hall initRates_keeps).bind fun _ => ?_
      refine (Keeps.write (by decide) (by decide)).bind fun _ => ?_
      iterate 2 refine (Keeps.read (by decide)).bind fun _ => ?_
      refine (Keeps.pure _).bind fun status => ?_
      split
      · exact .pure _
      · exact .pure _

/-- Until the firmware is loaded, the MAC neither sends nor receives, unless `REG_CR` was written from
a read that failed; then it does both. -/
theorem mac_held (regs : RegisterFile) :
    wp ChipStep (fun status s => status = .ok → MacHeld regs s)
      (do
        let status ← powerOnSequence
        if status ≠ .ok then pure status else initMAC) (.start regs) := by
  refine wp_seq (P := fun status s => status = .ok → MacHeld regs s) ?_ fun status s hstatus => ?_
  · refine wp_seq (powerAnalog_keeps _) fun _ s₁ h₁ => wp_seq (activate_keeps _) fun status s₂ h₂ => ?_
    split
    · rename_i hfailed
      exact fun hok => absurd hok hfailed
    · have h := h₁.trans h₂
      have hcr : kRegCR ∈ held := .head _
      have hbits : macBits s₂.regs = macBits regs := by
        refine macBits_congr fun a ha => h.regs a ?_
        revert a
        decide
      refine wp_seq (enableDmaEngines_spec ?_ ?_ hbits) fun _ s₃ h₃ _ => h₃
      · rw [h.blind _ hcr]
        exact List.not_mem_nil
      · rw [h.guessed _ hcr]
        exact List.not_mem_nil
  · split
    · rename_i hfailed
      exact fun hok => absurd hok hfailed
    · rename_i hok
      have hheld := hstatus (not_not.mp hok)
      refine wp_mono (initMAC_keeps s) fun _ s' h _ => ?_
      have hcr : kRegCR ∈ [kRegCR, kRegCR + 1] := .head _
      have hbits : macBits s'.regs = macBits s.regs := macBits_congr h.regs
      refine ⟨?_, ?_⟩
      · rw [hbits, h.guessed _ hcr]
        exact hheld.kept
      · rw [hbits, h.guessed _ hcr, h.lost _ hcr]
        exact hheld.off

/-! ## The queues are mapped -/

/-- Where `REG_TRXDMA_CTRL` has the priority of a queue. Beacons go with the management frames; the
queue of the commands is above the word that is written. -/
def prioShift : TxPath.TxQueueSelect → Option Nat
  | .kTxQueueVO => some kTxDmaVOQShift
  | .kTxQueueVI => some kTxDmaVIQShift
  | .kTxQueueBE => some kTxDmaBEQShift
  | .kTxQueueBK => some kTxDmaBKQShift
  | .kTxQueueBCN | .kTxQueueMGT => some kTxDmaMGQShift
  | .kTxQueueHIGH => some kTxDmaHIQShift
  | .kTxQueueCMD => none

/-- The priority of the endpoint behind a pipe. -/
def pipePriority : TxPath.Pipe → Nat
  | 0 => kQueueHigh
  | 1 => kQueueNormal
  | 2 => kQueueLow

def queuePriority (value shift : Nat) : Nat := Fields.extract (kTxDmaQMask <<< shift) shift value

/-- The chip takes a queue from the endpoint to which the driver sends it. Nothing is said of the queue
of the commands, which has no field in the word. -/
def Mapped (regs : RegisterFile) : Prop :=
  ∀ queue ≠ .kTxQueueCMD, ∃ shift, prioShift queue = some shift ∧
    queuePriority (word regs kRegTrxDmaCfg) shift = pipePriority (TxPath.queueToPipeIndex queue)

theorem prioShift_isSome {queue : TxPath.TxQueueSelect} (h : queue ≠ .kTxQueueCMD) :
    ∃ shift, prioShift queue = some shift := by
  cases queue with
  | kTxQueueCMD => exact absurd rfl h
  | _ => exact ⟨_, rfl⟩

theorem Mapped.priority {regs : RegisterFile} {queue : TxPath.TxQueueSelect} {shift : Nat}
    (h : Mapped regs) (hshift : shift ∈ prioShift queue) :
    queuePriority (word regs kRegTrxDmaCfg) shift = pipePriority (TxPath.queueToPipeIndex queue) := by
  have hqueue : queue ≠ .kTxQueueCMD := by
    rintro rfl
    cases hshift
  obtain ⟨shift', hshift', hpriority⟩ := h queue hqueue
  rw [hshift'] at hshift
  cases hshift
  exact hpriority

theorem prioShift_fits {queue : TxPath.TxQueueSelect} {shift : Nat} (h : shift ∈ prioShift queue) :
    kTxDmaQMask <<< shift < 2 ^ 16 ∧ 0x07 &&& kTxDmaQMask <<< shift = 0 ∧
      queuePriority priorityMap shift = pipePriority (TxPath.queueToPipeIndex queue) := by
  cases queue <;> cases h <;> decide

/-- Bits below the fields do not show. -/
theorem queuePriority_or {queue : TxPath.TxQueueSelect} {shift low : Nat}
    (h : shift ∈ prioShift queue) (hlow : low &&& 0x07 = low) (value : Nat) :
    queuePriority (value ||| low) shift = queuePriority value shift := by
  have hzero : Fields.extract (kTxDmaQMask <<< shift) shift low = 0 := by
    rw [Fields.extract, ← hlow, Nat.and_assoc, (prioShift_fits h).2.1, Nat.and_zero, Nat.zero_shiftRight]
  rw [queuePriority, Fields.extract_or, hzero, Nat.or_zero, queuePriority]

theorem mapped_write {s : Chip} {value : Nat} (h : ∀ queue, ∀ shift ∈ prioShift queue,
    queuePriority value shift = pipePriority (TxPath.queueToPipeIndex queue)) :
    Mapped (s.write kRegTrxDmaCfg (Bytes.le 2 value)).regs := by
  intro queue hqueue
  obtain ⟨shift, hshift⟩ := prioShift_isSome hqueue
  refine ⟨shift, hshift, ?_⟩
  rw [word_write, queuePriority, Fields.extract_mod (prioShift_fits hshift).1]
  exact h queue shift hshift

theorem Mapped.congr {regs regs' : RegisterFile} (h : Mapped regs)
    (hregs : ∀ a ∈ held, regs' a = regs a) : Mapped regs' := by
  have hload : regs'.load kRegTrxDmaCfg 2 = regs.load kRegTrxDmaCfg 2 := by
    refine RegisterFile.load_congr fun i hi => hregs _ ?_
    obtain rfl | rfl : i = 0 ∨ i = 1 := by omega
    · decide
    · decide
  intro queue hqueue
  rw [word, hload]
  exact h queue hqueue

/-- What `_InitQueuePriority` writes, whatever it has read. -/
theorem mapped_priority (s : Chip) (existing : Nat) :
    Mapped (s.write kRegTrxDmaCfg
      (Bytes.le 2 (existing &&& 0x07 ||| priorityMap ||| kTxDmaPriorityBit2))).regs := by
  refine mapped_write fun queue shift hshift => ?_
  have hlow : existing &&& 0x07 &&& 0x07 = existing &&& 0x07 := by
    rw [Nat.and_assoc, Nat.and_self]
  rw [queuePriority_or hshift (by decide), Nat.or_comm, queuePriority_or hshift hlow]
  exact (prioShift_fits hshift).2.2

theorem initQueuePriority_spec (s : Chip) :
    wp ChipStep (fun status s' => status = .ok ∧ (kRegTrxDmaCfg ∉ s'.lost → Mapped s'.regs))
      initQueuePriority s := by
  refine wp_read16 (by decide) (by decide) ?_ ?_
  · exact wp_write16 (fun _ => ⟨rfl, fun _ => mapped_priority _ _⟩)
      fun _ => ⟨rfl, fun hno => absurd (.head _) hno⟩
  · exact wp_write16 (fun _ => ⟨rfl, fun _ => mapped_priority _ _⟩)
      fun _ => ⟨rfl, fun hno => absurd (.head _) hno⟩

theorem initPageAllocation_ok {s : Chip} :
    wp ChipStep (fun status _ => status = .ok) initPageAllocation s := by
  iterate 12 refine wp_then fun _ _ => ?_
  rfl

theorem initMAC_maps (s : Chip) :
    wp ChipStep (fun status s' => status = .ok ∧ (kRegTrxDmaCfg ∉ s'.lost → Mapped s'.regs))
      initMAC s := by
  have hdma : kRegTrxDmaCfg ∈ held := by decide
  refine wp_seq (wp_true (p := read16 kRegCR)) fun _ s₁ _ => ?_
  refine wp_seq initPageAllocation_ok fun status s₂ hstatus => ?_
  rw [if_neg (not_not.mpr hstatus)]
  refine wp_seq (initQueuePriority_spec s₂) ?_
  rintro status s₃ ⟨hstatus, hmapped⟩
  rw [if_neg (not_not.mpr hstatus)]
  have hfilter : Keeps held held (write32 kRegRCR rxFilter) := .write (by decide) (by decide)
  have hdrop : Keeps held held (read16 kRegDropPktNum) := .read (by decide)
  have hreport : Keeps held held (read16 kRegPtclTxRpt) := .read (by decide)
  refine wp_seq (initTransmission_keeps s₃) fun _ s₄ h₄ => wp_seq (initRates_keeps s₄) fun _ s₅ h₅ => ?_
  refine wp_seq (hfilter s₅) fun _ s₆ h₆ => wp_seq (hdrop s₆) fun _ s₇ h₇ => ?_
  refine wp_seq (hreport s₇) fun _ s₈ h₈ => ⟨rfl, fun hlost => ?_⟩
  have h := h₄.trans (h₅.trans (h₆.trans (h₇.trans h₈)))
  exact (hmapped fun hlost₃ => hlost ((h.lost _ hdma).mpr hlost₃)).congr h.regs

theorem openFilters_keeps : Keeps held [] openFilters := by
  iterate 3 refine (Keeps.read (by decide)).bind fun _ => ?_
  iterate 4 refine (Keeps.write (by decide) (by decide)).bind fun _ => ?_
  iterate 5 refine (Keeps.read (by decide)).bind fun _ => ?_
  exact dumpRxState_keeps

/-- The register was read: the fields stay. -/
theorem Mapped.enable {s : Chip} (h : Mapped s.regs) :
    Mapped ((s.read kRegTrxDmaCfg).write kRegTrxDmaCfg
      (Bytes.le 2 (word s.regs kRegTrxDmaCfg ||| kTrxDmaCtrlRxDmaAggEn))).regs := by
  refine mapped_write fun queue shift hshift => ?_
  rw [queuePriority_or hshift (by decide)]
  exact h.priority hshift

/-- It was guessed: every queue gets the priority of the first pipe. -/
theorem not_mapped_guess (s : Chip) :
    ¬ Mapped (s.write kRegTrxDmaCfg (Bytes.le 2 (0xFFFF ||| kTrxDmaCtrlRxDmaAggEn))).regs := by
  intro h
  have hshift : kTxDmaVIQShift ∈ prioShift .kTxQueueVI := rfl
  have hvi := h.priority hshift
  rw [word_write] at hvi
  exact absurd hvi (by decide)

theorem initRxAggregation_spec (s : Chip) (hguessed : kRegTrxDmaCfg ∉ s.guessed) (h : Mapped s.regs) :
    wp ChipStep (fun status s' => status = .ok ∧ (Mapped s'.regs ↔ kRegTrxDmaCfg ∉ s'.guessed))
      initRxAggregation s := by
  have hdma : kRegTrxDmaCfg ∈ held := by decide
  have hthreshold : Keeps held held (write16 kRegRxDmaAggPgTh kRxDmaAggUsb2Value) :=
    .write (by decide) (by decide)
  have hread : Keeps held held (read8 kRegRxDmaPro) := .read (by decide)
  have hburst : ∀ value, Keeps held held (write8 kRegRxDmaPro value) :=
    fun value => .write (by decide) (by decide)
  -- Behind the write, whatever it has done.
  have hrest : ∀ s₄, (Mapped s₄.regs ↔ kRegTrxDmaCfg ∉ s₄.guessed) →
      wp ChipStep (fun status s' => status = .ok ∧ (Mapped s'.regs ↔ kRegTrxDmaCfg ∉ s'.guessed))
        (openFilters >>= fun _ => pure .ok : DeviceIo StatusCode) s₄ := by
    intro s₄ hiff
    refine wp_seq (openFilters_keeps s₄) fun _ s' hs' => ⟨rfl, ?_⟩
    have hsame : Mapped s'.regs ↔ Mapped s₄.regs :=
      ⟨fun hm => hm.congr fun a ha => (hs'.regs a ha).symm, fun hm => hm.congr hs'.regs⟩
    rw [hsame, hiff, hs'.guessed _ hdma]
  refine wp_seq (hthreshold s) fun _ s₁ h₁ => wp_seq (hread s₁) fun dmaPro s₂ h₂ => ?_
  refine wp_seq (hburst _ s₂) fun _ s₃ h₃ => ?_
  have hsame := h₁.trans (h₂.trans h₃)
  have hmapped : Mapped s₃.regs := h.congr hsame.regs
  have hno : kRegTrxDmaCfg ∉ s₃.guessed := by rwa [hsame.guessed _ hdma]
  refine wp_read16 (by decide) (by decide) ?_ ?_
  · refine wp_write16 (fun _ => hrest _ (iff_of_true hmapped.enable ?_))
      fun _ => hrest _ (iff_of_true hmapped hno)
    simp [Chip.write, Chip.read, hno]
  · refine wp_write16 (fun _ => hrest _ (iff_of_false (not_mapped_guess _) ?_))
      fun _ => hrest _ (iff_of_true hmapped hno)
    simp [Chip.write, Chip.miss]

/-- `_InitMAC` sets the queues up, if its write arrives. From any registers that have them set up,
`_InitRxAggregation` keeps them so exactly if it does not write the register from a read that failed. -/
theorem queues_mapped :
    (∀ regs, wp ChipStep
      (fun status s => status = .ok ∧ (kRegTrxDmaCfg ∉ s.lost → Mapped s.regs)) initMAC (.start regs)) ∧
    ∀ regs, Mapped regs → wp ChipStep
      (fun status s => status = .ok ∧ (Mapped s.regs ↔ kRegTrxDmaCfg ∉ s.guessed))
      initRxAggregation (.start regs) := by
  constructor
  · exact fun regs => initMAC_maps (.start regs)
  · exact fun regs h => initRxAggregation_spec (.start regs) List.not_mem_nil h

/-! ## The address of the station -/

def kEfuseMacAddr : Nat := 0x0D8

def allBytes (b : Bytes) (value : UInt8) : Bool := (List.range 6).all fun i => b.at i = value

def isMulticast (b : Bytes) : Bool := b.at 0 &&& 0x01 ≠ 0

/-- `now` are the three readings of the clock, which the address is made from where the EFUSE has
none. -/
def readMacAddress (reader : EfuseReader.Reader) (now : Nat → UInt64) : Except StatusCode (Buf 6) :=
  if reader.fMapValid then
    let fMacAddress := (Buf.zero 6).copyAt 0 (reader.fMap.bytes.slice kEfuseMacAddr 6)
    let b := fMacAddress.bytes
    if allBytes b 0x00 || allBytes b 0xFF || isMulticast b then
      .ok (((((fMacAddress.set 0 0x02).set 1 0x81).set 2 0x4A).set 3 (now 0).toUInt8).set 4
        (now 1 >>> 8).toUInt8 |>.set 5 (now 2 >>> 16).toUInt8)
    else .ok fMacAddress
  else .error .noInit

def writeAddressBytes (fMacAddress : Buf 6) : (is : List Nat) → DeviceIo StatusCode
  | [] => pure .ok
  | i :: is => do
    let status ← write8 (kRegMAC_ADDR + i) (fMacAddress.bytes.at i).toNat
    if status ≠ .ok then pure status else writeAddressBytes fMacAddress is

def writeMacAddress (fMacAddress : Buf 6) : DeviceIo StatusCode :=
  writeAddressBytes fMacAddress (List.range 6)

/-- The address of one station, not of a group and not none at all. -/
structure Individual (b : Bytes) : Prop where
  unicast : isMulticast b = false
  nonzero : allBytes b 0x00 = false

theorem individual_iff {b : Bytes} :
    Individual b ↔ (allBytes b 0x00 || allBytes b 0xFF || isMulticast b) = false := by
  constructor
  · intro h
    have hones : allBytes b 0xFF = false := by
      by_contra hall
      have hfirst : b.at 0 = 0xFF := by
        have := List.all_eq_true.mp (Bool.eq_true_of_not_eq_false hall) 0 (by decide)
        exact of_decide_eq_true this
      have hgroup := h.unicast
      rw [isMulticast, hfirst] at hgroup
      exact absurd hgroup (by decide)
    rw [h.nonzero, hones, h.unicast]
    rfl
  · intro h
    simp only [Bool.or_eq_false_iff] at h
    exact ⟨h.2, h.1.1⟩

/-- The bytes of an address in the registers. -/
def addressOf (regs : RegisterFile) : Bytes := regs.load kRegMAC_ADDR 6

/-- Only the registers of these bytes change, and if it ends well, they have the bytes. -/
theorem writeAddressBytes_spec (fMacAddress : Buf 6) {is : List Nat} (hnodup : is.Nodup) (s : Chip) :
    wp ChipStep (fun status s' =>
      (∀ a, (∀ i ∈ is, a ≠ kRegMAC_ADDR + i) → s'.regs a = s.regs a) ∧
        (status = .ok → ∀ i ∈ is, s'.regs (kRegMAC_ADDR + i) = fMacAddress.bytes.at i))
      (writeAddressBytes fMacAddress is) s := by
  induction is generalizing s with
  | nil => exact ⟨fun _ _ => rfl, fun _ => nofun⟩
  | cons k is ih =>
    obtain ⟨hk, hnodup⟩ := List.nodup_cons.mp hnodup
    have hwrite : wp ChipStep (fun status s₁ =>
        (∀ a, a ≠ kRegMAC_ADDR + k → s₁.regs a = s.regs a) ∧
          (status = .ok → s₁.regs (kRegMAC_ADDR + k) = fMacAddress.bytes.at k))
        (write8 (kRegMAC_ADDR + k) (fMacAddress.bytes.at k).toNat : DeviceIo StatusCode) s := by
      have hbyte : Bytes.le 1 (fMacAddress.bytes.at k).toNat = [fMacAddress.bytes.at k] := by
        simp [Bytes.le, Bytes.be]
      intro status s₁ hstep
      cases hstep with
      | write =>
        refine ⟨fun a ha => RegisterFile.store_apart ?_, fun _ => ?_⟩
        · rw [Bytes.length_le]
          omega
        · show s.regs.store (kRegMAC_ADDR + k) (Bytes.le 1 _) (kRegMAC_ADDR + k + 0) = _
          rw [RegisterFile.store_at (by rw [Bytes.length_le]; exact Nat.one_pos), hbyte]
          rfl
      | lose hstatus => exact ⟨fun _ _ => rfl, fun hok => absurd hok hstatus⟩
    refine wp_seq hwrite ?_
    rintro status s₁ ⟨hframe, hdone⟩
    split
    · rename_i hfailed
      exact ⟨fun a ha => hframe a (ha k (.head _)), fun hok => absurd hok hfailed⟩
    · rename_i hok
      refine wp_mono (ih hnodup s₁) fun status' s' hs' => ⟨fun a ha => ?_, fun hok' j hj => ?_⟩
      · exact (hs'.1 a fun j hj => ha j (.tail _ hj)).trans (hframe a (ha k (.head _)))
      · rcases List.mem_cons.mp hj with rfl | hj
        · have hnew : ∀ i ∈ is, kRegMAC_ADDR + j ≠ kRegMAC_ADDR + i := by
            intro i hi heq
            exact hk (Nat.add_left_cancel heq ▸ hi)
          rw [hs'.1 _ hnew]
          exact hdone (not_not.mp hok)
        · exact hs'.2 hok' j hj

theorem writeMacAddress_spec (fMacAddress : Buf 6) (s : Chip) :
    wp ChipStep (fun status s' => status = .ok → addressOf s'.regs = fMacAddress.bytes)
      (writeMacAddress fMacAddress) s := by
  refine wp_mono (writeAddressBytes_spec fMacAddress List.nodup_range s) fun status s' h hok => ?_
  refine List.ext_getElem (RegisterFile.length_load.trans fMacAddress.length_eq.symm) fun i hi hi' => ?_
  have hlt : i < 6 := fMacAddress.length_eq ▸ hi'
  have hat : (addressOf s'.regs).at i = fMacAddress.bytes.at i := by
    rw [addressOf, RegisterFile.at_load hlt]
    exact h.2 hok i (List.mem_range.mpr hlt)
  rwa [Bytes.at, Bytes.at, List.getD_eq_getElem _ _ hi, List.getD_eq_getElem _ _ hi'] at hat

/-- The address in the EFUSE, if it has one. -/
def efuseAddress (reader : EfuseReader.Reader) : Bytes := reader.fMap.bytes.slice kEfuseMacAddr 6

theorem length_efuseAddress (reader : EfuseReader.Reader) : (efuseAddress reader).length = 6 := by
  rw [efuseAddress, Bytes.slice, List.length_take, List.length_drop, reader.fMap.length_eq]
  rfl

theorem copyAt_efuseAddress (reader : EfuseReader.Reader) :
    ((Buf.zero 6).copyAt 0 (efuseAddress reader)).bytes = efuseAddress reader := by
  have hlength := length_efuseAddress reader
  rw [Buf.bytes_copyAt _ (by rw [hlength]), List.take_zero, List.nil_append, hlength,
    List.drop_eq_nil_of_le (by rw [Buf.length_eq]), List.append_nil]

/-- An address that the driver makes up. -/
theorem individual_made (b : Buf 6) (x y z : UInt8) : Individual
    ((((((b.set 0 0x02).set 1 0x81).set 2 0x4A).set 3 x).set 4 y).set 5 z).bytes := by
  have hfirst : ((((((b.set 0 0x02).set 1 0x81).set 2 0x4A).set 3 x).set 4 y).set 5 z).bytes.at 0 =
      0x02 := by
    simp [Buf.at_set]
  refine ⟨?_, ?_⟩
  · rw [isMulticast, hfirst]
    rfl
  · refine List.all_eq_false.mpr ⟨0, by decide, ?_⟩
    rw [hfirst]
    decide

/-- The address is that of the EFUSE if that one is the address of a station, and otherwise another one
that is. Once it is written without an error, the chip has it. -/
theorem address_written (reader : EfuseReader.Reader) (now : Nat → UInt64) (regs : RegisterFile) :
    match readMacAddress reader now with
    | .error status => status = .noInit ∧ reader.fMapValid = false
    | .ok fMacAddress =>
      Individual fMacAddress.bytes ∧
        (Individual (efuseAddress reader) → fMacAddress.bytes = efuseAddress reader) ∧
        wp ChipStep (fun status s => status = .ok → addressOf s.regs = fMacAddress.bytes)
          (writeMacAddress fMacAddress) (.start regs) := by
  unfold readMacAddress
  cases hvalid : reader.fMapValid with
  | false => exact ⟨rfl, rfl⟩
  | true =>
    rw [if_pos rfl]
    have hcopy := copyAt_efuseAddress reader
    rw [efuseAddress] at hcopy
    simp only [hcopy]
    cases hbad : allBytes (efuseAddress reader) 0x00 || allBytes (efuseAddress reader) 0xFF ||
        isMulticast (efuseAddress reader) with
    | true =>
      rw [efuseAddress] at hbad
      rw [if_pos hbad]
      refine ⟨individual_made _ _ _ _, fun h => ?_, writeMacAddress_spec _ _⟩
      rw [individual_iff, efuseAddress, hbad] at h
      cases h
    | false =>
      have h := individual_iff.mpr hbad
      rw [efuseAddress] at hbad
      rw [if_neg (by rw [hbad]; exact Bool.false_ne_true)]
      refine ⟨?_, fun _ => hcopy, writeMacAddress_spec _ _⟩
      show Individual ((Buf.zero 6).copyAt 0 (efuseAddress reader)).bytes
      rwa [copyAt_efuseAddress]

end MacInit
end Rtl8814au
