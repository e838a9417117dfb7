import Rtl8814au.PhyConfig.GainTables
import Rtl8814au.PhyConfig.Power

/-!
# PhyConfig.Channel

`SetChannel`, with the band switch, the synthesizers and the bandwidth.

* `switchBand`, `setBandwidth`, `readRF`, `writeRF` — over the register accesses.
* `setChannel` — the sequence. The accesses that set up a band, and the writes that decide whether the
  channel counts as set, are marked as such.
-/

namespace Rtl8814au
namespace PhyConfig

open Dialogue EfuseReader RegisterIO

def kRegBBOfdmCckEn : Nat := 0x0808
def kBBOfdmCckEnCck : Nat := 0x10000000
def kBBOfdmCckEnOfdm : Nat := 0x20000000
def kRegBBTxPath : Nat := 0x080C
def kBBTxPath2_4GHzBit : Nat := 1 <<< 5
def kRegBBCckCheck : Nat := 0x0454
def kBBCckCheck5GHz : Nat := 0x80
def kRegBBFcArea : Nat := 0x0860
def kBBFcAreaMask : Nat := 0x1FFE0000
def kRegBBAgcTableSelect : Nat := 0x0958
def kBBAgcTableSelectMask : Nat := 0x0000001F
def kRegBBCckTxOnly : Nat := 0x0A80
def kBBCckTxOnly5GHz : Nat := 0x00040000
def kRegBBRfePinmux0 : Nat := 0x0CB0
def kRegBBRfePinmuxPathB : Nat := 0x0EB0
def kRegBBRfePinmuxPathC : Nat := 0x18B4
def kRegBBRfePinmuxPathD : Nat := 0x1AB4
def kRegBBRfePinmuxCoex : Nat := 0x1ABC
def kBBRfePinmuxCoexMask : Nat := 0x0FF00000

def kRegBBBwCtrl : Nat := 0x08AC
def kRegBBSubChan : Nat := 0x0668
def kRegBBAdcClk : Nat := 0x08C4
def kRegBBDacClk : Nat := 0x08C8

def kBBRegPathBase : Fin kRfPathCount → Nat := ![0x2800, 0x2C00, 0x3800, 0x3C00]
def kRfLssiWriteReg : Fin kRfPathCount → Nat := ![0x0C90, 0x0E90, 0x1890, 0x1A90]
def kRfDataMask : Nat := 0x000FFFFF
def kRfAddressShift : Nat := 20
def kRfCommandMask : Nat := 0x0FFFFFFF

def kRfRegChannelStandalone : Nat := 0x18
def kRfRegLNA : Nat := 0xDF
def kRfChannelBandMask : Nat := 0x000703FF
def kRfModAg2_4GHz : Nat := 0x00000000
def kRfModAgBand1 : Nat := 0x00010100
def kRfModAgBand3 : Nat := 0x00030100
def kRfModAgBand4 : Nat := 0x00050100

def kEfuseRfeType : Nat := 0x0CA
def kEfuseRfeTypeMask : UInt8 := 0x7F

/-! ## Channels -/

def bandForChannel (channel : UInt8) : ChannelBand :=
  if channel ≤ 14 then .kBand2_4GHz else .kBand5GHz

def fcAreaForChannel (channel : UInt8) : Nat :=
  if 36 ≤ channel ∧ channel ≤ 48 then 0x494 <<< 17
  else if 50 ≤ channel ∧ channel ≤ 64 then 0x453 <<< 17
  else if 100 ≤ channel ∧ channel ≤ 116 then 0x452 <<< 17
  else if 118 ≤ channel then 0x412 <<< 17
  else 0x96a <<< 17

def rfModAgForChannel (channel : UInt8) : Nat :=
  if 36 ≤ channel ∧ channel ≤ 64 then kRfModAgBand1
  else if 100 ≤ channel ∧ channel ≤ 140 then kRfModAgBand3
  else if 140 < channel then kRfModAgBand4
  else kRfModAg2_4GHz

def agcTableForChannel (channel : UInt8) : Nat :=
  if 36 ≤ channel ∧ channel ≤ 64 then 1
  else if 100 ≤ channel ∧ channel ≤ 144 then 2
  else if 149 ≤ channel then 3
  else 0

/-- The part of RF register 0x18 that is `channelValue`, ahead of its mask. -/
def channelBits (channel : UInt8) : Nat := channel.toNat ||| rfModAgForChannel channel

/-! ## The front end -/

structure RfePinmuxClass where
  rfeType : UInt8
  value2_4GHz : Nat
  value2_4GHzPathD : Nat
  value5GHz : Nat
  value5GHzPathD : Nat
  coex2_4GHz : Nat
  coex5GHz : Nat

/-- The class of all boards that have none of their own. -/
def defaultPinmuxClass : RfePinmuxClass :=
  ⟨0, 0x77777777, 0x77777777, 0x54775477, 0x54775477, 0x07700000, 0x05400000⟩

def kRfePinmuxClasses : List RfePinmuxClass :=
  [⟨1, 0x77777777, 0x77777777, 0x33173317, 0x77177717, 0x07700000, 0x03300000⟩,
    ⟨2, 0x72707270, 0x77707770, 0x37173717, 0x77177717, 0x07200000, 0x03700000⟩,
    defaultPinmuxClass]

/-- `RfeType`, of the reader. -/
def rfeTypeOf (reader : Reader) : UInt8 :=
  if reader.fMapValid then reader.fMap.bytes.at kEfuseRfeType &&& kEfuseRfeTypeMask else 0

def selectedClass (rfeType : UInt8) : RfePinmuxClass :=
  (kRfePinmuxClasses.find? fun c => c.rfeType = rfeType).getD defaultPinmuxClass

def pinmux (rfeType : UInt8) (band : ChannelBand) : Nat :=
  if band = .kBand5GHz then (selectedClass rfeType).value5GHz else (selectedClass rfeType).value2_4GHz

def pinmuxPathD (rfeType : UInt8) (band : ChannelBand) : Nat :=
  if band = .kBand5GHz then (selectedClass rfeType).value5GHzPathD
  else (selectedClass rfeType).value2_4GHzPathD

def pinmuxCoex (rfeType : UInt8) (band : ChannelBand) : Nat :=
  if band = .kBand5GHz then (selectedClass rfeType).coex5GHz else (selectedClass rfeType).coex2_4GHz

/-! ## RF registers -/

def writeRF (path : Fin kRfPathCount) (rfRegister value : Nat) : PhyIo StatusCode :=
  write32 (kRfLssiWriteReg path)
    (((rfRegister <<< kRfAddressShift) ||| (value &&& kRfDataMask)) &&& kRfCommandMask)

def readRF (path : Fin kRfPathCount) (rfRegister : Nat) : PhyIo Nat := do
  let value ← read32 (kBBRegPathBase path + rfRegister * 4)
  pure (value &&& kRfDataMask)

/-! ## Parts of a switch -/

/-- What the accesses of a part are for. -/
inductive Phase
  | bandSetup
  | tuning -- The writes whose status `SetChannel` looks at.
  | other
deriving DecidableEq

abbrev SwitchIo (α : Type) : Type :=
  Dialogue (Phase × Access Empty) (fun i => Access.Answer (fun _ : Empty => Unit) i.2) α

def forPaths {α : Type} (step : Fin kRfPathCount → PhyIo α) : List (Fin kRfPathCount) → PhyIo Unit
  | [] => pure ()
  | path :: rest => do
    let _ ← step path
    forPaths step rest

/-- Stops at the first write that fails. -/
def applyBBTable : List PhyRegEntry → PhyIo StatusCode
  | [] => pure .ok
  | entry :: rest => do
    let status ← write32 entry.address entry.value
    if status ≠ StatusCode.ok then pure status else applyBBTable rest

def setRfePinmux (rfeType : UInt8) (band : ChannelBand) : PhyIo Unit := do
  let _ ← write32 kRegBBRfePinmux0 (pinmux rfeType band)
  let _ ← write32 kRegBBRfePinmuxPathB (pinmux rfeType band)
  let _ ← write32 kRegBBRfePinmuxPathC (pinmux rfeType band)
  let _ ← write32 kRegBBRfePinmuxPathD (pinmuxPathD rfeType band)
  let _ ← maskedWrite32 kRegBBRfePinmuxCoex kBBRfePinmuxCoexMask (pinmuxCoex rfeType band)
  pure ()

def setDemodulators (band : ChannelBand) : PhyIo Unit := do
  if band = .kBand5GHz then
    let _ ← write8 kRegBBCckCheck kBBCckCheck5GHz
    let _ ← maskedWrite32 kRegBBCckTxOnly kBBCckTxOnly5GHz kBBCckTxOnly5GHz
    let _ ← maskedWrite32 kRegBBOfdmCckEn (kBBOfdmCckEnOfdm ||| kBBOfdmCckEnCck) kBBOfdmCckEnOfdm
    pure ()
  else
    let _ ← maskedWrite32 kRegBBAgcTableSelect kBBAgcTableSelectMask 0
    let _ ← maskedWrite32 kRegBBOfdmCckEn (kBBOfdmCckEnOfdm ||| kBBOfdmCckEnCck)
      (kBBOfdmCckEnOfdm ||| kBBOfdmCckEnCck)
    let _ ← write8 kRegBBCckCheck 0
    let _ ← maskedWrite32 kRegBBCckTxOnly kBBCckTxOnly5GHz 0
    pure ()

def lnaValue (band : ChannelBand) : Nat := if band = .kBand5GHz then 0x00001 else 0x00000

def gainTable (band : ChannelBand) : List PhyRegEntry :=
  if band = .kBand5GHz then kAGCTable5G else kAGCTable2G

def switchBand (rfeType : UInt8) (band : ChannelBand) : SwitchIo StatusCode := do
  tag .bandSetup (setRfePinmux rfeType band)
  tag .bandSetup (setDemodulators band)
  tag .bandSetup (forPaths (fun path => writeRF path kRfRegLNA (lnaValue band))
    (List.finRange kRfPathCount))
  let _ ← tag .other (applyBBTable (gainTable band))
  let _ ← tag .bandSetup (maskedWrite32 kRegBBTxPath kBBTxPath2_4GHzBit
    (if band = .kBand5GHz then 0 else kBBTxPath2_4GHzBit))
  pure .ok

/-- The synthesizers of the paths that are left. -/
def tune (channel : UInt8) : List (Fin kRfPathCount) → SwitchIo StatusCode
  | [] => pure .ok
  | path :: rest => do
    let rfValue ← tag .other (readRF path kRfRegChannelStandalone)
    let status ← tag .tuning (writeRF path kRfRegChannelStandalone
      (Fields.merge 32 kRfChannelBandMask rfValue (channelBits channel)))
    if status ≠ StatusCode.ok then pure status else tune channel rest

/-- A read-modify-write of bits 11 and 10. -/
def setFilter (bits : Nat) (path : Fin kRfPathCount) : PhyIo StatusCode := do
  let rfValue ← readRF path 0x18
  writeRF path 0x18 (Fields.merge 32 (0x03 <<< 10) rfValue (bits <<< 10))

def setBandwidthTo (bwCtrl clock bits : Nat) : PhyIo StatusCode := do
  let _ ← maskedWrite32 kRegBBBwCtrl 0x00000003 bwCtrl
  let _ ← maskedWrite32 kRegBBSubChan 0x0000000F 0x00000000
  let _ ← maskedWrite32 kRegBBAdcClk 0x30000000 clock
  let _ ← maskedWrite32 kRegBBDacClk 0x30000000 clock
  forPaths (setFilter bits) (List.finRange kRfPathCount)
  pure .ok

def setBandwidth : ChannelBandwidth → PhyIo StatusCode
  | .kBandwidth20MHz => setBandwidthTo 0x00000000 0x00000000 0x00
  | .kBandwidth40MHz => setBandwidthTo 0x00000001 0x10000000 0x01
  | .kBandwidth80MHz => setBandwidthTo 0x00000002 0x20000000 0x02

/-- The 5 GHz table is one of its sub-bands. -/
def selectAgcTable (channel : UInt8) : PhyIo Unit := do
  if bandForChannel channel = .kBand5GHz then
    let _ ← maskedWrite32 kRegBBAgcTableSelect kBBAgcTableSelectMask (agcTableForChannel channel)
    pure ()
  else pure ()

/-- The registers that are read back for the log. -/
def logRegisters : PhyIo Unit := do
  let _ ← read32 kRegBBRfePinmux0
  let _ ← read32 kRegBBRfePinmuxPathB
  let _ ← read32 kRegBBRfePinmuxPathC
  let _ ← read32 kRegBBRfePinmuxPathD
  let _ ← read32 kRegBBFcArea
  forPaths (fun path => readRF path kRfRegChannelStandalone) (List.finRange kRfPathCount)

/-! ## The sequence -/

/-- From the bandwidth on; nothing fails here. -/
def finishChannel (phy : PhyConfig) (channel : UInt8) (bandwidth : ChannelBandwidth) :
    PhyIo (StatusCode × PhyConfig) := do
  let status ← setBandwidth bandwidth
  if status ≠ StatusCode.ok then pure (status, phy)
  else
    phy.writeTxPower channel (List.finRange kRfPathCount)
    if bandForChannel channel ≠ phy.fCurrentBand ∨ bandForChannel channel = .kBand5GHz then
      logRegisters
    pure (.ok,
      { phy with
        fCurrentChannel := channel
        fCurrentBandwidth := bandwidth
        fCurrentBand := bandForChannel channel })

def setChannel (fEfuseReader : Reader) (phy : PhyConfig) (channel : UInt8)
    (bandwidth : ChannelBandwidth) : SwitchIo (StatusCode × PhyConfig) := do
  let newBand := bandForChannel channel
  let status ←
    if newBand ≠ phy.fCurrentBand then switchBand (rfeTypeOf fEfuseReader) newBand else pure .ok
  if status ≠ StatusCode.ok then pure (status, phy)
  else
    let _ ← tag .other (maskedWrite32 kRegBBFcArea kBBFcAreaMask (fcAreaForChannel channel))
    let status ← tune channel (List.finRange kRfPathCount)
    if status ≠ StatusCode.ok then pure (status, phy)
    else
      tag .other (selectAgcTable channel)
      tag .other (phy.finishChannel channel bandwidth)

end PhyConfig
end Rtl8814au
