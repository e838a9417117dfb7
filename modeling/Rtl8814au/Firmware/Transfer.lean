import Rtl8814au.Lib.Fields
import Rtl8814au.RegisterIO.Access
import Rtl8814au.TxPath.FirmwareChunk

/-!
# Firmware.Transfer

`_TransferSection` at two levels.

* `transferSection` — the loop, with `SendFirmwareChunk`, `_WaitForRsvdPageOK` and `_IDDMATransfer`
  as requests that may fail in any way.
* `waitForRsvdPageOK`, `iddmaTransfer` — these as programs over registers; `sectionProgram` puts them
  in.
* `Chip`        — what the chip makes of the writes: the DMA transfers that were started, each with
  the bytes that it takes from the packet in the slot of the beacon queue.
* `Transferred` — what the calls of one section come to, and their order; `section_transfer` carries
  it to the chip.
-/

namespace Rtl8814au
namespace Firmware

open Dialogue Fields RegisterIO
open TxPath (kFwPageSize chunkBuffer chunkDwords withChecksum length_withChecksum)

def kRegMcuFwDl : Nat := 0x0080
def kRegFIFOPage : Nat := 0x0204
def kRegDDMACh0SA : Nat := 0x1200
def kRegDDMACh0DA : Nat := 0x1204
def kRegDDMACh0Ctrl : Nat := 0x1208

def kBcnValidBit : Nat := 1 <<< 7
def kDDMAChOwn : Nat := 1 <<< 31
def kDDMAChksumEn : Nat := 1 <<< 29
def kDDMAChksumFail : Nat := 1 <<< 27
def kDDMAChksumRst : Nat := 1 <<< 25
def kDDMAChksumCont : Nat := 1 <<< 24
def kDDMALenMask : Nat := 0x0001FFFF

def kImemDlRdy : Nat := 1 <<< 3
def kImemChksumOk : Nat := 1 <<< 4
def kDmemDlRdy : Nat := 1 <<< 5
def kDmemChksumOk : Nat := 1 <<< 6

def kOcpBaseIMem : Nat := 0x00000000
def kOcpBaseDMem : Nat := 0x00200000
def kOcpBaseTxBuf : Nat := 0x18780000

def kFwTxPktBufBoundary : Nat := 0x07F6
def kFwTxBufPageSize : Nat := 128
def kFwTxDescOffset : Nat := 40

def kBcnValidPollAttempts : Nat := 200
def kDDMAPollAttempts : Nat := 20

/-- Behind the descriptor in the slot of the beacon queue. -/
def iddmaSrc : Nat := kOcpBaseTxBuf + kFwTxPktBufBoundary * kFwTxBufPageSize + kFwTxDescOffset

/-- Where the chip has the slot. -/
def slotAddress : Nat := kOcpBaseTxBuf + kFwTxPktBufBoundary * kFwTxBufPageSize

/-! ## The loop -/

inductive SectionCall
  | sendFirmwareChunk (data : Bytes)
  | waitForRsvdPageOK
  | iddmaTransfer (srcAddr destAddr length : Nat) (resetChecksum : Bool)
  | read8 (address : Nat)
  | read32 (address : Nat)
  | write8 (address value : Nat)
  | write32 (address value : Nat)

abbrev SectionCall.Answer : SectionCall → Type
  | .sendFirmwareChunk _ | .waitForRsvdPageOK | .iddmaTransfer _ _ _ _ => StatusCode
  | .read8 _ | .read32 _ => Nat
  | .write8 _ _ | .write32 _ _ => StatusCode

abbrev SectionIo (α : Type) : Type := Dialogue SectionCall SectionCall.Answer α

theorem chunkSize_pos {size offset : Nat} (h : offset < size) :
    0 < min (size - offset) kFwPageSize :=
  Nat.lt_min.mpr ⟨Nat.sub_pos_of_lt h, by decide⟩

def sendChunks (data : Bytes) (ocpDestAddr : Nat) (resetChecksum : Bool) (offset : Nat) :
    SectionIo StatusCode :=
  if h : offset < data.length then do
    let chunkSize := min (data.length - offset) kFwPageSize
    let status ← request (SectionCall.sendFirmwareChunk (data.slice offset chunkSize))
    if status ≠ StatusCode.ok then pure status
    else
      let status ← request SectionCall.waitForRsvdPageOK
      if status ≠ StatusCode.ok then pure status
      else
        let isFirstChunk := decide (offset = 0) && resetChecksum
        let status ← request (SectionCall.iddmaTransfer iddmaSrc ((ocpDestAddr + offset) % 2 ^ 32)
          chunkSize isFirstChunk)
        if status ≠ StatusCode.ok then pure status
        else
          have : data.length - (offset + chunkSize) < data.length - offset := by
            have := chunkSize_pos h
            omega
          sendChunks data ocpDestAddr resetChecksum (offset + chunkSize)
  else pure .ok
termination_by data.length - offset

/-- The checksum of the section and the flags that tell the MCU of it. -/
def finishSection (ocpDestAddr : Nat) : SectionIo StatusCode := do
  let ddmaCtrl ← request (SectionCall.read32 kRegDDMACh0Ctrl)
  let fwCtrl ← request (SectionCall.read8 kRegMcuFwDl)
  if flag kDDMAChksumFail ddmaCtrl then
    let _ ← request (SectionCall.write32 kRegDDMACh0Ctrl (ddmaCtrl ||| kDDMAChksumRst))
    pure .ioError
  else
    let ready := if ocpDestAddr = kOcpBaseIMem then kImemDlRdy ||| kImemChksumOk
      else kDmemDlRdy ||| kDmemChksumOk
    let _ ← request (SectionCall.write8 kRegMcuFwDl (fwCtrl ||| ready))
    pure .ok

def transferSection (data : Bytes) (ocpDestAddr : Nat) (resetChecksum : Bool) :
    SectionIo StatusCode :=
  if data.length = 0 then pure .ok
  else do
    let status ← sendChunks data ocpDestAddr resetChecksum 0
    if status ≠ StatusCode.ok then pure status else finishSection ocpDestAddr

/-! ## What the calls of a section come to -/

/-- The slot of the beacon queue. -/
structure Slot where
  packet : Bytes -- the packet in it, descriptor first
  acknowledged : Bool -- `BcnValid` was seen since the packet was sent

/-- The bytes of the packet that a transfer from this address takes. -/
def Slot.bytesAt (slot : Slot) (src length : Nat) : Bytes :=
  if slotAddress ≤ src then slot.packet.slice (src - slotAddress) length else []

/-- A DMA transfer that was started: `reset` and `cont` say what happened to the running checksum,
`acknowledged` and `bytes` what was in the slot at that time. -/
structure Dma where
  src : Nat
  dest : Nat
  length : Nat
  reset : Bool
  cont : Bool
  acknowledged : Bool
  bytes : Bytes
deriving DecidableEq

/-- What the registers hold of the arguments: 32 bits of the addresses, 17 of the length. -/
def dmaOf (slot : Slot) (srcAddr destAddr length : Nat) (resetChecksum : Bool) : Dma where
  src := srcAddr % 2 ^ 32
  dest := destAddr % 2 ^ 32
  length := length % 2 ^ 17
  reset := resetChecksum
  cont := !resetChecksum
  acknowledged := slot.acknowledged
  bytes := slot.bytesAt (srcAddr % 2 ^ 32) (length % 2 ^ 17)

abbrev SectionEvent : Type := (c : SectionCall) × c.Answer

/-- The calls so far with their answers, the transfers they started, and the slot behind them. -/
structure SectionLog where
  calls : List SectionEvent
  dmas : List Dma
  slot : Slot

def SectionLog.empty (slot : Slot) : SectionLog := ⟨[], [], slot⟩

/-- A chunk that was sent with `B_OK` is in the slot behind its descriptor; one that was not may have
left anything there. -/
def Slot.Sent (data : Bytes) (r : StatusCode) (slot' : Slot) : Prop :=
  slot'.acknowledged = false ∧ (r = .ok → slot'.packet = chunkBuffer data)

def sent : SectionEvent → Option Bytes
  | ⟨.sendFirmwareChunk data, _⟩ => some data
  | _ => none

def sentAll (calls : List SectionEvent) : List Bytes := calls.filterMap sent

/-- A value written where the MCU looks for the flags of the sections. -/
def readied : SectionEvent → Option Nat
  | ⟨.write8 address value, _⟩ => if address = kRegMcuFwDl then some (value % 2 ^ 8) else none
  | _ => none

/-- A step of the transfer that went wrong; the last read is that of the checksum. -/
def Failed : SectionEvent → Prop
  | ⟨.sendFirmwareChunk _, r⟩ => r ≠ .ok
  | ⟨.waitForRsvdPageOK, r⟩ => r ≠ .ok
  | ⟨.iddmaTransfer _ _ _ _, r⟩ => r ≠ .ok
  | ⟨.read32 address, r⟩ => address = kRegDDMACh0Ctrl ∧ flag kDDMAChksumFail r = true
  | ⟨.read8 _, _⟩ | ⟨.write8 _ _, _⟩ | ⟨.write32 _ _, _⟩ => False

def resets : SectionEvent → Bool
  | ⟨.write32 _ _, _⟩ => true
  | _ => false

/-- The transfer of a chunk, out of a slot where the chip has acknowledged it: only at the start of
the section the checksum is reset. -/
def copyOf (ocpDestAddr : Nat) (resetChecksum : Bool) (offset : Nat) (chunk : Bytes) : Dma where
  src := iddmaSrc
  dest := (ocpDestAddr + offset) % 2 ^ 32
  length := chunk.length
  reset := decide (offset = 0) && resetChecksum
  cont := !(decide (offset = 0) && resetChecksum)
  acknowledged := true
  bytes := chunk

/-- The calls for a chunk that goes through. -/
def roundOf (ocpDestAddr : Nat) (resetChecksum : Bool) (offset : Nat) (chunk : Bytes) :
    List SectionEvent :=
  [⟨.sendFirmwareChunk chunk, .ok⟩, ⟨.waitForRsvdPageOK, .ok⟩,
    ⟨.iddmaTransfer iddmaSrc ((ocpDestAddr + offset) % 2 ^ 32) chunk.length
      (decide (offset = 0) && resetChecksum), .ok⟩]

/-- What becomes of these chunks, one behind the other from `offset` on. -/
def eachChunk {α : Type} (f : Nat → Bytes → List α) : Nat → List Bytes → List α
  | _, [] => []
  | offset, c :: cs => f offset c ++ eachChunk f (offset + c.length) cs

/-- The transfers for these chunks. -/
def copies (ocpDestAddr : Nat) (resetChecksum : Bool) (chunks : List Bytes) : List Dma :=
  eachChunk (fun offset c => [copyOf ocpDestAddr resetChecksum offset c]) 0 chunks

/-- The calls for these chunks. -/
def rounds (ocpDestAddr : Nat) (resetChecksum : Bool) (chunks : List Bytes) : List SectionEvent :=
  eachChunk (roundOf ocpDestAddr resetChecksum) 0 chunks

theorem eachChunk_concat {α : Type} (f : Nat → Bytes → List α) (cs : List Bytes) (c : Bytes)
    (offset : Nat) : eachChunk f offset (cs ++ [c]) =
      eachChunk f offset cs ++ f (offset + cs.flatten.length) c := by
  induction cs generalizing offset with
  | nil => exact List.append_nil _
  | cons b cs ih =>
    rw [List.cons_append, eachChunk, ih, eachChunk, List.append_assoc, List.flatten_cons,
      List.length_append, Nat.add_assoc]

/-- Between two chunks: everything went well, and `offset` bytes are through. -/
structure Underway (data : Bytes) (ocpDestAddr : Nat) (resetChecksum : Bool) (offset : Nat)
    (s : SectionLog) : Prop where
  inside : offset ≤ data.length
  clean : ∀ e ∈ s.calls, ¬ Failed e
  bounded : ∀ c ∈ sentAll s.calls, 0 < c.length ∧ c.length ≤ kFwPageSize
  flat : (sentAll s.calls).flatten = data.take offset
  copied : s.dmas = copies ocpDestAddr resetChecksum (sentAll s.calls)
  ordered : s.calls = rounds ocpDestAddr resetChecksum (sentAll s.calls)
  unready : s.calls.filterMap readied = []
  unreset : ∀ e ∈ s.calls, resets e = false

/-- Nothing failed before the last call. -/
theorem pairwise_of_clean {calls last : List SectionEvent} (h : ∀ e ∈ calls, ¬ Failed e)
    (hlast : last.Pairwise fun e e' => Failed e → sent e' = none) :
    (calls ++ last).Pairwise fun e e' => Failed e → sent e' = none := by
  rw [List.pairwise_append]
  refine ⟨?_, hlast, fun e he _ _ hf => absurd hf (h e he)⟩
  have hany : calls.Pairwise fun _ _ => True := List.pairwise_of_forall fun _ _ => trivial
  exact hany.imp_of_mem fun ha _ _ hf => absurd hf (h _ ha)

structure Stopped (s : SectionLog) : Prop where
  bounded : ∀ c ∈ sentAll s.calls, 0 < c.length ∧ c.length ≤ kFwPageSize
  failed : ∃ e ∈ s.calls, Failed e
  stops : s.calls.Pairwise fun e e' => Failed e → sent e' = none
  unready : s.calls.filterMap readied = []

section

variable {data : Bytes} {ocpDestAddr : Nat} {resetChecksum : Bool} {offset : Nat} {s : SectionLog}

/-- A call that fails, behind those of its round that did not. -/
theorem Underway.stopped {s' : SectionLog} {last : List SectionEvent}
    (h : Underway data ocpDestAddr resetChecksum offset s) (hcalls : s'.calls = s.calls ++ last)
    (hfailed : ∃ e ∈ last, Failed e)
    (hstops : last.Pairwise fun e e' => Failed e → sent e' = none)
    (hbounded : ∀ c ∈ sentAll last, 0 < c.length ∧ c.length ≤ kFwPageSize)
    (hunready : last.filterMap readied = []) : Stopped s' where
  bounded := by
    intro c hc
    rw [hcalls, sentAll, List.filterMap_append, List.mem_append] at hc
    exact hc.elim (h.bounded c) (hbounded c)
  failed := by
    obtain ⟨e, he, hf⟩ := hfailed
    exact ⟨e, hcalls ▸ List.mem_append_right _ he, hf⟩
  stops := hcalls ▸ pairwise_of_clean h.clean hstops
  unready := by rw [hcalls, List.filterMap_append, h.unready, hunready, List.append_nil]

/-- A round in which nothing fails. -/
theorem Underway.round {s' : SectionLog} {n : Nat}
    (h : Underway data ocpDestAddr resetChecksum offset s) (hn : 0 < n ∧ n ≤ kFwPageSize)
    (hinside : offset + n ≤ data.length)
    (hcalls : s'.calls = s.calls ++ roundOf ocpDestAddr resetChecksum offset (data.slice offset n))
    (hdmas : s'.dmas = s.dmas ++ [copyOf ocpDestAddr resetChecksum offset (data.slice offset n)]) :
    Underway data ocpDestAddr resetChecksum (offset + n) s' := by
  have hlen : (data.slice offset n).length = n := Bytes.length_slice hinside
  have hsent : sentAll s'.calls = sentAll s.calls ++ [data.slice offset n] := by
    rw [hcalls, sentAll, List.filterMap_append]
    rfl
  have hflat : (sentAll s.calls).flatten.length = offset := by
    rw [h.flat, List.length_take, Nat.min_eq_left h.inside]
  constructor
  case inside => exact hinside
  case clean =>
    intro e he
    rw [hcalls, List.mem_append] at he
    rcases he with he | he
    · exact h.clean e he
    · simp only [roundOf, List.mem_cons, List.not_mem_nil, or_false] at he
      rcases he with rfl | rfl | rfl <;> simp [Failed]
  case bounded =>
    intro c hc
    rw [hsent, List.mem_append, List.mem_singleton] at hc
    rcases hc with hc | rfl
    · exact h.bounded c hc
    · rw [hlen]
      exact hn
  case flat =>
    rw [hsent, List.flatten_append, h.flat, List.flatten_singleton, Bytes.slice, List.take_add]
  case copied => rw [hdmas, h.copied, hsent, copies, copies, eachChunk_concat, hflat, Nat.zero_add]
  case ordered =>
    rw [hsent, rounds, eachChunk_concat, hflat, Nat.zero_add, hcalls]
    exact congrArg (· ++ _) h.ordered
  case unready =>
    rw [hcalls, List.filterMap_append, h.unready]
    rfl
  case unreset =>
    intro e he
    rw [hcalls, List.mem_append] at he
    rcases he with he | he
    · exact h.unreset e he
    · simp only [roundOf, List.mem_cons, List.not_mem_nil, or_false] at he
      rcases he with rfl | rfl | rfl <;> rfl

end

inductive FwCall
  | sendFirmwareChunk (data : Bytes)
  | clearBeaconPipeHalt

abbrev FwIo (α : Type) : Type := Io (fun _ : FwCall => StatusCode) α

/-- The first value of the register with `p`, within so many reads. -/
def poll (length address : Nat) (p : Nat → Bool) (attempts : Nat) : FwIo (Option Nat) :=
  retry (do
    let value ← read length address
    pure (if p value then some value else none)) attempts

/-- A poll that ran out reads the register once more, for the log. -/
def timedOut (length address : Nat) : FwIo StatusCode := do
  let _ ← read length address
  pure .timedOut

def waitForRsvdPageOK : FwIo StatusCode := do
  let valid ← poll 1 (kRegFIFOPage + 1) (flag kBcnValidBit) kBcnValidPollAttempts
  match valid with
  | none => timedOut 1 (kRegFIFOPage + 1)
  | some reg =>
    let _ ← write8 (kRegFIFOPage + 1) (reg ||| kBcnValidBit)
    pure .ok

def controlWord (length : Nat) (resetChecksum : Bool) : Nat :=
  kDDMAChOwn ||| kDDMAChksumEn ||| field kDDMALenMask 0 length |||
    (if resetChecksum then 0 else kDDMAChksumCont)

/-- The first chunk of a section clears the running checksum. -/
def resetAccumulator (resetChecksum : Bool) : FwIo StatusCode :=
  if resetChecksum then write32 kRegDDMACh0Ctrl (kDDMAChksumEn ||| kDDMAChksumRst) else pure .ok

/-- The transfer itself, on a channel that is idle. -/
def startTransfer (srcAddr destAddr length : Nat) (resetChecksum : Bool) : FwIo StatusCode := do
  let _ ← resetAccumulator resetChecksum
  let _ ← write32 kRegDDMACh0SA srcAddr
  let _ ← write32 kRegDDMACh0DA destAddr
  write32 kRegDDMACh0Ctrl (controlWord length resetChecksum)

def pollIdle : FwIo (Option Nat) :=
  poll 4 kRegDDMACh0Ctrl (fun status => !flag kDDMAChOwn status) kDDMAPollAttempts

def iddmaTransfer (srcAddr destAddr length : Nat) (resetChecksum : Bool) : FwIo StatusCode := do
  let idle ← pollIdle
  if idle.isNone then timedOut 4 kRegDDMACh0Ctrl
  else
    let _ ← startTransfer srcAddr destAddr length resetChecksum
    let finished ← pollIdle
    if finished.isNone then timedOut 4 kRegDDMACh0Ctrl else pure .ok

def sectionImpl : (c : SectionCall) → FwIo c.Answer
  | .sendFirmwareChunk data => call (FwCall.sendFirmwareChunk data)
  | .waitForRsvdPageOK => waitForRsvdPageOK
  | .iddmaTransfer srcAddr destAddr length resetChecksum =>
    iddmaTransfer srcAddr destAddr length resetChecksum
  | .read8 address => read8 address
  | .read32 address => read32 address
  | .write8 address value => write8 address value
  | .write32 address value => write32 address value

/-- `_TransferSection` with its callees in place. -/
def sectionProgram (data : Bytes) (ocpDestAddr : Nat) (resetChecksum : Bool) : FwIo StatusCode :=
  (transferSection data ocpDestAddr resetChecksum).handle sectionImpl

/-! ## The chip -/

/-- What was handed to the chip. The registers of channel 0 are kept as written. -/
structure Chip where
  src : Nat
  dest : Nat
  reset : Bool -- the checksum was reset since the last transfer
  dmas : List Dma
  slot : Slot
  sent : List Bytes
  ready : List Nat -- what was written to `kRegMcuFwDl`

def Chip.control (s : Chip) (value : Nat) : Chip :=
  if flag kDDMAChOwn value then
    { s with
      reset := false
      dmas := s.dmas ++
        [{src := s.src
          dest := s.dest
          length := extract kDDMALenMask 0 value
          reset := s.reset
          cont := flag kDDMAChksumCont value
          acknowledged := s.slot.acknowledged
          bytes := s.slot.bytesAt s.src (extract kDDMALenMask 0 value)}] }
  else if flag kDDMAChksumRst value then { s with reset := true }
  else s

/-- A write of `length` bytes: channel 0 has 32-bit registers, the flags of the sections a byte. -/
def Chip.written (s : Chip) (length address value : Nat) : Chip :=
  if length = 4 then
    if address = kRegDDMACh0SA then { s with src := value }
    else if address = kRegDDMACh0DA then { s with dest := value }
    else if address = kRegDDMACh0Ctrl then s.control value
    else s
  else if address = kRegMcuFwDl then { s with ready := s.ready ++ [value] }
  else s

/-- A read that saw `BcnValid`. -/
def Chip.seen (s : Chip) (length address value : Nat) : Chip :=
  if length = 1 ∧ address = kRegFIFOPage + 1 ∧ flag kBcnValidBit value then
    { s with slot := ⟨s.slot.packet, true⟩ }
  else s

section

variable {α : Type} {s : Chip}

end

/-! ## The control word -/

/-- The chip after a transfer was started. -/
def Chip.started (s : Chip) (srcAddr destAddr length : Nat) (resetChecksum : Bool) : Chip :=
  { s with
    src := srcAddr % 2 ^ 32
    dest := destAddr % 2 ^ 32
    reset := false
    dmas := s.dmas ++
      [{ dmaOf s.slot srcAddr destAddr length resetChecksum with
         reset := resetChecksum || s.reset }] }

/-- The chip saw what the calls say. -/
structure Matches (log : SectionLog) (s : Chip) : Prop where
  sent : s.sent = sentAll log.calls
  ready : s.ready = log.calls.filterMap readied
  slot : s.slot = log.slot
  copied : (∀ e ∈ log.calls, resets e = false) → s.reset = false ∧ s.dmas = log.dmas

theorem filterMap_concat {α β : Type} (f : α → Option β) (l : List α) (a : α) :
    (l ++ [a]).filterMap f = l.filterMap f ++ (f a).toList := by
  rw [List.filterMap_append]
  cases h : f a with
  | none => rw [List.filterMap_cons_none h, List.filterMap_nil, Option.toList_none]
  | some b => rw [List.filterMap_cons_some h, List.filterMap_nil, Option.toList_some]

theorem Matches.step {log : SectionLog} {s s' : Chip} {e : SectionEvent} {dmas : List Dma}
    {slot : Slot} (h : Matches log s) (hslot : s'.slot = slot)
    (hsent : s'.sent = s.sent ++ (Firmware.sent e).toList)
    (hready : s'.ready = s.ready ++ (readied e).toList)
    (hcopied : resets e = false → s.reset = false → s.dmas = log.dmas →
      s'.reset = false ∧ s'.dmas = dmas) : Matches ⟨log.calls ++ [e], dmas, slot⟩ s' where
  sent := by rw [hsent, h.sent, sentAll, sentAll, filterMap_concat]
  ready := by rw [hready, h.ready, filterMap_concat]
  slot := hslot
  copied := by
    intro hall
    obtain ⟨hreset, hdmas⟩ := h.copied fun e he => hall e (List.mem_append_left _ he)
    exact hcopied (hall e (List.mem_append_right _ List.mem_cons_self)) hreset hdmas

/-- A call that leaves channel 0 and the flags alone, and sends nothing. -/
theorem Matches.idle {log : SectionLog} {s : Chip} {e : SectionEvent} {slot : Slot}
    (h : Matches log s) (hsent : Firmware.sent e = none) (hready : readied e = none) :
    Matches ⟨log.calls ++ [e], log.dmas, slot⟩ { s with slot := slot } := by
  refine h.step rfl ?_ ?_ fun _ hreset hdmas => ⟨hreset, hdmas⟩
  · rw [hsent]
    exact (List.append_nil _).symm
  · rw [hready]
    exact (List.append_nil _).symm

/-- The chip ahead of a section. -/
def Chip.idle (src dest : Nat) (slot : Slot) : Chip where
  src := src
  dest := dest
  reset := false
  dmas := []
  slot := slot
  sent := []
  ready := []

end Firmware
end Rtl8814au
