import Rtl8814au.Device.ScanRequest
import Rtl8814au.Device.ScanResults
import Rtl8814au.Lib.UserMemory

/-!
# Device.Control

`Control` as it is called: an operation with `length` bytes at `args`. For the 802.11 parameters
they hold a `struct ieee80211req`, which names further memory with `i_data` and `i_len`. `Request` is
what such a call asks for; here it is read out of the caller's memory. Pointers have 64 bits.

* `Ioc`              — the parameters, by their numbers.
* `mlmeRequest`, `keyRequest`, `joinRequest` — what the structures say.
* `set80211`, `get80211`, `control` — the calls, as programs on the caller's memory.
-/

namespace Rtl8814au

/-- The operations of `Control`. -/
inductive ControlOp where
  | etherInit
  | etherGetAddr
  | etherGetFrameSize
  | etherSetLinkStateSem
  | etherGetLinkState
  | etherSetPromisc
  | etherNonBlock
  | siocSIfMedia
  | siocS80211
  | siocG80211
  | unknown
deriving DecidableEq

inductive Ioc where
  | ssid
  | authMode
  | bssid
  | roaming
  | privacy
  | dropUnencrypted
  | wpaKey
  | delKey
  | mlme
  | countermeasures
  | wpa
  | scanResults
  | staInfo
  | appie
  | devCaps
  | scanReq
  | scanCancel
  | wlanUp
  | wlanDown
  | haikuJoin
deriving DecidableEq

namespace Ioc

/-- `IEEE80211_IOC_*`. -/
def code : Ioc → Nat
  | ssid => 1
  | authMode => 7
  | bssid => 15
  | roaming => 16
  | privacy => 17
  | dropUnencrypted => 18
  | wpaKey => 19
  | delKey => 20
  | mlme => 21
  | countermeasures => 25
  | wpa => 26
  | scanResults => 76
  | staInfo => 78
  | appie => 95
  | devCaps => 98
  | scanReq => 103
  | scanCancel => 104
  | wlanUp => 0x6000
  | wlanDown => 0x6001
  | haikuJoin => 0x6002

def all : List Ioc :=
  [ssid, authMode, bssid, roaming, privacy, dropUnencrypted, wpaKey, delKey, mlme, countermeasures,
    wpa, scanResults, staInfo, appie, devCaps, scanReq, scanCancel, wlanUp, wlanDown, haikuJoin]

def ofCode (n : Nat) : Option Ioc := all.find? fun t => t.code = n

theorem ofCode_code (t : Ioc) : ofCode t.code = some t := by
  cases t <;> rfl

end Ioc

/-! ## The structures -/

/-- The value of `v` as a signed number with `half` negative ones. -/
def signed (half v : Nat) : Int := if v < half then v else (v : Int) - 2 * half

def int16 (v : Nat) : Int := signed 0x8000 v

/-- What is left of the value in an `int16`. -/
def toInt16 (v : Int) : Nat := (v % 0x10000).toNat

/-- The values of an `int16`. -/
def IsInt16 (v : Int) : Prop := -0x8000 ≤ v ∧ v < 0x8000

theorem isInt16_int16 {n : Nat} (h : n < 0x10000) : IsInt16 (int16 n) := by
  unfold IsInt16 int16 signed
  split
  · omega
  · omega

theorem int16_toInt16 {v : Int} (h : IsInt16 v) : int16 (toInt16 v) = v := by
  unfold IsInt16 at h
  unfold int16 signed toInt16
  split
  · omega
  · omega

def kReqSize : Nat := 48

/-- `struct ieee80211req`. -/
abbrev IReq := Bytes

namespace IReq

def iType (r : IReq) : Nat := Bytes.leNat (Bytes.slice r 32 2)

def iVal (r : IReq) : Int := int16 (Bytes.leNat (Bytes.slice r 34 2))

def iLen (r : IReq) : Nat := Bytes.leNat (Bytes.slice r 36 2)

def iData (r : IReq) : Nat := Bytes.leNat (Bytes.slice r 40 8)

def setVal (r : IReq) (v : Int) : IReq :=
  List.take 34 r ++ (Bytes.le 2 (toInt16 v) ++ List.drop 36 r)

def setLen (r : IReq) (n : Nat) : IReq := List.take 36 r ++ (Bytes.le 2 n ++ List.drop 38 r)

end IReq

def kMlmeSize : Nat := 42

/-- `struct ieee80211req_mlme`. -/
def mlmeRequest (b : Bytes) : Request :=
  .mlme (b.at 0) (Buf.ofBytes 6 (b.slice 4 6)) (b.at 1) (Buf.ofBytes 32 (b.slice 10 32))

def kKeySize : Nat := 56

/-- `struct ieee80211req_key`, with the first 16 bytes of `ik_keydata`. -/
def keyRequest (b : Bytes) : Request :=
  .wpaKey (UInt16.ofNat (Bytes.leNat (b.slice 2 2))) (b.at 4) (Buf.ofBytes 6 (b.slice 6 6))
    (Buf.ofBytes 16 (b.slice 32 16))

def kJoinSize : Nat := 108

/-- `struct rtl_haiku_join_psk`. -/
def joinRequest (b : Bytes) : Request :=
  .haikuJoinPsk (Buf.ofBytes 6 (b.slice 0 6)) (b.at 6) (Buf.ofBytes 32 (b.slice 8 32)) (b.at 40)
    (Buf.ofBytes 64 (b.slice 44 64))

/-- `IEEE80211_APPIE_WPA`. -/
def kAppieWpa : Int := 0xD0

/-- `struct ieee80211_devcaps_req_min`. -/
def devCaps : Bytes := Bytes.le 4 (0x00800000 ||| 0x01000000) ++ Bytes.zeros 12

/-! ## The state of a call -/

structure Console where
  host : ScanHost
  table : BssTable
  fRoaming : Int
  fWpaMode : Int
  fAuthMode : Int
  fLinkStateSem : Int

inductive CallStatus where
  | is (status : Status)
  | scan (status : ScanStatus)
  | badAddress
  | noMemory
  | invalidIoctl
deriving DecidableEq

/-- What a call meets besides the caller's memory. -/
structure CallEnv where
  env : Env
  scan : ScanOutcome
  hasMemory : Bool
  rcr : Nat -- What is read from `REG_RCR`.
  media : Bool → Nat -- `IFM_IEEE80211`, with or without `IFM_ACTIVE`.

structure CallReply where
  console : Console
  actions : List Action
  rcr : Option Nat -- What is written to `REG_RCR`.
  status : CallStatus

namespace Console

def init (mac : Mac) : Console where
  host := { station := .init mac, fH2CMailboxIndex := 0, fScanNotifierThread := false }
  table := .empty
  fRoaming := 0
  fWpaMode := 0
  fAuthMode := 0
  fLinkStateSem := -1

def device (c : Console) : Device := c.host.station.device

def manager (c : Console) : WiFiManager := c.host.station.manager

def withDevice (c : Console) (d : Device) : Console :=
  { c with host := { c.host with station := { c.host.station with device := d } } }

def returns (c : Console) (status : CallStatus) : CallReply := ⟨c, [], none, status⟩

/-- A request that has been read. -/
def handle (c : Console) (request : Request) (env : Env) : CallReply :=
  let r := c.device.set80211 request env
  let station : Station := ⟨r.device, c.host.station.managerStep (.control request)⟩
  ⟨{ c with host := { c.host with station := station } }, r.actions, none, .is r.status⟩

/-- `_DoScanRequest`. -/
def scanRequest (c : Console) (o : ScanOutcome) : CallReply :=
  let r := c.host.doScanRequest o
  ⟨{ c with host := r.1 }, [], none, .scan r.2⟩

end Console

/-! ## Setting a parameter -/

namespace Console

open UserIo

variable (c : Console)

/-- A structure of which the caller may give any part; the rest is zero, and so is what does not
arrive, since the status of the copy is not looked at. -/
def copyStruct (size iLen iData : Nat) : UserIo Bytes := do
  if min iLen size > 0 ∧ iData ≠ 0 then
    let r ← copyIn iData (min iLen size) size
    return r.1.pad size
  else return Bytes.zeros size

def setSsid (iLen iData : Nat) (env : Env) : UserIo CallReply := do
  let ssidLen := min iLen 32
  if ssidLen = 0 then return c.handle (.ssid []) env
  let r ← copyIn iData ssidLen 33
  if r.2 = false then
    let d := c.device
    return (c.withDevice { d with fJoinSsid := d.fJoinSsid.copyAt 0 r.1 }).returns .badAddress
  return c.handle (.ssid r.1) env

def setBssid (iLen iData : Nat) (env : Env) : UserIo CallReply := do
  if iLen < 6 then return c.returns (.is .badValue)
  let r ← copyIn iData 6 6
  if r.2 = false then return c.returns .badAddress
  return c.handle (.bssid r.1) env

def setAppie (iVal : Int) (iLen iData : Nat) (env : Env) : UserIo CallReply := do
  if iVal ≠ kAppieWpa then return c.returns (.is .ok)
  if iLen = 0 then return c.handle (.appie []) env
  if iLen > 256 then return c.returns (.is .bufferOverflow)
  let r ← copyIn iData iLen 256
  if r.2 = false then
    let d := c.device
    return (c.withDevice { d with fWpaIe := d.fWpaIe.copyAt 0 r.1 }).returns .badAddress
  return c.handle (.appie r.1) env

def setJoin (iLen iData : Nat) (env : Env) : UserIo CallReply := do
  if iLen = kJoinSize ∧ iData ≠ 0 then
    let r ← copyIn iData kJoinSize kJoinSize
    if r.2 = false then return c.returns .badAddress
    return c.handle (joinRequest r.1) env
  else return c.handle .haikuJoin env

def setParameter (t : Option Ioc) (iVal : Int) (iLen iData : Nat) (e : CallEnv) :
    UserIo CallReply :=
  match t with
  | some .wlanUp | some .wlanDown | some .scanCancel | some .delKey | some .countermeasures =>
    return c.returns (.is .ok)
  | some .scanReq => return c.scanRequest e.scan
  | some .ssid => c.setSsid iLen iData e.env
  | some .bssid => c.setBssid iLen iData e.env
  | some .mlme => do
    let b ← copyStruct kMlmeSize iLen iData
    return c.handle (mlmeRequest b) e.env
  | some .appie => c.setAppie iVal iLen iData e.env
  | some .wpaKey => do
    let b ← copyStruct kKeySize iLen iData
    return c.handle (keyRequest b) e.env
  | some .authMode => return { c with fAuthMode := iVal }.returns (.is .ok)
  | some .dropUnencrypted => return c.handle (.dropUnencrypted iVal) e.env
  | some .roaming => return { c with fRoaming := iVal }.returns (.is .ok)
  | some .privacy => return c.handle (.privacy iVal) e.env
  | some .wpa => return { c with fWpaMode := iVal }.returns (.is .ok)
  | some .haikuJoin => c.setJoin iLen iData e.env
  -- Anything else is only logged, with the front of its data.
  | some .scanResults | some .staInfo | some .devCaps | none => do
    let _ ← copyStruct 32 iLen iData
    return c.returns .invalidIoctl

def set80211 (userArgs length : Nat) (e : CallEnv) : UserIo CallReply := do
  if length < kReqSize then return c.returns (.is .badValue)
  let r ← copyIn userArgs kReqSize kReqSize
  if r.2 = false then return c.returns .badAddress
  c.setParameter (Ioc.ofCode (IReq.iType r.1)) (IReq.iVal r.1) (IReq.iLen r.1) (IReq.iData r.1) e

/-! ## Getting a parameter -/

/-- What goes wrong with the driver's own buffers. -/
def lift {α : Type} : Checked α → UserIo α
  | .ok a => .done a
  | .error _ => .ask UserAccess.fault fun r => Empty.elim r

def putBack (userArgs : Nat) (request : IReq) : UserIo CallReply := do
  let whole ← copyOut userArgs request
  return c.returns (if whole then .is .ok else .badAddress)

/-- `i_data` and then the request. -/
def putData (userArgs : Nat) (request : IReq) (data : Bytes) : UserIo CallReply := do
  let whole ← copyOut request.iData data
  if whole = false then return c.returns .badAddress
  c.putBack userArgs (request.setLen data.length)

def scanStatus : ScanResults.ScanStatus → CallStatus
  | .ok => .is .ok
  | .error => .is .error
  | .badValue => .is .badValue
  | .noMemory => .noMemory
  | .badAddress => .badAddress

/-- The copy at the end of `_GetScanResults` is made here. -/
def getScanResults (userArgs : Nat) (request : IReq) (hasMemory : Bool) : UserIo CallReply := do
  let call : ScanResults.ScanCall :=
    { hasWiFiManager := true
      hasUserBuffer := request.iData ≠ 0
      hasMemory := hasMemory
      userMemcpy := true }
  let reply ← lift (ScanResults.getScanResults call c.table (UInt16.ofNat request.iLen))
  if reply.status ≠ .ok then return c.returns (scanStatus reply.status)
  if reply.userData.length > 0 then c.putData userArgs request reply.userData
  else c.putBack userArgs (request.setLen reply.userLength.toNat)

def getSsid (userArgs : Nat) (request : IReq) : UserIo CallReply := do
  let n := c.device.fJoinSsidLength
  if n = 0 then return c.returns (.is .error)
  if request.iData = 0 ∨ request.iLen < n then return c.returns (.is .badValue)
  let ssid ← lift (Checked.bytesAt c.device.fJoinSsid.bytes 0 n)
  c.putData userArgs request ssid

def getBssid (request : IReq) : UserIo CallReply := do
  if c.manager.fState ≠ .kWiFiStateConnected then return c.returns (.is .error)
  if request.iLen < 6 ∨ request.iData = 0 then return c.returns (.is .badValue)
  let whole ← copyOut request.iData c.manager.fConnectedBssid.bytes
  return c.returns (if whole then .is .ok else .badAddress)

def getDevCaps (userArgs : Nat) (request : IReq) : UserIo CallReply := do
  if request.iLen < devCaps.length ∨ request.iData = 0 then
    return c.returns (.is .bufferOverflow)
  c.putData userArgs request devCaps

def getParameter (t : Option Ioc) (userArgs : Nat) (request : IReq) (e : CallEnv) :
    UserIo CallReply :=
  match t with
  | some .scanResults => c.getScanResults userArgs request e.hasMemory
  | some .ssid => c.getSsid userArgs request
  | some .bssid => c.getBssid request
  | some .staInfo => c.putBack userArgs (request.setLen 0)
  | some .roaming => c.putBack userArgs (request.setVal c.fRoaming)
  | some .privacy => c.putBack userArgs (request.setVal c.device.fPrivacy)
  | some .wpa => c.putBack userArgs (request.setVal c.fWpaMode)
  | some .authMode => c.putBack userArgs (request.setVal c.fAuthMode)
  | some .dropUnencrypted => c.putBack userArgs (request.setVal c.device.fDropUnencrypted)
  | some .devCaps => c.getDevCaps userArgs request
  | _ => return c.returns .invalidIoctl

def get80211 (userArgs length : Nat) (e : CallEnv) : UserIo CallReply := do
  if length < kReqSize then return c.returns (.is .badValue)
  let r ← copyIn userArgs kReqSize kReqSize
  if r.2 = false then return c.returns .badAddress
  c.getParameter (Ioc.ofCode (IReq.iType r.1)) userArgs r.1 e

/-! ## The operations -/

/-- The percentage of the signal strength, in tenths. -/
def quality (rssi : Int8) : Nat :=
  let q := ((rssi.toInt + 90) * 1000).tdiv 60
  if q < 0 then 0 else if q > 1000 then 1000 else q.toNat

def kOfdmRates : List Nat := [6, 9, 12, 18, 24, 36, 48, 54]

def linkSpeed (dataRate : UInt8) : Nat :=
  if dataRate ≥ 0x2C then 866700000
  else if dataRate ≥ 0x0C then 300000000
  else if dataRate ≥ 0x0B then 54000000
  else if dataRate ≥ 0x04 then kOfdmRates.getD (dataRate.toNat - 4) 24 * 1000000
  else 24000000

/-- `struct ether_link_state`. -/
def linkState (media : Bool → Nat) : Bytes :=
  if c.manager.fState = .kWiFiStateConnected then
    Bytes.le 4 (media true) ++ (Bytes.le 4 (quality c.manager.fCurrentRssi) ++
      Bytes.le 8 (linkSpeed c.manager.fCurrentDataRate))
  else Bytes.le 4 (media false) ++ (Bytes.le 4 0 ++ Bytes.le 8 0)

def kRCR_AAP : Nat := 1

def control (op : ControlOp) (args length : Nat) (e : CallEnv) : UserIo CallReply := do
  if c.device.fRemoved then return c.returns (.is .devNotReady)
  match op with
  | .etherInit | .etherNonBlock | .siocSIfMedia => return c.returns (.is .ok)
  | .etherGetAddr =>
    if length < 6 then return c.returns (.is .badValue)
    store args c.device.fMacAddress.bytes
    return c.returns (.is .ok)
  | .etherGetFrameSize =>
    if length < 4 then return c.returns (.is .badValue)
    store args (Bytes.le 4 1514)
    return c.returns (.is .ok)
  | .etherSetLinkStateSem =>
    if length < 4 then return c.returns (.is .badValue)
    let b ← load args 4
    return { c with fLinkStateSem := signed 0x80000000 (Bytes.leNat b) }.returns (.is .ok)
  | .etherGetLinkState =>
    if length < 16 then return c.returns (.is .badValue)
    store args (c.linkState e.media)
    return c.returns (.is .ok)
  -- Nothing looks at the length here.
  | .etherSetPromisc =>
    let b ← load args 4
    let rcr :=
      if Bytes.leNat b ≠ 0 then e.rcr ||| kRCR_AAP else e.rcr &&& (0xFFFFFFFF ^^^ kRCR_AAP)
    return { c.returns (.is .ok) with rcr := some rcr }
  | .siocS80211 => c.set80211 args length e
  | .siocG80211 => c.get80211 args length e
  | .unknown => return c.returns .invalidIoctl

end Console
end Rtl8814au
