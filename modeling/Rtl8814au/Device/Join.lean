import Rtl8814au.Device.State

/-!
# Device.Join

Authentication and association: `_DoJoin`, the two requests it leads to, and the handlers of the
two responses.

The register accesses of `_DoJoin` have no effect on the modelled state. `FindBssBySsid` is asked
for the SSID being joined; what it finds is in `Env.bss`.
-/

namespace Rtl8814au
namespace Device

/-- The bytes of a C string with room for `n` bytes and a terminator. -/
def cString (s : Bytes) (n : Nat) : Bytes := (s.takeWhile (· ≠ 0)).take n

/-- `strlcpy(dst, src, 33)`. -/
def strlcpy33 (dst : Buf 33) (src : Bytes) : Buf 33 := dst.copyAt 0 (cString src 32 ++ [0])

/-- `(++fJoinSeqCounter) << 4`, little-endian. -/
def nextSeqBytes (d : Device) : Bytes :=
  let seq := (d.fJoinSeqCounter + 1) <<< 4
  [(seq &&& 0xFF).toUInt8, ((seq >>> 8) &&& 0xFF).toUInt8]

def bumpSeq (d : Device) : Device := { d with fJoinSeqCounter := d.fJoinSeqCounter + 1 }

/-- The header of a management frame to the BSS being joined. -/
def managementHeader (d : Device) (fc : UInt8) : Bytes :=
  [fc, 0x00, 0x00, 0x3A] ++ d.fJoinBssid.bytes ++ d.fMacAddress.bytes ++ d.fJoinBssid.bytes ++
    d.nextSeqBytes

def sendAuthRequest (d : Device) (env : Env) : Reply :=
  let frame := d.managementHeader 0xB0 ++ [0x00, 0x00, 0x01, 0x00, 0x00, 0x00]
  ⟨d.bumpSeq, [.transmitAuthRequest frame], env.transmit⟩

def supportedRates (is5GHz : Bool) : Bytes :=
  if is5GHz then [0x8C, 0x12, 0x98, 0x24, 0xB0, 0x48, 0x60, 0x6C]
  else [0x82, 0x84, 0x8B, 0x96, 0x0C, 0x12, 0x18, 0x24]

def capabilityInfo (d : Device) : UInt8 := if d.fPrivacy ≠ 0 then 0x11 else 0x01

/-- Up to and including the Supported Rates IE. -/
def assocRequestHead (d : Device) (is5GHz : Bool) : Bytes :=
  d.managementHeader 0x00 ++ [d.capabilityInfo, 0x00, 0x14, 0x00] ++
    [0, UInt8.ofNat d.fJoinSsidLength] ++ d.fJoinSsid.bytes.take d.fJoinSsidLength ++
    [1, 8] ++ supportedRates is5GHz

def haveRsnIe (d : Device) (is5GHz : Bool) : Bool :=
  d.fWpaIeLength > 0 ∧ (d.assocRequestHead is5GHz).length + d.fWpaIeLength + 6 ≤ 256

def sendAssocRequest (d : Device) (env : Env) : Reply :=
  let rsnIe := if d.haveRsnIe env.is5GHz then d.fWpaIe.bytes.take d.fWpaIeLength else []
  let extendedRates : Bytes := if env.is5GHz then [] else [50, 4, 0x30, 0x48, 0x60, 0x6C]
  ⟨d.bumpSeq,
    [.transmitAssocRequest (d.assocRequestHead env.is5GHz ++ rsnIe ++ extendedRates)
      (d.haveRsnIe env.is5GHz)],
    env.transmit⟩

/-- All zero, broadcast, or never set. -/
def isWildcardBssid (bssid : Mac) : Bool :=
  bssid = Buf.zero 6 ∨ bssid.bytes = List.replicate 6 0xFF ∨
    bssid.bytes.at 0 = 0xCC ∧ bssid.bytes.at 1 = 0xCC

/-- The resets of `_DoJoin` ahead of the lookup. -/
def joinReset (d : Device) : Device :=
  { d with
    fCcmpEnabled := false
    fJoinState :=
      match d.fJoinState with
      | .kJoinAuthenticating => .kJoinIdle
      | .kJoinAssociating => .kJoinIdle
      | state => state }

def startJoin (d : Device) (bssid : Mac) (ssid : Bytes) (ssidLen : Nat) (env : Env) : Reply :=
  let d := { d with
    fJoinBssid := bssid
    fJoinSsid := strlcpy33 d.fJoinSsid ssid
    fJoinSsidLength := ssidLen
    fJoinSeqCounter := 0
    fJoinState := .kJoinAuthenticating }
  let r := d.sendAuthRequest env
  ⟨r.device, .joinRequest :: r.actions, r.status⟩

def doJoin (d : Device) (bssid : Mac) (ssid : Bytes) (ssidLen : Nat) (env : Env) : Reply :=
  let d := d.joinReset
  if isWildcardBssid bssid then
    match env.bss with
    | none => ⟨d, [.joinRequest], .nameNotFound⟩
    | some resolved => d.startJoin resolved ssid ssidLen env
  else d.startJoin bssid ssid ssidLen env

/-! ## The responses -/

def isForThisJoin (d : Device) (frame : Bytes) : Bool :=
  frame.slice 10 6 = d.fJoinBssid.bytes ∧ frame.slice 4 6 = d.fMacAddress.bytes

def le16At (b : Bytes) (i : Nat) : UInt16 := (b.at i).toUInt16 ||| ((b.at (i + 1)).toUInt16 <<< 8)

def handleAuthResponse (d : Device) (frame : Bytes) (env : Env) : Device × List Action :=
  if frame.length < 30 ∨ d.fJoinState ≠ .kJoinAuthenticating then (d, [])
  else if ¬ d.isForThisJoin frame then (d, [])
  else if le16At frame 24 ≠ 0 ∨ le16At frame 26 ≠ 2 ∨ le16At frame 28 ≠ 0 then
    ({ d with fJoinState := .kJoinIdle }, [])
  else
    let r := sendAssocRequest { d with fJoinState := .kJoinAssociating } env
    if r.status ≠ .ok then ({ r.device with fJoinState := .kJoinIdle }, r.actions)
    else (r.device, r.actions)

def handleAssocResponse (d : Device) (frame : Bytes) : Device :=
  if frame.length < 30 ∨ d.fJoinState ≠ .kJoinAssociating then d
  else if ¬ d.isForThisJoin frame then d
  else if le16At frame 26 ≠ 0 then { d with fJoinState := .kJoinIdle }
  else { d with fJoinState := .kJoinConnected }

end Device
end Rtl8814au
