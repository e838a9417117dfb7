import Rtl8814au.Device.Data

/-!
# Device.Eapol

The in-driver 4-way handshake: `_HandleEapolFrame` and the worker that feeds it.

* `handleM1`: the PTK derivation and message 2.
* `handleM3`: the MIC check, the key data, message 4 and the installation of the session keys.

The received EAPOL bytes are followed in memory by whatever the stack holds, which is where a read
past the received length goes (`Env.stack`).
-/

namespace Rtl8814au
namespace Device

open Crypto

/-! ## Building EAPOL-Key frames -/

/-- An EAPOL-Key frame with key length, IV, RSC and the reserved field zero. -/
def eapolKeyFrame (keyInfo : UInt16) (replayCounter nonce mic keyData : Bytes) : Bytes :=
  ([0x02, 0x03] : Bytes) ++ Bytes.be 2 (95 + keyData.length) ++
    ([0x02, (keyInfo >>> 8).toUInt8, keyInfo.toUInt8, 0, 0] : Bytes) ++ replayCounter ++ nonce ++
    Bytes.zeros 32 ++ mic ++ Bytes.be 2 keyData.length ++ keyData

/-- The first 16 bytes of the HMAC over a frame whose MIC field is zero. -/
def eapolMic (kck frame : Bytes) : Bytes := (hmacSha1 kck frame).bytes.take 16

def signedKeyFrame (kck : Bytes) (keyInfo : UInt16) (replayCounter nonce keyData : Bytes) : Bytes :=
  let unsigned := eapolKeyFrame keyInfo replayCounter nonce (Bytes.zeros 16) keyData
  eapolKeyFrame keyInfo replayCounter nonce (eapolMic kck unsigned) keyData

def kM2KeyInfo : UInt16 := 0x010A

def kM4KeyInfo : UInt16 := 0x030A

def buildM2 (d : Device) : Bytes :=
  signedKeyFrame d.kck kM2KeyInfo (Bytes.be 8 d.fM1ReplayCounter.toNat) d.fSnonce.bytes
    (d.fWpaIe.bytes.take d.fWpaIeLength)

def buildM4 (d : Device) (replayCounter : Bytes) : Bytes :=
  signedKeyFrame d.kck kM4KeyInfo replayCounter (Bytes.zeros 32) []

/-- Addr1 is the BSSID, Addr3 the AP. -/
def wireFrame (d : Device) (apMac : Mac) (eapol : Bytes) : Bytes :=
  dataHeader d.fJoinBssid.bytes d.fMacAddress.bytes apMac.bytes ++ llcSnap etherTypeEapol ++ eapol

def txEapolDataFrame (d : Device) (apMac : Mac) (eapol : Bytes) (env : Env) : Reply :=
  if eapol.length > 256 then ⟨d, [], .bufferOverflow⟩
  else ⟨d, [.transmitEapol (d.wireFrame apMac eapol)], env.transmit⟩

/-! ## Message 1 -/

def ptkLabel : Bytes := "Pairwise key expansion".toList.map fun c => UInt8.ofNat c.toNat

/-- `min(AA, SPA) || max(AA, SPA) || min(ANonce, SNonce) || max(ANonce, SNonce)`. -/
def ptkData (aa spa aNonce sNonce : Bytes) : Bytes :=
  let aaIsMin := Bytes.memcmpLt aa spa
  let aNonceIsMin := Bytes.memcmpLt aNonce sNonce
  (if aaIsMin then aa else spa) ++ (if aaIsMin then spa else aa) ++
    (if aNonceIsMin then aNonce else sNonce) ++ (if aNonceIsMin then sNonce else aNonce)

/-- A fresh SNonce and the PTK for it. -/
def derivePtk (d : Device) (senderMac : Mac) (snonce : Buf 32) : Device :=
  { d with
    fSnonce := snonce
    fPtk := prf384 d.fPmk.bytes ptkLabel
      (ptkData senderMac.bytes d.fMacAddress.bytes d.fAnonce.bytes snonce.bytes)
    fPtkValid := true }

/-- The nonce and the replay counter of an EAPOL-Key frame, its header included. -/
def keyNonce (frame : Bytes) : Buf 32 := Buf.ofBytes 32 (frame.slice 17 32)

def keyReplayCounter (frame : Bytes) : UInt64 := UInt64.ofNat (Bytes.beNat (frame.slice 9 8))

/-- ANonce and replay counter are taken before anything is checked. -/
def noteM1 (d : Device) (frame : Bytes) : Device :=
  { d with fAnonce := keyNonce frame, fM1ReplayCounter := keyReplayCounter frame }

def sameAnonce (d : Device) (frame : Bytes) : Bool := d.fPtkValid ∧ d.fAnonce = keyNonce frame

def setEapolState (d : Device) (state : EapolState) : Device := { d with fEapolState := state }

def sendM2 (d : Device) (senderMac : Mac) (env : Env) : Device × List Action :=
  if d.fWpaIeLength = 0 ∨ d.fWpaIeLength > 80 then (d, [])
  else
    let r := d.txEapolDataFrame senderMac d.buildM2 env
    if r.status ≠ .ok then (r.device, r.actions)
    else (r.device.setEapolState .kEapolWaitM3, r.actions)

def handleM1 (d : Device) (frame : Bytes) (senderMac : Mac) (env : Env) : Device × List Action :=
  let same := d.sameAnonce frame
  let d := d.noteM1 frame
  if ¬ d.fPmkValid then (d, [])
  else if same then d.sendM2 senderMac env
  else (d.derivePtk senderMac env.snonce).sendM2 senderMac env

/-! ## Message 3 -/

structure GtkKde where
  gtkKey : Bytes
  gtkKeyId : UInt8
deriving DecidableEq

def isGtkKde (plaintext : Bytes) (off : Nat) : Bool :=
  plaintext.at off = 0xDD ∧ (plaintext.at (off + 1)).toNat ≥ 6 ∧
    plaintext.slice (off + 2) 4 = [0x00, 0x0F, 0xAC, 0x01]

def readGtkKde (plaintext : Bytes) (off : Nat) : GtkKde :=
  { gtkKey := plaintext.slice (off + 8) (min ((plaintext.at (off + 1)).toNat - 6) 32),
    gtkKeyId := plaintext.at (off + 6) &&& 0x03 }

def kdeWalk (plaintext : Bytes) (off : Nat) (found : GtkKde) : GtkKde :=
  if off + 2 ≤ plaintext.length then
    let elementLen := (plaintext.at (off + 1)).toNat
    if off + 2 + elementLen > plaintext.length then found
    else
      kdeWalk plaintext (off + 2 + elementLen)
        (if isGtkKde plaintext off then readGtkKde plaintext off else found)
  else found
termination_by plaintext.length - off

def installSessionKeys (gtk : GtkKde) (env : Env) : Status :=
  if gtk.gtkKey.length ≠ 16 then .badValue
  else if gtk.gtkKeyId > 3 then .badValue
  else env.registers

/-- `m3copy` with the MIC field zeroed, and the MIC it held. -/
def m3Copy (frame : Bytes) (hashLen : Nat) (env : Env) : Buf 300 × Bytes :=
  let copy := env.m3copy.copyAt 0 (frame.take hashLen)
  (copy.copyAt 81 (Bytes.zeros 16), copy.bytes.slice 81 16)

def acceptKeys (d : Device) (gtk : GtkKde) : Device :=
  { d with
    fCcmpEnabled := true
    fGtk := d.fGtk.copyAt 0 (gtk.gtkKey.take 16)
    fGtkKeyId := gtk.gtkKeyId
    fGtkValid := true
    fTxPnPairwise := 1
    fTxPnGroup := 1 }

def finishM3 (d : Device) (gtk : GtkKde) (frame : Bytes) (senderMac : Mac) (env : Env) :
    Device × List Action :=
  let r := d.txEapolDataFrame senderMac (d.buildM4 (frame.slice 9 8)) env
  if r.status ≠ .ok then (r.device, r.actions)
  else if installSessionKeys gtk env = .ok then
    ((r.device.acceptKeys gtk).setEapolState .kEapolDone, r.actions ++ [.installKeys d.tk])
  else (r.device.setEapolState .kEapolDone, r.actions)

/-- The group key of a message 3 that verifies. -/
def verifyM3 (d : Device) (frame : Bytes) (bodyLen keyDataLen : Nat) (env : Env) :
    Option GtkKde :=
  let hashLen := 4 + bodyLen
  if hashLen > 300 then none
  else
    let (m3copy, receivedMic) := m3Copy frame hashLen env
    if receivedMic ≠ eapolMic d.kck (m3copy.bytes.take hashLen) then none
    else if keyDataLen < 16 ∨ keyDataLen % 8 ≠ 0 ∨ keyDataLen - 8 > 256 then none
    else
      match aesUnwrap d.kek (Bytes.pad keyDataLen (frame.slice 99 keyDataLen)) with
      | (false, _) => none
      | (true, plaintext) =>
        let gtk := kdeWalk plaintext 0 { gtkKey := [], gtkKeyId := 0 }
        if gtk.gtkKey.length = 0 then none else some gtk

def handleM3 (d : Device) (frame : Bytes) (bodyLen keyDataLen : Nat) (senderMac : Mac) (env : Env) :
    Device × List Action :=
  match d.verifyM3 frame bodyLen keyDataLen env with
  | none => (d, [])
  | some gtk => d.finishM3 gtk frame senderMac env

/-! ## Dispatch -/

/-- Pairwise, install, ack and MIC bits of the key information. -/
def isM1 (keyInfo : UInt16) : Bool :=
  keyInfo &&& 0x0008 ≠ 0 ∧ keyInfo &&& 0x0080 ≠ 0 ∧ keyInfo &&& 0x0100 = 0 ∧ keyInfo &&& 0x0040 = 0

def isM3 (keyInfo : UInt16) : Bool :=
  keyInfo &&& 0x0008 ≠ 0 ∧ keyInfo &&& 0x0080 ≠ 0 ∧ keyInfo &&& 0x0100 ≠ 0 ∧ keyInfo &&& 0x0040 ≠ 0

def be16At (b : Bytes) (i : Nat) : Nat := Bytes.beNat [b.at i, b.at (i + 1)]

def keyInfoAt (frame : Bytes) : UInt16 := etherTypeAt frame 5

inductive EapolMessage where
  | m1
  | m3
deriving DecidableEq

/-- The message the state machine takes a frame for, if any. -/
def classify (d : Device) (payload : Bytes) : Option EapolMessage :=
  if payload.length < 99 then none
  else if payload.at 1 ≠ 3 then none
  else if payload.length < 4 + be16At payload 2 then none
  else if isM1 (keyInfoAt payload) then some .m1
  else if isM3 (keyInfoAt payload) ∧ d.fEapolState = .kEapolWaitM3 ∧ d.fPtkValid then some .m3
  else none

def handleEapolFrame (d : Device) (payload : Bytes) (senderMac : Mac) (env : Env) :
    Device × List Action :=
  match d.classify payload with
  | none => (d, [])
  | some .m1 => d.handleM1 payload senderMac env
  | some .m3 =>
    d.handleM3 (payload ++ env.stack) (be16At payload 2) (be16At payload 97) senderMac env

def inboxPayload (d : Device) : Bytes := d.fEapolInbox.payload.bytes.take d.fEapolInbox.length

def takeInbox (d : Device) : Device := { d with fEapolPending := false }

/-- One wakeup of `_Eapol4WayLoop`. -/
def eapolWorker (d : Device) (env : Env) : Device × List Action :=
  if d.fRemoved then (d, [])
  else if d.fEapolPending then
    d.takeInbox.handleEapolFrame d.inboxPayload d.fEapolInbox.senderMac env
  else (d, [])

end Device
end Rtl8814au
