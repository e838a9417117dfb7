import Rtl8814au.Device.State

/-!
# Device.Data

The data path: `Write`, and the part of `_RxFrameReceived` that turns a received data frame into an
EAPOL message or a ring entry.

* `write`: one Ethernet frame to one 802.11 frame, encrypted when CCMP is set up.
* `rxDecap`: the length checks, the software decryption and the LLC/SNAP check, in `uint32`.
* `rxDeliver`: the EAPOL inbox and the RX ring. It has no result when a copy would run past its
  destination: a wrapped payload length passes the size check of the ring and nothing is defined
  after the copy of 4 GiB it leads to.
-/

namespace Rtl8814au

namespace Device

open Crypto

/-! ## Write -/

/-- The 24-byte header of a ToDS data frame. -/
def dataHeader (bssid src dst : Bytes) : Bytes :=
  [0x08, 0x01, 0, 0] ++ bssid ++ src ++ dst ++ [0, 0]

def llcSnap (etherType : UInt16) : Bytes :=
  [0xAA, 0xAA, 0x03, 0x00, 0x00, 0x00, (etherType >>> 8).toUInt8, etherType.toUInt8]

def etherTypeEapol : UInt16 := 0x888E

def etherTypeAt (b : Bytes) (i : Nat) : UInt16 :=
  ((b.at i).toUInt16 <<< 8) ||| (b.at (i + 1)).toUInt16

def takePn (d : Device) : Device := { d with fTxPnPairwise := d.fTxPnPairwise + 1 }

def write (d : Device) (buffer : Bytes) (env : Env) : Reply :=
  if d.fRemoved then ⟨d, [], .devNotReady⟩
  else if buffer.length = 0 then ⟨d, [], .badValue⟩
  else if buffer.length < 14 then ⟨d, [], .badValue⟩
  else if d.fJoinState ≠ .kJoinConnected then ⟨d, [], .devNotReady⟩
  else
    let dstMAC := buffer.slice 0 6
    let srcMAC := buffer.slice 6 6
    let etherType := etherTypeAt buffer 12
    let payloadLen := UInt32.ofNat buffer.length - 14
    if payloadLen > 1600 then ⟨d, [], .bufferOverflow⟩
    else
      let frame := dataHeader d.fJoinBssid.bytes srcMAC dstMAC ++ llcSnap etherType ++
        buffer.slice 14 payloadLen.toNat
      if d.fCcmpEnabled ∧ etherType ≠ etherTypeEapol then
        if payloadLen + 32 + 16 > 1632 then ⟨d, [], .bufferOverflow⟩
        else if ¬ d.fPtkValid then ⟨d, [], .devNotReady⟩
        else
          let pn := d.fTxPnPairwise
          let r := ccmpEncrypt d.tk frame 24 pn 0
          if r.1 = 0 then ⟨d.takePn, [.ccmpEncrypt d.tk pn], .error⟩
          else ⟨d.takePn, [.ccmpEncrypt d.tk pn, .transmitData etherType r.2], env.transmit⟩
      else ⟨d, [.transmitData etherType frame], env.transmit⟩

/-! ## Decapsulation of a received data frame -/

/-- `memmove(b + dst, b + src, n)`. -/
def memmove (b : Bytes) (dst src n : Nat) : Bytes :=
  b.take dst ++ b.slice src n ++ b.drop (dst + n)

def isQosData (frame : Bytes) : Bool := (frame.at 0 >>> 4) &&& 0x08 ≠ 0

def k80211HeaderLen (frame : Bytes) : UInt32 := if isQosData frame then 26 else 24

def isProtected (frame : Bytes) : Bool := frame.at 1 &&& 0x40 ≠ 0

def isGroupAddressed (frame : Bytes) : Bool := frame.at 4 &&& 0x01 ≠ 0

/-- The key that `Addr1` selects, when it is valid. -/
def rxKey (d : Device) (frame : Bytes) : Option Block :=
  if isGroupAddressed frame then
    if d.fGtkValid then some d.fGtk else none
  else if d.fPtkValid then some d.tk
  else none

/-- `frameData` and `frameLength` past the decryption branch. The buffer keeps the bytes behind the
shortened frame. -/
def rxDecrypt (d : Device) (frame : Bytes) : Option (Bytes × UInt32) :=
  let frameLength := UInt32.ofNat frame.length
  let hdr := k80211HeaderLen frame
  if isProtected frame ∧ d.fCcmpEnabled then
    if frameLength > 2400 then none
    else if frameLength < hdr + 8 + 8 then none
    else
      match d.rxKey frame with
      | none => none
      | some key =>
        match ccmpDecrypt key frame hdr.toNat with
        | (false, _) => none
        | (true, decryptBuf) =>
          let payloadStart := hdr + 8
          let payloadLen := frameLength - payloadStart - 8
          let decryptBuf := memmove decryptBuf hdr.toNat payloadStart.toNat payloadLen.toNat
          some (decryptBuf.set 1 (decryptBuf.at 1 &&& ~~~0x40), hdr + payloadLen)
  else some (frame, frameLength)

/-- What is in hand past the LLC/SNAP check. -/
structure Decap where
  hdrLen : UInt32
  frameData : Bytes
  frameLength : UInt32
  payloadLen : UInt32
  ethLen : UInt32

def rxDecap (d : Device) (frame : Bytes) : Option Decap :=
  let hdr := k80211HeaderLen frame
  if UInt32.ofNat frame.length < hdr + 8 then none
  else
    match d.rxDecrypt frame with
    | none => none
    | some (frameData, frameLength) =>
      if frameData.slice hdr.toNat 3 ≠ [0xAA, 0xAA, 0x03] then none
      else
        let payloadLen := frameLength - hdr - 8
        some { hdrLen := hdr, frameData := frameData, frameLength := frameLength,
               payloadLen := payloadLen, ethLen := 14 + payloadLen }

/-! ## The two sinks -/

inductive Sink where
  | drop
  | inbox
  | ring
deriving DecidableEq

def Decap.etherType (r : Decap) : UInt16 := etherTypeAt r.frameData (r.hdrLen.toNat + 6)

def rxSink (d : Device) (r : Decap) : Sink :=
  if r.etherType = etherTypeEapol ∧ d.fPmkValid then
    if r.frameData.slice 4 6 ≠ d.fMacAddress.bytes then .drop
    else if r.frameData.slice 10 6 ≠ d.fJoinBssid.bytes then .drop
    else if r.payloadLen > 300 then .drop
    else .inbox
  else if r.ethLen > UInt32.ofNat kRxRingFrameMaxSize then .drop
  else .ring

def Decap.payload (r : Decap) : Bytes := r.frameData.slice (r.hdrLen.toNat + 8) r.payloadLen.toNat

def Decap.inboxFrame (r : Decap) (old : EapolFrame) : EapolFrame :=
  { senderMac := Buf.ofBytes 6 (r.frameData.slice 16 6), length := r.payloadLen.toNat,
    payload := old.payload.copyAt 0 r.payload }

/-- Destination, source and ethertype in front of the payload. -/
def Decap.ringEntry (r : Decap) (old : RxRingEntry) : RxRingEntry :=
  { data := old.data.copyAt 0 (r.frameData.slice 4 6 ++ r.frameData.slice 16 6 ++
      [r.frameData.at (r.hdrLen.toNat + 6), r.frameData.at (r.hdrLen.toNat + 7)] ++ r.payload),
    length := r.ethLen.toNat }

/-- A full ring loses its oldest frame. -/
def makeRoom (d : Device) : Device :=
  if d.fRxRingHead + 1 = d.fRxRingTail then
    { d with
      fRxRing := Function.update d.fRxRing d.fRxRingTail
        { d.fRxRing d.fRxRingTail with length := 0 },
      fRxRingTail := d.fRxRingTail + 1 }
  else d

def enqueue (d : Device) (entry : RxRingEntry) : Device :=
  let d := d.makeRoom
  { d with fRxRing := Function.update d.fRxRing d.fRxRingHead entry,
           fRxRingHead := d.fRxRingHead + 1 }

def rxDeliver (d : Device) (frame : Bytes) (r : Decap) : Option (Device × List Action) :=
  match d.rxSink r with
  | .drop => some (d, [])
  | .inbox => some ({ d with fEapolInbox := r.inboxFrame d.fEapolInbox, fEapolPending := true }, [])
  | .ring =>
    if 14 + r.payloadLen.toNat > kRxRingFrameMaxSize then none
    else
      let entry := r.ringEntry (d.fRxRing d.fRxRingHead)
      some (d.enqueue entry, [.enqueue frame entry])

/-- The data part of `_RxFrameReceived`. -/
def rxData (d : Device) (frame : Bytes) : Option (Device × List Action) :=
  match d.rxDecap frame with
  | none => some (d, [])
  | some r => d.rxDeliver frame r

/-! ## Read -/

/-- `Read` once it was woken: the oldest frame, cut to the caller's buffer. -/
def read (d : Device) (numBytes : Nat) : Device × Bytes :=
  let entry := d.fRxRing d.fRxRingTail
  if entry.length = 0 then (d, [])
  else
    ({ d with
        fRxRing := Function.update d.fRxRing d.fRxRingTail { entry with length := 0 },
        fRxRingTail := d.fRxRingTail + 1 },
      entry.data.bytes.take (min entry.length numBytes))

end Device
end Rtl8814au
