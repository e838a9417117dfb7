import Rtl8814au.Crypto.Ccmp
import Rtl8814au.Crypto.Sha1
import Rtl8814au.Crypto.Unwrap

/-!
# Device.State

The part of `RTL8814AUDevice` that its data path, its association and its key handling work on.

* `Device`: the fields, as `Device.h` declares them. Arrays are `Buf`s, ring indices are `Fin`s.
* `Env`: what a step gets from outside the driver: the status of a transmission or of the register
  writes, the SNonce, the scan result for an SSID, what uninitialised stack memory holds.
* `Action`: what a step does that can be observed, in order.
-/

namespace Rtl8814au

inductive Status where
  | ok
  | error
  | noInit
  | notInitialized
  | badValue
  | bufferOverflow
  | devNotReady
  | nameNotFound
  | unsupported
  | timedOut
deriving DecidableEq

inductive JoinState where
  | kJoinIdle
  | kJoinAuthenticating
  | kJoinAssociating
  | kJoinConnected
deriving DecidableEq

inductive EapolState where
  | kEapolIdle
  | kEapolWaitM1
  | kEapolWaitM3
  | kEapolDone
deriving DecidableEq

structure EapolFrame where
  senderMac : Buf 6
  length : Nat
  payload : Buf 300
deriving DecidableEq

structure RxRingEntry where
  data : Buf 2400
  length : Nat
deriving DecidableEq

def kRxRingFrameMaxSize : Nat := 2400

abbrev Mac := Buf 6

structure Device where
  fRemoved : Bool
  fMacAddress : Mac
  fJoinSsid : Buf 33
  fJoinSsidLength : Nat
  fJoinBssid : Mac
  fPrivacy : Int
  fDropUnencrypted : Int
  fWpaIe : Buf 256
  fWpaIeLength : Nat
  fJoinState : JoinState
  fJoinSeqCounter : UInt16
  fRxRing : Fin 64 → RxRingEntry
  fRxRingHead : Fin 64
  fRxRingTail : Fin 64
  fEapolInbox : EapolFrame
  fEapolPending : Bool
  fEapolState : EapolState
  fAnonce : Buf 32
  fSnonce : Buf 32
  fPmk : Buf 32
  fPmkValid : Bool
  fPtk : Buf 48 -- KCK, KEK and TK, 16 bytes each.
  fPtkValid : Bool
  fM1ReplayCounter : UInt64
  fSupplicantTk : Crypto.Block
  fSupplicantTkValid : Bool
  fSupplicantGtk : Crypto.Block
  fSupplicantGtkId : UInt8
  fSupplicantGtkValid : Bool
  fCcmpEnabled : Bool
  fGtk : Crypto.Block
  fGtkKeyId : UInt8
  fGtkValid : Bool
  fTxPnPairwise : UInt64
  fTxPnGroup : UInt64

structure Env where
  transmit : Status -- What `TxPath::Transmit` returns.
  registers : Status -- What the CAM and SECCFG writes return.
  snonce : Buf 32 -- What `_GenerateSnonce` makes of the clocks.
  bss : Option Mac -- The BSSID `FindBssBySsid` finds for the SSID being joined.
  is5GHz : Bool -- Whether the current channel is a 5 GHz one.
  stack : Bytes -- Stack memory behind the received EAPOL bytes.
  m3copy : Buf 300 -- `m3copy` before it is written.

inductive Action where
  | ccmpEncrypt (tk : Crypto.Block) (pn : UInt64) -- `ccmp_encrypt` called by `Write`.
  -- A frame `Write` hands to `Transmit`, with the ethertype of the packet in it.
  | transmitData (etherType : UInt16) (frame : Bytes)
  | transmitEapol (frame : Bytes) -- A frame `_TxEapolDataFrame` hands to `Transmit`.
  | transmitAuthRequest (frame : Bytes)
  -- An association request, and whether the stored RSN IE is in it.
  | transmitAssocRequest (frame : Bytes) (haveRsnIe : Bool)
  | enqueue (received : Bytes) (entry : RxRingEntry) -- A received frame placed in the RX ring.
  -- Session keys accepted: a verified message 3, or a completed `IOC_WPAKEY`.
  | installKeys (tk : Crypto.Block)
  | joinRequest -- `_DoJoin` entered.
deriving DecidableEq

/-- What a call leaves behind, does and returns. -/
structure Reply where
  device : Device
  actions : List Action
  status : Status

namespace Device

def kck (d : Device) : Bytes := d.fPtk.bytes.take 16

def kek (d : Device) : Crypto.Block := ⟨d.fPtk.bytes.slice 16 16, Bytes.length_slice (by simp)⟩

def tk (d : Device) : Crypto.Block := ⟨d.fPtk.bytes.slice 32 16, Bytes.length_slice (by simp)⟩

/-- After construction and `_InitHardware`, with the address read from the EFUSE. -/
def init (mac : Mac) : Device where
  fRemoved := false
  fMacAddress := mac
  fJoinSsid := Buf.zero 33
  fJoinSsidLength := 0
  fJoinBssid := Buf.zero 6
  fPrivacy := 0
  fDropUnencrypted := 0
  fWpaIe := Buf.zero 256
  fWpaIeLength := 0
  fJoinState := .kJoinIdle
  fJoinSeqCounter := 0
  fRxRing := fun _ => { data := Buf.zero 2400, length := 0 }
  fRxRingHead := 0
  fRxRingTail := 0
  fEapolInbox := { senderMac := Buf.zero 6, length := 0, payload := Buf.zero 300 }
  fEapolPending := false
  fEapolState := .kEapolIdle
  fAnonce := Buf.zero 32
  fSnonce := Buf.zero 32
  fPmk := Buf.zero 32
  fPmkValid := false
  fPtk := Buf.zero 48
  fPtkValid := false
  fM1ReplayCounter := 0
  fSupplicantTk := Buf.zero 16
  fSupplicantTkValid := false
  fSupplicantGtk := Buf.zero 16
  fSupplicantGtkId := 0
  fSupplicantGtkValid := false
  fCcmpEnabled := false
  fGtk := Buf.zero 16
  fGtkKeyId := 0
  fGtkValid := false
  fTxPnPairwise := 1
  fTxPnGroup := 1

end Device
end Rtl8814au
