import Rtl8814au.Device.Eapol
import Rtl8814au.Device.Join

/-!
# Device.Ioctl

`_Set80211`, request by request. User memory is readable, so no request fails with `B_BAD_ADDRESS`.

* `wpaKey`: session keys from an external supplicant, which arrive one at a time.
* `haikuJoinPsk`: a passphrase for the in-driver handshake.
-/

namespace Rtl8814au

inductive Request where
  | ssid (data : Bytes)
  | bssid (data : Bytes)
  | mlme (op : UInt8) (macaddr : Mac) (ssidLen : UInt8) (ssid : Buf 32)
  | appie (data : Bytes) -- `IOC_APPIE` with `IEEE80211_APPIE_WPA`.
  | wpaKey (keyix : UInt16) (keylen : UInt8) (macaddr : Mac) (keydata : Crypto.Block)
  | dropUnencrypted (val : Int)
  | privacy (val : Int)
  | haikuJoinPsk (bssid : Mac) (ssidLen : UInt8) (ssid : Buf 32) (passphraseLen : UInt8)
      (passphrase : Buf 64)
  | haikuJoin
  | other -- A request that only logs, scans or stores a value nothing modelled here reads.
deriving DecidableEq

namespace Device

open Crypto

def kMlmeAssoc : UInt8 := 1
def kMlmeDisassoc : UInt8 := 2
def kMlmeDeauth : UInt8 := 3

def kKeyixNone : UInt16 := 0xFFFF

/-- `memcpy` of the SSID and its terminator. -/
def setSsid (d : Device) (ssid : Bytes) : Device :=
  { d with fJoinSsid := d.fJoinSsid.copyAt 0 (ssid ++ [0]), fJoinSsidLength := ssid.length }

/-- A deauthentication request is ignored while the in-driver handshake is in flight. -/
def disconnectRequest (d : Device) : Device :=
  if d.fPmkValid ∧ d.fEapolState ≠ .kEapolDone ∧ d.fEapolState ≠ .kEapolIdle then d
  else { d with fJoinState := .kJoinIdle }

def mlme (d : Device) (op : UInt8) (macaddr : Mac) (ssidLen : UInt8) (ssid : Buf 32) (env : Env) :
    Reply :=
  if op = kMlmeAssoc then
    let ssidLen := min ssidLen.toNat 32
    d.doJoin macaddr (ssid.bytes.take ssidLen ++ [0]) ssidLen env
  else if op = kMlmeDeauth ∨ op = kMlmeDisassoc then ⟨d.disconnectRequest, [], .ok⟩
  else ⟨d, [], .ok⟩

def appie (d : Device) (data : Bytes) : Reply :=
  if data.length = 0 then ⟨{ d with fWpaIeLength := 0 }, [], .ok⟩
  else if data.length > 256 then ⟨d, [], .bufferOverflow⟩
  else ⟨{ d with fWpaIe := d.fWpaIe.copyAt 0 data, fWpaIeLength := data.length }, [], .ok⟩

/-- The first locked section of `IOC_WPAKEY`. -/
def holdKey (d : Device) (keyix : UInt16) (macaddr : Mac) (keydata : Block) : Device :=
  if keyix = kKeyixNone then
    { d with
      fSupplicantTk := keydata
      fSupplicantTkValid := true
      fJoinBssid := if macaddr = Buf.zero 6 then d.fJoinBssid else macaddr }
  else
    { d with
      fSupplicantGtk := keydata
      fSupplicantGtkId := keyix.toUInt8 &&& 0x03
      fSupplicantGtkValid := true }

/-- The second one. -/
def armKeys (d : Device) : Device :=
  { d with
    fPtk := d.fPtk.copyAt 32 d.fSupplicantTk.bytes
    fPtkValid := true
    fGtk := d.fSupplicantGtk
    fGtkKeyId := d.fSupplicantGtkId
    fGtkValid := true
    fCcmpEnabled := true
    fTxPnPairwise := 1
    fTxPnGroup := 1 }

def wpaKey (d : Device) (keyix : UInt16) (keylen : UInt8) (macaddr : Mac) (keydata : Block)
    (env : Env) : Reply :=
  if keylen ≠ 16 then ⟨d, [], .unsupported⟩
  else
    let d := d.holdKey keyix macaddr keydata
    if ¬ d.fSupplicantTkValid ∨ ¬ d.fSupplicantGtkValid then ⟨d, [], .ok⟩
    else
      let keyStatus := installSessionKeys
        { gtkKey := d.fSupplicantGtk.bytes, gtkKeyId := d.fSupplicantGtkId } env
      if keyStatus ≠ .ok then ⟨d, [], keyStatus⟩
      else ⟨d.armKeys, [.installKeys d.fSupplicantTk], .ok⟩

/-- AKM PSK, with CCMP for both ciphers. -/
def sRsnIeCcmpPsk : Bytes :=
  [0x30, 0x14, 0x01, 0x00, 0x00, 0x0F, 0xAC, 0x04, 0x01, 0x00, 0x00, 0x0F, 0xAC, 0x04, 0x01, 0x00,
    0x00, 0x0F, 0xAC, 0x02, 0x00, 0x00]

def defaultRsnIe (d : Device) : Device :=
  if d.fWpaIeLength = 0 then
    { d with fWpaIe := d.fWpaIe.copyAt 0 sRsnIeCcmpPsk, fWpaIeLength := sRsnIeCcmpPsk.length }
  else d

def setPmk (d : Device) (passphrase ssid : Bytes) : Device :=
  { d with
    fPmk := pbkdf2HmacSha1 passphrase ssid 4096 32
    fPmkValid := true
    fPtkValid := false
    fEapolState := .kEapolWaitM1 }

def haikuJoinPsk (d : Device) (bssid : Mac) (ssidLen : UInt8) (ssid : Buf 32)
    (passphraseLen : UInt8) (passphrase : Buf 64) (env : Env) : Reply :=
  if ssidLen = 0 ∨ ssidLen > 32 ∨ passphraseLen = 0 ∨ passphraseLen > 63 then ⟨d, [], .badValue⟩
  else
    let ssid := ssid.bytes.take ssidLen.toNat
    let d := (d.setPmk (passphrase.bytes.take passphraseLen.toNat) ssid).setSsid ssid
    let d := defaultRsnIe { d with fJoinBssid := bssid }
    d.doJoin d.fJoinBssid d.fJoinSsid.bytes d.fJoinSsidLength env

def haikuJoin (d : Device) (env : Env) : Reply :=
  if d.fJoinSsidLength = 0 then ⟨d, [], .notInitialized⟩
  else d.doJoin d.fJoinBssid d.fJoinSsid.bytes d.fJoinSsidLength env

def set80211 (d : Device) (request : Request) (env : Env) : Reply :=
  match request with
  | .ssid data => ⟨d.setSsid (data.take 32), [], .ok⟩
  | .bssid data =>
    if data.length < 6 then ⟨d, [], .badValue⟩
    else ⟨{ d with fJoinBssid := Buf.ofBytes 6 data }, [], .ok⟩
  | .mlme op macaddr ssidLen ssid => d.mlme op macaddr ssidLen ssid env
  | .appie data => d.appie data
  | .wpaKey keyix keylen macaddr keydata => d.wpaKey keyix keylen macaddr keydata env
  | .dropUnencrypted val => ⟨{ d with fDropUnencrypted := val }, [], .ok⟩
  | .privacy val => ⟨{ d with fPrivacy := val }, [], .ok⟩
  | .haikuJoinPsk bssid ssidLen ssid passphraseLen passphrase =>
    d.haikuJoinPsk bssid ssidLen ssid passphraseLen passphrase env
  | .haikuJoin => d.haikuJoin env
  | .other => ⟨d, [], .ok⟩

/-- `Control` with `SIOCS80211`. -/
def control (d : Device) (request : Request) (env : Env) : Reply :=
  if d.fRemoved then ⟨d, [], .devNotReady⟩ else d.set80211 request env

end Device
end Rtl8814au
