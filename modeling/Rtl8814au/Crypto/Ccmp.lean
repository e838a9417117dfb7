import Rtl8814au.Lib.Ccm
import Rtl8814au.Crypto.Aes

/-!
# Crypto.Ccmp

`ccmp_encrypt` and `ccmp_decrypt`, the two in-place CCMP functions of `WPA2Crypto.cpp`.

A frame is the `frameLen` bytes in use of the caller's buffer, so `frameLen` is its length; the
result is the buffer afterwards. The body loops run over the 16-byte blocks of the body, the last
one being as short as `chunk` makes it.
-/

namespace Rtl8814au
namespace Crypto

/-- The additional authenticated data, `aad[0 .. aadLen)`. -/
def ccmpAad (frame : Bytes) (hdrLen : Nat) : Bytes :=
  [frame.at 0 &&& 0x8F, frame.at 1 &&& 0xC7] ++ frame.slice 4 6 ++ frame.slice 10 6 ++
    frame.slice 16 6 ++ [frame.at 22 &&& 0x0F, 0] ++
    if hdrLen = 26 then [frame.at 24 &&& 0x0F, 0] else []

def ccmpPriority (frame : Bytes) (hdrLen : Nat) : UInt8 :=
  if hdrLen = 26 then frame.at 24 &&& 0x0F else 0

/-- The CBC-MAC state after `B_0` and the padded AAD. -/
def ccmpMacStart (tk : Block) (nonce aad : Bytes) (bodyLen : Nat) : Block :=
  let b0 : Block := Buf.ofBytes 16 (0x59 :: nonce ++ Bytes.be 2 bodyLen)
  let macState := aes128Encrypt tk b0
  let macBlock : Block := Buf.ofBytes 16 (Bytes.be 2 aad.length ++ aad.take 14)
  let macState := aes128Encrypt tk (macBlock.xor macState)
  if aad.length > 14 then aes128Encrypt tk ((Buf.ofBytes 16 (aad.drop 14)).xor macState)
  else macState

def ccmpCtrBlock (nonce : Bytes) (counter : Nat) : Block :=
  Buf.ofBytes 16 (0x01 :: nonce ++ Bytes.be 2 counter)

/-! ## Decryption -/

/-- Each block is decrypted, then folded into the MAC. -/
def ccmpDecryptLoop (tk : Block) (nonce : Bytes) :
    Nat → Block → List Bytes → Block × List Bytes
  | _, macState, [] => (macState, [])
  | counter, macState, chunk :: rest =>
    let keystream := aes128Encrypt tk (ccmpCtrBlock nonce counter)
    let plain := Bytes.xor chunk keystream.bytes
    let macState := aes128Encrypt tk ((Buf.ofBytes 16 plain).xor macState)
    let r := ccmpDecryptLoop tk nonce (counter + 1) macState rest
    (r.1, plain :: r.2)

/-- The packet number as the nonce has it, from the IV bytes. -/
def ivPnBytes (iv : Bytes) : Bytes := [iv.at 7, iv.at 6, iv.at 5, iv.at 4, iv.at 1, iv.at 0]

def ccmpDecrypt (tk : Block) (frame : Bytes) (hdrLen : Nat) : Bool × Bytes :=
  if hdrLen ≠ 24 ∧ hdrLen ≠ 26 then (false, frame)
  else if frame.length < hdrLen + 8 + 8 then (false, frame)
  else
    let iv := frame.slice hdrLen 8
    let bodyLen := frame.length - hdrLen - 8 - 8
    let body := frame.slice (hdrLen + 8) bodyLen
    let receivedMic := frame.slice (frame.length - 8) 8
    let nonce := ccmpPriority frame hdrLen :: frame.slice 10 6 ++ ivPnBytes iv
    let macState := ccmpMacStart tk nonce (ccmpAad frame hdrLen) bodyLen
    let r := ccmpDecryptLoop tk nonce 1 macState (Bytes.chunksOf 16 body)
    let s0 := aes128Encrypt tk (ccmpCtrBlock nonce 0)
    let computedMic := Bytes.xor (r.1.bytes.take 8) (s0.bytes.take 8)
    (computedMic = receivedMic, frame.take (hdrLen + 8) ++ r.2.flatten ++ receivedMic)

/-! ## Encryption -/

/-- Each block is folded into the MAC, then encrypted. -/
def ccmpEncryptLoop (tk : Block) (nonce : Bytes) :
    Nat → Block → List Bytes → Block × List Bytes
  | _, macState, [] => (macState, [])
  | counter, macState, chunk :: rest =>
    let macState := aes128Encrypt tk ((Buf.ofBytes 16 chunk).xor macState)
    let keystream := aes128Encrypt tk (ccmpCtrBlock nonce counter)
    let r := ccmpEncryptLoop tk nonce (counter + 1) macState rest
    (r.1, Bytes.xor chunk keystream.bytes :: r.2)

/-- PN5 first. -/
def pnBytes (pn : UInt64) : Bytes :=
  [(pn >>> 40).toUInt8, (pn >>> 32).toUInt8, (pn >>> 24).toUInt8, (pn >>> 16).toUInt8,
    (pn >>> 8).toUInt8, pn.toUInt8]

def ccmpIv (pn : UInt64) (keyId : UInt8) : Bytes :=
  [pn.toUInt8, (pn >>> 8).toUInt8, 0, (0x20 : UInt8) ||| ((keyId &&& 0x03) <<< 6), (pn >>> 16).toUInt8,
    (pn >>> 24).toUInt8, (pn >>> 32).toUInt8, (pn >>> 40).toUInt8]

def setProtected (frame : Bytes) : Bytes := frame.set 1 (frame.at 1 ||| 0x40)

/-- The new length, or 0 for an unsupported header, and the buffer. The caller passes at least the
header, in a buffer with room for 16 bytes more. -/
def ccmpEncrypt (tk : Block) (frame : Bytes) (hdrLen : Nat) (pn : UInt64) (keyId : UInt8) :
    UInt32 × Bytes :=
  if hdrLen ≠ 24 ∧ hdrLen ≠ 26 then (0, frame)
  else
    let header := setProtected (frame.take hdrLen)
    let body := frame.drop hdrLen
    let nonce := ccmpPriority header hdrLen :: header.slice 10 6 ++ pnBytes pn
    let macState := ccmpMacStart tk nonce (ccmpAad header hdrLen) body.length
    let r := ccmpEncryptLoop tk nonce 1 macState (Bytes.chunksOf 16 body)
    let s0 := aes128Encrypt tk (ccmpCtrBlock nonce 0)
    let mic := Bytes.xor (r.1.bytes.take 8) (s0.bytes.take 8)
    (UInt32.ofNat frame.length + 16, header ++ ccmpIv pn keyId ++ r.2.flatten ++ mic)

end Crypto
end Rtl8814au
