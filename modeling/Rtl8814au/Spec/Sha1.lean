import Rtl8814au.Crypto.Sha1

/-!
# Spec.Sha1

SHA-1, HMAC and the PRF of the key hierarchy in one piece: the whole message is padded, cut into
blocks and compressed.
-/

namespace Rtl8814au
namespace Spec

open Crypto (Sha1State sha1Transform sha1InitState)

/-- A one bit, zeros up to 56 bytes modulo 64, and the length in bits. -/
def sha1Pad (message : Bytes) : Bytes :=
  message ++ ([0x80] ++ Bytes.zeros ((119 - message.length % 64) % 64) ++
    Bytes.be 8 (8 * message.length))

def compress (state : Sha1State) (block : Bytes) : Sha1State :=
  sha1Transform state (Buf.ofBytes 64 block)

def sha1 (message : Bytes) : Bytes :=
  ((Bytes.chunksOf 64 (sha1Pad message)).foldl compress sha1InitState).digest.bytes

/-- A key longer than a block is hashed first. -/
def hmacKey (key : Bytes) : Bytes := Bytes.pad 64 (if key.length > 64 then sha1 key else key)

def hmacSha1 (key text : Bytes) : Bytes :=
  sha1 ((hmacKey key).map (· ^^^ 0x5C) ++ sha1 ((hmacKey key).map (· ^^^ 0x36) ++ text))

/-- The first `len` bytes of the hashes of `label || 0 || data || i`. -/
def prf (key label data : Bytes) (len : Nat) : Bytes :=
  (((List.range ((len + 19) / 20)).map fun i =>
    hmacSha1 key (label ++ [0] ++ data ++ [UInt8.ofNat i])).flatten).take len

example : sha1 [0x61, 0x62, 0x63] = [0xA9, 0x99, 0x3E, 0x36, 0x47, 0x06, 0x81, 0x6A, 0xBA, 0x3E,
    0x25, 0x71, 0x78, 0x50, 0xC2, 0x6C, 0x9C, 0xD0, 0xD8, 0x9D] := by decide +kernel

end Spec
end Rtl8814au
