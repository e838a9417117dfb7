import Rtl8814au.Lib.Hmac
import Rtl8814au.Spec.Rfc3174

/-!
# Spec.KeyDerivation

The keyed hash of the key hierarchy and the two derivations over it.

* `hmacSha1`: HMAC over SHA-1, whose blocks have 64 bytes.
* `pbkdf2`: PBKDF2 over it, with hashes of 20 bytes.
* `prf`: the PRF of 802.11i, for outputs of any number of bits that is a multiple of eight.
-/

namespace Rtl8814au
namespace Spec
namespace KeyDerivation

def hmacSha1 (key text : Bytes) : Bytes := Hmac.hmac Rfc3174.sha1 64 key text

def pbkdf2 (password salt : Bytes) (c dkLen : Nat) : Option Bytes :=
  Pbkdf2.derivedKey hmacSha1 20 password salt c dkLen

/-- `H-SHA-1(K, A, B, X)`. -/
def hSha1 (key label data : Bytes) (x : UInt8) : Bytes :=
  hmacSha1 key (label ++ [0] ++ data ++ [x])

/-- The first `bits` bits of the hashes for `i` from `0` to `(bits + 159) / 160`. -/
def prf (key label data : Bytes) (bits : Nat) : Bytes :=
  ((List.range ((bits + 159) / 160 + 1)).flatMap fun i =>
    hSha1 key label data (UInt8.ofNat i)).take (bits / 8)

theorem length_hmacSha1 (key text : Bytes) : (hmacSha1 key text).length = 20 := rfl

end KeyDerivation
end Spec
end Rtl8814au
