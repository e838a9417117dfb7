import Rtl8814au.Lib.KeyWrap
import Rtl8814au.Crypto.Aes

/-!
# Crypto.Unwrap

`aes_unwrap`, the key unwrap that yields the key data of message 3.

The plaintext buffer is held as its 8-byte blocks. Each pass of the inner loop goes from the last
block down to the first, which is how `unwrapPass` recurses.
-/

namespace Rtl8814au
namespace Crypto

abbrev Half := Buf 8

/-- `A ^= t`, with `t` big-endian. -/
def xorCounter (t : Nat) (a : Half) : Half := a.xor ⟨Bytes.be 8 t, by simp⟩

def splitBlock (b : Block) : Half × Half :=
  (⟨b.bytes.take 8, by simp⟩, ⟨b.bytes.drop 8, by simp⟩)

def joinBlock (x : Half × Half) : Block := ⟨x.1.bytes ++ x.2.bytes, by simp⟩

def halves (b : Bytes) : List Half := (Bytes.chunksOf 8 b).map (Buf.ofBytes 8)

def halvesBytes (rs : List Half) : Bytes := (rs.map Buf.bytes).flatten

/-- One pass of the inner loop, down to block `i`. -/
def aesUnwrapPass (kek : Block) (n j : Nat) : Nat → Half → List Half → Half × List Half
  | _, a, [] => (a, [])
  | i, a, r :: rs =>
    let s := aesUnwrapPass kek n j (i + 1) a rs
    let block := splitBlock (aes128Decrypt kek (joinBlock (xorCounter (n * j + i) s.1, r)))
    (block.1, block.2 :: s.2)

def wrapIv : Half := ⟨List.replicate 8 0xA6, rfl⟩

/-- Whether the integrity check passed, and the plaintext buffer. -/
def aesUnwrap (kek : Block) (cipher : Bytes) : Bool × Bytes :=
  if cipher.length < 16 ∨ cipher.length % 8 ≠ 0 then (false, [])
  else
    let n := cipher.length / 8 - 1
    let r := [5, 4, 3, 2, 1, 0].foldl (fun s j => aesUnwrapPass kek n j 1 s.1 s.2)
      (Buf.ofBytes 8 cipher, halves (cipher.drop 8))
    (r.1 = wrapIv, halvesBytes r.2)

end Crypto
end Rtl8814au
