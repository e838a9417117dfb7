import Rtl8814au.Lib.Bytes

/-!
# Crypto.Sha1

SHA-1, HMAC-SHA1 and the two derivation functions built on it, as `WPA2Crypto.cpp` computes them.

* `sha1Update`, `sha1Final`: the incremental interface, with the 64-byte buffer of `Sha1Ctx`.
* `hmacSha1`: two passes over one context.
* `prf384`, `pbkdf2HmacSha1`: the 48-byte PTK derivation and the passphrase-to-PMK derivation.
-/

namespace Rtl8814au
namespace Crypto

def rotl32 (x n : UInt32) : UInt32 := (x <<< n) ||| (x >>> (32 - n))

structure Sha1State where
  a : UInt32
  b : UInt32
  c : UInt32
  d : UInt32
  e : UInt32
deriving DecidableEq

def blockWord (block : Bytes) (i : Nat) : UInt32 :=
  ((block.at (i * 4)).toUInt32 <<< 24) ||| ((block.at (i * 4 + 1)).toUInt32 <<< 16) |||
    ((block.at (i * 4 + 2)).toUInt32 <<< 8) ||| (block.at (i * 4 + 3)).toUInt32

/-- The next word of the message schedule. -/
def sha1ScheduleStep (w : List UInt32) : List UInt32 :=
  let i := w.length
  w ++ [rotl32 (w.getD (i - 3) 0 ^^^ w.getD (i - 8) 0 ^^^ w.getD (i - 14) 0 ^^^ w.getD (i - 16) 0) 1]

def sha1Schedule (block : Buf 64) : List UInt32 :=
  Nat.repeat sha1ScheduleStep 64 ((List.range 16).map (blockWord block.bytes))

def sha1Round (w : List UInt32) (v : Sha1State) (i : Nat) : Sha1State :=
  let (f, k) :=
    if i < 20 then ((v.b &&& v.c) ||| (~~~v.b &&& v.d), (0x5A827999 : UInt32))
    else if i < 40 then (v.b ^^^ v.c ^^^ v.d, 0x6ED9EBA1)
    else if i < 60 then ((v.b &&& v.c) ||| (v.b &&& v.d) ||| (v.c &&& v.d), 0x8F1BBCDC)
    else (v.b ^^^ v.c ^^^ v.d, 0xCA62C1D6)
  let t := rotl32 v.a 5 + f + v.e + k + w.getD i 0
  { a := t, b := v.a, c := rotl32 v.b 30, d := v.c, e := v.d }

def sha1Transform (state : Sha1State) (block : Buf 64) : Sha1State :=
  let v := (List.range 80).foldl (sha1Round (sha1Schedule block)) state
  { a := state.a + v.a, b := state.b + v.b, c := state.c + v.c, d := state.d + v.d,
    e := state.e + v.e }

/-! ## The incremental interface -/

structure Sha1Ctx where
  state : Sha1State
  bitCount : UInt64
  buffer : Buf 64
deriving DecidableEq

def sha1InitState : Sha1State :=
  { a := 0x67452301, b := 0xEFCDAB89, c := 0x98BADCFE, d := 0x10325476, e := 0xC3D2E1F0 }

/-- The buffer starts out uninitialised; a byte of it is written before it is read. -/
def sha1Init : Sha1Ctx := { state := sha1InitState, bitCount := 0, buffer := Buf.zero 64 }

/-- `(ctx->bitCount >> 3) & 63`, the bytes waiting in the buffer. -/
def Sha1Ctx.buffered (ctx : Sha1Ctx) : Nat := ((ctx.bitCount >>> 3) &&& 63).toNat

/-- `n` turns of `while (offset + 64 <= len)`: the state, and the data from `offset` on. -/
def sha1Blocks : Nat → Sha1State → Bytes → Sha1State × Bytes
  | 0, state, data => (state, data)
  | n + 1, state, data =>
    sha1Blocks n (sha1Transform state (Buf.ofBytes 64 (data.take 64))) (data.drop 64)

def sha1Update (ctx : Sha1Ctx) (data : Bytes) : Sha1Ctx :=
  let i := ctx.buffered
  let bitCount := ctx.bitCount + (UInt64.ofNat data.length <<< 3)
  if i + data.length < 64 then
    { ctx with bitCount := bitCount, buffer := ctx.buffer.copyAt i data }
  else
    let first := 64 - i
    let buffer := ctx.buffer.copyAt i (data.take first)
    let rest := data.drop first
    let r := sha1Blocks (rest.length / 64) (sha1Transform ctx.state buffer) rest
    { state := r.1, bitCount := bitCount, buffer := buffer.copyAt 0 r.2 }

def Sha1State.digest (s : Sha1State) : Buf 20 :=
  ⟨Bytes.be 4 s.a.toNat ++ Bytes.be 4 s.b.toNat ++ Bytes.be 4 s.c.toNat ++ Bytes.be 4 s.d.toNat ++
    Bytes.be 4 s.e.toNat, by simp⟩

def sha1Final (ctx : Sha1Ctx) : Buf 20 :=
  let bitLen := ctx.bitCount
  let i := ctx.buffered
  let buffer := ctx.buffer.copyAt i [0x80]
  let i := i + 1
  let (state, buffer, i) :=
    if i > 56 then
      let buffer := buffer.copyAt i (Bytes.zeros (64 - i))
      (sha1Transform ctx.state buffer, buffer, 0)
    else (ctx.state, buffer, i)
  let buffer := buffer.copyAt i (Bytes.zeros (56 - i))
  let buffer := buffer.copyAt 56 (Bytes.be 8 bitLen.toNat)
  (sha1Transform state buffer).digest

def sha1 (data : Bytes) : Buf 20 := sha1Final (sha1Update sha1Init data)

/-! ## HMAC-SHA1 -/

/-- The key, hashed down when it is longer than a block, zero-padded to a block. -/
def hmacKeyBuf (key : Bytes) : Buf 64 :=
  if key.length > 64 then Buf.ofBytes 64 (sha1 key).bytes else Buf.ofBytes 64 key

def hmacSha1 (key msg : Bytes) : Buf 20 :=
  let keyBuf := hmacKeyBuf key
  let ipad := keyBuf.map (· ^^^ 0x36)
  let opad := keyBuf.map (· ^^^ 0x5C)
  let inner := sha1Final (sha1Update (sha1Update sha1Init ipad.bytes) msg)
  sha1Final (sha1Update (sha1Update sha1Init opad.bytes) inner.bytes)

/-! ## PRF-384 and PBKDF2 -/

def prf384 (key label data : Bytes) : Buf 48 :=
  if label.length + 1 + data.length + 1 > 256 then Buf.zero 48
  else
    let hash (i : UInt8) : Bytes := (hmacSha1 key (label ++ [0] ++ data ++ [i])).bytes
    Buf.ofBytes 48 (hash 0 ++ hash 1 ++ (hash 2).take 8)

/-- `n` further iterations of one block, from `U` and `T`. -/
def pbkdf2Block (password : Bytes) : Nat → Buf 20 → Buf 20 → Buf 20
  | 0, _, t => t
  | n + 1, u, t =>
    let u := hmacSha1 password u.bytes
    pbkdf2Block password n u (t.xor u)

def pbkdf2HmacSha1 (password salt : Bytes) (iterations outputLen : Nat) : Buf outputLen :=
  if salt.length + 4 > 256 then Buf.zero outputLen
  else
    let t (block : Nat) : Buf 20 :=
      let u := hmacSha1 password (salt ++ Bytes.be 4 block)
      pbkdf2Block password (iterations - 1) u u
    Buf.ofBytes outputLen (((List.range ((outputLen + 19) / 20)).map fun b => (t (b + 1)).bytes).flatten)

end Crypto
end Rtl8814au
