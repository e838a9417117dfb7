import Rtl8814au.Lib.Bytes

/-!
# Spec.Rfc3174

SHA-1 as RFC 3174 gives it, for messages of whole bytes: the words, functions and constants of one
block, the padding, and the digest of a message below `2^64` bits.
-/

namespace Rtl8814au
namespace Spec
namespace Rfc3174

/-- The circular left shift `S^n`. -/
def circularShift (n : UInt32) (x : UInt32) : UInt32 := (x <<< n) ||| (x >>> (32 - n))

/-- The logical function of step `t`. -/
def f (t : Nat) (b c d : UInt32) : UInt32 :=
  if t ≤ 19 then (b &&& c) ||| (~~~b &&& d)
  else if t ≤ 39 then b ^^^ c ^^^ d
  else if t ≤ 59 then (b &&& c) ||| (b &&& d) ||| (c &&& d)
  else b ^^^ c ^^^ d

/-- The constant of step `t`. -/
def K (t : Nat) : UInt32 :=
  if t ≤ 19 then 0x5A827999
  else if t ≤ 39 then 0x6ED9EBA1
  else if t ≤ 59 then 0x8F1BBCDC
  else 0xCA62C1D6

/-- The word sequence of a block of 64 bytes. -/
def W (block : Bytes) (t : Nat) : UInt32 :=
  if t < 16 then UInt32.ofNat (Bytes.beNat (block.slice (4 * t) 4))
  else circularShift 1 (W block (t - 3) ^^^ W block (t - 8) ^^^ W block (t - 14) ^^^ W block (t - 16))
termination_by t

/-- Five words: `H0 .. H4`, or the working words `A .. E`. -/
structure Words where
  A : UInt32
  B : UInt32
  C : UInt32
  D : UInt32
  E : UInt32

def initial : Words :=
  { A := 0x67452301, B := 0xEFCDAB89, C := 0x98BADCFE, D := 0x10325476, E := 0xC3D2E1F0 }

def step (block : Bytes) (w : Words) (t : Nat) : Words :=
  { A := circularShift 5 w.A + f t w.B w.C w.D + w.E + W block t + K t
    B := w.A
    C := circularShift 30 w.B
    D := w.C
    E := w.D }

def processBlock (H : Words) (block : Bytes) : Words :=
  let w := (List.range 80).foldl (step block) H
  { A := H.A + w.A, B := H.B + w.B, C := H.C + w.C, D := H.D + w.D, E := H.E + w.E }

/-- How many zero bytes follow the byte with the one bit, behind `len` bytes. -/
def zeroBytes (len : Nat) : Nat := (119 - len % 64) % 64

/-- The fewest that leave room for the length at the end of a block. -/
theorem zeroBytes_fewest (len : Nat) : (len + 1 + zeroBytes len) % 64 = 56 ∧
    ∀ k, (len + 1 + k) % 64 = 56 → zeroBytes len ≤ k := by
  unfold zeroBytes
  constructor
  · omega
  · intro k hk
    omega

def pad (message : Bytes) : Bytes :=
  message ++ [0x80] ++ Bytes.zeros (zeroBytes message.length) ++ Bytes.be 8 (8 * message.length)

def Words.bytes (H : Words) : Bytes :=
  Bytes.be 4 H.A.toNat ++ Bytes.be 4 H.B.toNat ++ Bytes.be 4 H.C.toNat ++ Bytes.be 4 H.D.toNat ++
    Bytes.be 4 H.E.toNat

def sha1 (message : Bytes) : Bytes :=
  ((Bytes.chunksOf 64 (pad message)).foldl processBlock initial).bytes

end Rfc3174
end Spec
end Rtl8814au
