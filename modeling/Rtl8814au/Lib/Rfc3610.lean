import Mathlib.Data.List.Nodup
import Rtl8814au.Lib.Ccm

/-!
# Lib.Rfc3610

Counter with CBC-MAC as RFC 3610 defines it, for any block cipher with blocks of 16 bytes and any
choice of its two parameters.

* `Params`: the size of the authentication field and of the length field.
* `encrypt`: the encrypted and authenticated message, for a nonce, a message and data to be
  authenticated whose sizes are allowed.
* `encrypt_eq`: the same in terms of the two chains of `Lib.Ccm`.
* `nodup_blocks`: the first MAC block and the counter blocks of one message are distinct.
-/

namespace Rfc3610

structure Params where
  M : Nat -- bytes of the authentication field
  L : Nat -- bytes of the length field
  tag_sizes : M ∈ [4, 6, 8, 10, 12, 14, 16]
  length_sizes : 2 ≤ L ∧ L ≤ 8

namespace Params

variable (p : Params)

/-- The flags of `B_0`: `Adata`, `M'`, `L'` from the high bits down. -/
def flags (adata : Bool) : Nat := 64 * adata.toNat + 8 * ((p.M - 2) / 2) + (p.L - 1)

def block0 (nonce aad message : Bytes) : Buf 16 :=
  Buf.ofBytes 16 (UInt8.ofNat (p.flags (decide (aad ≠ []))) :: (nonce ++ Bytes.be p.L message.length))

/-- The counter block `A_i`. -/
def counterBlock (nonce : Bytes) (i : Nat) : Buf 16 :=
  Buf.ofBytes 16 (UInt8.ofNat (p.L - 1) :: (nonce ++ Bytes.be p.L i))

/-- The sizes for which the input is defined. -/
def Fits (nonce aad message : Bytes) : Prop :=
  nonce.length = 15 - p.L ∧ message.length < 256 ^ p.L ∧ aad.length < 2 ^ 64

instance (nonce aad message : Bytes) : Decidable (p.Fits nonce aad message) :=
  inferInstanceAs (Decidable (_ ∧ _ ∧ _))

end Params

/-- `l(a)` ahead of the data to be authenticated. -/
def encodeLength (la : Nat) : Bytes :=
  if la < 2 ^ 16 - 2 ^ 8 then Bytes.be 2 la
  else if la < 2 ^ 32 then [0xFF, 0xFE] ++ Bytes.be 4 la
  else [0xFF, 0xFF] ++ Bytes.be 8 la

/-- Blocks of 16 bytes, the last one padded with zeros. -/
def blocks (b : Bytes) : List (Buf 16) := (Bytes.chunksOf 16 b).map (Buf.ofBytes 16)

def authBlocks (aad : Bytes) : List (Buf 16) :=
  if aad = [] then [] else blocks (encodeLength aad.length ++ aad)

def blockCount (message : Bytes) : Nat := (message.length + 15) / 16

section

variable (E : Buf 16 → Buf 16)

/-- `X_1 = E(B_0)`, and `X_{i+1} = E(X_i ^ B_i)`. -/
def mac : List (Buf 16) → Buf 16
  | [] => Buf.zero 16
  | b :: bs => bs.foldl (fun x b => E (x.xor b)) (E b)

/-- `S_1 S_2 .. S_n`, where `S_i` is `E(A_i)`. -/
def keyStream (p : Params) (nonce : Bytes) (n : Nat) : Bytes :=
  (List.range n).flatMap fun i => (E (p.counterBlock nonce (i + 1))).bytes

def encrypt (p : Params) (nonce aad message : Bytes) : Option Bytes :=
  if p.Fits nonce aad message then
    let t := (mac E (p.block0 nonce aad message :: authBlocks aad ++ blocks message)).bytes.take p.M
    let u := Bytes.xor t ((E (p.counterBlock nonce 0)).bytes.take p.M)
    some (Bytes.xor message (keyStream E p nonce (blockCount message)) ++ u)
  else none

variable {E} {p : Params} {nonce aad message : Bytes}

theorem mac_cons (b : Buf 16) (bs : List Bytes) :
    mac E (b :: bs.map (Buf.ofBytes 16)) = Ccm.cbcMac E (E b) bs :=
  (Ccm.cbcMac_eq_foldl bs (E b)).symm

theorem keyStream_eq (n : Nat) : keyStream E p nonce n =
    (List.range' 1 n).flatMap fun j => (E (p.counterBlock nonce j)).bytes := by
  rw [keyStream, List.range'_eq_map_range, List.flatMap_map]
  simp only [Nat.add_comm]

/-- Data to be authenticated is there: one chain from `B_0` over it, then the message. -/
theorem encrypt_eq (hfits : p.Fits nonce aad message) (haad : aad ≠ []) :
    encrypt E p nonce aad message =
      let sealed := Ccm.sealText E (p.counterBlock nonce)
        (Ccm.cbcMac E (E (p.block0 nonce aad message))
          (Bytes.chunksOf 16 (encodeLength aad.length ++ aad))) p.M message
      some (sealed.1 ++ sealed.2) := by
  have hstream : Ccm.ctrText E (p.counterBlock nonce) message =
      Bytes.xor message (keyStream E p nonce (blockCount message)) := by
    rw [keyStream_eq]
    apply Ccm.ctrXor_chunksOf (by decide)
    rw [blockCount]
    omega
  have hmac : mac E (p.block0 nonce aad message :: authBlocks aad ++ blocks message) =
      Ccm.cbcMac E (Ccm.cbcMac E (E (p.block0 nonce aad message))
        (Bytes.chunksOf 16 (encodeLength aad.length ++ aad))) (Bytes.chunksOf 16 message) := by
    rw [← Ccm.cbcMac_append, ← mac_cons, authBlocks, if_neg haad, List.map_append]
    rfl
  rw [encrypt, if_pos hfits, hmac, ← hstream]
  rfl

end

/-! ## The blocks of one message -/

section

variable {p : Params} {nonce : Bytes}

theorem Params.bytes_counterBlock (hn : nonce.length = 15 - p.L) (i : Nat) :
    (p.counterBlock nonce i).bytes = UInt8.ofNat (p.L - 1) :: (nonce ++ Bytes.be p.L i) := by
  have hsizes := p.length_sizes
  apply Buf.bytes_ofBytes
  rw [List.length_cons, List.length_append, Bytes.length_be]
  omega

theorem Params.bytes_block0 (hn : nonce.length = 15 - p.L) (aad message : Bytes) :
    (p.block0 nonce aad message).bytes = UInt8.ofNat (p.flags (decide (aad ≠ []))) ::
      (nonce ++ Bytes.be p.L message.length) := by
  have hsizes := p.length_sizes
  apply Buf.bytes_ofBytes
  rw [List.length_cons, List.length_append, Bytes.length_be]
  omega

theorem Params.counterBlock_inj (hn : nonce.length = 15 - p.L) {i j : Nat} (hi : i < 256 ^ p.L)
    (hj : j < 256 ^ p.L) (h : p.counterBlock nonce i = p.counterBlock nonce j) : i = j := by
  have hbytes := congrArg Buf.bytes h
  rw [p.bytes_counterBlock hn, p.bytes_counterBlock hn] at hbytes
  have htail := List.append_cancel_left (List.tail_eq_of_cons_eq hbytes)
  exact Bytes.be_injOn hi hj htail

/-- The flags tell them apart: `M'` is never zero. -/
theorem Params.block0_ne_counterBlock (hn : nonce.length = 15 - p.L) (aad message : Bytes)
    (i : Nat) : p.block0 nonce aad message ≠ p.counterBlock nonce i := by
  intro h
  have hbytes := congrArg Buf.bytes h
  rw [p.bytes_block0 hn, p.bytes_counterBlock hn] at hbytes
  have hflags := congrArg UInt8.toNat (List.head_eq_of_cons_eq hbytes)
  have hL := p.length_sizes
  have hM : 4 ≤ p.M ∧ p.M ≤ 16 := by
    have hall : ∀ m ∈ [4, 6, 8, 10, 12, 14, 16], 4 ≤ m ∧ m ≤ 16 := by decide
    exact hall p.M p.tag_sizes
  have hadata := Bool.toNat_le (decide (aad ≠ []))
  rw [UInt8.toNat_ofNat', UInt8.toNat_ofNat', Params.flags] at hflags
  omega

theorem nodup_blocks {aad message : Bytes} (hfits : p.Fits nonce aad message) :
    (p.block0 nonce aad message ::
      (List.range (blockCount message + 1)).map (p.counterBlock nonce)).Nodup := by
  obtain ⟨hn, hlen, -⟩ := hfits
  refine List.nodup_cons.mpr ⟨?_, ?_⟩
  · intro hmem
    obtain ⟨i, -, hi⟩ := List.mem_map.mp hmem
    exact p.block0_ne_counterBlock hn aad message i hi.symm
  · refine List.Nodup.map_on ?_ List.nodup_range
    intro i hi j hj h
    rw [List.mem_range, blockCount] at hi hj
    exact p.counterBlock_inj hn (by omega) (by omega) h

end

end Rfc3610
