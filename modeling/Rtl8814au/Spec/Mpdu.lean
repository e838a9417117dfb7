import Rtl8814au.Lib.Rfc3610

/-!
# Spec.Mpdu

What CCMP takes from the header of any data frame with three addresses, in the words of 802.11: the
fields are little-endian numbers, and their bits are numbered from the first bit of the header.

* `Mutable`: the bits that a station may change after the frame was protected.
* `aad`, `nonce`, `ccmpHeader`: additional authenticated data, nonce and CCMP header.
* `ccmParams`: the CCM of CCMP, with a MIC of eight bytes and a length of two.
-/

namespace Rtl8814au
namespace Spec
namespace Mpdu

/-! ## Fields -/

def frameControl (header : Bytes) : Nat := Bytes.leNat (header.slice 0 2)

def address1 (header : Bytes) : Bytes := header.slice 4 6

def address2 (header : Bytes) : Bytes := header.slice 10 6

def address3 (header : Bytes) : Bytes := header.slice 16 6

def sequenceControl (header : Bytes) : Nat := Bytes.leNat (header.slice 22 2)

def qosControl (header : Bytes) : Nat := Bytes.leNat (header.slice 24 2)

def fragmentNumber (header : Bytes) : Nat := sequenceControl header % 2 ^ 4

def tid (header : Bytes) : Nat := qosControl header % 2 ^ 4

/-- Whether bit `k` of a header is left out of the AAD. -/
def Mutable (k : Nat) : Prop :=
  (4 ≤ k ∧ k < 7) ∨ -- the low bits of the subtype
  (11 ≤ k ∧ k < 14) ∨ -- Retry, Power Management, More Data
  (16 ≤ k ∧ k < 32) ∨ -- Duration
  (180 ≤ k ∧ k < 192) ∨ -- the sequence number
  (196 ≤ k ∧ k < 208) -- the QoS control behind the TID

instance (k : Nat) : Decidable (Mutable k) :=
  inferInstanceAs (Decidable (_ ∨ _ ∨ _ ∨ _ ∨ _))

/-- The Protected Frame bit. -/
def protectedBit : Nat := 14

/-! ## What goes into CCM -/

/-- The frame control without its mutable bits, of a protected frame. -/
def aadFrameControl (fc : Nat) : Nat :=
  Nat.ofBits fun k : Fin 16 => decide (k.val = protectedBit) || (fc.testBit k && !decide (Mutable k))

/-- For a header of 24 bytes, or of 26 with a QoS control. -/
def aad (header : Bytes) (qos : Bool) : Bytes :=
  Bytes.le 2 (aadFrameControl (frameControl header)) ++ address1 header ++ address2 header ++
    address3 header ++ Bytes.le 2 (fragmentNumber header) ++
    if qos then Bytes.le 2 (tid header) else []

/-- The priority in the low bits of the nonce flags is the TID; the packet number is below `2^48`. -/
def nonce (header : Bytes) (qos : Bool) (pn : Nat) : Bytes :=
  UInt8.ofNat (if qos then tid header else 0) :: (address2 header ++ Bytes.be 6 pn)

def pnByte (pn i : Nat) : UInt8 := UInt8.ofNat (pn / 256 ^ i)

/-- Packet number, extended IV bit and key id. -/
def ccmpHeader (pn keyId : Nat) : Bytes :=
  [pnByte pn 0, pnByte pn 1, 0, UInt8.ofNat (2 ^ 5 + 2 ^ 6 * keyId), pnByte pn 2, pnByte pn 3,
    pnByte pn 4, pnByte pn 5]

def ccmParams : Rfc3610.Params where
  M := 8
  L := 2
  tag_sizes := by decide
  length_sizes := by decide

/-! ## Bits of the fields -/

theorem testBit_frameControl (header : Bytes) {k : Nat} (hk : k < 16) :
    (frameControl header).testBit k = header.bit k := by
  rw [frameControl, Bytes.testBit_leNat, Bytes.bit_slice hk, Nat.mul_zero, Nat.zero_add]

theorem testBit_aadFrameControl (fc : Nat) {k : Nat} (hk : k < 16) :
    (aadFrameControl fc).testBit k =
      (decide (k = protectedBit) || (fc.testBit k && !decide (Mutable k))) :=
  Nat.testBit_ofBits_lt _ k hk

/-- A field cut to its low four bits is the low half of its first byte. -/
theorem le_low_bits (b : Bytes) : Bytes.le 2 (Bytes.leNat b % 2 ^ 4) = [b.at 0 &&& 0x0F, 0] := by
  have hlow : Bytes.leNat b % 2 ^ 4 = (b.at 0).toNat % 16 := by
    cases b with
    | nil => rfl
    | cons x b =>
      rw [Bytes.leNat_cons]
      show _ = x.toNat % 16
      omega
  have hbyte : UInt8.ofNat ((b.at 0).toNat % 16) = b.at 0 &&& 0x0F := by
    apply UInt8.toNat_inj.mp
    rw [UInt8.toNat_and, UInt8.toNat_ofNat']
    show _ = (b.at 0).toNat &&& 2 ^ 4 - 1
    rw [Nat.and_two_pow_sub_one_eq_mod]
    omega
  have hzero : (b.at 0).toNat % 16 / 256 = 0 := by omega
  show [UInt8.ofNat (Bytes.leNat b % 2 ^ 4), UInt8.ofNat (Bytes.leNat b % 2 ^ 4 / 256)] = _
  rw [hlow, hbyte, hzero]
  rfl

end Mpdu
end Spec
end Rtl8814au
