import Rtl8814au.Crypto.Prf384
import Rtl8814au.Device.Handshake

/-!
# Device.PairwiseKeys

The PTK of a handshake against the key hierarchy of 802.11i.

* `ptkData_swap_addresses`, `ptkData_swap_nonces`: the data of the PRF does not know which side is
  which.
* `ptk_conforms`: the PRF is the one of the standard, and both sides derive one PTK.
-/

namespace Rtl8814au
namespace Device

open Crypto Spec

theorem minBytes_comm {a b : Bytes} (hlen : a.length = b.length) : minBytes a b = minBytes b a := by
  rcases Nat.lt_trichotomy (Bytes.beNat a) (Bytes.beNat b) with h | h | h
  · rw [minBytes, minBytes, if_pos (Nat.le_of_lt h), if_neg (by omega)]
  · rw [beNat_inj hlen h]
  · rw [minBytes, minBytes, if_neg (by omega), if_pos (Nat.le_of_lt h)]

theorem maxBytes_comm {a b : Bytes} (hlen : a.length = b.length) : maxBytes a b = maxBytes b a := by
  rcases Nat.lt_trichotomy (Bytes.beNat a) (Bytes.beNat b) with h | h | h
  · rw [maxBytes, maxBytes, if_pos (Nat.le_of_lt h), if_neg (by omega)]
  · rw [beNat_inj hlen h]
  · rw [maxBytes, maxBytes, if_neg (by omega), if_pos (Nat.le_of_lt h)]

section

variable {aa spa aNonce sNonce : Bytes} (haddr : aa.length = spa.length)
  (hnonce : aNonce.length = sNonce.length)
include haddr hnonce

theorem ptkData_swap_addresses : ptkData spa aa aNonce sNonce = ptkData aa spa aNonce sNonce := by
  rw [ptkData_eq haddr.symm hnonce, ptkData_eq haddr hnonce, minBytes_comm haddr,
    maxBytes_comm haddr]

theorem ptkData_swap_nonces : ptkData aa spa sNonce aNonce = ptkData aa spa aNonce sNonce := by
  rw [ptkData_eq haddr hnonce.symm, ptkData_eq haddr hnonce, minBytes_comm hnonce,
    maxBytes_comm hnonce]

end

/-- `prf_384` is the PRF of the standard, in its buffers as well; the PTK is that of the two
addresses and the two nonces by size, so that exchanging the sides of either pair does not change
it. -/
theorem ptk_conforms :
    (∀ key label data : Bytes, label.length + data.length ≤ 254 →
      (prf384 key label data).bytes = KeyDerivation.prf key label data 384 ∧
      (key.length < 2 ^ 32 - 64 → ∀ (buf : Buf 256) (output : Buf 48),
        prf384At key label data buf output.bytes = .ok (prf384 key label data).bytes)) ∧
    ∀ (d : Device) (senderMac : Mac) (snonce : Buf 32),
      (d.derivePtk senderMac snonce).fPtk.bytes = KeyDerivation.prf d.fPmk.bytes pairwiseLabel
        (minBytes senderMac.bytes d.fMacAddress.bytes ++
          maxBytes senderMac.bytes d.fMacAddress.bytes ++
          minBytes d.fAnonce.bytes snonce.bytes ++ maxBytes d.fAnonce.bytes snonce.bytes) 384 ∧
      ({ d with fMacAddress := senderMac }.derivePtk d.fMacAddress snonce).fPtk =
        (d.derivePtk senderMac snonce).fPtk ∧
      ({ d with fAnonce := snonce }.derivePtk senderMac d.fAnonce).fPtk =
        (d.derivePtk senderMac snonce).fPtk := by
  constructor
  · intro key label data h
    exact ⟨prf384_eq_ieee key h, fun hkey buf output => prf384At_eq hkey h buf output⟩
  · intro d senderMac snonce
    have haddr : senderMac.bytes.length = d.fMacAddress.bytes.length := by simp
    have hnonce : d.fAnonce.bytes.length = snonce.bytes.length := by simp
    have hlength := length_ptkData senderMac.bytes d.fMacAddress.bytes d.fAnonce.bytes snonce.bytes
    simp only [Buf.length_eq] at hlength
    refine ⟨?_, ?_, ?_⟩
    · rw [← ptkData_eq haddr hnonce, ← prf384_eq_ieee _ (by rw [hlength]; decide)]
      rfl
    · simp only [derivePtk, ptkData_swap_addresses haddr hnonce]
    · simp only [derivePtk, ptkData_swap_nonces haddr hnonce]

/-- Twelve bytes of data under a label of two. -/
theorem ptk_conforms_sample : prf384At [0x0B] [0x70, 0x72] (Bytes.zeros 12) (Buf.zero 256)
    (Buf.zero 48).bytes = .ok (prf384 [0x0B] [0x70, 0x72] (Bytes.zeros 12)).bytes := by
  obtain ⟨hprf, -⟩ := ptk_conforms
  exact (hprf [0x0B] [0x70, 0x72] (Bytes.zeros 12) (by decide)).2 (by decide) (Buf.zero 256)
    (Buf.zero 48)

end Device
end Rtl8814au
