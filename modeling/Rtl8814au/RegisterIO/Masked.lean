import Rtl8814au.RegisterIO.Transport

/-!
# RegisterIO.Masked

`MaskedWrite8`, `MaskedWrite16` and `MaskedWrite32` over transfers that may fail or be short.

* `Framed` — no bit outside the mask changes, and `B_OK` means that those inside are the value's.
* `Held`   — the transfers on which that depends.
* `masked_write_framed` — the one if and only if the other.
-/

namespace Rtl8814au
namespace RegisterIO

open Dialogue Fields

structure Framed {n : Nat} (mask value : Nat) (old : Buf n) (status : StatusCode) (new : Buf n) :
    Prop where
  outside : ∀ i < 8 * n, mask.testBit i = false → new.bytes.bit i = old.bytes.bit i
  inside : status = .ok → ∀ i < 8 * n, mask.testBit i = true → new.bytes.bit i = value.testBit i

/-- The register was read, or has ones already where the ones of a failed read go; and a write that is
reported as done has arrived, or changes nothing in what is missing. -/
structure Held {n : Nat} (mask value : Nat) (old : Buf n) (s : Usb n) : Prop where
  outside : s.fetched = true ∨
    ∀ i < 8 * s.delivered, mask.testBit i = false → old.bytes.bit i = true
  inside : s.accepted = true →
    ∀ i < 8 * n, 8 * s.delivered ≤ i → mask.testBit i = true → old.bytes.bit i = value.testBit i

section

variable {n mask value : Nat} {old : Buf n}

theorem bit_le {v i : Nat} (h : i < 8 * n) : (Bytes.le n v).bit i = v.testBit i := by
  have hpow : 256 ^ n = 2 ^ (8 * n) := (Nat.pow_mul 2 8 n).symm
  rw [← Bytes.testBit_leNat, Bytes.leNat_le, hpow, Nat.testBit_mod_two_pow, decide_eq_true h,
    Bool.true_and]

/-- A byte that has arrived, or not, bit by bit. -/
theorem Delivered.bit {data : Buf n} {s : Usb n} (h : Delivered old data s) {i : Nat} (hi : i < 8 * n) :
    s.register.bytes.bit i =
      if i < 8 * s.delivered then data.bytes.bit i else old.bytes.bit i := by
  rw [Bytes.bit, h.register (i / 8) (by omega)]
  by_cases hnew : i / 8 < s.delivered
  · rw [if_pos hnew, if_pos (by omega)]
    rfl
  · rw [if_neg hnew, if_neg (by omega)]
    rfl

/-- What the read stands for. -/
theorem testBit_valueOf {answer : Option (Buf n)} (h : ∀ b ∈ answer, b = old) {i : Nat}
    (hi : i < 8 * n) :
    (valueOf answer).testBit i = if answer.isSome then old.bytes.bit i else true := by
  cases answer with
  | none =>
    rw [valueOf, Nat.testBit_two_pow_sub_one, decide_eq_true hi]
    rfl
  | some b =>
    rw [valueOf, Bytes.testBit_leNat, h b rfl]
    rfl

/-- The register bit by bit, after a write of what was read with the bits of the mask replaced. -/
def Merged (mask value : Nat) (old : Buf n) (s : Usb n) : Prop :=
  ∀ i < 8 * n, s.register.bytes.bit i =
    if i < 8 * s.delivered then
      if mask.testBit i then value.testBit i else if s.fetched then old.bytes.bit i else true
    else old.bytes.bit i

theorem framed_iff_held {status : StatusCode} {s : Usb n} (h : Merged mask value old s)
    (hlength : s.delivered ≤ n) (hstatus : status = .ok ↔ s.accepted = true) :
    Framed mask value old status s.register ↔ Held mask value old s := by
  constructor
  · intro hframed
    refine ⟨?_, ?_⟩
    · cases hfetched : s.fetched with
      | true => exact .inl rfl
      | false =>
        refine .inr fun i hi hmask => ?_
        have hbit := h i (by omega)
        rw [hframed.outside i (by omega) hmask, if_pos hi, hmask, hfetched] at hbit
        exact hbit
    · intro haccepted i hi hmissing hmask
      have hbit := h i hi
      rw [hframed.inside (hstatus.mpr haccepted) i hi hmask, if_neg (Nat.not_lt.mpr hmissing)] at hbit
      exact hbit.symm
  · intro hheld
    refine ⟨?_, ?_⟩
    · intro i hi hmask
      rw [h i hi, hmask]
      by_cases hnew : i < 8 * s.delivered
      · rw [if_pos hnew]
        rcases hheld.outside with hfetched | hones
        · rw [hfetched]
          rfl
        · rw [hones i hnew hmask, ite_self]
          rfl
      · rw [if_neg hnew]
    · intro hok i hi hmask
      rw [h i hi, hmask]
      by_cases hnew : i < 8 * s.delivered
      · rw [if_pos hnew]
        rfl
      · rw [if_neg hnew]
        exact hheld.inside (hstatus.mp hok) i hi (Nat.not_lt.mp hnew) hmask

theorem maskedWrite_spec (address mask value : Nat) (old : Buf n) :
    wp UsbStep (fun status s => Framed mask value old status s.register ↔ Held mask value old s)
      (overUsb (maskedWrite n address mask value)) (.start old) := by
  show wp UsbStep _ (vendorReadOver address n >>= fun answer =>
    vendorWriteOver address (Bytes.le n (merge (8 * n) mask (valueOf answer) value)) >>= pure) _
  refine wp_seq vendorRead_spec ?_
  rintro answer s ⟨rfl, hanswer⟩
  have hnone : Delivered old
      ⟨Bytes.le n (merge (8 * n) mask (valueOf answer) value), Bytes.length_le n _⟩
      { Usb.start old with fetched := answer.isSome } := ⟨Nat.zero_le n, fun j _ => rfl⟩
  refine wp_seq (vendorWrite_spec hnone rfl) ?_
  rintro status s ⟨hdelivered, hfetched, hstatus⟩
  refine framed_iff_held ?_ hdelivered.delivered_le hstatus
  intro i hi
  rw [hdelivered.bit hi, hfetched, bit_le hi, testBit_merge hi, testBit_valueOf hanswer hi]

end

/-- In all three widths, whatever the transfers do. -/
theorem masked_write_framed (address : Nat) (mask8 value8 : UInt8) (old8 : Buf 1)
    (mask16 value16 : UInt16) (old16 : Buf 2) (mask32 value32 : UInt32) (old32 : Buf 4) :
    wp UsbStep (fun status s => Framed mask8.toNat value8.toNat old8 status s.register ↔
          Held mask8.toNat value8.toNat old8 s)
        (overUsb (maskedWrite8 address mask8.toNat value8.toNat)) (.start old8) ∧
      wp UsbStep (fun status s => Framed mask16.toNat value16.toNat old16 status s.register ↔
          Held mask16.toNat value16.toNat old16 s)
        (overUsb (maskedWrite16 address mask16.toNat value16.toNat)) (.start old16) ∧
      wp UsbStep (fun status s => Framed mask32.toNat value32.toNat old32 status s.register ↔
          Held mask32.toNat value32.toNat old32 s)
        (overUsb (maskedWrite32 address mask32.toNat value32.toNat)) (.start old32) :=
  ⟨maskedWrite_spec address mask8.toNat value8.toNat old8,
    maskedWrite_spec address mask16.toNat value16.toNat old16,
    maskedWrite_spec address mask32.toNat value32.toNat old32⟩

/-- Three reads fail, and the write goes through: the bits outside the mask are ones now. Or none of a
write arrives, and it is reported as done. -/
theorem masked_write_disturbed :
    (∃ s, Runs UsbStep (overUsb (maskedWrite8 0x0100 0x01 0x01)) (.start ⟨[0], rfl⟩) .ok s ∧
        s.register.bytes = [0xFF] ∧ ¬ Framed 0x01 0x01 ⟨[0], rfl⟩ .ok s.register) ∧
      ∃ s, Runs UsbStep (overUsb (maskedWrite8 0x0100 0x01 0x01)) (.start ⟨[0], rfl⟩) .ok s ∧
        s.register.bytes = [0] ∧ ¬ Framed 0x01 0x01 ⟨[0], rfl⟩ .ok s.register := by
  constructor
  · refine ⟨_, .ask (.present true) (.ask (.received .ioError [] nofun)
      (.ask (.received .ioError [] nofun) (.ask (.received .ioError [] nofun) (.ask (.present true)
        (.ask (.sent .ok 1 1 (fun _ => rfl) (by decide)) .done))))), by decide, ?_⟩
    intro hframed
    exact absurd (hframed.outside 1 (by decide) (by decide)) (by decide)
  · refine ⟨_, .ask (.present true) (.ask (.received .ok [0] fun _ => rfl) (.ask (.present true)
      (.ask (.sent .ok 0 0 (fun _ => rfl) (by decide)) .done))), by decide, ?_⟩
    intro hframed
    exact absurd (hframed.inside rfl 0 (by decide) (by decide)) (by decide)

end RegisterIO
end Rtl8814au
