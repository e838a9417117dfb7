import Rtl8814au.RegisterIO.Access
import Rtl8814au.RegisterIO.Bounded

/-!
# RegisterIO.Transport

`_VendorRead` and `_VendorWrite` over the control transfers of the USB stack.

* `vendorReadOver`, `vendorWriteOver` — the attempts of an access; `overUsb` carries out a program's
  accesses by them.
* `UsbStep`  — a register behind the transfers, each of which may fail or be short.
* `vendorRead_spec`, `vendorWrite_spec` — what an access comes to, by what its transfers did.
-/

namespace Rtl8814au
namespace RegisterIO

open Dialogue

/-- `send_request` in both directions, and the member that is looked at ahead of it. -/
inductive UsbCall
  | fDevicePresent
  | sendIn (address length : Nat)
  | sendOut (address : Nat) (data : Bytes)

/-- A transfer in gives the bytes that came, one out gives how many went. -/
abbrev UsbCall.Answer : UsbCall → Type
  | .fDevicePresent => Bool
  | .sendIn _ _ => StatusCode × Bytes
  | .sendOut _ _ => StatusCode × Nat

abbrev UsbIo (α : Type) : Type := Dialogue UsbCall UsbCall.Answer α

/-- The result is `B_OK` with the buffer, or any error. -/
def vendorReadOver (address length : Nat) : UsbIo (Option (Buf length)) := do
  let present ← request UsbCall.fDevicePresent
  if present then
    retry (do
      let (status, buffer) ← request (UsbCall.sendIn address length)
      if h : status = StatusCode.ok ∧ buffer.length = length then pure (some ⟨buffer, h.2⟩)
      else pure none) kMaxRetryCount
  else pure none

/-- The length that was transferred is not looked at. -/
def vendorWriteOver (address : Nat) (data : Bytes) : UsbIo StatusCode := do
  let present ← request UsbCall.fDevicePresent
  if present then
    let accepted ← retry (do
      let (status, _) ← request (UsbCall.sendOut address data)
      if status = StatusCode.ok then pure (some ()) else pure none) kMaxRetryCount
    if accepted.isSome then pure .ok else pure .ioError
  else pure .devNotReady

def accessOver : (i : Access Empty) → UsbIo (Access.Answer (fun _ : Empty => Unit) i)
  | .vendorRead address length => vendorReadOver address length
  | .vendorWrite address data => vendorWriteOver address data

def overUsb {α : Type} (p : Io (fun _ : Empty => Unit) α) : UsbIo α := p.handle accessOver

/-! ## A register behind the transfers -/

/-- A register of `n` bytes, and what the transfers did: whether one in brought all of it, whether one
out was reported as done, and how many of the bytes written have arrived. -/
structure Usb (n : Nat) where
  register : Buf n
  fetched : Bool
  accepted : Bool
  delivered : Nat

/-- A transfer that is reported as done moved as many bytes as it says; of one that is not, any number
may have arrived. -/
inductive UsbStep {n : Nat} : Dialogue.Env (Usb n) UsbCall.Answer
  | present {s : Usb n} (present : Bool) : UsbStep s .fDevicePresent present s
  | received {s : Usb n} {address length : Nat} (status : StatusCode) (buffer : Bytes)
    (h : status = .ok → buffer = s.register.bytes.take buffer.length) :
    UsbStep s (.sendIn address length) (status, buffer)
      { s with fetched := s.fetched || decide (status = .ok ∧ buffer.length = length) }
  | sent {s : Usb n} {address : Nat} {data : Bytes} (status : StatusCode) (actualLength arrived : Nat)
    (h : status = .ok → arrived = actualLength) (hlength : arrived ≤ data.length) :
    UsbStep s (.sendOut address data) (status, actualLength)
      { register := s.register.copyAt 0 (data.take arrived)
        fetched := s.fetched
        accepted := s.accepted || decide (status = .ok)
        delivered := max s.delivered arrived }

def Usb.start {n : Nat} (register : Buf n) : Usb n := ⟨register, false, false, 0⟩

/-- The register after `data` has been written, as far as it has arrived. -/
structure Delivered {n : Nat} (old data : Buf n) (s : Usb n) : Prop where
  delivered_le : s.delivered ≤ n
  register : ∀ j < n, s.register.bytes.at j =
    if j < s.delivered then data.bytes.at j else old.bytes.at j

section

variable {n address : Nat} {old : Buf n} {s : Usb n}

/-- An attempt at a read. -/
theorem received_spec (s : Usb n) (hs : s.fetched = false) :
    wp UsbStep (fun r s' => s' = { s with fetched := r.isSome } ∧ ∀ b ∈ r, b = s.register)
      (do
        let (status, buffer) ← request (UsbCall.sendIn address n)
        if h : status = StatusCode.ok ∧ buffer.length = n then
          pure (some (⟨buffer, h.2⟩ : Buf n))
        else pure none) s := by
  intro r s' hstep
  cases hstep with
  | received status buffer hok =>
    show wp UsbStep _ (if h : status = StatusCode.ok ∧ buffer.length = n then _ else _) _
    split
    · rename_i hfull
      refine ⟨by rw [hs, decide_eq_true hfull]; rfl, ?_⟩
      intro b hb
      obtain rfl := Option.some.inj hb
      refine Buf.ext ((hok hfull.1).trans ?_)
      rw [hfull.2]
      exact List.take_of_length_le (Nat.le_of_eq s.register.length_eq)
    · rename_i hfailed
      exact ⟨by rw [hs, decide_eq_false hfailed]; rfl, fun b hb => absurd hb (Option.not_mem_none b)⟩

/-- A read gives the register, or nothing. -/
theorem vendorRead_spec :
    wp UsbStep (fun r s => s = { Usb.start old with fetched := r.isSome } ∧ ∀ b ∈ r, b = old)
      (vendorReadOver address n) (.start old) := by
  intro present s hstep
  cases hstep with
  | present =>
    cases present with
    | false => exact ⟨rfl, nofun⟩
    | true =>
      refine wp_mono (wp_retry (I := fun s => s = .start old)
        (Q := fun b s => s = { Usb.start old with fetched := true } ∧ b = old) ?_ rfl) ?_
      · rintro s rfl
        refine wp_mono (received_spec _ rfl) ?_
        rintro r s ⟨rfl, hbuffer⟩
        refine ⟨fun b hb => ⟨by rw [hb]; rfl, hbuffer b hb⟩, fun hnone => by rw [hnone]; rfl⟩
      · rintro r s ⟨hsome, hnone⟩
        cases r with
        | none => exact ⟨hnone rfl, nofun⟩
        | some b => exact ⟨(hsome b rfl).1, fun b' hb' => by cases hb'; exact (hsome b rfl).2⟩

/-- An attempt at a write. -/
theorem sent_spec {data : Buf n} (hs : Delivered old data s) (haccepted : s.accepted = false) :
    wp UsbStep (fun r s' => Delivered old data s' ∧ s'.fetched = s.fetched ∧ s'.accepted = r.isSome)
      (do
        let (status, _) ← request (UsbCall.sendOut address data.bytes)
        if status = StatusCode.ok then pure (some ()) else pure none) s := by
  intro r s' hstep
  cases hstep with
  | sent status actualLength arrived hok hlength =>
    have harrived : (data.bytes.take arrived).length = arrived := List.length_take_of_le hlength
    have hn : arrived ≤ n := data.length_eq ▸ hlength
    have hdelivered : Delivered old data
        { register := s.register.copyAt 0 (data.bytes.take arrived)
          fetched := s.fetched
          accepted := s.accepted || decide (status = StatusCode.ok)
          delivered := max s.delivered arrived } := by
      refine ⟨Nat.max_le.mpr ⟨hs.delivered_le, hn⟩, fun j hj => ?_⟩
      show (s.register.copyAt 0 (data.bytes.take arrived)).bytes.at j = _
      rw [Buf.at_copyAt_zero _ (harrived.symm ▸ hn), harrived, hs.register j hj]
      by_cases hnew : j < arrived
      · have htake : Bytes.at (data.bytes.take arrived) j = data.bytes.at j := by
          rw [Bytes.at, Bytes.at, List.getD_eq_getElem?_getD, List.getD_eq_getElem?_getD,
            List.getElem?_take_of_lt hnew]
        rw [if_pos hnew, if_pos (Nat.lt_of_lt_of_le hnew (Nat.le_max_right _ _)), htake]
      · rw [if_neg hnew]
        by_cases hbefore : j < s.delivered
        · rw [if_pos hbefore, if_pos (Nat.lt_of_lt_of_le hbefore (Nat.le_max_left _ _))]
        · rw [if_neg hbefore, if_neg (show ¬ j < max s.delivered arrived by omega)]
    show wp UsbStep _ (if status = StatusCode.ok then _ else _) _
    split
    · rename_i hstatus
      exact ⟨hdelivered, rfl, by rw [haccepted, decide_eq_true hstatus]; rfl⟩
    · rename_i hstatus
      exact ⟨hdelivered, rfl, by rw [haccepted, decide_eq_false hstatus]; rfl⟩

theorem vendorWrite_spec {data : Buf n} (hs : Delivered old data s) (haccepted : s.accepted = false) :
    wp UsbStep (fun status s' => Delivered old data s' ∧ s'.fetched = s.fetched ∧
        (status = .ok ↔ s'.accepted = true))
      (vendorWriteOver address data.bytes) s := by
  intro present s' hstep
  cases hstep with
  | present =>
    cases present with
    | false => exact ⟨hs, rfl, iff_of_false nofun (by rw [haccepted]; nofun)⟩
    | true =>
      show wp UsbStep _ (retry _ kMaxRetryCount >>= fun accepted : Option Unit =>
        if accepted.isSome then pure StatusCode.ok else pure .ioError) s
      refine wp_seq (wp_retry
        (I := fun s' => Delivered old data s' ∧ s'.fetched = s.fetched ∧ s'.accepted = false)
        (Q := fun _ s' => Delivered old data s' ∧ s'.fetched = s.fetched ∧ s'.accepted = true) ?_
        ⟨hs, rfl, haccepted⟩) ?_
      · rintro s₁ ⟨hdelivered, hfetched, hnot⟩
        refine wp_mono (sent_spec hdelivered hnot) ?_
        rintro r s₂ ⟨hdelivered, hkept, haccepted⟩
        refine ⟨fun a ha => ⟨hdelivered, hkept.trans hfetched, ?_⟩,
          fun hnone => ⟨hdelivered, hkept.trans hfetched, ?_⟩⟩
        · rw [haccepted, Option.mem_def.mp ha]
          rfl
        · rw [haccepted, hnone]
          rfl
      · rintro r s' ⟨hsome, hnone⟩
        cases r with
        | none =>
          obtain ⟨hdelivered, hfetched, hnot⟩ := hnone rfl
          exact ⟨hdelivered, hfetched, iff_of_false nofun (by rw [hnot]; nofun)⟩
        | some _ =>
          obtain ⟨hdelivered, hfetched, haccepted⟩ := hsome () rfl
          exact ⟨hdelivered, hfetched, iff_of_true rfl haccepted⟩

end

end RegisterIO
end Rtl8814au
