import Rtl8814au.Device.RxRing

/-!
# Device.RxFifo

The order in which `Read` takes frames out of the ring.

* `inOrder_run`: the ring is in order in every state of a run of the device.
* `readAll`: one call of `Read` after the other; `slot_readAll` says where the tail is then.
* `Delivers`: the frame that `Read` comes to last; `delivers_enqueue`.
-/

namespace Rtl8814au
namespace RxRing

open Lts
open Device (frameType)

/-! ## The ring in any run of the device -/

theorem InOrder.congr {d d' : Device} (h : InOrder d) (hring : d'.fRxRing = d.fRxRing)
    (hhead : d'.fRxRingHead = d.fRxRingHead) (htail : d'.fRxRingTail = d.fRxRingTail) :
    InOrder d' := by
  unfold InOrder
  rw [hring, hhead, htail]
  exact h

theorem inOrder_enqueue {d : Device} {entry : RxRingEntry} (h : InOrder d)
    (hentry : 0 < entry.length) : InOrder (d.enqueue entry) := by
  by_cases hfull : full d
  · exact (inOrder_full h hentry hfull).1
  · exact (inOrder_room h hentry hfull).1

theorem inOrder_rxData {d d' : Device} {frame : Bytes} {actions : List Action} (h : InOrder d)
    (hr : d.rxData frame = some (d', actions)) : InOrder d' := by
  unfold Device.rxData at hr
  cases hdecap : d.rxDecap frame with
  | none =>
    rw [hdecap] at hr
    cases hr
    exact h
  | some r =>
    rw [hdecap] at hr
    dsimp only at hr
    unfold Device.rxDeliver at hr
    split at hr
    · cases hr
      exact h
    · cases hr
      exact h.congr rfl rfl rfl
    · rename_i hsink
      split at hr
      · cases hr
      · rename_i hfits
        cases hr
        have hentry : ringEntryOf d frame = some (r.ringEntry (d.fRxRing d.fRxRingHead)) := by
          unfold ringEntryOf
          rw [hdecap]
          exact if_pos ⟨hsink, Nat.not_lt.mp hfits⟩
        exact inOrder_enqueue h (length_ringEntryOf hentry)

/-- A management frame does not touch the ring. -/
theorem inOrder_management {d : Device} {frame : Bytes} {env : Env} {out : Device × List Action}
    (h : InOrder d) (htype : frameType frame = 0) (hs : Device.RxStep d frame env out) :
    InOrder out.1 := by
  cases hs with
  | inbox r hd hr hsink => rw [hd.data] at htype; cases htype
  | ring r hd hr hsink => rw [hd.data] at htype; cases htype
  | _ => exact h.congr rfl rfl rfl

theorem inOrder_rxFrame {d d' : Device} {frame : Bytes} {isC2H : Bool} {env : Env}
    {actions : List Action} (h : InOrder d)
    (hr : d.rxFrameReceived frame isC2H env = some (d', actions)) : InOrder d' := by
  unfold Device.rxFrameReceived at hr
  split at hr
  · cases hr
    exact h
  split at hr
  · cases hr
    exact h
  rename_i h24
  split at hr
  · rename_i htype
    split at hr
    · rename_i hsub
      have hstep : Device.RxStep d frame env (d.handleAuthResponse frame env) :=
        Device.handleAuthResponse_step h24 htype hsub
      rw [Option.some.inj hr] at hstep
      exact inOrder_management h htype hstep
    split at hr
    · rename_i hsub
      have hstep : Device.RxStep d frame env (d.handleAssocResponse frame, []) :=
        Device.handleAssocResponse_step h24 htype hsub
      rw [Option.some.inj hr] at hstep
      exact inOrder_management h htype hstep
    · cases hr
      exact h
  split at hr
  · cases hr
    exact h
  · exact inOrder_rxData h hr

/-- With nothing in the ring, nothing is taken. -/
theorem inOrder_anyRead {d : Device} (h : InOrder d) (numBytes : Nat) :
    InOrder (d.read numBytes).1 := by
  by_cases hsome : 0 < queued d
  · exact (inOrder_read h hsome numBytes).1
  · have hnone : (d.fRxRing d.fRxRingTail).length = 0 := by
      by_contra hne
      exact hsome (h.tail_iff.mp (Nat.pos_of_ne_zero hne))
    have hread : (d.read numBytes).1 = d := by
      unfold Device.read
      dsimp only
      rw [if_pos hnone]
    rw [hread]
    exact h

theorem inOrder_joins {d d1 : Device} {request : Request} {bssid : Mac} {ssid : Bytes}
    {ssidLen : Nat} (h : InOrder d) (hj : d.Joins request d1 bssid ssid ssidLen) : InOrder d1 := by
  cases hj with
  | passphrase bssid ssidLen ssid passphraseLen passphrase hok =>
    obtain ⟨wpaIe, wpaIeLength, heq⟩ :=
      d.withPassphrase_device bssid ssidLen ssid passphraseLen passphrase
    rw [heq]
    exact h.congr rfl rfl rfl
  | _ => exact h

theorem inOrder_step {d d' : Device} {e : Event} {env : Env} {actions : List Action}
    (h : InOrder d) (hs : d.step e env = some (d', actions)) : InOrder d' := by
  cases e with
  | write buffer =>
    cases hs
    rcases d.write_device buffer env with hd | hd
    · rw [hd]
      exact h
    · rw [hd]
      exact h.congr rfl rfl rfl
  | read numBytes =>
    cases hs
    exact inOrder_anyRead h numBytes
  | rxFrame frame isC2H => exact inOrder_rxFrame h hs
  | eapolWorker =>
    have hstep := d.eapolWorker_step env
    rw [Option.some.inj hs] at hstep
    have hkeyed : InOrder (d.takeInbox.keyedM1 d.inboxPayload d.fEapolInbox.senderMac env) := by
      obtain ⟨snonce, ptk, ptkValid, heq⟩ :=
        d.takeInbox.keyedM1_device d.inboxPayload d.fEapolInbox.senderMac env
      rw [heq]
      exact h.congr rfl rfl rfl
    cases hstep with
    | unanswered hw hc hpmk actions => exact hkeyed
    | answered hw hc hpmk actions => exact hkeyed.congr rfl rfl rfl
    | _ => exact h.congr rfl rfl rfl
  | control request =>
    have hstep := d.control_step request env
    rw [Option.some.inj hs] at hstep
    have hheld : ∀ keyix macaddr keydata, InOrder (d.holdKey keyix macaddr keydata) := by
      intro keyix macaddr keydata
      obtain ⟨tk, tkValid, bssid, gtk, gtkId, gtkValid, heq⟩ :=
        d.holdKey_device keyix macaddr keydata
      rw [heq]
      exact h.congr rfl rfl rfl
    cases hstep with
    | keyHeld keyix macaddr keydata hr hq hincomplete => exact hheld keyix macaddr keydata
    | keysArmed keyix macaddr keydata hr hq hcomplete =>
      exact (hheld keyix macaddr keydata).congr rfl rfl rfl
    | unresolved d1 bssid ssid ssidLen hr hj ht => exact (inOrder_joins h hj).congr rfl rfl rfl
    | joining d1 bssid target ssid ssidLen hr hj ht => exact (inOrder_joins h hj).congr rfl rfl rfl
    | _ => exact h.congr rfl rfl rfl
  | setRemoved =>
    cases hs
    exact h.congr rfl rfl rfl

theorem inOrder_run {mac : Mac} {es : List (Event × Env)} {s : System}
    (hr : run System.next (.init mac) es = some s) : InOrder s.device := by
  refine run_invariant (C := fun _ _ => True) (I := fun s => InOrder s.device) ?_ (inOrder_init mac)
    (meets_true _ _) hr
  intro s s' e h _ hn
  obtain ⟨⟨d', actions⟩, hstep, rfl⟩ := Option.map_eq_some_iff.mp hn
  exact inOrder_step h hstep

/-! ## One `Read` after the other -/

def readAll (d : Device) (sizes : List Nat) : Device :=
  sizes.foldl (fun d numBytes => (d.read numBytes).1) d

/-- A frame in use stays in its slot until the tail has come to it. -/
theorem slot_readAll {d : Device} {sizes : List Nat} {i : Fin 64} (h : InOrder d)
    (hi : Ring.offset d.fRxRingTail i = sizes.length) (hused : sizes.length < queued d) :
    (readAll d sizes).fRxRingTail = i ∧ (readAll d sizes).fRxRing i = d.fRxRing i ∧
      (readAll d sizes).fRemoved = d.fRemoved := by
  induction sizes generalizing d with
  | nil =>
    have htail : d.fRxRingTail = i := by
      by_contra hne
      exact absurd hi (Nat.ne_of_gt (Ring.offset_pos.mpr fun he => hne he.symm))
    exact ⟨htail, rfl, rfl⟩
  | cons numBytes sizes ih =>
    rw [List.length_cons] at hi hused
    obtain ⟨horder, hqueued⟩ := inOrder_read h (by omega) numBytes
    have hne : i ≠ d.fRxRingTail := Ring.offset_pos.mp (by omega)
    have hread : (d.fRxRing d.fRxRingTail).length ≠ 0 :=
      Nat.ne_of_gt (h.tail_iff.mpr (by unfold queued at hused; omega))
    have htail : (d.read numBytes).1.fRxRingTail = d.fRxRingTail + 1 := by
      unfold Device.read
      dsimp only
      rw [if_neg hread]
    have hslot : (d.read numBytes).1.fRxRing i = d.fRxRing i := by
      unfold Device.read
      dsimp only
      rw [if_neg hread]
      exact Function.update_of_ne hne _ _
    have hnext := Ring.offset_base_succ hne
    obtain ⟨hat, hkept, hremoved⟩ :=
      ih horder (by rw [htail]; omega) (by omega)
    exact ⟨hat, hkept.trans hslot, hremoved.trans (removed_read d numBytes)⟩

/-- `Read` for a caller that a frame has woken. -/
def readWoken (d : Device) (numBytes : Nat) : Status × Bytes :=
  if d.fRemoved then (.devNotReady, []) else (.ok, (d.read numBytes).2)

/-- Once the frames ahead of it are read, `Read` gives the packet to every caller with room for
it. -/
structure Delivers (d : Device) (packet : Bytes) : Prop where
  queued : 0 < queued d
  last : ∀ sizes numBytes, sizes.length + 1 = RxRing.queued d → packet.length ≤ numBytes →
    readWoken (readAll d sizes) numBytes = (.ok, packet)

theorem delivers_enqueue {d : Device} {entry : RxRingEntry} (h : InOrder d)
    (hr : d.fRemoved = false) (hentry : 0 < entry.length) :
    Delivers (d.enqueue entry) (entry.data.bytes.take entry.length) := by
  have horder := inOrder_enqueue h hentry
  have hhead : (d.enqueue entry).fRxRingHead = d.fRxRingHead + 1 := by
    unfold Device.enqueue Device.makeRoom
    split
    · rfl
    · rfl
  have hslot : (d.enqueue entry).fRxRing d.fRxRingHead = entry := by
    unfold Device.enqueue Device.makeRoom
    split
    · exact Function.update_self _ _ _
    · exact Function.update_self _ _ _
  have hne : d.fRxRingHead + 1 ≠ (d.enqueue entry).fRxRingTail := by
    unfold Device.enqueue Device.makeRoom
    split
    · rename_i hfull
      rw [hfull]
      exact (Ring.succ_ne (by decide) _).symm
    · rename_i hroom
      exact hroom
  have hqueued : queued (d.enqueue entry) =
      Ring.offset (d.enqueue entry).fRxRingTail d.fRxRingHead + 1 := by
    unfold queued
    rw [hhead]
    exact Ring.offset_succ hne
  refine ⟨by omega, ?_⟩
  intro sizes numBytes hsizes hroom
  have hoffset : Ring.offset (d.enqueue entry).fRxRingTail d.fRxRingHead = sizes.length := by omega
  obtain ⟨htail, hkept, hremoved⟩ := slot_readAll horder hoffset (by omega)
  have hpresent : (readAll (d.enqueue entry) sizes).fRemoved = false :=
    hremoved.trans ((removed_enqueue d entry).trans hr)
  have hread : ((readAll (d.enqueue entry) sizes).read numBytes).2 =
      entry.data.bytes.take entry.length := by
    unfold Device.read
    dsimp only
    rw [htail, hkept, hslot, if_neg (Nat.ne_of_gt hentry)]
    dsimp only
    rw [Nat.min_comm, ← List.take_take, List.take_of_length_le hroom]
  unfold readWoken
  rw [if_neg (by rw [hpresent]; exact Bool.false_ne_true), hread]

end RxRing
end Rtl8814au
