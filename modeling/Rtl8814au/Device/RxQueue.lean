import Rtl8814au.Device.Decapsulation
import Rtl8814au.Device.RxFifo
import Rtl8814au.Lib.Fifo

/-!
# Device.RxQueue

The RX ring as a queue: the section of `_RxFrameReceived` under `fLock` that enqueues a frame, and
the one of `Read` that dequeues one, in any order.

* `RxFrame`: an Ethernet frame that fits a slot; `ringEntryOf_rxFrame` says that nothing else gets
  to the ring.
* `frames`: the frames in the ring, oldest first. `frames_apply`: an operation on the ring is one on
  a queue of 63 frames that drops its oldest.
* `taken`, `takens`: what leaves the ring, and by which way.
-/

namespace Rtl8814au
namespace RxQueue

open Crypto
open RxRing (InOrder full queued)
open Spec (Msdu)

/-! ## Frames -/

structure RxFrame where
  packet : Msdu
  fits : 14 + packet.payload.length ≤ kRxRingFrameMaxSize

/-- The slot, once destination, source, ethertype and payload are in it. -/
def RxFrame.entry (f : RxFrame) (old : RxRingEntry) : RxRingEntry :=
  { data := old.data.copyAt 0 f.packet.ethernet, length := 14 + f.packet.payload.length }

/-- The bytes of the frame in a slot. -/
def slotFrame (entry : RxRingEntry) : Bytes := entry.data.bytes.take entry.length

theorem slotFrame_entry (f : RxFrame) (old : RxRingEntry) :
    slotFrame (f.entry old) = f.packet.ethernet := by
  have hlen : 14 + f.packet.payload.length = f.packet.ethernet.length := f.packet.length_ethernet.symm
  have hfits : 0 + f.packet.ethernet.length ≤ 2400 := by
    rw [← hlen, Nat.zero_add]
    exact f.fits
  have htake := old.data.take_copyAt hfits
  rw [Nat.zero_add, List.take_zero, List.nil_append] at htake
  rw [slotFrame, RxFrame.entry, hlen]
  exact htake

/-! ## What gets to the ring -/

theorem length_ccmpDecrypted {tk : Block} {frame dec : Bytes} {hdrLen : Nat}
    (hh : hdrLen = 24 ∨ hdrLen = 26) (h : ccmpDecrypt tk frame hdrLen = (true, dec)) :
    dec.length = frame.length := by
  obtain ⟨header, iv, cipher, mic, hl, hiv, hmic, rfl⟩ := ccmp_split (length_of_ccmpDecrypt h)
  rw [ccmpDecrypt_eq hh hl hiv hmic] at h
  obtain ⟨-, rfl⟩ := Prod.mk.inj h
  simp only [List.length_append, Ccm.length_ctrText (n := 16) (by decide)]

/-- The bytes up to the end of the shortened frame are there. -/
theorem length_frameData {d : Device} {frame : Bytes} {r : Device.Decap}
    (hlen : frame.length ≤ 2400) (hr : d.rxDecap frame = some r) :
    32 ≤ r.frameData.length ∧ r.hdrLen.toNat + 8 ≤ r.frameData.length ∧
      r.frameLength.toNat ≤ r.frameData.length ∧ r.frameData.length ≤ 2400 := by
  have hn : (UInt32.ofNat frame.length).toNat = frame.length := by
    rw [UInt32.toNat_ofNat']
    omega
  have hhdr := Device.toNat_headerLen frame
  obtain ⟨frameData, frameLength, h8, hrx, -, rfl⟩ := Device.rxDecap_eq_some hr
  rw [UInt32.lt_iff_toNat_lt, hn] at h8
  simp only [UInt32.toNat_add, UInt32.reduceToNat] at h8
  dsimp only
  by_cases henc : d.Decrypted frame
  · obtain ⟨key, dec, hkey, hdec⟩ := Device.rxDecrypt_protected henc hrx
    obtain ⟨x, len, hrx', hlen'⟩ := Device.rxDecrypt_accepted henc hlen hkey hdec
    have hdeclen := length_ccmpDecrypted hhdr hdec
    have hmin := length_of_ccmpDecrypt hdec
    rw [hrx'] at hrx
    cases hrx
    have hsize : (Device.memmove dec (Device.k80211HeaderLen frame).toNat
        ((Device.k80211HeaderLen frame).toNat + 8)
        (frame.length - (Device.k80211HeaderLen frame).toNat - 16)).length = frame.length := by
      rw [Device.memmove, List.length_append, List.length_append, List.length_take,
        List.length_drop, Bytes.length_slice (by omega), hdeclen]
      omega
    rw [List.length_set, hsize]
    omega
  · rw [Device.rxDecrypt_plain henc] at hrx
    cases hrx
    omega

/-- With a payload length that has not wrapped, the packet is taken from inside the frame. -/
theorem ringEntry_packet {d : Device} {frame : Bytes} {r : Device.Decap}
    (hlen : frame.length ≤ 2400) (hr : d.rxDecap frame = some r)
    (hfits : 14 + r.payloadLen.toNat ≤ kRxRingFrameMaxSize) (old : RxRingEntry) :
    ∃ m : Msdu, m.payload.length = r.payloadLen.toNat ∧
      r.ringEntry old =
        { data := old.data.copyAt 0 m.ethernet, length := 14 + m.payload.length } := by
  obtain ⟨h32, h8, hdata, hmax⟩ := length_frameData hlen hr
  have hhdr := Device.toNat_headerLen frame
  have hpayload : r.payloadLen = r.frameLength - r.hdrLen - 8 := by
    obtain ⟨frameData, frameLength, -, -, -, rfl⟩ := Device.rxDecap_eq_some hr
    rfl
  have heth : r.ethLen = 14 + r.payloadLen := by
    obtain ⟨frameData, frameLength, -, -, -, rfl⟩ := Device.rxDecap_eq_some hr
    rfl
  have hhdrLen : r.hdrLen.toNat = 24 ∨ r.hdrLen.toNat = 26 := by
    obtain ⟨frameData, frameLength, -, -, -, rfl⟩ := Device.rxDecap_eq_some hr
    exact hhdr
  have hin : r.hdrLen.toNat + 8 + r.payloadLen.toNat ≤ r.frameData.length := by
    have hval := congrArg UInt32.toNat hpayload
    simp only [UInt32.toNat_sub, UInt32.reduceToNat] at hval
    simp only [kRxRingFrameMaxSize] at hfits
    omega
  have hpay : r.payload.length = r.payloadLen.toNat := Bytes.length_slice hin
  have hval : r.ethLen.toNat = 14 + r.payloadLen.toNat := by
    simp only [kRxRingFrameMaxSize] at hfits
    rw [heth, UInt32.toNat_add]
    exact Nat.mod_eq_of_lt (by simp only [UInt32.reduceToNat]; omega)
  have htype : (Buf.ofBytes 2 [r.frameData.at (r.hdrLen.toNat + 6),
      r.frameData.at (r.hdrLen.toNat + 7)]).bytes =
        [r.frameData.at (r.hdrLen.toNat + 6), r.frameData.at (r.hdrLen.toNat + 7)] :=
    Buf.bytes_ofBytes rfl
  refine ⟨⟨Buf.ofBytes 6 (r.frameData.slice 4 6), Buf.ofBytes 6 (r.frameData.slice 16 6),
    Buf.ofBytes 2 [r.frameData.at (r.hdrLen.toNat + 6), r.frameData.at (r.hdrLen.toNat + 7)],
    r.payload⟩, hpay, ?_⟩
  rw [Device.Decap.ringEntry, Msdu.ethernet, htype, hval, hpay,
    Buf.bytes_ofBytes (Bytes.length_slice (by omega)),
    Buf.bytes_ofBytes (Bytes.length_slice (by omega)), List.append_assoc, List.append_assoc]

/-- Nothing but frames that fit is written to the ring. -/
theorem ringEntryOf_rxFrame {d : Device} {frame : Bytes} {entry : RxRingEntry}
    (hlen : frame.length ≤ 2400) (h : RxRing.ringEntryOf d frame = some entry) :
    ∃ f : RxFrame, entry = f.entry (d.fRxRing d.fRxRingHead) := by
  unfold RxRing.ringEntryOf at h
  split at h
  · cases h
  · rename_i r hr
    split at h
    · rename_i hring
      cases h
      obtain ⟨m, hpay, heq⟩ := ringEntry_packet hlen hr hring.2 (d.fRxRing d.fRxRingHead)
      exact ⟨⟨m, by rw [hpay]; exact hring.2⟩, heq⟩
    · cases h

/-! ## Operations -/

inductive RingOp where
  | enqueue (f : RxFrame)
  | read (numBytes : Nat)

def apply (d : Device) : RingOp → Device
  | .enqueue f => d.enqueue (f.entry (d.fRxRing d.fRxRingHead))
  | .read numBytes => (d.read numBytes).1

def applyAll (d : Device) (ops : List RingOp) : Device := ops.foldl apply d

/-- The frames in the ring, oldest first. -/
def frames (d : Device) : List Bytes :=
  (Ring.contents d.fRxRing d.fRxRingHead d.fRxRingTail).map slotFrame

/-- A frame that leaves the ring. -/
structure Taken where
  waiting : List Bytes -- The frames in the ring until then, oldest first.
  frame : Bytes -- The bytes in the slot that is given up.
  -- The buffer size of the `Read` that takes the frame, and the bytes it is given; nothing when the
  -- frame is dropped.
  reader : Option (Nat × Bytes)

def taken (d : Device) : RingOp → Option Taken
  | .enqueue _ =>
    if full d then
      some { waiting := frames d, frame := slotFrame (d.fRxRing d.fRxRingTail), reader := none }
    else none
  | .read numBytes =>
    if (d.fRxRing d.fRxRingTail).length = 0 then none
    else
      some {
        waiting := frames d
        frame := slotFrame (d.fRxRing d.fRxRingTail)
        reader := some (numBytes, (d.read numBytes).2) }

def takens : Device → List RingOp → List Taken
  | _, [] => []
  | d, op :: ops => (taken d op).toList ++ takens (apply d op) ops

/-- The frames handed to the ring, in the order of the calls. -/
def enqueued (ops : List RingOp) : List Bytes :=
  ops.filterMap fun
    | .enqueue f => some f.packet.ethernet
    | .read _ => none

/-- What each call of `Read` returns. -/
def replies : Device → List RingOp → List Bytes
  | _, [] => []
  | d, .enqueue f :: ops => replies (apply d (.enqueue f)) ops
  | d, .read numBytes :: ops => (d.read numBytes).2 :: replies (apply d (.read numBytes)) ops

/-! ## An operation is one on a queue -/

structure Consistent (d : Device) : Prop where
  inOrder : InOrder d
  -- A slot is empty or holds a whole Ethernet frame.
  sized : ∀ i, (d.fRxRing i).length = 0 ∨
    14 ≤ (d.fRxRing i).length ∧ (d.fRxRing i).length ≤ kRxRingFrameMaxSize

theorem consistent_init (mac : Mac) : Consistent (.init mac) where
  inOrder := RxRing.inOrder_init mac
  sized := fun _ => .inl rfl

theorem frames_init (mac : Mac) : frames (.init mac) = [] := by
  rw [frames, List.map_eq_nil_iff, ← List.length_eq_zero_iff, Ring.length_contents]
  exact Ring.offset_self _

theorem length_frames (d : Device) : (frames d).length = queued d := by
  rw [frames, List.length_map, Ring.length_contents]
  rfl

theorem full_iff (d : Device) : full d ↔ (frames d).length = 63 := by
  rw [length_frames]
  exact Ring.offset_eq_last.symm

theorem frames_pop {d : Device} (h : d.fRxRingHead ≠ d.fRxRingTail) (entry : RxRingEntry) :
    frames d = slotFrame (d.fRxRing d.fRxRingTail) ::
      (Ring.contents (Function.update d.fRxRing d.fRxRingTail entry) d.fRxRingHead
        (d.fRxRingTail + 1)).map slotFrame := by
  rw [frames, Ring.contents_pop (x := entry) h, List.map_cons]

theorem full_nonempty {d : Device} (h : full d) : d.fRxRingHead ≠ d.fRxRingTail := by
  intro he
  unfold full at h
  rw [he] at h
  exact Ring.succ_ne (by decide) d.fRxRingTail h

/-- The operation of the queue. -/
def RingOp.queueOp : RingOp → Fifo.Op Bytes
  | .enqueue f => .push f.packet.ethernet
  | .read _ => .pop

theorem frames_enqueue (d : Device) (f : RxFrame) (old : RxRingEntry) :
    frames (d.enqueue (f.entry old)) = Fifo.step 63 (frames d) (.push f.packet.ethernet) := by
  rw [Fifo.step]
  by_cases h : full d
  · have hsome := full_nonempty h
    have hroom : d.fRxRingHead + 1 ≠ d.fRxRingTail + 1 := fun he => hsome (Ring.succ_inj.mp he)
    have hpop := frames_pop hsome { d.fRxRing d.fRxRingTail with length := 0 }
    rw [if_pos ((full_iff d).mp h), hpop, List.tail_cons]
    unfold full at h
    unfold frames Device.enqueue Device.makeRoom
    simp only [if_pos h]
    rw [Ring.contents_push hroom, List.map_append, List.map_singleton, slotFrame_entry]
  · rw [if_neg (fun hl => h ((full_iff d).mpr hl))]
    unfold full at h
    unfold frames Device.enqueue Device.makeRoom
    simp only [if_neg h]
    rw [Ring.contents_push h, List.map_append, List.map_singleton, slotFrame_entry]

/-- The length in the slot at the tail says whether there is a frame. -/
theorem tail_nonempty {d : Device} (h : InOrder d) :
    (d.fRxRing d.fRxRingTail).length ≠ 0 ↔ d.fRxRingHead ≠ d.fRxRingTail := by
  rw [← Ring.offset_pos, ← h.tail_iff]
  exact Nat.pos_iff_ne_zero.symm

theorem frames_empty {d : Device} (h : d.fRxRingHead = d.fRxRingTail) : frames d = [] := by
  rw [← List.length_eq_zero_iff, length_frames, queued, h]
  exact Ring.offset_self _

theorem read_empty {d : Device} (h : (d.fRxRing d.fRxRingTail).length = 0) (numBytes : Nat) :
    d.read numBytes = (d, []) := by
  unfold Device.read
  exact if_pos h

theorem frames_read {d : Device} (h : InOrder d) (numBytes : Nat) :
    frames (d.read numBytes).1 = Fifo.step 63 (frames d) .pop := by
  rw [Fifo.step]
  by_cases hempty : (d.fRxRing d.fRxRingTail).length = 0
  · have hmeet := Decidable.not_not.mp (fun hne => (tail_nonempty h).mpr hne hempty)
    rw [read_empty hempty, frames_empty hmeet]
    rfl
  · have hsome := (tail_nonempty h).mp hempty
    rw [frames_pop hsome { d.fRxRing d.fRxRingTail with length := 0 }, List.tail_cons]
    unfold frames Device.read
    simp only [if_neg hempty]

theorem frames_apply {d : Device} (h : InOrder d) (op : RingOp) :
    frames (apply d op) = Fifo.step 63 (frames d) op.queueOp := by
  cases op with
  | enqueue f => exact frames_enqueue d f _
  | read numBytes => exact frames_read h numBytes

theorem sized_enqueue {d : Device} (h : Consistent d) (f : RxFrame) (old : RxRingEntry)
    (i : Fin 64) : ((d.enqueue (f.entry old)).fRxRing i).length = 0 ∨
      14 ≤ ((d.enqueue (f.entry old)).fRxRing i).length ∧
        ((d.enqueue (f.entry old)).fRxRing i).length ≤ kRxRingFrameMaxSize := by
  have hroom : (d.makeRoom.fRxRing i).length = 0 ∨
      14 ≤ (d.makeRoom.fRxRing i).length ∧ (d.makeRoom.fRxRing i).length ≤ kRxRingFrameMaxSize := by
    unfold Device.makeRoom
    split
    · by_cases hi : i = d.fRxRingTail
      · subst hi
        exact .inl (by simp only [Function.update_self])
      · simp only [Function.update_of_ne hi]
        exact h.sized i
    · exact h.sized i
  unfold Device.enqueue
  by_cases hi : i = d.makeRoom.fRxRingHead
  · subst hi
    simp only [Function.update_self]
    exact .inr ⟨Nat.le_add_right _ _, f.fits⟩
  · simp only [Function.update_of_ne hi]
    exact hroom

theorem consistent_apply {d : Device} (h : Consistent d) (op : RingOp) :
    Consistent (apply d op) := by
  cases op with
  | enqueue f =>
    have hentry : 0 < (f.entry (d.fRxRing d.fRxRingHead)).length := by
      show 0 < 14 + _
      omega
    exact ⟨RxRing.inOrder_enqueue h.inOrder hentry, sized_enqueue h f _⟩
  | read numBytes =>
    refine ⟨RxRing.inOrder_anyRead h.inOrder numBytes, ?_⟩
    intro i
    rw [apply]
    by_cases hempty : (d.fRxRing d.fRxRingTail).length = 0
    · rw [read_empty hempty]
      exact h.sized i
    · unfold Device.read
      simp only [if_neg hempty]
      by_cases hi : i = d.fRxRingTail
      · subst hi
        exact .inl (by simp only [Function.update_self])
      · simp only [Function.update_of_ne hi]
        exact h.sized i

/-! ## What leaves the ring -/

def Taken.leaver (t : Taken) : Fifo.Leaver Bytes := ⟨t.frame, t.reader.isNone⟩

/-- In every operation it is what leaves the queue. -/
theorem taken_leaver {d : Device} (h : InOrder d) (op : RingOp) :
    (taken d op).map Taken.leaver = Fifo.leaver 63 (frames d) op.queueOp := by
  cases op with
  | enqueue f =>
    simp only [taken, Fifo.leaver, RingOp.queueOp, full_iff]
    split
    · rename_i hfull
      rw [frames_pop (full_nonempty ((full_iff d).mpr hfull)) (d.fRxRing d.fRxRingTail)]
      rfl
    · rfl
  | read numBytes =>
    simp only [taken, Fifo.leaver, RingOp.queueOp]
    split
    · rename_i hempty
      rw [frames_empty (Decidable.not_not.mp fun hne => (tail_nonempty h).mpr hne hempty)]
      rfl
    · rename_i hsome
      rw [frames_pop ((tail_nonempty h).mp hsome) (d.fRxRing d.fRxRingTail)]
      rfl

theorem consistent_applyAll {d : Device} (h : Consistent d) (ops : List RingOp) :
    Consistent (applyAll d ops) := by
  induction ops generalizing d with
  | nil => exact h
  | cons op ops ih => exact ih (consistent_apply h op)

theorem frames_applyAll {d : Device} (h : Consistent d) (ops : List RingOp) :
    frames (applyAll d ops) = Fifo.run 63 (frames d) (ops.map RingOp.queueOp) := by
  induction ops generalizing d with
  | nil => rfl
  | cons op ops ih =>
    have hnext := ih (consistent_apply h op)
    rw [frames_apply h.inOrder] at hnext
    exact hnext

theorem takens_leavers {d : Device} (h : Consistent d) (ops : List RingOp) :
    (takens d ops).map Taken.leaver =
      Fifo.leavers 63 (frames d) (ops.map RingOp.queueOp) := by
  induction ops generalizing d with
  | nil => rfl
  | cons op ops ih =>
    have hnext := ih (consistent_apply h op)
    rw [frames_apply h.inOrder] at hnext
    have hhead : (taken d op).toList.map Taken.leaver =
        (Fifo.leaver 63 (frames d) op.queueOp).toList := by
      rw [← taken_leaver h.inOrder]
      cases taken d op with
      | none => rfl
      | some t => rfl
    rw [takens, List.map_append, hhead, hnext]
    rfl

theorem pushed_queueOp (ops : List RingOp) :
    Fifo.pushed (ops.map RingOp.queueOp) = enqueued ops := by
  rw [Fifo.pushed, enqueued, List.filterMap_map]
  congr 1
  funext op
  cases op with
  | enqueue f => rfl
  | read numBytes => rfl

/-- What one operation takes from the ring. -/
structure Taken.Sound (t : Taken) : Prop where
  oldest : t.waiting.head? = some t.frame
  dropped : t.reader = none → t.waiting.length = 63
  cut : ∀ numBytes bytes, t.reader = some (numBytes, bytes) → bytes = t.frame.take numBytes

theorem taken_waiting {d : Device} {op : RingOp} {t : Taken} (ht : taken d op = some t) :
    t.waiting = frames d := by
  cases op with
  | enqueue f =>
    simp only [taken] at ht
    split at ht
    · cases ht
      rfl
    · cases ht
  | read numBytes =>
    simp only [taken] at ht
    split at ht
    · cases ht
    · cases ht
      rfl

theorem taken_cut {d : Device} {op : RingOp} {t : Taken} (ht : taken d op = some t)
    {numBytes : Nat} {bytes : Bytes} (hr : t.reader = some (numBytes, bytes)) :
    bytes = t.frame.take numBytes := by
  cases op with
  | enqueue f =>
    simp only [taken] at ht
    split at ht
    · cases ht
      cases hr
    · cases ht
  | read size =>
    simp only [taken] at ht
    split at ht
    · cases ht
    · rename_i hsome
      cases ht
      cases hr
      unfold Device.read slotFrame
      simp only [if_neg hsome]
      rw [List.take_take, Nat.min_comm]

theorem taken_sound {d : Device} (h : InOrder d) {op : RingOp} {t : Taken}
    (ht : taken d op = some t) : t.Sound := by
  have hleaver : Fifo.leaver 63 (frames d) op.queueOp = some t.leaver := by
    rw [← taken_leaver h, ht]
    rfl
  refine ⟨?_, ?_, fun numBytes bytes hr => taken_cut ht hr⟩
  · rw [taken_waiting ht]
    exact Fifo.leaver_oldest hleaver
  · intro hdropped
    rw [taken_waiting ht]
    exact Fifo.leaver_drop hleaver (by rw [Taken.leaver, hdropped]; rfl)

theorem takens_sound {d : Device} (h : Consistent d) (ops : List RingOp) :
    ∀ t ∈ takens d ops, t.Sound := by
  induction ops generalizing d with
  | nil => exact fun t ht => absurd ht List.not_mem_nil
  | cons op ops ih =>
    intro t ht
    rcases List.mem_append.mp ht with hnow | hlater
    · exact taken_sound h.inOrder (Option.mem_toList.mp hnow)
    · exact ih (consistent_apply h op) t hlater

/-! ## Any sequence of operations -/

/-- The frames that calls of `Read` have taken. -/
def delivered (ts : List Taken) : List Taken := ts.filter fun t => t.reader.isSome

/-- What these calls have returned. -/
def returned (ts : List Taken) : List Bytes := ts.filterMap fun t => t.reader.map Prod.snd

/-- Apart from the calls that come to an empty ring, and return nothing. -/
theorem replies_returned (d : Device) (ops : List RingOp) :
    (replies d ops).filter (· ≠ []) = (returned (takens d ops)).filter (· ≠ []) := by
  induction ops generalizing d with
  | nil => rfl
  | cons op ops ih =>
    cases op with
    | enqueue f =>
      have hnone : returned (taken d (.enqueue f)).toList = [] := by
        simp only [taken]
        split
        · rfl
        · rfl
      rw [replies, takens, returned, List.filterMap_append, ← returned, ← returned, hnone, ih]
      rfl
    | read numBytes =>
      rw [replies, takens, returned, List.filterMap_append, ← returned, ← returned,
        List.filter_append, ← ih, List.filter_cons]
      simp only [taken]
      split
      · rename_i hgiven
        split
        · rename_i hempty
          rw [read_empty hempty] at hgiven
          exact absurd rfl (of_decide_eq_true hgiven)
        · simp only [returned, Option.toList_some, List.filterMap_cons, Option.map_some,
            List.filterMap_nil, List.filter_cons, hgiven, if_true, List.filter_nil]
          rfl
      · rename_i hgiven
        split
        · rfl
        · simp only [returned, Option.toList_some, List.filterMap_cons, Option.map_some,
            List.filterMap_nil, List.filter_cons, hgiven, List.filter_nil]
          rfl

/-- What has left the ring and what is in it, after a sequence of operations. -/
structure DropOldest (d : Device) (ops : List RingOp) (ts : List Taken) : Prop where
  -- In this order the frames were enqueued: none is lost but the dropped ones, none comes twice.
  order : ts.map Taken.frame ++ frames d = enqueued ops
  subsequence : ((delivered ts).map Taken.frame).Sublist (enqueued ops)
  sound : ∀ t ∈ ts, t.Sound
  bounded : (frames d).length ≤ 63
  counted : (frames d).length = queued d
  consistent : Consistent d

theorem rx_ring_fifo (mac : Mac) (ops : List RingOp) :
    DropOldest (applyAll (.init mac) ops) ops (takens (.init mac) ops) ∧
      (replies (.init mac) ops).filter (· ≠ []) =
        (returned (takens (.init mac) ops)).filter (· ≠ []) := by
  have hinit := consistent_init mac
  have horder : (takens (.init mac) ops).map Taken.frame ++ frames (applyAll (.init mac) ops) =
      enqueued ops := by
    have hrun := @Fifo.leavers_run _ 63 (frames (.init mac)) (ops.map RingOp.queueOp)
    rw [← takens_leavers hinit, ← frames_applyAll hinit, pushed_queueOp, frames_init,
      List.map_map] at hrun
    exact hrun
  refine ⟨⟨horder, ?_, takens_sound hinit ops, ?_, length_frames _, consistent_applyAll hinit ops⟩,
    replies_returned _ _⟩
  · rw [← horder]
    exact (List.filter_sublist.map Taken.frame).trans (List.sublist_append_left _ _)
  · rw [length_frames]
    exact Ring.offset_le _ _

end RxQueue
end Rtl8814au
