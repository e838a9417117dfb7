import Rtl8814au.Device.Eapol
import Rtl8814au.Device.RxQueue
import Rtl8814au.Lib.Worker

/-!
# Device.EapolInbox

The inbox between the receive path and `_Eapol4WayLoop`, with every section under `fLock`, every
release and every read of a flag a step of its own.

* `Arrival`  — a frame that `_RxFrameReceived` puts into the inbox.
* `design`   — the inbox as the mailbox of the worker, which a failed `acquire_sem` ends.
* `inbox_sound` — the frames are handled in their order, each once and to the byte; only those that a
  later one replaced are lost, and never the last.
-/

namespace Rtl8814au
namespace EapolInbox

open Lts Worker

/-- A frame on its way to the inbox, with the device as it was when it came. -/
structure Arrival where
  device : Device
  frame : Bytes
  decap : Device.Decap
  fits : frame.length ≤ 2400
  decapped : device.rxDecap frame = some decap
  routed : device.rxSink decap = .inbox

structure Box where
  fEapolInbox : EapolFrame
  fEapolPending : Bool

/-- What `_HandleEapolFrame` is called with. -/
structure Job where
  payload : Bytes
  senderMac : Mac

def Arrival.job (a : Arrival) : Job where
  payload := a.decap.payload
  senderMac := Buf.ofBytes 6 (a.decap.frameData.slice 16 6)

def deposit (box : Box) (a : Arrival) : Box × Bool :=
  (⟨a.decap.inboxFrame box.fEapolInbox, true⟩, true)

/-- What is in the inbox, as the worker copies it out. -/
def Box.held (box : Box) : Option Job :=
  if box.fEapolPending then
    some ⟨box.fEapolInbox.payload.bytes.take box.fEapolInbox.length, box.fEapolInbox.senderMac⟩
  else none

def drain (box : Box) : Option Job × Box := (box.held, { box with fEapolPending := false })

def design : Design Arrival Box Job where
  put := deposit
  take := drain
  full := Box.fEapolPending
  retries := fun _ => false

/-- The inbox of a device. -/
def boxOf (d : Device) : Box := ⟨d.fEapolInbox, d.fEapolPending⟩

/-- A wakeup of the worker, cut at the lock. -/
theorem eapolWorker_eq (d : Device) (env : Env) (h : d.fRemoved = false) :
    d.eapolWorker env =
      match (drain (boxOf d)).1 with
      | some job => d.takeInbox.handleEapolFrame job.payload job.senderMac env
      | none => (d, []) := by
  unfold Device.eapolWorker drain Box.held boxOf
  rw [if_neg (by simp [h])]
  split
  · rfl
  · rfl

theorem rxDeliver_inbox (a : Arrival) :
    (a.device.rxDeliver a.frame a.decap).map (fun r => boxOf r.1) =
      some (deposit (boxOf a.device) a).1 := by
  simp only [Device.rxDeliver, a.routed]
  rfl

/-- A payload that the sizes let into the inbox is all there. -/
theorem length_payload (a : Arrival) :
    a.decap.payload.length = a.decap.payloadLen.toNat ∧ a.decap.payloadLen.toNat ≤ 300 := by
  obtain ⟨d, frame, r, hlen, hr, hs⟩ := a
  have hsize : r.payloadLen.toNat ≤ 300 := by
    simp only [Device.rxSink] at hs
    split at hs
    · split at hs
      · cases hs
      · split at hs
        · cases hs
        · split at hs
          · cases hs
          · rename_i hbig
            rw [gt_iff_lt, UInt32.lt_iff_toNat_lt] at hbig
            exact Nat.not_lt.mp hbig
    · split at hs <;> cases hs
  refine ⟨Bytes.length_slice ?_, hsize⟩
  obtain ⟨-, h8, hdata, -⟩ := RxQueue.length_frameData hlen hr
  have hpay : r.payloadLen = r.frameLength - r.hdrLen - 8 := by
    obtain ⟨frameData, frameLength, -, -, -, rfl⟩ := Device.rxDecap_eq_some hr
    rfl
  have hhdr : r.hdrLen.toNat = 24 ∨ r.hdrLen.toNat = 26 := by
    obtain ⟨frameData, frameLength, -, -, -, rfl⟩ := Device.rxDecap_eq_some hr
    exact Device.toNat_headerLen frame
  have hval := congrArg UInt32.toNat hpay
  simp only [UInt32.toNat_sub, UInt32.reduceToNat] at hval
  show r.hdrLen.toNat + 8 + r.payloadLen.toNat ≤ r.frameData.length
  omega

theorem held_deposit (box : Box) (a : Arrival) : (deposit box a).1.held = some a.job := by
  obtain ⟨hlen, hmax⟩ := length_payload a
  have hfits : 0 + a.decap.payload.length ≤ 300 := by omega
  have hcopy := box.fEapolInbox.payload.take_copyAt hfits
  rw [Nat.zero_add, List.take_zero, List.nil_append, hlen] at hcopy
  simp only [deposit, Box.held, Device.Decap.inboxFrame, if_true, hcopy]
  rfl

theorem slot : Slot design Box.held Arrival.job where
  put := held_deposit
  signals _ _ := rfl
  take _ := rfl
  clears _ := rfl
  full box := by
    simp only [design, Box.held]
    cases box.fEapolPending <;> rfl

/-! ## Runs -/

abbrev System := State Box Job × History Arrival Job

/-- Nobody has a step to take but the receive path. -/
def AtRest (s : State Box Job) : Prop := s.pc.token + s.tokens + s.owed = 0

/-- The worker has not been told to end, and has not failed. -/
structure Alive (s : State Box Job) : Prop where
  stop : s.stop = false
  removed : s.removed = false
  exited : s.pc.isExited = false

structure Sound (p : System) : Prop where
  /-- In their order, each at most once. -/
  order : (p.2.taken ++ p.1.box.held.toList).Sublist (p.2.puts.map Arrival.job)
  lost : p.2.taken.length + p.1.box.held.toList.length + p.2.overwrites = p.2.puts.length
  bounded : ∀ job ∈ p.1.box.held, job.payload.length ≤ 300
  awake : Alive p.1 → p.1.box.fEapolPending = true → ¬AtRest p.1
  last : Alive p.1 → AtRest p.1 → p.2.taken.getLast? = (p.2.puts.map Arrival.job).getLast?

theorem sound_of {p : System} (ha : Accounted p.1 p.2) (ho : Ordered Box.held Arrival.job p.1 p.2) :
    Sound p where
  order := ho.order
  lost := ho.lost
  bounded := by
    intro job hjob
    have hmem : job ∈ p.2.puts.map Arrival.job :=
      ho.order.subset (List.mem_append_right _ (by simpa using hjob))
    obtain ⟨a, -, rfl⟩ := List.mem_map.mp hmem
    obtain ⟨hlen, hmax⟩ := length_payload a
    exact hlen.trans_le hmax
  awake hlive hpending hrest := by
    have hsome : p.1.box.held.isSome = true := by rw [Box.held, if_pos hpending]; rfl
    have := ha.awake (ho.stale hsome) hlive.stop hlive.removed hlive.exited
    exact absurd hrest (Nat.ne_of_gt this)
  last hlive hrest := by
    have hnone : p.1.box.held = none := by
      by_contra hsome
      have := ha.awake (ho.stale (Option.isSome_iff_ne_none.mpr hsome)) hlive.stop hlive.removed
        hlive.exited
      exact absurd hrest (Nat.ne_of_gt this)
    have hnewest := ho.newest
    rw [hnone, Option.toList_none, List.append_nil] at hnewest
    exact hnewest

/-- Whatever the order of the receive path's, the worker's and the shutdown's steps: the frames are
handled in their order, each once and to the byte, a frame is lost only where a later one took its
place, and a worker at rest has handled the last. -/
theorem inbox_sound (mac : Mac) (es : List (Worker.Event Arrival)) :
    Always (tracked design) Sound (start (boxOf (Device.init mac))) es := by
  have hinv : Always (tracked design)
      (fun p => Accounted p.1 p.2 ∧ Ordered Box.held Arrival.job p.1 p.2)
      (start (boxOf (Device.init mac))) es := by
    refine always_of_step ?_ ⟨accounted_init _, ordered_init rfl⟩
    rintro p q e ⟨ha, ho⟩ hs
    have hstep := step_of_tracked hs
    exact ⟨ha.step hstep, ho.step slot hstep⟩
  exact always_mono (fun hi => sound_of hi.1 hi.2) hinv

end EapolInbox
end Rtl8814au
