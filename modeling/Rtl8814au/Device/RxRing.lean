import Rtl8814au.Device.Steps
import Rtl8814au.Lib.Ring

/-!
# Device.RxRing

The receive ring and its semaphore `fRxDataReady`: frames from the receive callback, any number of
`Read` calls, `Close` and a later `Open`, interleaved at every access. The ring is changed under
`fLock`; the semaphore, `fBlockedReaders` and `fClosing` are not.

`release_sem` hands its tokens to the waiting readers first and adds the rest to the count. What the
other calls make of the device, its ring apart, is left open; it is not removed.

* `Settled`, `Agreed` — where no call is between its semaphore operation and its end, the count is
  the number of frames in the ring; a reader about to dequeue always finds one.
* `Orderly` — what the code relies on: see there.
* `Inv`     — the tokens in circulation are the frames in the ring and what `Close` owes.
-/

namespace Rtl8814au
namespace RxRing

open Lts

/-- Where a call of `Read` stands that is not waiting on the semaphore. -/
inductive ReadPc where
  | entered
  | registering -- Past the first look at `fClosing`.
  | acquiring -- Counted in `fBlockedReaders`.
  | interrupted -- Still counted.
  | acquired -- Still counted.
  | checking -- Ahead of the second look at `fClosing`.
  | dequeuing
deriving DecidableEq

/-- Where a call of `Close` stands. -/
inductive ClosePc where
  | entered
  | counting -- `fClosing` is set.
  | releasing (blocked : Int)
deriving DecidableEq

structure RingState where
  device : Device
  fClosing : Bool
  fBlockedReaders : Int
  fRxDataReady : Nat -- The count of the semaphore.
  parked : Nat -- Readers waiting on the semaphore.
  reads : List ReadPc
  closes : List ClosePc
  unreleased : Nat -- Frames in the ring for which `release_sem` is still to be called.
  -- Tokens that a `Close` has released and that no `Read` ending because of `fClosing` has taken.
  owed : Nat

def RingState.init (mac : Mac) : RingState where
  device := .init mac
  fClosing := false
  fBlockedReaders := 0
  fRxDataReady := 0
  parked := 0
  reads := []
  closes := []
  unreleased := 0
  owed := 0

inductive RingEvent where
  | rxFrame (frame : Bytes) -- A data frame for the ring: the section under `fLock`.
  | release -- The receive callback releases the semaphore.
  | callRead
  | read (k : Nat) (numBytes : Nat)
  | interrupt -- A waiting reader is interrupted.
  | callClose
  | close (k : Nat)
  | reopen -- `Open` clears `fClosing`.
  | others (device : Device) -- Any other call: joins, keys, the handshake.

/-! ## Steps -/

/-- What `_RxFrameReceived` writes to the ring, if the frame gets there. -/
def ringEntryOf (d : Device) (frame : Bytes) : Option RxRingEntry :=
  match d.rxDecap frame with
  | none => none
  | some r =>
    if d.rxSink r = .ring ∧ 14 + r.payloadLen.toNat ≤ kRxRingFrameMaxSize then
      some (r.ringEntry (d.fRxRing d.fRxRingHead))
    else none

def full (d : Device) : Prop := d.fRxRingHead + 1 = d.fRxRingTail

instance (d : Device) : Decidable (full d) := inferInstanceAs (Decidable (_ = _))

/-- Frames in the ring. -/
def queued (d : Device) : Nat := Ring.offset d.fRxRingTail d.fRxRingHead

namespace RingState

def addRead (s : RingState) (t : ReadPc) : RingState := { s with reads := t :: s.reads }
def addClose (s : RingState) (t : ClosePc) : RingState := { s with closes := t :: s.closes }

/-- `release_sem_etc(fRxDataReady, n)`. -/
def releaseSem (s : RingState) (n : Nat) : RingState :=
  { s with
    parked := s.parked - min n s.parked
    reads := List.replicate (min n s.parked) .acquired ++ s.reads
    fRxDataReady := s.fRxDataReady + (n - min n s.parked) }

end RingState

/-- The section under `fLock`. A full ring loses a frame, and a token if there is one. -/
def enqueueStep (s : RingState) (entry : RxRingEntry) : RingState :=
  { s with
    device := s.device.enqueue entry
    fRxDataReady := if full s.device then s.fRxDataReady - 1 else s.fRxDataReady
    unreleased := s.unreleased + 1 }

/-- What the other calls make of the device: anything, but for the ring and a removal. -/
def othersStep (s : RingState) (device : Device) : RingState :=
  { s with
    device := { device with
      fRxRing := s.device.fRxRing
      fRxRingHead := s.device.fRxRingHead
      fRxRingTail := s.device.fRxRingTail
      fRemoved := s.device.fRemoved } }

/-- One step of `Read`, by a call already taken out of the pool. -/
def readStep (s : RingState) (numBytes : Nat) : ReadPc → RingState
  | .entered => if s.device.fRemoved ∨ s.fClosing then s else s.addRead .registering
  | .registering => { s with fBlockedReaders := s.fBlockedReaders + 1 }.addRead .acquiring
  | .acquiring =>
    if 0 < s.fRxDataReady then { s with fRxDataReady := s.fRxDataReady - 1 }.addRead .acquired
    else { s with parked := s.parked + 1 }
  | .interrupted => { s with fBlockedReaders := s.fBlockedReaders - 1 }
  | .acquired => { s with fBlockedReaders := s.fBlockedReaders - 1 }.addRead .checking
  | .checking =>
    if s.device.fRemoved ∨ s.fClosing then { s with owed := s.owed - 1 } else s.addRead .dequeuing
  | .dequeuing => { s with device := (s.device.read numBytes).1 }

def closeStep (s : RingState) : ClosePc → RingState
  | .entered => { s with fClosing := true }.addClose .counting
  | .counting => s.addClose (.releasing s.fBlockedReaders)
  | .releasing blocked =>
    if blocked > 0 then { s.releaseSem blocked.toNat with owed := s.owed + blocked.toNat } else s

def next (s : RingState) : RingEvent → Option RingState
  | .rxFrame frame => (ringEntryOf s.device frame).map (enqueueStep s)
  | .release =>
    if 0 < s.unreleased then some ({ s with unreleased := s.unreleased - 1 }.releaseSem 1)
    else none
  | .callRead => some (s.addRead .entered)
  | .read k numBytes =>
    (pick s.reads k).map fun (t, rest) => readStep { s with reads := rest } numBytes t
  | .interrupt =>
    if 0 < s.parked then some ({ s with parked := s.parked - 1 }.addRead .interrupted) else none
  | .callClose => some (s.addClose .entered)
  | .close k => (pick s.closes k).map fun (t, rest) => closeStep { s with closes := rest } t
  | .reopen => some { s with fClosing := false }
  | .others device => some (othersStep s device)

/-! ## The property and its condition -/

/-- The reader holds a token and has not looked at `fClosing` again. -/
def ReadPc.isWoken (t : ReadPc) : Bool := t = .acquired ∨ t = .checking

def ReadPc.isDequeuing (t : ReadPc) : Bool := t = .dequeuing

/-- No `Read` is past its semaphore operation, no enqueue ahead of its own. -/
def Settled (s : RingState) : Prop :=
  s.unreleased = 0 ∧ ∀ t ∈ s.reads, t = .entered ∨ t = .registering ∨ t = .acquiring

structure Agreed (s : RingState) : Prop where
  settled : Settled s → s.fRxDataReady = queued s.device
  served : .dequeuing ∈ s.reads → 0 < queued s.device

/-- The tokens this step of `Close` releases. -/
def ClosePc.released : ClosePc → Option Nat
  | .releasing blocked => some blocked.toNat
  | .entered => none
  | .counting => none

/-- * A frame is dropped from a full ring only while the count is positive.
* A reader that ends because of `fClosing` takes a token that a `Close` has released.
* What `Close` releases goes, with what is owed already, to readers that are waiting or have not
  looked at `fClosing` again, and they will find it set.
* `Open` clears `fClosing` only when all these tokens are taken. -/
def Orderly (s : RingState) : RingEvent → Prop
  | .rxFrame _ => full s.device → 0 < s.fRxDataReady
  | .read k _ => ∀ p ∈ pick s.reads k, p.1 = .checking → s.fClosing = true → 0 < s.owed
  | .close k => ∀ p ∈ pick s.closes k, ∀ blocked ∈ p.1.released, 0 < blocked →
      s.fClosing = true ∧ s.owed + blocked ≤ s.parked + s.reads.countP ReadPc.isWoken
  | .reopen => s.owed = 0
  | .release => True
  | .callRead => True
  | .interrupt => True
  | .callClose => True
  | .others _ => True

instance (s : RingState) : ∀ e, Decidable (Orderly s e)
  | .rxFrame _ => inferInstanceAs (Decidable (_ → _))
  | .read k _ => inferInstanceAs (Decidable (∀ p ∈ pick s.reads k, _ → _ → _))
  | .close k => inferInstanceAs
      (Decidable (∀ p ∈ pick s.closes k, ∀ blocked ∈ p.1.released, _ → _ ∧ _))
  | .reopen => inferInstanceAs (Decidable (_ = _))
  | .release => isTrue trivial
  | .callRead => isTrue trivial
  | .interrupt => isTrue trivial
  | .callClose => isTrue trivial
  | .others _ => isTrue trivial

/-! ## The ring -/

/-- Exactly the slots from the tail up to the head hold a frame. -/
def InOrder (d : Device) : Prop :=
  Ring.Marked (fun entry : RxRingEntry => 0 < entry.length) d.fRxRing d.fRxRingHead d.fRxRingTail

theorem inOrder_init (mac : Mac) : InOrder (.init mac) :=
  Ring.Marked.init (by intro i; simp [Device.init]) 0

/-- What reaches the ring is at least an Ethernet header long. -/
theorem length_ringEntryOf {d : Device} {frame : Bytes} {entry : RxRingEntry}
    (h : ringEntryOf d frame = some entry) : 0 < entry.length := by
  unfold ringEntryOf at h
  split at h
  · cases h
  · rename_i r hr
    split at h
    · rename_i hfits
      cases h
      have heth : r.ethLen = 14 + r.payloadLen := by
        unfold Device.rxDecap at hr
        dsimp only at hr
        split at hr
        · cases hr
        split at hr
        · cases hr
        split at hr
        · cases hr
        · cases hr
          rfl
      have hsize : 14 + r.payloadLen.toNat ≤ 2400 := hfits.2
      have hval : r.ethLen.toNat = 14 + r.payloadLen.toNat := by
        rw [heth, UInt32.toNat_add]
        exact Nat.mod_eq_of_lt (by simp; omega)
      simp only [Device.Decap.ringEntry, hval]
      omega
    · cases h

/-- With room in the ring, the entry is added at the head. -/
theorem inOrder_room {d : Device} {entry : RxRingEntry} (h : InOrder d)
    (hentry : 0 < entry.length) (hroom : ¬ full d) :
    InOrder (d.enqueue entry) ∧ queued (d.enqueue entry) = queued d + 1 := by
  unfold Device.enqueue Device.makeRoom
  unfold full at hroom
  simp only [if_neg hroom]
  exact ⟨h.push hroom hentry, Ring.offset_succ hroom⟩

/-- A full ring loses the entry at the tail for it. -/
theorem inOrder_full {d : Device} {entry : RxRingEntry} (h : InOrder d)
    (hentry : 0 < entry.length) (hfull : full d) :
    InOrder (d.enqueue entry) ∧ queued (d.enqueue entry) = queued d := by
  have hsome : d.fRxRingHead ≠ d.fRxRingTail := by
    intro he
    unfold full at hfull
    rw [he] at hfull
    exact Ring.succ_ne (by decide) d.fRxRingTail hfull
  have hroom : d.fRxRingHead + 1 ≠ d.fRxRingTail + 1 := fun he => hsome (Ring.succ_inj.mp he)
  have hpop : Ring.Marked (fun entry : RxRingEntry => 0 < entry.length)
      (Function.update d.fRxRing d.fRxRingTail { d.fRxRing d.fRxRingTail with length := 0 })
      d.fRxRingHead (d.fRxRingTail + 1) := h.pop hsome (by simp)
  have hlast := Ring.offset_base_succ hsome
  have hnext := Ring.offset_succ hroom
  unfold Device.enqueue Device.makeRoom
  unfold full at hfull
  simp only [if_pos hfull]
  exact ⟨hpop.push hroom hentry, hnext.trans hlast⟩

theorem inOrder_read {d : Device} (h : InOrder d) (hsome : 0 < queued d) (numBytes : Nat) :
    InOrder (d.read numBytes).1 ∧ queued (d.read numBytes).1 + 1 = queued d := by
  have hlength : 0 < (d.fRxRing d.fRxRingTail).length := h.tail_iff.mpr hsome
  have hne : d.fRxRingHead ≠ d.fRxRingTail := Ring.offset_pos.mp hsome
  unfold Device.read
  dsimp only
  rw [if_neg (by omega)]
  exact ⟨h.pop hne (by simp), Ring.offset_base_succ hne⟩

theorem removed_read (d : Device) (numBytes : Nat) :
    (d.read numBytes).1.fRemoved = d.fRemoved := by
  obtain ⟨ring, tail, hread⟩ := d.read_device numBytes
  rw [hread]

theorem removed_enqueue (d : Device) (entry : RxRingEntry) :
    (d.enqueue entry).fRemoved = d.fRemoved := by
  obtain ⟨ring, head, tail, henqueue⟩ := d.enqueue_device entry
  rw [henqueue]

/-- The model of the whole callback puts the same entry there. -/
theorem rxData_ringEntryOf {d : Device} {frame : Bytes} {entry : RxRingEntry}
    (h : ringEntryOf d frame = some entry) :
    d.rxData frame = some (d.enqueue entry, [.enqueue frame entry]) := by
  unfold ringEntryOf at h
  unfold Device.rxData
  cases hr : d.rxDecap frame with
  | none =>
    rw [hr] at h
    cases h
  | some r =>
    rw [hr] at h
    dsimp only at h ⊢
    split at h
    · rename_i hring
      cases h
      unfold Device.rxDeliver
      rw [hring.1]
      dsimp only
      rw [if_neg (Nat.not_lt.mpr hring.2)]
    · cases h

/-! ## The invariant -/

structure Inv (s : RingState) : Prop where
  inOrder : InOrder s.device
  present : s.device.fRemoved = false
  -- The tokens free, held by readers, and still to come, against the frames and what `Close` owes.
  tokens : s.fRxDataReady + s.reads.countP ReadPc.isWoken + s.reads.countP ReadPc.isDequeuing +
    s.unreleased = queued s.device + s.owed
  owed : s.owed ≤ s.reads.countP ReadPc.isWoken
  closing : 0 < s.owed → s.fClosing = true

theorem inv_init (mac : Mac) : Inv (.init mac) where
  inOrder := inOrder_init mac
  present := rfl
  tokens := by simp [RingState.init, queued, Device.init, Ring.offset_self]
  owed := Nat.le_refl 0
  closing := fun h => absurd h (Nat.lt_irrefl 0)

theorem Inv.agreed {s : RingState} (h : Inv s) : Agreed s where
  settled := by
    rintro ⟨hnone, hreads⟩
    have hwoken : s.reads.countP ReadPc.isWoken = 0 := by
      rw [List.countP_eq_zero]
      intro t ht
      rcases hreads t ht with rfl | rfl | rfl <;> decide
    have hdequeuing : s.reads.countP ReadPc.isDequeuing = 0 := by
      rw [List.countP_eq_zero]
      intro t ht
      rcases hreads t ht with rfl | rfl | rfl <;> decide
    have htokens := h.tokens
    have howed := h.owed
    omega
  served := by
    intro hmem
    have hpos : 0 < s.reads.countP ReadPc.isDequeuing :=
      List.countP_pos_iff.mpr ⟨.dequeuing, hmem, rfl⟩
    have htokens := h.tokens
    have howed := h.owed
    omega

/-! ## Steps keep the invariant -/

/-- The tokens that `release_sem` gives out. -/
theorem tokens_releaseSem (s : RingState) (n : Nat) :
    (s.releaseSem n).fRxDataReady + (s.releaseSem n).reads.countP ReadPc.isWoken =
        s.fRxDataReady + s.reads.countP ReadPc.isWoken + n ∧
      (s.releaseSem n).reads.countP ReadPc.isWoken =
        s.reads.countP ReadPc.isWoken + min n s.parked ∧
      (s.releaseSem n).reads.countP ReadPc.isDequeuing = s.reads.countP ReadPc.isDequeuing := by
  have hwoken : (List.replicate (min n s.parked) ReadPc.acquired).countP ReadPc.isWoken =
      min n s.parked := by
    rw [List.countP_replicate, if_pos (by decide)]
  have hdequeuing : (List.replicate (min n s.parked) ReadPc.acquired).countP ReadPc.isDequeuing =
      0 := by
    rw [List.countP_replicate, if_neg (by decide)]
  simp only [RingState.releaseSem, List.countP_append, hwoken, hdequeuing]
  omega

theorem inv_rxFrame {s : RingState} {frame : Bytes} {entry : RxRingEntry} (h : Inv s)
    (hentry : ringEntryOf s.device frame = some entry) (ho : Orderly s (.rxFrame frame)) :
    Inv (enqueueStep s entry) := by
  have hlength := length_ringEntryOf hentry
  have htokens := h.tokens
  by_cases hfull : full s.device
  · obtain ⟨horder, hqueued⟩ := inOrder_full h.inOrder hlength hfull
    have hcount : 0 < s.fRxDataReady := ho hfull
    refine ⟨horder, (removed_enqueue _ _).trans h.present, ?_, h.owed, h.closing⟩
    simp only [enqueueStep, if_pos hfull, hqueued]
    omega
  · obtain ⟨horder, hqueued⟩ := inOrder_room h.inOrder hlength hfull
    refine ⟨horder, (removed_enqueue _ _).trans h.present, ?_, h.owed, h.closing⟩
    simp only [enqueueStep, if_neg hfull, hqueued]
    omega

theorem inv_release {s : RingState} (h : Inv s) (hpos : 0 < s.unreleased) :
    Inv ({ s with unreleased := s.unreleased - 1 }.releaseSem 1) := by
  obtain ⟨htotal, hwoken, hdequeuing⟩ :=
    tokens_releaseSem { s with unreleased := s.unreleased - 1 } 1
  have htokens := h.tokens
  have howed := h.owed
  simp only at htotal hwoken hdequeuing
  refine ⟨h.inOrder, h.present, ?_, ?_, h.closing⟩
  · simp only [RingState.releaseSem] at *
    omega
  · simp only [RingState.releaseSem] at *
    omega

/-- A call that holds no token takes a step, or leaves. -/
theorem Inv.reads {s s' : RingState} (h : Inv s) (hd : s'.device = s.device)
    (hc : s'.fClosing = s.fClosing) (hcount : s'.fRxDataReady = s.fRxDataReady)
    (hw : s'.reads.countP ReadPc.isWoken = s.reads.countP ReadPc.isWoken)
    (hq : s'.reads.countP ReadPc.isDequeuing = s.reads.countP ReadPc.isDequeuing)
    (hu : s'.unreleased = s.unreleased) (ho : s'.owed = s.owed) : Inv s' := by
  refine ⟨?_, ?_, ?_, ?_, ?_⟩
  · rw [hd]
    exact h.inOrder
  · rw [hd]
    exact h.present
  · rw [hd, hcount, hw, hq, hu, ho]
    exact h.tokens
  · rw [ho, hw]
    exact h.owed
  · rw [ho, hc]
    exact h.closing

section Read

variable {s : RingState} {k numBytes : Nat} {rest : List ReadPc}

/-- A reader takes a token of the count, or waits for one. -/
theorem inv_acquiring (h : Inv s) (hp : pick s.reads k = some (.acquiring, rest)) :
    Inv (readStep { s with reads := rest } numBytes .acquiring) := by
  have hwoken := pick_countP hp ReadPc.isWoken
  have hdequeuing := pick_countP hp ReadPc.isDequeuing
  simp only [readStep]
  split
  · rename_i hcount
    have hcount : 0 < s.fRxDataReady := hcount
    have htokens := h.tokens
    have howed := h.owed
    simp [ReadPc.isWoken] at hwoken
    simp [ReadPc.isDequeuing] at hdequeuing
    refine ⟨h.inOrder, h.present, ?_, ?_, h.closing⟩
    · simp [RingState.addRead, ReadPc.isWoken, ReadPc.isDequeuing]
      omega
    · simp [RingState.addRead, ReadPc.isWoken]
      omega
  · exact h.reads rfl rfl rfl hwoken.symm hdequeuing.symm rfl rfl

/-- The second look at `fClosing`. -/
theorem inv_checking (h : Inv s) (hp : pick s.reads k = some (.checking, rest))
    (ho : Orderly s (.read k numBytes)) :
    Inv (readStep { s with reads := rest } numBytes .checking) := by
  have hwoken := pick_countP hp ReadPc.isWoken
  have hdequeuing := pick_countP hp ReadPc.isDequeuing
  have htokens := h.tokens
  have howed := h.owed
  simp [ReadPc.isWoken] at hwoken
  simp [ReadPc.isDequeuing] at hdequeuing
  simp only [readStep]
  split
  · -- the reader ends with a token that a `Close` has released
    rename_i hends
    have hclosing : s.fClosing = true := by simpa [h.present] using hends
    have hpos : 0 < s.owed := ho _ hp rfl hclosing
    refine ⟨h.inOrder, h.present, ?_, ?_, fun _ => hclosing⟩
    · simp only
      omega
    · simp only
      omega
  · -- nothing is owed, so its token stands for a frame
    rename_i hgoes
    have hopen : s.fClosing ≠ true := by simpa [h.present] using hgoes
    have hnone : s.owed = 0 := by
      by_contra hsome
      exact hopen (h.closing (Nat.pos_of_ne_zero hsome))
    refine ⟨h.inOrder, h.present, ?_, ?_, h.closing⟩
    · simp [RingState.addRead, ReadPc.isWoken, ReadPc.isDequeuing]
      omega
    · simp only [hnone]
      exact Nat.zero_le _

theorem inv_dequeuing (h : Inv s) (hp : pick s.reads k = some (.dequeuing, rest)) :
    Inv (readStep { s with reads := rest } numBytes .dequeuing) := by
  have hwoken := pick_countP hp ReadPc.isWoken
  have hdequeuing := pick_countP hp ReadPc.isDequeuing
  have htokens := h.tokens
  have howed := h.owed
  have hpos : 0 < queued s.device := h.agreed.served (pick_mem hp)
  obtain ⟨horder, hqueued⟩ := inOrder_read h.inOrder hpos numBytes
  simp [ReadPc.isWoken] at hwoken
  simp [ReadPc.isDequeuing] at hdequeuing
  refine ⟨horder, (removed_read _ _).trans h.present, ?_, ?_, h.closing⟩
  · simp only [readStep]
    omega
  · simp only [readStep]
    omega

theorem inv_read {t : ReadPc} (h : Inv s) (hp : pick s.reads k = some (t, rest))
    (ho : Orderly s (.read k numBytes)) : Inv (readStep { s with reads := rest } numBytes t) := by
  have hwoken := pick_countP hp ReadPc.isWoken
  have hdequeuing := pick_countP hp ReadPc.isDequeuing
  cases t with
  | entered =>
    simp only [readStep]
    split
    · exact h.reads rfl rfl rfl hwoken.symm hdequeuing.symm rfl rfl
    · exact h.reads rfl rfl rfl hwoken.symm hdequeuing.symm rfl rfl
  | registering => exact h.reads rfl rfl rfl hwoken.symm hdequeuing.symm rfl rfl
  | acquiring => exact inv_acquiring h hp
  | interrupted => exact h.reads rfl rfl rfl hwoken.symm hdequeuing.symm rfl rfl
  | acquired =>
    refine h.reads rfl rfl rfl ?_ ?_ rfl rfl
    · rw [hwoken]
      simp [readStep, RingState.addRead, ReadPc.isWoken]
    · rw [hdequeuing]
      simp [readStep, RingState.addRead, ReadPc.isDequeuing]
  | checking => exact inv_checking h hp ho
  | dequeuing => exact inv_dequeuing h hp

end Read

/-- What a `Close` does to the semaphore goes to readers that will end for it. -/
theorem inv_close {s : RingState} {k : Nat} {t : ClosePc} {rest : List ClosePc} (h : Inv s)
    (hp : pick s.closes k = some (t, rest)) (ho : Orderly s (.close k)) :
    Inv (closeStep { s with closes := rest } t) := by
  cases t with
  | entered => exact ⟨h.inOrder, h.present, h.tokens, h.owed, fun _ => rfl⟩
  | counting => exact ⟨h.inOrder, h.present, h.tokens, h.owed, h.closing⟩
  | releasing blocked =>
    simp only [closeStep]
    split
    · rename_i hpos
      have hn : 0 < blocked.toNat := by omega
      obtain ⟨hclosing, hroom⟩ := ho _ hp blocked.toNat rfl hn
      obtain ⟨htotal, hwoken, hdequeuing⟩ :=
        tokens_releaseSem { s with closes := rest } blocked.toNat
      have htokens := h.tokens
      have howed := h.owed
      simp only at htotal hwoken hdequeuing
      refine ⟨h.inOrder, h.present, ?_, ?_, fun _ => hclosing⟩
      · simp only [RingState.releaseSem] at *
        omega
      · simp only [RingState.releaseSem] at *
        omega
    · exact ⟨h.inOrder, h.present, h.tokens, h.owed, h.closing⟩

theorem inv_step {s s' : RingState} {e : RingEvent} (h : Inv s) (ho : Orderly s e)
    (hn : next s e = some s') : Inv s' := by
  cases e with
  | rxFrame frame =>
    simp only [next, Option.map_eq_some_iff] at hn
    obtain ⟨entry, hentry, rfl⟩ := hn
    exact inv_rxFrame h hentry ho
  | release =>
    simp only [next] at hn
    split at hn
    · rename_i hpos
      cases hn
      exact inv_release h hpos
    · cases hn
  | callRead =>
    cases hn
    exact h.reads rfl rfl rfl rfl rfl rfl rfl
  | read k numBytes =>
    simp only [next, Option.map_eq_some_iff] at hn
    obtain ⟨⟨t, rest⟩, hp, rfl⟩ := hn
    exact inv_read h hp ho
  | interrupt =>
    simp only [next] at hn
    split at hn
    · cases hn
      exact h.reads rfl rfl rfl rfl rfl rfl rfl
    · cases hn
  | callClose =>
    cases hn
    exact ⟨h.inOrder, h.present, h.tokens, h.owed, h.closing⟩
  | close k =>
    simp only [next, Option.map_eq_some_iff] at hn
    obtain ⟨⟨t, rest⟩, hp, rfl⟩ := hn
    exact inv_close h hp ho
  | reopen =>
    cases hn
    have hnone : s.owed = 0 := ho
    refine ⟨h.inOrder, h.present, h.tokens, h.owed, ?_⟩
    intro hpos
    have hpos : 0 < s.owed := hpos
    omega
  | others device =>
    cases hn
    exact ⟨h.inOrder, h.present, h.tokens, h.owed, h.closing⟩

/-- In every run whose steps are orderly, count and ring agree. -/
theorem ring_and_semaphore {mac : Mac} {es : List RingEvent} {s : RingState}
    (ho : Meets next Orderly (.init mac) es) (hr : run next (.init mac) es = some s) : Agreed s :=
  (run_invariant inv_step (inv_init mac) ho hr).agreed

def sampleMac : Mac := Buf.ofBytes 6 [2, 0, 0, 0, 0, 2]

/-- A plain data frame of the access point, with a payload of two bytes. -/
def sampleFrame : Bytes :=
  [0x08, 0x02, 0, 0] ++ sampleMac.bytes ++ [2, 0, 0, 0, 0, 1] ++ [2, 0, 0, 0, 0, 1] ++ [0, 0] ++
    [0xAA, 0xAA, 0x03, 0, 0, 0, 0x08, 0x00] ++ [1, 2]

/-- A waiting reader is woken by `Close` and ends; after another `Open` a frame comes. -/
def closedWhileWaiting : List RingEvent :=
  .callRead :: List.replicate 3 (.read 0 0) ++ .callClose :: List.replicate 3 (.close 0) ++
    List.replicate 2 (.read 0 0) ++ [.reopen, .rxFrame sampleFrame, .release]

theorem ring_and_semaphore_closedWhileWaiting :
    ∃ s, run next (.init sampleMac) closedWhileWaiting = some s ∧ s.unreleased = 0 ∧
      s.reads = [] ∧ s.fRxDataReady = 1 ∧ Agreed s := by
  have hrun : (run next (.init sampleMac) closedWhileWaiting).map
      (fun s => (s.unreleased, s.reads, s.fRxDataReady)) = some (0, [], 1) := by decide +kernel
  obtain ⟨s, hr, hfields⟩ := Option.map_eq_some_iff.mp hrun
  simp only [Prod.mk.injEq] at hfields
  obtain ⟨hnone, hreads, hcount⟩ := hfields
  exact ⟨s, hr, hnone, hreads, hcount, ring_and_semaphore (by decide +kernel) hr⟩

/-- A reader has taken the token of a frame and given up its registration when `Close` sets
`fClosing`: it ends without the frame, and no token is left for it. -/
def closedWhileServed : List RingEvent :=
  [.rxFrame sampleFrame, .release, .callRead] ++ List.replicate 4 (.read 0 0) ++
    .callClose :: List.replicate 3 (.close 0) ++ [.read 0 0]

theorem ring_and_semaphore_closedWhileServed :
    ∃ s, run next (.init sampleMac) closedWhileServed = some s ∧ s.unreleased = 0 ∧
      s.reads = [] ∧ s.fRxDataReady = 0 ∧ queued s.device = 1 := by
  have hrun : (run next (.init sampleMac) closedWhileServed).map
      (fun s => (s.unreleased, s.reads, s.fRxDataReady, queued s.device)) = some (0, [], 0, 1) := by
    decide +kernel
  obtain ⟨s, hr, hfields⟩ := Option.map_eq_some_iff.mp hrun
  simp only [Prod.mk.injEq] at hfields
  exact ⟨s, hr, hfields⟩

end RxRing
end Rtl8814au
