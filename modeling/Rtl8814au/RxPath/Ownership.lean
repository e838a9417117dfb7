import Rtl8814au.Lib.Bytes
import Rtl8814au.Lib.Lts

/-!
# RxPath.Ownership

The receive buffers as a concurrent system: `Start`, `Stop` and any number of completion callbacks,
interleaved at every USB call, every access to `fRunning` and every atomic counter operation.

* `startStep`, `stopStep`, `callbackStep` — one atomic step of each kind of thread.
* `Owned`     — what the buffers owe: no buffer queued twice, and nothing queued once a `Stop` has
  returned having found no transfer in flight.
* `Orderly`   — the two orders of steps the code does not exclude but relies on.
* `inv_step`  — an orderly step keeps the counting invariant, which implies `Owned`.
-/

namespace Rtl8814au
namespace RxPath

open Lts

abbrev kRxTransferCount : Nat := 4
def kRxDrainAttempts : Nat := 20

abbrev Buffer := Fin kRxTransferCount

/-- The status of a completion; `error` is any other than the three the callback tells apart. -/
inductive Status
  | ok
  | error
  | canceled
  | devNotReady
deriving DecidableEq

/-- The callback returns early, without looking at `fRunning`. -/
def Status.isFinal : Status → Bool
  | .canceled | .devNotReady => true
  | .ok | .error => false

/-- Where a call of `_RxCallback` stands. -/
inductive CallbackPc
  | entered -- `fTransfersInFlight` is not decremented yet
  | processing -- decremented; `fRunning` is not read yet
  | resubmitting -- `fRunning` was set; `queue_bulk` is not called yet
  | counting -- `queue_bulk` succeeded; `fTransfersInFlight` is not incremented yet
deriving DecidableEq

structure Callback where
  buffer : Buffer
  status : Status
  pc : CallbackPc
deriving DecidableEq

/-- `cancel_queued_transfers` completes the transfer of buffer `i`. -/
def Callback.cancel (i : Buffer) : Callback := ⟨i, .canceled, .entered⟩

/-- Where a call of `Start` stands. -/
inductive StartPc
  | entered
  | sawStopped -- `fRunning` was clear
  | sawDrained -- `fTransfersInFlight` was zero; `fRunning` is not set yet
  | submitting (i : Buffer) -- in `_SubmitTransfer(i)`, before `queue_bulk`
  | counting (i : Buffer) -- in `_SubmitTransfer(i)`, before the increment
deriving DecidableEq

/-- Where a call of `Stop` stands. -/
inductive StopPc
  | entered
  | sawRunning -- `fRunning` was set
  | cancelling (attempt : Nat)
  | checking (attempt : Nat)
  | reporting -- before the last read of the counter
deriving DecidableEq

structure RxState where
  fRunning : Bool
  fTransfersInFlight : Int
  fFrameCallback : Bool -- `fFrameCallback` is not `NULL`
  fBulkIn : Bool -- `fBulkIn` is not zero
  queue : List Buffer -- the buffers the USB stack holds, one entry for each transfer
  callbacks : List Callback
  starts : List StartPc
  stops : List StopPc
  -- a `Stop` returned having found no transfer in flight, and no `Start` has set `fRunning` since
  drained : Bool
deriving DecidableEq

def RxState.init (frameCallback bulkIn : Bool) : RxState where
  fRunning := false
  fTransfersInFlight := 0
  fFrameCallback := frameCallback
  fBulkIn := bulkIn
  queue := []
  callbacks := []
  starts := []
  stops := []
  drained := false

inductive Event
  | callStart
  | callStop
  -- thread `k` takes its next step; `queued` is the answer of `queue_bulk`, if it asks
  | start (k : Nat) (queued : Bool)
  | stop (k : Nat)
  | callback (k : Nat) (queued : Bool)
  -- the USB stack completes its `k`-th transfer and calls back
  | complete (k : Nat) (status : Status)
deriving DecidableEq

/-! ## Steps -/

namespace RxState

def addStart (s : RxState) (t : StartPc) : RxState := { s with starts := t :: s.starts }
def addStop (s : RxState) (t : StopPc) : RxState := { s with stops := t :: s.stops }
def addCallback (s : RxState) (c : Callback) : RxState := { s with callbacks := c :: s.callbacks }

end RxState

/-- One step of `Start`, by a thread already taken out of the pool. -/
def startStep (s : RxState) (queued : Bool) : StartPc → RxState
  | .entered => if s.fRunning || !s.fFrameCallback then s else s.addStart .sawStopped
  | .sawStopped => if s.fTransfersInFlight ≠ 0 then s else s.addStart .sawDrained
  | .sawDrained => { s with fRunning := true, drained := false }.addStart (.submitting 0)
  | .submitting i =>
    if queued then { s with queue := i :: s.queue }.addStart (.counting i)
    else s.addStop .entered
  | .counting i =>
    let s := { s with fTransfersInFlight := s.fTransfersInFlight + 1 }
    if h : i.val + 1 < kRxTransferCount then s.addStart (.submitting ⟨i.val + 1, h⟩) else s

def stopStep (s : RxState) : StopPc → RxState
  | .entered => if s.fRunning then s.addStop .sawRunning else s
  | .sawRunning =>
    { s with fRunning := false }.addStop (if s.fBulkIn then .cancelling 0 else .reporting)
  | .cancelling n =>
    { s with
      queue := []
      callbacks := s.queue.map Callback.cancel ++ s.callbacks
    }.addStop (.checking n)
  | .checking n =>
    if s.fTransfersInFlight ≤ 0 then s.addStop .reporting
    else if n + 1 < kRxDrainAttempts then s.addStop (.cancelling (n + 1))
    else s.addStop .reporting
  | .reporting => if s.fTransfersInFlight > 0 then s else { s with drained := true }

def callbackStep (s : RxState) (queued : Bool) (c : Callback) : RxState :=
  match c.pc with
  | .entered =>
    let s := { s with fTransfersInFlight := s.fTransfersInFlight - 1 }
    if c.status.isFinal then s else s.addCallback { c with pc := .processing }
  | .processing => if s.fRunning then s.addCallback { c with pc := .resubmitting } else s
  | .resubmitting =>
    if queued then { s with queue := c.buffer :: s.queue }.addCallback { c with pc := .counting }
    else s
  | .counting => { s with fTransfersInFlight := s.fTransfersInFlight + 1 }

def next (s : RxState) : Event → Option RxState
  | .callStart => some (s.addStart .entered)
  | .callStop => some (s.addStop .entered)
  | .start k queued =>
    (pick s.starts k).map fun (t, rest) => startStep { s with starts := rest } queued t
  | .stop k => (pick s.stops k).map fun (t, rest) => stopStep { s with stops := rest } t
  | .callback k queued =>
    (pick s.callbacks k).map fun (c, rest) => callbackStep { s with callbacks := rest } queued c
  | .complete k status =>
    (pick s.queue k).map fun (i, rest) =>
      { s with queue := rest }.addCallback ⟨i, status, .entered⟩

/-! ## The property and its condition -/

structure Owned (s : RxState) : Prop where
  once : ∀ i, s.queue.count i ≤ 1 -- no buffer is queued twice
  -- nothing is queued between a `Stop` that found nothing in flight and the next `Start`
  quiet : s.drained = true → s.queue = []

/-- A `Start` that has read the counter as zero and has not returned. -/
def StartPc.pastCheck : StartPc → Bool
  | .entered | .sawStopped => false
  | .sawDrained | .submitting _ | .counting _ => true

/-- A `Start` that has set `fRunning` and has not returned. -/
def StartPc.submits : StartPc → Bool
  | .entered | .sawStopped | .sawDrained => false
  | .submitting _ | .counting _ => true

/-- A callback that has seen `fRunning` set and has not returned. -/
def CallbackPc.submits : CallbackPc → Bool
  | .entered | .processing => false
  | .resubmitting | .counting => true

/-- `Start` reads a zero counter only when no callback is past its decrement and no other `Start`
is past that read; the last read of `Stop` finds nothing in flight only when `fRunning` is still
clear and no thread is between seeing or setting `fRunning` and its last submission. -/
def Orderly (s : RxState) : Event → Prop
  | .start k _ => ∀ p ∈ pick s.starts k, p.1 = .sawStopped → s.fTransfersInFlight = 0 →
      (∀ c ∈ s.callbacks, c.pc = .entered) ∧ ∀ t ∈ p.2, t.pastCheck = false
  | .stop k => ∀ p ∈ pick s.stops k, p.1 = .reporting → s.fTransfersInFlight ≤ 0 →
      s.fRunning = false ∧ (∀ c ∈ s.callbacks, c.pc.submits = false) ∧
      ∀ t ∈ s.starts, t.submits = false
  | .callStart | .callStop | .callback _ _ | .complete _ _ => True

instance decidableOrderly (s : RxState) : ∀ e, Decidable (Orderly s e)
  | .start k _ => inferInstanceAs (Decidable (∀ p ∈ pick s.starts k, _ → _ → _))
  | .stop k => inferInstanceAs (Decidable (∀ p ∈ pick s.stops k, _ → _ → _))
  | .callStart | .callStop | .callback _ _ | .complete _ _ => isTrue trivial

/-! ## The invariant -/

def Callback.isEntered (c : Callback) : Bool := c.pc = .entered
def Callback.isCounting (c : Callback) : Bool := c.pc = .counting

/-- A `Start` between `queue_bulk` and the increment. -/
def StartPc.isCounting : StartPc → Bool
  | .counting _ => true
  | _ => false

/-- The callback may still queue buffer `i`. -/
def Callback.holds (i : Buffer) (c : Callback) : Bool :=
  c.buffer = i && match c.pc with
    | .entered => !c.status.isFinal
    | .processing | .resubmitting => true
    | .counting => false

/-- The `Start` may still queue buffer `i`. -/
def StartPc.holds (i : Buffer) : StartPc → Bool
  | .entered | .sawStopped => false
  | .sawDrained => true
  | .submitting j => j ≤ i
  | .counting j => j < i

structure Inv (s : RxState) : Prop where
  -- the counter, corrected by the threads between a queue operation and its count
  count : s.fTransfersInFlight + s.callbacks.countP Callback.isCounting +
    s.starts.countP StartPc.isCounting = s.queue.length + s.callbacks.countP Callback.isEntered
  -- at most one transfer or thread has the right to each buffer
  token : ∀ i, s.queue.count i + s.callbacks.countP (Callback.holds i) +
    s.starts.countP (StartPc.holds i) ≤ 1
  quiet : s.drained = true → s.fRunning = false ∧ s.queue = [] ∧
    (∀ c ∈ s.callbacks, c.pc = .processing) ∧ ∀ t ∈ s.starts, t.submits = false

theorem inv_init (frameCallback bulkIn : Bool) : Inv (.init frameCallback bulkIn) where
  count := rfl
  token := by intro i; simp [RxState.init]
  quiet := by intro h; cases h

theorem Inv.owned {s : RxState} (h : Inv s) : Owned s where
  once := by intro i; have := h.token i; omega
  quiet := fun hd => (h.quiet hd).2.1

/-! ## Steps keep the invariant -/

/-- A thread that returns without another counter operation. -/
theorem Inv.startReturns {s : RxState} {k : Nat} {t : StartPc} {rest : List StartPc}
    (h : Inv s) (hp : pick s.starts k = some (t, rest)) (ht : t.isCounting = false) :
    Inv { s with starts := rest } where
  count := by
    have := h.count
    simp only [pick_countP hp, ht] at this
    simpa using this
  token := by
    intro i
    have := h.token i
    simp only [pick_countP hp] at this
    simp only
    omega
  quiet := by
    intro hd
    obtain ⟨h1, h2, h3, h4⟩ := h.quiet hd
    exact ⟨h1, h2, h3, fun u hu => h4 u (pick_rest hp hu)⟩

/-- Every callback is still counted, so a zero counter leaves no transfer and no callback. -/
theorem Inv.idle_of_zero {s : RxState} (h : Inv s) (hz : s.fTransfersInFlight = 0)
    (hcb : ∀ c ∈ s.callbacks, c.pc = .entered) (hst : ∀ t ∈ s.starts, t.pastCheck = false) :
    s.queue = [] ∧ s.callbacks = [] ∧ ∀ i, s.starts.countP (StartPc.holds i) = 0 := by
  have hcc : s.callbacks.countP Callback.isCounting = 0 := by
    rw [List.countP_eq_zero]
    intro c hc
    simp [Callback.isCounting, hcb c hc]
  have hce : s.callbacks.countP Callback.isEntered = s.callbacks.length := by
    rw [List.countP_eq_length]
    intro c hc
    simp [Callback.isEntered, hcb c hc]
  have hsc : s.starts.countP StartPc.isCounting = 0 := by
    rw [List.countP_eq_zero]
    intro u hu
    have := hst u hu
    cases u <;> simp_all [StartPc.isCounting, StartPc.pastCheck]
  have hlen := h.count
  simp only [hz, hcc, hce, hsc] at hlen
  refine ⟨List.eq_nil_of_length_eq_zero (by omega), List.eq_nil_of_length_eq_zero (by omega), ?_⟩
  intro i
  rw [List.countP_eq_zero]
  intro u hu
  have := hst u hu
  cases u <;> simp_all [StartPc.holds, StartPc.pastCheck]

theorem start_inv {s : RxState} {k : Nat} {queued : Bool} {t : StartPc} {rest : List StartPc}
    (h : Inv s) (ho : Orderly s (.start k queued)) (hp : pick s.starts k = some (t, rest)) :
    Inv (startStep { s with starts := rest } queued t) := by
  have hcount := h.count
  have htoken := h.token
  have hrest : ∀ u ∈ rest, u ∈ s.starts := fun u hu => pick_rest hp hu
  simp only [pick_countP hp] at hcount htoken
  cases t with
  | entered =>
    simp only [startStep]
    split
    · exact h.startReturns hp rfl
    · have hr := h.startReturns hp rfl
      refine ⟨?_, ?_, ?_⟩
      · simpa [RxState.addStart, StartPc.isCounting] using hr.count
      · simpa [RxState.addStart, StartPc.holds] using hr.token
      · simpa [RxState.addStart, StartPc.submits] using hr.quiet
  | sawStopped =>
    simp only [startStep]
    split
    · exact h.startReturns hp rfl
    · rename_i hzero
      have hr := h.startReturns hp rfl
      have hz : s.fTransfersInFlight = 0 := by simpa using hzero
      obtain ⟨hcb, hst⟩ := ho _ hp rfl hz
      obtain ⟨hq, hc, hsh⟩ := hr.idle_of_zero hz hcb hst
      refine ⟨?_, ?_, ?_⟩
      · simpa [RxState.addStart, StartPc.isCounting] using hr.count
      · intro i
        simp [RxState.addStart, List.countP_cons, StartPc.holds, hq, hc, hsh]
      · simpa [RxState.addStart, StartPc.submits] using hr.quiet
  | sawDrained =>
    simp only [startStep]
    refine ⟨?_, ?_, ?_⟩
    · simpa [RxState.addStart, StartPc.isCounting] using hcount
    · intro i
      have := htoken i
      simpa [RxState.addStart, StartPc.holds] using this
    · intro hd
      cases hd
  | submitting i =>
    cases queued with
    | true =>
      simp only [startStep, if_true]
      refine ⟨?_, ?_, ?_⟩
      · simp [RxState.addStart, List.countP_cons, StartPc.isCounting] at hcount ⊢
        omega
      · -- the right of the thread to buffer `i` becomes the transfer
        intro j
        have := htoken j
        simp only [RxState.addStart, List.count_cons, List.countP_cons, StartPc.holds,
          decide_eq_true_eq, beq_iff_eq, Fin.ext_iff, Fin.le_def, Fin.lt_def] at this ⊢
        split <;> split <;> split at this <;> omega
      · intro hd
        have := (h.quiet hd).2.2.2 _ (pick_mem hp)
        cases this
    | false =>
      have hr := h.startReturns hp rfl
      exact ⟨hr.count, hr.token, hr.quiet⟩
  | counting i =>
    have hquiet : s.drained = true → False := by
      intro hd
      have := (h.quiet hd).2.2.2 _ (pick_mem hp)
      cases this
    simp only [startStep]
    split
    · refine ⟨?_, ?_, ?_⟩
      · simp [RxState.addStart, StartPc.isCounting] at hcount ⊢
        omega
      · intro j
        have := htoken j
        simp only [RxState.addStart, List.countP_cons, StartPc.holds,
          decide_eq_true_eq, Fin.le_def, Fin.lt_def] at this ⊢
        split <;> split at this <;> omega
      · intro hd
        exact (hquiet hd).elim
    · refine ⟨?_, ?_, ?_⟩
      · simp [StartPc.isCounting] at hcount ⊢
        omega
      · intro j
        have := htoken j
        simp only at this ⊢
        omega
      · intro hd
        exact (hquiet hd).elim

/-- The invariant does not mention the threads in `Stop`. -/
theorem Inv.stops {s : RxState} (h : Inv s) (l : List StopPc) : Inv { s with stops := l } :=
  ⟨h.count, h.token, h.quiet⟩

/-- A cancel pass turns every queued transfer into a callback that will not submit. -/
theorem Inv.cancel {s : RxState} (h : Inv s) :
    Inv { s with queue := [], callbacks := s.queue.map Callback.cancel ++ s.callbacks } where
  count := by
    have hc : (s.queue.map Callback.cancel).countP Callback.isCounting = 0 := by
      rw [List.countP_map, List.countP_eq_zero]
      intro i _
      simp [Callback.isCounting, Callback.cancel]
    have he : (s.queue.map Callback.cancel).countP Callback.isEntered = s.queue.length := by
      rw [List.countP_map, List.countP_eq_length]
      intro i _
      simp [Callback.isEntered, Callback.cancel]
    have := h.count
    simp only [List.countP_append, hc, he, List.length_nil]
    omega
  token := by
    intro i
    have hh : (s.queue.map Callback.cancel).countP (Callback.holds i) = 0 := by
      rw [List.countP_map, List.countP_eq_zero]
      intro j _
      simp [Callback.holds, Callback.cancel, Status.isFinal]
    have := h.token i
    simp only [List.countP_append, hh, List.count_nil]
    omega
  quiet := by
    intro hd
    obtain ⟨h1, h2, h3, h4⟩ := h.quiet hd
    refine ⟨h1, rfl, ?_, h4⟩
    simpa [h2] using h3

/-- With no thread between a queue operation and its count the counter is exact. -/
theorem Inv.quiet_of_zero {s : RxState} (h : Inv s) (hz : s.fTransfersInFlight ≤ 0)
    (hcb : ∀ c ∈ s.callbacks, c.pc.submits = false) (hst : ∀ t ∈ s.starts, t.submits = false) :
    s.queue = [] ∧ (∀ c ∈ s.callbacks, c.pc = .processing) ∧
      ∀ t ∈ s.starts, t.submits = false := by
  have hcc : s.callbacks.countP Callback.isCounting = 0 := by
    rw [List.countP_eq_zero]
    intro c hc
    have := hcb c hc
    cases hpc : c.pc <;> simp_all [Callback.isCounting, CallbackPc.submits]
  have hsc : s.starts.countP StartPc.isCounting = 0 := by
    rw [List.countP_eq_zero]
    intro u hu
    have := hst u hu
    cases u <;> simp_all [StartPc.isCounting, StartPc.submits]
  have hcount := h.count
  rw [hcc, hsc] at hcount
  have he : s.callbacks.countP Callback.isEntered = 0 := by omega
  refine ⟨List.eq_nil_of_length_eq_zero (by omega), ?_, hst⟩
  intro c hc
  have h1 := List.countP_eq_zero.mp he c hc
  have h2 := hcb c hc
  cases hpc : c.pc <;> simp_all [Callback.isEntered, CallbackPc.submits]

theorem stop_inv {s : RxState} {k : Nat} {t : StopPc} {rest : List StopPc}
    (h : Inv s) (ho : Orderly s (.stop k)) (hp : pick s.stops k = some (t, rest)) :
    Inv (stopStep { s with stops := rest } t) := by
  cases t with
  | entered =>
    simp only [stopStep]
    split
    · exact h.stops _
    · exact h.stops _
  | sawRunning =>
    refine ⟨h.count, h.token, ?_⟩
    intro hd
    exact ⟨rfl, (h.quiet hd).2⟩
  | cancelling n => exact h.cancel.stops _
  | checking n =>
    simp only [stopStep]
    split
    · exact h.stops _
    · split
      · exact h.stops _
      · exact h.stops _
  | reporting =>
    simp only [stopStep]
    split
    · exact h.stops _
    · rename_i hle
      have hle' : s.fTransfersInFlight ≤ 0 := by simpa using hle
      obtain ⟨hrun, hcb, hst⟩ := ho _ hp rfl hle'
      exact ⟨h.count, h.token, fun _ => ⟨hrun, h.quiet_of_zero hle' hcb hst⟩⟩

/-- After a clean `Stop` every callback left is one that will read `fRunning` as clear. -/
theorem Inv.notDrained {s : RxState} {c : Callback} (h : Inv s) (hc : c ∈ s.callbacks)
    (hpc : c.pc ≠ .processing) : s.drained = true → False :=
  fun hd => hpc ((h.quiet hd).2.2.1 c hc)

theorem callback_inv {s : RxState} {k : Nat} {queued : Bool} {c : Callback}
    {rest : List Callback} (h : Inv s) (hp : pick s.callbacks k = some (c, rest)) :
    Inv (callbackStep { s with callbacks := rest } queued c) := by
  have hcount := h.count
  have htoken := h.token
  have hquiet := h.quiet
  have hrest : ∀ d ∈ rest, d ∈ s.callbacks := fun d hd => pick_rest hp hd
  have hmem := pick_mem hp
  simp only [pick_countP hp] at hcount htoken
  obtain ⟨i, status, pc⟩ := c
  cases pc with
  | entered =>
    have hno := h.notDrained hmem (by simp)
    simp only [callbackStep]
    simp [Callback.isCounting, Callback.isEntered] at hcount
    split
    · refine ⟨?_, ?_, fun hd => (hno hd).elim⟩
      · simp only
        omega
      · intro j
        have := htoken j
        simp only
        omega
    · rename_i hs
      refine ⟨?_, ?_, fun hd => (hno hd).elim⟩
      · simp [RxState.addCallback, Callback.isCounting, Callback.isEntered]
        omega
      · intro j
        have := htoken j
        simpa [RxState.addCallback, List.countP_cons, Callback.holds, hs] using this
  | processing =>
    simp only [callbackStep]
    simp [Callback.isCounting, Callback.isEntered] at hcount
    split
    · rename_i hrun
      have hno : s.drained = true → False := by
        intro hd
        rw [(hquiet hd).1] at hrun
        cases hrun
      refine ⟨?_, ?_, fun hd => (hno hd).elim⟩
      · simpa [RxState.addCallback, Callback.isCounting, Callback.isEntered] using hcount
      · intro j
        have := htoken j
        simpa [RxState.addCallback, List.countP_cons, Callback.holds] using this
    · refine ⟨hcount, ?_, ?_⟩
      · intro j
        have := htoken j
        simp only
        omega
      · intro hd
        obtain ⟨h1, h2, h3, h4⟩ := hquiet hd
        exact ⟨h1, h2, fun d hd => h3 d (hrest d hd), h4⟩
  | resubmitting =>
    have hno := h.notDrained hmem (by simp)
    simp only [callbackStep]
    simp [Callback.isCounting, Callback.isEntered] at hcount
    split
    · refine ⟨?_, ?_, fun hd => (hno hd).elim⟩
      · simp [RxState.addCallback, Callback.isCounting, Callback.isEntered]
        omega
      · -- the right of the callback to its buffer becomes the transfer
        intro j
        have := htoken j
        simp [RxState.addCallback, List.count_cons, Callback.holds] at this ⊢
        omega
    · refine ⟨hcount, ?_, fun hd => (hno hd).elim⟩
      intro j
      have := htoken j
      simp only
      omega
  | counting =>
    have hno := h.notDrained hmem (by simp)
    simp only [callbackStep]
    simp [Callback.isCounting, Callback.isEntered] at hcount
    refine ⟨?_, ?_, fun hd => (hno hd).elim⟩
    · simp only
      omega
    · intro j
      have := htoken j
      simp only
      omega

theorem complete_inv {s : RxState} {k : Nat} {status : Status} {i : Buffer}
    {rest : List Buffer} (h : Inv s) (hp : pick s.queue k = some (i, rest)) :
    Inv ({ s with queue := rest }.addCallback ⟨i, status, .entered⟩) where
  count := by
    have := h.count
    rw [pick_length hp] at this
    simp [RxState.addCallback, Callback.isCounting, Callback.isEntered]
    omega
  token := by
    intro j
    have := h.token j
    rw [(pick_perm hp).count_eq, List.count_cons] at this
    simp only [RxState.addCallback, List.countP_cons, Callback.holds, beq_iff_eq,
      Bool.and_eq_true, decide_eq_true_eq, Bool.not_eq_true'] at this ⊢
    split <;> split at this <;> simp_all <;> omega
  quiet := by
    intro hd
    have := (h.quiet hd).2.1
    have hmem := pick_mem hp
    rw [this] at hmem
    cases hmem

theorem inv_step {s s' : RxState} {e : Event} (h : Inv s) (ho : Orderly s e)
    (hn : next s e = some s') : Inv s' := by
  cases e with
  | callStart =>
    cases hn
    refine ⟨?_, ?_, ?_⟩
    · simpa [RxState.addStart, StartPc.isCounting] using h.count
    · simpa [RxState.addStart, StartPc.holds] using h.token
    · simpa [RxState.addStart, StartPc.submits] using h.quiet
  | callStop =>
    cases hn
    exact h.stops _
  | start k queued =>
    simp only [next, Option.map_eq_some_iff] at hn
    obtain ⟨⟨t, rest⟩, hp, rfl⟩ := hn
    exact start_inv h ho hp
  | stop k =>
    simp only [next, Option.map_eq_some_iff] at hn
    obtain ⟨⟨t, rest⟩, hp, rfl⟩ := hn
    exact stop_inv h ho hp
  | callback k queued =>
    simp only [next, Option.map_eq_some_iff] at hn
    obtain ⟨⟨c, rest⟩, hp, rfl⟩ := hn
    exact callback_inv h hp
  | complete k status =>
    simp only [next, Option.map_eq_some_iff] at hn
    obtain ⟨⟨i, rest⟩, hp, rfl⟩ := hn
    exact complete_inv h hp

/-- In every run whose steps are orderly, the buffers are owned in every state reached. -/
theorem rx_buffer_ownership {frameCallback bulkIn : Bool} {es : List Event} {s : RxState}
    (ho : Meets next Orderly (.init frameCallback bulkIn) es)
    (hr : run next (.init frameCallback bulkIn) es = some s) : Owned s :=
  (run_invariant inv_step (inv_init frameCallback bulkIn) ho hr).owned

/-- A whole `Start`: the three checks, then queue and count for each buffer. -/
def startRun : List Event := .callStart :: List.replicate 11 (.start 0 true)

/-- A callback passes its check of `fRunning`, `Stop` cancels and drains, the callback queues. -/
def lateResubmit : List Event :=
  startRun ++ [.complete 0 .ok, .callback 0 true, .callback 0 true] ++
  [.callStop, .stop 0, .stop 0, .stop 0] ++ List.replicate 3 (.callback 0 true) ++
  [.stop 0, .stop 0, .callback 0 true]

/-- The orderly counterpart: the callback returns before `Stop` is called. -/
def orderlyStop : List Event :=
  startRun ++ [.complete 0 .ok] ++ List.replicate 4 (.callback 0 true) ++
  [.callStop, .stop 0, .stop 0, .stop 0] ++ List.replicate 4 (.callback 0 true) ++
  [.stop 0, .stop 0]

theorem rx_buffer_ownership_orderlyStop :
    Meets next Orderly (.init true true) orderlyStop ∧
      ∃ s, run next (.init true true) orderlyStop = some s ∧ s.drained = true ∧ Owned s := by
  refine ⟨by decide, ?_⟩
  cases hr : run next (.init true true) orderlyStop with
  | none => exact absurd hr (by decide)
  | some s =>
    refine ⟨s, rfl, ?_, rx_buffer_ownership (by decide) hr⟩
    have hd : (run next (.init true true) orderlyStop).map RxState.drained = some true := by decide
    rw [hr] at hd
    exact Option.some.inj hd

/-- The transfer queued by the late callback survives a `Stop` that found nothing in flight, and
the next `Start` queues its buffer a second time. -/
theorem rx_buffer_ownership_lateResubmit :
    (∃ s, run next (.init true true) lateResubmit = some s ∧ s.drained = true ∧ s.queue ≠ []) ∧
      ∃ s, run next (.init true true) (lateResubmit ++ startRun) = some s ∧
        ∃ i, s.queue.count i = 2 := by
  decide

end RxPath
end Rtl8814au
