import Rtl8814au.Lib.Bytes
import Rtl8814au.Lib.Lts
import Mathlib.Logic.Function.Basic

/-!
# TxPath.Slots

The transmit slots as a concurrent system: `Transmit`, `SendFirmwareChunk`, `_TxCallback`,
`_RecoverStalledPipe` and `CancelAll`, interleaved at every section under `fLock` and every
`queue_bulk` and `cancel_queued_transfers` call.

* `txStep`, `next` — one atomic step of a thread, of a callback or of the USB stack.
* `Owned`     — a queued slot is in use, is queued once, and its buffer is not rebuilt.
* `Quiesced`  — the condition under which the bulk reclaim of `CancelAll` is harmless.
* `inv_step`  — with that condition, every slot in use has one owner and every other slot none.
-/

namespace Rtl8814au
namespace TxPath

open Lts

abbrev kBulkOutEndpointCount : Nat := 3
abbrev kTxTransfersPerQueue : Nat := 16
abbrev kTxTotalTransfers : Nat := kTxTransfersPerQueue * kBulkOutEndpointCount

abbrev Pipe := Fin kBulkOutEndpointCount
abbrev Slot := Fin kTxTotalTransfers

inductive TxQueueSelect
  | kTxQueueVO
  | kTxQueueVI
  | kTxQueueBE
  | kTxQueueBK
  | kTxQueueBCN
  | kTxQueueMGT
  | kTxQueueHIGH
  | kTxQueueCMD
deriving DecidableEq

def queueToPipeIndex : TxQueueSelect → Pipe
  | .kTxQueueVO | .kTxQueueBCN | .kTxQueueMGT | .kTxQueueHIGH | .kTxQueueCMD => 0
  | .kTxQueueVI => 1
  | .kTxQueueBE | .kTxQueueBK => 2

/-- Transfer `i` of the pool of `pipe`. -/
def slotOf (pipe : Pipe) (i : Fin kTxTransfersPerQueue) : Slot :=
  ⟨pipe.val * kTxTransfersPerQueue + i.val, by
    have := pipe.isLt
    have := i.isLt
    simp only [kTxTotalTransfers, kTxTransfersPerQueue, kBulkOutEndpointCount] at *
    omega⟩

def pipeIndex (i : Slot) : Nat := i.val / kTxTransfersPerQueue

/-- Where a call of `Transmit`, `SendFirmwareChunk` or `CancelAll` stands. -/
inductive TxPc
  | wanting (pipe : Pipe) -- `Transmit`, before it looks for a free slot
  -- the slot is claimed and its buffer built; `queue_bulk` is not called yet
  | claimed (i : Slot) (firmware : Bool)
  | failed (i : Slot) -- `queue_bulk` failed; the slot is not released yet
  | recovering (pipe : Pipe) -- in `_RecoverStalledPipe`, past its rate limit
  | chunkWanting -- `SendFirmwareChunk`, before it looks at its slot
  | chunkWaiting -- `SendFirmwareChunk`, waiting for the completion
  | cancelling (pipe : Pipe) -- `CancelAll`, before it cancels `pipe`
  | reclaiming -- `CancelAll`, before it clears the slots
deriving DecidableEq

structure TxState where
  inUse : Slot → Bool
  queue : List Slot -- the slots the USB stack holds, one entry for each transfer
  callbacks : List Slot -- completion callbacks that have not released their slot yet
  threads : List TxPc
  torn : Bool -- a buffer was rebuilt while its transfer was queued

def TxState.init : TxState where
  inUse := fun _ => false
  queue := []
  callbacks := []
  threads := []
  torn := false

/-- What the environment decides in a step of a thread. -/
structure Choice where
  -- the 2 s deadline of `Transmit`, or the 1 s wait of `SendFirmwareChunk`, has passed
  timedOut : Bool := false
  rateLimited : Bool := false -- the pipe was recovered less than `kPipeRecoveryInterval` ago
  queued : Bool := true -- `queue_bulk` answers `B_OK`
  forced : Bool := false -- `cancel_queued_transfers` drops the transfers without calling back
deriving DecidableEq

inductive Event
  | transmit (queue : TxQueueSelect)
  | sendFirmwareChunk
  | cancelAll
  | thread (k : Nat) (choice : Choice) -- thread `k` takes its next step
  -- the USB stack completes its `k`-th transfer, with any status, and calls back
  | complete (k : Nat)
  | callback (k : Nat) -- callback `k` releases its slot under `fLock`
deriving DecidableEq

/-! ## Steps -/

namespace TxState

def addThread (s : TxState) (t : TxPc) : TxState := { s with threads := t :: s.threads }

def release (s : TxState) (i : Slot) : TxState :=
  { s with inUse := Function.update s.inUse i false }

/-- The section under `fLock` that claims slot `i` and builds its buffer. -/
def claim (s : TxState) (i : Slot) : TxState :=
  { s with inUse := Function.update s.inUse i true, torn := s.torn || s.queue.contains i }

def cancelQueuedTransfers (s : TxState) (pipe : Pipe) (forced : Bool) : TxState :=
  let hit := s.queue.filter fun i => pipeIndex i = pipe.val
  { s with
    queue := s.queue.filter fun i => pipeIndex i ≠ pipe.val
    callbacks := if forced then s.callbacks else hit ++ s.callbacks }

def findFreeTransfer (s : TxState) (pipe : Pipe) : Option Slot :=
  ((List.finRange kTxTransfersPerQueue).map (slotOf pipe)).find? fun i => !s.inUse i

end TxState

/-- One step of a thread already taken out of the pool. -/
def txStep (s : TxState) (choice : Choice) : TxPc → TxState
  | .wanting pipe =>
    match s.findFreeTransfer pipe with
    | some i => (s.claim i).addThread (.claimed i false)
    | none =>
      if choice.timedOut then
        if choice.rateLimited then s else s.addThread (.recovering pipe)
      else s.addThread (.wanting pipe)
  | .claimed i firmware =>
    if choice.queued then
      let s := { s with queue := i :: s.queue }
      if firmware then s.addThread .chunkWaiting else s
    else s.addThread (.failed i)
  | .failed i => s.release i
  | .recovering pipe => s.cancelQueuedTransfers pipe choice.forced
  | .chunkWanting =>
    if s.inUse (slotOf 0 0) then s
    else (s.claim (slotOf 0 0)).addThread (.claimed (slotOf 0 0) true)
  | .chunkWaiting => if choice.timedOut then s.cancelQueuedTransfers 0 choice.forced else s
  | .cancelling pipe =>
    let s := s.cancelQueuedTransfers pipe choice.forced
    if h : pipe.val + 1 < kBulkOutEndpointCount then s.addThread (.cancelling ⟨pipe.val + 1, h⟩)
    else s.addThread .reclaiming
  | .reclaiming => { s with inUse := fun _ => false }

def next (s : TxState) : Event → Option TxState
  | .transmit queue => some (s.addThread (.wanting (queueToPipeIndex queue)))
  | .sendFirmwareChunk => some (s.addThread .chunkWanting)
  | .cancelAll => some (s.addThread (.cancelling 0))
  | .thread k choice =>
    (pick s.threads k).map fun (t, rest) => txStep { s with threads := rest } choice t
  | .complete k =>
    (pick s.queue k).map fun (i, rest) => { s with queue := rest, callbacks := i :: s.callbacks }
  | .callback k =>
    (pick s.callbacks k).map fun (i, rest) => { s with callbacks := rest }.release i

/-! ## The property and its condition -/

structure Owned (s : TxState) : Prop where
  inUse : ∀ i ∈ s.queue, s.inUse i = true
  once : ∀ i, s.queue.count i ≤ 1
  whole : s.torn = false

/-- The thread will still queue or release slot `i`. -/
def TxPc.holds (i : Slot) : TxPc → Bool
  | .claimed j _ | .failed j => i = j
  | .wanting _ | .recovering _ | .chunkWanting | .chunkWaiting | .cancelling _ | .reclaiming =>
    false

/-- No slot is between its claim and its release. -/
def Quiesced (s : TxState) : Prop :=
  s.queue = [] ∧ s.callbacks = [] ∧ ∀ t ∈ s.threads, ∀ i, t.holds i = false

instance (s : TxState) : Decidable (Quiesced s) :=
  inferInstanceAs (Decidable (_ ∧ _ ∧ _))

/-- `CancelAll` clears the slots only when none of them has an owner left. -/
def Orderly (s : TxState) : Event → Prop
  | .thread k _ => ∀ p ∈ pick s.threads k, p.1 = .reclaiming → Quiesced s
  | .transmit _ | .sendFirmwareChunk | .cancelAll | .complete _ | .callback _ => True

instance decidableOrderly (s : TxState) : ∀ e, Decidable (Orderly s e)
  | .thread k _ => inferInstanceAs (Decidable (∀ p ∈ pick s.threads k, _ → Quiesced s))
  | .transmit _ | .sendFirmwareChunk | .cancelAll | .complete _ | .callback _ => isTrue trivial

/-! ## The invariant -/

/-- How many transfers, callbacks and threads stand between the claim and the release of `i`. -/
def TxState.owners (s : TxState) (i : Slot) : Nat :=
  s.queue.count i + s.callbacks.count i + s.threads.countP (TxPc.holds i)

structure Inv (s : TxState) : Prop where
  owner : ∀ i, s.owners i ≤ if s.inUse i then 1 else 0
  whole : s.torn = false

theorem inv_init : Inv .init := ⟨by intro i; simp [TxState.owners, TxState.init], rfl⟩

theorem Inv.owned {s : TxState} (h : Inv s) : Owned s where
  inUse := by
    intro i hi
    have howner := h.owner i
    have hpos := List.count_pos_iff.mpr hi
    cases hu : s.inUse i with
    | true => rfl
    | false =>
      simp only [TxState.owners, hu] at howner
      simp at howner
      omega
  once := by
    intro i
    have := h.owner i
    simp only [TxState.owners] at this
    split at this <;> omega
  whole := h.whole

/-! ## Steps keep the invariant -/

theorem Inv.unowned {s : TxState} {i : Slot} (h : Inv s) (hi : s.inUse i = false) :
    s.owners i = 0 := by
  have := h.owner i
  simpa [hi] using this

theorem owners_addThread (s : TxState) (t : TxPc) (i : Slot) :
    (s.addThread t).owners i = s.owners i + if t.holds i then 1 else 0 := by
  simp only [TxState.owners, TxState.addThread, List.countP_cons]
  omega

theorem Inv.addThread {s : TxState} {t : TxPc} (h : Inv s) (ht : ∀ i, t.holds i = false) :
    Inv (s.addThread t) where
  owner := by
    intro i
    rw [owners_addThread, ht i]
    exact h.owner i
  whole := h.whole

/-- What a thread leaves behind when it is taken out of the pool. -/
theorem owners_pick {s : TxState} {k : Nat} {t : TxPc} {rest : List TxPc}
    (hp : pick s.threads k = some (t, rest)) (i : Slot) :
    s.owners i = TxState.owners { s with threads := rest } i + if t.holds i then 1 else 0 := by
  simp only [TxState.owners, pick_countP hp]
  omega

theorem Inv.threadReturns {s : TxState} {k : Nat} {t : TxPc} {rest : List TxPc} (h : Inv s)
    (hp : pick s.threads k = some (t, rest)) : Inv { s with threads := rest } where
  owner := by
    intro i
    have := h.owner i
    rw [owners_pick hp] at this
    simp only
    omega
  whole := h.whole

theorem Inv.claim {s : TxState} {i : Slot} {firmware : Bool} (h : Inv s)
    (hi : s.inUse i = false) : Inv ((s.claim i).addThread (.claimed i firmware)) where
  owner := by
    intro j
    have hj := h.owner j
    have hclaim : (s.claim i).owners j = s.owners j := rfl
    rw [owners_addThread, hclaim]
    by_cases hij : j = i
    · subst hij
      simp [h.unowned hi, TxState.claim, TxState.addThread, TxPc.holds]
    · simp only [TxState.claim, TxState.addThread, Function.update_of_ne hij, TxPc.holds, hij,
        decide_false]
      exact hj
  whole := by
    have hq : i ∉ s.queue := by
      intro hmem
      have := h.owned.inUse i hmem
      rw [hi] at this
      cases this
    simp [TxState.claim, TxState.addThread, h.whole, hq]

/-- The last owner of a slot releases it. -/
theorem Inv.release {s : TxState} {i : Slot} (hw : s.torn = false)
    (h : ∀ j, s.owners j + (if j = i then 1 else 0) ≤ if s.inUse j then 1 else 0) :
    Inv (s.release i) where
  owner := by
    intro j
    have hj := h j
    have howners : (s.release i).owners j = s.owners j := rfl
    rw [howners]
    by_cases hij : j = i
    · subst hij
      rw [if_pos rfl] at hj
      have : s.owners j = 0 := by split at hj <;> omega
      omega
    · rw [if_neg hij] at hj
      simp only [TxState.release, Function.update_of_ne hij]
      exact hj
  whole := hw

theorem count_filter_add (l : List Slot) (p : Slot → Bool) (i : Slot) :
    (l.filter p).count i + (l.filter fun j => !p j).count i = l.count i := by
  induction l with
  | nil => rfl
  | cons j l ih =>
    cases hp : p j <;> simp [hp, List.count_cons] <;> omega

theorem Inv.cancelQueuedTransfers {s : TxState} (h : Inv s) (pipe : Pipe) (forced : Bool) :
    Inv (s.cancelQueuedTransfers pipe forced) where
  owner := by
    intro i
    refine Nat.le_trans ?_ (h.owner i)
    have hsplit := count_filter_add s.queue (fun i => pipeIndex i = pipe.val) i
    have hnot : (fun j : Slot => !decide (pipeIndex j = pipe.val)) =
        fun j => decide (pipeIndex j ≠ pipe.val) := by
      funext j
      simp
    rw [hnot] at hsplit
    simp only [TxState.cancelQueuedTransfers, TxState.owners]
    split
    · omega
    · rw [List.count_append]
      omega
  whole := h.whole

theorem findFreeTransfer_inUse {s : TxState} {pipe : Pipe} {i : Slot}
    (h : s.findFreeTransfer pipe = some i) : s.inUse i = false := by
  have := List.find?_some h
  simpa using this

theorem tx_inv {s : TxState} {k : Nat} {choice : Choice} {t : TxPc} {rest : List TxPc}
    (h : Inv s) (ho : Orderly s (.thread k choice)) (hp : pick s.threads k = some (t, rest)) :
    Inv (txStep { s with threads := rest } choice t) := by
  have hr := h.threadReturns hp
  cases t with
  | wanting pipe =>
    simp only [txStep]
    split
    · rename_i i hfree
      exact hr.claim (findFreeTransfer_inUse hfree)
    · split
      · split
        · exact hr
        · exact hr.addThread fun _ => rfl
      · exact hr.addThread fun _ => rfl
  | claimed i firmware =>
    simp only [txStep]
    split
    · have hq : Inv { s with threads := rest, queue := i :: s.queue } := by
        refine ⟨?_, h.whole⟩
        intro j
        have hj := h.owner j
        rw [owners_pick hp] at hj
        simp only [TxState.owners, TxPc.holds, decide_eq_true_eq, List.count_cons, beq_iff_eq,
          eq_comm (a := i)] at hj ⊢
        omega
      split
      · exact hq.addThread fun _ => rfl
      · exact hq
    · refine ⟨?_, h.whole⟩
      intro j
      have hj := h.owner j
      rw [owners_pick hp] at hj
      rw [owners_addThread]
      exact hj
  | failed i =>
    refine Inv.release h.whole ?_
    intro j
    have hj := h.owner j
    rw [owners_pick hp] at hj
    simpa only [TxPc.holds, decide_eq_true_eq] using hj
  | recovering pipe => exact hr.cancelQueuedTransfers pipe choice.forced
  | chunkWanting =>
    simp only [txStep]
    split
    · exact hr
    · rename_i hfree
      exact hr.claim (by simpa using hfree)
  | chunkWaiting =>
    simp only [txStep]
    split
    · exact hr.cancelQueuedTransfers 0 choice.forced
    · exact hr
  | cancelling pipe =>
    simp only [txStep]
    split
    · exact (hr.cancelQueuedTransfers pipe choice.forced).addThread fun _ => rfl
    · exact (hr.cancelQueuedTransfers pipe choice.forced).addThread fun _ => rfl
  | reclaiming =>
    -- clearing every `inUse` is sound because no slot has an owner left
    obtain ⟨hq, hc, ht⟩ := ho _ hp rfl
    refine ⟨?_, h.whole⟩
    intro i
    have hcount : rest.countP (TxPc.holds i) = 0 := by
      rw [List.countP_eq_zero]
      intro u hu
      simp [ht u (pick_rest hp hu) i]
    simp [txStep, TxState.owners, hq, hc, hcount]

theorem inv_step {s s' : TxState} {e : Event} (h : Inv s) (ho : Orderly s e)
    (hn : next s e = some s') : Inv s' := by
  cases e with
  | transmit queue =>
    cases hn
    exact h.addThread fun _ => rfl
  | sendFirmwareChunk =>
    cases hn
    exact h.addThread fun _ => rfl
  | cancelAll =>
    cases hn
    exact h.addThread fun _ => rfl
  | thread k choice =>
    simp only [next, Option.map_eq_some_iff] at hn
    obtain ⟨⟨t, rest⟩, hp, rfl⟩ := hn
    exact tx_inv h ho hp
  | complete k =>
    simp only [next, Option.map_eq_some_iff] at hn
    obtain ⟨⟨i, rest⟩, hp, rfl⟩ := hn
    refine ⟨?_, h.whole⟩
    intro j
    have hj := h.owner j
    simp only [TxState.owners, (pick_perm hp).count_eq, List.count_cons] at hj ⊢
    omega
  | callback k =>
    simp only [next, Option.map_eq_some_iff] at hn
    obtain ⟨⟨i, rest⟩, hp, rfl⟩ := hn
    refine Inv.release h.whole ?_
    intro j
    have hj := h.owner j
    simp only [TxState.owners, (pick_perm hp).count_eq, List.count_cons, beq_iff_eq,
      eq_comm (a := i)] at hj ⊢
    omega

/-- In every run in which `CancelAll` clears the slots only when none has an owner left, the slots
are owned in every state reached. -/
theorem tx_slot_ownership {es : List Event} {s : TxState} (ho : Meets next Orderly .init es)
    (hr : run next .init es = some s) : Owned s :=
  (run_invariant inv_step inv_init ho hr).owned

/-- A frame for the best-effort pipe: the call, the claim, the submission. -/
def transmitRun : List Event := [.transmit .kTxQueueBE, .thread 0 {}, .thread 0 {}]

def cancelRun : List Event := .cancelAll :: List.replicate 3 (.thread 0 {})

theorem tx_slot_ownership_cancelAll :
    Meets next Orderly .init (transmitRun ++ cancelRun ++ [.callback 0, .thread 0 {}]) ∧
      ∃ s, run next .init (transmitRun ++ cancelRun ++ [.callback 0, .thread 0 {}]) = some s ∧
        Owned s := by
  refine ⟨by decide, ?_⟩
  cases hr : run next .init (transmitRun ++ cancelRun ++ [.callback 0, .thread 0 {}]) with
  | none => exact absurd (congrArg Option.isSome hr) (by decide)
  | some s => exact ⟨s, rfl, tx_slot_ownership (by decide) hr⟩

/-- A frame submitted between the cancel and the reclaim stays queued in a slot marked free; the
next frame rebuilds its buffer and queues it again. -/
theorem tx_slot_ownership_lateClaim :
    (∃ s, run next .init (cancelRun ++ transmitRun ++ [.thread 0 {}]) = some s ∧
        ∃ i ∈ s.queue, s.inUse i = false) ∧
      ∃ s, run next .init (cancelRun ++ transmitRun ++ [.thread 0 {}] ++ transmitRun) = some s ∧
        s.torn = true ∧ ∃ i ∈ s.queue, s.queue.count i = 2 := by
  decide

end TxPath
end Rtl8814au
