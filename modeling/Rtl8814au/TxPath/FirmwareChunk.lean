import Rtl8814au.Lib.Lts
import Rtl8814au.TxPath.Descriptor

/-!
# TxPath.FirmwareChunk

The first slot of pipe 0 with its completion semaphore: `SendFirmwareChunk`, the frames of
`Transmit` that get this slot, `_TxCallback` in its parts, and the cancellations, interleaved at
every section under `fLock`, every operation on the semaphore and every `queue_bulk`.

* `chunkStep`, `chunkNext` — one atomic step of a thread, of a callback or of the USB stack.
* `Truthful`    — every `B_OK` so far was of a transfer that completed with `B_OK` in full.
* `Undisturbed` — the condition: no token for a call whose own transfer has not completed so.
* `chunk_truthful` — with that condition, over every run.
-/

namespace Rtl8814au
namespace TxPath

open Fields Lts

def kFwPageSize : Nat := 0x1000
def kQslBeacon : Nat := 0x10
def kTxDescFS : Nat := 1 <<< 27

inductive TxStatus
  | ok
  | badValue
  | busy
  | timedOut
  | canceled
  | other (code : UInt32) -- any other error of the USB stack
deriving DecidableEq

/-! ## The buffer of a chunk -/

def chunkDwords (length : Nat) : List Nat :=
  [field kTxDescPktLen_Mask kTxDescPktLen_Shift length |||
      field kTxDescOffset_Mask kTxDescOffset_Shift kTxDescSize ||| kTxDescBMC ||| kTxDescFS |||
      kTxDescLS ||| kTxDescDisQSelSeq,
    field kTxDescQueueSel_Mask kTxDescQueueSel_Shift kQslBeacon, 0, 0, 0, 0, 0, 0, 0, 0]

def chunkBuffer (data : Bytes) : Bytes :=
  withChecksum ((chunkDwords data.length).flatMap (Bytes.le 4)) ++ data

/-- The checks before the lock: the answer of a call that goes no further. -/
def refusal (fInitStatus : TxStatus) (data : Bytes) : Option TxStatus :=
  if fInitStatus ≠ .ok then some fInitStatus
  else if data.length = 0 ∨ data.length > kFwPageSize then some .badValue
  else if kTxDescSize + data.length > kUsbTxBufferSize then some .badValue
  else none

theorem refusal_ne_ok {fInitStatus status : TxStatus} {data : Bytes}
    (h : refusal fInitStatus data = some status) : status ≠ .ok := by
  unfold refusal at h
  split at h
  · rename_i hinit
    cases h
    exact hinit
  · split at h
    · cases h
      exact nofun
    · split at h
      · cases h
        exact nofun
      · cases h

/-! ## States -/

/-- Where a call stands. -/
inductive ChunkPc
  | called (data : Bytes) -- `SendFirmwareChunk`, before its first check
  -- the slot is claimed, and `get_sem_info` has answered `count`; `fLock` is held
  | claimed (data : Bytes) (count : Nat)
  | drained (data : Bytes) -- `fLock` is released; `queue_bulk` is not called yet
  | refused (data : Bytes) (status : TxStatus) -- `queue_bulk` failed; the slot is not released yet
  | waiting (data : Bytes) (transfer : Nat) -- in `acquire_sem_etc`
  | expired (data : Bytes) (transfer : Nat) -- the second has passed; nothing is cancelled yet
  | frame -- `Transmit`, with the slot claimed and its buffer built
  | frameRefused -- `Transmit`, after `queue_bulk` failed
deriving DecidableEq

/-- A call of `SendFirmwareChunk` that has returned. -/
structure ChunkReturn where
  data : Bytes
  transfer : Option Nat -- what it had queued
  status : TxStatus

structure ChunkState where
  fInitStatus : TxStatus
  inUse : Bool
  completionSem : Nat
  locked : Bool -- a call is between its claim and the end of its drain
  threads : List ChunkPc
  queue : List Nat -- the transfers of this slot that the USB stack holds, by number
  callbacks : List Nat -- completion callbacks that have not released the slot yet
  releasing : List Nat -- those that have, and have not released the semaphore yet
  transfers : Nat -- how many transfers were queued so far
  outcome : Nat → Option (TxStatus × Nat) -- status and actual length of a completed transfer
  returns : List ChunkReturn

def ChunkState.init (fInitStatus : TxStatus) : ChunkState where
  fInitStatus := fInitStatus
  inUse := false
  completionSem := 0
  locked := false
  threads := []
  queue := []
  callbacks := []
  releasing := []
  transfers := 0
  outcome := fun _ => none
  returns := []

/-- What the environment decides in a step of a thread. -/
structure ChunkChoice where
  queueBulk : TxStatus := .ok
  timedOut : Bool := false
  forced : Bool := false -- `cancel_queued_transfers` drops the transfers without calling back
deriving DecidableEq

inductive ChunkEvent
  | sendFirmwareChunk (data : Bytes)
  | transmit -- a frame gets this slot
  | thread (k : Nat) (choice : ChunkChoice)
  | complete (k : Nat) (status : TxStatus) (actualLength : Nat)
  | callback (k : Nat) -- callback `k` releases the slot under `fLock`
  | release (k : Nat) -- callback `k` releases the semaphore
  | cancel (forced : Bool) -- by `CancelAll` or `_RecoverStalledPipe`
  | reclaim -- `CancelAll` clears `inUse`
deriving DecidableEq

/-! ## Steps -/

namespace ChunkState

def addThread (s : ChunkState) (t : ChunkPc) : ChunkState := { s with threads := t :: s.threads }

def addReturn (s : ChunkState) (data : Bytes) (transfer : Option Nat) (status : TxStatus) :
    ChunkState := { s with returns := ⟨data, transfer, status⟩ :: s.returns }

/-- `queue_bulk` takes the buffer of the slot. -/
def submit (s : ChunkState) : ChunkState :=
  { s with queue := s.transfers :: s.queue, transfers := s.transfers + 1 }

/-- `acquire_sem_etc` of `count` at once, without a wait. -/
def drain (s : ChunkState) (count : Nat) : ChunkState :=
  { s with
    completionSem := if count ≤ s.completionSem then s.completionSem - count else s.completionSem }

def cancelQueuedTransfers (s : ChunkState) (forced : Bool) : ChunkState :=
  if forced then { s with queue := [] }
  else
    { s with
      queue := []
      callbacks := s.queue ++ s.callbacks
      outcome := fun i => if i ∈ s.queue then some (.canceled, 0) else s.outcome i }

end ChunkState

/-- One step of a thread already taken out of the pool, unless it is blocked. -/
def chunkStep (s : ChunkState) (choice : ChunkChoice) : ChunkPc → Option ChunkState
  | .called data =>
    match refusal s.fInitStatus data with
    | some status => some (s.addReturn data none status)
    | none =>
      if s.locked then none
      else if s.inUse then some (s.addReturn data none .busy)
      else some ({ s with inUse := true, locked := true }.addThread (.claimed data s.completionSem))
  | .claimed data count => some ({ s.drain count with locked := false }.addThread (.drained data))
  | .drained data =>
    if choice.queueBulk = .ok then some (s.submit.addThread (.waiting data s.transfers))
    else some (s.addThread (.refused data choice.queueBulk))
  | .refused data status =>
    if s.locked then none else some ({ s with inUse := false }.addReturn data none status)
  | .waiting data transfer =>
    if 0 < s.completionSem then
      some ({ s with completionSem := s.completionSem - 1 }.addReturn data (some transfer) .ok)
    else if choice.timedOut then some (s.addThread (.expired data transfer))
    else none
  | .expired data transfer =>
    some ((s.cancelQueuedTransfers choice.forced).addReturn data (some transfer) .timedOut)
  | .frame =>
    if choice.queueBulk = .ok then some s.submit else some (s.addThread .frameRefused)
  | .frameRefused => if s.locked then none else some { s with inUse := false }

def chunkNext (s : ChunkState) : ChunkEvent → Option ChunkState
  | .sendFirmwareChunk data => some (s.addThread (.called data))
  | .transmit =>
    if s.locked ∨ s.inUse then none else some ({ s with inUse := true }.addThread .frame)
  | .thread k choice =>
    (pick s.threads k).bind fun (t, rest) => chunkStep { s with threads := rest } choice t
  | .complete k status actualLength =>
    (pick s.queue k).map fun (i, rest) =>
      { s with
        queue := rest
        callbacks := i :: s.callbacks
        outcome := Function.update s.outcome i (some (status, actualLength)) }
  | .callback k =>
    if s.locked then none
    else
      (pick s.callbacks k).map fun (i, rest) =>
        { s with callbacks := rest, releasing := i :: s.releasing, inUse := false }
  | .release k =>
    (pick s.releasing k).map fun (_, rest) =>
      { s with releasing := rest, completionSem := s.completionSem + 1 }
  | .cancel forced => some (s.cancelQueuedTransfers forced)
  | .reclaim => if s.locked then none else some { s with inUse := false }

/-! ## The property and its condition -/

/-- The transfer completed with `B_OK` and its full length. -/
def ChunkState.Sent (s : ChunkState) (data : Bytes) (transfer : Nat) : Prop :=
  s.outcome transfer = some (.ok, (chunkBuffer data).length)

instance (s : ChunkState) (data : Bytes) (transfer : Nat) : Decidable (s.Sent data transfer) :=
  inferInstanceAs (Decidable (_ = _))

def Truthful (s : ChunkState) : Prop :=
  ∀ r ∈ s.returns, r.status = .ok → ∃ i ∈ r.transfer, s.Sent r.data i

instance (s : ChunkState) : Decidable (Truthful s) :=
  inferInstanceAs (Decidable (∀ r ∈ s.returns, _ → ∃ i ∈ r.transfer, _))

/-- A token that comes now does not mislead the call. -/
def Ready (s : ChunkState) : ChunkPc → Prop
  | .claimed _ _ | .drained _ => False
  | .waiting data transfer => s.Sent data transfer
  | .called _ | .refused _ _ | .expired _ _ | .frame | .frameRefused => True

instance decidableReady (s : ChunkState) : ∀ t, Decidable (Ready s t)
  | .claimed _ _ | .drained _ => isFalse id
  | .waiting data transfer => inferInstanceAs (Decidable (s.Sent data transfer))
  | .called _ | .refused _ _ | .expired _ _ | .frame | .frameRefused => isTrue trivial

/-- `get_sem_info` counted no more than there is. -/
def CountFound (s : ChunkState) : ChunkPc → Prop
  | .claimed _ count => count ≤ s.completionSem
  | .called _ | .drained _ | .waiting _ _ | .refused _ _ | .expired _ _ | .frame | .frameRefused =>
    True

instance decidableCountFound (s : ChunkState) : ∀ t, Decidable (CountFound s t)
  | .claimed _ count => inferInstanceAs (Decidable (count ≤ s.completionSem))
  | .called _ | .drained _ | .waiting _ _ | .refused _ _ | .expired _ _ | .frame | .frameRefused =>
    isTrue trivial

/-- The semaphore is released only when every call past its drain has its transfer sent, and the
drain finds the tokens that were counted. -/
def Undisturbed (s : ChunkState) : ChunkEvent → Prop
  | .release _ => ∀ t ∈ s.threads, Ready s t
  | .thread k _ => ∀ p ∈ pick s.threads k, CountFound s p.1
  | .sendFirmwareChunk _ | .transmit | .complete _ _ _ | .callback _ | .cancel _ | .reclaim => True

instance decidableUndisturbed (s : ChunkState) : ∀ e, Decidable (Undisturbed s e)
  | .release _ => inferInstanceAs (Decidable (∀ t ∈ s.threads, Ready s t))
  | .thread k _ => inferInstanceAs (Decidable (∀ p ∈ pick s.threads k, CountFound s p.1))
  | .sendFirmwareChunk _ | .transmit | .complete _ _ _ | .callback _ | .cancel _ | .reclaim =>
    isTrue trivial

/-! ## The invariant -/

/-- What the tokens of the semaphore mean for a call. -/
def Sound (s : ChunkState) : ChunkPc → Prop
  | .claimed _ count => s.completionSem ≤ count
  | .drained _ => s.completionSem = 0
  | .waiting data transfer => 0 < s.completionSem → s.Sent data transfer
  | .refused _ status => status ≠ .ok
  | .called _ | .expired _ _ | .frame | .frameRefused => True

structure ChunkInv (s : ChunkState) : Prop where
  queued : ∀ i ∈ s.queue, i < s.transfers ∧ s.outcome i = none
  once : s.queue.Nodup
  fresh : ∀ i, s.transfers ≤ i → s.outcome i = none
  threads : ∀ t ∈ s.threads, Sound s t
  truthful : Truthful s

theorem chunkInv_init (fInitStatus : TxStatus) : ChunkInv (.init fInitStatus) where
  queued := by
    intro i hi
    cases hi
  once := List.nodup_nil
  fresh := fun _ _ => rfl
  threads := by
    intro t ht
    cases ht
  truthful := by
    intro r hr
    cases hr

/-- Outcomes are never taken back. -/
def Extends (s s' : ChunkState) : Prop := ∀ i o, s.outcome i = some o → s'.outcome i = some o

theorem sound_mono {s s' : ChunkState} {t : ChunkPc} (h : Sound s t)
    (hsem : s'.completionSem ≤ s.completionSem) (hout : Extends s s') : Sound s' t := by
  cases t with
  | claimed data count => exact Nat.le_trans hsem h
  | drained data => exact Nat.eq_zero_of_le_zero (Nat.le_trans hsem (Nat.le_of_eq h))
  | waiting data transfer => exact fun hpos => hout _ _ (h (Nat.lt_of_lt_of_le hpos hsem))
  | refused data status => exact h
  | called _ | expired _ _ | frame | frameRefused => trivial

theorem truthful_mono {s s' : ChunkState} (h : Truthful s) (hret : s'.returns = s.returns)
    (hout : Extends s s') : Truthful s' := by
  intro r hr hok
  rw [hret] at hr
  obtain ⟨i, hi, hsent⟩ := h r hr hok
  exact ⟨i, hi, hout _ _ hsent⟩

namespace ChunkInv

variable {s : ChunkState}

theorem addThread {t : ChunkPc} (h : ChunkInv s) (ht : Sound s t) : ChunkInv (s.addThread t) where
  queued := h.queued
  once := h.once
  fresh := h.fresh
  threads := by
    intro u hu
    rcases List.mem_cons.mp hu with rfl | hu
    · exact ht
    · exact h.threads u hu
  truthful := h.truthful

theorem addReturn {data : Bytes} {transfer : Option Nat} {status : TxStatus} (h : ChunkInv s)
    (hr : status = .ok → ∃ i ∈ transfer, s.Sent data i) :
    ChunkInv (s.addReturn data transfer status) where
  queued := h.queued
  once := h.once
  fresh := h.fresh
  threads := h.threads
  truthful := by
    intro r hmem
    rcases List.mem_cons.mp hmem with rfl | hmem
    · exact hr
    · exact h.truthful r hmem

/-- The flags of the slot and the callbacks on their way have no part in it. -/
theorem unread {inUse locked : Bool} {callbacks releasing : List Nat} (h : ChunkInv s) :
    ChunkInv { s with inUse, locked, callbacks, releasing } :=
  ⟨h.queued, h.once, h.fresh, h.threads, h.truthful⟩

theorem threadReturns {k : Nat} {t : ChunkPc} {rest : List ChunkPc} (h : ChunkInv s)
    (hp : pick s.threads k = some (t, rest)) : ChunkInv { s with threads := rest } where
  queued := h.queued
  once := h.once
  fresh := h.fresh
  threads := fun u hu => h.threads u (pick_rest hp hu)
  truthful := h.truthful

theorem submit (h : ChunkInv s) : ChunkInv s.submit where
  queued := by
    intro i hi
    rcases List.mem_cons.mp hi with rfl | hi
    · exact ⟨Nat.lt_succ_self _, h.fresh _ (Nat.le_refl _)⟩
    · obtain ⟨hlt, hnone⟩ := h.queued i hi
      exact ⟨Nat.lt_succ_of_lt hlt, hnone⟩
  once := List.nodup_cons.mpr ⟨fun hmem => Nat.lt_irrefl _ (h.queued _ hmem).1, h.once⟩
  fresh := fun i hi => h.fresh i (Nat.le_of_succ_le hi)
  threads := h.threads
  truthful := h.truthful

/-- Fewer tokens mislead no one. -/
theorem fewer {n : Nat} (h : ChunkInv s) (hn : n ≤ s.completionSem) :
    ChunkInv { s with completionSem := n } where
  queued := h.queued
  once := h.once
  fresh := h.fresh
  threads := fun t ht => sound_mono (h.threads t ht) hn fun _ _ ho => ho
  truthful := h.truthful

/-- Transfers leave the queue; those that were in it get their outcome. -/
theorem completed {queue callbacks : List Nat} {outcome : Nat → Option (TxStatus × Nat)}
    (h : ChunkInv s) (hsub : ∀ i ∈ queue, i ∈ s.queue ∧ outcome i = s.outcome i)
    (honce : queue.Nodup) (hout : ∀ i, i ∉ s.queue → outcome i = s.outcome i) :
    ChunkInv { s with queue, callbacks, outcome } := by
  have hext : Extends s { s with queue, callbacks, outcome } := by
    intro i o ho
    have hnot : i ∉ s.queue := by
      intro hmem
      rw [(h.queued i hmem).2] at ho
      cases ho
    exact (hout i hnot).trans ho
  constructor
  · intro i hi
    obtain ⟨hmem, heq⟩ := hsub i hi
    obtain ⟨hlt, hnone⟩ := h.queued i hmem
    exact ⟨hlt, heq.trans hnone⟩
  · exact honce
  · intro i hi
    have hnot : i ∉ s.queue := fun hmem => Nat.not_lt.mpr hi (h.queued i hmem).1
    exact (hout i hnot).trans (h.fresh i hi)
  · exact fun t ht => sound_mono (h.threads t ht) (Nat.le_refl _) hext
  · exact truthful_mono h.truthful rfl hext

theorem cancelQueuedTransfers (h : ChunkInv s) (forced : Bool) :
    ChunkInv (s.cancelQueuedTransfers forced) := by
  unfold ChunkState.cancelQueuedTransfers
  have hnil : ∀ (P : Nat → Prop) (i : Nat), i ∈ ([] : List Nat) → P i := by
    intro P i hi
    cases hi
  split
  · exact h.completed (hnil _) List.nodup_nil fun _ _ => rfl
  · exact h.completed (hnil _) List.nodup_nil fun i hi => if_neg hi

/-- A step of a thread: every new place of it is sound. -/
theorem chunkStep {s' : ChunkState} {k : Nat} {choice : ChunkChoice} {t : ChunkPc}
    {rest : List ChunkPc} (h : ChunkInv s) (hc : Undisturbed s (.thread k choice))
    (hp : pick s.threads k = some (t, rest))
    (hs : chunkStep { s with threads := rest } choice t = some s') : ChunkInv s' := by
  have hr := h.threadReturns hp
  have ht := h.threads t (pick_mem hp)
  cases t with
  | called data =>
    simp only [TxPath.chunkStep] at hs
    split at hs
    · rename_i status hrefusal
      cases hs
      exact hr.addReturn fun hok => absurd hok (refusal_ne_ok hrefusal)
    · split at hs
      · cases hs
      · split at hs
        · cases hs
          exact hr.addReturn fun hok => nomatch hok
        · cases hs
          have hclaimed : ChunkInv { s with threads := rest, inUse := true, locked := true } :=
            hr.unread
          exact hclaimed.addThread (Nat.le_refl _)
  | claimed data count =>
    cases hs
    have hfound : count ≤ s.completionSem := hc _ hp
    have hnone : s.completionSem - count = 0 := Nat.sub_eq_zero_of_le ht
    have hdrain : ChunkState.drain { s with threads := rest } count =
        { s with threads := rest, completionSem := 0 } := by
      rw [ChunkState.drain, if_pos hfound, hnone]
    rw [hdrain]
    have hunlocked : ChunkInv { s with threads := rest, completionSem := 0, locked := false } :=
      (hr.fewer (Nat.zero_le _)).unread
    exact hunlocked.addThread rfl
  | drained data =>
    simp only [TxPath.chunkStep] at hs
    split at hs
    · cases hs
      exact hr.submit.addThread fun hpos => absurd hpos (Nat.not_lt.mpr (Nat.le_of_eq ht))
    · rename_i hrefused
      cases hs
      exact hr.addThread hrefused
  | refused data status =>
    simp only [TxPath.chunkStep] at hs
    split at hs
    · cases hs
    · cases hs
      have hfree : ChunkInv { s with threads := rest, inUse := false } := hr.unread
      exact hfree.addReturn fun hok => absurd hok ht
  | waiting data transfer =>
    simp only [TxPath.chunkStep] at hs
    split at hs
    · rename_i hpos
      cases hs
      exact (hr.fewer (Nat.sub_le _ 1)).addReturn fun _ => ⟨transfer, rfl, ht hpos⟩
    · split at hs
      · cases hs
        exact hr.addThread trivial
      · cases hs
  | expired data transfer =>
    cases hs
    exact (hr.cancelQueuedTransfers choice.forced).addReturn fun hok => nomatch hok
  | frame =>
    simp only [TxPath.chunkStep] at hs
    split at hs
    · cases hs
      exact hr.submit
    · cases hs
      exact hr.addThread trivial
  | frameRefused =>
    simp only [TxPath.chunkStep] at hs
    split at hs
    · cases hs
    · cases hs
      exact hr.unread

/-- A token that comes when every call past its drain has its transfer sent. -/
theorem released {releasing : List Nat} (h : ChunkInv s) (hready : ∀ t ∈ s.threads, Ready s t) :
    ChunkInv { s with releasing, completionSem := s.completionSem + 1 } where
  queued := h.queued
  once := h.once
  fresh := h.fresh
  threads := by
    intro t ht
    have hsound := h.threads t ht
    have ht := hready t ht
    cases t with
    | claimed data count => exact ht.elim
    | drained data => exact ht.elim
    | waiting data transfer => exact fun _ => ht
    | refused data status => exact hsound
    | called _ | expired _ _ | frame | frameRefused => trivial
  truthful := h.truthful

theorem chunkNext {s' : ChunkState} {e : ChunkEvent} (h : ChunkInv s) (hc : Undisturbed s e)
    (hn : chunkNext s e = some s') : ChunkInv s' := by
  cases e with
  | sendFirmwareChunk data =>
    cases hn
    exact h.addThread trivial
  | transmit =>
    simp only [TxPath.chunkNext] at hn
    split at hn
    · cases hn
    · cases hn
      have hclaimed : ChunkInv { s with inUse := true } := h.unread
      exact hclaimed.addThread trivial
  | thread k choice =>
    obtain ⟨⟨t, rest⟩, hp, hs⟩ := Option.bind_eq_some_iff.mp hn
    exact h.chunkStep hc hp hs
  | complete k status actualLength =>
    obtain ⟨⟨i, rest⟩, hp, rfl⟩ := Option.map_eq_some_iff.mp hn
    have honce := (pick_perm hp).nodup_iff.mp h.once
    obtain ⟨hnot, hrest⟩ := List.nodup_cons.mp honce
    refine h.completed (fun j hj => ⟨pick_rest hp hj, ?_⟩) hrest fun j hj => ?_
    · have hne : j ≠ i := fun heq => hnot (heq ▸ hj)
      exact Function.update_of_ne hne _ _
    · have hne : j ≠ i := fun heq => hj (heq ▸ pick_mem hp)
      exact Function.update_of_ne hne _ _
  | callback k =>
    simp only [TxPath.chunkNext] at hn
    split at hn
    · cases hn
    · obtain ⟨⟨i, rest⟩, hp, rfl⟩ := Option.map_eq_some_iff.mp hn
      exact h.unread
  | release k =>
    obtain ⟨⟨i, rest⟩, hp, rfl⟩ := Option.map_eq_some_iff.mp hn
    exact h.released hc
  | cancel forced =>
    cases hn
    exact h.cancelQueuedTransfers forced
  | reclaim =>
    simp only [TxPath.chunkNext] at hn
    split at hn
    · cases hn
    · cases hn
      exact h.unread

end ChunkInv

/-! ## Runs -/

/-- Where no token comes to a call whose transfer is not sent, every `B_OK` is of a transfer that
was. -/
theorem chunk_truthful {fInitStatus : TxStatus} {es : List ChunkEvent} {s : ChunkState}
    (hc : Meets chunkNext Undisturbed (.init fInitStatus) es)
    (hr : run chunkNext (.init fInitStatus) es = some s) : Truthful s :=
  (run_invariant ChunkInv.chunkNext (chunkInv_init fInitStatus) hc hr).truthful

/-- A token the condition forbids is taken for the call's own: its next step answers `B_OK`. -/
theorem untruthful_of_release {s s' : ChunkState} {j k : Nat} {data : Bytes} {transfer : Nat}
    {rest : List ChunkPc} {choice : ChunkChoice} (hn : chunkNext s (.release j) = some s')
    (hp : pick s.threads k = some (.waiting data transfer, rest)) (hnot : ¬ s.Sent data transfer) :
    ∃ t, chunkNext s' (.thread k choice) = some t ∧ ¬ Truthful t := by
  obtain ⟨⟨i, releasing⟩, -, rfl⟩ := Option.map_eq_some_iff.mp hn
  have hstep : chunkNext { s with releasing, completionSem := s.completionSem + 1 }
      (.thread k choice) = some ({ s with threads := rest, releasing }.addReturn data
        (some transfer) .ok) := by
    simp only [chunkNext, hp, Option.bind_some, chunkStep, Nat.succ_pos, if_true,
      Nat.add_sub_cancel]
  refine ⟨_, hstep, ?_⟩
  intro htrue
  obtain ⟨i, hi, hsent⟩ := htrue _ List.mem_cons_self rfl
  cases hi
  exact hnot hsent

/-- One call up to its wait. -/
def chunkCall (data : Bytes) : List ChunkEvent :=
  [.sendFirmwareChunk data, .thread 0 {}, .thread 0 {}, .thread 0 {}]

/-- Its transfer completes, the callback runs, and the call goes on. -/
def chunkDone (status : TxStatus) (actualLength : Nat) : List ChunkEvent :=
  [.complete 0 status actualLength, .callback 0, .release 0, .thread 0 {}]

theorem chunk_truthful_sent : ∃ s, run chunkNext (.init .ok) (chunkCall [0x55] ++ chunkDone .ok 41) =
    some s ∧ Truthful s := by
  cases hr : run chunkNext (.init .ok) (chunkCall [0x55] ++ chunkDone .ok 41) with
  | none => exact absurd (congrArg Option.isSome hr) (by decide)
  | some s => exact ⟨s, rfl, chunk_truthful (by decide) hr⟩

/-- A transfer that fails with nothing written, one that stops a byte short, and the late token of a
frame that had the slot before. -/
theorem chunk_untruthful :
    (∃ s, run chunkNext (.init .ok) (chunkCall [0x55] ++ chunkDone (.other 5) 0) = some s ∧
        ¬ Truthful s) ∧
      (∃ s, run chunkNext (.init .ok) (chunkCall [0x55] ++ chunkDone .ok 40) = some s ∧
        ¬ Truthful s) ∧
      ∃ s, run chunkNext (.init .ok) ([.transmit, .thread 0 {}, .complete 0 .ok 100, .callback 0] ++
          chunkCall [0x55] ++ [.release 0, .thread 0 {}]) = some s ∧ ¬ Truthful s := by
  decide

end TxPath
end Rtl8814au
