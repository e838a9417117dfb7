import Rtl8814au.Device.State
import Rtl8814au.Lib.Lts
import Mathlib.Logic.Function.Basic

/-!
# RegisterIO.Bounded

`WriteBounded32` as a concurrent system: callers of `_VendorWriteBounded`, one of them inside `fLock`,
the transfers the USB stack holds, and `_ControlCallback`, interleaved at every access to the
semaphore and to `fControlStatus`. The other register accesses only keep the lock from a caller.

* `IoState`, `next` — the members of the class, with the calls and transfers numbered.
* `Reported`  — a call that returned `B_OK` has had a transfer of its own completed with `B_OK`.
* `Fresh`     — no callback of an earlier call's transfer stores `B_OK` for a later call to find.
* `bounded_write_reports` — so it is with that condition. Without it, a transfer that a call has given up
  on answers for that of a later call.
-/

namespace Rtl8814au
namespace RegisterIO

open Lts

abbrev kControlBuffers : Nat := 4

def kControlWriteAttempts : Nat := 1

def kMaxRetryCount : Nat := 3

/-- A request handed to the USB stack: by which call, and with which buffer. -/
structure Transfer where
  call : Nat
  buffer : Fin kControlBuffers
  copy : Nat -- How many payloads had been copied ahead of its own.
deriving DecidableEq

/-- Where the call inside `fLock` stands. Attempts count from 1. -/
inductive WritePc where
  | blocking (tries : Nat) -- In `_VendorWrite`: there is no semaphore.
  | draining (attempt : Nat)
  | copying (attempt : Nat)
  | resetting (attempt : Nat) (t : Transfer) -- Ahead of `fControlStatus = B_ERROR`.
  | queueing (attempt : Nat) (t : Transfer)
  | waiting (attempt : Nat)
  | looking (attempt : Nat) -- It has the semaphore, and compares `fControlStatus` with `B_OK`.
  | failing -- The last attempt completed with an error: ahead of `return fControlStatus`.
deriving DecidableEq

structure Running where
  payload : Buf 4
  pc : WritePc
  completed : Bool -- A transfer of this call has completed with `B_OK`.
deriving DecidableEq

structure Return where
  status : Status
  completed : Bool
deriving DecidableEq

structure IoState where
  fDevicePresent : Bool
  hasSemaphore : Bool -- `fControlDone` is not negative.
  fControlDone : Nat -- The count of the semaphore.
  fControlStatus : Status
  fControlBuffer : Fin kControlBuffers → Buf 4
  fControlBufferIndex : Fin kControlBuffers
  callers : List (Buf 4) -- Calls past the first checks, ahead of the lock.
  holder : Option Running
  queue : List Transfer -- What the USB stack holds.
  landing : List (Transfer × Status) -- Callbacks ahead of their store to `fControlStatus`.
  releasing : Nat -- Callbacks ahead of `release_sem_etc`.
  calls : Nat -- How many calls got the lock; the number of the one that holds it.
  copies : Nat
  returned : List Return

def IoState.init (hasSemaphore : Bool) : IoState where
  fDevicePresent := true
  hasSemaphore := hasSemaphore
  fControlDone := 0
  fControlStatus := .error
  fControlBuffer := fun _ => Buf.zero 4
  fControlBufferIndex := 0
  callers := []
  holder := none
  queue := []
  landing := []
  releasing := 0
  calls := 0
  copies := 0
  returned := []

inductive IoEvent where
  | writeBounded32 (value : UInt32)
  | setDeviceRemoved
  | lock (k : Nat) -- Caller `k` gets `fLock`.
  -- The call inside the lock takes its next step; `status` is what the semaphore or the USB stack
  -- answers there.
  | advance (status : Status)
  | complete (k : Nat) (status : Status) -- The USB stack completes a transfer and calls back.
  | store (k : Nat)
  | release

/-! ## Steps -/

def littleEndian (value : UInt32) : Buf 4 := ⟨Bytes.le 4 value.toNat, Bytes.length_le 4 _⟩

namespace IoState

def goto (s : IoState) (r : Running) (pc : WritePc) : IoState :=
  { s with holder := some { r with pc := pc } }

def returns (s : IoState) (r : Running) (status : Status) : IoState :=
  { s with holder := none, returned := { status := status, completed := r.completed } :: s.returned }

/-- The next slot of the ring gets the payload. -/
def copyPayload (s : IoState) (payload : Buf 4) : IoState :=
  { s with
    fControlBuffer := Function.update s.fControlBuffer s.fControlBufferIndex payload
    fControlBufferIndex := s.fControlBufferIndex + 1
    copies := s.copies + 1 }

/-- The transfer for the payload about to be copied. -/
def nextTransfer (s : IoState) : Transfer where
  call := s.calls
  buffer := s.fControlBufferIndex
  copy := s.copies

/-- The first half of `_ControlCallback`, by a callback already taken out of the pool. -/
def stored (s : IoState) (p : Transfer × Status) (rest : List (Transfer × Status)) : IoState :=
  { s with landing := rest, fControlStatus := p.2, releasing := s.releasing + 1 }

end IoState

def advance (s : IoState) (status : Status) (r : Running) : Option IoState :=
  match r.pc with
  | .blocking tries =>
    if status = .ok then some (s.returns { r with completed := true } .ok)
    else if tries + 1 < kMaxRetryCount then some (s.goto r (.blocking (tries + 1)))
    else some (s.returns r .error)
  | .draining attempt =>
    if 0 < s.fControlDone then some { s with fControlDone := s.fControlDone - 1 }
    else some (s.goto r (.copying attempt))
  | .copying attempt =>
    some ((s.copyPayload r.payload).goto r (.resetting attempt s.nextTransfer))
  | .resetting attempt t =>
    some ({ s with fControlStatus := .error }.goto r (.queueing attempt t))
  | .queueing attempt t =>
    if status = .ok then some ({ s with queue := t :: s.queue }.goto r (.waiting attempt))
    else some (s.returns r status)
  | .waiting attempt =>
    match status with
    | .ok =>
      if 0 < s.fControlDone then
        some ({ s with fControlDone := s.fControlDone - 1 }.goto r (.looking attempt))
      else none
    | .timedOut =>
      if 0 < s.fControlDone then none
      -- The transfer is abandoned: it stays with the USB stack.
      else if attempt < kControlWriteAttempts then some (s.goto r (.draining (attempt + 1)))
      else some (s.returns r .timedOut)
    | status => some (s.returns r status)
  | .looking attempt =>
    if s.fControlStatus = .ok then some (s.returns r .ok)
    else if attempt = kControlWriteAttempts then some (s.goto r .failing)
    else some (s.goto r (.draining (attempt + 1)))
  | .failing => some (s.returns r s.fControlStatus)

/-- The call inside the lock learns nothing of this; only the proofs do. -/
def Running.note (r : Running) (calls : Nat) (t : Transfer) (status : Status) : Running :=
  if t.call = calls ∧ status = .ok then { r with completed := true } else r

def next (s : IoState) : IoEvent → Option IoState
  | .writeBounded32 value =>
    if s.fDevicePresent then some { s with callers := littleEndian value :: s.callers }
    else some { s with returned := { status := .devNotReady, completed := false } :: s.returned }
  | .setDeviceRemoved => some { s with fDevicePresent := false }
  | .lock k =>
    match s.holder with
    | some _ => none
    | none =>
      (pick s.callers k).map fun (payload, rest) =>
        { s with
          callers := rest
          calls := s.calls + 1
          holder := some
            { payload := payload
              pc := if s.hasSemaphore then .draining 1 else .blocking 0
              completed := false } }
  | .advance status => s.holder.bind (advance s status)
  | .complete k status =>
    (pick s.queue k).map fun (t, rest) =>
      { s with
        queue := rest
        landing := (t, status) :: s.landing
        holder := s.holder.map fun r => r.note s.calls t status }
  | .store k =>
    (pick s.landing k).map fun (p, rest) => s.stored p rest
  | .release =>
    if 0 < s.releasing then
      some { s with releasing := s.releasing - 1, fControlDone := s.fControlDone + 1 }
    else none

/-! ## The property and its condition -/

/-- A call that returned `B_OK` has had a transfer of its own completed with `B_OK`. -/
def Reported (s : IoState) : Prop := ∀ r ∈ s.returned, r.status = .ok → r.completed = true

instance (s : IoState) : Decidable (Reported s) :=
  inferInstanceAs (Decidable (∀ r ∈ s.returned, _ → _))

/-- Between the reset of `fControlStatus` and the last look at it. -/
def WritePc.exposed : WritePc → Bool
  | .queueing _ _ | .waiting _ | .looking _ | .failing => true
  | .blocking _ | .draining _ | .copying _ | .resetting _ _ => false

/-- A callback of an earlier call's transfer stores `B_OK` while the call inside the lock may still
take it for the outcome of its own, which has not completed with `B_OK`. -/
def Misleads (s : IoState) (p : Transfer × Status) : Prop :=
  p.2 = .ok ∧ p.1.call ≠ s.calls ∧ ∃ r ∈ s.holder, r.pc.exposed = true ∧ r.completed = false

instance (s : IoState) (p : Transfer × Status) : Decidable (Misleads s p) :=
  inferInstanceAs (Decidable (_ ∧ _ ∧ _))

def Fresh (s : IoState) : IoEvent → Prop
  | .store k => ∀ q ∈ pick s.landing k, ¬ Misleads s q.1
  | .writeBounded32 _ | .setDeviceRemoved | .lock _ | .advance _ | .complete _ _ | .release => True

instance (s : IoState) : ∀ e, Decidable (Fresh s e)
  | .store k => inferInstanceAs (Decidable (∀ q ∈ pick s.landing k, _))
  | .writeBounded32 _ | .setDeviceRemoved | .lock _ | .advance _ | .complete _ _ | .release =>
    isTrue trivial

/-! ## The invariant -/

/-- The transfer the call is about to hand over. -/
def WritePc.carried : WritePc → Option Transfer
  | .resetting _ t | .queueing _ t => some t
  | .blocking _ | .draining _ | .copying _ | .waiting _ | .looking _ | .failing => none

structure Inv (s : IoState) : Prop where
  carried : ∀ r ∈ s.holder, ∀ t ∈ r.pc.carried, t.call ≤ s.calls
  queued : ∀ t ∈ s.queue, t.call ≤ s.calls
  landed : ∀ p ∈ s.landing, p.1.call ≤ s.calls
  own : ∀ p ∈ s.landing, p.2 = .ok → p.1.call = s.calls → ∀ r ∈ s.holder, r.completed = true
  current : ∀ r ∈ s.holder, r.pc.exposed = true → s.fControlStatus = .ok → r.completed = true
  reported : Reported s

theorem inv_init (hasSemaphore : Bool) : Inv (.init hasSemaphore) := by
  constructor <;> simp [IoState.init, Reported]

/-- The call moves on, to a place with nothing new to hand over. -/
theorem Inv.goto {s : IoState} {r : Running} {pc : WritePc} (h : Inv s) (hr : s.holder = some r)
    (hcarried : ∀ t ∈ pc.carried, t.call ≤ s.calls)
    (hcurrent : pc.exposed = true → s.fControlStatus = .ok → r.completed = true) :
    Inv (s.goto r pc) where
  carried := by
    rintro _ ⟨⟩
    exact hcarried
  queued := h.queued
  landed := h.landed
  own := by
    rintro p hp hok hcall _ ⟨⟩
    exact h.own p hp hok hcall r hr
  current := by
    rintro _ ⟨⟩
    exact hcurrent
  reported := h.reported

theorem Inv.returns {s : IoState} {r : Running} {status : Status} (h : Inv s)
    (hstatus : status = .ok → r.completed = true) : Inv (s.returns r status) where
  carried := by rintro _ ⟨⟩
  queued := h.queued
  landed := h.landed
  own := by rintro _ _ _ _ _ ⟨⟩
  current := by rintro _ ⟨⟩
  reported := by
    intro x hx
    rcases List.mem_cons.mp hx with rfl | hx
    · exact hstatus
    · exact h.reported x hx

theorem inv_advance {s s' : IoState} {status : Status} {r : Running} (h : Inv s)
    (hr : s.holder = some r) (hn : advance s status r = some s') : Inv s' := by
  have hcurrent := h.current r hr
  have hcarried := h.carried r hr
  unfold advance at hn
  cases hpc : r.pc with
  | blocking tries =>
    simp only [hpc] at hn
    split at hn
    · cases hn
      exact h.returns fun _ => rfl
    · split at hn
      · cases hn
        exact h.goto hr (by rintro _ ⟨⟩) (by rintro ⟨⟩)
      · cases hn
        exact h.returns (by rintro ⟨⟩)
  | draining attempt =>
    simp only [hpc] at hn
    split at hn
    · cases hn
      exact ⟨h.carried, h.queued, h.landed, h.own, h.current, h.reported⟩
    · cases hn
      exact h.goto hr (by rintro _ ⟨⟩) (by rintro ⟨⟩)
  | copying attempt =>
    simp only [hpc] at hn
    cases hn
    have hcopy : Inv (s.copyPayload r.payload) :=
      ⟨h.carried, h.queued, h.landed, h.own, h.current, h.reported⟩
    refine hcopy.goto hr ?_ (by rintro ⟨⟩)
    rintro _ ⟨⟩
    exact Nat.le_refl _
  | resetting attempt t =>
    simp only [hpc] at hn
    cases hn
    have hreset : Inv { s with fControlStatus := .error } :=
      ⟨h.carried, h.queued, h.landed, h.own, by rintro _ _ _ ⟨⟩, h.reported⟩
    refine hreset.goto hr ?_ (by rintro _ ⟨⟩)
    rintro _ ⟨⟩
    exact hcarried t (by rw [hpc]; rfl)
  | queueing attempt t =>
    simp only [hpc] at hn
    split at hn
    · cases hn
      have hqueue : Inv { s with queue := t :: s.queue } := by
        refine ⟨h.carried, ?_, h.landed, h.own, h.current, h.reported⟩
        intro u hu
        rcases List.mem_cons.mp hu with rfl | hu
        · exact hcarried u (by rw [hpc]; rfl)
        · exact h.queued u hu
      exact hqueue.goto hr (by rintro _ ⟨⟩) fun _ => hcurrent (by rw [hpc]; rfl)
    · rename_i hfailed
      cases hn
      exact h.returns fun hok => absurd hok hfailed
  | waiting attempt =>
    simp only [hpc] at hn
    split at hn
    · split at hn
      · cases hn
        have htaken : Inv { s with fControlDone := s.fControlDone - 1 } :=
          ⟨h.carried, h.queued, h.landed, h.own, h.current, h.reported⟩
        exact htaken.goto hr (by rintro _ ⟨⟩) fun _ => hcurrent (by rw [hpc]; rfl)
      · cases hn
    · split at hn
      · cases hn
      split at hn
      · cases hn
        exact h.goto hr (by rintro _ ⟨⟩) (by rintro ⟨⟩)
      · cases hn
        exact h.returns (by rintro ⟨⟩)
    · rename_i hok _
      cases hn
      exact h.returns fun he => absurd he hok
  | looking attempt =>
    simp only [hpc] at hn
    split at hn
    · rename_i hok
      cases hn
      exact h.returns fun _ => hcurrent (by rw [hpc]; rfl) hok
    · rename_i hfailed
      split at hn
      · cases hn
        exact h.goto hr (by rintro _ ⟨⟩) fun _ hok => absurd hok hfailed
      · cases hn
        exact h.goto hr (by rintro _ ⟨⟩) (by rintro ⟨⟩)
  | failing =>
    simp only [hpc] at hn
    cases hn
    exact h.returns fun hok => hcurrent (by rw [hpc]; rfl) hok

theorem Running.note_pc (r : Running) (calls : Nat) (t : Transfer) (status : Status) :
    (r.note calls t status).pc = r.pc := by
  unfold Running.note
  split
  · rfl
  · rfl

theorem Running.note_completed {r : Running} {calls : Nat} {t : Transfer} {status : Status} :
    (r.note calls t status).completed = true ↔
      r.completed = true ∨ t.call = calls ∧ status = .ok := by
  unfold Running.note
  split
  · rename_i h
    simp [h]
  · rename_i h
    simp [h]

theorem inv_complete {s : IoState} {k : Nat} {status : Status} {t : Transfer} {rest : List Transfer}
    (h : Inv s) (hp : pick s.queue k = some (t, rest)) :
    Inv { s with
      queue := rest
      landing := (t, status) :: s.landing
      holder := s.holder.map fun r => r.note s.calls t status } where
  carried := by
    intro x hx
    obtain ⟨r, hr, rfl⟩ := Option.map_eq_some_iff.mp hx
    rw [Running.note_pc]
    exact h.carried r hr
  queued := fun u hu => h.queued u (pick_rest hp hu)
  landed := by
    intro p hmem
    rcases List.mem_cons.mp hmem with rfl | hmem
    · exact h.queued t (pick_mem hp)
    · exact h.landed p hmem
  own := by
    intro p hmem hok hcall x hx
    obtain ⟨r, hr, rfl⟩ := Option.map_eq_some_iff.mp hx
    rw [Running.note_completed]
    rcases List.mem_cons.mp hmem with rfl | hmem
    · exact .inr ⟨hcall, hok⟩
    · exact .inl (h.own p hmem hok hcall r hr)
  current := by
    intro x hx
    obtain ⟨r, hr, rfl⟩ := Option.map_eq_some_iff.mp hx
    rw [Running.note_pc, Running.note_completed]
    exact fun hexposed hok => .inl (h.current r hr hexposed hok)
  reported := h.reported

theorem inv_store {s : IoState} {k : Nat} {p : Transfer × Status} {rest : List (Transfer × Status)}
    (h : Inv s) (hp : pick s.landing k = some (p, rest)) (hfresh : ¬ Misleads s p) :
    Inv (s.stored p rest) where
  carried := h.carried
  queued := h.queued
  landed := fun q hq => h.landed q (pick_rest hp hq)
  own := fun q hq => h.own q (pick_rest hp hq)
  current := by
    intro r hr hexposed hok
    by_cases hcall : p.1.call = s.calls
    · exact h.own p (pick_mem hp) hok hcall r hr
    · by_contra hno
      rw [Bool.not_eq_true] at hno
      exact hfresh ⟨hok, hcall, r, hr, hexposed, hno⟩
  reported := h.reported

theorem inv_lock {s : IoState} {payload : Buf 4} {rest : List (Buf 4)} (h : Inv s) :
    Inv { s with
      callers := rest
      calls := s.calls + 1
      holder := some
        { payload := payload
          pc := if s.hasSemaphore then .draining 1 else .blocking 0
          completed := false } } where
  carried := by
    rintro _ ⟨⟩ t ht
    dsimp only at ht
    split at ht
    · cases ht
    · cases ht
  queued := fun t ht => Nat.le_succ_of_le (h.queued t ht)
  landed := fun p hp => Nat.le_succ_of_le (h.landed p hp)
  own := by
    -- Every callback on its way is of an earlier call.
    intro p hp _ hcall
    exact absurd hcall (Nat.ne_of_lt (Nat.lt_succ_of_le (h.landed p hp)))
  current := by
    rintro _ ⟨⟩ hexposed
    dsimp only at hexposed
    split at hexposed
    · cases hexposed
    · cases hexposed
  reported := h.reported

theorem inv_step {s s' : IoState} {e : IoEvent} (h : Inv s) (hf : Fresh s e)
    (hn : next s e = some s') : Inv s' := by
  cases e with
  | writeBounded32 value =>
    simp only [next] at hn
    split at hn
    · cases hn
      exact ⟨h.carried, h.queued, h.landed, h.own, h.current, h.reported⟩
    · cases hn
      refine ⟨h.carried, h.queued, h.landed, h.own, h.current, ?_⟩
      intro r hr
      rcases List.mem_cons.mp hr with rfl | hr
      · rintro ⟨⟩
      · exact h.reported r hr
  | setDeviceRemoved =>
    cases hn
    exact ⟨h.carried, h.queued, h.landed, h.own, h.current, h.reported⟩
  | lock k =>
    simp only [next] at hn
    split at hn
    · cases hn
    · obtain ⟨⟨payload, rest⟩, -, rfl⟩ := Option.map_eq_some_iff.mp hn
      exact inv_lock h
  | advance status =>
    obtain ⟨r, hr, hstep⟩ := Option.bind_eq_some_iff.mp hn
    exact inv_advance h hr hstep
  | complete k status =>
    obtain ⟨⟨t, rest⟩, hp, rfl⟩ := Option.map_eq_some_iff.mp hn
    exact inv_complete h hp
  | store k =>
    obtain ⟨⟨p, rest⟩, hp, rfl⟩ := Option.map_eq_some_iff.mp hn
    exact inv_store h hp (hf _ hp)
  | release =>
    simp only [next] at hn
    split at hn
    · cases hn
      exact ⟨h.carried, h.queued, h.landed, h.own, h.current, h.reported⟩
    · cases hn

/-! ## Without the condition -/

/-- A call that finds `B_OK` in `fControlStatus` returns it. -/
theorem returns_found {s : IoState} {r : Running} (hr : s.holder = some r)
    (hno : r.completed = false) (hok : s.fControlStatus = .ok)
    (hpc : r.pc = .failing ∨ ∃ attempt, r.pc = .looking attempt) :
    ∃ s', run next s [.advance .ok] = some s' ∧ ¬ Reported s' := by
  have hret : ¬ Reported (s.returns r .ok) := by
    intro hrep
    have hdone := hrep _ List.mem_cons_self rfl
    rw [hno] at hdone
    cases hdone
  refine ⟨s.returns r .ok, ?_, hret⟩
  rcases hpc with hpc | ⟨attempt, hpc⟩
  · simp only [run, next, hr, Option.bind_some, advance, hpc, hok]
  · simp only [run, next, hr, Option.bind_some, advance, hpc, hok, ↓reduceIte]

/-- So does one that still waits, as soon as the callback has released the semaphore. -/
theorem returns_released {s : IoState} {r : Running} {attempt : Nat} (hr : s.holder = some r)
    (hno : r.completed = false) (hok : s.fControlStatus = .ok) (hpc : r.pc = .waiting attempt)
    (hrel : 0 < s.releasing) : ∃ es s', run next s es = some s' ∧ ¬ Reported s' := by
  let woken : IoState := { s with releasing := s.releasing - 1 }.goto r (.looking attempt)
  obtain ⟨s', hlook, hbad⟩ := returns_found (s := woken) (r := { r with pc := .looking attempt })
    rfl hno hok (.inr ⟨attempt, rfl⟩)
  refine ⟨[.release, .advance .ok, .advance .ok], s', ?_, hbad⟩
  rw [← hlook]
  simp only [run, next, hrel, ↓reduceIte, hr, Option.bind_some, advance, hpc, Nat.zero_lt_succ,
    Nat.add_sub_cancel]
  rfl

/-- What `Fresh` rules out leads to a call that returns `B_OK` for the transfer of another. -/
theorem misled_returns {s s' : IoState} {e : IoEvent} (hf : ¬ Fresh s e) (hn : next s e = some s') :
    ∃ es t, run next s' es = some t ∧ ¬ Reported t := by
  cases e with
  | store k =>
    obtain ⟨⟨p, rest⟩, hp, rfl⟩ := Option.map_eq_some_iff.mp hn
    have hmis : Misleads s p := by
      by_contra hno
      refine hf ?_
      intro q hq
      rw [Option.mem_def, hp] at hq
      cases hq
      exact hno
    obtain ⟨hok, -, r, hr, hexposed, hno⟩ := hmis
    have hr' : (s.stored p rest).holder = some r := hr
    have hok' : (s.stored p rest).fControlStatus = .ok := hok
    cases hpc : r.pc with
    | queueing attempt t =>
      let queued : IoState :=
        { s.stored p rest with queue := t :: s.queue }.goto r (.waiting attempt)
      obtain ⟨es, t', hrun, hbad⟩ := returns_released (s := queued)
        (r := { r with pc := .waiting attempt }) rfl hno hok rfl (Nat.zero_lt_succ _)
      refine ⟨.advance .ok :: es, t', ?_, hbad⟩
      rw [← hrun]
      simp only [run, next, hr', Option.bind_some, advance, hpc, ↓reduceIte]
      rfl
    | waiting attempt => exact returns_released hr' hno hok' hpc (Nat.zero_lt_succ _)
    | looking attempt =>
      obtain ⟨t, hrun, hbad⟩ := returns_found hr' hno hok' (.inr ⟨attempt, hpc⟩)
      exact ⟨_, t, hrun, hbad⟩
    | failing =>
      obtain ⟨t, hrun, hbad⟩ := returns_found hr' hno hok' (.inl hpc)
      exact ⟨_, t, hrun, hbad⟩
    | _ =>
      rw [hpc] at hexposed
      cases hexposed
  | _ => exact absurd trivial hf

/-- In every run without such a store, a call that returned `B_OK` has had a transfer of its own
completed with `B_OK`; after any such store a call can return `B_OK` without one. -/
theorem bounded_write_reports (hasSemaphore : Bool) :
    (∀ es s, Meets next Fresh (.init hasSemaphore) es → run next (.init hasSemaphore) es = some s →
      Reported s) ∧
    ∀ s e s', ¬ Fresh s e → next s e = some s' →
      ∃ es t, run next s' es = some t ∧ ¬ Reported t := by
  constructor
  · intro es s hm hr
    exact (run_invariant inv_step (inv_init hasSemaphore) hm hr).reported
  · intro s e s'
    exact misled_returns

/-- From the entry of a call to its wait on the semaphore. -/
def queueRun : List IoEvent := [.writeBounded32 1, .lock 0] ++ List.replicate 4 (.advance .ok)

/-- A call that gives up on its transfer. -/
def abandonRun : List IoEvent := queueRun ++ [.advance .timedOut]

/-- The abandoned transfer completes between two calls, and the second drains what it left. -/
def drainedRun : List IoEvent :=
  abandonRun ++ [.complete 0 .ok, .store 0, .release, .writeBounded32 2, .lock 0] ++
    List.replicate 5 (.advance .ok) ++ [.complete 0 .ok, .store 0, .release] ++
    List.replicate 2 (.advance .ok)

theorem bounded_write_reports_drainedRun :
    ∃ s, run next (.init true) drainedRun = some s ∧
      s.returned = [⟨.ok, true⟩, ⟨.timedOut, false⟩] ∧ Reported s := by
  have hreturned : (run next (.init true) drainedRun).map IoState.returned =
      some [⟨.ok, true⟩, ⟨.timedOut, false⟩] := by decide
  obtain ⟨s, hr, hs⟩ := Option.map_eq_some_iff.mp hreturned
  exact ⟨s, hr, hs, (bounded_write_reports true).1 _ s (by decide) hr⟩

/-- It completes after the second call has drained the semaphore. -/
def lateRun : List IoEvent :=
  abandonRun ++ queueRun ++ [.complete 1 .ok, .store 0, .release] ++ List.replicate 2 (.advance .ok)

theorem bounded_write_reports_lateRun :
    ¬ ∀ es s, run next (.init true) es = some s → Reported s := by
  intro hclaim
  have hreturned : (run next (.init true) lateRun).map IoState.returned =
      some [⟨.ok, false⟩, ⟨.timedOut, false⟩] := by decide
  obtain ⟨s, hr, hs⟩ := Option.map_eq_some_iff.mp hreturned
  have hrep := hclaim lateRun s hr
  unfold Reported at hrep
  rw [hs] at hrep
  exact absurd hrep (by decide)

end RegisterIO
end Rtl8814au
