import Rtl8814au.Lib.Lts

/-!
# Driver.Lifetime

The life of one device object as a concurrent system: `DeviceRemoved` and any number of `Open` and
`Free` calls, interleaved at every atomic operation and at every section under `gDeviceListLock`,
while other devices come and go in the other slots.

* `removalStep`, `openStep`, `freeStep` — one step of each kind of call.
* `Lived`     — deleted at most once, never touched afterwards, deleted when nobody is left, and
  `gDeviceCount` counts the entries of `gDeviceList`.
* `Unhurried` — the order of steps the code relies on: the removal is not marked between a last
  decrement and the read of `fRemoved` that follows it.
* `inv_step`  — with it, exactly one call has the right to delete once the removal is marked.
-/

namespace Rtl8814au
namespace Driver

open Lts

abbrev kMaxDeviceCount : Nat := 8

/-- What a slot of `gDeviceList` holds; `device` is the object followed here. -/
inductive Entry
  | null
  | device
  | other
deriving DecidableEq

def Entry.isSet : Entry → Bool
  | .null => false
  | .device | .other => true

/-- Where the call of `DeviceRemoved` stands. -/
inductive RemovalPc
  | uncalled
  | naming -- `Name()` is not read yet
  | locking -- before the section under the list lock
  | deleting -- the lock is released; `delete` has not run yet
  | returned
deriving DecidableEq

/-- Where a call of `Free` stands. -/
inductive FreePc
  | entered -- `fOpenCount` is not decremented yet
  | sawLast -- the decrement returned 1; `fRemoved` is not read yet
  | locking -- `fRemoved` was set; before the section under the list lock
  | deleting -- the lock is released; `delete` has not run yet
deriving DecidableEq

structure DriverState where
  gDeviceList : Vector Entry kMaxDeviceCount
  gDeviceCount : UInt32
  fSlotIndex : Fin kMaxDeviceCount
  fRemoved : Bool
  fOpenCount : Int -- Handles number far fewer than the values of an `int32`.
  removal : RemovalPc
  frees : List FreePc
  handles : Nat -- opened, and not passed to `Free` yet
  deletions : Nat
  stale : Bool -- a step has touched the object after a deletion
deriving DecidableEq

def entries (l : Vector Entry kMaxDeviceCount) : Nat := l.countP Entry.isSet

/-- `DeviceAdded` has just claimed the device at `slot`; `others` are the slots in use already. -/
def DriverState.claimed (others : Vector Bool kMaxDeviceCount) (slot : Fin kMaxDeviceCount) :
    DriverState :=
  let list := (others.map fun b => if b then Entry.other else Entry.null).set slot .device
  { gDeviceList := list
    gDeviceCount := .ofNat (entries list)
    fSlotIndex := slot
    fRemoved := false
    fOpenCount := 0
    removal := .uncalled
    frees := []
    handles := 0
    deletions := 0
    stale := false }

inductive Event
  | callRemoved
  | removal -- `DeviceRemoved` takes its next step
  | openDevice (ready : Bool) -- whether `_InitHardware` and `Start` succeed, where they are called
  | callFree
  | free (k : Nat)
  | otherAdded -- the section of `DeviceAdded` for another device
  | otherReleased (slot : Fin kMaxDeviceCount) -- another device's entry is cleared
deriving DecidableEq

/-! ## Steps -/

namespace DriverState

def addFree (s : DriverState) (t : FreePc) : DriverState := { s with frees := t :: s.frees }

/-- A step reads or writes a member of the object. -/
def touch (s : DriverState) : DriverState := { s with stale := s.stale || decide (0 < s.deletions) }

/-- The entry is cleared and the count taken down, under the list lock. -/
def release (s : DriverState) : DriverState :=
  { s with
    gDeviceList := s.gDeviceList.set s.fSlotIndex .null
    gDeviceCount := s.gDeviceCount - 1 }

def delete (s : DriverState) : DriverState := { s with deletions := s.deletions + 1 }

end DriverState

def removalStep (s : DriverState) : Option DriverState :=
  match s.removal with
  | .uncalled | .returned => none
  | .naming => some { s.touch with removal := .locking }
  | .locking =>
    let marked : DriverState := { s.touch with fRemoved := true }
    if marked.fOpenCount > 0 then some { marked with removal := .returned }
    else some { marked.release with removal := .deleting }
  | .deleting => some { s.touch.delete with removal := .returned }

/-- `Open` for the path of the device, one section under the list lock. -/
def openStep (s : DriverState) (ready : Bool) : DriverState :=
  if s.gDeviceList[s.fSlotIndex] = .device then
    if s.fRemoved then s.touch
    else if ready then { s.touch with fOpenCount := s.fOpenCount + 1, handles := s.handles + 1 }
    else s.touch
  else s

/-- One step of `Free`, by a call already taken out of the pool. -/
def freeStep (s : DriverState) : FreePc → DriverState
  | .entered =>
    let s' := { s.touch with fOpenCount := s.fOpenCount - 1 }
    if s.fOpenCount = 1 then s'.addFree .sawLast else s'
  | .sawLast => if s.fRemoved then s.touch.addFree .locking else s.touch
  | .locking => s.touch.release.addFree .deleting
  | .deleting => s.touch.delete

/-- The first free slot of the list. -/
def freeSlot (l : Vector Entry kMaxDeviceCount) : Option (Fin kMaxDeviceCount) :=
  (List.finRange kMaxDeviceCount).find? fun i => l[i] = .null

def next (s : DriverState) : Event → Option DriverState
  | .callRemoved =>
    if s.removal = .uncalled then some { s with removal := .naming } else none
  | .removal => removalStep s
  | .openDevice ready => some (openStep s ready)
  | .callFree =>
    if 0 < s.handles then some ({ s with handles := s.handles - 1 }.addFree .entered) else none
  | .free k => (pick s.frees k).map fun (t, rest) => freeStep { s with frees := rest } t
  | .otherAdded => (freeSlot s.gDeviceList).map fun (i : Fin kMaxDeviceCount) =>
      { s with gDeviceList := s.gDeviceList.set i .other, gDeviceCount := s.gDeviceCount + 1 }
  | .otherReleased i =>
    if s.gDeviceList[i] = .other then
      some { s with gDeviceList := s.gDeviceList.set i .null, gDeviceCount := s.gDeviceCount - 1 }
    else none

/-! ## The property and its condition -/

/-- No call is in progress. -/
def DriverState.quiet (s : DriverState) : Bool :=
  s.frees = [] && (s.removal = .uncalled || s.removal = .returned)

structure Lived (s : DriverState) : Prop where
  once : s.deletions ≤ 1
  live : s.stale = false
  gone : s.quiet = true → s.fRemoved = true → s.handles = 0 → s.deletions = 1
  counted : s.gDeviceCount.toNat = entries s.gDeviceList

/-- `DeviceRemoved` marks the removal only when no `Free` is between a decrement that returned 1
and its read of `fRemoved`. -/
def Unhurried (s : DriverState) : Event → Prop
  | .removal => s.removal = .locking → .sawLast ∉ s.frees
  | .callRemoved | .openDevice _ | .callFree | .free _ | .otherAdded | .otherReleased _ => True

instance decidableUnhurried (s : DriverState) : ∀ e, Decidable (Unhurried s e)
  | .removal => inferInstanceAs (Decidable (_ → _))
  | .callRemoved | .openDevice _ | .callFree | .free _ | .otherAdded | .otherReleased _ =>
    isTrue trivial

/-! ## The list and its count -/

theorem entries_le (l : Vector Entry kMaxDeviceCount) : entries l ≤ kMaxDeviceCount :=
  Vector.countP_le_size

theorem entries_set {l : Vector Entry kMaxDeviceCount} {i : Fin kMaxDeviceCount} {e : Entry} :
    entries (l.set i e) + (if l[i].isSet then 1 else 0) =
      entries l + if e.isSet then 1 else 0 := by
  have hset : (l.set i e).countP Entry.isSet =
      l.countP Entry.isSet - (if l[i].isSet then 1 else 0) + if e.isSet then 1 else 0 :=
    Vector.countP_set i.isLt
  have hle : (if l[i].isSet then 1 else 0) ≤ l.countP Entry.isSet :=
    Vector.boole_getElem_le_countP i.isLt
  unfold entries
  omega

/-- Clearing an entry that is set takes one off the count. -/
theorem count_clear {l : Vector Entry kMaxDeviceCount} {i : Fin kMaxDeviceCount} {n : UInt32}
    (hn : n = .ofNat (entries l)) (hi : l[i].isSet = true) :
    n - 1 = .ofNat (entries (l.set i .null)) := by
  have hset := entries_set (l := l) (i := i) (e := .null)
  rw [if_pos hi, if_neg (by decide)] at hset
  rw [hn, ← Nat.add_zero (entries l), ← hset, UInt32.ofNat_add]
  exact UInt32.add_sub_cancel _ _

theorem count_fill {l : Vector Entry kMaxDeviceCount} {i : Fin kMaxDeviceCount} {e : Entry}
    {n : UInt32} (hn : n = .ofNat (entries l)) (hi : l[i] = .null) (he : e.isSet = true) :
    n + 1 = .ofNat (entries (l.set i e)) := by
  have hset := entries_set (l := l) (i := i) (e := e)
  rw [hi, if_neg (by decide), if_pos he] at hset
  rw [hn, ← Nat.add_zero (entries (l.set i e)), hset, UInt32.ofNat_add]
  rfl

theorem freeSlot_null {l : Vector Entry kMaxDeviceCount} {i : Fin kMaxDeviceCount}
    (h : freeSlot l = some i) : l[i] = .null := by
  have := List.find?_some h
  simpa using this

/-! ## The invariant -/

def FreePc.isEntered (t : FreePc) : Bool := t = .entered
def FreePc.isSawLast (t : FreePc) : Bool := t = .sawLast
def FreePc.isLocking (t : FreePc) : Bool := t = .locking
def FreePc.isDeleting (t : FreePc) : Bool := t = .deleting

/-- A removal that has cleared the entry will delete the object. -/
def RemovalPc.share : RemovalPc → Nat
  | .deleting => 1
  | .uncalled | .naming | .locking | .returned => 0

/-- The share of the open handles in the right to delete. -/
def openShare (fOpenCount : Int) : Nat := if 0 < fOpenCount then 1 else 0

theorem openShare_pos {n : Int} (h : 0 < n) : openShare n = 1 := if_pos h

theorem openShare_of_not {n : Int} (h : ¬ 0 < n) : openShare n = 0 := if_neg h

namespace DriverState

/-- Deletions done or certain: the entry is cleared by then. -/
def released (s : DriverState) : Nat :=
  s.deletions + s.frees.countP FreePc.isDeleting + s.removal.share

/-- Calls with the right to clear the entry, once the removal is marked; while the device is open,
the right is with whoever closes it last. -/
def owners (s : DriverState) : Nat :=
  s.frees.countP FreePc.isSawLast + s.frees.countP FreePc.isLocking + openShare s.fOpenCount

end DriverState

structure Inv (s : DriverState) : Prop where
  counted : s.gDeviceCount = .ofNat (entries s.gDeviceList)
  opened : s.fOpenCount = s.handles + s.frees.countP FreePc.isEntered
  marked : s.fRemoved = true ↔ s.removal = .deleting ∨ s.removal = .returned
  live : s.stale = false
  listed : s.gDeviceList[s.fSlotIndex] = .device ↔ s.released = 0
  before : s.fRemoved = false → s.released = 0 ∧ s.frees.countP FreePc.isLocking = 0
  after : s.fRemoved = true → s.owners + s.released = 1

theorem inv_claimed (others : Vector Bool kMaxDeviceCount) (slot : Fin kMaxDeviceCount) :
    Inv (.claimed others slot) where
  counted := rfl
  opened := rfl
  marked := by simp [DriverState.claimed]
  live := rfl
  listed := by simp [DriverState.claimed, DriverState.released, RemovalPc.share]
  before := by
    intro _
    exact ⟨rfl, rfl⟩
  after := by
    intro h
    cases h

theorem Inv.lived {s : DriverState} (h : Inv s) : Lived s where
  once := by
    cases hr : s.fRemoved with
    | false =>
      have := (h.before hr).1
      unfold DriverState.released at this
      omega
    | true =>
      have := h.after hr
      unfold DriverState.released at this
      omega
  live := h.live
  gone := by
    intro hq hr hh
    have ha := h.after hr
    have ho := h.opened
    simp only [DriverState.quiet, Bool.and_eq_true, decide_eq_true_eq, Bool.or_eq_true] at hq
    obtain ⟨hf, hp⟩ := hq
    have hp : s.removal.share = 0 := by
      rcases hp with hp | hp
      · rw [hp]
        rfl
      · rw [hp]
        rfl
    simp only [hf, hh, List.countP_nil] at ho
    simpa [DriverState.owners, DriverState.released, openShare, hf, hp, ho] using ha
  counted := by
    have := entries_le s.gDeviceList
    rw [h.counted, UInt32.toNat_ofNat', Nat.mod_eq_of_lt]
    exact Nat.lt_of_le_of_lt this (by decide)

/-! ## Steps keep the invariant -/

/-- Before the removal is marked nothing is on its way to a deletion. -/
theorem Inv.of_unmarked {s : DriverState} (hr : s.fRemoved = false)
    (hcounted : s.gDeviceCount = .ofNat (entries s.gDeviceList))
    (hopened : s.fOpenCount = s.handles + s.frees.countP FreePc.isEntered)
    (hpc : s.removal ≠ .deleting ∧ s.removal ≠ .returned) (hlive : s.stale = false)
    (hlisted : s.gDeviceList[s.fSlotIndex] = .device) (h0 : s.released = 0)
    (hlocking : s.frees.countP FreePc.isLocking = 0) : Inv s where
  counted := hcounted
  opened := hopened
  marked := by simp [hr, hpc]
  live := hlive
  listed := ⟨fun _ => h0, fun _ => hlisted⟩
  before := fun _ => ⟨h0, hlocking⟩
  after := by
    intro ht
    rw [hr] at ht
    cases ht

/-- Once it is marked, one call has the right to delete or has used it. -/
theorem Inv.of_marked {s : DriverState} (hr : s.fRemoved = true)
    (hcounted : s.gDeviceCount = .ofNat (entries s.gDeviceList))
    (hopened : s.fOpenCount = s.handles + s.frees.countP FreePc.isEntered)
    (hpc : s.removal = .deleting ∨ s.removal = .returned) (hlive : s.stale = false)
    (hlisted : s.gDeviceList[s.fSlotIndex] = .device ↔ s.released = 0)
    (hone : s.owners + s.released = 1) : Inv s where
  counted := hcounted
  opened := hopened
  marked := ⟨fun _ => hpc, fun _ => hr⟩
  live := hlive
  listed := hlisted
  before := by
    intro hf
    rw [hr] at hf
    cases hf
  after := fun _ => hone

/-- Nothing is deleted yet, so a step may touch the object. -/
theorem touch_eq {s : DriverState} (h : s.deletions = 0) : s.touch = s := by
  have hs : (s.stale || decide (0 < s.deletions)) = s.stale := by simp [h]
  unfold DriverState.touch
  rw [hs]

theorem deletions_of_released {s : DriverState} (h : s.released = 0) : s.deletions = 0 := by
  unfold DriverState.released at h
  omega

theorem Inv.released_of_pending {s : DriverState} (h : Inv s)
    (hp : s.removal ≠ .deleting ∧ s.removal ≠ .returned) :
    s.fRemoved = false ∧ s.released = 0 := by
  have hr : s.fRemoved = false := by
    rw [← Bool.not_eq_true, h.marked]
    simp [hp]
  exact ⟨hr, (h.before hr).1⟩

/-- A step of the removal ahead of its section under the lock. -/
theorem Inv.pending {s : DriverState} {pc : RemovalPc} (h : Inv s)
    (hp : s.removal ≠ .deleting ∧ s.removal ≠ .returned)
    (hpc : pc ≠ .deleting ∧ pc ≠ .returned) : Inv { s with removal := pc } := by
  obtain ⟨hr, h0⟩ := h.released_of_pending hp
  have hshare : ∀ {t : RemovalPc}, t ≠ .deleting ∧ t ≠ .returned → t.share = 0 := by
    intro t ht
    cases t with
    | deleting => exact absurd rfl ht.1
    | _ => rfl
  have hreleased : ({ s with removal := pc } : DriverState).released = s.released := by
    simp only [DriverState.released, hshare hpc, hshare hp]
  exact .of_unmarked hr h.counted h.opened hpc h.live (h.listed.mpr h0) (hreleased.trans h0)
    (h.before hr).2

/-- Clearing the entry of a device that is still listed. -/
theorem Inv.count_release {s : DriverState} (h : Inv s) (h0 : s.released = 0) :
    s.gDeviceCount - 1 = .ofNat (entries (s.gDeviceList.set s.fSlotIndex .null)) := by
  refine count_clear h.counted ?_
  rw [h.listed.mpr h0]
  rfl

/-- The section of `DeviceRemoved` under the lock. -/
theorem marking_inv {s s' : DriverState} (h : Inv s) (hpc : s.removal = .locking)
    (hsaw : .sawLast ∉ s.frees) (hn : removalStep s = some s') : Inv s' := by
  obtain ⟨hr, h0⟩ := h.released_of_pending (by simp [hpc])
  have hlocking := (h.before hr).2
  have hnone : s.frees.countP FreePc.isSawLast = 0 := by
    rw [List.countP_eq_zero]
    intro t ht hs
    have hs : t = .sawLast := by simpa [FreePc.isSawLast] using hs
    exact hsaw (hs ▸ ht)
  have hreleased := h0
  simp only [DriverState.released, RemovalPc.share, hpc] at hreleased
  simp only [removalStep, hpc, touch_eq (deletions_of_released h0)] at hn
  split at hn
  · -- somebody has the device open and will delete it
    rename_i hopen
    cases hn
    have hlisted := h.listed
    simp only [DriverState.released, RemovalPc.share, hpc] at hlisted
    refine .of_marked rfl h.counted h.opened (.inr rfl) h.live hlisted ?_
    simp only [DriverState.owners, DriverState.released, RemovalPc.share, hnone, hlocking,
      openShare_pos hopen]
    omega
  · -- nobody has it open: this call clears the entry and will delete it
    rename_i hopen
    cases hn
    refine .of_marked rfl (h.count_release h0) h.opened (.inl rfl) h.live ?_ ?_
    · simp [DriverState.release, DriverState.released, RemovalPc.share]
    · simp only [DriverState.release, DriverState.owners, DriverState.released, RemovalPc.share,
        hnone, hlocking, openShare_of_not hopen]
      omega

theorem removal_inv {s s' : DriverState} (h : Inv s) (hu : Unhurried s .removal)
    (hn : removalStep s = some s') : Inv s' := by
  cases hpc : s.removal with
  | uncalled =>
    simp only [removalStep, hpc] at hn
    cases hn
  | returned =>
    simp only [removalStep, hpc] at hn
    cases hn
  | naming =>
    have hp : s.removal ≠ .deleting ∧ s.removal ≠ .returned := by simp [hpc]
    have hd := deletions_of_released (h.released_of_pending hp).2
    simp only [removalStep, hpc, touch_eq hd] at hn
    cases hn
    exact h.pending hp (by simp)
  | locking => exact marking_inv h hpc (hu hpc) hn
  | deleting =>
    have hr : s.fRemoved = true := h.marked.mpr (.inl hpc)
    have hone := h.after hr
    have hlisted := h.listed
    simp only [DriverState.released, RemovalPc.share, hpc] at hone hlisted
    have hd : s.deletions = 0 := by omega
    simp only [removalStep, hpc, touch_eq hd] at hn
    cases hn
    refine .of_marked hr h.counted h.opened (.inr rfl) h.live ?_ ?_
    · simp only [DriverState.delete, DriverState.released, RemovalPc.share]
      rw [hlisted]
      omega
    · simp only [DriverState.delete, DriverState.owners, DriverState.released,
        RemovalPc.share] at hone ⊢
      omega

theorem open_inv {s : DriverState} {ready : Bool} (h : Inv s) : Inv (openStep s ready) := by
  unfold openStep
  split
  · rename_i hlisted
    have h0 := h.listed.mp hlisted
    rw [touch_eq (deletions_of_released h0)]
    split
    · exact h
    · rename_i hr
      have hr : s.fRemoved = false := by simpa using hr
      split
      · have hopened := h.opened
        refine .of_unmarked hr h.counted ?_ ?_ h.live hlisted h0 (h.before hr).2
        · simp only
          omega
        · rw [← not_or, ← h.marked, hr]
          decide
      · exact h
  · exact h

/-! ### A call of `Free` -/

namespace DriverState

@[simp] theorem list_addFree (s : DriverState) (t : FreePc) :
    (s.addFree t).gDeviceList = s.gDeviceList := rfl

@[simp] theorem slotIndex_addFree (s : DriverState) (t : FreePc) :
    (s.addFree t).fSlotIndex = s.fSlotIndex := rfl

@[simp] theorem removed_addFree (s : DriverState) (t : FreePc) :
    (s.addFree t).fRemoved = s.fRemoved := rfl

@[simp] theorem openCount_addFree (s : DriverState) (t : FreePc) :
    (s.addFree t).fOpenCount = s.fOpenCount := rfl

@[simp] theorem handles_addFree (s : DriverState) (t : FreePc) :
    (s.addFree t).handles = s.handles := rfl

@[simp] theorem entered_addFree (s : DriverState) (t : FreePc) :
    (s.addFree t).frees.countP FreePc.isEntered =
      s.frees.countP FreePc.isEntered + if t = .entered then 1 else 0 := by
  simp [addFree, FreePc.isEntered, List.countP_cons]

@[simp] theorem locking_addFree (s : DriverState) (t : FreePc) :
    (s.addFree t).frees.countP FreePc.isLocking =
      s.frees.countP FreePc.isLocking + if t = .locking then 1 else 0 := by
  simp [addFree, FreePc.isLocking, List.countP_cons]

@[simp] theorem released_addFree (s : DriverState) (t : FreePc) :
    (s.addFree t).released = s.released + if t = .deleting then 1 else 0 := by
  simp only [addFree, released, FreePc.isDeleting, List.countP_cons, decide_eq_true_eq]
  omega

@[simp] theorem owners_addFree (s : DriverState) (t : FreePc) :
    (s.addFree t).owners =
      s.owners + (if t = .sawLast then 1 else 0) + if t = .locking then 1 else 0 := by
  simp only [addFree, owners, FreePc.isSawLast, FreePc.isLocking, List.countP_cons,
    decide_eq_true_eq]
  omega

end DriverState

/-- The order of the pool has no part in the invariant. -/
theorem Inv.perm {s : DriverState} {frees : List FreePc} (h : Inv s) (hp : s.frees.Perm frees) :
    Inv { s with frees := frees } := by
  have hreleased : ({ s with frees := frees } : DriverState).released = s.released := by
    simp only [DriverState.released, hp.countP_eq]
  have howners : ({ s with frees := frees } : DriverState).owners = s.owners := by
    simp only [DriverState.owners, hp.countP_eq]
  refine ⟨h.counted, ?_, h.marked, h.live, ?_, ?_, ?_⟩
  · rw [← hp.countP_eq]
    exact h.opened
  · rw [hreleased]
    exact h.listed
  · rw [hreleased, ← hp.countP_eq]
    exact h.before
  · rw [howners, hreleased]
    exact h.after

theorem Inv.callFree {s : DriverState} (h : Inv s) (hpos : 0 < s.handles) :
    Inv ({ s with handles := s.handles - 1 }.addFree .entered) := by
  have hopened := h.opened
  refine ⟨h.counted, ?_, h.marked, h.live, ?_, ?_, ?_⟩
  · rw [DriverState.entered_addFree, if_pos rfl]
    simp only [DriverState.openCount_addFree, DriverState.handles_addFree]
    omega
  · rw [DriverState.released_addFree]
    exact h.listed
  · rw [DriverState.released_addFree, DriverState.locking_addFree]
    exact h.before
  · rw [DriverState.owners_addFree, DriverState.released_addFree]
    exact h.after

/-- The decrement. The last one takes over the right that went with the open handles. -/
theorem entered_inv {s : DriverState} (h : Inv (s.addFree .entered)) :
    Inv (freeStep s .entered) := by
  have hopened : s.fOpenCount = s.handles + (s.frees.countP FreePc.isEntered + 1) := by
    simpa using h.opened
  have hbefore : s.fRemoved = false → s.released = 0 ∧ s.frees.countP FreePc.isLocking = 0 := by
    simpa using h.before
  have hafter : s.fRemoved = true → s.owners + s.released = 1 := by simpa using h.after
  have hopen : 0 < s.fOpenCount := by omega
  have h0 : s.released = 0 := by
    cases hr : s.fRemoved with
    | false => exact (hbefore hr).1
    | true =>
      have hone := hafter hr
      simp only [DriverState.owners, openShare_pos hopen] at hone
      omega
  have hlisted : s.gDeviceList[s.fSlotIndex] = .device := h.listed.mpr (by simpa using h0)
  simp only [freeStep]
  rw [touch_eq (deletions_of_released h0)]
  split
  · rename_i hlast
    have hlast : s.fOpenCount = 1 := hlast
    refine ⟨h.counted, ?_, h.marked, h.live, ?_, ?_, ?_⟩
    · rw [DriverState.entered_addFree]
      simp only [DriverState.openCount_addFree, DriverState.handles_addFree, reduceCtorEq, if_false]
      omega
    · rw [DriverState.released_addFree]
      exact ⟨fun _ => h0, fun _ => hlisted⟩
    · rw [DriverState.released_addFree, DriverState.locking_addFree]
      exact hbefore
    · intro hr
      have hone := hafter hr
      simp only [DriverState.owners, openShare_pos hopen] at hone
      rw [DriverState.owners_addFree, DriverState.released_addFree]
      simp only [DriverState.owners, hlast, Int.sub_self, openShare_of_not (Int.lt_irrefl 0),
        reduceCtorEq, if_true, if_false]
      exact hone
  · rename_i hmany
    have hmany : s.fOpenCount ≠ 1 := hmany
    have hleft : 0 < s.fOpenCount - 1 := by omega
    refine ⟨h.counted, ?_, h.marked, h.live, ⟨fun _ => h0, fun _ => hlisted⟩, hbefore, ?_⟩
    · simp only
      omega
    · intro hr
      have hone := hafter hr
      simp only [DriverState.owners, openShare_pos hopen] at hone
      simp only [DriverState.owners, openShare_pos hleft]
      exact hone

/-- The read of `fRemoved` after a decrement that returned 1. -/
theorem sawLast_inv {s : DriverState} (h : Inv (s.addFree .sawLast)) :
    Inv (freeStep s .sawLast) := by
  have hopened : s.fOpenCount = s.handles + s.frees.countP FreePc.isEntered := by
    simpa using h.opened
  have hbefore : s.fRemoved = false → s.released = 0 ∧ s.frees.countP FreePc.isLocking = 0 := by
    simpa using h.before
  have hafter : s.fRemoved = true → s.owners + 1 + s.released = 1 := by simpa using h.after
  have hlisted : s.gDeviceList[s.fSlotIndex] = .device ↔ s.released = 0 := by simpa using h.listed
  have h0 : s.released = 0 := by
    cases hr : s.fRemoved with
    | false => exact (hbefore hr).1
    | true =>
      have := hafter hr
      omega
  simp only [freeStep]
  rw [touch_eq (deletions_of_released h0)]
  split
  · rename_i hr
    have hone := hafter hr
    refine .of_marked hr h.counted ?_ (h.marked.mp hr) h.live ?_ ?_
    · simpa using hopened
    · simpa using hlisted
    · simpa using hone
  · rename_i hr
    have hr : s.fRemoved = false := by simpa using hr
    exact ⟨h.counted, hopened, h.marked, h.live, hlisted, hbefore,
      fun ht => absurd (hr.symm.trans ht) (by decide)⟩

/-- The section of `Free` under the lock. -/
theorem locking_inv {s : DriverState} (h : Inv (s.addFree .locking)) :
    Inv (freeStep s .locking) := by
  have hopened : s.fOpenCount = s.handles + s.frees.countP FreePc.isEntered := by
    simpa using h.opened
  have hr : s.fRemoved = true := by
    cases hr : s.fRemoved with
    | false =>
      have hnone := (h.before hr).2
      simp at hnone
    | true => rfl
  have hone : s.owners + 1 + s.released = 1 := by simpa using h.after hr
  have h0 : s.released = 0 := by omega
  simp only [freeStep]
  rw [touch_eq (deletions_of_released h0)]
  refine .of_marked hr (h.count_release (by simpa using h0)) ?_ (h.marked.mp hr) h.live ?_ ?_
  · simpa [DriverState.release] using hopened
  · simp [DriverState.release]
  · have hreleased : s.release.released = s.released := rfl
    have howners : s.release.owners = s.owners := rfl
    simp [hreleased, howners]
    omega

/-- `delete`, after the entry is cleared. -/
theorem deleting_inv {s : DriverState} (h : Inv (s.addFree .deleting)) :
    Inv (freeStep s .deleting) := by
  have hopened : s.fOpenCount = s.handles + s.frees.countP FreePc.isEntered := by
    simpa using h.opened
  have hr : s.fRemoved = true := by
    cases hr : s.fRemoved with
    | false =>
      have hnone := (h.before hr).1
      simp at hnone
    | true => rfl
  have hone : s.owners + (s.released + 1) = 1 := by simpa using h.after hr
  have hlisted : ¬ s.gDeviceList[s.fSlotIndex] = .device := by
    intro hl
    have hl := h.listed.mp hl
    simp at hl
  have hd : s.deletions = 0 := deletions_of_released (by omega)
  have hreleased : s.delete.released = s.released + 1 := by
    simp only [DriverState.delete, DriverState.released]
    omega
  simp only [freeStep]
  rw [touch_eq hd]
  refine .of_marked hr h.counted hopened (h.marked.mp hr) h.live ?_ ?_
  · rw [hreleased]
    exact ⟨fun hl => absurd hl hlisted, fun h0 => by omega⟩
  · rw [hreleased]
    exact hone

theorem free_inv {s : DriverState} {k : Nat} {t : FreePc} {rest : List FreePc} (h : Inv s)
    (hp : pick s.frees k = some (t, rest)) : Inv (freeStep { s with frees := rest } t) := by
  have htaken : Inv (({ s with frees := rest } : DriverState).addFree t) := h.perm (pick_perm hp)
  cases t with
  | entered => exact entered_inv htaken
  | sawLast => exact sawLast_inv htaken
  | locking => exact locking_inv htaken
  | deleting => exact deleting_inv htaken

/-- A step of another device in a slot that is not this device's. -/
theorem Inv.other {s : DriverState} {list : Vector Entry kMaxDeviceCount} {n : UInt32} (h : Inv s)
    (hn : n = .ofNat (entries list))
    (hl : list[s.fSlotIndex] = .device ↔ s.gDeviceList[s.fSlotIndex] = .device) :
    Inv { s with gDeviceList := list, gDeviceCount := n } :=
  ⟨hn, h.opened, h.marked, h.live, hl.trans h.listed, h.before, h.after⟩

/-- Another device writes `e` to a slot that is not this device's. -/
theorem set_device {l : Vector Entry kMaxDeviceCount} {i j : Fin kMaxDeviceCount} {e : Entry}
    (hi : l[i] ≠ .device) (he : e ≠ .device) : (l.set i e)[j] = .device ↔ l[j] = .device := by
  by_cases hij : i = j
  · subst hij
    simpa [he] using hi
  · have hne : i.val ≠ j.val := fun h => hij (Fin.ext h)
    simp [hne]

theorem inv_step {s s' : DriverState} {e : Event} (h : Inv s) (hu : Unhurried s e)
    (hn : next s e = some s') : Inv s' := by
  cases e with
  | callRemoved =>
    simp only [next] at hn
    split at hn
    · rename_i hpc
      cases hn
      exact h.pending (by simp [hpc]) (by simp)
    · cases hn
  | removal => exact removal_inv h hu hn
  | openDevice ready =>
    cases hn
    exact open_inv h
  | callFree =>
    simp only [next] at hn
    split at hn
    · rename_i hpos
      cases hn
      exact h.callFree hpos
    · cases hn
  | free k =>
    simp only [next, Option.map_eq_some_iff] at hn
    obtain ⟨⟨t, rest⟩, hp, rfl⟩ := hn
    exact free_inv h hp
  | otherAdded =>
    simp only [next, Option.map_eq_some_iff] at hn
    obtain ⟨i, hi, rfl⟩ := hn
    have hnull := freeSlot_null hi
    refine h.other (count_fill h.counted hnull rfl) (set_device ?_ (by simp))
    rw [hnull]
    simp
  | otherReleased i =>
    simp only [next] at hn
    split at hn
    · rename_i hother
      cases hn
      refine h.other (count_clear h.counted ?_) (set_device ?_ (by simp))
      · rw [hother]
        rfl
      · rw [hother]
        simp
    · cases hn

/-- In every run in which the removal is never marked inside the window of a last `Free`, the
device lives and dies as it should. -/
theorem device_lifetime {others : Vector Bool kMaxDeviceCount} {slot : Fin kMaxDeviceCount}
    {es : List Event} {s : DriverState} (hu : Meets next Unhurried (.claimed others slot) es)
    (hr : run next (.claimed others slot) es = some s) : Lived s :=
  (run_invariant inv_step (inv_claimed others slot) hu hr).lived

/-- The device is unplugged while two handles are open; the second `Free` deletes it. -/
def unplugWhileOpen : List Event :=
  [.openDevice true, .openDevice true, .callRemoved, .removal, .removal, .callFree, .free 0,
    .callFree, .free 0, .free 0, .free 0, .free 0]

theorem device_lifetime_unplugWhileOpen :
    Meets next Unhurried (.claimed (.replicate 8 false) 0) unplugWhileOpen ∧
      ∃ s, run next (.claimed (.replicate 8 false) 0) unplugWhileOpen = some s ∧
        s.quiet = true ∧ s.deletions = 1 ∧ Lived s := by
  have hu : Meets next Unhurried (.claimed (.replicate 8 false) 0) unplugWhileOpen := by
    decide +kernel
  refine ⟨hu, ?_⟩
  cases hr : run next (.claimed (.replicate 8 false) 0) unplugWhileOpen with
  | none => exact absurd hr (by decide +kernel)
  | some s =>
    have hd : (run next (.claimed (.replicate 8 false) 0) unplugWhileOpen).map
        (fun s => (s.quiet, s.deletions)) = some (true, 1) := by decide +kernel
    rw [hr] at hd
    simp only [Option.map_some, Option.some.injEq, Prod.mk.injEq] at hd
    exact ⟨s, rfl, hd.1, hd.2, device_lifetime hu hr⟩

/-- The last handle is freed: its `Free` has decremented the count and not yet read `fRemoved` when
`DeviceRemoved` finds the device closed. Both delete it. -/
def unplugInsideFree : List Event :=
  [.openDevice true, .callFree, .free 0, .callRemoved, .removal, .removal, .free 0, .removal,
    .free 0, .free 0]

theorem device_lifetime_unplugInsideFree :
    ∃ s, run next (.claimed (.replicate 8 false) 0) unplugInsideFree = some s ∧
      s.deletions = 2 ∧ s.stale = true ∧ s.gDeviceCount.toNat ≠ entries s.gDeviceList := by
  decide +kernel

end Driver
end Rtl8814au
