import Mathlib.Logic.Function.Basic
import Rtl8814au.Driver.Lifetime
import Rtl8814au.RegisterIO.Access

/-!
# Driver.DeviceList

The devices of the driver and the paths it publishes for them, over any number of plugs, unplugs,
opens, closes and publications.

* `deviceAdded`, `deviceRemoved`, `openDevice`, `freeDevice`, `publishDevices` — the entry points, as
  far as they touch the list and the names.
* `slotOf`      — the slot that `Open` takes from a path.
* `Inv`         — every object has one slot, every slot in use one object, and the count is theirs.
* `Strings`     — every string of a name is in the array once, or was freed once.
* `Released`    — which steps free the strings, and that none is left when the driver is unloaded.
* `published_open` — every path that is published opens the device of its slot.
* `names_freed_once` — no string is lost or freed twice, nor left behind.
-/

namespace Rtl8814au
namespace DeviceList

open Lts
open Driver (kMaxDeviceCount)

/-- Characters of a C string. -/
abbrev CString := List Char

def RTL8814AU_DEVICE_PATH_BASE : CString := "net/rtl8814au".toList

/-- Vendor and product of the devices the driver knows. -/
def kSupportedDevices : List (UInt16 × UInt16) :=
  [(0x0b05, 0x1817), (0x7392, 0xa833), (0x0b05, 0x1852), (0x0846, 0x9054), (0x2001, 0x331a),
    (0x2357, 0x0106), (0x20f4, 0x809a), (0x056e, 0x400b), (0x056e, 0x400d)]

def B_ERROR : StatusCode := .other 0xFFFFFFFF

/-- A device object, as far as the list has to do with it. -/
structure Object where
  fSlotIndex : Fin kMaxDeviceCount
  fOpenCount : Nat
  fRemoved : Bool
deriving DecidableEq

/-- A string on the heap. -/
structure Name where
  address : Nat
  text : CString
deriving DecidableEq

structure State where
  objects : Nat → Option Object -- the live ones, by their addresses
  allocated : Nat -- addresses of objects given out so far
  gDeviceList : Vector (Option Nat) kMaxDeviceCount
  gDeviceCount : UInt32
  sDeviceNames : List (Option Name) -- from the start of the array; all behind is `NULL`
  duplicated : Nat -- addresses of strings given out so far
  freed : List Nat -- addresses of strings passed to `free`

def State.init : State where
  objects := fun _ => none
  allocated := 0
  gDeviceList := Vector.replicate kMaxDeviceCount none
  gDeviceCount := 0
  sDeviceNames := []
  duplicated := 0
  freed := []

/-! ## Plug and unplug -/

/-- The first slot that is `NULL`. -/
def freeSlot (l : Vector (Option Nat) kMaxDeviceCount) : Option (Fin kMaxDeviceCount) :=
  (List.finRange kMaxDeviceCount).find? fun i => (l.get i).isNone

/-- A new object in a slot. -/
def State.claim (s : State) (slotIndex : Fin kMaxDeviceCount) : State :=
  { s with
    objects := Function.update s.objects s.allocated (some ⟨slotIndex, 0, false⟩)
    allocated := s.allocated + 1
    gDeviceList := s.gDeviceList.set slotIndex.val (some s.allocated) slotIndex.isLt
    gDeviceCount := s.gDeviceCount + 1 }

/-- `descriptor` has the vendor and the product, `allocated` says whether there is memory for the
object, and `initCheck` is what its constructor comes to. The result has the cookie. -/
def deviceAdded (s : State) (descriptor : Option (UInt16 × UInt16)) (allocated : Bool)
    (initCheck : StatusCode) : State × StatusCode × Option Nat :=
  match descriptor with
  | none => (s, B_ERROR, none)
  | some ids =>
    if ids ∉ kSupportedDevices then (s, B_ERROR, none)
    else
      match freeSlot s.gDeviceList with
      | none => (s, .noMemory, none)
      | some slotIndex =>
        if !allocated then (s, .noMemory, none)
        else if initCheck ≠ .ok then ({ s with allocated := s.allocated + 1 }, initCheck, none)
        else (s.claim slotIndex, .ok, some s.allocated)

/-- The entry is cleared, the count taken down and the object deleted. -/
def State.drop (s : State) (device : Nat) (o : Object) : State :=
  { s with
    objects := Function.update s.objects device none
    gDeviceList := s.gDeviceList.set o.fSlotIndex.val none o.fSlotIndex.isLt
    gDeviceCount := s.gDeviceCount - 1 }

def State.put (s : State) (device : Nat) (o : Object) : State :=
  { s with objects := Function.update s.objects device (some o) }

def deviceRemoved (s : State) (device : Nat) (o : Object) : State :=
  if o.fOpenCount > 0 then s.put device { o with fRemoved := true } else s.drop device o

/-! ## Paths -/

def path (i : Fin kMaxDeviceCount) : CString := RTL8814AU_DEVICE_PATH_BASE ++ '/' :: Nat.toDigits 10 i.val

def findDevice (name : CString) : Bool :=
  name.take RTL8814AU_DEVICE_PATH_BASE.length = RTL8814AU_DEVICE_PATH_BASE

/-- What follows the last `c`. -/
def afterLast (c : Char) : CString → Option CString
  | [] => none
  | x :: xs =>
    match afterLast c xs with
    | some rest => some rest
    | none => if x = c then some xs else none

def isSpace (c : Char) : Bool := c.toNat = 32 || 9 ≤ c.toNat && c.toNat ≤ 13

/-- `ULONG_MAX`, which stands for a number that is too large. -/
def kULongMax : Nat := 2 ^ 64 - 1

/-- `strtoul` in base 10: blanks, a sign, and as many digits as there are. -/
def strtoul (text : CString) : Nat :=
  let text := text.dropWhile isSpace
  let negative := text.head? = some '-'
  let digits := (if text.head? = some '-' ∨ text.head? = some '+' then text.drop 1 else text).takeWhile
    Char.isDigit
  let value := digits.foldl (fun v c => 10 * v + (c.toNat - '0'.toNat)) 0
  if value > kULongMax then kULongMax
  else if negative then (2 ^ 64 - value) % 2 ^ 64
  else value

/-- The slot index is a `uint32`. -/
def slotOf (name : CString) : Option (Fin kMaxDeviceCount) :=
  (afterLast '/' name).bind fun indexStr =>
    let slotIndex := strtoul indexStr % 2 ^ 32
    if h : slotIndex < kMaxDeviceCount then some ⟨slotIndex, h⟩ else none

/-- `ready` is what the hardware's initialisation and the start of the receive path come to. -/
def openDevice (s : State) (name : CString) (ready : StatusCode) : State × StatusCode × Option Nat :=
  match slotOf name with
  | none => (s, .badValue, none)
  | some slotIndex =>
    match s.gDeviceList.get slotIndex with
    | none => (s, .badValue, none)
    | some device =>
      match s.objects device with
      | none => (s, .badValue, none)
      | some o =>
        if o.fRemoved then (s, .devNotReady, none)
        else if ready ≠ .ok then (s, ready, none)
        else (s.put device { o with fOpenCount := o.fOpenCount + 1 }, .ok, some device)

def freeDevice (s : State) (device : Nat) (o : Object) : State :=
  if o.fOpenCount = 1 && o.fRemoved then s.drop device o
  else s.put device { o with fOpenCount := o.fOpenCount - 1 }

/-! ## Publication -/

/-- The strings of the array. -/
def addresses (names : List (Option Name)) : List Nat := names.filterMap fun n => n.map Name.address

def freeNames (s : State) : State :=
  { s with sDeviceNames := [], freed := s.freed ++ addresses s.sDeviceNames }

/-- The loop over the slots; `dup` says whether `strdup` has memory for the path of a slot. -/
def nameSlots (list : Vector (Option Nat) kMaxDeviceCount) (dup : Fin kMaxDeviceCount → Bool) :
    List (Fin kMaxDeviceCount) → (address : Nat) → List (Option Name)
  | [], _ => []
  | i :: is, address =>
    if (list.get i).isNone then nameSlots list dup is address
    else if dup i then some ⟨address, path i⟩ :: nameSlots list dup is (address + 1)
    else none :: nameSlots list dup is address

def publishDevices (s : State) (dup : Fin kMaxDeviceCount → Bool) : State :=
  let s := freeNames s
  let names := nameSlots s.gDeviceList dup (List.finRange kMaxDeviceCount) s.duplicated
  { s with sDeviceNames := names, duplicated := s.duplicated + (addresses names).length }

/-- What the kernel sees of the array: the entries ahead of the first `NULL`. -/
def published (s : State) : List CString :=
  ((s.sDeviceNames.takeWhile Option.isSome).filterMap id).map Name.text

/-- No device is open when the driver is unloaded. -/
def uninitDriver (s : State) : State :=
  { freeNames s with
    objects := fun _ => none
    gDeviceList := Vector.replicate kMaxDeviceCount none
    gDeviceCount := 0 }

/-! ## Runs -/

inductive Event
  | deviceAdded (descriptor : Option (UInt16 × UInt16)) (allocated : Bool) (initCheck : StatusCode)
  | deviceRemoved (device : Nat) -- the cookie of a device that is still plugged in
  | openDevice (name : CString) (ready : StatusCode)
  | freeDevice (device : Nat) -- the cookie of a handle
  | publishDevices (dup : Fin kMaxDeviceCount → Bool)
  | uninitDriver

/-- No object is open. -/
def State.closed (s : State) : Bool :=
  (List.finRange kMaxDeviceCount).all fun i =>
    match (s.gDeviceList.get i).bind s.objects with
    | some o => o.fOpenCount = 0
    | none => true

def next (s : State) : Event → Option State
  | .deviceAdded descriptor allocated initCheck => some (deviceAdded s descriptor allocated initCheck).1
  | .deviceRemoved device =>
    match s.objects device with
    | some o => if o.fRemoved then none else some (deviceRemoved s device o)
    | none => none
  | .openDevice name ready => some (openDevice s name ready).1
  | .freeDevice device =>
    match s.objects device with
    | some o => if 0 < o.fOpenCount then some (freeDevice s device o) else none
    | none => none
  | .publishDevices dup => some (publishDevices s dup)
  | .uninitDriver => if s.closed then some (uninitDriver s) else none

/-! ## The list -/

/-- The slots in use, in their order. -/
def used (l : Vector (Option Nat) kMaxDeviceCount) : List (Fin kMaxDeviceCount) :=
  (List.finRange kMaxDeviceCount).filter fun i => (l.get i).isSome

structure Inv (s : State) : Prop where
  listed : ∀ (i : Fin kMaxDeviceCount) device, s.gDeviceList.get i = some device →
    ∃ o, s.objects device = some o ∧ o.fSlotIndex = i
  live : ∀ device o, s.objects device = some o → s.gDeviceList.get o.fSlotIndex = some device
  fresh : ∀ device o, s.objects device = some o → device < s.allocated
  counted : s.gDeviceCount = .ofNat (used s.gDeviceList).length
  removed : ∀ device o, s.objects device = some o → o.fRemoved = true → 0 < o.fOpenCount

theorem inv_init : Inv .init where
  listed i device h := by
    have hnone : State.init.gDeviceList.get i = none := Vector.getElem_replicate i.isLt
    rw [hnone] at h
    cases h
  live _ _ h := nomatch h
  fresh _ _ h := nomatch h
  counted := by decide
  removed _ _ h := nomatch h

theorem toList_eq (l : Vector (Option Nat) kMaxDeviceCount) :
    l.toList = (List.finRange kMaxDeviceCount).map fun i => l.get i := by
  refine List.ext_getElem (by simp) fun i hi hi' => ?_
  simp only [Vector.getElem_toList, List.getElem_map, List.getElem_finRange]
  rfl

theorem used_length (l : Vector (Option Nat) kMaxDeviceCount) :
    (used l).length = l.countP Option.isSome := by
  rw [used, ← List.countP_eq_length_filter, ← Vector.countP_toList, toList_eq, List.countP_map]
  rfl

theorem used_set {l : Vector (Option Nat) kMaxDeviceCount} {i : Fin kMaxDeviceCount} {x : Option Nat} :
    (used (l.set i.val x i.isLt)).length + (if (l.get i).isSome then 1 else 0) =
      (used l).length + if x.isSome then 1 else 0 := by
  have hset : (l.set i.val x i.isLt).countP Option.isSome =
      l.countP Option.isSome - (if (l.get i).isSome then 1 else 0) + if x.isSome then 1 else 0 :=
    Vector.countP_set i.isLt
  have hle : (if (l.get i).isSome then 1 else 0) ≤ l.countP Option.isSome :=
    Vector.boole_getElem_le_countP i.isLt
  rw [used_length, used_length]
  omega

theorem freeSlot_none {l : Vector (Option Nat) kMaxDeviceCount} {i : Fin kMaxDeviceCount}
    (h : freeSlot l = some i) : l.get i = none := by
  have := List.find?_some h
  simpa using this

theorem get_set {l : Vector (Option Nat) kMaxDeviceCount} {i j : Fin kMaxDeviceCount} {x : Option Nat} :
    (l.set i.val x i.isLt).get j = if i = j then x else l.get j := by
  have h : (l.set i.val x i.isLt).get j = if i.val = j.val then x else l.get j :=
    Vector.getElem_set i.isLt j.isLt
  simp only [h, Fin.ext_iff]

section

variable {s : State} {device device' : Nat} {o o' : Object} {i j : Fin kMaxDeviceCount}

theorem objects_claim : (s.claim i).objects device =
    if device = s.allocated then some ⟨i, 0, false⟩ else s.objects device := Function.update_apply ..

theorem list_claim :
    (s.claim i).gDeviceList.get j = if i = j then some s.allocated else s.gDeviceList.get j := get_set

theorem objects_drop : (s.drop device o).objects device' =
    if device' = device then none else s.objects device' := Function.update_apply ..

theorem list_drop :
    (s.drop device o).gDeviceList.get j = if o.fSlotIndex = j then none else s.gDeviceList.get j := get_set

theorem objects_put : (s.put device o).objects device' =
    if device' = device then some o else s.objects device' := Function.update_apply ..

/-- One object for each slot. -/
theorem Inv.slot_inj (h : Inv s) (ho : s.objects device = some o) (ho' : s.objects device' = some o')
    (heq : o.fSlotIndex = o'.fSlotIndex) : device = device' := by
  have hget : s.gDeviceList.get o.fSlotIndex = s.gDeviceList.get o'.fSlotIndex :=
    congrArg (fun i : Fin kMaxDeviceCount => s.gDeviceList.get i) heq
  rw [h.live device o ho, h.live device' o' ho'] at hget
  exact Option.some.inj hget

theorem Inv.claim (h : Inv s) (hfree : freeSlot s.gDeviceList = some i) : Inv (s.claim i) where
  listed := by
    intro j device hj
    rw [list_claim] at hj
    split at hj
    · rename_i heq
      cases hj
      exact ⟨⟨i, 0, false⟩, by rw [objects_claim, if_pos rfl], heq⟩
    · obtain ⟨o, ho, hslot⟩ := h.listed j device hj
      exact ⟨o, by rw [objects_claim, if_neg (Nat.ne_of_lt (h.fresh device o ho)), ho], hslot⟩
  live := by
    intro device o ho
    rw [objects_claim] at ho
    rw [list_claim]
    split at ho
    · rename_i heq
      cases ho
      rw [if_pos rfl, heq]
    · have hlisted := h.live device o ho
      split
      · rename_i heq
        subst heq
        rw [freeSlot_none hfree] at hlisted
        cases hlisted
      · exact hlisted
  fresh := by
    intro device o ho
    rw [objects_claim] at ho
    split at ho
    · rename_i heq
      rw [heq]
      exact Nat.lt_succ_self _
    · exact Nat.lt_succ_of_lt (h.fresh device o ho)
  counted := by
    have hset := used_set (l := s.gDeviceList) (i := i) (x := some s.allocated)
    rw [freeSlot_none hfree] at hset
    show s.gDeviceCount + 1 = .ofNat (used (s.gDeviceList.set i.val (some s.allocated) i.isLt)).length
    rw [h.counted]
    refine Eq.trans ?_ (congrArg UInt32.ofNat hset.symm)
    rw [UInt32.ofNat_add]
    rfl
  removed := by
    intro device o ho hremoved
    rw [objects_claim] at ho
    split at ho
    · cases ho
      cases hremoved
    · exact h.removed device o ho hremoved

theorem Inv.drop (h : Inv s) (ho : s.objects device = some o) : Inv (s.drop device o) where
  listed := by
    intro j device' hj
    rw [list_drop] at hj
    split at hj
    · cases hj
    · rename_i hne
      obtain ⟨o', ho', hslot⟩ := h.listed j device' hj
      have hother : device' ≠ device := by
        rintro rfl
        rw [ho] at ho'
        cases ho'
        exact hne hslot
      exact ⟨o', by rw [objects_drop, if_neg hother, ho'], hslot⟩
  live := by
    intro device' o' ho'
    rw [objects_drop] at ho'
    split at ho'
    · cases ho'
    · rename_i hother
      rw [list_drop, if_neg fun heq => hother (h.slot_inj ho' ho heq.symm)]
      exact h.live device' o' ho'
  fresh := by
    intro device' o' ho'
    rw [objects_drop] at ho'
    split at ho'
    · cases ho'
    · exact h.fresh device' o' ho'
  counted := by
    have hset := used_set (l := s.gDeviceList) (i := o.fSlotIndex) (x := none)
    rw [h.live device o ho] at hset
    show s.gDeviceCount - 1 = .ofNat (used (s.gDeviceList.set o.fSlotIndex.val none o.fSlotIndex.isLt)).length
    have hcount : s.gDeviceCount =
        .ofNat ((used (s.gDeviceList.set o.fSlotIndex.val none o.fSlotIndex.isLt)).length + 1) :=
      h.counted.trans (congrArg UInt32.ofNat hset.symm)
    rw [hcount, UInt32.ofNat_add]
    exact UInt32.add_sub_cancel _ _
  removed := by
    intro device' o' ho' hremoved
    rw [objects_drop] at ho'
    split at ho'
    · cases ho'
    · exact h.removed device' o' ho' hremoved

/-- A change of an object that stays where it is. -/
theorem Inv.put (h : Inv s) (ho : s.objects device = some o) (hslot : o'.fSlotIndex = o.fSlotIndex)
    (hremoved : o'.fRemoved = true → 0 < o'.fOpenCount) : Inv (s.put device o') where
  listed := by
    intro j device' hj
    obtain ⟨o₁, ho₁, hj'⟩ := h.listed j device' hj
    rw [objects_put]
    split
    · rename_i heq
      rw [heq, ho] at ho₁
      cases ho₁
      exact ⟨o', rfl, hslot.trans hj'⟩
    · exact ⟨o₁, ho₁, hj'⟩
  live := by
    intro device' o₁ ho₁
    rw [objects_put] at ho₁
    split at ho₁
    · rename_i heq
      cases ho₁
      have hget : s.gDeviceList.get o'.fSlotIndex = s.gDeviceList.get o.fSlotIndex :=
        congrArg (fun i : Fin kMaxDeviceCount => s.gDeviceList.get i) hslot
      rw [heq]
      exact hget.trans (h.live device o ho)
    · exact h.live device' o₁ ho₁
  fresh := by
    intro device' o₁ ho₁
    rw [objects_put] at ho₁
    split at ho₁
    · rename_i heq
      rw [heq]
      exact h.fresh _ o ho
    · exact h.fresh device' o₁ ho₁
  counted := h.counted
  removed := by
    intro device' o₁ ho₁ hr
    rw [objects_put] at ho₁
    split at ho₁
    · cases ho₁
      exact hremoved hr
    · exact h.removed device' o₁ ho₁ hr

end

theorem inv_step {s s' : State} {e : Event} (h : Inv s) (hs : next s e = some s') : Inv s' := by
  cases e with
  | deviceAdded descriptor allocated initCheck =>
    obtain rfl := Option.some.inj hs
    unfold deviceAdded
    split
    · exact h
    · split
      · exact h
      · split
        · exact h
        · rename_i hfree
          split
          · exact h
          · split
            · exact { h with fresh := fun device o ho => Nat.lt_succ_of_lt (h.fresh device o ho) }
            · exact h.claim hfree
  | deviceRemoved device =>
    simp only [next] at hs
    split at hs
    · rename_i o ho
      split at hs
      · cases hs
      · obtain rfl := Option.some.inj hs
        unfold deviceRemoved
        split
        · rename_i hopen
          exact h.put ho rfl fun _ => hopen
        · exact h.drop ho
    · cases hs
  | openDevice name ready =>
    obtain rfl := Option.some.inj hs
    unfold openDevice
    split
    · exact h
    · split
      · exact h
      · split
        · exact h
        · rename_i ho
          split
          · exact h
          · split
            · exact h
            · exact h.put ho rfl fun _ => Nat.succ_pos _
  | freeDevice device =>
    simp only [next] at hs
    split at hs
    · rename_i o ho
      split at hs
      · rename_i hopen
        obtain rfl := Option.some.inj hs
        unfold freeDevice
        split
        · exact h.drop ho
        · rename_i hlast
          refine h.put ho rfl fun hr => ?_
          have hmore : o.fOpenCount ≠ 1 := by
            intro hone
            simp [hone, show o.fRemoved = true from hr] at hlast
          show 0 < o.fOpenCount - 1
          omega
      · cases hs
    · cases hs
  | publishDevices dup =>
    obtain rfl := Option.some.inj hs
    exact { h with }
  | uninitDriver =>
    simp only [next] at hs
    split at hs
    · obtain rfl := Option.some.inj hs
      exact {
        listed := inv_init.listed
        live := nofun
        fresh := nofun
        counted := inv_init.counted
        removed := nofun }
    · cases hs

/-! ## The paths -/

theorem slotOf_path : ∀ i : Fin kMaxDeviceCount, slotOf (path i) = some i := by decide

theorem findDevice_path : ∀ i : Fin kMaxDeviceCount, findDevice (path i) = true := by decide

/-- The kernel sees the slots in use up to the first whose path could not be copied. -/
theorem published_names {list : Vector (Option Nat) kMaxDeviceCount}
    {dup : Fin kMaxDeviceCount → Bool} {is : List (Fin kMaxDeviceCount)} {address : Nat} :
    (((nameSlots list dup is address).takeWhile Option.isSome).filterMap id).map Name.text =
      ((is.filter fun i => (list.get i).isSome).takeWhile dup).map path := by
  induction is generalizing address with
  | nil => rfl
  | cons i is ih =>
    rw [nameSlots]
    cases hi : list.get i with
    | none =>
      rw [if_pos Option.isNone_none, List.filter_cons_of_neg (by simp [hi])]
      exact ih
    | some device =>
      rw [if_neg (by simp), List.filter_cons_of_pos (by simp [hi])]
      cases hd : dup i with
      | true =>
        rw [if_pos rfl, List.takeWhile_cons_of_pos rfl, List.takeWhile_cons_of_pos hd]
        simpa using ih
      | false =>
        rw [if_neg (by simp), List.takeWhile_cons_of_neg (by simp),
          List.takeWhile_cons_of_neg (by simp [hd])]
        rfl

/-- What the list and the paths are good for. -/
structure Served (s : State) : Prop where
  counted : s.gDeviceCount.toNat = (used s.gDeviceList).length
  once : ∀ device o, s.objects device = some o →
    ∀ i, s.gDeviceList.get i = some device ↔ i = o.fSlotIndex
  published : ∀ dup, published (publishDevices s dup) =
    ((used s.gDeviceList).takeWhile dup).map path
  opened : ∀ i device, s.gDeviceList.get i = some device → ∃ o, s.objects device = some o ∧
    findDevice (path i) = true ∧ slotOf (path i) = some i ∧
    openDevice s (path i) .ok =
      if o.fRemoved then (s, .devNotReady, none)
      else (s.put device { o with fOpenCount := o.fOpenCount + 1 }, .ok, some device)
  closed : ∀ i, s.gDeviceList.get i = none → ∀ ready,
    openDevice s (path i) ready = (s, .badValue, none)

theorem Inv.served {s : State} (h : Inv s) : Served s where
  counted := by
    have hle : (used s.gDeviceList).length ≤ (List.finRange kMaxDeviceCount).length :=
      List.length_filter_le ..
    rw [List.length_finRange] at hle
    rw [h.counted]
    exact UInt32.toNat_ofNat_of_lt' (Nat.lt_of_le_of_lt hle (by decide))
  once := by
    intro device o ho i
    constructor
    · intro hi
      obtain ⟨o', ho', hslot⟩ := h.listed i device hi
      rw [ho] at ho'
      cases ho'
      exact hslot.symm
    · rintro rfl
      exact h.live device o ho
  published dup := published_names
  opened := by
    intro i device hi
    obtain ⟨o, ho, -⟩ := h.listed i device hi
    refine ⟨o, ho, findDevice_path i, slotOf_path i, ?_⟩
    simp only [openDevice, slotOf_path, hi, ho]
    split <;> simp
  closed := by
    intro i hi ready
    simp only [openDevice, slotOf_path, hi]

/-- In every run the entries of the list are the live objects, the count is their number, the paths
that are published are those of the slots in use, and each opens the object of its slot. -/
theorem published_open (es : List Event) : Always next Served .init es :=
  always_mono Inv.served (always_of_step inv_step inv_init)

/-! ## The strings -/

/-- Every string is in the array once, or was freed once; the array has room for them and for the
`NULL` at their end. -/
structure Strings (s : State) : Prop where
  once : ∀ address, (addresses s.sDeviceNames).count address + s.freed.count address =
    if address < s.duplicated then 1 else 0
  room : s.sDeviceNames.length < kMaxDeviceCount + 1

theorem nameSlots_length {list : Vector (Option Nat) kMaxDeviceCount}
    {dup : Fin kMaxDeviceCount → Bool} {is : List (Fin kMaxDeviceCount)} {address : Nat} :
    (nameSlots list dup is address).length ≤ is.length := by
  induction is generalizing address with
  | nil => exact Nat.le_refl _
  | cons i is ih =>
    rw [nameSlots]
    split
    · exact Nat.le_succ_of_le ih
    · split <;> exact Nat.succ_le_succ ih

theorem addresses_nameSlots {list : Vector (Option Nat) kMaxDeviceCount}
    {dup : Fin kMaxDeviceCount → Bool} {is : List (Fin kMaxDeviceCount)} {address : Nat} :
    addresses (nameSlots list dup is address) =
      List.range' address (addresses (nameSlots list dup is address)).length := by
  induction is generalizing address with
  | nil => rfl
  | cons i is ih =>
    rw [nameSlots]
    split
    · exact ih
    · split
      · exact congrArg (address :: ·) ih
      · exact ih

theorem count_range' {start length address : Nat} :
    (List.range' start length).count address =
      if start ≤ address ∧ address < start + length then 1 else 0 := by
  have hnodup : (List.range' start length).Nodup := List.nodup_range' ..
  rw [hnodup.count]
  simp only [List.mem_range'_1]

theorem Strings.freeNames {s : State} (h : Strings s) : Strings (freeNames s) where
  once address := by
    have hs := h.once address
    simp only [DeviceList.freeNames, List.count_append]
    exact (Nat.zero_add _).trans ((Nat.add_comm _ _).trans hs)
  room := Nat.succ_pos _

theorem Strings.publishDevices {s : State} (h : Strings s) (dup : Fin kMaxDeviceCount → Bool) :
    Strings (publishDevices s dup) where
  once address := by
    have hs : 0 + (DeviceList.freeNames s).freed.count address =
        if address < s.duplicated then 1 else 0 := h.freeNames.once address
    have hnew : addresses (DeviceList.publishDevices s dup).sDeviceNames =
        List.range' s.duplicated (addresses (DeviceList.publishDevices s dup).sDeviceNames).length :=
      addresses_nameSlots
    have hdup : (DeviceList.publishDevices s dup).duplicated =
        s.duplicated + (addresses (DeviceList.publishDevices s dup).sDeviceNames).length := rfl
    have hfreed : (DeviceList.publishDevices s dup).freed = (DeviceList.freeNames s).freed := rfl
    rw [hnew, count_range', hfreed, hdup]
    split <;> split <;> split at hs <;> omega
  room := Nat.lt_succ_of_le (nameSlots_length.trans_eq List.length_finRange)

/-- The events that free what is in the array. -/
def frees : Event → Bool
  | .publishDevices _ | .uninitDriver => true
  | .deviceAdded _ _ _ | .deviceRemoved _ | .openDevice _ _ | .freeDevice _ => false

/-- What the other events leave as it was. -/
structure Kept (s s' : State) : Prop where
  names : s'.sDeviceNames = s.sDeviceNames
  freed : s'.freed = s.freed
  duplicated : s'.duplicated = s.duplicated

theorem kept_step {s s' : State} {e : Event} (hs : next s e = some s') (he : frees e = false) :
    Kept s s' := by
  cases e with
  | deviceAdded descriptor allocated initCheck =>
    obtain rfl := Option.some.inj hs
    unfold deviceAdded
    repeat' split
    all_goals exact ⟨rfl, rfl, rfl⟩
  | deviceRemoved device =>
    simp only [next] at hs
    split at hs
    · split at hs
      · cases hs
      · obtain rfl := Option.some.inj hs
        unfold deviceRemoved
        split <;> exact ⟨rfl, rfl, rfl⟩
    · cases hs
  | openDevice name ready =>
    obtain rfl := Option.some.inj hs
    unfold openDevice
    repeat' split
    all_goals exact ⟨rfl, rfl, rfl⟩
  | freeDevice device =>
    simp only [next] at hs
    split at hs
    · split at hs
      · obtain rfl := Option.some.inj hs
        unfold freeDevice
        split <;> exact ⟨rfl, rfl, rfl⟩
      · cases hs
    · cases hs
  | publishDevices dup => cases he
  | uninitDriver => cases he

theorem next_uninitDriver {s s' : State} (hs : next s .uninitDriver = some s') :
    s' = uninitDriver s := by
  simp only [next] at hs
  split at hs
  · exact (Option.some.inj hs).symm
  · cases hs

theorem Strings.uninitDriver {s : State} (h : Strings s) : Strings (uninitDriver s) :=
  { h.freeNames with }

theorem strings_step {s s' : State} {e : Event} (h : Strings s) (hs : next s e = some s') :
    Strings s' := by
  cases he : frees e with
  | false =>
    obtain ⟨hnames, hfreed, hduplicated⟩ := kept_step hs he
    constructor
    · rw [hnames, hfreed, hduplicated]
      exact h.once
    · rw [hnames]
      exact h.room
  | true =>
    cases e with
    | publishDevices dup =>
      obtain rfl := Option.some.inj hs
      exact h.publishDevices dup
    | uninitDriver => exact next_uninitDriver hs ▸ h.uninitDriver
    | _ => cases he

/-- The next publication or the unloading frees what is in the array, and no other event does. When
the driver is unloaded nothing is in it, and all strings that were ever copied have been freed. -/
structure Released (s : State) : Prop extends Strings s where
  kept : ∀ e s', next s e = some s' → frees e = false →
    s'.sDeviceNames = s.sDeviceNames ∧ s'.freed = s.freed
  replaced : ∀ e s', next s e = some s' → frees e = true →
    s'.freed = s.freed ++ addresses s.sDeviceNames
  unloaded : ∀ s', next s .uninitDriver = some s' →
    s'.sDeviceNames = [] ∧ ∀ address < s'.duplicated, s'.freed.count address = 1

theorem Strings.released {s : State} (h : Strings s) : Released s where
  toStrings := h
  kept e s' hs he := ⟨(kept_step hs he).names, (kept_step hs he).freed⟩
  replaced := by
    intro e s' hs he
    cases e with
    | publishDevices dup =>
      obtain rfl := Option.some.inj hs
      rfl
    | uninitDriver =>
      rw [next_uninitDriver hs]
      rfl
    | _ => cases he
  unloaded := by
    intro s' hs
    obtain rfl := next_uninitDriver hs
    refine ⟨rfl, fun address hlt => ?_⟩
    have honce := h.uninitDriver.once address
    rw [if_pos hlt] at honce
    exact (Nat.zero_add _).symm.trans honce

/-- In every run no string is lost or freed twice, the array is never overrun, and an unloaded driver
has left no string behind. -/
theorem names_freed_once (es : List Event) : Always next Released .init es := by
  refine always_mono Strings.released (always_of_step strings_step ⟨fun address => ?_, Nat.succ_pos _⟩)
  rfl

end DeviceList
end Rtl8814au
