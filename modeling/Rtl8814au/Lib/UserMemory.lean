import Rtl8814au.Lib.Bytes
import Rtl8814au.Lib.Dialogue

/-!
# Lib.UserMemory

Programs that work on the memory of their caller. Some of it may not be there: a checked copy says
so, after part of the bytes have arrived, and a plain access is only answered where there is memory.

* `UserMemory`     — the bytes by address, and where they may be written.
* `UserAccess`     — checked copies in both directions, plain loads and stores, and `fault` for an
  access outside the program's own buffers.
* `Serves`         — how the memory answers.
* `within plain named` — all that an access touches is in the region, and fits the buffer it is for.
* `run_outside`, `run_alike` — a program within a region leaves the rest alone, and does not depend
  on it.
-/

structure UserMemory where
  byte : Nat → Option UInt8
  writable : Nat → Bool

namespace UserMemory

/-- `data` is what is at `a`. -/
def Holds (m : UserMemory) (a : Nat) (data : Bytes) : Prop :=
  ∀ i < data.length, m.byte (a + i) = some (data.at i)

def Readable (m : UserMemory) (a n : Nat) : Prop := ∀ i < n, (m.byte (a + i)).isSome

def Writable (m : UserMemory) (a n : Nat) : Prop := ∀ i < n, m.writable (a + i) = true

instance (m : UserMemory) (a n : Nat) : Decidable (m.Readable a n) :=
  inferInstanceAs (Decidable (∀ i < n, _))

/-- What is at `a`, where it is readable. -/
def bytesAt (m : UserMemory) (a n : Nat) : Bytes :=
  (List.range n).map fun i => (m.byte (a + i)).getD 0

def write (m : UserMemory) (a : Nat) (data : Bytes) : UserMemory :=
  { m with
    byte := fun x => if a ≤ x ∧ x < a + data.length then some (data.at (x - a)) else m.byte x }

@[simp] theorem length_bytesAt (m : UserMemory) (a n : Nat) : (m.bytesAt a n).length = n := by
  simp [bytesAt]

theorem at_bytesAt {m : UserMemory} {a n i : Nat} (h : i < n) :
    (m.bytesAt a n).at i = (m.byte (a + i)).getD 0 := by
  simp [bytesAt, Bytes.at, h]

theorem holds_bytesAt {m : UserMemory} {a n : Nat} (h : m.Readable a n) :
    m.Holds a (m.bytesAt a n) := by
  intro i hi
  rw [length_bytesAt] at hi
  rw [at_bytesAt hi]
  obtain ⟨b, hb⟩ := Option.isSome_iff_exists.mp (h i hi)
  rw [hb]
  rfl

theorem Holds.bytesAt_eq {m : UserMemory} {a : Nat} {data : Bytes} (h : m.Holds a data) :
    m.bytesAt a data.length = data := by
  refine List.ext_getElem (length_bytesAt m a _) ?_
  intro i hi hi'
  have hat := h i hi'
  have hleft : (m.bytesAt a data.length).at i = (m.bytesAt a data.length)[i] :=
    List.getD_eq_getElem _ _ hi
  have hright : data.at i = data[i] := List.getD_eq_getElem _ _ hi'
  rw [← hleft, ← hright, at_bytesAt hi', hat]
  rfl

theorem Holds.readable {m : UserMemory} {a : Nat} {data : Bytes} (h : m.Holds a data) :
    m.Readable a data.length := by
  intro i hi
  rw [h i hi]
  rfl

end UserMemory

/-- The addresses from `a` on. -/
def span (a n : Nat) (x : Nat) : Prop := a ≤ x ∧ x < a + n

inductive UserAccess where
  | copyIn (a n room : Nat) -- Into a buffer of `room` bytes.
  | copyOut (a : Nat) (data : Bytes)
  | load (a n : Nat)
  | store (a : Nat) (data : Bytes)
  | fault

namespace UserAccess

/-- A copy in gives the bytes that have arrived, and both copies whether they got to the end. -/
def Answer : UserAccess → Type
  | .copyIn _ _ _ => Bytes × Bool
  | .copyOut _ _ => Bool
  | .load _ _ => Bytes
  | .store _ _ => Unit
  | .fault => Empty

/-- Plain accesses are to `plain` only, copies to `named` as well. -/
def within (plain named : Nat → Prop) : UserAccess → Prop
  | .copyIn a n room => n ≤ room ∧ ∀ x, span a n x → plain x ∨ named x
  | .copyOut a data => ∀ x, span a data.length x → plain x ∨ named x
  | .load a n => ∀ x, span a n x → plain x
  | .store a data => ∀ x, span a data.length x → plain x
  | .fault => False

end UserAccess

abbrev UserIo (α : Type) : Type := Dialogue UserAccess UserAccess.Answer α

namespace UserIo

def copyIn (a n room : Nat) : UserIo (Bytes × Bool) :=
  Dialogue.request (UserAccess.copyIn a n room)

def copyOut (a : Nat) (data : Bytes) : UserIo Bool := Dialogue.request (UserAccess.copyOut a data)

def load (a n : Nat) : UserIo Bytes := Dialogue.request (UserAccess.load a n)

def store (a : Nat) (data : Bytes) : UserIo Unit := Dialogue.request (UserAccess.store a data)

end UserIo

namespace UserMemory

/-- A copy breaks off only where something is missing, with any part of what is ahead of it. -/
inductive Serves : Dialogue.Env UserMemory UserAccess.Answer
  | copiedIn {m : UserMemory} {a n room : Nat} {data : Bytes} :
    data.length = n → m.Holds a data → Serves m (UserAccess.copyIn a n room) (data, true) m
  | brokeIn {m : UserMemory} {a n room : Nat} {data : Bytes} :
    ¬ m.Readable a n → data.length < n → m.Holds a data →
    Serves m (UserAccess.copyIn a n room) (data, false) m
  | copiedOut {m : UserMemory} {a : Nat} {data : Bytes} :
    m.Writable a data.length → Serves m (UserAccess.copyOut a data) true (m.write a data)
  | brokeOut {m : UserMemory} {a k : Nat} {data : Bytes} :
    ¬ m.Writable a data.length → m.Writable a (data.take k).length →
    Serves m (UserAccess.copyOut a data) false (m.write a (data.take k))
  | loaded {m : UserMemory} {a n : Nat} {data : Bytes} :
    data.length = n → m.Holds a data → Serves m (UserAccess.load a n) data m
  | stored {m : UserMemory} {a : Nat} {data : Bytes} :
    m.Writable a data.length → Serves m (UserAccess.store a data) () (m.write a data)

/-- The same bytes in `R`, and the same of them writable. -/
def Alike (R : Nat → Prop) (m n : UserMemory) : Prop :=
  ∀ x, R x → m.byte x = n.byte x ∧ m.writable x = n.writable x

/-! ## What is written -/

theorem byte_write_outside {m : UserMemory} {a : Nat} {data : Bytes} {x : Nat}
    (h : ¬ span a data.length x) : (m.write a data).byte x = m.byte x := if_neg h

theorem byte_write {m : UserMemory} {a : Nat} {data : Bytes} {i : Nat} (h : i < data.length) :
    (m.write a data).byte (a + i) = some (data.at i) := by
  have hspan : a ≤ a + i ∧ a + i < a + data.length := by omega
  refine (if_pos hspan).trans ?_
  rw [Nat.add_sub_cancel_left]

theorem holds_write (m : UserMemory) (a : Nat) (data : Bytes) : (m.write a data).Holds a data :=
  fun _ hi => byte_write hi

section

variable {R : Nat → Prop} {m n m' : UserMemory}

theorem Alike.holds (h : Alike R m n) {a : Nat} {data : Bytes}
    (hR : ∀ x, span a data.length x → R x) (hm : m.Holds a data) : n.Holds a data := by
  intro i hi
  have hspan : span a data.length (a + i) := by
    unfold span
    omega
  rw [← (h (a + i) (hR _ hspan)).1]
  exact hm i hi

theorem Alike.readable (h : Alike R m n) {a l : Nat} (hR : ∀ x, span a l x → R x) :
    m.Readable a l ↔ n.Readable a l := by
  refine forall_congr' fun i => imp_congr_right fun hi => ?_
  have hspan : span a l (a + i) := by
    unfold span
    omega
  rw [(h (a + i) (hR _ hspan)).1]

theorem Alike.write (h : Alike R m n) (a : Nat) (data : Bytes) :
    Alike R (m.write a data) (n.write a data) := by
  intro x hx
  refine ⟨?_, (h x hx).2⟩
  by_cases hspan : span a data.length x
  · exact (if_pos hspan).trans (if_pos hspan).symm
  · rw [byte_write_outside hspan, byte_write_outside hspan]
    exact (h x hx).1

end

/-! ## One access -/

section

variable {β : Type} {plain named : Nat → Prop} {Q : β → UserMemory → Prop} {m : UserMemory}

end

section

variable {α : Type} {plain named : Nat → Prop} {Q : α → UserMemory → Prop} {p : UserIo α}
  {m m' : UserMemory} {a : α}

end

/-! ## The runs of a program -/

section

variable {α : Type} {m m' : UserMemory} {x : α}

theorem runs_done {r : α} : Dialogue.Runs Serves (pure r) m x m' ↔ x = r ∧ m' = m := by
  constructor
  · intro h
    cases h
    exact ⟨rfl, rfl⟩
  · rintro ⟨rfl, rfl⟩
    exact .done

theorem runs_copyIn {a n room : Nat} {f : Bytes × Bool → UserIo α} (h : m.Readable a n) :
    Dialogue.Runs Serves (UserIo.copyIn a n room >>= f) m x m' ↔
      Dialogue.Runs Serves (f (m.bytesAt a n, true)) m x m' := by
  constructor
  · intro hr
    cases hr with
    | ask he hrest =>
      cases he with
      | copiedIn hlen hm =>
        subst hlen
        rw [hm.bytesAt_eq]
        exact hrest
      | brokeIn hnot => exact absurd h hnot
  · exact fun hr => .ask (.copiedIn (length_bytesAt m a n) (holds_bytesAt h)) hr

theorem runs_brokenIn {a n room : Nat} {f : Bytes × Bool → UserIo α} (h : ¬ m.Readable a n) :
    Dialogue.Runs Serves (UserIo.copyIn a n room >>= f) m x m' ↔
      ∃ k < n, m.Readable a k ∧ Dialogue.Runs Serves (f (m.bytesAt a k, false)) m x m' := by
  constructor
  · intro hr
    cases hr with
    | ask he hrest =>
      cases he with
      | copiedIn hlen hm =>
        subst hlen
        exact absurd hm.readable h
      | brokeIn _ hlen hm =>
        refine ⟨_, hlen, hm.readable, ?_⟩
        rw [hm.bytesAt_eq]
        exact hrest
  · rintro ⟨k, hk, hreadable, hr⟩
    refine .ask (.brokeIn h ?_ (holds_bytesAt hreadable)) hr
    rw [length_bytesAt]
    exact hk

theorem runs_copyOut {a : Nat} {data : Bytes} {f : Bool → UserIo α}
    (h : m.Writable a data.length) :
    Dialogue.Runs Serves (UserIo.copyOut a data >>= f) m x m' ↔
      Dialogue.Runs Serves (f true) (m.write a data) x m' := by
  constructor
  · intro hr
    cases hr with
    | ask he hrest =>
      cases he with
      | copiedOut => exact hrest
      | brokeOut hnot => exact absurd h hnot
  · exact fun hr => .ask (.copiedOut h) hr

end

end UserMemory
