import Mathlib.Data.Fin.Basic
import Mathlib.Logic.Function.Basic
import Mathlib.Tactic.Common

/-!
# Lib.Ring

Ring buffers over `Fin (m + 1)` with a head, the next slot to write, and a tail, the next to read.
One slot stays free: the ring is empty when the two meet, and full when the head is one behind.

* `offset base i` — how far slot `i` lies behind `base`; `offset tail head` is the number in use.
* `Marked p`      — exactly the slots in use satisfy `p`. `Marked.push` and `Marked.pop` keep it.
* `contents`      — the slots in use, oldest first; `contents_push`, `contents_pop`.
-/

namespace Ring

variable {m : Nat} {α : Type}

def offset (base i : Fin (m + 1)) : Nat := (i - base).val

theorem offset_eq (base i : Fin (m + 1)) :
    offset base i = if base ≤ i then i.val - base.val else m + 1 + i.val - base.val := by
  unfold offset
  split
  · rename_i h
    exact Fin.coe_sub_iff_le.mpr h
  · rename_i h
    exact Fin.coe_sub_iff_lt.mpr (Fin.not_le.mp h)

theorem offset_le (base i : Fin (m + 1)) : offset base i ≤ m := Nat.le_of_lt_succ (i - base).isLt

theorem offset_self (base : Fin (m + 1)) : offset base base = 0 := by simp [offset]

theorem offset_inj {base i j : Fin (m + 1)} : offset base i = offset base j ↔ i = j := by
  constructor
  · intro h
    have hi := i.isLt
    have hj := j.isLt
    have hb := base.isLt
    rw [offset_eq, offset_eq] at h
    simp only [Fin.le_def] at h
    refine Fin.ext ?_
    split at h <;> split at h <;> omega
  · intro h
    rw [h]

theorem offset_pos {base i : Fin (m + 1)} : 0 < offset base i ↔ i ≠ base := by
  rw [Nat.pos_iff_ne_zero, ← offset_self base, Ne, offset_inj]

theorem val_succ (i : Fin (m + 1)) : (i + 1).val = if i.val = m then 0 else i.val + 1 := by
  rw [Fin.val_add_one]
  simp only [Fin.ext_iff, Fin.val_last]

theorem succ_inj {i j : Fin (m + 1)} : i + 1 = j + 1 ↔ i = j := by
  have hi := i.isLt
  have hj := j.isLt
  simp only [Fin.ext_iff, val_succ]
  split <;> split <;> omega

theorem succ_ne (hm : 0 < m) (i : Fin (m + 1)) : i + 1 ≠ i := by
  have hi := i.isLt
  simp only [Ne, Fin.ext_iff, val_succ]
  split <;> omega

/-- The next slot is one further, unless it is the base. -/
theorem offset_succ {base i : Fin (m + 1)} (h : i + 1 ≠ base) :
    offset base (i + 1) = offset base i + 1 := by
  have hne : (i + 1).val ≠ base.val := fun he => h (Fin.ext he)
  have hi := i.isLt
  have hb := base.isLt
  rw [offset_eq, offset_eq]
  simp only [Fin.le_def, val_succ] at hne ⊢
  split at hne <;> split <;> split <;> split <;> omega

/-- Everything but the old base comes one nearer when the base moves on. -/
theorem offset_base_succ {base i : Fin (m + 1)} (h : i ≠ base) :
    offset (base + 1) i + 1 = offset base i := by
  have hne : i.val ≠ base.val := fun he => h (Fin.ext he)
  have hi := i.isLt
  have hb := base.isLt
  rw [offset_eq, offset_eq]
  simp only [Fin.le_def, val_succ]
  split <;> split <;> split <;> omega

/-- The slot behind the base is the farthest. -/
theorem offset_last (base : Fin (m + 1)) : offset (base + 1) base = m := by
  have hb := base.isLt
  rw [offset_eq]
  simp only [Fin.le_def, val_succ]
  split <;> split <;> omega

theorem offset_eq_last {base i : Fin (m + 1)} : offset base i = m ↔ i + 1 = base := by
  constructor
  · intro h
    by_contra hne
    have hnext := offset_succ hne
    have hle := offset_le base (i + 1)
    omega
  · intro h
    rw [← h]
    exact offset_last i

/-- Exactly the slots from the tail up to the head satisfy `p`. -/
def Marked (p : α → Prop) (slots : Fin (m + 1) → α) (head tail : Fin (m + 1)) : Prop :=
  ∀ i, p (slots i) ↔ offset tail i < offset tail head

namespace Marked

variable {p : α → Prop} {slots : Fin (m + 1) → α} {head tail : Fin (m + 1)} {x : α}

theorem init (h : ∀ i, ¬ p (slots i)) (tail : Fin (m + 1)) : Marked p slots tail tail := by
  intro i
  rw [offset_self]
  exact ⟨fun hp => absurd hp (h i), fun hlt => absurd hlt (Nat.not_lt_zero _)⟩

/-- There is something to read exactly if the tail is not at the head. -/
theorem tail_iff (h : Marked p slots head tail) : p (slots tail) ↔ 0 < offset tail head := by
  rw [h tail, offset_self]

theorem push (h : Marked p slots head tail) (hroom : head + 1 ≠ tail) (hx : p x) :
    Marked p (Function.update slots head x) (head + 1) tail := by
  intro i
  rw [offset_succ hroom]
  by_cases hi : i = head
  · subst hi
    rw [Function.update_self]
    exact ⟨fun _ => Nat.lt_succ_self _, fun _ => hx⟩
  · have hne : offset tail i ≠ offset tail head := fun he => hi (offset_inj.mp he)
    rw [Function.update_of_ne hi, h i]
    omega

theorem pop (h : Marked p slots head tail) (hsome : head ≠ tail) (hx : ¬ p x) :
    Marked p (Function.update slots tail x) head (tail + 1) := by
  intro i
  have hhead := offset_base_succ hsome
  have hle := offset_le tail head
  by_cases hi : i = tail
  · subst hi
    rw [Function.update_self, offset_last]
    exact ⟨fun hp => absurd hp hx, fun hlt => by omega⟩
  · have hnext := offset_base_succ hi
    rw [Function.update_of_ne hi, h i]
    omega

end Marked

/-! ## The slots in use -/

/-- `n` slots from `i` on. -/
def window (slots : Fin (m + 1) → α) : Fin (m + 1) → Nat → List α
  | _, 0 => []
  | i, n + 1 => slots i :: window slots (i + 1) n

/-- What is in the ring, oldest first. -/
def contents (slots : Fin (m + 1) → α) (head tail : Fin (m + 1)) : List α :=
  window slots tail (offset tail head)

@[simp] theorem length_window (slots : Fin (m + 1) → α) (i : Fin (m + 1)) (n : Nat) :
    (window slots i n).length = n := by
  induction n generalizing i with
  | zero => rfl
  | succ n ih => rw [window, List.length_cons, ih]

@[simp] theorem length_contents (slots : Fin (m + 1) → α) (head tail : Fin (m + 1)) :
    (contents slots head tail).length = offset tail head := length_window _ _ _

/-- A write behind the window does not show in it. -/
theorem window_update {slots : Fin (m + 1) → α} {j : Fin (m + 1)} {x : α} {n : Nat} :
    ∀ {i : Fin (m + 1)}, n ≤ offset i j → window (Function.update slots j x) i n = window slots i n := by
  induction n with
  | zero => exact fun _ => rfl
  | succ n ih =>
    intro i h
    have hne : j ≠ i := offset_pos.mp (by omega)
    have hnext := offset_base_succ hne
    rw [window, window, Function.update_of_ne hne.symm, ih (by omega)]

/-- The slot behind the window, added to it. -/
theorem window_succ {slots : Fin (m + 1) → α} {k : Fin (m + 1)} {n : Nat} :
    ∀ {i : Fin (m + 1)}, offset i k = n → window slots i (n + 1) = window slots i n ++ [slots k] := by
  induction n with
  | zero =>
    intro i h
    have hk : k = i := by
      by_contra hne
      exact absurd h (Nat.ne_of_gt (offset_pos.mpr hne))
    rw [hk]
    rfl
  | succ n ih =>
    intro i h
    have hne : k ≠ i := offset_pos.mp (by omega)
    have hnext := offset_base_succ hne
    rw [window, ih (by omega)]
    rfl

theorem contents_push {slots : Fin (m + 1) → α} {head tail : Fin (m + 1)} {x : α}
    (hroom : head + 1 ≠ tail) :
    contents (Function.update slots head x) (head + 1) tail = contents slots head tail ++ [x] := by
  rw [contents, offset_succ hroom, window_succ rfl, window_update (Nat.le_refl _),
    Function.update_self]
  rfl

theorem contents_pop {slots : Fin (m + 1) → α} {head tail : Fin (m + 1)} {x : α}
    (hsome : head ≠ tail) :
    contents slots head tail =
      slots tail :: contents (Function.update slots tail x) head (tail + 1) := by
  have hfar : offset (tail + 1) head ≤ offset (tail + 1) tail := by
    rw [offset_last]
    exact offset_le _ _
  rw [contents, contents, ← offset_base_succ hsome, window, window_update hfar]

end Ring
