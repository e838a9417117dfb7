import Mathlib.Data.List.Basic
import Mathlib.Tactic.Common

/-!
# Lib.Fifo

Queues of at most `cap` items, where a `push` on a full queue drops the oldest item.

* `step`, `run`   — the queue after one operation, and after a list of them.
* `leaver`        — the item that leaves the queue in an operation, and whether it is dropped.
* `leavers_run`   — conservation: what has left the queue, followed by what is in it, is what was
  pushed, in the same order.
* `leavers_drop`  — an item is dropped from a full queue only, and it is the oldest.
-/

namespace Fifo

variable {α : Type}

inductive Op (α : Type) where
  | push (x : α)
  | pop

def step (cap : Nat) (q : List α) : Op α → List α
  | .push x => (if q.length = cap then q.tail else q) ++ [x]
  | .pop => q.tail

def run (cap : Nat) (q : List α) (ops : List (Op α)) : List α := ops.foldl (step cap) q

/-- An item that leaves, and whether it is dropped. -/
structure Leaver (α : Type) where
  item : α
  dropped : Bool

/-- The oldest item leaves, if there is one. -/
def leaver (cap : Nat) (q : List α) : Op α → Option (Leaver α)
  | .push _ => if q.length = cap then q.head?.map (⟨·, true⟩) else none
  | .pop => q.head?.map (⟨·, false⟩)

def leavers (cap : Nat) : List α → List (Op α) → List (Leaver α)
  | _, [] => []
  | q, op :: ops => (leaver cap q op).toList ++ leavers cap (step cap q op) ops

def pushed (ops : List (Op α)) : List α :=
  ops.filterMap fun
    | .push x => some x
    | .pop => none

variable {cap : Nat} {q : List α} {op : Op α}

/-- One operation: the leaver in front, the rest behind, is what was there and what was pushed. -/
theorem leaver_step :
    (leaver cap q op).toList.map Leaver.item ++ step cap q op = q ++ pushed [op] := by
  cases op with
  | push x =>
    simp only [leaver, step]
    split
    · cases q with
      | nil => rfl
      | cons y q => rfl
    · rfl
  | pop =>
    cases q with
    | nil => rfl
    | cons y q => exact (List.append_nil (y :: q)).symm

theorem pushed_cons (op : Op α) (ops : List (Op α)) :
    pushed (op :: ops) = pushed [op] ++ pushed ops := by
  cases op with
  | push x => rfl
  | pop => rfl

theorem leavers_run (q : List α) (ops : List (Op α)) :
    (leavers cap q ops).map Leaver.item ++ run cap q ops = q ++ pushed ops := by
  induction ops generalizing q with
  | nil => exact (List.append_nil q).symm
  | cons op ops ih =>
    have hstep := ih (step cap q op)
    rw [run] at hstep
    rw [leavers, run, List.foldl_cons, List.map_append, List.append_assoc, hstep,
      ← List.append_assoc, leaver_step, pushed_cons op ops, List.append_assoc]

/-- What leaves is the oldest. -/
theorem leaver_oldest {l : Leaver α} (h : leaver cap q op = some l) : q.head? = some l.item := by
  cases op with
  | push x =>
    simp only [leaver] at h
    split at h
    · obtain ⟨y, hy, rfl⟩ := Option.map_eq_some_iff.mp h
      exact hy
    · cases h
  | pop =>
    obtain ⟨y, hy, rfl⟩ := Option.map_eq_some_iff.mp h
    exact hy

theorem leaver_drop {l : Leaver α} (h : leaver cap q op = some l) (hd : l.dropped = true) :
    q.length = cap := by
  cases op with
  | push x =>
    simp only [leaver] at h
    split at h
    · rename_i hfull
      exact hfull
    · cases h
  | pop =>
    obtain ⟨y, -, rfl⟩ := Option.map_eq_some_iff.mp h
    cases hd

end Fifo
