import Mathlib.Logic.Basic

/-!
# Lib.Staged

A record of `n` words that is replaced one word at a time, from the last to the first, and whose first
word says whether it is valid.

* `stage old new k` — the words from `k` on are the new ones.
* `Mixed`           — the record is valid, and is neither the old one nor the new one.
* `mixed_stage`, `exists_mixed` — some stage is mixed exactly if the old record was valid and has two
  words that differ.
-/

namespace Staged

variable {α : Type}

def stage (old new : Nat → α) (k : Nat) : Nat → α := fun i => if k ≤ i then new i else old i

theorem stage_new {old new : Nat → α} {k i : Nat} (h : k ≤ i) : stage old new k i = new i := if_pos h

theorem stage_old {old new : Nat → α} {k i : Nat} (h : i < k) : stage old new k i = old i :=
  if_neg (Nat.not_le.mpr h)

def Mixed (valid : α → Bool) (n : Nat) (old new r : Nat → α) : Prop :=
  valid (r 0) = true ∧ (∃ i < n, r i ≠ old i) ∧ ∃ i < n, r i ≠ new i

/-- Two words of the record are not the same. -/
def DifferTwice (n : Nat) (old new : Nat → α) : Prop :=
  ∃ i j, i < j ∧ j < n ∧ old i ≠ new i ∧ old j ≠ new j

variable {valid : α → Bool} {n : Nat} {old new : Nat → α}

theorem mixed_stage {k : Nat} (h : Mixed valid n old new (stage old new k)) :
    valid (old 0) = true ∧ DifferTwice n old new := by
  obtain ⟨hvalid, ⟨j, hj, hnotOld⟩, i, hi, hnotNew⟩ := h
  have hjk : k ≤ j := Nat.not_lt.mp fun hlt => hnotOld (stage_old hlt)
  have hik : i < k := Nat.not_le.mp fun hle => hnotNew (stage_new hle)
  rw [stage_new hjk] at hnotOld
  rw [stage_old hik] at hnotNew
  rw [stage_old (Nat.lt_of_le_of_lt (Nat.zero_le i) hik)] at hvalid
  exact ⟨hvalid, i, j, Nat.lt_of_lt_of_le hik hjk, hj, hnotNew, hnotOld.symm⟩

/-- The later of the two words is written, and the earlier one is not. -/
theorem exists_mixed (hvalid : valid (old 0) = true) (h : DifferTwice n old new) :
    ∃ k < n, Mixed valid n old new (stage old new k) := by
  obtain ⟨i, j, hij, hj, hi', hj'⟩ := h
  have hpos : 0 < j := Nat.lt_of_le_of_lt (Nat.zero_le i) hij
  refine ⟨j, hj, ?_, ⟨j, hj, ?_⟩, i, Nat.lt_trans hij hj, ?_⟩
  · rw [stage_old hpos]
    exact hvalid
  · rw [stage_new (Nat.le_refl j)]
    exact hj'.symm
  · rw [stage_old hij]
    exact hi'

end Staged
