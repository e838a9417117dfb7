import Mathlib.Algebra.BigOperators.Group.List.Basic
import Mathlib.Data.Nat.Bitwise
import Mathlib.Tactic.Ring

/-!
# Lib.Fields

Bit fields of a machine word.

* `extract mask shift x` — `(x & mask) >> shift`; `extract_eq` gives it as arithmetic when the mask
  is a run of `w` ones at `shift`.
* `field mask shift v`   — `(v << shift) & mask`, a field of a word that is built with `|`.
* `pack`                 — a word laid out field by field from bit 0, each with its width;
  `pack_field` reads any of them back.
* `merge w mask x v`     — `(x & ~mask) | (v & mask)` on words of `w` bits; `testBit_merge` says it bit
  by bit, `merge_and` and `merge_and_disjoint` by what other masks take from it.
-/

namespace Fields

def extract (mask shift x : Nat) : Nat := (x &&& mask) >>> shift

/-- `(x & mask) != 0`. -/
def flag (mask x : Nat) : Bool := x &&& mask ≠ 0

/-- The fields `(width, value)` of a word, from bit 0 up. -/
def pack : List (Nat × Nat) → Nat
  | [] => 0
  | (w, v) :: fs => v % 2 ^ w + 2 ^ w * pack fs

def width (fs : List (Nat × Nat)) : Nat := (fs.map Prod.fst).sum

theorem extract_eq {mask shift w : Nat} (h : mask = (2 ^ w - 1) <<< shift) (x : Nat) :
    extract mask shift x = x / 2 ^ shift % 2 ^ w := by
  rw [extract, h, Nat.shiftRight_and_distrib, Nat.shiftLeft_shiftRight,
    Nat.and_two_pow_sub_one_eq_mod, Nat.shiftRight_eq_div_pow]

theorem flag_eq {mask bit : Nat} (h : mask = 1 <<< bit) (x : Nat) :
    flag mask x = decide (x / 2 ^ bit % 2 ^ 1 = 1) := by
  rw [flag, h, Nat.one_shiftLeft, Nat.and_two_pow, Nat.testBit_eq_decide_div_mod_eq]
  by_cases h : x / 2 ^ bit % 2 = 1 <;> simp [h]

theorem pack_lt (fs : List (Nat × Nat)) : pack fs < 2 ^ width fs := by
  induction fs with
  | nil => simp [pack, width]
  | cons f fs ih =>
    obtain ⟨w, v⟩ := f
    have hv := Nat.mod_lt v (Nat.two_pow_pos w)
    have hw : width ((w, v) :: fs) = w + width fs := by simp [width]
    have := Nat.mul_le_mul_left (2 ^ w) (Nat.succ_le_of_lt ih)
    rw [hw, Nat.pow_add, pack]
    rw [Nat.mul_succ] at this
    omega

theorem pack_append (lo hi : List (Nat × Nat)) :
    pack (lo ++ hi) = pack lo + 2 ^ width lo * pack hi := by
  induction lo with
  | nil => simp [pack, width]
  | cons f lo ih =>
    obtain ⟨w, v⟩ := f
    have hw : width ((w, v) :: lo) = w + width lo := by simp [width]
    rw [List.cons_append, pack, pack, ih, hw, Nat.pow_add]
    ring

/-- Field `k` of a word. -/
theorem pack_field {l : List (Nat × Nat)} {k w v : Nat} (hk : l[k]? = some (w, v)) :
    pack l / 2 ^ width (l.take k) % 2 ^ w = v % 2 ^ w := by
  obtain ⟨hlt, hget⟩ := List.getElem?_eq_some_iff.mp hk
  have hsplit : l = l.take k ++ (w, v) :: l.drop (k + 1) := by
    rw [← hget, List.cons_getElem_drop_succ, List.take_append_drop]
  have hpack : pack l =
      pack (l.take k) + 2 ^ width (l.take k) * pack ((w, v) :: l.drop (k + 1)) := by
    rw [← pack_append, ← hsplit]
  rw [hpack, Nat.add_mul_div_left _ _ (Nat.two_pow_pos _), Nat.div_eq_of_lt (pack_lt _),
    Nat.zero_add, pack, Nat.add_mul_mod_self_left, Nat.mod_mod]

theorem extract_pack {l : List (Nat × Nat)} {k w v mask shift : Nat}
    (hk : l[k]? = some (w, v)) (hs : width (l.take k) = shift)
    (hm : mask = (2 ^ w - 1) <<< shift) (hv : v < 2 ^ w) : extract mask shift (pack l) = v := by
  rw [extract_eq hm, ← hs, pack_field hk, Nat.mod_eq_of_lt hv]

theorem flag_pack {l : List (Nat × Nat)} {k mask bit : Nat} {v : Bool}
    (hk : l[k]? = some (1, v.toNat)) (hs : width (l.take k) = bit) (hm : mask = 1 <<< bit) :
    flag mask (pack l) = v := by
  rw [flag_eq hm, ← hs, pack_field hk]
  cases v <;> rfl

/-! ## Words built field by field -/

def field (mask shift v : Nat) : Nat := (v <<< shift) &&& mask

theorem extract_or (mask shift x y : Nat) :
    extract mask shift (x ||| y) = extract mask shift x ||| extract mask shift y := by
  rw [extract, Nat.and_or_distrib_right, Nat.shiftRight_or_distrib]
  rfl

theorem flag_or (mask x y : Nat) : flag mask (x ||| y) = (flag mask x || flag mask y) := by
  unfold flag
  rw [Nat.and_or_distrib_right]
  by_cases hx : x &&& mask = 0 <;> by_cases hy : y &&& mask = 0 <;> simp [hx, hy]

theorem or_and_self (v bits : Nat) : (v ||| bits) &&& bits = bits := by
  rw [Nat.and_or_distrib_right, Nat.and_self]
  refine Nat.eq_of_testBit_eq fun i => ?_
  rw [Nat.testBit_or, Nat.testBit_and]
  cases bits.testBit i with
  | false => rw [Bool.and_false]; rfl
  | true => rw [Bool.or_true]

/-- Bits above the mask have no part in it. -/
theorem mod_and {mask n : Nat} (h : mask < 2 ^ n) (x : Nat) : x % 2 ^ n &&& mask = x &&& mask := by
  have hmask : (2 ^ n - 1) &&& mask = mask := by
    rw [Nat.and_comm, Nat.and_two_pow_sub_one_eq_mod, Nat.mod_eq_of_lt h]
  rw [← Nat.and_two_pow_sub_one_eq_mod, Nat.and_assoc, hmask]

theorem extract_mod {mask n : Nat} (h : mask < 2 ^ n) (shift x : Nat) :
    extract mask shift (x % 2 ^ n) = extract mask shift x := by
  rw [extract, extract, mod_and h]

theorem flag_mod {mask n : Nat} (h : mask < 2 ^ n) (x : Nat) :
    flag mask (x % 2 ^ n) = flag mask x := by
  rw [flag, flag, mod_and h]

/-- The field comes back, as far as it has bits. -/
theorem extract_field {mask shift w : Nat} (h : mask = (2 ^ w - 1) <<< shift) (v : Nat) :
    extract mask shift (field mask shift v) = v % 2 ^ w := by
  have hself : field mask shift v &&& mask = v <<< shift &&& mask := by
    rw [field, Nat.and_assoc, Nat.and_self]
  have hword : extract mask shift (field mask shift v) = extract mask shift (v <<< shift) := by
    rw [extract, extract, hself]
  rw [hword, extract_eq h, Nat.shiftLeft_eq, Nat.mul_div_cancel _ (Nat.two_pow_pos shift)]

/-- Another field does not show. -/
theorem extract_field_disjoint {mask mask' : Nat} (h : mask' &&& mask = 0) (shift shift' v : Nat) :
    extract mask shift (field mask' shift' v) = 0 := by
  rw [extract, field, Nat.and_assoc, h, Nat.and_zero, Nat.zero_shiftRight]

theorem flag_field_disjoint {mask mask' : Nat} (h : mask' &&& mask = 0) (shift' v : Nat) :
    flag mask (field mask' shift' v) = false := by
  rw [flag, field, Nat.and_assoc, h, Nat.and_zero]
  rfl

theorem extract_ite (c : Prop) [Decidable c] {mask shift x y : Nat} (hx : extract mask shift x = 0)
    (hy : extract mask shift y = 0) : extract mask shift (if c then x else y) = 0 := by
  split
  · exact hx
  · exact hy

/-! ## Masked values -/

def merge (w mask current value : Nat) : Nat :=
  (current &&& ((2 ^ w - 1) ^^^ mask)) ||| (value &&& mask)

theorem testBit_merge {w i : Nat} (h : i < w) (mask current value : Nat) :
    (merge w mask current value).testBit i =
      if mask.testBit i then value.testBit i else current.testBit i := by
  rw [merge, Nat.testBit_or, Nat.testBit_and, Nat.testBit_and, Nat.testBit_xor,
    Nat.testBit_two_pow_sub_one, decide_eq_true h]
  cases mask.testBit i <;> simp

/-- What a mask takes from a word is decided by the bits that the word has. -/
theorem and_ext {mask w x y : Nat} (hmask : mask < 2 ^ w)
    (h : ∀ i < w, mask.testBit i = true → x.testBit i = y.testBit i) : x &&& mask = y &&& mask := by
  refine Nat.eq_of_testBit_eq fun i => ?_
  rw [Nat.testBit_and, Nat.testBit_and]
  cases hbit : mask.testBit i with
  | false => rw [Bool.and_false, Bool.and_false]
  | true =>
    have hi : i < w := by
      by_contra hge
      have hpow : 2 ^ w ≤ 2 ^ i := Nat.pow_le_pow_right Nat.two_pos (Nat.not_lt.mp hge)
      rw [Nat.testBit_lt_two_pow (Nat.lt_of_lt_of_le hmask hpow)] at hbit
      cases hbit
    rw [h i hi hbit]

theorem merge_and {w mask : Nat} (h : mask < 2 ^ w) (current value : Nat) :
    merge w mask current value &&& mask = value &&& mask := by
  refine and_ext h fun i hi hbit => ?_
  rw [testBit_merge hi, if_pos hbit]

theorem merge_and_disjoint {w mask mask' : Nat} (hmask : mask' < 2 ^ w) (h : mask &&& mask' = 0)
    (current value : Nat) : merge w mask current value &&& mask' = current &&& mask' := by
  refine and_ext hmask fun i hi hbit => ?_
  have hnot : mask.testBit i = false := by
    have hzero : (mask &&& mask').testBit i = false := by rw [h, Nat.zero_testBit]
    rw [Nat.testBit_and, hbit, Bool.and_true] at hzero
    exact hzero
  rw [testBit_merge hi, hnot]
  rfl

end Fields
