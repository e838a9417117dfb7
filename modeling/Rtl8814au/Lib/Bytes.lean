import Mathlib.Data.List.Induction
import Mathlib.Data.Nat.Bitwise
import Mathlib.Tactic.Common

/-!
# Lib.Bytes

Byte strings and fixed-size buffers.

* `Bytes` is a list of `UInt8`; `Bytes.at` is the total read, `Bytes.xor` the byte-wise exclusive
  or (as long as the shorter operand), `Bytes.pad` zero-padding up to a size.
* `Buf n` is a byte string of length exactly `n`: a C array `uint8 x[n]` whose size cannot go wrong.
* `chunksOf k` cuts a byte string into blocks of `k` bytes, the last one possibly shorter, and
  `Chunked k` is the shape of such a list of blocks. `chunksOf_flatten` is what block-wise
  algorithms need: a list of blocks of the right shape is recovered from its concatenation.
* `bit` numbers the bits of a byte string from the lowest bit of its first byte.
* `be`, `beNat` are the big-endian encoding and value; `memcmpLt_iff` says that lexicographic
  comparison of equally long strings is comparison of the values.
-/

abbrev Bytes := List UInt8

namespace Bytes

/-- Byte `i`, or zero past the end. -/
def «at» (b : Bytes) (i : Nat) : UInt8 := b.getD i 0

/-- Bytes `[off, off + n)`. -/
def slice (b : Bytes) (off n : Nat) : Bytes := (b.drop off).take n

def xor (a b : Bytes) : Bytes := List.zipWith (· ^^^ ·) a b

def zeros (n : Nat) : Bytes := List.replicate n 0

/-- `b` followed by zeros up to length `n`. -/
def pad (n : Nat) (b : Bytes) : Bytes := b ++ zeros (n - b.length)

@[simp] theorem length_zeros (n : Nat) : (zeros n).length = n := by simp [zeros]

@[simp] theorem length_xor (a b : Bytes) : (xor a b).length = min a.length b.length := by
  simp [xor]

@[simp] theorem length_pad (n : Nat) (b : Bytes) : (pad n b).length = max b.length n := by
  simp [pad]; omega

theorem length_slice {b : Bytes} {off n : Nat} (h : off + n ≤ b.length) :
    (slice b off n).length = n := by
  simp [slice]; omega

theorem pad_of_le {n : Nat} {b : Bytes} (h : n ≤ b.length) : pad n b = b := by
  simp [pad, zeros, Nat.sub_eq_zero_of_le h]

@[simp] theorem at_append_left {a b : Bytes} {i : Nat} (h : i < a.length) :
    (a ++ b).at i = a.at i := by
  simp [«at», List.getElem?_append_left h]

theorem at_append_right {a b : Bytes} {i : Nat} (h : a.length ≤ i) :
    (a ++ b).at i = b.at (i - a.length) := by
  simp [«at», List.getElem?_append_right h]

theorem slice_append_left {a b : Bytes} {off n : Nat} (h : off + n ≤ a.length) :
    (a ++ b).slice off n = a.slice off n := by
  have h1 : off ≤ a.length := by omega
  have h2 : n ≤ (a.drop off).length := by simp; omega
  rw [slice, slice, List.drop_append_of_le_length h1, List.take_append_of_le_length h2]

theorem slice_append_right {a b : Bytes} {off n : Nat} (h : a.length ≤ off) :
    (a ++ b).slice off n = b.slice (off - a.length) n := by
  rw [slice, slice, List.drop_append, List.drop_eq_nil_of_le h, List.nil_append]

theorem slice_append_mid {a b c : Bytes} {off n : Nat} (ha : a.length = off) (hb : b.length = n) :
    (a ++ (b ++ c)).slice off n = b := by
  rw [slice_append_right (by omega), ha, Nat.sub_self, slice, List.drop_zero, ← hb,
    List.take_left]

theorem slice_skip {a b : Bytes} {n m : Nat} (off : Nat) (ha : a.length = n) :
    (a ++ b).slice (n + off) m = b.slice off m := by
  rw [slice_append_right (by omega), ha, Nat.add_sub_cancel_left]

theorem slice_here {a b : Bytes} {n : Nat} (ha : a.length = n) : (a ++ b).slice 0 n = a := by
  rw [slice, List.drop_zero, List.take_left' ha]

theorem at_slice {b : Bytes} {off n i : Nat} (h : i < n) : (b.slice off n).at i = b.at (off + i) := by
  simp [«at», slice, List.getElem?_take_of_lt h]

theorem slice_slice {b : Bytes} {off n i m : Nat} (h : i + m ≤ n) :
    (b.slice off n).slice i m = b.slice (off + i) m := by
  rw [slice, slice, slice, List.drop_take, List.drop_drop, List.take_take, Nat.min_eq_left (by omega)]

theorem slice_drop (b : Bytes) (off i n : Nat) :
    slice (b.drop off) i n = b.slice (off + i) n := by
  rw [slice, slice, List.drop_drop]

theorem slice_eq_map {b : Bytes} {off n : Nat} (h : off + n ≤ b.length) :
    b.slice off n = (List.range' off n).map b.at := by
  apply List.ext_getElem
  · rw [length_slice h, List.length_map, List.length_range']
  · intro i hi hi'
    rw [length_slice h] at hi
    rw [List.getElem_map, List.getElem_range', «at», List.getD_eq_getElem _ _ (by omega)]
    simp only [slice, List.getElem_take, List.getElem_drop, Nat.one_mul]

/-- A field of a record, behind the fields ahead of it. -/
theorem slice_flatten {fs : List Bytes} {k off n : Nat} {f : Bytes} (hk : fs[k]? = some f)
    (hoff : ((fs.take k).map List.length).sum = off) (hn : f.length = n) :
    slice fs.flatten off n = f := by
  obtain ⟨hlt, hget⟩ := List.getElem?_eq_some_iff.mp hk
  have hsplit : fs.flatten = (fs.take k).flatten ++ (f ++ (fs.drop (k + 1)).flatten) := by
    rw [← List.flatten_cons, ← hget, List.getElem_cons_drop, ← List.flatten_append,
      List.take_append_drop]
  rw [hsplit]
  exact slice_append_mid (by rw [List.length_flatten, hoff]) hn

theorem at_flatten {fs : List Bytes} {k off : Nat} {x : UInt8} (hk : fs[k]? = some [x])
    (hoff : ((fs.take k).map List.length).sum = off) : Bytes.at fs.flatten off = x := by
  have hslice : slice fs.flatten off 1 = [x] := slice_flatten hk hoff rfl
  have hat : (slice fs.flatten off 1).at 0 = Bytes.at fs.flatten off := at_slice Nat.one_pos
  rw [hslice] at hat
  exact hat.symm

theorem slice_two {b : Bytes} {i : Nat} (h : i + 2 ≤ b.length) :
    b.slice i 2 = [b.at i, b.at (i + 1)] := slice_eq_map h

/-- The byte in front of what is left. -/
theorem at_of_drop {b rest : Bytes} {i : Nat} {x : UInt8} (h : b.drop i = x :: rest) :
    b.at i = x ∧ b.drop (i + 1) = rest := by
  constructor
  · rw [«at», List.getD_eq_getElem?_getD, ← List.head?_drop, h]
    rfl
  · rw [← List.drop_drop, h]
    rfl

theorem at_set {b : Bytes} {i j : Nat} {x : UInt8} (h : j < b.length) :
    Bytes.at (b.set i x) j = if i = j then x else b.at j := by
  rw [«at», «at», List.getD_eq_getElem _ _ (by rwa [List.length_set]),
    List.getD_eq_getElem _ _ h, List.getElem_set]

/-- A decidable property of bytes, checked on all of them. -/
theorem forall_byte {P : UInt8 → Prop} (h : ∀ n : Fin 256, P (UInt8.ofFin n)) (b : UInt8) : P b :=
  h b.toFin

/-- A property of the entries of a table, checked entry by entry. -/
theorem forall_entry {b : Bytes} {P : Nat → UInt8 → Prop} (h : ∀ p ∈ b.zipIdx, P p.2 p.1) {i : Nat}
    (hi : i < b.length) : P i (b.at i) := by
  have hmem : (b[i], i) ∈ b.zipIdx :=
    List.mk_mem_zipIdx_iff_getElem?.mpr (List.getElem?_eq_getElem hi)
  have hat : b.at i = b[i] := List.getD_eq_getElem b 0 hi
  rw [hat]
  exact h _ hmem

/-! ## Exclusive or -/

/-- Adding the same key stream twice gives the text back, when the key stream is long enough. -/
theorem xor_xor_cancel {a k : Bytes} (h : a.length ≤ k.length) : xor (xor a k) k = a := by
  induction a generalizing k with
  | nil => simp [xor]
  | cons x a ih =>
    cases k with
    | nil => simp at h
    | cons y k =>
      have := ih (k := k) (by simpa using h)
      simp only [xor, List.zipWith_cons_cons, UInt8.xor_assoc, UInt8.xor_self, UInt8.xor_zero]
      simpa [xor] using this

theorem xor_comm (a b : Bytes) : xor a b = xor b a := by
  simp only [xor]
  rw [List.zipWith_comm]
  simp only [UInt8.xor_comm]

theorem at_xor {a b : Bytes} {i : Nat} (ha : i < a.length) (hb : i < b.length) :
    (xor a b).at i = a.at i ^^^ b.at i := by
  simp [«at», xor, List.getElem?_zipWith, List.getElem?_eq_getElem ha, List.getElem?_eq_getElem hb]

/-- A key stream in two parts. -/
theorem xor_append_right (k l : Bytes) : ∀ a : Bytes,
    xor a (k ++ l) = xor (a.take k.length) k ++ xor (a.drop k.length) l := by
  induction k with
  | nil => intro a; simp [xor]
  | cons y k ih =>
    intro a
    cases a with
    | nil => simp [xor]
    | cons x a =>
      have := ih a
      simp only [xor] at this
      simp [xor, this]

/-! ## Blocks -/

/-- `chunksOf` with an explicit bound on the number of blocks. -/
def chunksUpTo (k : Nat) : Nat → Bytes → List Bytes
  | 0, _ => []
  | n + 1, b => if b = [] then [] else b.take k :: chunksUpTo k n (b.drop k)

/-- `b` cut into blocks of `k` bytes; only the last block may be shorter. -/
def chunksOf (k : Nat) (b : Bytes) : List Bytes := chunksUpTo k b.length b

/-- Blocks as `chunksOf k` cuts them: all of length `k` but the last, which is not empty. -/
def Chunked (k : Nat) : List Bytes → Prop
  | [] => True
  | [c] => 0 < c.length ∧ c.length ≤ k
  | c :: d :: cs => c.length = k ∧ Chunked k (d :: cs)

theorem chunksUpTo_of_le {k : Nat} (hk : 0 < k) :
    ∀ {n m : Nat} {b : Bytes}, b.length ≤ n → b.length ≤ m →
      chunksUpTo k n b = chunksUpTo k m b := by
  intro n
  induction n with
  | zero =>
    intro m b hn _
    have : b = [] := List.eq_nil_of_length_eq_zero (by omega)
    subst this
    cases m <;> simp [chunksUpTo]
  | succ n ih =>
    intro m b hn hm
    by_cases hb : b = []
    · subst hb; cases m <;> simp [chunksUpTo]
    · have hpos := List.length_pos_iff.mpr hb
      cases m with
      | zero => omega
      | succ m =>
        simp only [chunksUpTo, if_neg hb]
        rw [ih (b := b.drop k) (m := m) (by simp; omega) (by simp; omega)]

@[simp] theorem chunksOf_nil (k : Nat) : chunksOf k [] = [] := rfl

theorem chunksOf_of_ne_nil {k : Nat} (hk : 0 < k) {b : Bytes} (hb : b ≠ []) :
    chunksOf k b = b.take k :: chunksOf k (b.drop k) := by
  have hpos := List.length_pos_iff.mpr hb
  obtain ⟨n, hn⟩ : ∃ n, b.length = n + 1 := ⟨b.length - 1, by omega⟩
  rw [chunksOf, hn, chunksUpTo, if_neg hb, chunksOf,
    chunksUpTo_of_le hk (n := n) (m := (b.drop k).length) (by simp; omega) (by simp)]

theorem chunksOf_of_le {k : Nat} (hk : 0 < k) {b : Bytes} (hb : b ≠ []) (h : b.length ≤ k) :
    chunksOf k b = [b] := by
  rw [chunksOf_of_ne_nil hk hb, List.take_of_length_le h, List.drop_eq_nil_of_le h, chunksOf_nil]

theorem chunksOf_append {k : Nat} (hk : 0 < k) {a b : Bytes} (ha : a.length = k) :
    chunksOf k (a ++ b) = a :: chunksOf k b := by
  have hne : a ++ b ≠ [] := by
    apply List.ne_nil_of_length_pos
    rw [List.length_append]
    omega
  rw [chunksOf_of_ne_nil hk hne, List.take_left' ha, List.drop_left' ha]

theorem flatten_chunksOf {k : Nat} (hk : 0 < k) (b : Bytes) : (chunksOf k b).flatten = b := by
  induction hn : b.length using Nat.strongRecOn generalizing b with
  | ind n ih =>
    by_cases hb : b = []
    · simp [hb]
    · have hpos := List.length_pos_iff.mpr hb
      rw [chunksOf_of_ne_nil hk hb, List.flatten_cons,
        ih (b.drop k).length (by simp; omega) _ rfl, List.take_append_drop]

theorem length_chunksOf {k : Nat} (hk : 0 < k) (b : Bytes) :
    (chunksOf k b).length = (b.length + (k - 1)) / k := by
  induction hn : b.length using Nat.strongRecOn generalizing b with
  | ind n ih =>
    by_cases hb : b = []
    · subst hb
      have hn0 : n = 0 := by simpa using hn.symm
      rw [chunksOf_nil, List.length_nil, hn0, Nat.zero_add, Nat.div_eq_of_lt (by omega)]
    · have hpos := List.length_pos_iff.mpr hb
      rw [chunksOf_of_ne_nil hk hb, List.length_cons,
        ih (b.drop k).length (by simp; omega) _ rfl, List.length_drop, hn]
      by_cases hle : n ≤ k
      · have hone : (n + (k - 1)) / k = 1 := Nat.div_eq_of_lt_le (by omega) (by omega)
        rw [Nat.sub_eq_zero_of_le hle, Nat.zero_add, Nat.div_eq_of_lt (show k - 1 < k by omega), hone]
      · rw [show n + (k - 1) = n - k + (k - 1) + k by omega, Nat.add_div_right _ hk]

theorem chunked_chunksOf {k : Nat} (hk : 0 < k) (b : Bytes) : Chunked k (chunksOf k b) := by
  induction hn : b.length using Nat.strongRecOn generalizing b with
  | ind n ih =>
    by_cases hb : b = []
    · simp [hb, Chunked]
    · have hpos := List.length_pos_iff.mpr hb
      have hrest := ih (b.drop k).length (by simp; omega) _ rfl
      rw [chunksOf_of_ne_nil hk hb]
      by_cases hd : b.drop k = []
      · rw [hd, chunksOf_nil]
        simp only [Chunked, List.length_take]
        omega
      · rw [chunksOf_of_ne_nil hk hd] at hrest ⊢
        refine ⟨?_, hrest⟩
        have := List.length_pos_iff.mpr hd
        simp at this ⊢
        omega

/-- Nothing is left over: every block is whole. -/
theorem length_of_mem_chunksOf {k : Nat} (hk : 0 < k) {b : Bytes} (h : b.length % k = 0) :
    ∀ c ∈ chunksOf k b, c.length = k := by
  induction hn : b.length using Nat.strongRecOn generalizing b with
  | ind n ih =>
    intro c hc
    by_cases hb : b = []
    · subst hb
      simp at hc
    · have hpos := List.length_pos_iff.mpr hb
      have hle : k ≤ b.length := by
        by_contra hlt
        rw [Nat.mod_eq_of_lt (by omega)] at h
        omega
      rw [chunksOf_of_ne_nil hk hb] at hc
      rcases List.mem_cons.mp hc with rfl | hc
      · exact List.length_take_of_le hle
      · have hrest : (b.drop k).length % k = 0 := by
          rw [List.length_drop, ← Nat.mod_eq_sub_mod hle, h]
        exact ih (b.drop k).length (by rw [List.length_drop]; omega) hrest rfl c hc

theorem chunksOf_flatten {k : Nat} (hk : 0 < k) :
    ∀ {cs : List Bytes}, Chunked k cs → chunksOf k cs.flatten = cs := by
  intro cs
  induction cs with
  | nil => intro _; simp
  | cons c cs ih =>
    intro h
    cases cs with
    | nil =>
      have hc : c ≠ [] := List.length_pos_iff.mp h.1
      simp [chunksOf_of_le hk hc h.2]
    | cons d cs =>
      rw [List.flatten_cons, chunksOf_append hk h.1, ih h.2]

theorem Chunked.of_lengths {k : Nat} :
    ∀ {cs ds : List Bytes}, cs.map List.length = ds.map List.length → Chunked k cs →
      Chunked k ds := by
  intro cs
  induction cs with
  | nil => intro ds h _; simp at h; subst h; trivial
  | cons c cs ih =>
    intro ds h hc
    cases ds with
    | nil => simp at h
    | cons d ds =>
      simp only [List.map_cons, List.cons.injEq] at h
      cases cs with
      | nil =>
        have : ds = [] := by simpa using h.2.symm
        subst this
        simpa [Chunked, ← h.1] using hc
      | cons c' cs =>
        cases ds with
        | nil => simp at h
        | cons d' ds => exact ⟨h.1 ▸ hc.1, ih h.2 hc.2⟩

theorem Chunked.length_le {k : Nat} :
    ∀ {cs : List Bytes}, Chunked k cs → ∀ c ∈ cs, c.length ≤ k := by
  intro cs
  induction cs with
  | nil => intro _ c hc; simp at hc
  | cons d cs ih =>
    intro h c hc
    cases cs with
    | nil => simp at hc; subst hc; exact h.2
    | cons e cs =>
      rcases List.mem_cons.mp hc with rfl | hc
      · exact Nat.le_of_eq h.1
      · exact ih h.2 c hc

/-! ## Big-endian numbers and `memcmp` -/

/-- The `w` low bytes of `v`, most significant first. -/
def be : Nat → Nat → Bytes
  | 0, _ => []
  | w + 1, v => be w (v / 256) ++ [UInt8.ofNat v]

/-- The value of a byte string, most significant byte first. -/
def beNat (b : Bytes) : Nat := b.foldl (fun v x => v * 256 + x.toNat) 0

/-- `memcmp(a, b, n) < 0` on two strings of length `n`. -/
def memcmpLt : Bytes → Bytes → Bool
  | x :: a, y :: b => if x < y then true else if y < x then false else memcmpLt a b
  | _, _ => false

@[simp] theorem length_be (w v : Nat) : (be w v).length = w := by
  induction w generalizing v with
  | zero => rfl
  | succ w ih => simp [be, ih]

theorem beNat_append_singleton (b : Bytes) (x : UInt8) :
    beNat (b ++ [x]) = beNat b * 256 + x.toNat := by
  simp [beNat, List.foldl_append]

theorem beNat_be (w v : Nat) : beNat (be w v) = v % 256 ^ w := by
  induction w generalizing v with
  | zero => simp [be, beNat, Nat.mod_one]
  | succ w ih =>
    rw [be, beNat_append_singleton, ih, Nat.pow_succ', Nat.mod_mul, UInt8.toNat_ofNat']
    omega

theorem foldl_beNat (b : Bytes) : ∀ v : Nat,
    b.foldl (fun v x => v * 256 + x.toNat) v = v * 256 ^ b.length + beNat b := by
  induction b with
  | nil => intro v; simp [beNat]
  | cons x b ih =>
    intro v
    have hcons : beNat (x :: b) = x.toNat * 256 ^ b.length + beNat b := by
      show b.foldl _ (0 * 256 + x.toNat) = _
      rw [ih, Nat.zero_mul, Nat.zero_add]
    rw [List.foldl_cons, ih, hcons, List.length_cons, Nat.pow_succ', Nat.add_mul, Nat.mul_assoc,
      Nat.add_assoc]

theorem beNat_cons (x : UInt8) (b : Bytes) :
    beNat (x :: b) = x.toNat * 256 ^ b.length + beNat b := by
  show b.foldl _ (0 * 256 + x.toNat) = _
  rw [foldl_beNat, Nat.zero_mul, Nat.zero_add]

theorem beNat_lt (b : Bytes) : beNat b < 256 ^ b.length := by
  induction b with
  | nil => simp [beNat]
  | cons x b ih =>
    rw [beNat_cons, List.length_cons, Nat.pow_succ']
    have hx : x.toNat ≤ 255 := by have := x.toNat_lt; omega
    have := Nat.mul_le_mul_right (256 ^ b.length) hx
    omega

theorem be_beNat (b : Bytes) : be b.length (beNat b) = b := by
  induction b using List.reverseRecOn with
  | nil => rfl
  | append_singleton b x ih =>
    rw [beNat_append_singleton, List.length_append, List.length_singleton, be]
    have hx : (beNat b * 256 + x.toNat) / 256 = beNat b := by
      have := x.toNat_lt
      omega
    have hm : UInt8.ofNat (beNat b * 256 + x.toNat) = x := by
      apply UInt8.toNat_inj.mp
      have := x.toNat_lt
      rw [UInt8.toNat_ofNat']
      omega
    rw [hx, hm, ih]

theorem be_injOn {w v v' : Nat} (hv : v < 256 ^ w) (hv' : v' < 256 ^ w) (h : be w v = be w v') :
    v = v' := by
  have := congrArg beNat h
  rwa [beNat_be, beNat_be, Nat.mod_eq_of_lt hv, Nat.mod_eq_of_lt hv'] at this

theorem be_mod (w v : Nat) : be w (v % 256 ^ w) = be w v := by
  have h := be_beNat (be w v)
  rwa [beNat_be, length_be] at h

/-- The `w` low bytes of `v`, least significant first. -/
def le (w v : Nat) : Bytes := (be w v).reverse

/-- The value of a byte string, least significant byte first. -/
def leNat (b : Bytes) : Nat := beNat b.reverse

@[simp] theorem length_le (w v : Nat) : (le w v).length = w := by simp [le]

theorem leNat_le (w v : Nat) : leNat (le w v) = v % 256 ^ w := by
  rw [leNat, le, List.reverse_reverse, beNat_be]

/-- Numbers of one width, one behind the other. -/
theorem leNat_lt (b : Bytes) : leNat b < 256 ^ b.length := by
  rw [← List.length_reverse]
  exact beNat_lt b.reverse

theorem slice_flatMap_le (w : Nat) (vs rest : List Nat) (v : Nat) :
    slice ((vs ++ v :: rest).flatMap (le w)) (w * vs.length) w = le w v := by
  induction vs with
  | nil =>
    rw [List.nil_append, List.flatMap_cons, List.length_nil, Nat.mul_zero]
    exact slice_here (length_le w v)
  | cons x vs ih =>
    rw [List.cons_append, List.flatMap_cons, List.length_cons, Nat.mul_succ, Nat.add_comm,
      slice_skip _ (length_le w x)]
    exact ih

/-! ## Bits -/

/-- Bit `k` of a byte string, counted from the lowest bit of the first byte. -/
def bit (b : Bytes) (k : Nat) : Bool := (b.at (k / 8)).toNat.testBit (k % 8)

theorem ext_testBit {x y : UInt8}
    (h : ∀ j < 8, x.toNat.testBit j = y.toNat.testBit j) : x = y := by
  apply UInt8.toNat_inj.mp
  apply Nat.eq_of_testBit_eq
  intro j
  by_cases hj : j < 8
  · exact h j hj
  · have hbound : 2 ^ 8 ≤ 2 ^ j := Nat.pow_le_pow_right (by omega) (by omega)
    rw [Nat.testBit_lt_two_pow (Nat.lt_of_lt_of_le x.toNat_lt hbound),
      Nat.testBit_lt_two_pow (Nat.lt_of_lt_of_le y.toNat_lt hbound)]

/-- Two bytes agree under a mask when they have the same bits where the mask is set. -/
theorem and_eq_and_iff {m x y : UInt8} : x &&& m = y &&& m ↔
    ∀ j < 8, m.toNat.testBit j = true → x.toNat.testBit j = y.toNat.testBit j := by
  constructor
  · intro h j _ hm
    have hj := congrArg (fun z : UInt8 => z.toNat.testBit j) h
    simpa only [UInt8.toNat_and, Nat.testBit_and, hm, Bool.and_true] using hj
  · intro h
    apply ext_testBit
    intro j hj
    simp only [UInt8.toNat_and, Nat.testBit_and]
    by_cases hm : m.toNat.testBit j = true
    · rw [h j hj hm]
    · rw [Bool.not_eq_true] at hm
      rw [hm, Bool.and_false, Bool.and_false]

theorem testBit_ofNat (v : Nat) {j : Nat} (hj : j < 8) :
    (UInt8.ofNat v).toNat.testBit j = v.testBit j := by
  rw [UInt8.toNat_ofNat', Nat.testBit_mod_two_pow, decide_eq_true hj, Bool.true_and]

theorem leNat_cons (x : UInt8) (b : Bytes) : leNat (x :: b) = 2 ^ 8 * leNat b + x.toNat := by
  rw [leNat, List.reverse_cons, beNat_append_singleton, leNat, Nat.mul_comm]
  rfl

theorem leNat_cons_or (x : UInt8) (b : Bytes) : leNat (x :: b) = x.toNat ||| leNat b <<< 8 := by
  rw [leNat_cons, Nat.two_pow_add_eq_or_of_lt x.toNat_lt, Nat.shiftLeft_eq, Nat.or_comm, Nat.mul_comm]

/-- Bytes put together by shifts. -/
theorem leNat_three (x y z : UInt8) :
    x.toNat ||| y.toNat <<< 8 ||| z.toNat <<< 16 = leNat [x, y, z] := by
  have hnil : leNat [] = 0 := rfl
  rw [leNat_cons_or, leNat_cons_or, leNat_cons_or]
  simp only [hnil, Nat.zero_shiftLeft, Nat.or_zero, Nat.shiftLeft_or_distrib, ← Nat.shiftLeft_add,
    Nat.or_assoc]

theorem leNat_four (w x y z : UInt8) :
    w.toNat ||| x.toNat <<< 8 ||| y.toNat <<< 16 ||| z.toNat <<< 24 = leNat [w, x, y, z] := by
  have hnil : leNat [] = 0 := rfl
  rw [leNat_cons_or, leNat_cons_or, leNat_cons_or, leNat_cons_or]
  simp only [hnil, Nat.zero_shiftLeft, Nat.or_zero, Nat.shiftLeft_or_distrib, ← Nat.shiftLeft_add,
    Nat.or_assoc]

/-- The bytes of a number, and back. -/
theorem le_leNat (b : Bytes) : le b.length (leNat b) = b := by
  have hbytes := be_beNat b.reverse
  rw [List.length_reverse] at hbytes
  rw [le, leNat, hbytes, List.reverse_reverse]

theorem testBit_leNat (b : Bytes) (k : Nat) : (leNat b).testBit k = b.bit k := by
  induction b generalizing k with
  | nil => simp [leNat, beNat, bit, «at»]
  | cons x b ih =>
    rw [leNat_cons, Nat.testBit_two_pow_mul_add _ x.toNat_lt]
    by_cases hk : k < 8
    · rw [if_pos hk, bit, Nat.div_eq_of_lt hk, Nat.mod_eq_of_lt hk]
      rfl
    · rw [if_neg hk, ih, bit, bit]
      have hdiv : k / 8 = (k - 8) / 8 + 1 := by omega
      have hmod : k % 8 = (k - 8) % 8 := by omega
      rw [hdiv, hmod]
      rfl

theorem bit_slice {b : Bytes} {off n k : Nat} (h : k < 8 * n) :
    (b.slice off n).bit k = b.bit (8 * off + k) := by
  have hdiv : (8 * off + k) / 8 = off + k / 8 := by omega
  have hmod : (8 * off + k) % 8 = k % 8 := by omega
  rw [bit, bit, at_slice (by omega), hdiv, hmod]

theorem bit_byte (b : Bytes) {i j : Nat} (hj : j < 8) :
    b.bit (8 * i + j) = (b.at i).toNat.testBit j := by
  rw [bit, show (8 * i + j) / 8 = i by omega, show (8 * i + j) % 8 = j by omega]

/-- On strings of one length, `memcmp` compares the big-endian values. -/
theorem memcmpLt_iff : ∀ {a b : Bytes}, a.length = b.length →
    (memcmpLt a b = true ↔ beNat a < beNat b) := by
  intro a
  induction a with
  | nil => intro b h; have : b = [] := by simpa using h.symm
           subst this; simp [memcmpLt]
  | cons x a ih =>
    intro b h
    cases b with
    | nil => simp at h
    | cons y b =>
      have hlen : a.length = b.length := by simpa using h
      have ha := beNat_lt a
      have hb := beNat_lt b
      simp only [memcmpLt, beNat_cons, hlen]
      rw [hlen] at ha
      by_cases hxy : x < y
      · have : x.toNat + 1 ≤ y.toNat := UInt8.lt_iff_toNat_lt.mp hxy
        have := Nat.mul_le_mul_right (256 ^ b.length) this
        rw [Nat.add_mul] at this
        simp only [if_pos hxy, true_iff]
        omega
      · by_cases hyx : y < x
        · have : y.toNat + 1 ≤ x.toNat := UInt8.lt_iff_toNat_lt.mp hyx
          have := Nat.mul_le_mul_right (256 ^ b.length) this
          rw [Nat.add_mul] at this
          simp only [if_neg hxy, if_pos hyx, Bool.false_eq_true, false_iff]
          omega
        · have : x = y := by
            apply UInt8.toNat_inj.mp
            rw [UInt8.lt_iff_toNat_lt] at hxy hyx
            omega
          subst this
          rw [if_neg hxy, if_neg hxy, ih hlen]
          omega

end Bytes

/-! ## Fixed-size buffers -/

/-- Indices into arrays of these sizes are written as literals. -/
instance (priority := high) neZero_four : NeZero 4 := ⟨four_ne_zero⟩

instance (priority := high) neZero_sixteen : NeZero 16 := ⟨by decide⟩

instance (priority := high) neZero_sixtyFour : NeZero 64 := ⟨by decide⟩

instance (priority := high) neZero_oneHundredTwentyEight : NeZero 128 := ⟨by decide⟩

/-- A byte string of length `n`. -/
structure Buf (n : Nat) where
  bytes : Bytes
  length_eq : bytes.length = n
deriving DecidableEq

namespace Buf

attribute [simp] length_eq

@[ext] theorem ext {n : Nat} {a b : Buf n} (h : a.bytes = b.bytes) : a = b := by
  cases a; cases b; cases h; rfl

def zero (n : Nat) : Buf n := ⟨Bytes.zeros n, Bytes.length_zeros n⟩

/-- The first `n` bytes of `b`, zero-padded when there are fewer. -/
def ofBytes (n : Nat) (b : Bytes) : Buf n :=
  ⟨(Bytes.pad n b).take n, by rw [List.length_take, Bytes.length_pad]; omega⟩

/-- `memcpy(x + off, data, length)`, cut off at the end of the buffer. -/
def copyAt {n : Nat} (x : Buf n) (off : Nat) (data : Bytes) : Buf n :=
  ⟨(x.bytes.take off ++ (data ++ x.bytes.drop (off + data.length))).take n, by
    simp only [List.length_take, List.length_append, List.length_drop, length_eq]
    omega⟩

/-- `x[i] = v`; past the end nothing happens. -/
def set {n : Nat} (x : Buf n) (i : Nat) (v : UInt8) : Buf n :=
  ⟨x.bytes.set i v, by rw [List.length_set, x.length_eq]⟩

/-- `memset(x, v, n)`. -/
def fill (n : Nat) (v : UInt8) : Buf n := ⟨List.replicate n v, List.length_replicate⟩

def xor {n : Nat} (a b : Buf n) : Buf n := ⟨Bytes.xor a.bytes b.bytes, by simp⟩

def map {n : Nat} (f : UInt8 → UInt8) (a : Buf n) : Buf n := ⟨a.bytes.map f, by simp⟩

theorem xor_comm {n : Nat} (a b : Buf n) : a.xor b = b.xor a := ext (Bytes.xor_comm a.bytes b.bytes)

theorem at_set {n : Nat} (x : Buf n) {i j : Nat} {v : UInt8} (h : j < n) :
    (x.set i v).bytes.at j = if i = j then v else x.bytes.at j := Bytes.at_set (by rwa [x.length_eq])

theorem at_fill {n j : Nat} {v : UInt8} (h : j < n) : (fill n v).bytes.at j = v := by
  rw [fill, Bytes.at, List.getD_eq_getElem _ _ (by rwa [List.length_replicate]),
    List.getElem_replicate]

theorem bytes_ofBytes {n : Nat} {b : Bytes} (h : b.length = n) : (ofBytes n b).bytes = b := by
  simp only [ofBytes]
  rw [Bytes.pad_of_le (Nat.le_of_eq h.symm), List.take_of_length_le (Nat.le_of_eq h)]

@[simp] theorem ofBytes_bytes {n : Nat} (x : Buf n) : ofBytes n x.bytes = x :=
  ext (bytes_ofBytes x.length_eq)

theorem bytes_copyAt {n : Nat} (x : Buf n) {off : Nat} {data : Bytes}
    (h : off + data.length ≤ n) :
    (x.copyAt off data).bytes = x.bytes.take off ++ (data ++ x.bytes.drop (off + data.length)) := by
  apply List.take_of_length_le
  simp only [List.length_take, List.length_append, List.length_drop, length_eq]
  omega

theorem at_copyAt_zero {n : Nat} (x : Buf n) {data : Bytes} (h : data.length ≤ n) (j : Nat) :
    (x.copyAt 0 data).bytes.at j = if j < data.length then data.at j else x.bytes.at j := by
  rw [bytes_copyAt x (by rwa [Nat.zero_add]), Nat.zero_add]
  show (data ++ x.bytes.drop data.length).at j = _
  split
  · rename_i hlt
    exact Bytes.at_append_left hlt
  · rename_i hge
    rw [Bytes.at_append_right (Nat.not_lt.mp hge), Bytes.at, Bytes.at, List.getD_eq_getElem?_getD,
      List.getD_eq_getElem?_getD, List.getElem?_drop, Nat.add_sub_cancel' (Nat.not_lt.mp hge)]

theorem take_copyAt {n : Nat} (x : Buf n) {off : Nat} {data : Bytes} (h : off + data.length ≤ n) :
    (x.copyAt off data).bytes.take (off + data.length) = x.bytes.take off ++ data := by
  have hl : (x.bytes.take off ++ data).length = off + data.length := by
    rw [List.length_append, List.length_take, length_eq]
    omega
  rw [bytes_copyAt x h, ← List.append_assoc, List.take_left' hl]

/-- What is ahead of a copy stays. -/
theorem take_copyAt_left {n : Nat} (x : Buf n) {off : Nat} {data : Bytes}
    (h : off + data.length ≤ n) : (x.copyAt off data).bytes.take off = x.bytes.take off := by
  have hl : (x.bytes.take off).length = off := by
    rw [List.length_take, length_eq]
    omega
  rw [bytes_copyAt x h, List.take_left' hl]

/-- A copy up to the end of the buffer. -/
theorem bytes_fill {n : Nat} (x : Buf n) {off : Nat} {data : Bytes} (h : off + data.length = n) :
    (x.copyAt off data).bytes = x.bytes.take off ++ data := by
  rw [← take_copyAt x (Nat.le_of_eq h), List.take_of_length_le (by rw [length_eq]; omega)]

theorem slice_copyAt {n : Nat} (x : Buf n) {off : Nat} {data : Bytes} (h : off + data.length ≤ n) :
    (x.copyAt off data).bytes.slice off data.length = data := by
  have hl : (x.bytes.take off).length = off := by
    rw [List.length_take, length_eq]
    omega
  rw [bytes_copyAt x h]
  exact Bytes.slice_append_mid hl rfl

end Buf
