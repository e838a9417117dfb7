import Rtl8814au.Lib.Bytes

/-!
# Lib.Ccm

Counter mode with CBC-MAC over texts of any length, for any block cipher `E : Buf n → Buf n`.

* `cbcMac`, `ctrXor` — the two chains, over a text cut into blocks (the last one may be short).
* `ctrText`          — counter mode over a text; it is its own inverse (`ctrText_ctrText`).
* `sealText`, `openText` — encrypt-and-tag and decrypt-and-check; `openText_sealText` and
  `sealText_of_openText` are the two round trips.
-/

namespace Ccm

variable {n : Nat} (E : Buf n → Buf n) (ctr : Nat → Buf n)

/-- CBC-MAC continued from state `s`; a short block is zero-padded. -/
def cbcMac (s : Buf n) : List Bytes → Buf n
  | [] => s
  | b :: bs => cbcMac (E ((Buf.ofBytes n b).xor s)) bs

/-- Each block with the key stream of its counter, the first one being `i`. -/
def ctrXor (i : Nat) : List Bytes → List Bytes
  | [] => []
  | b :: bs => Bytes.xor b (E (ctr i)).bytes :: ctrXor (i + 1) bs

def ctrText (text : Bytes) : Bytes := (ctrXor E ctr 1 (Bytes.chunksOf n text)).flatten

variable {E ctr}

theorem map_length_ctrXor {bs : List Bytes} {i : Nat} (h : ∀ b ∈ bs, b.length ≤ n) :
    (ctrXor E ctr i bs).map List.length = bs.map List.length := by
  induction bs generalizing i with
  | nil => rfl
  | cons b bs ih =>
    have hb := h b List.mem_cons_self
    simp only [ctrXor, List.map_cons, Bytes.length_xor, Buf.length_eq]
    rw [ih fun c hc => h c (List.mem_cons_of_mem b hc), Nat.min_eq_left hb]

theorem ctrXor_ctrXor {bs : List Bytes} {i : Nat} (h : ∀ b ∈ bs, b.length ≤ n) :
    ctrXor E ctr i (ctrXor E ctr i bs) = bs := by
  induction bs generalizing i with
  | nil => rfl
  | cons b bs ih =>
    have hb := h b List.mem_cons_self
    simp only [ctrXor]
    rw [ih fun c hc => h c (List.mem_cons_of_mem b hc), Bytes.xor_xor_cancel (by simpa using hb)]

/-- Counter mode keeps the cut into blocks. -/
theorem chunksOf_ctrText (hn : 0 < n) (text : Bytes) :
    Bytes.chunksOf n (ctrText E ctr text) = ctrXor E ctr 1 (Bytes.chunksOf n text) := by
  have hc := Bytes.chunked_chunksOf hn text
  have hl : (ctrXor E ctr 1 (Bytes.chunksOf n text)).map List.length =
      (Bytes.chunksOf n text).map List.length := map_length_ctrXor hc.length_le
  exact Bytes.chunksOf_flatten hn (hc.of_lengths hl.symm)

theorem length_ctrText (hn : 0 < n) (text : Bytes) :
    (ctrText E ctr text).length = text.length := by
  have hc := Bytes.chunked_chunksOf hn text
  rw [ctrText, List.length_flatten, map_length_ctrXor hc.length_le, ← List.length_flatten,
    Bytes.flatten_chunksOf hn]

theorem ctrText_ctrText (hn : 0 < n) (text : Bytes) :
    ctrText E ctr (ctrText E ctr text) = text := by
  have hc := Bytes.chunked_chunksOf hn text
  rw [ctrText, chunksOf_ctrText hn, ctrXor_ctrXor hc.length_le, Bytes.flatten_chunksOf hn]

/-- The chain as a fold over padded blocks. -/
theorem cbcMac_eq_foldl (bs : List Bytes) (s : Buf n) :
    cbcMac E s bs = (bs.map (Buf.ofBytes n)).foldl (fun x b => E (x.xor b)) s := by
  induction bs generalizing s with
  | nil => rfl
  | cons b bs ih => rw [cbcMac, ih, Buf.xor_comm, List.map_cons, List.foldl_cons]

theorem cbcMac_append (as bs : List Bytes) (s : Buf n) :
    cbcMac E s (as ++ bs) = cbcMac E (cbcMac E s as) bs := by
  induction as generalizing s with
  | nil => rfl
  | cons a as ih => exact ih _

/-- Counter mode as one exclusive or with the key stream of `m` blocks, which is long enough. -/
theorem ctrXor_chunksOf (hn : 0 < n) {m : Nat} : ∀ {i : Nat} {text : Bytes}, text.length ≤ n * m →
    (ctrXor E ctr i (Bytes.chunksOf n text)).flatten =
      Bytes.xor text ((List.range' i m).flatMap fun j => (E (ctr j)).bytes) := by
  induction m with
  | zero =>
    intro i text h
    have hnil : text = [] := List.eq_nil_of_length_eq_zero (by omega)
    subst hnil
    rfl
  | succ m ih =>
    intro i text h
    by_cases ht : text = []
    · subst ht
      simp [ctrXor, Bytes.xor]
    · have hrest : (text.drop n).length ≤ n * m := by
        rw [List.length_drop]
        rw [Nat.mul_succ] at h
        omega
      rw [Bytes.chunksOf_of_ne_nil hn ht, ctrXor, List.flatten_cons, ih hrest, List.range'_succ,
        List.flatMap_cons, Bytes.xor_append_right, Buf.length_eq]

/-! ## Authenticated encryption -/

variable (E ctr)

/-- The first `t` bytes of the CBC-MAC of `text` from state `s`, masked with counter block 0. -/
def tag (s : Buf n) (t : Nat) (text : Bytes) : Bytes :=
  Bytes.xor ((cbcMac E s (Bytes.chunksOf n text)).bytes.take t) ((E (ctr 0)).bytes.take t)

def sealText (s : Buf n) (t : Nat) (text : Bytes) : Bytes × Bytes :=
  (ctrText E ctr text, tag E ctr s t text)

def openText (s : Buf n) (t : Nat) (sealed : Bytes × Bytes) : Option Bytes :=
  if tag E ctr s t (ctrText E ctr sealed.1) = sealed.2 then some (ctrText E ctr sealed.1)
  else none

variable {E ctr}

theorem length_tag {s : Buf n} {t : Nat} (ht : t ≤ n) (text : Bytes) :
    (tag E ctr s t text).length = t := by
  simp [tag, ht]

theorem isSome_openText {s : Buf n} {t : Nat} {sealed : Bytes × Bytes} :
    (openText E ctr s t sealed).isSome =
      decide (tag E ctr s t (ctrText E ctr sealed.1) = sealed.2) := by
  rw [openText]
  split <;> simp [*]

theorem openText_eq_some {s : Buf n} {t : Nat} {sealed : Bytes × Bytes}
    (h : (openText E ctr s t sealed).isSome = true) :
    openText E ctr s t sealed = some (ctrText E ctr sealed.1) := by
  rw [isSome_openText, decide_eq_true_eq] at h
  rw [openText, if_pos h]

theorem openText_sealText (hn : 0 < n) {s : Buf n} {t : Nat} (text : Bytes) :
    openText E ctr s t (sealText E ctr s t text) = some text := by
  simp [openText, sealText, ctrText_ctrText hn]

theorem sealText_of_openText (hn : 0 < n) {s : Buf n} {t : Nat} {sealed : Bytes × Bytes}
    {text : Bytes} (h : openText E ctr s t sealed = some text) :
    sealText E ctr s t text = sealed := by
  simp only [openText] at h
  split at h
  · rename_i htag
    cases h
    rw [sealText, ctrText_ctrText hn, htag]
  · cases h

end Ccm
