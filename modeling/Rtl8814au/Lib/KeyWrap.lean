/-!
# Lib.KeyWrap

The six-pass key wrap over any invertible transformation `E` of pairs of half-blocks, with the step
counter folded in by `mask`.

* `wrapPass`, `unwrapPass`: one pass over the blocks, forwards and backwards.
* `unwrap_wrap`, `wrap_unwrap`: the two directions undo each other.
-/

namespace KeyWrap

section

variable {H : Type} (E D : H × H → H × H) (mask : Nat → H → H)

/-- Pass `j` from block number `i` on, the first block first. -/
def wrapPass (n j : Nat) : Nat → H → List H → H × List H
  | _, a, [] => (a, [])
  | i, a, r :: rs =>
    let b := E (a, r)
    let s := wrapPass n j (i + 1) (mask (n * j + i) b.1) rs
    (s.1, b.2 :: s.2)

/-- Pass `j` back to block number `i`, the last block first. -/
def unwrapPass (n j : Nat) : Nat → H → List H → H × List H
  | _, a, [] => (a, [])
  | i, a, r :: rs =>
    let s := unwrapPass n j (i + 1) a rs
    let b := D (mask (n * j + i) s.1, r)
    (b.1, b.2 :: s.2)

def wrap (iv : H) (rs : List H) : H × List H :=
  [0, 1, 2, 3, 4, 5].foldl (fun s j => wrapPass E mask rs.length j 1 s.1 s.2) (iv, rs)

def unwrap (c : H × List H) : H × List H :=
  [5, 4, 3, 2, 1, 0].foldl (fun s j => unwrapPass D mask c.2.length j 1 s.1 s.2) c

variable {E D mask}

theorem length_wrapPass {n j i : Nat} {a : H} {rs : List H} :
    (wrapPass E mask n j i a rs).2.length = rs.length := by
  induction rs generalizing i a with
  | nil => rfl
  | cons r rs ih => simp only [wrapPass, List.length_cons, ih]

theorem unwrapPass_wrapPass (hDE : ∀ x, D (E x) = x) (hm : ∀ t h, mask t (mask t h) = h)
    {n j i : Nat} {a : H} {rs : List H} :
    unwrapPass D mask n j i (wrapPass E mask n j i a rs).1 (wrapPass E mask n j i a rs).2 =
      (a, rs) := by
  induction rs generalizing i a with
  | nil => rfl
  | cons r rs ih => simp only [wrapPass, unwrapPass, ih, hm, Prod.eta, hDE]

theorem unwrap_wrap (hDE : ∀ x, D (E x) = x) (hm : ∀ t h, mask t (mask t h) = h)
    (iv : H) (rs : List H) : unwrap D mask (wrap E mask iv rs) = (iv, rs) := by
  simp only [unwrap, wrap, List.foldl_cons, List.foldl_nil, length_wrapPass,
    unwrapPass_wrapPass hDE hm]

theorem length_wrap (iv : H) (rs : List H) : (wrap E mask iv rs).2.length = rs.length := by
  simp only [wrap, List.foldl_cons, List.foldl_nil, length_wrapPass]

end

end KeyWrap
