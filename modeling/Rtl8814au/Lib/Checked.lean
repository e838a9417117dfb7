import Rtl8814au.Lib.Bytes

/-!
# Lib.Checked

Runs of programs with unsigned machine numbers and byte buffers, in which nothing goes wrong unseen:
a result that does not fit its type, an access outside its buffer and a loop without end are faults.

* `add`, `sub`, `mul`, `fit`: arithmetic on the values of 32-bit (or `w`-bit) numbers.
* `byteAt`, `bytesAt`, `store`: reads and writes of a buffer.
* `iterate`: a loop as turns on a state, with a bound on their number.
* `iterate_spec`: an invariant that every turn keeps, and a measure that every turn lowers, give the
  end of the loop and what holds there.
-/

inductive Fault where
  | wraps   -- the result of a computation does not fit its type
  | outside -- a byte outside its buffer is read or written
  | endless -- the bound on the turns of a loop was reached
deriving DecidableEq

abbrev Checked (α : Type) := Except Fault α

namespace Checked

/-- The value `v`, in a number of `w` bits. -/
def fit (w v : Nat) : Checked Nat := if v < 2 ^ w then .ok v else .error .wraps

def add (a b : Nat) : Checked Nat := fit 32 (a + b)

def mul (a b : Nat) : Checked Nat := fit 32 (a * b)

def sub (a b : Nat) : Checked Nat := if b ≤ a then .ok (a - b) else .error .wraps

def byteAt (b : Bytes) (i : Nat) : Checked UInt8 :=
  if i < b.length then .ok (b.at i) else .error .outside

def bytesAt (b : Bytes) (off n : Nat) : Checked Bytes :=
  if off + n ≤ b.length then .ok (b.slice off n) else .error .outside

/-- `memcpy(b + off, data, length)`. -/
def store (b : Bytes) (off : Nat) (data : Bytes) : Checked Bytes :=
  if off + data.length ≤ b.length then .ok (b.take off ++ data ++ b.drop (off + data.length))
  else .error .outside

/-- What one turn of a loop comes to. -/
inductive Turn (σ : Type) where
  | next (s : σ)
  | exit (s : σ)

def iterate {σ : Type} (turn : σ → Checked (Turn σ)) : Nat → σ → Checked σ
  | 0, _ => .error .endless
  | n + 1, s =>
    match turn s with
    | .error fault => .error fault
    | .ok (.next s') => iterate turn n s'
    | .ok (.exit s') => .ok s'

/-! ## Steps that go right -/

theorem ok_bind {α β : Type} (a : α) (f : α → Checked β) : ((.ok a : Checked α) >>= f) = f a := rfl

theorem fit_ok {w v : Nat} (h : v < 2 ^ w) : fit w v = .ok v := if_pos h

theorem add_ok {a b : Nat} (h : a + b < 2 ^ 32) : add a b = .ok (a + b) := if_pos h

theorem mul_ok {a b : Nat} (h : a * b < 2 ^ 32) : mul a b = .ok (a * b) := if_pos h

theorem sub_ok {a b : Nat} (h : b ≤ a) : sub a b = .ok (a - b) := if_pos h

theorem byteAt_ok {b : Bytes} {i : Nat} (h : i < b.length) : byteAt b i = .ok (b.at i) := if_pos h

theorem bytesAt_ok {b : Bytes} {off n : Nat} (h : off + n ≤ b.length) :
    bytesAt b off n = .ok (b.slice off n) := if_pos h

theorem store_ok {b data : Bytes} {off : Nat} (h : off + data.length ≤ b.length) :
    store b off data = .ok (b.take off ++ data ++ b.drop (off + data.length)) := if_pos h

/-- A store ahead of bytes that are not touched. -/
theorem store_append {a old b data : Bytes} {off : Nat} (ha : a.length = off)
    (hold : old.length = data.length) :
    store (a ++ (old ++ b)) off data = .ok (a ++ (data ++ b)) := by
  have hlen : off + data.length ≤ (a ++ (old ++ b)).length := by
    simp only [List.length_append]
    omega
  have hdrop : (a ++ (old ++ b)).drop (off + data.length) = b := by
    rw [← List.append_assoc]
    exact List.drop_left' (by rw [List.length_append, ha, hold])
  rw [store_ok hlen, hdrop, List.take_left' ha, List.append_assoc]

theorem store_buf {n : Nat} (x : Buf n) {off : Nat} {data : Bytes} (h : off + data.length ≤ n) :
    store x.bytes off data = .ok (x.copyAt off data).bytes := by
  rw [store_ok (by rwa [x.length_eq]), Buf.bytes_copyAt x h, List.append_assoc]

theorem mapM_ok {α β : Type} {f : α → Checked β} {g : α → β} {l : List α}
    (h : ∀ x ∈ l, f x = .ok (g x)) : l.mapM f = .ok (l.map g) := by
  induction l with
  | nil => rfl
  | cons x l ih =>
    rw [List.mapM_cons, h x List.mem_cons_self, ok_bind,
      ih fun y hy => h y (List.mem_cons_of_mem x hy)]
    rfl

theorem mapM_byteAt {b : Bytes} {off i n : Nat} (h : off + i + n ≤ b.length) :
    ((List.range' i n).mapM fun j => byteAt b (off + j)) = .ok (b.slice (off + i) n) := by
  have hreads : ∀ j ∈ List.range' i n, byteAt b (off + j) = .ok (b.at (off + j)) := by
    intro j hj
    have hrange := List.mem_range'_1.mp hj
    exact byteAt_ok (by omega)
  rw [mapM_ok hreads, Bytes.slice_eq_map h, ← List.map_add_range', List.map_map]
  rfl

/-! ## Loops -/

section

variable {σ : Type} {turn : σ → Checked (Turn σ)}

theorem iterate_next {s s' : σ} (h : turn s = .ok (.next s')) (n : Nat) :
    iterate turn (n + 1) s = iterate turn n s' := by
  rw [iterate, h]

theorem iterate_exit {s s' : σ} (h : turn s = .ok (.exit s')) (n : Nat) :
    iterate turn (n + 1) s = .ok s' := by
  rw [iterate, h]

/-- A turn keeps the invariant and lowers the measure, or ends the loop with `Post`. -/
theorem iterate_spec {Inv Post : σ → Prop} (size : σ → Nat)
    (hturn : ∀ s, Inv s → (∃ s', turn s = .ok (.next s') ∧ Inv s' ∧ size s' < size s) ∨
      ∃ s', turn s = .ok (.exit s') ∧ Post s') :
    ∀ {n : Nat} {s : σ}, Inv s → size s < n → ∃ s', iterate turn n s = .ok s' ∧ Post s' := by
  intro n
  induction n with
  | zero => intro s _ hn; omega
  | succ n ih =>
    intro s hs hn
    rcases hturn s hs with ⟨s', hnext, hinv, hsize⟩ | ⟨s', hexit, hpost⟩
    · rw [iterate_next hnext]
      exact ih hinv (by omega)
    · exact ⟨s', iterate_exit hexit n, hpost⟩

end

end Checked
