import Rtl8814au.Lib.Bytes

/-!
# Lib.RegisterFile

Byte-addressed registers, as a host sees them that reads and writes runs of bytes.

* `load`, `store` — the bytes from an address on.
* `load_store`, `store_apart` — what was stored is loaded, and elsewhere nothing changes.
-/

abbrev RegisterFile := Nat → UInt8

namespace RegisterFile

def load (m : RegisterFile) (address n : Nat) : Bytes := (List.range n).map fun i => m (address + i)

def store (m : RegisterFile) (address : Nat) (data : Bytes) : RegisterFile := fun a =>
  if address ≤ a ∧ a < address + data.length then data.at (a - address) else m a

section

variable {m : RegisterFile} {address n : Nat} {data : Bytes}

@[simp] theorem length_load : (m.load address n).length = n := by
  rw [load, List.length_map, List.length_range]

theorem at_load {i : Nat} (h : i < n) : (m.load address n).at i = m (address + i) := by
  rw [Bytes.at, load, List.getD_eq_getElem?_getD, List.getElem?_map, List.getElem?_range h]
  rfl

/-- The same bytes are loaded where the registers are the same. -/
theorem load_congr {m' : RegisterFile} (h : ∀ i < n, m' (address + i) = m (address + i)) :
    m'.load address n = m.load address n :=
  List.map_congr_left fun i hi => h i (List.mem_range.mp hi)

theorem store_at {i : Nat} (h : i < data.length) : m.store address data (address + i) = data.at i := by
  rw [store, if_pos ⟨Nat.le_add_right _ _, Nat.add_lt_add_left h _⟩, Nat.add_sub_cancel_left]

theorem store_apart {a : Nat} (h : a < address ∨ address + data.length ≤ a) :
    m.store address data a = m a := by
  rw [store, if_neg]
  omega

theorem load_store (m : RegisterFile) (address : Nat) (data : Bytes) :
    (m.store address data).load address data.length = data := by
  refine List.ext_getElem length_load fun i hi hi' => ?_
  have hat : ((m.store address data).load address data.length).at i = data.at i := by
    rw [at_load hi', store_at hi']
  rwa [Bytes.at, Bytes.at, List.getD_eq_getElem _ _ hi, List.getD_eq_getElem _ _ hi'] at hat

end

end RegisterFile
