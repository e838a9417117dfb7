import Mathlib.Algebra.Group.Nat.Defs
import Mathlib.Data.List.Nodup
import Mathlib.Tactic.Common

/-!
# Lib.KeyLedger

A cipher key with its packet counter, and the ledger of what was encrypted.

* `State.next`: encrypting takes one packet number, installing a key restarts the counter, deriving
  a key anew keeps it.
* `Fresh`: a key is only put in force before anything was encrypted under it.
* `inv_next`, `Inv.nodup_used`: under that guard no pair of key and 48-bit packet number repeats.
* `intact_next`: the key in use is the installed one as long as none is derived while enabled.
-/

namespace KeyLedger

variable {K : Type}

structure State (K : Type) where
  key : K
  counter : UInt64
  enabled : Bool

inductive KeyEvent (K : Type) where
  | idle
  | encrypt
  | rederive (key : K)
  | install (key : K)
  | clear

def State.next (s : State K) : KeyEvent K → State K
  | .idle => s
  | .encrypt => { s with counter := s.counter + 1 }
  | .rederive key => { s with key := key }
  | .install key => { key := key, counter := 1, enabled := true }
  | .clear => { s with enabled := false }

/-- The key and the packet number an event uses up. -/
def State.uses (s : State K) : KeyEvent K → List (K × UInt64)
  | .encrypt => [(s.key, s.counter)]
  | _ => []

def KeyEvent.installs : KeyEvent K → List K
  | .install key => [key]
  | _ => []

structure Ledger (K : Type) where
  state : State K
  used : List (K × UInt64)
  installs : List K

def Ledger.next (l : Ledger K) (e : KeyEvent K) : Ledger K where
  state := l.state.next e
  used := l.used ++ l.state.uses e
  installs := l.installs ++ e.installs

/-! ## Packet numbers -/

section Nonces

variable [DecidableEq K]

def Ledger.numbers (l : Ledger K) (key : K) : List UInt64 :=
  (l.used.filter fun u => u.1 = key).map Prod.snd

/-- Consecutive numbers from `c` on. -/
def Consecutive (c : UInt64) (ns : List UInt64) : Prop :=
  ns = (List.range ns.length).map fun i => c + UInt64.ofNat i

theorem Consecutive.snoc {c : UInt64} {ns : List UInt64} (h : Consecutive c ns) :
    Consecutive c (ns ++ [c + UInt64.ofNat ns.length]) := by
  unfold Consecutive
  rw [List.length_append, List.length_singleton, List.range_succ, List.map_append, ← h]
  rfl

/-- Fewer than `2 ^ 48` consecutive numbers have distinct low 48 bits. -/
theorem Consecutive.nodup {c : UInt64} {ns : List UInt64} (h : Consecutive c ns)
    (hlen : ns.length < 2 ^ 48) : (ns.map fun n => n.toNat % 2 ^ 48).Nodup := by
  rw [h, List.map_map]
  refine List.Nodup.map_on ?_ List.nodup_range
  intro i hi j hj hij
  rw [List.mem_range] at hi hj
  simp only [Function.comp_apply, UInt64.toNat_add, UInt64.toNat_ofNat'] at hij
  omega

structure Ledger.Inv (l : Ledger K) : Prop where
  consecutive : ∀ key, ∃ c, Consecutive c (l.numbers key)
  current : ∃ c, Consecutive c (l.numbers l.state.key) ∧
    l.state.counter = c + UInt64.ofNat (l.numbers l.state.key).length

/-- A key that is put in force was not used before. -/
def Ledger.Fresh (l : Ledger K) : KeyEvent K → Prop
  | .rederive key => key ∉ l.used.map Prod.fst
  | .install key => key ∉ l.used.map Prod.fst
  | _ => True

instance (l : Ledger K) (e : KeyEvent K) : Decidable (l.Fresh e) := by
  cases e <;> unfold Ledger.Fresh <;> infer_instance

theorem numbers_of_unused {l : Ledger K} {key : K} (h : key ∉ l.used.map Prod.fst) :
    l.numbers key = [] := by
  rw [Ledger.numbers, List.map_eq_nil_iff, List.filter_eq_nil_iff]
  rintro ⟨k, n⟩ hmem hk
  obtain rfl : k = key := by simpa using hk
  exact h (List.mem_map_of_mem hmem)

theorem Consecutive.nil (c : UInt64) : Consecutive c [] := rfl

/-- The first number under a fresh key is the counter's value. -/
theorem Ledger.Inv.putInForce {l : Ledger K} (hi : l.Inv) {key : K} (h : key ∉ l.used.map Prod.fst)
    (counter : UInt64) (enabled : Bool) (installs : List K) :
    Ledger.Inv { state := { key := key, counter := counter, enabled := enabled },
                 used := l.used ++ [], installs := installs } := by
  rw [List.append_nil]
  refine ⟨hi.consecutive, counter, ?_, ?_⟩
  · exact (numbers_of_unused h).symm ▸ Consecutive.nil counter
  · have hnil : (l.numbers key).length = 0 := by rw [numbers_of_unused h]; rfl
    change counter = counter + UInt64.ofNat (l.numbers key).length
    rw [hnil]
    exact (UInt64.add_zero counter).symm

/-- Events that use nothing up and leave the key alone. -/
theorem Ledger.Inv.keeps {l : Ledger K} (hi : l.Inv) (enabled : Bool) (installs : List K) :
    Ledger.Inv { state := { l.state with enabled := enabled },
                 used := l.used ++ [], installs := installs } := by
  rw [List.append_nil]
  exact ⟨hi.consecutive, hi.current⟩

theorem Ledger.Inv.encrypts {l : Ledger K} (hi : l.Inv) : (l.next .encrypt).Inv := by
  obtain ⟨c, hc, hcounter⟩ := hi.current
  have hkey : (l.next .encrypt).numbers l.state.key = l.numbers l.state.key ++ [l.state.counter] := by
    simp only [Ledger.numbers, Ledger.next, State.uses, List.filter_append, List.map_append]
    simp
  have hcur : Consecutive c ((l.next .encrypt).numbers l.state.key) := by
    rw [hkey, hcounter]
    exact hc.snoc
  refine ⟨?_, c, hcur, ?_⟩
  · intro key
    by_cases hk : l.state.key = key
    · exact ⟨c, hk ▸ hcur⟩
    · have hother : (l.next .encrypt).numbers key = l.numbers key := by
        simp only [Ledger.numbers, Ledger.next, State.uses, List.filter_append, List.map_append]
        simp [hk]
      rw [hother]
      exact hi.consecutive key
  · change l.state.counter + 1 = c + UInt64.ofNat ((l.next .encrypt).numbers l.state.key).length
    rw [hkey, hcounter, List.length_append, List.length_singleton]
    apply UInt64.toNat_inj.mp
    simp only [UInt64.toNat_add, UInt64.toNat_ofNat', UInt64.reduceToNat]
    omega

theorem inv_next {l : Ledger K} {e : KeyEvent K} (hi : l.Inv) (hf : l.Fresh e) : (l.next e).Inv := by
  cases e with
  | idle => exact hi.keeps _ _
  | encrypt => exact hi.encrypts
  | rederive key => exact hi.putInForce hf _ _ _
  | install key => exact hi.putInForce hf _ _ _
  | clear => exact hi.keeps _ _

/-- Pairs are distinct when those with equal first components are. -/
theorem nodup_of_filter {α β : Type} [DecidableEq α] {us : List (α × β)}
    (h : ∀ a, ((us.filter fun u => u.1 = a).map Prod.snd).Nodup) : us.Nodup := by
  induction us with
  | nil => exact List.nodup_nil
  | cons u us ih =>
    rw [List.nodup_cons]
    constructor
    · intro hmem
      have hu := h u.1
      rw [List.filter_cons_of_pos (by simp), List.map_cons, List.nodup_cons] at hu
      exact hu.1 (List.mem_map.mpr ⟨u, List.mem_filter.mpr ⟨hmem, by simp⟩, rfl⟩)
    · apply ih
      intro a
      have ha := h a
      by_cases hua : u.1 = a
      · rw [List.filter_cons_of_pos (by simpa using hua), List.map_cons] at ha
        exact (List.nodup_cons.mp ha).2
      · rwa [List.filter_cons_of_neg (by simpa using hua)] at ha

/-- No pair of key and 48-bit packet number repeats. -/
theorem Ledger.Inv.nodup_used {l : Ledger K} (hi : l.Inv)
    (hlen : ∀ key, (l.numbers key).length < 2 ^ 48) :
    (l.used.map fun u => (u.1, u.2.toNat % 2 ^ 48)).Nodup := by
  apply nodup_of_filter
  intro key
  have hfilter : ((l.used.map fun u => (u.1, u.2.toNat % 2 ^ 48)).filter fun u => u.1 = key).map
      Prod.snd = (l.numbers key).map fun n => n.toNat % 2 ^ 48 := by
    simp only [Ledger.numbers, List.filter_map, List.map_map]
    rfl
  obtain ⟨c, hc⟩ := hi.consecutive key
  rw [hfilter]
  exact hc.nodup (hlen key)

end Nonces

/-! ## The installed key -/

/-- While enabled, the key is the one installed last. -/
def Ledger.Intact (l : Ledger K) : Prop :=
  l.state.enabled = true → l.installs.getLast? = some l.state.key

/-- No key is derived while enabled. -/
def Ledger.Guarded (l : Ledger K) : KeyEvent K → Prop
  | .rederive _ => l.state.enabled = false
  | _ => True

instance (l : Ledger K) (e : KeyEvent K) : Decidable (l.Guarded e) := by
  cases e <;> unfold Ledger.Guarded <;> infer_instance

theorem intact_next {l : Ledger K} {e : KeyEvent K} (hi : l.Intact) (hg : l.Guarded e) :
    (l.next e).Intact := by
  intro hen
  cases e with
  | idle => simpa [Ledger.next, KeyEvent.installs, State.next] using hi hen
  | encrypt => simpa [Ledger.next, KeyEvent.installs, State.next] using hi hen
  | rederive key =>
    have hoff : l.state.enabled = false := hg
    have hon : l.state.enabled = true := hen
    rw [hoff] at hon
    cases hon
  | install key => simp [Ledger.next, KeyEvent.installs, State.next]
  | clear => cases hen

end KeyLedger
