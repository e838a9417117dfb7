import Mathlib.Algebra.Polynomial.SpecificDegree
import Mathlib.FieldTheory.Finite.Basic
import Mathlib.FieldTheory.Finiteness
import Mathlib.RingTheory.AdjoinRoot
import Mathlib.Tactic.ComputeDegree
import Mathlib.Tactic.IntervalCases
import Mathlib.Tactic.LinearCombination
import Rtl8814au.Lib.Bytes

/-!
# Lib.Gf256

The field with 256 elements: polynomials over the field with two, modulo
`X^8 + X^4 + X^3 + X + 1`. A byte is an element, its bits the coefficients.

* `ofByte`              — the element of a byte; `ofByte_xor` and `ofByte_mul` compute in bytes.
* `irreducible_modulus` — the modulus has no factor, so that `Elem` is a field. Were there one of
  degree `d` up to four, then `x ^ 2 ^ d + x` would vanish modulo the factor, but it has an inverse.
* `toByte`              — the byte of an element, as bytes and elements are one to one.
-/

namespace Gf256

open Polynomial

noncomputable def modulus : (ZMod 2)[X] := X ^ 8 + X ^ 4 + X ^ 3 + X + 1

abbrev Elem := AdjoinRoot modulus

noncomputable def x : Elem := AdjoinRoot.root modulus

noncomputable def ofBit (p : Bool) : Elem := if p then 1 else 0

noncomputable def ofByte (b : UInt8) : Elem :=
  ∑ i ∈ Finset.range 8, ofBit (b.toNat.testBit i) * x ^ i

theorem two_eq_zero : (2 : Elem) = 0 := by
  have h : (2 : ZMod 2) = 0 := rfl
  rw [← map_ofNat (algebraMap (ZMod 2) Elem) 2, h, map_zero]

/-- What reduction by the modulus comes to. -/
theorem x_pow_eight : x ^ 8 = x ^ 4 + x ^ 3 + x + 1 := by
  have h : AdjoinRoot.mk modulus (X ^ 8 + X ^ 4 + X ^ 3 + X + 1) = 0 := AdjoinRoot.mk_self
  simp only [map_add, map_pow, AdjoinRoot.mk_X, map_one] at h
  rw [x]
  linear_combination h - (AdjoinRoot.root modulus ^ 4 + AdjoinRoot.root modulus ^ 3 +
    AdjoinRoot.root modulus + 1) * two_eq_zero

/-! ## Addition -/

theorem ofBit_xor (p q : Bool) : ofBit (p ^^ q) = ofBit p + ofBit q := by
  cases p with
  | false => simp [ofBit]
  | true =>
    cases q with
    | false => simp [ofBit]
    | true =>
      simp only [ofBit, Bool.xor_self, Bool.false_eq_true, if_false, if_true]
      linear_combination -two_eq_zero

theorem ofByte_xor (a b : UInt8) : ofByte (a ^^^ b) = ofByte a + ofByte b := by
  simp only [ofByte, UInt8.toNat_xor, Nat.testBit_xor, ofBit_xor, add_mul, Finset.sum_add_distrib]

theorem ofByte_zero : ofByte 0 = 0 := by
  simp [ofByte, ofBit]

theorem ofByte_one : ofByte 1 = 1 := by
  simp [ofByte, ofBit, Finset.sum_range_succ, Nat.testBit]

theorem ofByte_two : ofByte 2 = x := by
  simp [ofByte, ofBit, Finset.sum_range_succ, Nat.testBit]

/-! ## Multiplication -/

/-- The product with `x`: a bit that is shifted out comes back as the low part of the modulus. -/
def double (b : UInt8) : UInt8 := (b <<< 1) ^^^ if b &&& 0x80 ≠ 0 then 0x1b else 0

/-- The bits of a product with `x`, from the lowest. -/
def doubleBits (b : UInt8) : List Bool :=
  let bit := b.toNat.testBit
  [bit 7, bit 0 ^^ bit 7, bit 1, bit 2 ^^ bit 7, bit 3 ^^ bit 7, bit 4, bit 5, bit 6]

theorem testBit_double (b : UInt8) : (List.range 8).map (double b).toNat.testBit = doubleBits b :=
  Bytes.forall_byte (P := fun b => (List.range 8).map (double b).toNat.testBit = doubleBits b)
    (by decide +kernel) b

theorem ofByte_double (b : UInt8) : ofByte (double b) = x * ofByte b := by
  have hbits := testBit_double b
  simp only [doubleBits, List.range, List.range.loop, List.map_cons, List.map_nil, List.cons.injEq,
    and_true] at hbits
  obtain ⟨h0, h1, h2, h3, h4, h5, h6, h7⟩ := hbits
  simp only [ofByte, Finset.sum_range_succ, Finset.sum_range_zero, h0, h1, h2, h3, h4, h5, h6, h7,
    ofBit_xor]
  linear_combination -ofBit (b.toNat.testBit 7) * x_pow_eight

/-- The product of two bytes, by the bits of the second from the highest down. -/
def mul (a b : UInt8) : UInt8 :=
  (List.range 8).foldr (fun i r => double r ^^^ if b.toNat.testBit i then a else 0) 0

theorem ofByte_ite (p : Bool) (a : UInt8) : ofByte (if p then a else 0) = ofBit p * ofByte a := by
  cases p with
  | false => simp [ofBit, ofByte_zero]
  | true => simp [ofBit]

theorem ofByte_mul (a b : UInt8) : ofByte (mul a b) = ofByte a * ofByte b := by
  have hsum : ofByte b = ∑ i ∈ Finset.range 8, ofBit (b.toNat.testBit i) * x ^ i := rfl
  simp only [mul, List.range, List.range.loop, List.foldr_cons, List.foldr_nil, ofByte_xor,
    ofByte_double, ofByte_ite, ofByte_zero, hsum, Finset.sum_range_succ, Finset.sum_range_zero]
  ring

/-! ## The modulus is irreducible -/

theorem natDegree_modulus : modulus.natDegree = 8 := by
  unfold modulus
  compute_degree!

theorem monic_modulus : modulus.Monic := by
  unfold modulus
  monicity!

/-- The number of polynomials below the modulus. -/
theorem card_adjoinRoot {g : (ZMod 2)[X]} (hg : g.Monic) :
    Nat.card (AdjoinRoot g) = 2 ^ g.natDegree := by
  have hfinite : Module.Finite (ZMod 2) (AdjoinRoot g) := (AdjoinRoot.powerBasis' hg).finite
  rw [Module.natCard_eq_pow_finrank (K := ZMod 2), Nat.card_zmod,
    (AdjoinRoot.powerBasis' hg).finrank, AdjoinRoot.powerBasis'_dim]

def frobenius (d : Nat) : UInt8 := Nat.repeat (fun b => mul b b) d 2

theorem ofByte_frobenius (d : Nat) : ofByte (frobenius d) = x ^ 2 ^ d := by
  induction d with
  | zero => rw [pow_zero, pow_one, ← ofByte_two]; rfl
  | succ d ih =>
    have hstep : frobenius (d + 1) = mul (frobenius d) (frobenius d) := rfl
    rw [hstep, ofByte_mul, ih, pow_succ, pow_mul, sq]

/-- The inverse of `x ^ 2 ^ d + x`, for the degrees a factor can have. -/
theorem mul_frobenius {d : Nat} (hpos : 0 < d) (hle : d ≤ 4) :
    ∃ c, mul (frobenius d ^^^ 2) c = 1 := by
  interval_cases d
  · exact ⟨0x7b, by decide +kernel⟩
  · exact ⟨0xaa, by decide +kernel⟩
  · exact ⟨0x3f, by decide +kernel⟩
  · exact ⟨0x51, by decide +kernel⟩

theorem isUnit_frobenius {d : Nat} (hpos : 0 < d) (hle : d ≤ 4) : IsUnit (x ^ 2 ^ d + x) := by
  obtain ⟨c, hc⟩ := mul_frobenius hpos hle
  apply IsUnit.of_mul_eq_one (ofByte c)
  rw [← ofByte_frobenius, ← ofByte_two, ← ofByte_xor, ← ofByte_mul, hc, ofByte_one]

/-- A factor of degree up to four would have a root in a field in which `x ^ 2 ^ d` is `x`. -/
theorem irreducible_modulus : Irreducible modulus := by
  have hone : modulus ≠ 1 := by
    intro h
    have hdeg := natDegree_modulus
    rw [h, natDegree_one] at hdeg
    omega
  rw [monic_modulus.irreducible_iff_lt_natDegree_lt hone, natDegree_modulus]
  intro q hq hdeg hdvd
  obtain ⟨hpos, hle⟩ := Finset.mem_Ioc.mp hdeg
  obtain ⟨g, hmonic, hirr, hgq⟩ :=
    exists_monic_irreducible_factor q (not_isUnit_of_natDegree_pos q hpos)
  have hgdeg : g.natDegree ≤ 4 := (natDegree_le_of_dvd hgq hq.ne_zero).trans hle
  have hfield : Fact (Irreducible g) := ⟨hirr⟩
  have hcard := card_adjoinRoot hmonic
  have hfinite : Finite (AdjoinRoot g) := Nat.finite_of_card_ne_zero (by rw [hcard]; positivity)
  have hfintype : Fintype (AdjoinRoot g) := Fintype.ofFinite _
  rw [Nat.card_eq_fintype_card] at hcard
  have hroot : modulus.eval₂ (AdjoinRoot.of g) (AdjoinRoot.root g) = 0 :=
    eval₂_eq_zero_of_dvd_of_eval₂_eq_zero _ _ (hgq.trans hdvd) (AdjoinRoot.eval₂_root g)
  let toFactor : Elem →+* AdjoinRoot g := AdjoinRoot.lift _ _ hroot
  have hx : toFactor x = AdjoinRoot.root g := AdjoinRoot.lift_root hroot
  have hunit := (isUnit_frobenius hirr.natDegree_pos hgdeg).map toFactor
  have hpow := FiniteField.pow_card (AdjoinRoot.root g)
  rw [hcard] at hpow
  rw [map_add, map_pow, hx, hpow, ← two_mul, ← hx, ← map_ofNat toFactor 2, two_eq_zero, map_zero,
    zero_mul] at hunit
  exact not_isUnit_zero hunit

instance : Fact (Irreducible modulus) := ⟨irreducible_modulus⟩

/-! ## Bytes and elements -/

def power (n : Nat) : UInt8 := Nat.repeat double n 1

theorem ofByte_power (n : Nat) : ofByte (power n) = x ^ n := by
  induction n with
  | zero => exact ofByte_one
  | succ n ih =>
    have hstep : power (n + 1) = double (power n) := rfl
    rw [hstep, ofByte_double, ih, pow_succ']

theorem ofByte_surjective : Function.Surjective ofByte := by
  intro a
  obtain ⟨p, rfl⟩ := AdjoinRoot.mk_surjective a
  induction p using Polynomial.induction_on' with
  | add p q hp hq =>
    obtain ⟨b, hb⟩ := hp
    obtain ⟨c, hc⟩ := hq
    exact ⟨b ^^^ c, by rw [ofByte_xor, hb, hc, map_add]⟩
  | monomial n c =>
    obtain rfl | rfl : c = 0 ∨ c = 1 := by
      revert c
      decide
    · exact ⟨0, by rw [ofByte_zero, monomial_zero_right, map_zero]⟩
    · refine ⟨power n, ?_⟩
      rw [ofByte_power, monomial_one_right_eq_X_pow, map_pow, AdjoinRoot.mk_X]
      rfl

/-- There are as many elements as bytes. -/
theorem ofByte_bijective : Function.Bijective ofByte := by
  let toFin : UInt8 ≃ Fin 256 := ⟨UInt8.toFin, UInt8.ofFin, fun _ => rfl, fun _ => rfl⟩
  have hfinite : Finite UInt8 := Finite.of_equiv _ toFin.symm
  apply ofByte_surjective.bijective_of_nat_card_le
  rw [Nat.card_congr toFin, Nat.card_fin, card_adjoinRoot monic_modulus, natDegree_modulus]
  norm_num

noncomputable def toByte : Elem → UInt8 := (Equiv.ofBijective ofByte ofByte_bijective).symm

@[simp] theorem toByte_ofByte (b : UInt8) : toByte (ofByte b) = b :=
  (Equiv.ofBijective ofByte ofByte_bijective).symm_apply_apply b

/-- The inverse of the field, where the product is one. -/
theorem inv_ofByte {b c : UInt8} (h : mul b c = 1) : (ofByte b)⁻¹ = ofByte c := by
  apply inv_eq_of_mul_eq_one_right
  rw [← ofByte_mul, h, ofByte_one]

end Gf256
