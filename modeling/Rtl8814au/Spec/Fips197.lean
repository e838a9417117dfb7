import Rtl8814au.Lib.Gf256

/-!
# Spec.Fips197

The AES-128 cipher as FIPS 197 defines it, over the field with 256 elements: the S-box as an affine
transformation of the inverse, the columns as polynomials modulo `X^4 + 1`, the round constants as
powers of `x`.
-/

namespace Rtl8814au
namespace Spec
namespace Fips197

open Gf256 Polynomial

/-- Element `s r c` is in row `r` and column `c`. -/
abbrev State := Fin 4 → Fin 4 → Elem

abbrev Word := Fin 4 → Elem

/-- Bit `i` of the result is the sum of bits `i`, `i + 4`, `i + 5`, `i + 6` and `i + 7` modulo 8,
and of bit `i` of the constant 63. -/
def affine (b : UInt8) : UInt8 :=
  let bit := fun i : Nat => b.toNat.testBit (i % 8)
  UInt8.ofNat (Nat.ofBits fun i : Fin 8 =>
    bit i ^^ bit (i + 4) ^^ bit (i + 5) ^^ bit (i + 6) ^^ bit (i + 7) ^^ (0x63 : Nat).testBit i)

/-- The inverse of zero is zero. -/
noncomputable def sBox (a : Elem) : Elem := ofByte (affine (toByte a⁻¹))

noncomputable def subBytes (s : State) : State := fun r c => sBox (s r c)

def shiftRows (s : State) : State := fun r c => s r (c + r)

/-- The polynomial that every column is multiplied by. -/
noncomputable def columnFactor : Elem[X] :=
  C (ofByte 0x03) * X ^ 3 + C (ofByte 0x01) * X ^ 2 + C (ofByte 0x01) * X + C (ofByte 0x02)

noncomputable def columnPolynomial (a : Word) : Elem[X] :=
  C (a 3) * X ^ 3 + C (a 2) * X ^ 2 + C (a 1) * X + C (a 0)

noncomputable def mixColumn (a : Word) : Word := fun r =>
  ((columnFactor * columnPolynomial a) %ₘ (X ^ 4 + 1)).coeff r

noncomputable def mixColumns (s : State) : State := fun r c => mixColumn (fun i => s i c) r

/-! ## The key schedule -/

noncomputable def subWord (a : Word) : Word := fun r => sBox (a r)

def rotWord (a : Word) : Word := fun r => a (r + 1)

noncomputable def Rcon (j : Nat) : Word := fun r => if r = 0 then x ^ (j - 1) else 0

/-- Word `i` of the key schedule. -/
noncomputable def w (key : Buf 16) (i : Nat) : Word :=
  if i < 4 then fun r => ofByte (key.bytes.at (4 * i + r))
  else if i % 4 = 0 then w key (i - 4) + (subWord (rotWord (w key (i - 1))) + Rcon (i / 4))
  else w key (i - 4) + w key (i - 1)
termination_by i

noncomputable def addRoundKey (key : Buf 16) (s : State) (round : Nat) : State := fun r c =>
  s r c + w key (4 * round + c) r

/-! ## The cipher -/

noncomputable def round (key : Buf 16) (s : State) (i : Nat) : State :=
  addRoundKey key (mixColumns (shiftRows (subBytes s))) i

noncomputable def stateOf (input : Buf 16) : State := fun r c => ofByte (input.bytes.at (r + 4 * c))

noncomputable def output (s : State) : Buf 16 where
  bytes := (List.finRange 4).flatMap fun c => (List.finRange 4).map fun r => toByte (s r c)
  length_eq := by simp

noncomputable def cipher (key input : Buf 16) : Buf 16 :=
  let s := addRoundKey key (stateOf input) 0
  let s := [1, 2, 3, 4, 5, 6, 7, 8, 9].foldl (round key) s
  output (addRoundKey key (shiftRows (subBytes s)) 10)

end Fips197
end Spec
end Rtl8814au
