import Rtl8814au.Crypto.KeyDerivation

/-!
# Crypto.Prf384

`prf_384` on its message buffer, with checked lengths, and the PRF of 802.11i.

* `prf384At`: the message buffer, the three hashes and the parts of the output they fill.
* `prf384At_eq`: nothing goes wrong, and the output is `prf384`.
* `prf384_eq_ieee`: which is the PRF for 384 bits.
-/

namespace Rtl8814au
namespace Crypto

/-- The hash for counter `i`, on the message buffer and the output. -/
def prf384Turn (key : Bytes) (bufLen : Nat) (s : Bytes × Bytes) (i : Nat) :
    Checked (Bytes × Bytes) := do
  let last ← Checked.sub bufLen 1
  let buf ← Checked.store s.1 last [UInt8.ofNat i]
  let text ← Checked.bytesAt buf 0 bufLen
  let hash ← hmacSha1Of key text
  let chunk ← Checked.bytesAt hash.bytes 0 (if i < 2 then 20 else 8)
  let output ← Checked.store s.2 (i * 20) chunk
  pure (buf, output)

def prf384At (key label data : Bytes) (buf : Buf 256) (output : Bytes) : Checked Bytes := do
  let n ← Checked.add label.length 1
  let n ← Checked.add n data.length
  let bufLen ← Checked.add n 1
  if bufLen > 256 then
    Checked.store output 0 (Bytes.zeros 48)
  else
    let b ← Checked.store buf.bytes 0 label
    let b ← Checked.store b label.length [0]
    let b ← Checked.store b (label.length + 1) data
    let s ← [0, 1, 2].foldlM (prf384Turn key bufLen) (b, output)
    pure s.2

section

variable {key label data : Bytes}

theorem prf384Turn_eq (hkey : key.length < 2 ^ 32 - 64) {text rest done old tail : Bytes} {x : UInt8}
    {i : Nat} (htext : text.length < 256) (hdone : done.length = i * 20)
    (hold : old.length = if i < 2 then 20 else 8) :
    prf384Turn key (text.length + 1) (text ++ ([x] ++ rest), done ++ (old ++ tail)) i =
      .ok (text ++ ([UInt8.ofNat i] ++ rest), done ++
        ((hmacSha1 key (text ++ [UInt8.ofNat i])).bytes.take old.length ++ tail)) := by
  have hwhole : (text ++ ([UInt8.ofNat i] ++ rest)).slice 0 (text.length + 1) =
      text ++ [UInt8.ofNat i] := by
    rw [← List.append_assoc]
    exact Bytes.slice_here (by rw [List.length_append]; rfl)
  have hfits : 0 + (text.length + 1) ≤ (text ++ ([UInt8.ofNat i] ++ rest)).length := by
    simp only [List.length_append, List.length_singleton]
    omega
  have hshort : (text ++ [UInt8.ofNat i]).length < 2 ^ 32 - 64 := by
    rw [List.length_append, List.length_singleton]
    omega
  have hcut : old.length ≤ 20 := by
    rw [hold]
    split
    · decide
    · decide
  have hchunk : (hmacSha1 key (text ++ [UInt8.ofNat i])).bytes.slice 0 old.length =
      (hmacSha1 key (text ++ [UInt8.ofNat i])).bytes.take old.length := rfl
  have hchunkLen : ((hmacSha1 key (text ++ [UInt8.ofNat i])).bytes.take old.length).length =
      old.length := by
    rw [List.length_take, Buf.length_eq]
    omega
  rw [prf384Turn, Checked.sub_ok (by omega), Checked.ok_bind, Nat.add_sub_cancel,
    Checked.store_append rfl (by rfl), Checked.ok_bind, Checked.bytesAt_ok hfits, Checked.ok_bind,
    hwhole, hmacSha1Of_eq hkey hshort, Checked.ok_bind, ← hold,
    Checked.bytesAt_ok (by rw [Buf.length_eq]; omega), Checked.ok_bind, hchunk,
    Checked.store_append hdone hchunkLen.symm, Checked.ok_bind]
  rfl

theorem exists_split {b : Bytes} {n : Nat} (h : n ≤ b.length) :
    ∃ x y : Bytes, b = x ++ y ∧ x.length = n ∧ y.length = b.length - n :=
  ⟨b.take n, b.drop n, (List.take_append_drop n b).symm, List.length_take_of_le h,
    List.length_drop⟩

/-- The message buffer holds label, zero byte and data, then a byte for the counter. -/
theorem prf384_message (h : label.length + data.length ≤ 254) (buf : Buf 256) : ∃ b b' x rest,
    Checked.store buf.bytes 0 label = .ok b ∧ Checked.store b label.length [0] = .ok b' ∧
      Checked.store b' (label.length + 1) data = .ok (label ++ [0] ++ data ++ ([x] ++ rest)) := by
  have hbuf := buf.length_eq
  obtain ⟨b1, r1, hb1, hl1, hr1⟩ := exists_split (show label.length ≤ buf.bytes.length by omega)
  obtain ⟨b2, r2, hb2, hl2, hr2⟩ := exists_split (show 1 ≤ r1.length by omega)
  obtain ⟨b3, r3, hb3, hl3, hr3⟩ := exists_split (show data.length ≤ r2.length by omega)
  obtain ⟨b4, r4, hb4, hl4, -⟩ := exists_split (show 1 ≤ r3.length by omega)
  obtain ⟨x, rfl⟩ := List.length_eq_one_iff.mp hl4
  have h1 : Checked.store buf.bytes 0 label = .ok (label ++ (b2 ++ r2)) := by
    rw [hb1, ← hb2]
    exact Checked.store_append (a := []) rfl hl1
  have h2 : Checked.store (label ++ (b2 ++ r2)) label.length [0] =
      .ok (label ++ [0] ++ (b3 ++ r3)) := by
    rw [Checked.store_append rfl hl2, hb3, List.append_assoc]
  have h3 : Checked.store (label ++ [0] ++ (b3 ++ r3)) (label.length + 1) data =
      .ok (label ++ [0] ++ data ++ ([x] ++ r4)) := by
    rw [Checked.store_append (by rw [List.length_append]; rfl) hl3, hb4]
    simp only [List.append_assoc]
  exact ⟨_, _, x, r4, h1, h2, h3⟩

/-- Nothing goes wrong, and every byte of the output is written. -/
theorem prf384At_eq (hkey : key.length < 2 ^ 32 - 64) (h : label.length + data.length ≤ 254)
    (buf : Buf 256) (output : Buf 48) :
    prf384At key label data buf output.bytes = .ok (prf384 key label data).bytes := by
  have houtput := output.length_eq
  obtain ⟨o1, t1, ho1, hl1, ht1⟩ := exists_split (show 20 ≤ output.bytes.length by omega)
  obtain ⟨o2, o3, ho2, hl2, hl3⟩ := exists_split (show 20 ≤ t1.length by omega)
  obtain ⟨b, b', x, rest, hlabel, hzero, hdata⟩ := prf384_message h buf
  have htext : (label ++ [0] ++ data).length = label.length + 1 + data.length := by
    rw [List.length_append, List.length_append, List.length_singleton]
  generalize hhash : (fun i : Nat => (hmacSha1 key (label ++ [0] ++ data ++ [UInt8.ofNat i])).bytes) =
    hash
  have hlength : ∀ i, (hash i).length = 20 := by
    intro i
    rw [← hhash, Buf.length_eq]
  have hturn : ∀ (i : Nat) (x : UInt8) (done old tail : Bytes), done.length = i * 20 →
      (old.length = if i < 2 then 20 else 8) → prf384Turn key (label.length + 1 + data.length + 1)
        (label ++ [0] ++ data ++ ([x] ++ rest), done ++ (old ++ tail)) i =
      .ok (label ++ [0] ++ data ++ ([UInt8.ofNat i] ++ rest),
        done ++ ((hash i).take old.length ++ tail)) := by
    intro i x done old tail hdone hold
    rw [← htext, ← hhash]
    exact prf384Turn_eq hkey (by omega) hdone hold
  have hwhole : ∀ i, (hash i).take 20 = hash i := by
    intro i
    exact List.take_of_length_le (Nat.le_of_eq (hlength i))
  have hspec : (prf384 key label data).bytes = hash 0 ++ hash 1 ++ (hash 2).take 8 := by
    rw [prf384, if_neg (by omega), ← hhash]
    apply Buf.bytes_ofBytes
    simp only [List.length_append, List.length_take, Buf.length_eq]
    decide
  have hlast : o3.length = 8 := by omega
  have hturn0 := hturn 0 x [] o1 (o2 ++ o3) rfl hl1
  have hturn1 := hturn 1 (UInt8.ofNat 0) (hash 0) o2 o3 (hlength 0) hl2
  have hturn2 := hturn 2 (UInt8.ofNat 1) (hash 0 ++ hash 1) o3 []
    (by rw [List.length_append, hlength, hlength]) hlast
  rw [hl1, hwhole, List.nil_append, List.nil_append] at hturn0
  rw [hl2, hwhole, ← List.append_assoc (hash 0) (hash 1)] at hturn1
  rw [hlast, List.append_nil, List.append_nil] at hturn2
  rw [prf384At, Checked.add_ok (by omega), Checked.ok_bind, Checked.add_ok (by omega),
    Checked.ok_bind, Checked.add_ok (by omega), Checked.ok_bind, if_neg (by omega), hlabel,
    Checked.ok_bind, hzero, Checked.ok_bind, hdata, Checked.ok_bind, ho1, ho2, List.foldlM_cons,
    hturn0, Checked.ok_bind, List.foldlM_cons, hturn1, Checked.ok_bind, List.foldlM_cons,
    hturn2, Checked.ok_bind, hspec]
  rfl

end

/-- The hash for `i = 3` that the loop of the standard adds is cut off. -/
theorem prf384_eq_ieee (key : Bytes) {label data : Bytes} (h : label.length + data.length ≤ 254) :
    (prf384 key label data).bytes = Spec.KeyDerivation.prf key label data 384 := by
  have hhash : ∀ x : UInt8, (hmacSha1 key (label ++ [0] ++ data ++ [x])).bytes =
      Spec.KeyDerivation.hSha1 key label data x := fun x => hmacSha1_eq_rfc2104 _ _
  have hlength : ∀ x : UInt8, (Spec.KeyDerivation.hSha1 key label data x).length = 20 :=
    fun _ => rfl
  have hrange : List.range ((384 + 159) / 160 + 1) = [0, 1, 2, 3] := by decide
  have hspec : Spec.KeyDerivation.prf key label data 384 =
      (Spec.KeyDerivation.hSha1 key label data 0 ++ (Spec.KeyDerivation.hSha1 key label data 1 ++
        (Spec.KeyDerivation.hSha1 key label data 2 ++
          Spec.KeyDerivation.hSha1 key label data 3))).take 48 := by
    rw [Spec.KeyDerivation.prf, hrange]
    simp only [List.flatMap_cons, List.flatMap_nil, List.append_nil]
    rfl
  rw [hspec, prf384, if_neg (by omega)]
  simp only [hhash]
  rw [Buf.bytes_ofBytes (by simp only [List.length_append, List.length_take, hlength]; decide)]
  have hwhole : ∀ (x : UInt8) (n : Nat), 20 ≤ n →
      (Spec.KeyDerivation.hSha1 key label data x).take n = Spec.KeyDerivation.hSha1 key label data x := by
    intro x n hn
    exact List.take_of_length_le (by rwa [hlength])
  have hcut : ((Spec.KeyDerivation.hSha1 key label data 2) ++
      Spec.KeyDerivation.hSha1 key label data 3).take 8 =
        (Spec.KeyDerivation.hSha1 key label data 2).take 8 :=
    List.take_append_of_le_length (by rw [hlength]; decide)
  rw [List.take_append, hlength, hwhole 0 48 (by decide), List.take_append, hlength,
    hwhole 1 (48 - 20) (by decide), show 48 - 20 - 20 = 8 from rfl, hcut, List.append_assoc]

end Crypto
end Rtl8814au
