import Rtl8814au.Spec.Sha1

/-!
# Crypto.Sha1Correct

The incremental SHA-1 computes the one-piece one, whatever the message is cut into.

* `Absorbed`: what a context holds of the message so far: its blocks in the state, the rest in the
  buffer, the length in the bit count.
* `absorbed_sha1Update`, `sha1Final_eq`: one call keeps it, and the digest follows from it.
* `hmacSha1_eq`, `prf384_eq`: HMAC and the PTK derivation.
-/

namespace Rtl8814au
namespace Crypto

def concat (blocks : List (Buf 64)) : Bytes := (blocks.map Buf.bytes).flatten

structure Absorbed (ctx : Sha1Ctx) (blocks : List (Buf 64)) (rest : Bytes) : Prop where
  state : ctx.state = blocks.foldl sha1Transform sha1InitState
  short : rest.length < 64
  buffer : ctx.buffer.bytes.take rest.length = rest
  bitCount : ctx.bitCount = UInt64.ofNat (8 * (concat blocks ++ rest).length)

theorem concat_append (as bs : List (Buf 64)) : concat (as ++ bs) = concat as ++ concat bs := by
  simp only [concat, List.map_append, List.flatten_append]

theorem concat_singleton (b : Buf 64) : concat [b] = b.bytes := by simp [concat]

theorem length_concat (blocks : List (Buf 64)) : (concat blocks).length = 64 * blocks.length := by
  induction blocks with
  | nil => rfl
  | cons b bs ih =>
    have hcons : concat (b :: bs) = b.bytes ++ concat bs := rfl
    rw [hcons, List.length_append, b.length_eq, ih, List.length_cons]
    omega

/-- The bytes in the buffer are counted by the bit count. -/
theorem buffered_eq {ctx : Sha1Ctx} {blocks : List (Buf 64)} {rest : Bytes}
    (h : Absorbed ctx blocks rest) : ctx.buffered = rest.length := by
  have hshort := h.short
  rw [Sha1Ctx.buffered, h.bitCount, List.length_append, length_concat]
  have h3 : (3 : UInt64).toNat % 64 = 3 := rfl
  have h63 : (63 : UInt64).toNat = 2 ^ 6 - 1 := rfl
  simp only [UInt64.toNat_and, UInt64.toNat_shiftRight, UInt64.toNat_ofNat', h3, h63,
    Nat.and_two_pow_sub_one_eq_mod, Nat.shiftRight_eq_div_pow]
  omega

theorem sha1Blocks_eq (n : Nat) (state : Sha1State) (data : Bytes) (h : 64 * n ≤ data.length) :
    ∃ blocks : List (Buf 64), blocks.length = n ∧ data = concat blocks ++ (sha1Blocks n state data).2 ∧
      (sha1Blocks n state data).1 = blocks.foldl sha1Transform state := by
  induction n generalizing state data with
  | zero => exact ⟨[], rfl, rfl, rfl⟩
  | succ n ih =>
    obtain ⟨blocks, hlen, hdata, hstate⟩ := ih (sha1Transform state (Buf.ofBytes 64 (data.take 64)))
      (data.drop 64) (by rw [List.length_drop]; omega)
    have htake : (data.take 64).length = 64 := by rw [List.length_take]; omega
    have hcons : concat (Buf.ofBytes 64 (data.take 64) :: blocks) = data.take 64 ++ concat blocks := by
      rw [← List.singleton_append, concat_append, concat_singleton, Buf.bytes_ofBytes htake]
    refine ⟨Buf.ofBytes 64 (data.take 64) :: blocks, by rw [List.length_cons, hlen], ?_, ?_⟩
    · rw [hcons, sha1Blocks, List.append_assoc, ← hdata, List.take_append_drop]
    · rw [sha1Blocks, List.foldl_cons, hstate]

/-! ## One call of the update -/

theorem absorbed_sha1Init : Absorbed sha1Init [] [] := ⟨rfl, by decide, rfl, rfl⟩

theorem bitCount_add (m n : Nat) :
    UInt64.ofNat (8 * m) + (UInt64.ofNat n <<< 3) = UInt64.ofNat (8 * (m + n)) := by
  apply UInt64.toNat_inj.mp
  have h3 : (3 : UInt64).toNat % 64 = 3 := rfl
  simp only [UInt64.toNat_add, UInt64.toNat_shiftLeft, UInt64.toNat_ofNat', h3,
    Nat.shiftLeft_eq]
  omega

theorem absorbed_sha1Update {ctx : Sha1Ctx} {blocks : List (Buf 64)} {rest : Bytes}
    (h : Absorbed ctx blocks rest) (data : Bytes) :
    ∃ blocks' rest', Absorbed (sha1Update ctx data) blocks' rest' ∧
      concat blocks' ++ rest' = concat blocks ++ rest ++ data := by
  have hshort := h.short
  have hbits : ctx.bitCount + (UInt64.ofNat data.length <<< 3) =
      UInt64.ofNat (8 * (concat blocks ++ rest ++ data).length) := by
    rw [h.bitCount, bitCount_add, @List.length_append _ (concat blocks ++ rest)]
  unfold sha1Update
  rw [buffered_eq h]
  dsimp only
  split
  · rename_i hfit
    refine ⟨blocks, rest ++ data, ⟨h.state, by rwa [List.length_append], ?_, ?_⟩,
      (List.append_assoc _ _ _).symm⟩
    · rw [List.length_append, Buf.take_copyAt _ (by omega), h.buffer]
    · rw [← List.append_assoc]
      exact hbits
  · rename_i hfull
    -- the buffer is filled up to a block, and the blocks behind it follow
    have hfirst : (data.take (64 - rest.length)).length = 64 - rest.length := by
      rw [List.length_take]
      omega
    have hblock : (ctx.buffer.copyAt rest.length (data.take (64 - rest.length))).bytes =
        rest ++ data.take (64 - rest.length) := by
      rw [Buf.bytes_fill _ (by omega), h.buffer]
    obtain ⟨more, hlen, hdata, hstate⟩ := sha1Blocks_eq ((data.drop (64 - rest.length)).length / 64)
      (sha1Transform ctx.state (ctx.buffer.copyAt rest.length (data.take (64 - rest.length))))
      (data.drop (64 - rest.length)) (Nat.mul_div_le _ _)
    generalize sha1Blocks _ _ _ = r at hdata hstate ⊢
    generalize ctx.buffer.copyAt rest.length (data.take (64 - rest.length)) = block at hblock hstate ⊢
    have hrest : r.2.length < 64 := by
      have hl := congrArg List.length hdata
      rw [List.length_append, length_concat, hlen] at hl
      omega
    have hmsg : concat (blocks ++ block :: more) ++ r.2 = concat blocks ++ rest ++ data := by
      rw [← List.singleton_append, concat_append, concat_append, concat_singleton, hblock]
      calc
        _ = concat blocks ++ rest ++ (data.take (64 - rest.length) ++ (concat more ++ r.2)) := by
          simp only [List.append_assoc]
        _ = concat blocks ++ rest ++ data := by rw [← hdata, List.take_append_drop]
    refine ⟨blocks ++ block :: more, r.2, ⟨?_, hrest, ?_, ?_⟩, hmsg⟩
    · rw [List.foldl_append, List.foldl_cons, ← h.state]
      exact hstate
    · have htake := Buf.take_copyAt block (show 0 + r.2.length ≤ 64 by omega)
      rwa [List.take_zero, List.nil_append, Nat.zero_add] at htake
    · rw [hmsg]
      exact hbits

/-! ## The digest -/

theorem chunksOf_concat (blocks : List (Buf 64)) (x : Bytes) :
    Bytes.chunksOf 64 (concat blocks ++ x) = blocks.map Buf.bytes ++ Bytes.chunksOf 64 x := by
  induction blocks with
  | nil => rfl
  | cons b bs ih =>
    rw [← List.singleton_append, concat_append, concat_singleton, List.append_assoc,
      Bytes.chunksOf_append (by decide) b.length_eq, ih]
    rfl

theorem foldl_compress (blocks : List (Buf 64)) (state : Sha1State) :
    (blocks.map Buf.bytes).foldl Spec.compress state = blocks.foldl sha1Transform state := by
  induction blocks generalizing state with
  | nil => rfl
  | cons b bs ih =>
    rw [List.map_cons, List.foldl_cons, ih, List.foldl_cons, Spec.compress, Buf.ofBytes_bytes]

theorem spec_sha1_concat (blocks : List (Buf 64)) (m : Bytes) (last : List (Buf 64))
    (h : Spec.sha1Pad m = concat (blocks ++ last)) :
    Spec.sha1 m = (last.foldl sha1Transform (blocks.foldl sha1Transform sha1InitState)).digest.bytes := by
  have hchunks := chunksOf_concat (blocks ++ last) []
  rw [List.append_nil, Bytes.chunksOf_nil, List.append_nil, ← h] at hchunks
  rw [Spec.sha1, hchunks, foldl_compress, List.foldl_append]

theorem sha1Pad_oneBlock {blocks : List (Buf 64)} {rest : Bytes} (h : rest.length + 1 ≤ 56)
    {last : Buf 64}
    (hlast : last.bytes = rest ++ [0x80] ++ Bytes.zeros (56 - (rest.length + 1)) ++
      Bytes.be 8 (8 * (concat blocks ++ rest).length)) :
    Spec.sha1Pad (concat blocks ++ rest) = concat (blocks ++ [last]) := by
  have hk : (119 - (concat blocks ++ rest).length % 64) % 64 = 56 - (rest.length + 1) := by
    rw [List.length_append, length_concat]
    omega
  rw [Spec.sha1Pad, hk, concat_append, concat_singleton, hlast]
  simp only [List.append_assoc]

theorem sha1Pad_twoBlocks {blocks : List (Buf 64)} {rest : Bytes} (h : 56 < rest.length + 1)
    (hshort : rest.length < 64) {b1 b2 : Buf 64}
    (h1 : b1.bytes = rest ++ [0x80] ++ Bytes.zeros (64 - (rest.length + 1)))
    (h2 : b2.bytes = Bytes.zeros 56 ++ Bytes.be 8 (8 * (concat blocks ++ rest).length)) :
    Spec.sha1Pad (concat blocks ++ rest) = concat (blocks ++ [b1, b2]) := by
  have hk : (119 - (concat blocks ++ rest).length % 64) % 64 = 64 - (rest.length + 1) + 56 := by
    rw [List.length_append, length_concat]
    omega
  have hzeros : Bytes.zeros (64 - (rest.length + 1) + 56) =
      Bytes.zeros (64 - (rest.length + 1)) ++ Bytes.zeros 56 := by
    simp only [Bytes.zeros, List.replicate_append_replicate]
  have hlast : concat [b1, b2] = b1.bytes ++ b2.bytes := by simp [concat]
  rw [Spec.sha1Pad, hk, hzeros, concat_append, hlast, h1, h2]
  simp only [List.append_assoc]

/-- The buffer with the one bit behind the message. -/
def Sha1Ctx.marked (ctx : Sha1Ctx) : Buf 64 := ctx.buffer.copyAt ctx.buffered [0x80]

/-- No room for the length: the block is zero-filled, and a block of zeros takes the length. -/
theorem sha1Final_twoBlocks {ctx : Sha1Ctx} (b1 : Buf 64) (h : 56 < ctx.buffered + 1)
    (h1 : ctx.marked.copyAt (ctx.buffered + 1) (Bytes.zeros (64 - (ctx.buffered + 1))) = b1) :
    sha1Final ctx = (sha1Transform (sha1Transform ctx.state b1)
      ((b1.copyAt 0 (Bytes.zeros 56)).copyAt 56 (Bytes.be 8 ctx.bitCount.toNat))).digest := by
  rw [← h1]
  simp only [sha1Final, Sha1Ctx.marked, gt_iff_lt, if_pos h, Nat.sub_zero]

theorem sha1Final_oneBlock {ctx : Sha1Ctx} (b1 : Buf 64) (h : ¬ 56 < ctx.buffered + 1)
    (h1 : ctx.marked.copyAt (ctx.buffered + 1) (Bytes.zeros (56 - (ctx.buffered + 1))) = b1) :
    sha1Final ctx = (sha1Transform ctx.state
      (b1.copyAt 56 (Bytes.be 8 ctx.bitCount.toNat))).digest := by
  rw [← h1]
  simp only [sha1Final, Sha1Ctx.marked, gt_iff_lt, if_neg h]

theorem sha1Final_eq {ctx : Sha1Ctx} {blocks : List (Buf 64)} {rest : Bytes}
    (h : Absorbed ctx blocks rest) :
    (sha1Final ctx).bytes = Spec.sha1 (concat blocks ++ rest) := by
  have hshort := h.short
  have hi := buffered_eq h
  have hmark : ctx.marked.bytes.take (rest.length + 1) = rest ++ [0x80] := by
    have htake := Buf.take_copyAt ctx.buffer (show rest.length + ([0x80] : Bytes).length ≤ 64 from hshort)
    rw [h.buffer] at htake
    rw [Sha1Ctx.marked, hi]
    exact htake
  have hbits : Bytes.be 8 ctx.bitCount.toNat = Bytes.be 8 (8 * (concat blocks ++ rest).length) := by
    rw [h.bitCount, UInt64.toNat_ofNat', show 2 ^ 64 = 256 ^ 8 from rfl, Bytes.be_mod]
  have hlen : 56 + (Bytes.be 8 ctx.bitCount.toNat).length = 64 := by rw [Bytes.length_be]
  by_cases hlong : 56 < rest.length + 1
  · have h1 := Buf.bytes_fill ctx.marked
      (show rest.length + 1 + (Bytes.zeros (64 - (rest.length + 1))).length = 64 by
        rw [Bytes.length_zeros]; omega)
    obtain ⟨b1, hb1⟩ : ∃ b1, ctx.marked.copyAt (rest.length + 1)
      (Bytes.zeros (64 - (rest.length + 1))) = b1 := ⟨_, rfl⟩
    rw [hb1, hmark] at h1
    have h2 := Buf.bytes_fill (b1.copyAt 0 (Bytes.zeros 56)) hlen
    have hzeros := Buf.take_copyAt b1 (show 0 + (Bytes.zeros 56).length ≤ 64 by decide)
    rw [Bytes.length_zeros, Nat.zero_add, List.take_zero, List.nil_append] at hzeros
    rw [hzeros, hbits] at h2
    rw [spec_sha1_concat blocks _ _ (sha1Pad_twoBlocks hlong hshort h1 h2), ← h.state,
      sha1Final_twoBlocks b1 (by rwa [hi]) (by rwa [hi]), hbits, List.foldl_cons, List.foldl_cons,
      List.foldl_nil]
  · have h1 := Buf.take_copyAt ctx.marked
      (show rest.length + 1 + (Bytes.zeros (56 - (rest.length + 1))).length ≤ 64 by
        rw [Bytes.length_zeros]; omega)
    obtain ⟨b1, hb1⟩ : ∃ b1, ctx.marked.copyAt (rest.length + 1)
      (Bytes.zeros (56 - (rest.length + 1))) = b1 := ⟨_, rfl⟩
    rw [hb1, hmark, Bytes.length_zeros,
      show rest.length + 1 + (56 - (rest.length + 1)) = 56 by omega] at h1
    have h2 := Buf.bytes_fill b1 hlen
    rw [h1, hbits] at h2
    rw [spec_sha1_concat blocks _ _ (sha1Pad_oneBlock (Nat.not_lt.mp hlong) h2), ← h.state,
      sha1Final_oneBlock b1 (by rwa [hi]) (by rwa [hi]), hbits, List.foldl_cons, List.foldl_nil]

theorem sha1_eq (message : Bytes) : (sha1 message).bytes = Spec.sha1 message := by
  obtain ⟨blocks, rest, h, hmsg⟩ := absorbed_sha1Update absorbed_sha1Init message
  rw [sha1, sha1Final_eq h, hmsg]
  rfl

/-! ## HMAC and the PRF -/

theorem sha1_twoParts (a b : Bytes) :
    (sha1Final (sha1Update (sha1Update sha1Init a) b)).bytes = Spec.sha1 (a ++ b) := by
  obtain ⟨blocks, rest, h, hmsg⟩ := absorbed_sha1Update absorbed_sha1Init a
  obtain ⟨blocks', rest', h', hmsg'⟩ := absorbed_sha1Update h b
  rw [sha1Final_eq h', hmsg', hmsg]
  rfl

theorem hmacKeyBuf_eq (key : Bytes) : (hmacKeyBuf key).bytes = Spec.hmacKey key := by
  have hpad : ∀ b : Bytes, b.length ≤ 64 → (Buf.ofBytes 64 b).bytes = Bytes.pad 64 b := by
    intro b hb
    exact List.take_of_length_le (by rw [Bytes.length_pad]; omega)
  unfold hmacKeyBuf Spec.hmacKey
  split
  · rw [← sha1_eq]
    exact hpad _ (by rw [Buf.length_eq]; decide)
  · exact hpad _ (by omega)

theorem hmacSha1_eq (key msg : Bytes) : (hmacSha1 key msg).bytes = Spec.hmacSha1 key msg := by
  simp only [hmacSha1, sha1_twoParts, Buf.map, hmacKeyBuf_eq]
  rfl

theorem prf384_eq {key label data : Bytes} (h : label.length + 1 + data.length + 1 ≤ 256) :
    (prf384 key label data).bytes = Spec.prf key label data 48 := by
  have hlen : ∀ msg, (Spec.hmacSha1 key msg).length = 20 := by
    intro msg
    rw [← hmacSha1_eq, Buf.length_eq]
  unfold prf384
  rw [if_neg (by omega)]
  simp only [hmacSha1_eq]
  rw [Buf.bytes_ofBytes (by simp [hlen])]
  simp only [Spec.prf, show List.range ((48 + 19) / 20) = [0, 1, 2] from rfl, List.map_cons,
    List.map_nil, List.flatten_cons, List.flatten_nil, List.append_nil]
  have hwhole : ∀ n msg, 20 ≤ n → (Spec.hmacSha1 key msg).take n = Spec.hmacSha1 key msg := by
    intro n msg hn
    exact List.take_of_length_le (by rwa [hlen])
  rw [List.take_append, List.take_append, hlen, hlen, hwhole 48 _ (by decide),
    hwhole (48 - 20) _ (by decide), List.append_assoc]
  rfl

end Crypto
end Rtl8814au
