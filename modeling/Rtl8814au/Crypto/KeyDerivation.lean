import Rtl8814au.Crypto.Sha1Machine
import Rtl8814au.Spec.KeyDerivation

/-!
# Crypto.KeyDerivation

`hmac_sha1` and `pbkdf2_hmac_sha1` on their buffers, with checked lengths, against RFC 2104 and
RFC 2898.

* `hmacSha1At`: message and output are two places of one memory, which may overlap.
* `hmacSha1At_eq`: the bytes of the output are the HMAC of the message as it was.
* `pbkdf2At`: the loops over blocks and iterations, the second with `U` as message and output.
* `pbkdf2At_eq`: the first `outputLen` bytes of the output are the derived key, the rest is as before.
-/

namespace Rtl8814au
namespace Crypto

open Checked (Turn)

/-! ## HMAC -/

def sha1At (data : Bytes) : Checked (Buf 20) := do
  let ctx ← sha1UpdateAt sha1Init data
  pure (sha1Final ctx)

def hmacKeyBufAt (key : Bytes) : Checked (Buf 64) :=
  if key.length > 64 then do
    let digest ← sha1At key
    pure (Buf.ofBytes 64 digest.bytes)
  else
    pure (Buf.ofBytes 64 key)

def hmacSha1Of (key text : Bytes) : Checked (Buf 20) := do
  let keyBuf ← hmacKeyBufAt key
  let ipad := keyBuf.map (· ^^^ 0x36)
  let opad := keyBuf.map (· ^^^ 0x5C)
  let ctx ← sha1UpdateAt sha1Init ipad.bytes
  let ctx ← sha1UpdateAt ctx text
  let inner := sha1Final ctx
  let ctx ← sha1UpdateAt sha1Init opad.bytes
  let ctx ← sha1UpdateAt ctx inner.bytes
  pure (sha1Final ctx)

/-- `hmac_sha1(key, keyLen, mem + msg, msgLen, mem + mac)`: the output is written at the very end. -/
def hmacSha1At (key mem : Bytes) (msg msgLen mac : Nat) : Checked Bytes := do
  let text ← Checked.bytesAt mem msg msgLen
  let digest ← hmacSha1Of key text
  Checked.store mem mac digest.bytes

theorem sha1At_eq {data : Bytes} (h : data.length < 2 ^ 32 - 64) : sha1At data = .ok (sha1 data) := by
  have hbits : sha1Init.bitCount.toNat + data.length * 8 < 2 ^ 64 := by
    show 0 + _ < _
    omega
  rw [sha1At, sha1UpdateAt_eq h hbits]
  rfl

theorem hmacKeyBufAt_eq {key : Bytes} (h : key.length < 2 ^ 32 - 64) :
    hmacKeyBufAt key = .ok (hmacKeyBuf key) := by
  unfold hmacKeyBufAt hmacKeyBuf
  split
  · rw [sha1At_eq h]
    rfl
  · rfl

/-- The bit count after a first block. -/
theorem bitCount_firstBlock (block : Buf 64) :
    (sha1Update sha1Init block.bytes).bitCount.toNat = 512 := by
  obtain ⟨blocks, rest, h, hmsg⟩ := absorbed_sha1Update absorbed_sha1Init block.bytes
  have hblock : concat blocks ++ rest = block.bytes := hmsg
  rw [bitCount_absorbed h (by rw [hblock, block.length_eq]; decide), hblock, block.length_eq]

theorem hmacSha1Of_eq {key text : Bytes} (hkey : key.length < 2 ^ 32 - 64)
    (htext : text.length < 2 ^ 32 - 64) : hmacSha1Of key text = .ok (hmacSha1 key text) := by
  have hfirst : ∀ block : Buf 64,
      sha1UpdateAt sha1Init block.bytes = .ok (sha1Update sha1Init block.bytes) := by
    intro block
    apply sha1UpdateAt_eq
    · rw [block.length_eq]
      omega
    · rw [block.length_eq]
      show 0 + 64 * 8 < _
      omega
  have hsecond : ∀ (block : Buf 64) (data : Bytes), data.length < 2 ^ 32 - 64 →
      sha1UpdateAt (sha1Update sha1Init block.bytes) data =
        .ok (sha1Update (sha1Update sha1Init block.bytes) data) := by
    intro block data hdata
    apply sha1UpdateAt_eq hdata
    rw [bitCount_firstBlock]
    omega
  unfold hmacSha1Of
  rw [hmacKeyBufAt_eq hkey, Checked.ok_bind]
  dsimp only
  rw [hfirst, Checked.ok_bind, hsecond _ _ htext, Checked.ok_bind, hfirst, Checked.ok_bind,
    hsecond _ _ (by rw [Buf.length_eq]; omega), Checked.ok_bind]
  rfl

theorem hmacKey_eq (key : Bytes) : Spec.hmacKey key = Hmac.blockKey Spec.Rfc3174.sha1 64 key := by
  rw [Spec.hmacKey, Hmac.blockKey, spec_sha1_eq]

theorem length_hmacKey (key : Bytes) : (Spec.hmacKey key).length = 64 := by
  rw [← hmacKeyBuf_eq, Buf.length_eq]

theorem hmacSha1_eq_rfc2104 (key text : Bytes) :
    (hmacSha1 key text).bytes = Spec.KeyDerivation.hmacSha1 key text := by
  have hlength := length_hmacKey key
  rw [hmacSha1_eq, Spec.hmacSha1, ← Hmac.xor_replicate hlength, ← Hmac.xor_replicate hlength,
    hmacKey_eq, spec_sha1_eq, spec_sha1_eq]
  rfl

/-- Wherever the output lies, it is the keyed hash of the message as it was. -/
theorem hmacSha1At_eq {key mem : Bytes} {msg msgLen mac : Nat} (hkey : key.length < 2 ^ 32 - 64)
    (hlen : msgLen < 2 ^ 32 - 64) (hmsg : msg + msgLen ≤ mem.length)
    (hmac : mac + 20 ≤ mem.length) : hmacSha1At key mem msg msgLen mac =
      .ok (mem.take mac ++ Spec.KeyDerivation.hmacSha1 key (mem.slice msg msgLen) ++
        mem.drop (mac + 20)) := by
  have htext : (mem.slice msg msgLen).length = msgLen := Bytes.length_slice hmsg
  rw [hmacSha1At, Checked.bytesAt_ok hmsg, Checked.ok_bind, hmacSha1Of_eq hkey (by omega),
    Checked.ok_bind, Checked.store_ok (by rw [Buf.length_eq]; omega), Buf.length_eq,
    hmacSha1_eq_rfc2104]

/-! ## PBKDF2 -/

/-- `for (iter = 1; iter < iterations; iter++)`, on `iter`, `U` and `T`. -/
def pbkdf2IterTurn (password : Bytes) (iterations : Nat) (s : Nat × Bytes × Bytes) :
    Checked (Turn (Nat × Bytes × Bytes)) :=
  if s.1 < iterations then do
    let u ← hmacSha1At password s.2.1 0 20 0
    let iter ← Checked.add s.1 1
    pure (.next (iter, u, Bytes.xor s.2.2 u))
  else
    pure (.exit s)

structure Pbkdf2State where
  block : Nat
  saltAndIndex : Bytes
  output : Bytes

def pbkdf2CopyLen (block outputLen : Nat) : Checked Nat := do
  let stop ← Checked.mul block 20
  if stop ≤ outputLen then
    pure 20
  else
    let before ← Checked.sub block 1
    let start ← Checked.mul before 20
    Checked.sub outputLen start

/-- `for (block = 1; block <= blockCount; block++)`. -/
def pbkdf2BlockTurn (password : Bytes) (saltLen iterations blockCount outputLen : Nat)
    (s : Pbkdf2State) : Checked (Turn Pbkdf2State) :=
  if s.block ≤ blockCount then do
    let saltAndIndex ← Checked.store s.saltAndIndex saltLen (Bytes.be 4 s.block)
    let textLen ← Checked.add saltLen 4
    let text ← Checked.bytesAt saltAndIndex 0 textLen
    let first ← hmacSha1Of password text
    let r ← Checked.iterate (pbkdf2IterTurn password iterations) (iterations + 1)
      (1, first.bytes, first.bytes)
    let copyLen ← pbkdf2CopyLen s.block outputLen
    let chunk ← Checked.bytesAt r.2.2 0 copyLen
    let before ← Checked.sub s.block 1
    let start ← Checked.mul before 20
    let output ← Checked.store s.output start chunk
    let block ← Checked.add s.block 1
    pure (.next { block := block, saltAndIndex := saltAndIndex, output := output })
  else
    pure (.exit s)

/-- The contents of the output buffer afterwards, from those of it and of `saltAndIndex` before. -/
def pbkdf2At (password salt : Bytes) (iterations : Nat) (saltAndIndex : Buf 256) (output : Bytes)
    (outputLen : Nat) : Checked Bytes := do
  let rounded ← Checked.add outputLen 19
  let blockCount := rounded / 20
  let saltLen ← Checked.add salt.length 4
  if saltLen > 256 then
    Checked.store output 0 (Bytes.zeros outputLen)
  else
    let salted ← Checked.store saltAndIndex.bytes 0 salt
    let s ← Checked.iterate (pbkdf2BlockTurn password salt.length iterations blockCount outputLen)
      (blockCount + 1) { block := 1, saltAndIndex := salted, output := output }
    pure s.output

/-! ### The iterations of one block -/

section

variable {password salt : Bytes} {iterations : Nat}

/-- The hash of 20 bytes, written over them. -/
theorem hmacSha1At_inPlace (hpassword : password.length < 2 ^ 32 - 64) {u : Bytes}
    (hu : u.length = 20) :
    hmacSha1At password u 0 20 0 = .ok (Spec.KeyDerivation.hmacSha1 password u) := by
  have hwhole : u.slice 0 20 = u := by
    rw [Bytes.slice, List.drop_zero, List.take_of_length_le (Nat.le_of_eq hu)]
  have hrest : u.drop (0 + 20) = [] := List.drop_eq_nil_of_le (by omega)
  rw [hmacSha1At_eq hpassword (by decide) (by omega) (by omega), hwhole, hrest, List.take_zero,
    List.nil_append, List.append_nil]

theorem iterate_pbkdf2IterTurn (salt : Bytes) (hpassword : password.length < 2 ^ 32 - 64)
    (hiterations : iterations < 2 ^ 32) (block more : Nat) : ∀ n j : Nat, j + 1 + n = iterations →
      Checked.iterate (pbkdf2IterTurn password iterations) (n + more + 1)
          (j + 1, Pbkdf2.U Spec.KeyDerivation.hmacSha1 password salt block j,
            Pbkdf2.T Spec.KeyDerivation.hmacSha1 password salt block j) =
        .ok (iterations, Pbkdf2.U Spec.KeyDerivation.hmacSha1 password salt block (j + n),
          Pbkdf2.T Spec.KeyDerivation.hmacSha1 password salt block (j + n)) := by
  intro n
  induction n with
  | zero =>
    intro j hj
    have hexit : pbkdf2IterTurn password iterations
        (j + 1, Pbkdf2.U Spec.KeyDerivation.hmacSha1 password salt block j,
          Pbkdf2.T Spec.KeyDerivation.hmacSha1 password salt block j) = .ok (.exit
        (j + 1, Pbkdf2.U Spec.KeyDerivation.hmacSha1 password salt block j,
          Pbkdf2.T Spec.KeyDerivation.hmacSha1 password salt block j)) := by
      rw [pbkdf2IterTurn, if_neg (show ¬ j + 1 < iterations by omega)]
      rfl
    rw [Checked.iterate_exit hexit, ← hj]
    rfl
  | succ n ih =>
    intro j hj
    have hlength := Pbkdf2.length_U (P := password) (S := salt)
      Spec.KeyDerivation.length_hmacSha1 block j
    have hnext : pbkdf2IterTurn password iterations
        (j + 1, Pbkdf2.U Spec.KeyDerivation.hmacSha1 password salt block j,
          Pbkdf2.T Spec.KeyDerivation.hmacSha1 password salt block j) = .ok (.next
        (j + 1 + 1, Pbkdf2.U Spec.KeyDerivation.hmacSha1 password salt block (j + 1),
          Pbkdf2.T Spec.KeyDerivation.hmacSha1 password salt block (j + 1))) := by
      rw [pbkdf2IterTurn, if_pos (show j + 1 < iterations by omega),
        hmacSha1At_inPlace hpassword hlength, Checked.ok_bind, Checked.add_ok (by omega),
        Checked.ok_bind]
      rfl
    rw [show n + 1 + more + 1 = n + more + 1 + 1 by omega, Checked.iterate_next hnext,
      ih (j + 1) (by omega), show j + 1 + n = j + (n + 1) by omega]

/-! ### The blocks -/

/-- The block function with the code's HMAC. -/
theorem iterate_block (salt : Bytes) (hpassword : password.length < 2 ^ 32 - 64) (hpos : 1 ≤ iterations)
    (hiterations : iterations < 2 ^ 32) (block : Nat) : ∃ u,
      Checked.iterate (pbkdf2IterTurn password iterations) (iterations + 1)
          (1, Spec.KeyDerivation.hmacSha1 password (salt ++ Bytes.be 4 block),
            Spec.KeyDerivation.hmacSha1 password (salt ++ Bytes.be 4 block)) =
        .ok (iterations, u, Pbkdf2.F Spec.KeyDerivation.hmacSha1 password salt iterations block) := by
  have hrun := iterate_pbkdf2IterTurn salt hpassword hiterations block 1 (iterations - 1) 0
    (by omega)
  rw [show iterations - 1 + 1 + 1 = iterations + 1 by omega, Nat.zero_add, Nat.zero_add] at hrun
  exact ⟨_, hrun⟩

/-- What the blocks before `block` have left in the two buffers. -/
structure Written (password salt : Bytes) (iterations outputLen : Nat) (old : Bytes)
    (s : Pbkdf2State) : Prop where
  started : 1 ≤ s.block
  inRange : s.block ≤ (outputLen + 19) / 20 + 1
  salted : ∃ index : Bytes, s.saltAndIndex = salt ++ index ∧ salt.length + index.length = 256
  output : s.output = (Pbkdf2.firstBlocks Spec.KeyDerivation.hmacSha1 password salt iterations
    (s.block - 1)).take outputLen ++ old.drop (min (20 * (s.block - 1)) outputLen)

theorem store_index {index : Bytes} {saltAndIndex : Bytes} (hindex : saltAndIndex = salt ++ index)
    (hroom : salt.length + index.length = 256) (hsalt : salt.length ≤ 252) (block : Nat) :
    Checked.store saltAndIndex salt.length (Bytes.be 4 block) =
      .ok (salt ++ (Bytes.be 4 block ++ index.drop 4)) := by
  have htake : (index.take 4).length = (Bytes.be 4 block).length := by
    rw [Bytes.length_be, List.length_take]
    omega
  have hstore := Checked.store_append (b := index.drop 4) (rfl : salt.length = salt.length) htake
  rwa [List.take_append_drop, ← hindex] at hstore

/-- Twenty bytes, or what is left of the output. -/
theorem pbkdf2CopyLen_eq {outputLen b : Nat} (hbefore : 20 * b < outputLen)
    (hlen : outputLen < 2 ^ 32 - 20) :
    pbkdf2CopyLen (b + 1) outputLen = .ok (min 20 (outputLen - 20 * b)) := by
  rw [pbkdf2CopyLen, Checked.mul_ok (by omega), Checked.ok_bind]
  by_cases hwhole : (b + 1) * 20 ≤ outputLen
  · rw [if_pos hwhole, Nat.min_eq_left (by omega)]
    rfl
  · rw [if_neg hwhole, Checked.sub_ok (by omega), Checked.ok_bind, Nat.add_sub_cancel,
      Checked.mul_ok (by omega), Checked.ok_bind, Checked.sub_ok (by omega),
      Nat.min_eq_right (by omega), Nat.mul_comm b 20]

/-- The part of the output that block `b + 1` has to fill. -/
theorem store_chunk {outputLen b : Nat} (hbefore : 20 * b < outputLen) {old : Bytes}
    (hold : outputLen ≤ old.length) {copyLen : Nat} (hcopy : copyLen = min 20 (outputLen - 20 * b)) :
    Checked.store ((Pbkdf2.firstBlocks Spec.KeyDerivation.hmacSha1 password salt iterations b).take
          outputLen ++ old.drop (min (20 * b) outputLen)) (b * 20)
        ((Pbkdf2.F Spec.KeyDerivation.hmacSha1 password salt iterations (b + 1)).slice 0 copyLen) =
      .ok ((Pbkdf2.firstBlocks Spec.KeyDerivation.hmacSha1 password salt iterations (b + 1)).take
        outputLen ++ old.drop (min (20 * (b + 1)) outputLen)) := by
  have hlength := Pbkdf2.length_firstBlocks (P := password) (S := salt)
    Spec.KeyDerivation.length_hmacSha1 iterations b
  have hF := Pbkdf2.length_F (P := password) (S := salt) Spec.KeyDerivation.length_hmacSha1
    iterations (b + 1)
  rw [Pbkdf2.firstBlocks_succ]
  generalize Pbkdf2.firstBlocks Spec.KeyDerivation.hmacSha1 password salt iterations b = done
    at hlength ⊢
  generalize Pbkdf2.F Spec.KeyDerivation.hmacSha1 password salt iterations (b + 1) = fresh at hF ⊢
  have hdone : done.take outputLen = done := List.take_of_length_le (by omega)
  have hchunk : (done ++ fresh).take outputLen = done ++ fresh.slice 0 copyLen := by
    have hfresh : fresh.take (outputLen - done.length) = fresh.take copyLen := by
      rw [List.take_eq_take_iff]
      omega
    rw [List.take_append, hdone, hfresh]
    rfl
  have hchunkLen : (fresh.slice 0 copyLen).length = copyLen := Bytes.length_slice (by omega)
  have hrest : old.drop (min (20 * b) outputLen) =
      (old.drop (20 * b)).take copyLen ++ old.drop (min (20 * (b + 1)) outputLen) := by
    have hnext : min (20 * (b + 1)) outputLen = 20 * b + copyLen := by omega
    rw [Nat.min_eq_left (by omega), hnext, ← List.drop_drop, List.take_append_drop]
  rw [hdone, hchunk, hrest, List.append_assoc]
  apply Checked.store_append
  · omega
  · rw [hchunkLen, List.length_take, List.length_drop]
    omega

/-- One block: the salt gets its number, and its part of the output is written. -/
theorem pbkdf2BlockTurn_next (hpassword : password.length < 2 ^ 32 - 64) (hpos : 1 ≤ iterations)
    (hiterations : iterations < 2 ^ 32) (hsalt : salt.length ≤ 252) {outputLen : Nat}
    (hlen : outputLen < 2 ^ 32 - 20) {old : Bytes} (hold : outputLen ≤ old.length)
    {s : Pbkdf2State} (h : Written password salt iterations outputLen old s)
    (hblock : s.block ≤ (outputLen + 19) / 20) :
    ∃ s', pbkdf2BlockTurn password salt.length iterations ((outputLen + 19) / 20) outputLen s =
        .ok (.next s') ∧ Written password salt iterations outputLen old s' ∧
      s'.block = s.block + 1 := by
  obtain ⟨hstarted, -, ⟨index, hindex, hroom⟩, houtput⟩ := h
  obtain ⟨b, hb⟩ : ∃ b, s.block = b + 1 := ⟨s.block - 1, by omega⟩
  rw [hb, Nat.add_sub_cancel] at houtput
  rw [hb] at hblock
  have hbefore : 20 * b < outputLen := by omega
  have htext : (salt ++ (Bytes.be 4 (b + 1) ++ index.drop 4)).slice 0 (salt.length + 4) =
      salt ++ Bytes.be 4 (b + 1) := by
    rw [← List.append_assoc]
    exact Bytes.slice_here (by rw [List.length_append, Bytes.length_be])
  have htextLen : (salt ++ Bytes.be 4 (b + 1)).length < 2 ^ 32 - 64 := by
    rw [List.length_append, Bytes.length_be]
    omega
  have htextFits : 0 + (salt.length + 4) ≤
      (salt ++ (Bytes.be 4 (b + 1) ++ index.drop 4)).length := by
    rw [List.length_append, List.length_append, Bytes.length_be]
    omega
  have hF := Pbkdf2.length_F (P := password) (S := salt) Spec.KeyDerivation.length_hmacSha1
    iterations (b + 1)
  have hchunkFits : 0 + min 20 (outputLen - 20 * b) ≤
      (Pbkdf2.F Spec.KeyDerivation.hmacSha1 password salt iterations (b + 1)).length := by
    rw [hF]
    omega
  obtain ⟨u, hrun⟩ := iterate_block salt hpassword hpos hiterations (b + 1)
  have hturn : pbkdf2BlockTurn password salt.length iterations ((outputLen + 19) / 20) outputLen s =
      .ok (.next ⟨b + 1 + 1, salt ++ (Bytes.be 4 (b + 1) ++ index.drop 4),
        (Pbkdf2.firstBlocks Spec.KeyDerivation.hmacSha1 password salt iterations (b + 1)).take
          outputLen ++ old.drop (min (20 * (b + 1)) outputLen)⟩) := by
    rw [pbkdf2BlockTurn, if_pos (by omega), hb, store_index hindex hroom hsalt, Checked.ok_bind,
      Checked.add_ok (by omega), Checked.ok_bind, Checked.bytesAt_ok htextFits, Checked.ok_bind,
      htext, hmacSha1Of_eq hpassword htextLen, Checked.ok_bind, hmacSha1_eq_rfc2104, hrun,
      Checked.ok_bind, pbkdf2CopyLen_eq hbefore hlen, Checked.ok_bind, Checked.bytesAt_ok hchunkFits,
      Checked.ok_bind, Checked.sub_ok (by omega), Checked.ok_bind, Nat.add_sub_cancel,
      Checked.mul_ok (by omega), Checked.ok_bind, houtput, store_chunk hbefore hold rfl,
      Checked.ok_bind, Checked.add_ok (by omega), Checked.ok_bind]
    rfl
  refine ⟨_, hturn, ⟨Nat.le_add_left 1 _, ?_, ⟨_, rfl, ?_⟩, rfl⟩, by rw [hb]⟩
  · show b + 1 + 1 ≤ _
    omega
  · rw [List.length_append, Bytes.length_be, List.length_drop]
    omega

/-- From the first block to past the last one. -/
theorem iterate_pbkdf2BlockTurn (hpassword : password.length < 2 ^ 32 - 64) (hpos : 1 ≤ iterations)
    (hiterations : iterations < 2 ^ 32) (hsalt : salt.length ≤ 252) {outputLen : Nat}
    (hlen : outputLen < 2 ^ 32 - 20) {old : Bytes} (hold : outputLen ≤ old.length)
    {s : Pbkdf2State} (h : Written password salt iterations outputLen old s) (hfirst : s.block = 1) :
    ∃ s', Checked.iterate (pbkdf2BlockTurn password salt.length iterations ((outputLen + 19) / 20)
        outputLen) ((outputLen + 19) / 20 + 1) s = .ok s' ∧
      s'.output = (Pbkdf2.firstBlocks Spec.KeyDerivation.hmacSha1 password salt iterations
        ((outputLen + 19) / 20)).take outputLen ++ old.drop outputLen := by
  apply Checked.iterate_spec (fun s => (outputLen + 19) / 20 + 1 - s.block) _ h (by omega)
  intro s h
  by_cases hblock : s.block ≤ (outputLen + 19) / 20
  · obtain ⟨s', hturn, h', hnext⟩ :=
      pbkdf2BlockTurn_next hpassword hpos hiterations hsalt hlen hold h hblock
    exact .inl ⟨s', hturn, h', by omega⟩
  · have hlast : s.block - 1 = (outputLen + 19) / 20 := by
      have := h.inRange
      omega
    have houtput := h.output
    rw [hlast, Nat.min_eq_right (by omega)] at houtput
    refine .inr ⟨s, ?_, houtput⟩
    rw [pbkdf2BlockTurn, if_neg hblock]
    rfl

theorem pbkdf2At_eq (hpassword : password.length < 2 ^ 32 - 64) (hpos : 1 ≤ iterations)
    (hiterations : iterations < 2 ^ 32) (hsalt : salt.length ≤ 252) {outputLen : Nat}
    (hlen : outputLen < 2 ^ 32 - 20) {output : Bytes} (hroom : outputLen ≤ output.length)
    (saltAndIndex : Buf 256) : ∃ dk,
      Spec.KeyDerivation.pbkdf2 password salt iterations outputLen = some dk ∧
        dk.length = outputLen ∧ pbkdf2At password salt iterations saltAndIndex output outputLen =
          .ok (dk ++ output.drop outputLen) := by
  have hspec := Pbkdf2.derivedKey_eq (P := password) (S := salt) Spec.KeyDerivation.length_hmacSha1
    (by decide) (c := iterations) (show outputLen ≤ (2 ^ 32 - 1) * 20 by omega)
  have hlength := Pbkdf2.length_firstBlocks (P := password) (S := salt)
    Spec.KeyDerivation.length_hmacSha1 iterations ((outputLen + 19) / 20)
  refine ⟨_, hspec, ?_, ?_⟩
  · rw [List.length_take, hlength]
    omega
  · have hsalted : Checked.store saltAndIndex.bytes 0 salt =
        .ok (salt ++ saltAndIndex.bytes.drop salt.length) := by
      rw [Checked.store_ok (by rw [Buf.length_eq]; omega), List.take_zero, List.nil_append,
        Nat.zero_add]
    have hindex : salt.length + (saltAndIndex.bytes.drop salt.length).length = 256 := by
      rw [List.length_drop, Buf.length_eq]
      omega
    have hstart : Written password salt iterations outputLen output
        ⟨1, salt ++ saltAndIndex.bytes.drop salt.length, output⟩ :=
      ⟨Nat.le_refl 1, Nat.le_add_left 1 _, ⟨_, rfl, hindex⟩, by simp [Pbkdf2.firstBlocks]⟩
    obtain ⟨s, hrun, houtput⟩ := iterate_pbkdf2BlockTurn hpassword hpos hiterations hsalt hlen hroom
      hstart rfl
    rw [pbkdf2At, Checked.add_ok (by omega), Checked.ok_bind, Checked.add_ok (by omega),
      Checked.ok_bind, if_neg (by omega), hsalted, Checked.ok_bind, hrun, Checked.ok_bind, houtput]
    rfl

end

/-! ## The PMK of a join -/

/-- The blocks that a join derives the PMK from. -/
theorem pbkdf2Block_eq (password salt : Bytes) (block : Nat) : ∀ (n j : Nat) (u t : Buf 20),
    u.bytes = Pbkdf2.U Spec.KeyDerivation.hmacSha1 password salt block j →
      t.bytes = Pbkdf2.T Spec.KeyDerivation.hmacSha1 password salt block j →
      (pbkdf2Block password n u t).bytes =
        Pbkdf2.T Spec.KeyDerivation.hmacSha1 password salt block (j + n) := by
  intro n
  induction n with
  | zero => intro j u t _ ht; exact ht
  | succ n ih =>
    intro j u t hu ht
    have hu' : (hmacSha1 password u.bytes).bytes =
        Pbkdf2.U Spec.KeyDerivation.hmacSha1 password salt block (j + 1) := by
      rw [hmacSha1_eq_rfc2104, hu, Pbkdf2.U]
    have ht' : (t.xor (hmacSha1 password u.bytes)).bytes =
        Pbkdf2.T Spec.KeyDerivation.hmacSha1 password salt block (j + 1) := by
      show Bytes.xor t.bytes (hmacSha1 password u.bytes).bytes = _
      rw [hu', ht, Pbkdf2.T]
    have hstep : pbkdf2Block password (n + 1) u t = pbkdf2Block password n
        (hmacSha1 password u.bytes) (t.xor (hmacSha1 password u.bytes)) := rfl
    have hindex : j + (n + 1) = j + 1 + n := by omega
    rw [hstep, hindex]
    exact ih (j + 1) _ _ hu' ht'

theorem pbkdf2HmacSha1_eq {password salt : Bytes} (iterations : Nat) {outputLen : Nat}
    (hsalt : salt.length ≤ 252) (hlen : outputLen < 2 ^ 32 - 20) :
    Spec.KeyDerivation.pbkdf2 password salt iterations outputLen =
      some (pbkdf2HmacSha1 password salt iterations outputLen).bytes := by
  have hspec := Pbkdf2.derivedKey_eq (P := password) (S := salt) Spec.KeyDerivation.length_hmacSha1
    (by decide) (c := iterations) (show outputLen ≤ (2 ^ 32 - 1) * 20 by omega)
  have hlength := Pbkdf2.length_firstBlocks (P := password) (S := salt)
    Spec.KeyDerivation.length_hmacSha1 iterations ((outputLen + 19) / 20)
  have hblock : ∀ b, (pbkdf2Block password (iterations - 1)
      (hmacSha1 password (salt ++ Bytes.be 4 (b + 1)))
      (hmacSha1 password (salt ++ Bytes.be 4 (b + 1)))).bytes =
        Pbkdf2.F Spec.KeyDerivation.hmacSha1 password salt iterations (b + 1) := by
    intro b
    have hfirst := hmacSha1_eq_rfc2104 password (salt ++ Bytes.be 4 (b + 1))
    have hrun := pbkdf2Block_eq password salt (b + 1) (iterations - 1) 0 _ _ hfirst hfirst
    rwa [Nat.zero_add] at hrun
  have hall : ((List.range ((outputLen + 19) / 20)).map fun b =>
      (pbkdf2Block password (iterations - 1) (hmacSha1 password (salt ++ Bytes.be 4 (b + 1)))
        (hmacSha1 password (salt ++ Bytes.be 4 (b + 1)))).bytes).flatten =
      Pbkdf2.firstBlocks Spec.KeyDerivation.hmacSha1 password salt iterations
        ((outputLen + 19) / 20) := by
    simp only [hblock]
    rfl
  rw [Spec.KeyDerivation.pbkdf2, hspec, pbkdf2HmacSha1, if_neg (by omega)]
  simp only [hall, Buf.ofBytes]
  rw [Bytes.pad_of_le (by omega)]

/-- HMAC over any message in memory and PBKDF2 into any buffer, with no length or place going
wrong: the first leaves the keyed hash of the message at the output and all else as it was, the
second the derived key in the first `outputLen` bytes of the output. -/
theorem hmac_and_pbkdf2_conform :
    (∀ (key mem : Bytes) (msg msgLen mac : Nat), key.length < 2 ^ 32 - 64 → msgLen < 2 ^ 32 - 64 →
      msg + msgLen ≤ mem.length → mac + 20 ≤ mem.length →
      hmacSha1At key mem msg msgLen mac = .ok (mem.take mac ++
        Hmac.hmac Spec.Rfc3174.sha1 64 key (mem.slice msg msgLen) ++ mem.drop (mac + 20))) ∧
    ∀ (password salt : Bytes) (iterations : UInt32) (saltAndIndex : Buf 256) (output : Bytes)
      (outputLen : Nat), password.length < 2 ^ 32 - 64 → salt.length ≤ 252 →
      1 ≤ iterations.toNat → outputLen < 2 ^ 32 - 20 → outputLen ≤ output.length →
      ∃ dk, Pbkdf2.derivedKey (Hmac.hmac Spec.Rfc3174.sha1 64) 20 password salt iterations.toNat
          outputLen = some dk ∧ dk.length = outputLen ∧
        pbkdf2At password salt iterations.toNat saltAndIndex output outputLen =
          .ok (dk ++ output.drop outputLen) := by
  constructor
  · intro key mem msg msgLen mac hkey hlen hmsg hmac
    exact hmacSha1At_eq hkey hlen hmsg hmac
  · intro password salt iterations saltAndIndex output outputLen hpassword hsalt hpos hlen hroom
    exact pbkdf2At_eq hpassword hpos iterations.toNat_lt hsalt hlen hroom saltAndIndex

/-- A key of 65 bytes with the output over the message, and a key of 21 bytes in two iterations. -/
theorem hmac_and_pbkdf2_conform_sample :
    hmacSha1At (Bytes.zeros 65) (Bytes.zeros 24) 0 24 4 = .ok ((Bytes.zeros 24).take 4 ++
        Hmac.hmac Spec.Rfc3174.sha1 64 (Bytes.zeros 65) ((Bytes.zeros 24).slice 0 24) ++
        (Bytes.zeros 24).drop 24) ∧
      ∃ dk, dk.length = 21 ∧ pbkdf2At [0x70, 0x77] [0x73] 2 (Buf.zero 256) (Bytes.zeros 32) 21 =
        .ok (dk ++ (Bytes.zeros 32).drop 21) := by
  obtain ⟨hhmac, hpbkdf2⟩ := hmac_and_pbkdf2_conform
  constructor
  · exact hhmac (Bytes.zeros 65) (Bytes.zeros 24) 0 24 4 (by decide) (by decide) (by decide)
      (by decide)
  · obtain ⟨dk, -, hlength, hrun⟩ := hpbkdf2 [0x70, 0x77] [0x73] 2 (Buf.zero 256) (Bytes.zeros 32) 21
      (by decide) (by decide) (by decide) (by decide) (by decide)
    exact ⟨dk, hlength, hrun⟩

end Crypto
end Rtl8814au
