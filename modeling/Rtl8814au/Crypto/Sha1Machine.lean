import Rtl8814au.Lib.Checked
import Rtl8814au.Crypto.Sha1Standard

/-!
# Crypto.Sha1Machine

`sha1_update` with its 32-bit lengths, its 64-bit bit count and its `memcpy` calls, all checked.

* `sha1UpdateAt`: one call.
* `sha1UpdateAt_eq`: below `2^32 - 64` bytes, and while the bit count fits, nothing goes wrong and the
  result is that of `sha1Update`.
* `sha1_incremental`: any sequence of calls hashes the concatenation of its data.
-/

namespace Rtl8814au
namespace Crypto

open Checked (Turn)

/-- One turn of `while (offset + 64 <= len)`, on `offset` and the state. -/
def sha1BlockTurn (data : Bytes) (s : Nat × Sha1State) : Checked (Turn (Nat × Sha1State)) := do
  let stop ← Checked.add s.1 64
  if stop ≤ data.length then
    let block ← Checked.bytesAt data s.1 64
    pure (.next (stop, sha1Transform s.2 (Buf.ofBytes 64 block)))
  else
    pure (.exit s)

def sha1UpdateAt (ctx : Sha1Ctx) (data : Bytes) : Checked Sha1Ctx := do
  let i := ctx.buffered
  let bits ← Checked.fit 64 (data.length * 8)
  let bitCount ← Checked.fit 64 (ctx.bitCount.toNat + bits)
  let filled ← Checked.add i data.length
  if filled < 64 then
    let buffer ← Checked.store ctx.buffer.bytes i data
    pure { ctx with bitCount := UInt64.ofNat bitCount, buffer := Buf.ofBytes 64 buffer }
  else
    let first ← Checked.sub 64 i
    let head ← Checked.bytesAt data 0 first
    let block ← Checked.store ctx.buffer.bytes i head
    let s ← Checked.iterate (sha1BlockTurn data) (data.length / 64 + 1)
      (first, sha1Transform ctx.state (Buf.ofBytes 64 block))
    let left ← Checked.sub data.length s.1
    let tail ← Checked.bytesAt data s.1 left
    let buffer ← Checked.store block 0 tail
    pure { state := s.2, bitCount := UInt64.ofNat bitCount, buffer := Buf.ofBytes 64 buffer }

/-! ## One call -/

/-- The blocks that are left, taken one by one. -/
theorem iterate_sha1BlockTurn {data : Bytes} (hlen : data.length < 2 ^ 32 - 64) (more : Nat) :
    ∀ (n offset : Nat) (state : Sha1State), offset + 64 * n ≤ data.length →
      data.length < offset + 64 * (n + 1) →
      Checked.iterate (sha1BlockTurn data) (n + more + 1) (offset, state) =
          .ok (offset + 64 * n, (sha1Blocks n state (data.drop offset)).1) ∧
        (sha1Blocks n state (data.drop offset)).2 = data.drop (offset + 64 * n) := by
  intro n
  induction n with
  | zero =>
    intro offset state hle hlt
    have hturn : sha1BlockTurn data (offset, state) = .ok (.exit (offset, state)) := by
      rw [sha1BlockTurn, Checked.add_ok (show offset + 64 < 2 ^ 32 by omega), Checked.ok_bind,
        if_neg (by omega)]
      rfl
    exact ⟨Checked.iterate_exit hturn _, rfl⟩
  | succ n ih =>
    intro offset state hle hlt
    have hturn : sha1BlockTurn data (offset, state) = .ok (.next (offset + 64,
        sha1Transform state (Buf.ofBytes 64 (data.slice offset 64)))) := by
      rw [sha1BlockTurn, Checked.add_ok (show offset + 64 < 2 ^ 32 by omega), Checked.ok_bind,
        if_pos (show offset + 64 ≤ data.length by omega),
        Checked.bytesAt_ok (show offset + 64 ≤ data.length by omega), Checked.ok_bind]
      rfl
    obtain ⟨hrun, hrest⟩ := ih (offset + 64)
      (sha1Transform state (Buf.ofBytes 64 (data.slice offset 64))) (by omega) (by omega)
    rw [sha1Blocks, List.drop_drop, show offset + 64 * (n + 1) = offset + 64 + 64 * n by omega,
      show n + 1 + more + 1 = n + more + 1 + 1 by omega, Checked.iterate_next hturn]
    exact ⟨hrun, hrest⟩

theorem bitCount_eq {count : UInt64} {len : Nat} :
    UInt64.ofNat (count.toNat + len * 8) = count + (UInt64.ofNat len <<< 3) := by
  apply UInt64.toNat_inj.mp
  have h3 : (3 : UInt64).toNat % 64 = 3 := rfl
  simp only [UInt64.toNat_add, UInt64.toNat_shiftLeft, UInt64.toNat_ofNat', h3, Nat.shiftLeft_eq]
  omega

theorem buffered_lt (ctx : Sha1Ctx) : ctx.buffered < 64 := by
  have h63 : (63 : UInt64).toNat = 2 ^ 6 - 1 := rfl
  rw [Sha1Ctx.buffered, UInt64.toNat_and, h63, Nat.and_two_pow_sub_one_eq_mod]
  omega

theorem sha1UpdateAt_eq {ctx : Sha1Ctx} {data : Bytes} (hlen : data.length < 2 ^ 32 - 64)
    (hbits : ctx.bitCount.toNat + data.length * 8 < 2 ^ 64) :
    sha1UpdateAt ctx data = .ok (sha1Update ctx data) := by
  have hi := buffered_lt ctx
  unfold sha1UpdateAt sha1Update
  dsimp only
  rw [Checked.fit_ok (by omega), Checked.ok_bind, Checked.fit_ok hbits, Checked.ok_bind,
    Checked.add_ok (by omega), Checked.ok_bind, bitCount_eq]
  by_cases hfit : ctx.buffered + data.length < 64
  · rw [if_pos hfit, if_pos hfit, Checked.store_buf _ (by omega), Checked.ok_bind, Buf.ofBytes_bytes]
    rfl
  · have hhead : (data.slice 0 (64 - ctx.buffered)).length = 64 - ctx.buffered :=
      Bytes.length_slice (by omega)
    rw [if_neg hfit, if_neg hfit, Checked.sub_ok (by omega), Checked.ok_bind,
      Checked.bytesAt_ok (by omega), Checked.ok_bind, Checked.store_buf _ (by omega), Checked.ok_bind,
      Buf.ofBytes_bytes]
    -- the loop stops at the last whole block, and the rest fits the buffer
    have hdata : data.slice 0 (64 - ctx.buffered) = data.take (64 - ctx.buffered) := rfl
    rw [hdata]
    generalize sha1Transform ctx.state
      (ctx.buffer.copyAt ctx.buffered (data.take (64 - ctx.buffered))) = state
    generalize ctx.buffer.copyAt ctx.buffered (data.take (64 - ctx.buffered)) = block
    have hrest : (data.drop (64 - ctx.buffered)).length = data.length - (64 - ctx.buffered) :=
      List.length_drop
    rw [hrest]
    generalize hfirst : 64 - ctx.buffered = first
    generalize hn : (data.length - first) / 64 = n
    obtain ⟨hrun, htail⟩ := iterate_sha1BlockTurn hlen (data.length / 64 - n) n first state
      (by omega) (by omega)
    rw [show n + (data.length / 64 - n) + 1 = data.length / 64 + 1 by omega] at hrun
    have hslice : data.slice (first + 64 * n) (data.length - (first + 64 * n)) =
        data.drop (first + 64 * n) := by
      rw [Bytes.slice, List.take_of_length_le (by rw [List.length_drop])]
    have hshort : (data.drop (first + 64 * n)).length < 64 := by
      rw [List.length_drop]
      omega
    rw [hrun, Checked.ok_bind, Checked.sub_ok (by omega), Checked.ok_bind,
      Checked.bytesAt_ok (by omega), Checked.ok_bind, hslice, Checked.store_buf _ (by omega),
      Checked.ok_bind, Buf.ofBytes_bytes, htail]
    rfl

/-! ## A sequence of calls -/

/-- `sha1_init` leaves the buffer as it is. -/
def sha1InitAt (buffer : Buf 64) : Sha1Ctx := { sha1Init with buffer := buffer }

theorem absorbed_sha1InitAt (buffer : Buf 64) : Absorbed (sha1InitAt buffer) [] [] :=
  ⟨rfl, by decide, rfl, rfl⟩

theorem bitCount_absorbed {ctx : Sha1Ctx} {blocks : List (Buf 64)} {rest : Bytes}
    (h : Absorbed ctx blocks rest) (hfit : (concat blocks ++ rest).length < 2 ^ 61) :
    ctx.bitCount.toNat = 8 * (concat blocks ++ rest).length := by
  rw [h.bitCount, UInt64.toNat_ofNat']
  omega

/-- Run by induction on the calls: each one goes right and adds its data to the message. -/
theorem absorbed_foldlM {chunks : List Bytes} (hchunk : ∀ c ∈ chunks, c.length < 2 ^ 32 - 64) :
    ∀ {ctx : Sha1Ctx} {blocks : List (Buf 64)} {rest : Bytes}, Absorbed ctx blocks rest →
      (concat blocks ++ rest).length + chunks.flatten.length < 2 ^ 61 →
      ∃ ctx' blocks' rest', chunks.foldlM sha1UpdateAt ctx = .ok ctx' ∧
        Absorbed ctx' blocks' rest' ∧ concat blocks' ++ rest' = concat blocks ++ rest ++ chunks.flatten := by
  induction chunks with
  | nil =>
    intro ctx blocks rest h _
    exact ⟨ctx, blocks, rest, rfl, h, by rw [List.flatten_nil, List.append_nil]⟩
  | cons c chunks ih =>
    intro ctx blocks rest h htotal
    rw [List.flatten_cons, @List.length_append _ c] at htotal
    have hcount := bitCount_absorbed h (by omega)
    have hcall := sha1UpdateAt_eq (hchunk c List.mem_cons_self)
      (show ctx.bitCount.toNat + c.length * 8 < 2 ^ 64 by omega)
    obtain ⟨blocks', rest', h', hmsg⟩ := absorbed_sha1Update h c
    have hlength := congrArg List.length hmsg
    rw [@List.length_append _ (concat blocks ++ rest)] at hlength
    obtain ⟨ctx'', blocks'', rest'', hrun, h'', hmsg'⟩ :=
      ih (fun d hd => hchunk d (List.mem_cons_of_mem c hd)) h' (by omega)
    refine ⟨ctx'', blocks'', rest'', ?_, h'', ?_⟩
    · rw [List.foldlM_cons, hcall, Checked.ok_bind, hrun]
    · rw [hmsg', hmsg, List.flatten_cons, List.append_assoc]

/-- Whatever the message is cut into, the digest is that of RFC 3174. -/
theorem sha1_incremental (buffer : Buf 64) (chunks : List Bytes)
    (hchunk : ∀ c ∈ chunks, c.length < 2 ^ 32 - 64) (htotal : chunks.flatten.length < 2 ^ 61) :
    ∃ ctx, chunks.foldlM sha1UpdateAt (sha1InitAt buffer) = .ok ctx ∧
      (sha1Final ctx).bytes = Spec.Rfc3174.sha1 chunks.flatten := by
  have hlength : (concat [] ++ ([] : Bytes)).length + chunks.flatten.length < 2 ^ 61 := by
    show 0 + _ < _
    omega
  obtain ⟨ctx, blocks, rest, hrun, h, hmsg⟩ :=
    absorbed_foldlM hchunk (absorbed_sha1InitAt buffer) hlength
  refine ⟨ctx, hrun, ?_⟩
  rw [sha1Final_eq h, hmsg, spec_sha1_eq]
  rfl

/-- Three calls, one of them empty. -/
theorem sha1_incremental_threeCalls : ∃ ctx,
    [[0x61], [], [0x62, 0x63]].foldlM sha1UpdateAt (sha1InitAt (Buf.zero 64)) = .ok ctx ∧
      (sha1Final ctx).bytes = Spec.Rfc3174.sha1 [0x61, 0x62, 0x63] :=
  sha1_incremental (Buf.zero 64) [[0x61], [], [0x62, 0x63]] (by decide) (by decide)

end Crypto
end Rtl8814au
