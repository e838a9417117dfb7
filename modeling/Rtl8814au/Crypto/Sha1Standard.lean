import Rtl8814au.Crypto.Sha1Correct
import Rtl8814au.Spec.Rfc3174

/-!
# Crypto.Sha1Standard

The one-piece SHA-1 of `Spec.Sha1`, which still has the block function of the code, is that of
RFC 3174.

* `sha1Schedule_eq`: the 80 words that the code stores are the words `W(t)`.
* `words_sha1Transform`: the rounds of one block.
* `spec_sha1_eq`: padding, blocks and digest.
-/

namespace Rtl8814au
namespace Crypto

/-! ## The message schedule -/

/-- Four bytes below each other, put together by shifts. -/
theorem or_shifts {a b c d : Nat} (hb : b < 2 ^ 8) (hc : c < 2 ^ 8) (hd : d < 2 ^ 8) :
    a <<< 24 ||| b <<< 16 ||| c <<< 8 ||| d = ((a * 256 + b) * 256 + c) * 256 + d := by
  have hab : a <<< 24 ||| b <<< 16 = (a <<< 8 + b) <<< 16 := by
    rw [Nat.shiftLeft_add_eq_or_of_lt hb, Nat.shiftLeft_or_distrib, ← Nat.shiftLeft_add]
  have habc (x : Nat) : x <<< 16 ||| c <<< 8 = (x <<< 8 + c) <<< 8 := by
    rw [Nat.shiftLeft_add_eq_or_of_lt hc, Nat.shiftLeft_or_distrib, ← Nat.shiftLeft_add]
  rw [hab, habc, ← Nat.shiftLeft_add_eq_or_of_lt hd]
  simp only [Nat.shiftLeft_eq]

theorem word_of_bytes (a b c d : UInt8) :
    (a.toUInt32 <<< 24) ||| (b.toUInt32 <<< 16) ||| (c.toUInt32 <<< 8) ||| d.toUInt32 =
      UInt32.ofNat (Bytes.beNat [a, b, c, d]) := by
  have ha := a.toNat_lt
  have hb := b.toNat_lt
  have hc := c.toNat_lt
  have hd := d.toNat_lt
  have hvalue : Bytes.beNat [a, b, c, d] =
      ((a.toNat * 256 + b.toNat) * 256 + c.toNat) * 256 + d.toNat := by
    simp only [Bytes.beNat, List.foldl_cons, List.foldl_nil, Nat.zero_mul, Nat.zero_add]
  apply UInt32.toNat_inj.mp
  rw [UInt32.toNat_ofNat', hvalue]
  have h24 : (24 : UInt32).toNat % 32 = 24 := rfl
  have h16 : (16 : UInt32).toNat % 32 = 16 := rfl
  have h8 : (8 : UInt32).toNat % 32 = 8 := rfl
  simp only [UInt32.toNat_or, UInt32.toNat_shiftLeft, UInt8.toNat_toUInt32, h24, h16, h8]
  rw [Nat.mod_eq_of_lt (show a.toNat <<< 24 < 2 ^ 32 by rw [Nat.shiftLeft_eq]; omega),
    Nat.mod_eq_of_lt (show b.toNat <<< 16 < 2 ^ 32 by rw [Nat.shiftLeft_eq]; omega),
    Nat.mod_eq_of_lt (show c.toNat <<< 8 < 2 ^ 32 by rw [Nat.shiftLeft_eq]; omega),
    or_shifts hb hc hd, Nat.mod_eq_of_lt (by omega)]

theorem blockWord_eq {block : Bytes} {t : Nat} (h : 4 * t + 4 ≤ block.length) :
    blockWord block t = UInt32.ofNat (Bytes.beNat (block.slice (4 * t) 4)) := by
  have hslice : block.slice (4 * t) 4 =
      [block.at (4 * t), block.at (4 * t + 1), block.at (4 * t + 2), block.at (4 * t + 3)] :=
    Bytes.slice_eq_map h
  rw [hslice, blockWord, word_of_bytes, Nat.mul_comm t 4]

theorem W_of_lt {block : Bytes} {t : Nat} (h : t < 16) :
    Spec.Rfc3174.W block t = UInt32.ofNat (Bytes.beNat (block.slice (4 * t) 4)) := by
  rw [Spec.Rfc3174.W, if_pos h]

theorem W_of_le {block : Bytes} {t : Nat} (h : 16 ≤ t) :
    Spec.Rfc3174.W block t = Spec.Rfc3174.circularShift 1 (Spec.Rfc3174.W block (t - 3) ^^^
      Spec.Rfc3174.W block (t - 8) ^^^ Spec.Rfc3174.W block (t - 14) ^^^
      Spec.Rfc3174.W block (t - 16)) := by
  rw [Spec.Rfc3174.W, if_neg (by omega)]

theorem getD_map_range {α : Type} {f : Nat → α} {n i : Nat} (d : α) (h : i < n) :
    ((List.range n).map f).getD i d = f i := by
  rw [List.getD_eq_getElem _ _ (by rwa [List.length_map, List.length_range]), List.getElem_map,
    List.getElem_range]

theorem sha1ScheduleStep_W (block : Bytes) {n : Nat} (h : 16 ≤ n) :
    sha1ScheduleStep ((List.range n).map (Spec.Rfc3174.W block)) =
      (List.range (n + 1)).map (Spec.Rfc3174.W block) := by
  have hlen : ((List.range n).map (Spec.Rfc3174.W block)).length = n := by
    rw [List.length_map, List.length_range]
  rw [sha1ScheduleStep, hlen, getD_map_range _ (by omega), getD_map_range _ (by omega),
    getD_map_range _ (by omega), getD_map_range _ (by omega), List.range_succ, List.map_append,
    List.map_singleton, W_of_le h]
  rfl

theorem sha1Schedule_eq (block : Buf 64) :
    sha1Schedule block = (List.range 80).map (Spec.Rfc3174.W block.bytes) := by
  have hfirst : (List.range 16).map (blockWord block.bytes) =
      (List.range 16).map (Spec.Rfc3174.W block.bytes) := by
    apply List.map_congr_left
    intro t ht
    rw [List.mem_range] at ht
    rw [blockWord_eq (by rw [block.length_eq]; omega), W_of_lt ht]
  have hturns : ∀ n, Nat.repeat sha1ScheduleStep n ((List.range 16).map (blockWord block.bytes)) =
      (List.range (16 + n)).map (Spec.Rfc3174.W block.bytes) := by
    intro n
    induction n with
    | zero => exact hfirst
    | succ n ih => rw [Nat.repeat, ih, sha1ScheduleStep_W _ (by omega), Nat.add_assoc]
  exact hturns 64

/-! ## One block -/

def Sha1State.words (s : Sha1State) : Spec.Rfc3174.Words :=
  { A := s.a, B := s.b, C := s.c, D := s.d, E := s.e }

/-- The function and the constant that a round chooses by its number. -/
theorem sha1Round_choice (t : Nat) (b c d : UInt32) :
    (if t < 20 then ((b &&& c) ||| (~~~b &&& d), (0x5A827999 : UInt32))
      else if t < 40 then (b ^^^ c ^^^ d, 0x6ED9EBA1)
      else if t < 60 then ((b &&& c) ||| (b &&& d) ||| (c &&& d), 0x8F1BBCDC)
      else (b ^^^ c ^^^ d, 0xCA62C1D6)) = (Spec.Rfc3174.f t b c d, Spec.Rfc3174.K t) := by
  have h19 : t ≤ 19 ↔ t < 20 := by omega
  have h39 : t ≤ 39 ↔ t < 40 := by omega
  have h59 : t ≤ 59 ↔ t < 60 := by omega
  simp only [Spec.Rfc3174.f, Spec.Rfc3174.K, h19, h39, h59]
  split
  · rfl
  · split
    · rfl
    · split
      · rfl
      · rfl

theorem words_sha1Round (block : Bytes) (v : Sha1State) {t : Nat} (h : t < 80) :
    (sha1Round ((List.range 80).map (Spec.Rfc3174.W block)) v t).words =
      Spec.Rfc3174.step block v.words t := by
  have hsum : rotl32 v.a 5 + Spec.Rfc3174.f t v.b v.c v.d + v.e + Spec.Rfc3174.K t +
      Spec.Rfc3174.W block t = rotl32 v.a 5 + Spec.Rfc3174.f t v.b v.c v.d + v.e +
        Spec.Rfc3174.W block t + Spec.Rfc3174.K t := by ac_rfl
  rw [sha1Round, sha1Round_choice]
  simp only [getD_map_range _ h, hsum, Sha1State.words]
  rfl

theorem words_foldl_sha1Round (block : Bytes) (v : Sha1State) {ts : List Nat}
    (h : ∀ t ∈ ts, t < 80) :
    (ts.foldl (sha1Round ((List.range 80).map (Spec.Rfc3174.W block))) v).words =
      ts.foldl (Spec.Rfc3174.step block) v.words := by
  induction ts generalizing v with
  | nil => rfl
  | cons t ts ih =>
    rw [List.foldl_cons, List.foldl_cons, ih _ fun u hu => h u (List.mem_cons_of_mem t hu),
      words_sha1Round block v (h t List.mem_cons_self)]

theorem words_sha1Transform (state : Sha1State) (block : Buf 64) :
    (sha1Transform state block).words = Spec.Rfc3174.processBlock state.words block.bytes := by
  have hrounds := words_foldl_sha1Round block.bytes state
    fun t (ht : t ∈ List.range 80) => List.mem_range.mp ht
  rw [Spec.Rfc3174.processBlock, ← hrounds, sha1Transform, sha1Schedule_eq]
  rfl

/-! ## The digest -/

theorem words_foldl_compress {blocks : List Bytes} (h : ∀ b ∈ blocks, b.length = 64)
    (state : Sha1State) : (blocks.foldl Spec.compress state).words =
      blocks.foldl Spec.Rfc3174.processBlock state.words := by
  induction blocks generalizing state with
  | nil => rfl
  | cons b bs ih =>
    have hb := h b List.mem_cons_self
    rw [List.foldl_cons, List.foldl_cons, ih fun c hc => h c (List.mem_cons_of_mem b hc),
      Spec.compress, words_sha1Transform, Buf.bytes_ofBytes hb]

theorem sha1Pad_eq (message : Bytes) : Spec.sha1Pad message = Spec.Rfc3174.pad message := by
  simp only [Spec.sha1Pad, Spec.Rfc3174.pad, Spec.Rfc3174.zeroBytes, List.append_assoc]

theorem length_pad_mod (message : Bytes) : (Spec.Rfc3174.pad message).length % 64 = 0 := by
  have hfewest := (Spec.Rfc3174.zeroBytes_fewest message.length).1
  simp only [Spec.Rfc3174.pad, List.length_append, List.length_cons, List.length_nil,
    Bytes.length_zeros, Bytes.length_be]
  omega

theorem spec_sha1_eq (message : Bytes) : Spec.sha1 message = Spec.Rfc3174.sha1 message := by
  have hwords := words_foldl_compress (Bytes.length_of_mem_chunksOf (by decide)
    (length_pad_mod message)) sha1InitState
  have hinitial : sha1InitState.words = Spec.Rfc3174.initial := rfl
  have hdigest : ∀ state : Sha1State, state.digest.bytes = state.words.bytes := fun _ => rfl
  rw [Spec.sha1, Spec.Rfc3174.sha1, sha1Pad_eq, hdigest, hwords, hinitial]

end Crypto
end Rtl8814au
