import Rtl8814au.EfuseReader.ReadByte

/-!
# EfuseReader.Bounds

What `decodeMap` reads and writes, whatever the EFUSE holds.

* `InBounds limit` — a read below the limit, or a write inside the map.
* `Complete` — each record that the decoder comes to ends inside the EFUSE.
* `decode_reach` — how far the reads can go; the writes to the map are always inside.
* `decode_bounds` — the reads stay in the EFUSE if and only if the records are complete.
-/

namespace Rtl8814au
namespace EfuseReader

open Dialogue Fields

def InBounds (limit : Nat) : Call → Prop
  | .readByte address => address < limit
  | .writeMap index _ => index < kEfuseMapSize
  | .fillMap _ | .setMapValid _ => True

/-- `_ReadByte` gives the byte at the lower ten bits of the address, or times out. -/
inductive Answers (content : Buf kEfuseTotalSize) : Dialogue.Env Reader Call.Answer
  | read {s : Reader} {address : Nat} :
    Answers content s (.readByte address) (.ok, content.bytes.at (address % kEfuseTotalSize)) s
  | timedOut {s : Reader} {address : Nat} : Answers content s (.readByte address) (.timedOut, 0xFF) s
  | writeMap {s : Reader} {index : Nat} {value : UInt8} :
    Answers content s (.writeMap index value) () { s with fMap := s.fMap.set index value }
  | fillMap {s : Reader} {value : UInt8} :
    Answers content s (.fillMap value) () { s with fMap := .fill kEfuseMapSize value }
  | setMapValid {s : Reader} {valid : Bool} :
    Answers content s (.setMapValid valid) () { s with fMapValid := valid }

/-! ## Records that are complete -/

/-- What the bytes of a header say; the second counts where the first is that of a long one. -/
def headerOf (header header2 : UInt8) : Header :=
  if header.toNat &&& 0x1F = 0x0F then
    { mapOffset := (extract 0xE0 5 header.toNat ||| extract 0xF0 1 header2.toNat) * 8
      wordEnable := header2.toNat &&& 0x0F
      further := 1 }
  else
    { mapOffset := ((header.toNat >>> 4) &&& 0x0F) * 8
      wordEnable := header.toNat &&& 0x0F
      further := 0 }

/-- How many of the words `is` are there. -/
def wordCount (wordEnable : Nat) (is : List (Fin 4)) : Nat :=
  is.countP fun i => wordEnable &&& (1 <<< i.val) = 0

namespace Header

variable (h : Header)

def length : Nat := 1 + h.further

def wordsLength : Nat := 2 * wordCount h.wordEnable (List.finRange 4)

end Header

def headerAt (content : Buf kEfuseTotalSize) (physAddr : Nat) : Header :=
  headerOf (content.bytes.at physAddr) (content.bytes.at ((physAddr + 1) % kEfuseTotalSize))

/-- From `physAddr` on. The words of a group outside the map are passed over, so that they may be
missing. -/
inductive Complete (content : Buf kEfuseTotalSize) : Nat → Prop
  | full {physAddr : Nat} : kEfuseTotalSize ≤ physAddr → Complete content physAddr
  | ended {physAddr : Nat} : physAddr < kEfuseTotalSize → content.bytes.at physAddr = 0xFF →
    Complete content physAddr
  | entry {physAddr : Nat} {group : Header} : physAddr < kEfuseTotalSize →
    content.bytes.at physAddr ≠ 0xFF → headerAt content physAddr = group →
    physAddr + group.length ≤ kEfuseTotalSize →
    (group.mapOffset < kEfuseMapSize →
      physAddr + group.length + group.wordsLength ≤ kEfuseTotalSize) →
    Complete content (physAddr + group.length + group.wordsLength) → Complete content physAddr

/-! ## Requests -/

section

variable {content : Buf kEfuseTotalSize} {limit : Nat} {s : Reader}

theorem safe_readByte {α : Type} {Q : α → Reader → Prop} {address : Nat}
    {f : StatusCode × UInt8 → ReaderIo α} :
    safe (InBounds limit) (Answers content) Q (request (Call.readByte address) >>= f) s ↔
      address < limit ∧
        safe (InBounds limit) (Answers content) Q (f (.ok, content.bytes.at (address % kEfuseTotalSize))) s ∧
        safe (InBounds limit) (Answers content) Q (f (.timedOut, 0xFF)) s := by
  refine safe_ask.trans (and_congr Iff.rfl ?_)
  constructor
  · exact fun h => ⟨h _ _ .read, h _ _ .timedOut⟩
  · rintro ⟨hread, htimedOut⟩ r s' hanswers
    cases hanswers with
    | read => exact hread
    | timedOut => exact htimedOut

theorem safe_writeMap {α : Type} {Q : α → Reader → Prop} {index : Nat} {value : UInt8}
    {f : Unit → ReaderIo α} :
    safe (InBounds limit) (Answers content) Q (request (Call.writeMap index value) >>= f) s ↔
      index < kEfuseMapSize ∧ safe (InBounds limit) (Answers content) Q (f ())
        { s with fMap := s.fMap.set index value } := by
  refine safe_ask.trans (and_congr Iff.rfl ?_)
  constructor
  · exact fun h => h _ _ .writeMap
  · rintro h r s' hanswers
    cases hanswers with
    | writeMap => exact h

theorem wordCount_cons (enable : Nat) (i : Fin 4) (is : List (Fin 4)) :
    wordCount enable (i :: is) =
      wordCount enable is + if enable &&& (1 <<< i.val) = 0 then 1 else 0 := by
  rw [wordCount, List.countP_cons]
  simp only [decide_eq_true_eq]
  rfl

/-- The words that are in the map have to be in the EFUSE. `C` is what is left for the rest. -/
theorem safe_readWords {Q : Except StatusCode Nat → Reader → Prop} {C : Nat → Prop}
    (herror : ∀ status s, Q (.error status) s) (hok : ∀ passed s, Q (.ok passed) s ↔ C passed)
    {mapOffset enable physAddr passed : Nat} (haligned : mapOffset % 8 = 0) {is : List (Fin 4)} :
    safe (InBounds limit) (Answers content) Q (readWords mapOffset enable physAddr is passed) s ↔
      (mapOffset < kEfuseMapSize → 0 < wordCount enable is →
        physAddr + passed + 2 * wordCount enable is ≤ limit) ∧
      C (passed + 2 * wordCount enable is) := by
  induction is generalizing passed s with
  | nil =>
    have hzero : wordCount enable [] = 0 := rfl
    rw [hzero, Nat.mul_zero, Nat.add_zero]
    refine (hok passed s).trans ⟨fun h => ⟨fun _ => nofun, h⟩, fun h => h.2⟩
  | cons i is ih =>
    rw [wordCount_cons]
    by_cases hbit : enable &&& (1 <<< i.val) = 0
    · have hcount : passed + 2 * (wordCount enable is + 1) = passed + 2 + 2 * wordCount enable is := by
        omega
      rw [if_pos hbit, hcount]
      have hsize : kEfuseMapSize = 512 := rfl
      by_cases hinside : mapOffset + i * 2 + 1 < kEfuseMapSize
      · have hfail : ∀ s, safe (InBounds limit) (Answers content) Q (pure (.error .timedOut)) s :=
          herror StatusCode.timedOut
        simp only [readWords, if_pos hbit, if_pos hinside]
        rw [safe_readByte, safe_writeMap, safe_writeMap]
        simp only [ne_eq, not_true_eq_false, if_false, reduceCtorEq, not_false_eq_true, if_true, hfail]
        rw [safe_readByte, safe_writeMap, safe_writeMap]
        simp only [not_true_eq_false, if_false, reduceCtorEq, not_false_eq_true, if_true, hfail]
        rw [ih]
        constructor
        · rintro ⟨-, ⟨-, hsecond, ⟨-, hrest, hleft⟩, -⟩, -⟩
          exact ⟨fun hmap _ => by have := hrest hmap; omega, hleft⟩
        · rintro ⟨hwords, hleft⟩
          have hend := hwords (by omega) (Nat.succ_pos _)
          exact ⟨by omega, ⟨by omega, by omega, ⟨hinside, fun _ _ => by omega, hleft⟩, hinside, trivial⟩,
            by omega, trivial⟩
      · -- the offset is that of a group, so that no word is cut off
        rw [Record.readWords_outside hbit hinside, ih]
        have houtside : ¬ mapOffset < kEfuseMapSize := by omega
        simp only [houtside, false_implies]
    · rw [if_neg hbit, Nat.add_zero, Record.readWords_missing hbit]
      exact ih

theorem safe_readHeader {Q : Except StatusCode Header → Reader → Prop}
    (herror : ∀ status s, Q (.error status) s) {physAddr : Nat} {header : UInt8} :
    safe (InBounds limit) (Answers content) Q (readHeader physAddr header) s ↔
      (header.toNat &&& 0x1F = 0x0F → physAddr < limit) ∧
        Q (.ok (headerOf header (content.bytes.at (physAddr % kEfuseTotalSize)))) s := by
  rw [readHeader, headerOf]
  by_cases hlong : header.toNat &&& 0x1F = 0x0F
  · rw [if_pos hlong, if_pos hlong, safe_readByte]
    simp only [hlong, true_implies]
    exact and_congr Iff.rfl ⟨fun h => h.1, fun h => ⟨h, herror _ _⟩⟩
  · rw [if_neg hlong, if_neg hlong]
    exact ⟨fun h => ⟨fun heq => absurd heq hlong, h⟩, fun h => h.2⟩

theorem headerOf_aligned (header header2 : UInt8) : (headerOf header header2).mapOffset % 8 = 0 := by
  rw [headerOf]
  split <;> exact Nat.mul_mod_left _ 8

theorem length_headerOf_le (header header2 : UInt8) {physAddr : Nat} (h : physAddr < limit) :
    (header.toNat &&& 0x1F = 0x0F → physAddr + 1 < limit) ↔
      physAddr + (headerOf header header2).length ≤ limit := by
  rw [headerOf, Header.length]
  split
  · rename_i hlong
    simp only [hlong, true_implies]
    exact Iff.rfl
  · rename_i hshort
    simp only [hshort, false_implies, true_iff]
    exact h

theorem safe_ended {physAddr : Nat} (h : physAddr < limit) (hlt : physAddr < kEfuseTotalSize)
    (hend : content.bytes.at physAddr = 0xFF) :
    safe (InBounds limit) (Answers content) (fun _ _ => True) (decodeFrom physAddr) s := by
  rw [decodeFrom, if_pos hlt, safe_readByte, Nat.mod_eq_of_lt hlt, hend]
  exact ⟨h, trivial, trivial⟩

theorem safe_full {physAddr : Nat} (h : ¬ physAddr < kEfuseTotalSize) :
    safe (InBounds limit) (Answers content) (fun _ _ => True) (decodeFrom physAddr) s := by
  rw [decodeFrom, if_neg h]
  exact trivial

/-- The words of a record, with the records behind it. -/
theorem safe_words {C : Nat → Prop} {start : Nat} {group : Header}
    (haligned : group.mapOffset % 8 = 0)
    (hnext : ∀ passed s, safe (InBounds limit) (Answers content) (fun _ _ => True)
      (decodeFrom (start + passed)) s ↔ C (start + passed)) :
    safe (InBounds limit) (Answers content) (fun _ _ => True)
      (readWords group.mapOffset group.wordEnable start (List.finRange 4) 0 >>=
        fun
        | .error status => pure status
        | .ok passed => decodeFrom (start + passed)) s ↔
      (group.mapOffset < kEfuseMapSize → 0 < wordCount group.wordEnable (List.finRange 4) →
        start + group.wordsLength ≤ limit) ∧
      C (start + group.wordsLength) := by
  rw [Header.wordsLength]
  refine safe_bind.trans ((safe_readWords (C := fun passed => C (start + passed)) (fun _ _ => trivial)
    (fun passed s => hnext passed s) haligned).trans ?_)
  rw [Nat.add_zero, Nat.zero_add]

/-- One turn of the loop. `C` is what is left for the next. -/
theorem safe_entry {C : Nat → Prop} {physAddr : Nat} (h : physAddr < limit)
    (hlt : physAddr < kEfuseTotalSize) (hmore : content.bytes.at physAddr ≠ 0xFF) {group : Header}
    (hgroup : headerAt content physAddr = group)
    (hnext : ∀ next, physAddr < next → ∀ s,
      safe (InBounds limit) (Answers content) (fun _ _ => True) (decodeFrom next) s ↔ C next) :
    safe (InBounds limit) (Answers content) (fun _ _ => True) (decodeFrom physAddr) s ↔
      physAddr + group.length ≤ limit ∧
        (group.mapOffset < kEfuseMapSize → physAddr + group.length + group.wordsLength ≤ limit) ∧
        C (physAddr + group.length + group.wordsLength) := by
  have hmod : physAddr % kEfuseTotalSize = physAddr := Nat.mod_eq_of_lt hlt
  have hlong := length_headerOf_le (content.bytes.at physAddr)
    (content.bytes.at ((physAddr + 1) % kEfuseTotalSize)) h
  rw [← headerAt, hgroup] at hlong
  have haligned : group.mapOffset % 8 = 0 := hgroup ▸ headerOf_aligned _ _
  have hlength : physAddr + group.length = physAddr + 1 + group.further := (Nat.add_assoc _ _ _).symm
  rw [hlength] at hlong ⊢
  have hwords := safe_words (s := s) haligned fun passed s =>
    hnext (physAddr + 1 + group.further + passed) (by omega) s
  rw [decodeFrom, if_pos hlt, safe_readByte]
  simp only [ne_eq, not_true_eq_false, if_false, reduceCtorEq, not_false_eq_true, if_true, hmod,
    if_neg hmore]
  rw [safe_bind, safe_readHeader (fun _ _ => trivial), hlong, ← headerAt, hgroup]
  constructor
  · rintro ⟨-, ⟨hheader, hsafe⟩, -⟩
    obtain ⟨hfit, hleft⟩ := hwords.mp hsafe
    refine ⟨hheader, fun hmap => ?_, hleft⟩
    rcases Nat.eq_zero_or_pos (wordCount group.wordEnable (List.finRange 4)) with hnone | hsome
    · rw [Header.wordsLength, hnone]
      exact hheader
    · exact hfit hmap hsome
  · rintro ⟨hheader, hfit, hleft⟩
    exact ⟨h, ⟨hheader, hwords.mpr ⟨fun hmap _ => hfit hmap, hleft⟩⟩, trivial⟩

theorem safe_decodeFrom (physAddr : Nat) (s : Reader) :
    safe (InBounds kEfuseTotalSize) (Answers content) (fun _ _ => True) (decodeFrom physAddr) s ↔
      Complete content physAddr := by
  induction hleft : kEfuseTotalSize - physAddr using Nat.strong_induction_on generalizing physAddr s with
  | _ left ih =>
    by_cases hlt : physAddr < kEfuseTotalSize
    · by_cases hend : content.bytes.at physAddr = 0xFF
      · exact iff_of_true (safe_ended hlt hlt hend) (.ended hlt hend)
      · generalize hgroup : headerAt content physAddr = group
        rw [safe_entry hlt hlt hend hgroup fun next hnext s => ih _ (by omega) next s rfl]
        constructor
        · rintro ⟨hheader, hwords, hnext⟩
          exact .entry hlt hend hgroup hheader hwords hnext
        · intro hcomplete
          cases hcomplete with
          | full hfull => exact absurd hlt (Nat.not_lt.mpr hfull)
          | ended _ hended => exact absurd hended hend
          | entry _ _ hsame hheader hwords hnext =>
            obtain rfl := hgroup.symm.trans hsame
            exact ⟨hheader, hwords, hnext⟩
    · exact iff_of_true (safe_full hlt) (.full (Nat.not_lt.mp hlt))

/-! ## The bounds -/

theorem headerAt_length_le (content : Buf kEfuseTotalSize) (physAddr : Nat) :
    (headerAt content physAddr).length + (headerAt content physAddr).wordsLength ≤ 10 := by
  have hcount : (headerAt content physAddr).wordsLength ≤ 2 * 4 :=
    Nat.mul_le_mul_left 2 (List.countP_le_length (l := List.finRange 4))
  have hfurther : (headerAt content physAddr).length ≤ 2 := by
    rw [headerAt, headerOf, Header.length]
    split
    · exact Nat.le_refl 2
    · exact Nat.le_succ 1
  omega

/-- A record that starts in the last byte of the EFUSE has up to nine bytes behind it. -/
theorem decode_reach (content : Buf kEfuseTotalSize) (s : Reader) :
    safe (InBounds (kEfuseTotalSize + 9)) (Answers content) (fun _ _ => True) decodeMap s := by
  have hfrom : ∀ physAddr s, safe (InBounds (kEfuseTotalSize + 9)) (Answers content)
      (fun _ _ => True) (decodeFrom physAddr) s := by
    intro physAddr s
    induction hleft : kEfuseTotalSize - physAddr using Nat.strong_induction_on
      generalizing physAddr s with
    | _ left ih =>
      by_cases hlt : physAddr < kEfuseTotalSize
      · by_cases hend : content.bytes.at physAddr = 0xFF
        · exact safe_ended (Nat.lt_add_right 9 hlt) hlt hend
        · have hlength := headerAt_length_le content physAddr
          refine (safe_entry (C := fun _ => True) (Nat.lt_add_right 9 hlt) hlt hend rfl
            fun next hnext s => iff_true_intro (ih _ (by omega) next s rfl)).mpr ?_
          exact ⟨by omega, fun _ => by omega, trivial⟩
      · exact safe_full hlt
  exact hfrom 0 s

/-- The decoder stays inside the EFUSE and the map, in all of its runs, if and only if each record that
it comes to ends in the EFUSE. -/
theorem decode_bounds (content : Buf kEfuseTotalSize) (s : Reader) :
    safe (InBounds kEfuseTotalSize) (Answers content) (fun _ _ => True) decodeMap s ↔
      Complete content 0 := safe_decodeFrom 0 s

theorem at_zero (i : Nat) : (Buf.zero kEfuseTotalSize).bytes.at i = 0 := by
  show (List.replicate kEfuseTotalSize 0).getD i 0 = (0 : UInt8)
  rw [List.getD_eq_getElem?_getD, List.getElem?_replicate]
  split <;> rfl

/-- Where all bytes are zero, each record has nine of them, and the last one does not fit. -/
theorem not_complete_zero {physAddr : Nat} (h : physAddr ≤ 1017) (hrecords : physAddr % 9 = 0) :
    ¬ Complete (.zero kEfuseTotalSize) physAddr := by
  have hgroup : ∀ p, headerAt (.zero kEfuseTotalSize) p = ⟨0, 0, 0⟩ := fun p => by
    rw [headerAt, at_zero, at_zero]
    rfl
  have hsize : kEfuseTotalSize = 1024 := rfl
  intro hcomplete
  induction hcomplete with
  | full hfull => omega
  | ended _ hended =>
    rw [at_zero] at hended
    exact absurd hended (by decide)
  | entry _ _ hsame _ hwords _ ih =>
    obtain rfl := (hgroup _).symm.trans hsame
    have hnine : ∀ p, p + (Header.mk 0 0 0).length + (Header.mk 0 0 0).wordsLength = p + 9 := fun _ => rfl
    rw [hnine] at hwords ih
    have hfit := hwords (by decide)
    exact ih (by omega) (by omega)

theorem decode_bounds_zero : ¬ safe (InBounds kEfuseTotalSize) (Answers (.zero kEfuseTotalSize))
    (fun _ _ => True) decodeMap ⟨.zero kEfuseMapSize, false⟩ := fun hsafe =>
  not_complete_zero (Nat.zero_le 1017) rfl ((safe_decodeFrom 0 _).mp hsafe)

end

end EfuseReader
end Rtl8814au
