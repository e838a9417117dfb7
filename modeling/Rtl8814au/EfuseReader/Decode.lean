import Rtl8814au.Lib.Dialogue
import Rtl8814au.Lib.Fields
import Rtl8814au.RegisterIO.Access

/-!
# EfuseReader.Decode

The physical EFUSE and the logical map.

* `decodeMap`, `readEfuseMap` — programs that ask for bytes of the EFUSE and write to the map.
* `Record`       — an entry of the physical EFUSE, with what its header can express; `encode` is its bytes.
* `overwriteAll` — a map with the words of the records put in, in their order.
* `efuse_decode` — the map that `readEfuseMap` makes of encoded records.
-/

namespace Rtl8814au
namespace EfuseReader

open Dialogue Fields

def kEfuseTotalSize : Nat := 1024
def kEfuseMapSize : Nat := 512

/-! ## The reader -/

/-- The calls of `_ReadByte`, and what is written to the members. -/
inductive Call
  | readByte (address : Nat)
  | writeMap (index : Nat) (value : UInt8)
  | fillMap (value : UInt8)
  | setMapValid (valid : Bool)

/-- `_ReadByte` gives a byte with its status. -/
abbrev Call.Answer : Call → Type
  | .readByte _ => StatusCode × UInt8
  | .writeMap _ _ | .fillMap _ | .setMapValid _ => Unit

abbrev ReaderIo (α : Type) : Type := Dialogue Call Call.Answer α

/-- The words of a group, `passed` bytes behind its header; the result is how many there are. -/
def readWords (mapOffset wordEnable physAddr : Nat) :
    List (Fin 4) → (passed : Nat) → ReaderIo (Except StatusCode Nat)
  | [], passed => pure (.ok passed)
  | wordIndex :: rest, passed =>
    if wordEnable &&& (1 <<< wordIndex.val) = 0 then
      let targetOffset := mapOffset + wordIndex * 2
      if targetOffset + 1 < kEfuseMapSize then do
        let (status, value) ← request (Call.readByte (physAddr + passed))
        request (Call.writeMap targetOffset value)
        if status ≠ StatusCode.ok then pure (.error status)
        else
          let (status, value) ← request (Call.readByte (physAddr + passed + 1))
          request (Call.writeMap (targetOffset + 1) value)
          if status ≠ StatusCode.ok then pure (.error status)
          else readWords mapOffset wordEnable physAddr rest (passed + 2)
      else readWords mapOffset wordEnable physAddr rest (passed + 2) -- out of bounds
    else readWords mapOffset wordEnable physAddr rest passed

/-- What a header says, and the bytes it has behind the first. -/
structure Header where
  mapOffset : Nat
  wordEnable : Nat
  further : Nat

def readHeader (physAddr : Nat) (header : UInt8) : ReaderIo (Except StatusCode Header) :=
  if header.toNat &&& 0x1F = 0x0F then do
    let (status, header2) ← request (Call.readByte physAddr)
    if status ≠ StatusCode.ok then pure (.error status)
    else
      pure (.ok
        { mapOffset := (extract 0xE0 5 header.toNat ||| extract 0xF0 1 header2.toNat) * 8
          wordEnable := header2.toNat &&& 0x0F
          further := 1 })
  else
    pure (.ok
      { mapOffset := ((header.toNat >>> 4) &&& 0x0F) * 8
        wordEnable := header.toNat &&& 0x0F
        further := 0 })

def decodeFrom (physAddr : Nat) : ReaderIo StatusCode :=
  if physAddr < kEfuseTotalSize then do
    let (status, header) ← request (Call.readByte physAddr)
    if status ≠ StatusCode.ok then pure status
    else if header = 0xFF then pure .ok
    else
      match ← readHeader (physAddr + 1) header with
      | .error status => pure status
      | .ok group =>
        let start := physAddr + 1 + group.further
        match ← readWords group.mapOffset group.wordEnable start (List.finRange 4) 0 with
        | .error status => pure status
        | .ok passed => decodeFrom (start + passed)
  else pure .ok
termination_by kEfuseTotalSize - physAddr

def decodeMap : ReaderIo StatusCode := decodeFrom 0

def readEfuseMap : ReaderIo StatusCode := do
  request (Call.fillMap 0xFF)
  request (Call.setMapValid false)
  let status ← decodeMap
  if status ≠ StatusCode.ok then pure status
  else
    request (Call.setMapValid true)
    pure .ok

/-! ## The EFUSE -/

structure Reader where
  fMap : Buf kEfuseMapSize
  fMapValid : Bool

/-- An EFUSE whose bytes are all read. -/
def serve (content : Bytes) : (c : Call) → Reader → c.Answer × Reader
  | .readByte address, s => ((.ok, content.at address), s)
  | .writeMap index value, s => ((), { s with fMap := s.fMap.set index value })
  | .fillMap value, s => ((), { s with fMap := .fill kEfuseMapSize value })
  | .setMapValid valid, s => ((), { s with fMapValid := valid })

abbrev Word : Type := UInt8 × UInt8

/-- A group of four words, of which some are there. The short header has four bits for the offset,
and would be taken for a long one if no word were there. -/
structure Record where
  extended : Bool
  offset : Nat
  words : Fin 4 → Option Word
  offset_lt : offset < if extended then 128 else 16
  present : extended = false → ∃ i, words i ≠ none

namespace Record

variable (r : Record)

/-- A bit is set where the word is missing. -/
def enableFields : List (Nat × Nat) :=
  [(1, (r.words 0).isNone.toNat), (1, (r.words 1).isNone.toNat), (1, (r.words 2).isNone.toNat),
    (1, (r.words 3).isNone.toNat)]

def wordEnable : Nat := pack r.enableFields

def headerBytes : Bytes :=
  if r.extended then
    [UInt8.ofNat (pack [(5, 0x0F), (3, r.offset % 8)]),
      UInt8.ofNat (pack [(4, r.wordEnable), (4, r.offset / 8)])]
  else [UInt8.ofNat (pack [(4, r.wordEnable), (4, r.offset)])]

def wordBytes (i : Fin 4) : Bytes :=
  match r.words i with
  | some w => [w.1, w.2]
  | none => []

def encode : Bytes := r.headerBytes ++ (List.finRange 4).flatMap r.wordBytes

/-- The word of a group that byte `j` of the map is in. -/
def wordOf (j : Nat) : Fin 4 := Fin.ofNat 4 (j / 2)

/-- What the record has for byte `j` of the map. -/
def byteAt (j : Nat) : Option UInt8 :=
  if j / 8 = r.offset then (r.words (wordOf j)).map fun w => if j % 2 = 0 then w.1 else w.2
  else none

/-- A map with the words `is` of the record put in. The map has no end here. -/
def overwriteWords (is : List (Fin 4)) (image : Nat → UInt8) (j : Nat) : UInt8 :=
  if wordOf j ∈ is then (r.byteAt j).getD (image j) else image j

def overwrite (image : Nat → UInt8) (j : Nat) : UInt8 := (r.byteAt j).getD (image j)

end Record

def encodeAll (records : List Record) : Bytes := records.flatMap Record.encode

def overwriteAll (records : List Record) (image : Nat → UInt8) : Nat → UInt8 :=
  records.foldl (fun image r => r.overwrite image) image

/-- The records fill the EFUSE, or the end mark is behind them. -/
structure Holds (content : Bytes) (records : List Record) : Prop where
  length_eq : content.length = kEfuseTotalSize
  written : content = encodeAll records ∨ ∃ rest, content = encodeAll records ++ 0xFF :: rest

/-- The map shows what is in `image`, as far as it goes. -/
def Shows (m : Buf kEfuseMapSize) (image : Nat → UInt8) : Prop :=
  ∀ j < kEfuseMapSize, m.bytes.at j = image j

/-! ## Headers -/

namespace Record

variable {r : Record}

theorem wordEnable_lt : r.wordEnable < 2 ^ 4 := pack_lt r.enableFields

theorem wordEnable_bit (i : Fin 4) : r.wordEnable &&& (1 <<< i.val) = 0 ↔ r.words i ≠ none := by
  have hflag : flag (1 <<< i.val) r.wordEnable = (r.words i).isNone := by
    match i with
    | 0 => exact flag_pack (k := 0) rfl rfl rfl
    | 1 => exact flag_pack (k := 1) rfl rfl rfl
    | 2 => exact flag_pack (k := 2) rfl rfl rfl
    | 3 => exact flag_pack (k := 3) rfl rfl rfl
  rw [flag] at hflag
  cases hw : r.words i with
  | none =>
    rw [hw] at hflag
    simpa using hflag
  | some w =>
    rw [hw] at hflag
    simpa using hflag

theorem headerBytes_ne_nil (r : Record) : r.headerBytes ≠ [] := by
  rw [headerBytes]
  split <;> exact List.cons_ne_nil _ _

/-- A short header is neither the end mark nor a long one. -/
theorem wordEnable_short (h : r.extended = false) : r.wordEnable ≠ 15 := by
  have hbits : ∀ i : Fin 4, 15 &&& (1 <<< i.val) ≠ 0 := by decide
  intro hall
  obtain ⟨i, hi⟩ := r.present h
  have hbit := (wordEnable_bit i).mpr hi
  rw [hall] at hbit
  exact hbits i hbit

theorem toNat_pack {fs : List (Nat × Nat)} (h : width fs ≤ 8) :
    (UInt8.ofNat (pack fs)).toNat = pack fs :=
  UInt8.toNat_ofNat_of_lt' (Nat.lt_of_lt_of_le (pack_lt fs) (Nat.pow_le_pow_right (by decide) h))

theorem short_fields {enable offset : Nat} (henable : enable < 2 ^ 4) (hoffset : offset < 2 ^ 4) :
    pack [(4, enable), (4, offset)] &&& 0x1F = (enable + 16 * offset) % 32 ∧
      ((pack [(4, enable), (4, offset)] >>> 4) &&& 0x0F) = offset ∧
      pack [(4, enable), (4, offset)] &&& 0x0F = enable := by
  have hpack : pack [(4, enable), (4, offset)] = enable + 16 * offset := by
    simp only [pack]
    omega
  rw [hpack]
  refine ⟨Nat.and_two_pow_sub_one_eq_mod _ 5, ?_, ?_⟩
  · rw [Nat.shiftRight_eq_div_pow]
    refine (Nat.and_two_pow_sub_one_eq_mod _ 4).trans ?_
    omega
  · refine (Nat.and_two_pow_sub_one_eq_mod _ 4).trans ?_
    omega

/-- The upper four bits of a byte, moved down by one. -/
theorem extract_high (x : Nat) : extract 0xF0 1 x = 2 ^ 3 * (x / 2 ^ 4 % 2 ^ 4) := by
  have hhigh : (x &&& 0xF0) / 2 ^ 4 = x / 2 ^ 4 % 2 ^ 4 := by
    rw [← Nat.shiftRight_eq_div_pow]
    exact extract_eq (show 0xF0 = (2 ^ 4 - 1) <<< 4 by decide) x
  have hlow : (x &&& 0xF0) % 2 ^ 4 = 0 := by
    rw [← Nat.and_two_pow_sub_one_eq_mod, Nat.and_assoc]
    exact Nat.and_zero x
  rw [extract, Nat.shiftRight_eq_div_pow]
  omega

/-- The offset of a long header is in two parts. -/
theorem long_fields {enable offset : Nat} (henable : enable < 2 ^ 4) (hoffset : offset < 2 ^ 7) :
    pack [(5, 0x0F), (3, offset % 8)] &&& 0x1F = 0x0F ∧
      (extract 0xE0 5 (pack [(5, 0x0F), (3, offset % 8)]) |||
        extract 0xF0 1 (pack [(4, enable), (4, offset / 8)])) = offset ∧
      pack [(4, enable), (4, offset / 8)] &&& 0x0F = enable := by
  have hhigh : offset / 8 < 2 ^ 4 := by omega
  have hlow : offset % 8 < 2 ^ 3 := Nat.mod_lt offset (by decide)
  have hshort := (short_fields henable hhigh).2.2
  have hmark : pack [(5, 0x0F), (3, offset % 8)] = 15 + 32 * (offset % 8) := by
    simp only [pack]
    omega
  have hthree : extract 0xE0 5 (pack [(5, 0x0F), (3, offset % 8)]) = offset % 8 :=
    extract_pack (k := 1) rfl rfl (by decide) hlow
  have hfour : pack [(4, enable), (4, offset / 8)] / 2 ^ 4 % 2 ^ 4 = offset / 8 :=
    (pack_field (k := 1) rfl).trans (Nat.mod_eq_of_lt hhigh)
  refine ⟨?_, ?_, hshort⟩
  · rw [hmark]
    refine (Nat.and_two_pow_sub_one_eq_mod _ 5).trans ?_
    omega
  · rw [hthree, extract_high, hfour, Nat.or_comm, ← Nat.two_pow_add_eq_or_of_lt hlow]
    omega

theorem readHeader_run {content rest : Bytes} {physAddr : Nat} {header : UInt8} {s : Reader}
    (h : r.headerBytes ++ rest = header :: content.drop physAddr) :
    header ≠ 0xFF ∧ ∃ further, r.headerBytes.length = 1 + further ∧
      (readHeader physAddr header).run (serve content) s =
        (.ok ⟨r.offset * 8, r.wordEnable, further⟩, s) := by
  have henable := r.wordEnable_lt
  have hoffset := r.offset_lt
  rw [headerBytes] at h ⊢
  split at h
  · rename_i hext
    rw [if_pos hext] at hoffset
    rw [if_pos hext]
    simp only [List.cons_append, List.nil_append, List.cons.injEq] at h
    obtain ⟨rfl, hdrop⟩ := h
    obtain ⟨hmark, hboth, hlow⟩ := long_fields henable hoffset
    have hfirst : (UInt8.ofNat (pack [(5, 0x0F), (3, r.offset % 8)])).toNat = _ :=
      toNat_pack (Nat.le_refl 8)
    have hsecond : (UInt8.ofNat (pack [(4, r.wordEnable), (4, r.offset / 8)])).toNat = _ :=
      toNat_pack (Nat.le_refl 8)
    refine ⟨?_, 1, rfl, ?_⟩
    · intro hend
      rw [← hfirst, hend] at hmark
      exact absurd hmark (by decide)
    · rw [readHeader, hfirst, if_pos hmark, run_ask]
      simp only [serve, (Bytes.at_of_drop hdrop.symm).1, hsecond, hboth, hlow]
      rfl
  · rename_i hext
    rw [if_neg hext] at hoffset
    rw [if_neg hext]
    have hshort := wordEnable_short (Bool.not_eq_true _ ▸ hext)
    simp only [List.cons_append, List.nil_append, List.cons.injEq] at h
    obtain ⟨rfl, hdrop⟩ := h
    obtain ⟨hmark, hhigh, hlow⟩ := short_fields henable hoffset
    have hnot : pack [(4, r.wordEnable), (4, r.offset)] &&& 0x1F ≠ 0x0F := by
      rw [hmark]
      omega
    have hfirst : (UInt8.ofNat (pack [(4, r.wordEnable), (4, r.offset)])).toNat = _ :=
      toNat_pack (Nat.le_refl 8)
    refine ⟨?_, 0, rfl, ?_⟩
    · intro hend
      rw [← hfirst, hend] at hlow
      exact hshort hlow.symm
    · rw [readHeader, hfirst, if_neg hnot, hhigh, hlow]
      rfl

/-! ## Words -/

theorem overwriteWords_cons (i : Fin 4) (is : List (Fin 4)) (image : Nat → UInt8) :
    r.overwriteWords (i :: is) image = r.overwriteWords is (r.overwriteWords [i] image) := by
  funext j
  simp only [overwriteWords, List.mem_cons, List.not_mem_nil, or_false]
  by_cases hi : wordOf j = i
  · rw [if_pos (.inl hi), if_pos hi]
    split
    · cases r.byteAt j <;> rfl
    · rfl
  · rw [if_neg hi]
    simp only [hi, false_or]

theorem overwriteWords_all (image : Nat → UInt8) :
    r.overwriteWords (List.finRange 4) image = r.overwrite image :=
  funext fun j => if_pos (List.mem_finRange (wordOf j))

theorem overwriteWords_none {i : Fin 4} (h : r.words i = none) (image : Nat → UInt8) :
    r.overwriteWords [i] image = image := by
  funext j
  rw [overwriteWords]
  split
  · rename_i hi
    rw [byteAt, List.mem_singleton.mp hi, h, Option.map_none, ite_self, Option.getD_none]
  · rfl

theorem overwriteWords_some {i : Fin 4} {w : Word} (h : r.words i = some w) (image : Nat → UInt8)
    (j : Nat) : r.overwriteWords [i] image j =
      if r.offset * 8 + i * 2 = j then w.1
      else if r.offset * 8 + i * 2 + 1 = j then w.2 else image j := by
  have hword : (wordOf j).val = j / 2 % 4 := rfl
  rw [overwriteWords]
  by_cases hi : wordOf j = i
  · rw [if_pos (List.mem_singleton.mpr hi), byteAt, hi, h]
    rw [hi] at hword
    by_cases hgroup : j / 8 = r.offset
    · rw [if_pos hgroup, Option.map_some, Option.getD_some]
      by_cases heven : j % 2 = 0
      · rw [if_pos heven, if_pos (by omega)]
      · rw [if_neg heven, if_neg (by omega), if_pos (by omega)]
    · rw [if_neg hgroup, if_neg (by omega), if_neg (by omega)]
      rfl
  · have hval : i.val ≠ j / 2 % 4 := fun heq => hi (Fin.ext (hword.trans heq.symm))
    rw [if_neg (fun hmem => hi (List.mem_singleton.mp hmem)), if_neg (by omega), if_neg (by omega)]

section

variable {content : Bytes} {mapOffset enable physAddr passed : Nat} {i : Fin 4} {is : List (Fin 4)}
  {s : Reader}

theorem readWords_missing (hbit : enable &&& (1 <<< i.val) ≠ 0) :
    readWords mapOffset enable physAddr (i :: is) passed =
      readWords mapOffset enable physAddr is passed := by
  rw [readWords, if_neg hbit]

theorem readWords_inside (hbit : enable &&& (1 <<< i.val) = 0)
    (hinside : mapOffset + i * 2 + 1 < kEfuseMapSize) :
    (readWords mapOffset enable physAddr (i :: is) passed).run (serve content) s =
      (readWords mapOffset enable physAddr is (passed + 2)).run (serve content)
        { s with
          fMap := (s.fMap.set (mapOffset + i * 2) (content.at (physAddr + passed))).set
            (mapOffset + i * 2 + 1) (content.at (physAddr + passed + 1)) } := by
  simp only [readWords, if_pos hbit, if_pos hinside]
  rfl

theorem readWords_outside (hbit : enable &&& (1 <<< i.val) = 0)
    (houtside : ¬ mapOffset + i * 2 + 1 < kEfuseMapSize) :
    readWords mapOffset enable physAddr (i :: is) passed =
      readWords mapOffset enable physAddr is (passed + 2) := by
  simp only [readWords, if_pos hbit, if_neg houtside]

end

/-- A word that is in the map is written, and one behind its end is passed over. -/
theorem readWords_run {content rest : Bytes} {physAddr passed : Nat} {is : List (Fin 4)} {s : Reader}
    {image : Nat → UInt8} (h : content.drop (physAddr + passed) = is.flatMap r.wordBytes ++ rest)
    (hs : Shows s.fMap image) :
    ∃ m, (readWords (r.offset * 8) r.wordEnable physAddr is passed).run (serve content) s =
        (.ok (passed + (is.flatMap r.wordBytes).length), { s with fMap := m }) ∧
      Shows m (r.overwriteWords is image) := by
  induction is generalizing passed s image with
  | nil => exact ⟨s.fMap, rfl, hs⟩
  | cons i is ih =>
    rw [List.flatMap_cons, List.append_assoc] at h
    rw [overwriteWords_cons, List.flatMap_cons, List.length_append]
    cases hw : r.words i with
    | none =>
      have hbit : r.wordEnable &&& (1 <<< i.val) ≠ 0 := fun hb => (wordEnable_bit i).mp hb hw
      have hnil : r.wordBytes i = [] := by rw [wordBytes, hw]
      rw [hnil, List.nil_append] at h
      rw [readWords_missing hbit, overwriteWords_none hw, hnil, List.length_nil, Nat.zero_add]
      exact ih h hs
    | some w =>
      have hbit := (wordEnable_bit i).mpr (hw ▸ Option.some_ne_none w)
      have htwo : r.wordBytes i = [w.1, w.2] := by rw [wordBytes, hw]
      rw [htwo, List.cons_append, List.cons_append, List.nil_append] at h
      obtain ⟨hfirst, hdrop⟩ := Bytes.at_of_drop h
      obtain ⟨hsecond, hrest⟩ := Bytes.at_of_drop hdrop
      have hlength : passed + ([w.1, w.2].length + (is.flatMap r.wordBytes).length) =
          passed + 2 + (is.flatMap r.wordBytes).length := (Nat.add_assoc _ _ _).symm
      rw [htwo, hlength]
      by_cases hinside : r.offset * 8 + i * 2 + 1 < kEfuseMapSize
      · rw [readWords_inside hbit hinside, hfirst, hsecond]
        refine ih hrest fun j hj => ?_
        rw [overwriteWords_some hw, Buf.at_set _ hj, Buf.at_set _ hj, hs j hj]
        by_cases heven : r.offset * 8 + i * 2 = j
        · rw [if_neg (by omega), if_pos heven, if_pos heven]
        · rw [if_neg heven, if_neg heven]
      · -- the size of the map is even, so that no word is cut off
        have hsize : kEfuseMapSize = 512 := rfl
        rw [readWords_outside hbit hinside]
        refine ih hrest fun j hj => ?_
        rw [overwriteWords_some hw, if_neg (by omega), if_neg (by omega)]
        exact hs j hj

end Record

/-! ## Groups -/

section

variable {content : Bytes} {physAddr : Nat} {s : Reader}

theorem lt_of_drop {header : UInt8} {rest : Bytes} (hlength : content.length = kEfuseTotalSize)
    (h : content.drop physAddr = header :: rest) : physAddr < kEfuseTotalSize := by
  have hpos := congrArg List.length h
  rw [List.length_drop, hlength, List.length_cons] at hpos
  omega

theorem decodeFrom_full (h : ¬ physAddr < kEfuseTotalSize) :
    (decodeFrom physAddr).run (serve content) s = (.ok, s) := by
  rw [decodeFrom, if_neg h]
  rfl

theorem decodeFrom_end (h : physAddr < kEfuseTotalSize) (hend : content.at physAddr = 0xFF) :
    (decodeFrom physAddr).run (serve content) s = (.ok, s) := by
  rw [decodeFrom, if_pos h, run_ask]
  simp only [serve, hend]
  rfl

theorem decodeFrom_group {header : UInt8} {group : Header} {passed : Nat} {s' : Reader}
    (h : physAddr < kEfuseTotalSize) (hheader : content.at physAddr = header)
    (hmore : header ≠ 0xFF)
    (hgroup : (readHeader (physAddr + 1) header).run (serve content) s = (.ok group, s))
    (hwords : (readWords group.mapOffset group.wordEnable (physAddr + 1 + group.further)
      (List.finRange 4) 0).run (serve content) s = (.ok passed, s')) :
    (decodeFrom physAddr).run (serve content) s =
      (decodeFrom (physAddr + 1 + group.further + passed)).run (serve content) s' := by
  rw [decodeFrom, if_pos h, run_ask]
  simp only [serve, hheader, ne_eq, not_true_eq_false, if_false, if_neg hmore]
  rw [run_bind_eq hgroup]
  exact run_bind_eq hwords

end

/-- One record after the other, up to the end mark or the end of the EFUSE. -/
theorem decodeFrom_run {content ending : Bytes} {records : List Record} {physAddr : Nat} {s : Reader}
    {image : Nat → UInt8} (hlength : content.length = kEfuseTotalSize)
    (h : content.drop physAddr = encodeAll records ++ ending)
    (hend : ending = [] ∨ ∃ rest, ending = 0xFF :: rest) (hs : Shows s.fMap image) :
    ∃ m, (decodeFrom physAddr).run (serve content) s = (.ok, { s with fMap := m }) ∧
      Shows m (overwriteAll records image) := by
  induction records generalizing physAddr s image with
  | nil =>
    refine ⟨s.fMap, ?_, hs⟩
    rcases hend with rfl | ⟨rest, rfl⟩
    · refine decodeFrom_full fun hlt => ?_
      have hnil := List.drop_eq_nil_iff.mp h
      omega
    · exact decodeFrom_end (lt_of_drop hlength h) (Bytes.at_of_drop h).1
  | cons r records ih =>
    have hrecord : content.drop physAddr = r.headerBytes ++
        ((List.finRange 4).flatMap r.wordBytes ++ (encodeAll records ++ ending)) := by
      rw [h, encodeAll, List.flatMap_cons, Record.encode, List.append_assoc, List.append_assoc]
      rfl
    cases hcons : content.drop physAddr with
    | nil =>
      rw [hcons] at hrecord
      exact absurd (List.append_eq_nil_iff.mp hrecord.symm).1 r.headerBytes_ne_nil
    | cons header tail =>
      obtain ⟨hheader, htail⟩ := Bytes.at_of_drop hcons
      rw [← htail] at hcons
      obtain ⟨hmore, further, hfurther, hgroup⟩ :=
        Record.readHeader_run (s := s) (hrecord.symm.trans hcons)
      have hwords : content.drop (physAddr + 1 + further + 0) =
          (List.finRange 4).flatMap r.wordBytes ++ (encodeAll records ++ ending) := by
        rw [Nat.add_zero, Nat.add_assoc, ← hfurther, ← List.drop_drop, hrecord, List.drop_left]
      obtain ⟨m, hrun, hshows⟩ := Record.readWords_run hwords hs
      rw [decodeFrom_group (lt_of_drop hlength hcons) hheader hmore hgroup hrun]
      rw [Record.overwriteWords_all] at hshows
      refine ih ?_ hshows
      rw [Nat.zero_add, ← List.drop_drop, ← Nat.add_zero (physAddr + 1 + further), hwords,
        List.drop_left]

/-- Encoded records come out as they went in: the map is blank but for their words, a later record
over an earlier one. -/
theorem efuse_decode {content : Bytes} {records : List Record} (h : Holds content records)
    (s : Reader) :
    (∀ image, Shows s.fMap image → ∃ m, decodeMap.run (serve content) s =
        (.ok, { s with fMap := m }) ∧ Shows m (overwriteAll records image)) ∧
      ∃ m, readEfuseMap.run (serve content) s = (.ok, ⟨m, true⟩) ∧
        Shows m (overwriteAll records fun _ => 0xFF) := by
  have hdecode : ∀ (s : Reader) (image : Nat → UInt8), Shows s.fMap image →
      ∃ m, decodeMap.run (serve content) s = (.ok, { s with fMap := m }) ∧
        Shows m (overwriteAll records image) := by
    intro s image hs
    rcases h.written with hfull | ⟨rest, hended⟩
    · exact decodeFrom_run h.length_eq (hfull.trans (List.append_nil _).symm) (.inl rfl) hs
    · exact decodeFrom_run h.length_eq hended (.inr ⟨rest, rfl⟩) hs
  refine ⟨hdecode s, ?_⟩
  obtain ⟨m, hrun, hshows⟩ := hdecode ⟨.fill kEfuseMapSize 0xFF, false⟩ (fun _ => 0xFF)
    fun j hj => Buf.at_fill hj
  refine ⟨m, ?_, hshows⟩
  rw [readEfuseMap, run_ask, run_ask]
  exact run_bind_eq hrun

/-- A word, another one behind the map, and the first word again. -/
def rewritten : List Record :=
  [{ extended := false
     offset := 0
     words := fun i => if i = 0 then some (1, 2) else none
     offset_lt := by decide
     present := fun _ => ⟨0, by decide⟩ },
    { extended := true
      offset := 100
      words := fun i => if i = 3 then some (3, 4) else none
      offset_lt := by decide
      present := nofun },
    { extended := false
      offset := 0
      words := fun i => if i = 0 then some (5, 6) else none
      offset_lt := by decide
      present := fun _ => ⟨0, by decide⟩ }]

def rewrittenContent : Bytes := encodeAll rewritten ++ 0xFF :: List.replicate 1013 0

theorem efuse_decode_rewritten : ∃ m,
    readEfuseMap.run (serve rewrittenContent) ⟨.zero kEfuseMapSize, false⟩ = (.ok, ⟨m, true⟩) ∧
      m.bytes.at 0 = 5 ∧ m.bytes.at 1 = 6 ∧ m.bytes.at 2 = 0xFF := by
  have hlength : rewrittenContent.length = kEfuseTotalSize := by
    rw [rewrittenContent, List.length_append, List.length_cons, List.length_replicate]
    rfl
  have hholds : Holds rewrittenContent rewritten := ⟨hlength, .inr ⟨_, rfl⟩⟩
  obtain ⟨-, m, hrun, hshows⟩ := efuse_decode hholds ⟨.zero kEfuseMapSize, false⟩
  refine ⟨m, hrun, ?_, ?_, ?_⟩
  · exact (hshows 0 (by decide)).trans (by decide)
  · exact (hshows 1 (by decide)).trans (by decide)
  · exact (hshows 2 (by decide)).trans (by decide)

end EfuseReader
end Rtl8814au
