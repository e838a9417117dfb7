import Mathlib.Data.Fintype.Card
import Mathlib.Data.List.MinMax
import Rtl8814au.WiFi.BssList

/-!
# WiFi.BssTable

The scan table of `RTL8814AUWiFiManager` with all that a beacon brings, and its count.

* `findOrCreateBssEntry`, `updateBssEntry`, `purgeStaleBssEntries` — as the code runs them, the
  count kept beside the table.
* `Invariant` — the BSSIDs are distinct, the count is right, the stored lengths fit.
* `UpdateEffect` — what an update does to the entries of other BSSIDs.
* `toBssList` — the part of the table that the join reads; both operations agree on it.
-/

namespace Rtl8814au

inductive SecurityType where
  | kSecurityNone
  | kSecurityWEP40
  | kSecurityTKIP
  | kSecurityAESCCMP
  | kSecurityWEP104
deriving DecidableEq

def kMaxIELength : Nat := 768

/-- `BssEntry` with the fields that are kept for the reports to userland. -/
structure ScanEntry extends BssEntry where
  beaconInterval : UInt16
  capability : UInt16
  security : SecurityType
  ieData : Buf 768
  ieLength : UInt32
deriving DecidableEq

/-- After `memset`. -/
def ScanEntry.zero : ScanEntry where
  toBssEntry := .zero
  beaconInterval := 0
  capability := 0
  security := .kSecurityNone
  ieData := Buf.zero 768
  ieLength := 0

/-- An entry just made for the BSSID. -/
def ScanEntry.fresh (bssid : Mac) : ScanEntry :=
  { ScanEntry.zero with valid := true, bssid := bssid }

def ScanEntry.invalidate (e : ScanEntry) : ScanEntry := { e with valid := false }

/-- The arguments of `UpdateBssEntry`. An SSID or IE block that is not there is empty. -/
structure Beacon where
  bssid : Mac
  ssid : Bytes
  channel : UInt8
  beaconInterval : UInt16
  capability : UInt16
  security : SecurityType
  rssi : Int8
  ieData : Bytes

structure BssTable where
  fBssList : Fin 64 → ScanEntry -- Of `kMaxBssEntries`.
  fBssCount : UInt32

namespace BssTable

def empty : BssTable where
  fBssList := fun _ => .zero
  fBssCount := 0

def firstIndex (t : BssTable) (p : BssEntry → Bool) : Option (Fin 64) :=
  (List.finRange 64).find? fun i => p (t.fBssList i).toBssEntry

/-- The loop for the lowest RSSI; among equals the first. -/
def weakestIndex (t : BssTable) : Option (Fin 64) :=
  (List.finRange 64).foldl
    (fun
      | none, i => some i
      | some weakest, i => if (t.fBssList i).rssi < (t.fBssList weakest).rssi then some i else some weakest)
    none

/-- The slot for the BSSID, with the table as `_FindOrCreateBssEntry` leaves it. -/
def findOrCreateBssEntry (t : BssTable) (bssid : Mac) : Option (Fin 64 × BssTable) :=
  match t.firstIndex (BssList.hasBssid bssid) with
  | some i => some (i, t)
  | none =>
    match t.firstIndex fun e => ¬ e.valid with
    | some i =>
      some (i, {
        fBssList := Function.update t.fBssList i (.fresh bssid)
        fBssCount := t.fBssCount + 1 })
    | none =>
      match t.weakestIndex with
      | some i => some (i, { t with fBssList := Function.update t.fBssList i (.fresh bssid) })
      | none => none

def note (e : ScanEntry) (b : Beacon) (now : Int) : ScanEntry where
  toBssEntry := BssList.BssEntry.note e.toBssEntry b.ssid b.channel b.rssi now
  beaconInterval := b.beaconInterval
  capability := b.capability
  security := b.security
  ieData := if b.ieData.length = 0 then e.ieData else e.ieData.copyAt 0 (b.ieData.take kMaxIELength)
  ieLength :=
    if b.ieData.length = 0 then e.ieLength
    else UInt32.ofNat (b.ieData.take kMaxIELength).length

def updateBssEntry (t : BssTable) (b : Beacon) (now : Int) : BssTable :=
  match t.findOrCreateBssEntry b.bssid with
  | none => t
  | some (i, t) => { t with fBssList := Function.update t.fBssList i (note (t.fBssList i) b now) }

/-- One turn of the loop in `_PurgeStaleBssEntries`. -/
def purgeAt (now : Int) (t : BssTable) (i : Fin 64) : BssTable :=
  if BssList.isStale now (t.fBssList i).toBssEntry then
    { fBssList := Function.update t.fBssList i (t.fBssList i).invalidate
      fBssCount := t.fBssCount - 1 }
  else t

def purgeStaleBssEntries (t : BssTable) (now : Int) : BssTable :=
  (List.finRange 64).foldl (purgeAt now) t

/-! ## The invariant -/

def validEntries (t : BssTable) : Finset (Fin 64) :=
  Finset.univ.filter fun i => (t.fBssList i).valid = true

@[simp] theorem mem_validEntries {t : BssTable} {i : Fin 64} :
    i ∈ t.validEntries ↔ (t.fBssList i).valid = true := by
  simp [validEntries]

structure Invariant (t : BssTable) : Prop where
  distinct : ∀ i j, (t.fBssList i).valid = true → (t.fBssList j).valid = true →
    (t.fBssList i).bssid = (t.fBssList j).bssid → i = j
  counted : t.fBssCount.toNat = t.validEntries.card
  ssidFits : ∀ i, (t.fBssList i).ssidLength.toNat ≤ kMaxSSIDLength
  ieFits : ∀ i, (t.fBssList i).ieLength.toNat ≤ kMaxIELength

theorem invariant_empty : Invariant empty where
  distinct := fun _ _ h => by cases h
  counted := by
    have hnone : empty.validEntries = ∅ := Finset.filter_eq_empty_iff.mpr fun _ _ h => by cases h
    rw [hnone]
    rfl
  ssidFits := fun _ => Nat.zero_le _
  ieFits := fun _ => Nat.zero_le _

theorem card_validEntries_le (t : BssTable) : t.validEntries.card ≤ kMaxBssEntries :=
  Finset.card_le_univ t.validEntries

/-! ## The slot of a BSSID -/

def IsFull (t : BssTable) : Prop := ∀ j, (t.fBssList j).valid = true

def IsNew (t : BssTable) (bssid : Mac) : Prop :=
  ∀ j, (t.fBssList j).valid = true → (t.fBssList j).bssid ≠ bssid

/-- The slot that `_FindOrCreateBssEntry` comes to, what is in it then, and the count. -/
inductive Slot (t : BssTable) (bssid : Mac) : Fin 64 → ScanEntry → UInt32 → Prop where
  | found (i : Fin 64) (hvalid : (t.fBssList i).valid = true)
      (hbssid : (t.fBssList i).bssid = bssid) : Slot t bssid i (t.fBssList i) t.fBssCount
  | created (i : Fin 64) (hnew : t.IsNew bssid) (hfree : (t.fBssList i).valid = false) :
      Slot t bssid i (.fresh bssid) (t.fBssCount + 1)
  | replaced (i : Fin 64) (hnew : t.IsNew bssid) (hfull : t.IsFull)
      (hweakest : ∀ j, (t.fBssList i).rssi ≤ (t.fBssList j).rssi) :
      Slot t bssid i (.fresh bssid) t.fBssCount

theorem firstIndex_some {t : BssTable} {p : BssEntry → Bool} {i : Fin 64}
    (h : t.firstIndex p = some i) : p (t.fBssList i).toBssEntry = true := by
  have hfound := List.find?_some h
  exact hfound

theorem firstIndex_none {t : BssTable} {p : BssEntry → Bool} (h : t.firstIndex p = none)
    (i : Fin 64) : p (t.fBssList i).toBssEntry = false := by
  have hall := List.find?_eq_none.mp h i (List.mem_finRange i)
  simpa using hall

theorem weakestIndex_spec (t : BssTable) :
    ∃ i, t.weakestIndex = some i ∧ ∀ j, (t.fBssList i).rssi ≤ (t.fBssList j).rssi := by
  have hargmin : t.weakestIndex = (List.finRange 64).argmin fun i => (t.fBssList i).rssi.toInt := by
    rw [weakestIndex, List.argmin]
    congr 1
    funext weakest i
    cases weakest with
    | none => rfl
    | some weakest =>
      simp only [List.argAux, Int8.lt_iff_toInt_lt]
  rw [hargmin]
  cases h : (List.finRange 64).argmin fun i => (t.fBssList i).rssi.toInt with
  | none => exact absurd (List.argmin_eq_none.mp h) (by decide)
  | some i =>
    refine ⟨i, rfl, ?_⟩
    intro j
    exact Int8.le_iff_toInt_le.mpr (List.le_of_mem_argmin
      (f := fun i => (t.fBssList i).rssi.toInt) (List.mem_finRange j) h)

/-- The slot is found or made in every case. -/
theorem findOrCreateBssEntry_slot (t : BssTable) (bssid : Mac) :
    ∃ i e count, Slot t bssid i e count ∧ t.findOrCreateBssEntry bssid =
      some (i, { fBssList := Function.update t.fBssList i e, fBssCount := count }) := by
  unfold findOrCreateBssEntry
  cases hfirst : t.firstIndex (BssList.hasBssid bssid) with
  | some i =>
    obtain ⟨hvalid, hbssid⟩ := of_decide_eq_true (firstIndex_some hfirst)
    refine ⟨i, _, _, .found i hvalid hbssid, ?_⟩
    rw [Function.update_eq_self]
  | none =>
    have hnew : t.IsNew bssid := by
      intro j hj hjb
      exact absurd ⟨hj, hjb⟩ (of_decide_eq_false (firstIndex_none hfirst j))
    cases hfree : t.firstIndex fun e => ¬ e.valid with
    | some i =>
      have hempty : (t.fBssList i).valid = false := by simpa using firstIndex_some hfree
      exact ⟨i, _, _, .created i hnew hempty, rfl⟩
    | none =>
      have hfull : t.IsFull := fun j => by simpa using firstIndex_none hfree j
      obtain ⟨i, hi, hweakest⟩ := t.weakestIndex_spec
      refine ⟨i, _, _, .replaced i hnew hfull hweakest, ?_⟩
      rw [hi]

theorem updateBssEntry_slot (t : BssTable) (b : Beacon) (now : Int) :
    ∃ i e count, Slot t b.bssid i e count ∧ t.updateBssEntry b now =
      { fBssList := Function.update t.fBssList i (note e b now), fBssCount := count } := by
  obtain ⟨i, e, count, hslot, heq⟩ := t.findOrCreateBssEntry_slot b.bssid
  refine ⟨i, e, count, hslot, ?_⟩
  unfold updateBssEntry
  rw [heq]
  simp only [Function.update_self, Function.update_idem]

namespace Slot

variable {t : BssTable} {bssid : Mac} {i : Fin 64} {e : ScanEntry} {count : UInt32}

theorem valid (h : Slot t bssid i e count) : e.valid = true := by
  cases h with
  | found hvalid hbssid => exact hvalid
  | created hnew hfree => rfl
  | replaced hnew hfull hweakest => rfl

theorem bssid_eq (h : Slot t bssid i e count) : e.bssid = bssid := by
  cases h with
  | found hvalid hbssid => exact hbssid
  | created hnew hfree => rfl
  | replaced hnew hfull hweakest => rfl

/-- No other entry has the BSSID. -/
theorem only (h : Slot t bssid i e count) (ht : t.Invariant) {j : Fin 64}
    (hj : (t.fBssList j).valid = true) (hjb : (t.fBssList j).bssid = bssid) : j = i := by
  cases h with
  | found hvalid hbssid => exact ht.distinct j i hj hvalid (hjb.trans hbssid.symm)
  | created hnew hfree => exact absurd hjb (hnew j hj)
  | replaced hnew hfull hweakest => exact absurd hjb (hnew j hj)

theorem counted (h : Slot t bssid i e count) (ht : t.Invariant) :
    count.toNat = (insert i t.validEntries).card := by
  have hle := t.card_validEntries_le
  have hcount := ht.counted
  cases h with
  | found hvalid hbssid =>
    rw [Finset.insert_eq_of_mem (mem_validEntries.mpr hvalid)]
    exact hcount
  | created hnew hfree =>
    have hout : i ∉ t.validEntries := by
      rw [mem_validEntries, hfree]
      exact Bool.false_ne_true
    rw [Finset.card_insert_of_notMem hout, UInt32.toNat_add, hcount]
    exact Nat.mod_eq_of_lt (by simp only [kMaxBssEntries, UInt32.reduceToNat] at *; omega)
  | replaced hnew hfull hweakest =>
    rw [Finset.insert_eq_of_mem (mem_validEntries.mpr (hfull i))]
    exact hcount

theorem fits (h : Slot t bssid i e count) (ht : t.Invariant) :
    e.ssidLength.toNat ≤ kMaxSSIDLength ∧ e.ieLength.toNat ≤ kMaxIELength := by
  cases h with
  | found hvalid hbssid => exact ⟨ht.ssidFits i, ht.ieFits i⟩
  | created hnew hfree => exact ⟨Nat.zero_le _, Nat.zero_le _⟩
  | replaced hnew hfull hweakest => exact ⟨Nat.zero_le _, Nat.zero_le _⟩

end Slot

/-! ## Operations keep the invariant -/

theorem note_ssidFits {e : ScanEntry} (h : e.ssidLength.toNat ≤ kMaxSSIDLength) (b : Beacon)
    (now : Int) : (note e b now).ssidLength.toNat ≤ kMaxSSIDLength := by
  simp only [note, BssList.BssEntry.note]
  split
  · exact h
  · rw [UInt8.toNat_ofNat', List.length_take]
    exact Nat.le_trans (Nat.mod_le _ _) (Nat.min_le_left _ _)

theorem note_ieFits {e : ScanEntry} (h : e.ieLength.toNat ≤ kMaxIELength) (b : Beacon) (now : Int) :
    (note e b now).ieLength.toNat ≤ kMaxIELength := by
  simp only [note]
  split
  · exact h
  · rw [UInt32.toNat_ofNat', List.length_take]
    exact Nat.le_trans (Nat.mod_le _ _) (Nat.min_le_left _ _)

theorem invariant_update {t : BssTable} (h : t.Invariant) (b : Beacon) (now : Int) :
    (t.updateBssEntry b now).Invariant := by
  obtain ⟨i, e, count, hslot, heq⟩ := t.updateBssEntry_slot b now
  have hvalid : (note e b now).valid = true := hslot.valid
  have hbssid : (note e b now).bssid = b.bssid := hslot.bssid_eq
  rw [heq]
  refine ⟨?_, ?_, ?_, ?_⟩
  · intro j k hj hk hsame
    dsimp only at hj hk hsame
    by_cases hji : j = i
    · by_cases hki : k = i
      · exact hji.trans hki.symm
      · subst hji
        rw [Function.update_self, Function.update_of_ne hki] at hsame
        rw [Function.update_of_ne hki] at hk
        exact (hslot.only h hk (hsame.symm.trans hbssid)).symm
    · rw [Function.update_of_ne hji] at hj hsame
      by_cases hki : k = i
      · subst hki
        rw [Function.update_self] at hsame
        exact hslot.only h hj (hsame.trans hbssid)
      · rw [Function.update_of_ne hki] at hk hsame
        exact h.distinct j k hj hk hsame
  · rw [hslot.counted h]
    congr 1
    ext j
    rw [mem_validEntries, Finset.mem_insert, mem_validEntries]
    dsimp only
    by_cases hji : j = i
    · subst hji
      simp only [Function.update_self, hvalid, true_or]
    · simp only [Function.update_of_ne hji, hji, false_or]
  · intro j
    dsimp only
    by_cases hji : j = i
    · subst hji
      rw [Function.update_self]
      exact note_ssidFits (hslot.fits h).1 b now
    · rw [Function.update_of_ne hji]
      exact h.ssidFits j
  · intro j
    dsimp only
    by_cases hji : j = i
    · subst hji
      rw [Function.update_self]
      exact note_ieFits (hslot.fits h).2 b now
    · rw [Function.update_of_ne hji]
      exact h.ieFits j

theorem invariant_purgeAt {t : BssTable} (h : t.Invariant) (now : Int) (i : Fin 64) :
    (purgeAt now t i).Invariant := by
  unfold purgeAt
  split
  · rename_i hstale
    obtain ⟨hvalid, -⟩ := of_decide_eq_true hstale
    have hentry : ∀ j, Function.update t.fBssList i (t.fBssList i).invalidate j =
        if j = i then (t.fBssList i).invalidate else t.fBssList j := fun j =>
      Function.update_apply t.fBssList i _ j
    refine ⟨?_, ?_, ?_, ?_⟩
    · intro j k hj hk hsame
      simp only [hentry] at hj hk hsame
      split at hj
      · cases hj
      split at hk
      · cases hk
      rename_i hji hki
      rw [if_neg hji, if_neg hki] at hsame
      exact h.distinct j k hj hk hsame
    · have hmem : i ∈ t.validEntries := mem_validEntries.mpr hvalid
      have hpos := Finset.card_pos.mpr ⟨i, hmem⟩
      have hset : validEntries {
          fBssList := Function.update t.fBssList i (t.fBssList i).invalidate
          fBssCount := t.fBssCount - 1 } = t.validEntries.erase i := by
        ext j
        rw [mem_validEntries, Finset.mem_erase, mem_validEntries]
        simp only [hentry]
        split
        · rename_i hji
          simp [hji, ScanEntry.invalidate]
        · rename_i hji
          simp [hji]
      have hcount := h.counted
      rw [hset, Finset.card_erase_of_mem hmem, UInt32.toNat_sub_of_le, hcount]
      · rfl
      · rw [UInt32.le_iff_toNat_le, hcount]
        exact hpos
    · intro j
      simp only [hentry]
      split
      · exact h.ssidFits i
      · exact h.ssidFits j
    · intro j
      simp only [hentry]
      split
      · exact h.ieFits i
      · exact h.ieFits j
  · exact h

theorem invariant_purge {t : BssTable} (h : t.Invariant) (now : Int) :
    (t.purgeStaleBssEntries now).Invariant := by
  unfold purgeStaleBssEntries
  generalize List.finRange 64 = slots
  induction slots generalizing t with
  | nil => exact h
  | cons i slots ih => exact ih (invariant_purgeAt h now i)

/-! ## Entries of other BSSIDs -/

structure UpdateEffect (t t' : BssTable) (bssid : Mac) : Prop where
  stored : ∃ i, (t'.fBssList i).valid = true ∧ (t'.fBssList i).bssid = bssid
  kept : ¬ (t.IsFull ∧ t.IsNew bssid) → ∀ j, (t.fBssList j).valid = true →
    (t.fBssList j).bssid ≠ bssid → t'.fBssList j = t.fBssList j
  -- One entry of lowest RSSI gives way, and no other.
  replaced : t.IsFull → t.IsNew bssid → ∃ i, (∀ j, (t.fBssList i).rssi ≤ (t.fBssList j).rssi) ∧
    (t'.fBssList i).valid = true ∧ (t'.fBssList i).bssid = bssid ∧
    ∀ j, j ≠ i → t'.fBssList j = t.fBssList j

theorem updateBssEntry_effect (t : BssTable) (b : Beacon) (now : Int) :
    UpdateEffect t (t.updateBssEntry b now) b.bssid := by
  obtain ⟨i, e, count, hslot, heq⟩ := t.updateBssEntry_slot b now
  have hvalid : (note e b now).valid = true := hslot.valid
  have hbssid : (note e b now).bssid = b.bssid := hslot.bssid_eq
  rw [heq]
  have hself : (Function.update t.fBssList i (note e b now) i).valid = true ∧
      (Function.update t.fBssList i (note e b now) i).bssid = b.bssid := by
    rw [Function.update_self]
    exact ⟨hvalid, hbssid⟩
  have hother : ∀ j, j ≠ i → Function.update t.fBssList i (note e b now) j = t.fBssList j :=
    fun j hj => Function.update_of_ne hj _ _
  refine ⟨⟨i, hself⟩, ?_, ?_⟩
  · intro hroom j hj hjb
    apply hother j
    rintro rfl
    cases hslot with
    | found hfound hb => exact hjb hb
    | created hnew hfree =>
      rw [hfree] at hj
      cases hj
    | replaced hnew hfull hweakest => exact hroom ⟨hfull, hnew⟩
  · intro hfull hnew
    refine ⟨i, ?_, hself.1, hself.2, hother⟩
    cases hslot with
    | found hfound hb => exact absurd hb (hnew i hfound)
    | created hnew hfree =>
      have hi := hfull i
      rw [hfree] at hi
      cases hi
    | replaced hnew hfull hweakest => exact hweakest

/-! ## Any sequence of updates and purges -/

inductive TableOp where
  | update (b : Beacon) (now : Int)
  | purge (now : Int)

def apply (t : BssTable) : TableOp → BssTable
  | .update b now => t.updateBssEntry b now
  | .purge now => t.purgeStaleBssEntries now

def applyAll (t : BssTable) (ops : List TableOp) : BssTable := ops.foldl apply t

theorem invariant_apply {t : BssTable} (h : t.Invariant) (op : TableOp) :
    (apply t op).Invariant := by
  cases op with
  | update b now => exact invariant_update h b now
  | purge now => exact invariant_purge h now

theorem invariant_applyAll {t : BssTable} (h : t.Invariant) (ops : List TableOp) :
    (applyAll t ops).Invariant := by
  induction ops generalizing t with
  | nil => exact h
  | cons op ops ih => exact ih (invariant_apply h op)

theorem bss_table_run (ops : List TableOp) :
    (applyAll empty ops).Invariant ∧ (applyAll empty ops).fBssCount.toNat ≤ kMaxBssEntries ∧
      ∀ b now, UpdateEffect (applyAll empty ops) ((applyAll empty ops).updateBssEntry b now)
        b.bssid := by
  have hinv := invariant_applyAll invariant_empty ops
  refine ⟨hinv, ?_, fun b now => updateBssEntry_effect _ b now⟩
  rw [hinv.counted]
  exact card_validEntries_le _

/-! ## The part that the join reads -/

def toBssList (t : BssTable) (h : t.Invariant) : BssList where
  fBssList := fun i => (t.fBssList i).toBssEntry
  distinct := h.distinct

theorem toBssList_entry {t : BssTable} (h : t.Invariant) (i : Fin 64) :
    (t.toBssList h).fBssList i = (t.fBssList i).toBssEntry := rfl

theorem weakestIndex_toBssList {t : BssTable} (h : t.Invariant) :
    t.weakestIndex = some (t.toBssList h).weakestIndex := by
  unfold weakestIndex BssList.weakestIndex
  rw [List.finRange_succ, List.foldl_cons, List.foldl_cons, ite_self]
  refine List.foldl_hom some fun weakest i => ?_
  exact (apply_ite some _ _ _).symm

theorem findOrCreate_toBssList {t : BssTable} (h : t.Invariant) (bssid : Mac) :
    ∃ e count, e.toBssEntry = ((t.toBssList h).findOrCreateBssEntry bssid).2 ∧
      t.findOrCreateBssEntry bssid = some (((t.toBssList h).findOrCreateBssEntry bssid).1, {
        fBssList := Function.update t.fBssList ((t.toBssList h).findOrCreateBssEntry bssid).1 e
        fBssCount := count }) := by
  have hindex : ∀ p, (t.toBssList h).firstIndex p = t.firstIndex p := fun _ => rfl
  unfold findOrCreateBssEntry BssList.findOrCreateBssEntry
  rw [hindex, hindex]
  cases t.firstIndex (BssList.hasBssid bssid) with
  | some i => exact ⟨t.fBssList i, t.fBssCount, rfl, by rw [Function.update_eq_self]⟩
  | none =>
    cases t.firstIndex fun e => ¬ e.valid with
    | some i => exact ⟨.fresh bssid, _, rfl, rfl⟩
    | none =>
      refine ⟨.fresh bssid, t.fBssCount, rfl, ?_⟩
      rw [weakestIndex_toBssList h]

theorem eq_of_entries {t t' : BssList} (h : ∀ i, t.fBssList i = t'.fBssList i) : t = t' := by
  cases t
  cases t'
  congr
  exact funext h

theorem toBssList_update {t : BssTable} (h : t.Invariant) (b : Beacon) (now : Int) :
    (t.updateBssEntry b now).toBssList (invariant_update h b now) =
      (t.toBssList h).updateBssEntry b.bssid b.ssid b.channel b.rssi now := by
  apply eq_of_entries
  intro j
  obtain ⟨e, count, he, heq⟩ := findOrCreate_toBssList h b.bssid
  have htable : (t.updateBssEntry b now).fBssList = Function.update t.fBssList
      ((t.toBssList h).findOrCreateBssEntry b.bssid).1 (note e b now) := by
    unfold updateBssEntry
    rw [heq]
    simp only [Function.update_self, Function.update_idem]
  rw [toBssList_entry, htable]
  unfold BssList.updateBssEntry
  dsimp only
  generalize (t.toBssList h).findOrCreateBssEntry b.bssid = r at he
  by_cases hj : j = r.1
  · subst hj
    rw [Function.update_self, Function.update_self, note, he]
  · rw [Function.update_of_ne hj, Function.update_of_ne hj, toBssList_entry]

/-- The purge takes the stale entries, and no others. -/
theorem purge_entry (t : BssTable) (now : Int) (j : Fin 64) :
    (t.purgeStaleBssEntries now).fBssList j =
      if BssList.isStale now (t.fBssList j).toBssEntry then (t.fBssList j).invalidate
      else t.fBssList j := by
  have hfold : ∀ (slots : List (Fin 64)) (t : BssTable), slots.Nodup →
      (slots.foldl (purgeAt now) t).fBssList j =
        if j ∈ slots ∧ BssList.isStale now (t.fBssList j).toBssEntry then
          (t.fBssList j).invalidate
        else t.fBssList j := by
    intro slots
    induction slots with
    | nil =>
      intro t _
      rw [if_neg fun hj => List.not_mem_nil hj.1]
      rfl
    | cons i slots ih =>
      intro t hnodup
      obtain ⟨hi, hnodup⟩ := List.nodup_cons.mp hnodup
      rw [List.foldl_cons, ih _ hnodup]
      by_cases hj : j = i
      · subst hj
        rw [if_neg fun h => hi h.1]
        unfold purgeAt
        by_cases hstale : BssList.isStale now (t.fBssList j).toBssEntry = true
        · rw [if_pos hstale, if_pos ⟨List.mem_cons_self, hstale⟩]
          exact Function.update_self _ _ _
        · rw [if_neg hstale, if_neg fun h => hstale h.2]
      · have hsame : (purgeAt now t i).fBssList j = t.fBssList j := by
          unfold purgeAt
          split
          · exact Function.update_of_ne hj _ _
          · rfl
        rw [hsame]
        simp only [List.mem_cons, hj, false_or]
  rw [purgeStaleBssEntries, hfold _ _ (List.nodup_finRange 64)]
  simp only [List.mem_finRange, true_and]

theorem toBssList_purge {t : BssTable} (h : t.Invariant) (now : Int) :
    (t.purgeStaleBssEntries now).toBssList (invariant_purge h now) =
      (t.toBssList h).purgeStaleBssEntries now := by
  apply eq_of_entries
  intro j
  unfold BssList.purgeStaleBssEntries
  rw [toBssList_entry, purge_entry]
  dsimp only
  rw [toBssList_entry]
  split
  · rfl
  · rfl

end BssTable
end Rtl8814au
