import Rtl8814au.WiFi.Manager

/-!
# WiFi.BssList

The scan results of `RTL8814AUWiFiManager`: a table of 64 entries in which no two valid ones have
the same BSSID.

* `updateBssEntry`, `purgeStaleBssEntries` — what changes the table; both keep the BSSIDs distinct.
* `findBssBySsid` — the first entry with the SSID.
-/

namespace Rtl8814au

def kMaxBssEntries : Nat := 64

def kMaxSSIDLength : Nat := 32

def kBssPurgeInterval : Int := 30000000

/-- `BssEntry` up to what only the reports to userland read. -/
structure BssEntry where
  bssid : Mac
  ssid : Buf 33
  ssidLength : UInt8
  channel : UInt8
  rssi : Int8
  lastSeen : Int
  valid : Bool
deriving DecidableEq

/-- After `memset`. -/
def BssEntry.zero : BssEntry where
  bssid := Buf.zero 6
  ssid := Buf.zero 33
  ssidLength := 0
  channel := 0
  rssi := 0
  lastSeen := 0
  valid := false

structure BssList where
  fBssList : Fin 64 → BssEntry -- Of `kMaxBssEntries`.
  distinct : ∀ i j, (fBssList i).valid = true → (fBssList j).valid = true →
    (fBssList i).bssid = (fBssList j).bssid → i = j

namespace BssList

def empty : BssList where
  fBssList := fun _ => .zero
  distinct := fun _ _ h => by cases h

/-- The first index with the property. -/
def firstIndex (t : BssList) (p : BssEntry → Bool) : Option (Fin 64) :=
  (List.finRange 64).find? fun i => p (t.fBssList i)

theorem firstIndex_some {t : BssList} {p : BssEntry → Bool} {i : Fin 64}
    (h : t.firstIndex p = some i) : p (t.fBssList i) = true := by
  have hfound := List.find?_some h
  exact hfound

theorem firstIndex_none {t : BssList} {p : BssEntry → Bool} (h : t.firstIndex p = none)
    (i : Fin 64) : p (t.fBssList i) = false := by
  have hall := List.find?_eq_none.mp h i (List.mem_finRange i)
  simpa using hall

/-! ## Beacons -/

def hasBssid (bssid : Mac) (e : BssEntry) : Bool := e.valid ∧ e.bssid = bssid

/-- The lowest RSSI; among equals the first. -/
def weakestIndex (t : BssList) : Fin 64 :=
  (List.finRange 64).foldl
    (fun weakest i => if (t.fBssList i).rssi < (t.fBssList weakest).rssi then i else weakest) 0

/-- The slot for the BSSID and what is in it when `_FindOrCreateBssEntry` returns. -/
def findOrCreateBssEntry (t : BssList) (bssid : Mac) : Fin 64 × BssEntry :=
  match t.firstIndex (hasBssid bssid) with
  | some i => (i, t.fBssList i)
  | none =>
    let slot :=
      match t.firstIndex fun e => ¬ e.valid with
      | some i => i
      | none => t.weakestIndex
    (slot, { BssEntry.zero with valid := true, bssid := bssid })

/-- The slot has the BSSID, and no other valid entry has. -/
theorem findOrCreateBssEntry_spec (t : BssList) (bssid : Mac) :
    (t.findOrCreateBssEntry bssid).2.valid = true ∧
      (t.findOrCreateBssEntry bssid).2.bssid = bssid ∧
      ∀ j, (t.fBssList j).valid = true → (t.fBssList j).bssid = bssid →
        j = (t.findOrCreateBssEntry bssid).1 := by
  unfold findOrCreateBssEntry
  cases hfirst : t.firstIndex (hasBssid bssid) with
  | some i =>
    obtain ⟨hvalid, hbssid⟩ := of_decide_eq_true (firstIndex_some hfirst)
    exact ⟨hvalid, hbssid, fun j hj hjb => t.distinct j i hj hvalid (hjb.trans hbssid.symm)⟩
  | none =>
    refine ⟨rfl, rfl, ?_⟩
    intro j hj hjb
    exact absurd ⟨hj, hjb⟩ (of_decide_eq_false (firstIndex_none hfirst j))

/-- The fields a beacon brings. An SSID of length 0 leaves the one of the entry. -/
def BssEntry.note (e : BssEntry) (ssid : Bytes) (channel : UInt8) (rssi : Int8) (now : Int) :
    BssEntry :=
  let copy := ssid.take kMaxSSIDLength
  { e with
    ssid := if ssid.length = 0 then e.ssid else e.ssid.copyAt 0 (copy ++ [0])
    ssidLength := if ssid.length = 0 then e.ssidLength else UInt8.ofNat copy.length
    channel := channel
    rssi := rssi
    lastSeen := now }

def updateBssEntry (t : BssList) (bssid : Mac) (ssid : Bytes) (channel : UInt8) (rssi : Int8)
    (now : Int) : BssList where
  fBssList := Function.update t.fBssList (t.findOrCreateBssEntry bssid).1
    (BssEntry.note (t.findOrCreateBssEntry bssid).2 ssid channel rssi now)
  distinct := by
    obtain ⟨-, hbssid, honly⟩ := t.findOrCreateBssEntry_spec bssid
    generalize t.findOrCreateBssEntry bssid = r at hbssid honly
    intro i j hi hj hsame
    by_cases hir : i = r.1
    · by_cases hjr : j = r.1
      · exact hir.trans hjr.symm
      · subst hir
        rw [Function.update_of_ne hjr] at hj hsame
        rw [Function.update_self] at hsame
        exact (honly j hj (hsame.symm.trans hbssid)).symm
    · rw [Function.update_of_ne hir] at hi hsame
      by_cases hjr : j = r.1
      · subst hjr
        rw [Function.update_self] at hsame
        exact honly i hi (hsame.trans hbssid)
      · rw [Function.update_of_ne hjr] at hj hsame
        exact t.distinct i j hi hj hsame

/-! ## The purge before a scan -/

def isStale (now : Int) (e : BssEntry) : Bool := e.valid ∧ now - e.lastSeen > kBssPurgeInterval

def purgeStaleBssEntries (t : BssList) (now : Int) : BssList where
  fBssList := fun i =>
    if isStale now (t.fBssList i) then { t.fBssList i with valid := false } else t.fBssList i
  distinct := by
    intro i j hi hj hsame
    split at hi
    · cases hi
    split at hj
    · cases hj
    rename_i hfresh hfresh'
    rw [if_neg hfresh, if_neg hfresh'] at hsame
    exact t.distinct i j hi hj hsame

/-! ## Lookup -/

def hasSsid (ssid : Bytes) (ssidLen : Nat) (e : BssEntry) : Bool :=
  e.valid ∧ e.ssidLength.toNat = ssidLen ∧ e.ssid.bytes.take ssidLen = ssid.take ssidLen

def findBssBySsid (t : BssList) (ssid : Bytes) (ssidLen : Nat) : Option BssEntry :=
  if ssidLen = 0 then none else (t.firstIndex (hasSsid ssid ssidLen)).map t.fBssList

theorem findBssBySsid_some {t : BssList} {ssid : Bytes} {ssidLen : Nat} {e : BssEntry}
    (h : t.findBssBySsid ssid ssidLen = some e) : ∃ i, t.fBssList i = e ∧ e.valid = true := by
  unfold findBssBySsid at h
  split at h
  · cases h
  · obtain ⟨i, hi, rfl⟩ := Option.map_eq_some_iff.mp h
    exact ⟨i, rfl, (of_decide_eq_true (firstIndex_some hi)).1⟩

/-- The entry the table has for a BSSID is the only one. -/
theorem eq_of_bssid {t : BssList} {e e' : BssEntry} {i j : Fin 64} (hi : t.fBssList i = e)
    (hj : t.fBssList j = e') (he : e.valid = true) (he' : e'.valid = true)
    (h : e.bssid = e'.bssid) : e = e' := by
  subst hi hj
  rw [t.distinct i j he he' h]

end BssList
end Rtl8814au
