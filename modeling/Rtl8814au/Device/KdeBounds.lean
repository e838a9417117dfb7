import Rtl8814au.Lib.Checked
import Rtl8814au.Device.KeyData

/-!
# Device.KdeBounds

The element walk of message 3 byte by byte, with every read and every sum checked.

* `kdeTurn`: one turn of the loop, on the offset and the three variables that hold the GTK.
* `kdeTurn_spec`: a turn reads inside the plaintext and agrees with one step of `kdeWalk`.
* `kde_extraction`: the loop comes to its end on any plaintext, and takes the GTK out of a list of
  elements with one GTK KDE.
-/

namespace Rtl8814au
namespace Device

open Checked (Turn)
open Spec

structure KdeState where
  off : Nat
  gtkKey : Buf 32
  gtkLen : Nat
  gtkKeyId : UInt8

def KdeState.found (s : KdeState) : GtkKde where
  gtkKey := s.gtkKey.bytes.take s.gtkLen
  gtkKeyId := s.gtkKeyId

/-- The condition on id, length, OUI and type; what comes later is read only if the rest holds. -/
def isGtkKdeAt (plaintext : Bytes) (off : Nat) (elementId elementLen : UInt8) : Checked Bool := do
  if elementId = 0xDD ∧ elementLen.toNat ≥ 6 then
    let oui0 ← Checked.byteAt plaintext (off + 2)
    if oui0 = 0x00 then
      let oui1 ← Checked.byteAt plaintext (off + 3)
      if oui1 = 0x0F then
        let oui2 ← Checked.byteAt plaintext (off + 4)
        if oui2 = 0xAC then
          let kdeType ← Checked.byteAt plaintext (off + 5)
          pure (kdeType = 0x01)
        else pure false
      else pure false
    else pure false
  else pure false

/-- The body of that condition. -/
def takeGtk (plaintext : Bytes) (s : KdeState) (elementLen : UInt8) : Checked KdeState := do
  let flags ← Checked.byteAt plaintext (s.off + 6)
  let gtkLen ← Checked.sub elementLen.toNat 6
  let gtkLen := if gtkLen > 32 then 32 else gtkLen
  let key ← Checked.bytesAt plaintext (s.off + 8) gtkLen
  let gtkKey ← Checked.store s.gtkKey.bytes 0 key
  pure { s with gtkKeyId := flags &&& 0x03, gtkLen := gtkLen, gtkKey := Buf.ofBytes 32 gtkKey }

def kdeTurn (plaintext : Bytes) (s : KdeState) : Checked (Turn KdeState) := do
  let head ← Checked.add s.off 2
  if head ≤ plaintext.length then
    let elementId ← Checked.byteAt plaintext s.off
    let elementLen ← Checked.byteAt plaintext (s.off + 1)
    let stop ← Checked.add head elementLen.toNat
    if stop > plaintext.length then
      pure (.exit s)
    else
      let isGtk ← isGtkKdeAt plaintext s.off elementId elementLen
      if isGtk then
        let s ← takeGtk plaintext s elementLen
        pure (.next { s with off := stop })
      else
        pure (.next { s with off := stop })
  else
    pure (.exit s)

/-- The loop, with room for as many turns as there are bytes; `gtkKey` starts out uninitialised. -/
def kdeWalkAt (plaintext : Bytes) (gtkKey : Buf 32) : Checked KdeState :=
  Checked.iterate (kdeTurn plaintext) (plaintext.length + 1)
    { off := 0, gtkKey := gtkKey, gtkLen := 0, gtkKeyId := 0 }

/-! ## One turn -/

section

variable {plaintext : Bytes} {s : KdeState}

theorem slice_four {b : Bytes} {i : Nat} (h : i + 4 ≤ b.length) :
    b.slice i 4 = [b.at i, b.at (i + 1), b.at (i + 2), b.at (i + 3)] := Bytes.slice_eq_map h

/-- A conjunction evaluated from the left. -/
theorem ite_chain (p q r t : Prop) [Decidable p] [Decidable q] [Decidable r] [Decidable t] :
    (if p then if q then if r then pure (decide t) else pure false else pure false else pure false) =
      (.ok (decide (p ∧ q ∧ r ∧ t)) : Checked Bool) := by
  by_cases hp : p
  · by_cases hq : q
    · by_cases hr : r
      · simp [hp, hq, hr]
        rfl
      · simp [hp, hq, hr]
        rfl
    · simp [hp, hq]
      rfl
  · simp [hp]
    rfl

theorem isGtkKdeAt_eq {off : Nat}
    (hin : off + 2 + (plaintext.at (off + 1)).toNat ≤ plaintext.length) :
    isGtkKdeAt plaintext off (plaintext.at off) (plaintext.at (off + 1)) =
      .ok (isGtkKde plaintext off) := by
  unfold isGtkKdeAt isGtkKde
  by_cases hhead : plaintext.at off = 0xDD ∧ (plaintext.at (off + 1)).toNat ≥ 6
  · have h2 := Checked.byteAt_ok (show off + 2 < plaintext.length by omega)
    have h3 := Checked.byteAt_ok (show off + 3 < plaintext.length by omega)
    have h4 := Checked.byteAt_ok (show off + 4 < plaintext.length by omega)
    have h5 := Checked.byteAt_ok (show off + 5 < plaintext.length by omega)
    rw [if_pos hhead, slice_four (by omega)]
    simp only [h2, h3, h4, h5, Checked.ok_bind, ite_chain, hhead, true_and, List.cons.injEq, and_true]
  · have hnot : ¬ (plaintext.at off = 0xDD ∧ (plaintext.at (off + 1)).toNat ≥ 6 ∧
        plaintext.slice (off + 2) 4 = [0x00, 0x0F, 0xAC, 0x01]) := fun h => hhead ⟨h.1, h.2.1⟩
    rw [if_neg hhead, decide_eq_false hnot]
    rfl

theorem takeGtk_eq (hin : s.off + 2 + (plaintext.at (s.off + 1)).toNat ≤ plaintext.length)
    (hlen : 6 ≤ (plaintext.at (s.off + 1)).toNat) :
    ∃ s', takeGtk plaintext s (plaintext.at (s.off + 1)) = .ok s' ∧
      s'.found = readGtkKde plaintext s.off := by
  obtain ⟨n, hn⟩ : ∃ n, n = min ((plaintext.at (s.off + 1)).toNat - 6) 32 := ⟨_, rfl⟩
  have hcut : (if (plaintext.at (s.off + 1)).toNat - 6 > 32 then 32
      else (plaintext.at (s.off + 1)).toNat - 6) = n := by
    split
    · omega
    · omega
  have hkey : (plaintext.slice (s.off + 8) n).length = n := Bytes.length_slice (by omega)
  have hcopy := Buf.slice_copyAt s.gtkKey
    (show 0 + (plaintext.slice (s.off + 8) n).length ≤ 32 by omega)
  rw [hkey] at hcopy
  refine ⟨{ s with
    gtkKeyId := plaintext.at (s.off + 6) &&& 0x03
    gtkLen := n
    gtkKey := s.gtkKey.copyAt 0 (plaintext.slice (s.off + 8) n) }, ?_, ?_⟩
  · simp only [takeGtk]
    rw [Checked.byteAt_ok (by omega), Checked.ok_bind, Checked.sub_ok hlen, Checked.ok_bind, hcut,
      Checked.bytesAt_ok (by omega), Checked.ok_bind, Checked.store_buf _ (by omega),
      Checked.ok_bind, Buf.ofBytes_bytes]
    rfl
  · rw [readGtkKde, ← hn]
    exact congrArg (fun key => GtkKde.mk key (plaintext.at (s.off + 6) &&& 0x03)) hcopy

/-- A turn is one step of `kdeWalk`, or the loop ends where `kdeWalk` does. -/
theorem kdeTurn_spec (hlen : plaintext.length ≤ 256) (hoff : s.off ≤ plaintext.length) :
    (∃ s', kdeTurn plaintext s = .ok (.next s') ∧ s.off < s'.off ∧ s'.off ≤ plaintext.length ∧
      kdeWalk plaintext s'.off s'.found = kdeWalk plaintext s.off s.found) ∨
    ∃ s', kdeTurn plaintext s = .ok (.exit s') ∧ s'.found = kdeWalk plaintext s.off s.found := by
  have hbyte := (plaintext.at (s.off + 1)).toNat_lt
  rw [kdeTurn, Checked.add_ok (by omega), Checked.ok_bind, kdeWalk]
  by_cases hhead : s.off + 2 ≤ plaintext.length
  · rw [if_pos hhead, if_pos hhead, Checked.byteAt_ok (by omega), Checked.ok_bind,
      Checked.byteAt_ok (by omega), Checked.ok_bind, Checked.add_ok (by omega), Checked.ok_bind]
    by_cases hstop : s.off + 2 + (plaintext.at (s.off + 1)).toNat > plaintext.length
    · right
      rw [if_pos hstop]
      exact ⟨s, rfl, (if_pos hstop).symm⟩
    · left
      rw [if_neg hstop, isGtkKdeAt_eq (by omega), Checked.ok_bind]
      by_cases hgtk : isGtkKde plaintext s.off = true
      · have hsix : 6 ≤ (plaintext.at (s.off + 1)).toNat := (of_decide_eq_true hgtk).2.1
        obtain ⟨s', htake, hfound⟩ := takeGtk_eq (by omega) hsix
        rw [if_pos hgtk, htake, Checked.ok_bind]
        refine ⟨_, rfl, ?_, ?_, ?_⟩
        · dsimp only
          omega
        · dsimp only
          omega
        · dsimp only
          rw [if_neg hstop, if_pos hgtk, ← hfound]
          rfl
      · rw [if_neg hgtk]
        refine ⟨_, rfl, ?_, ?_, ?_⟩
        · dsimp only
          omega
        · dsimp only
          omega
        · dsimp only
          rw [if_neg hstop, if_neg hgtk]
          rfl
  · right
    rw [if_neg hhead]
    exact ⟨s, rfl, (if_neg hhead).symm⟩

end

/-! ## The loop -/

theorem kdeWalkAt_eq {plaintext : Bytes} (hlen : plaintext.length ≤ 256) (gtkKey : Buf 32) :
    ∃ s, kdeWalkAt plaintext gtkKey = .ok s ∧
      s.found = kdeWalk plaintext 0 { gtkKey := [], gtkKeyId := 0 } := by
  let Inv (s : KdeState) : Prop := s.off ≤ plaintext.length ∧
    kdeWalk plaintext s.off s.found = kdeWalk plaintext 0 { gtkKey := [], gtkKeyId := 0 }
  have hturn : ∀ s, Inv s →
      (∃ s', kdeTurn plaintext s = .ok (.next s') ∧ Inv s' ∧
        plaintext.length - s'.off < plaintext.length - s.off) ∨
      ∃ s', kdeTurn plaintext s = .ok (.exit s') ∧
        s'.found = kdeWalk plaintext 0 { gtkKey := [], gtkKeyId := 0 } := by
    intro s hs
    rcases kdeTurn_spec hlen hs.1 with ⟨s', hnext, hmore, hin, hwalk⟩ | ⟨s', hexit, hfound⟩
    · exact .inl ⟨s', hnext, ⟨hin, hwalk.trans hs.2⟩, by omega⟩
    · exact .inr ⟨s', hexit, hfound.trans hs.2⟩
  exact Checked.iterate_spec (fun s => plaintext.length - s.off) hturn
    ⟨Nat.zero_le _, rfl⟩ (by simp)

/-- A key of at most 32 bytes is taken whole. -/
theorem gtkOfElement_whole {gtk : Element} (h : gtk.body.length ≤ 38) :
    gtkOfElement gtk = { gtkKey := gtk.body.drop 6, gtkKeyId := gtk.body.at 4 &&& 0x03 } := by
  rw [gtkOfElement, Nat.min_eq_left (by omega), Bytes.slice,
    List.take_of_length_le (by rw [List.length_drop])]

theorem kde_extraction (gtkKey : Buf 32) :
    (∀ plaintext : Bytes, plaintext.length ≤ 256 → ∃ s, kdeWalkAt plaintext gtkKey = .ok s ∧
      s.found = kdeWalk plaintext 0 { gtkKey := [], gtkKeyId := 0 }) ∧
    ∀ (before after : List Element) (gtk : Element) (padding : Bytes), HoldsGtk gtk →
      gtk.body.length ≤ 38 → (∀ e ∈ before ++ after, ¬ HoldsGtk e) → IsPadding padding →
      (encodeElements (before ++ gtk :: after) ++ padding).length ≤ 256 →
      ∃ s, kdeWalkAt (encodeElements (before ++ gtk :: after) ++ padding) gtkKey = .ok s ∧
        s.found = { gtkKey := gtk.body.drop 6, gtkKeyId := gtk.body.at 4 &&& 0x03 } := by
  constructor
  · intro plaintext hlen
    exact kdeWalkAt_eq hlen gtkKey
  · intro before after gtk padding hgtk hkey hothers hpadding hlen
    obtain ⟨s, hrun, hfound⟩ := kdeWalkAt_eq hlen gtkKey
    rw [kdeWalk_oneGtk hgtk hothers hpadding, gtkOfElement_whole hkey] at hfound
    exact ⟨s, hrun, hfound⟩

def rsnElement : Element := ⟨0x30, Bytes.zeros 20, by decide⟩

def gtkElement : Element :=
  ⟨0xDD, [0x00, 0x0F, 0xAC, 0x01, 0x02, 0x00] ++ (List.range 16).map UInt8.ofNat, by decide⟩

theorem kde_extraction_sample :
    ∃ s, kdeWalkAt (encodeElements ([rsnElement] ++ gtkElement :: []) ++ ([0xDD] ++ Bytes.zeros 1))
        (Buf.zero 32) = .ok s ∧
      s.found = { gtkKey := (List.range 16).map UInt8.ofNat, gtkKeyId := 2 } := by
  have hothers : ∀ e ∈ [rsnElement] ++ [], ¬ HoldsGtk e := by
    intro e he hgtk
    rcases List.mem_singleton.mp he with rfl
    cases hgtk.1.1
  exact (kde_extraction (Buf.zero 32)).2 [rsnElement] [] gtkElement ([0xDD] ++ Bytes.zeros 1)
    ⟨⟨rfl, rfl⟩, by decide⟩ (by decide) hothers (.inr ⟨1, rfl⟩) (by decide)

end Device
end Rtl8814au
