import Rtl8814au.Device.Eapol
import Rtl8814au.Spec.Authenticator

/-!
# Device.KeyData

The element walk of message 3 over encoded key data.

* `kdeWalk_element`: one turn of the loop over one element.
* `kdeWalk_others`: a list of elements that are not GTK KDEs leaves what was found.
* `kdeWalk_oneGtk`: key and key id come out of any list of elements with one GTK KDE in it, padded
  or not.
* `kdeWalk_gtkElements`: so they do for the key data an authenticator encodes.
-/

namespace Rtl8814au
namespace Device

open Crypto Spec

theorem length_encode_element (e : Element) : e.encode.length = 2 + e.body.length := by
  simp only [Element.encode, List.length_append, List.length_cons, List.length_nil]

/-! ## One element -/

section Element

variable (start : Bytes) (e : Element) (rest : Bytes)

theorem element_id : (start ++ (e.encode ++ rest)).at start.length = e.id := by
  rw [Bytes.at_append_right (Nat.le_refl _), Nat.sub_self]
  rfl

theorem element_length : ((start ++ (e.encode ++ rest)).at (start.length + 1)).toNat = e.body.length := by
  have hshort := e.short
  rw [Bytes.at_append_right (by omega), Nat.add_sub_cancel_left]
  show (UInt8.ofNat e.body.length).toNat = _
  rw [UInt8.toNat_ofNat']
  omega

theorem element_slice (off n : Nat) (h : off + n ≤ e.body.length) :
    (start ++ (e.encode ++ rest)).slice (start.length + 2 + off) n = e.body.slice off n := by
  rw [Bytes.slice_append_right (by omega), Element.encode, List.append_assoc,
    show start.length + 2 + off - start.length = 2 + off by omega,
    Bytes.slice_append_right (by simp), List.length_cons, List.length_cons, List.length_nil,
    show 2 + off - (0 + 1 + 1) = off by omega, Bytes.slice_append_left h]

theorem kdeWalk_element (found : GtkKde) :
    kdeWalk (start ++ (e.encode ++ rest)) start.length found =
      kdeWalk (start ++ (e.encode ++ rest)) (start ++ e.encode).length
        (if isGtkKde (start ++ (e.encode ++ rest)) start.length then
          readGtkKde (start ++ (e.encode ++ rest)) start.length else found) := by
  have hlen : (start ++ (e.encode ++ rest)).length = start.length + (2 + e.body.length) + rest.length := by
    rw [List.length_append, List.length_append, length_encode_element]
    omega
  have hoff : (start ++ e.encode).length = start.length + 2 + e.body.length := by
    rw [List.length_append, length_encode_element]
    omega
  rw [kdeWalk, if_pos (by omega), element_length, if_neg (by omega), hoff]

/-- Key id and reserved byte behind the data type, so that the length says how long the key is. -/
def HoldsGtk (e : Element) : Prop := e.IsGtkKde ∧ 6 ≤ e.body.length

/-- What the code takes from such an element. -/
def gtkOfElement (e : Element) : GtkKde where
  gtkKey := e.body.slice 6 (min (e.body.length - 6) 32)
  gtkKeyId := e.body.at 4 &&& 0x03

theorem isGtkKde_element : isGtkKde (start ++ (e.encode ++ rest)) start.length = true ↔ HoldsGtk e := by
  unfold isGtkKde HoldsGtk Element.IsGtkKde
  rw [element_id, element_length, decide_eq_true_iff]
  have hslice : 4 ≤ e.body.length →
      (start ++ (e.encode ++ rest)).slice (start.length + 2) 4 = e.body.take 4 := by
    intro h
    have hslice := element_slice start e rest 0 4 (by omega)
    rwa [Nat.add_zero] at hslice
  constructor
  · rintro ⟨hid, hlen, htype⟩
    rw [hslice (by omega)] at htype
    exact ⟨⟨hid, htype⟩, hlen⟩
  · rintro ⟨⟨hid, htype⟩, hlen⟩
    rw [hslice (by omega)]
    exact ⟨hid, hlen, htype⟩

theorem readGtkKde_element (h : 6 ≤ e.body.length) :
    readGtkKde (start ++ (e.encode ++ rest)) start.length = gtkOfElement e := by
  have hkey := element_slice start e rest 6 (min (e.body.length - 6) 32) (by omega)
  have hflags := element_slice start e rest 4 1 (by omega)
  have hid : (start ++ (e.encode ++ rest)).at (start.length + 6) = e.body.at 4 := by
    have hfirst := congrArg (fun b : Bytes => b.at 0) hflags
    rwa [Bytes.at_slice (by decide), Bytes.at_slice (by decide)] at hfirst
  unfold readGtkKde gtkOfElement
  rw [element_length, hid, ← hkey]

theorem kdeWalk_other (h : ¬ HoldsGtk e) (found : GtkKde) :
    kdeWalk (start ++ (e.encode ++ rest)) start.length found =
      kdeWalk (start ++ (e.encode ++ rest)) (start ++ e.encode).length found := by
  rw [kdeWalk_element, if_neg fun hgtk => h ((isGtkKde_element start e rest).mp hgtk)]

theorem kdeWalk_gtk (h : HoldsGtk e) (found : GtkKde) :
    kdeWalk (start ++ (e.encode ++ rest)) start.length found =
      kdeWalk (start ++ (e.encode ++ rest)) (start ++ e.encode).length (gtkOfElement e) := by
  rw [kdeWalk_element, if_pos ((isGtkKde_element start e rest).mpr h),
    readGtkKde_element start e rest h.2]

end Element

/-! ## All of them -/

theorem encodeElements_cons (e : Element) (es : List Element) :
    encodeElements (e :: es) = e.encode ++ encodeElements es := rfl

theorem encodeElements_append (es fs : List Element) :
    encodeElements (es ++ fs) = encodeElements es ++ encodeElements fs := by
  simp only [encodeElements, List.map_append, List.flatten_append]

theorem kdeWalk_others {es : List Element} (h : ∀ e ∈ es, ¬ HoldsGtk e) (start rest : Bytes)
    (found : GtkKde) :
    kdeWalk (start ++ (encodeElements es ++ rest)) start.length found =
      kdeWalk (start ++ (encodeElements es ++ rest)) (start ++ encodeElements es).length found := by
  induction es generalizing start with
  | nil => simp [encodeElements]
  | cons e es ih =>
    have hrest := ih (fun x hx => h x (List.mem_cons_of_mem e hx)) (start ++ e.encode)
    rw [encodeElements_cons, List.append_assoc, kdeWalk_other _ _ _ (h e List.mem_cons_self)]
    simp only [List.append_assoc] at hrest ⊢
    exact hrest

theorem kdeWalk_end (start : Bytes) {rest : Bytes} (h : rest.length ≤ 1) (found : GtkKde) :
    kdeWalk (start ++ rest) start.length found = found := by
  rw [kdeWalk, if_neg (by rw [List.length_append]; omega)]

/-- Zeros are a list of empty elements. -/
theorem exists_zeros (k : Nat) : ∃ es rest, Bytes.zeros k = encodeElements es ++ rest ∧
    (∀ e ∈ es, ¬ HoldsGtk e) ∧ rest.length ≤ 1 := by
  induction k using Nat.strongRecOn with
  | ind k ih =>
    match k with
    | 0 => exact ⟨[], [], rfl, by simp, by simp⟩
    | 1 => exact ⟨[], [0], rfl, by simp, by simp⟩
    | k + 2 =>
      obtain ⟨es, rest, hk, hes, hrest⟩ := ih k (by omega)
      refine ⟨⟨0, [], by simp⟩ :: es, rest, ?_, ?_, hrest⟩
      · rw [encodeElements_cons, List.append_assoc, ← hk]
        rfl
      · intro e he
        rcases List.mem_cons.mp he with rfl | he
        · rintro ⟨⟨hid, -⟩, -⟩
          cases hid
        · exact hes e he

/-- Nothing, or a byte DD and any number of zeros. -/
def IsPadding (padding : Bytes) : Prop := padding = [] ∨ ∃ k, padding = [0xDD] ++ Bytes.zeros k

/-- The byte DD is an empty element as well, unless it is the last byte. -/
theorem exists_padding {padding : Bytes} (h : IsPadding padding) :
    ∃ es rest, padding = encodeElements es ++ rest ∧ (∀ e ∈ es, ¬ HoldsGtk e) ∧
      rest.length ≤ 1 := by
  rcases h with rfl | ⟨k, rfl⟩
  · exact ⟨[], [], rfl, by simp, by simp⟩
  · cases k with
    | zero => exact ⟨[], [0xDD], rfl, by simp, by simp⟩
    | succ k =>
      obtain ⟨es, rest, hzeros, hes, hrest⟩ := exists_zeros k
      refine ⟨⟨0xDD, [], by simp⟩ :: es, rest, ?_, ?_, hrest⟩
      · rw [encodeElements_cons, List.append_assoc, ← hzeros]
        rfl
      · intro e he
        rcases List.mem_cons.mp he with rfl | he
        · rintro ⟨-, hlen⟩
          cases hlen
        · exact hes e he

/-- One GTK KDE, anywhere in a padded list of elements. -/
theorem kdeWalk_oneGtk {before after : List Element} {gtk : Element} (hgtk : HoldsGtk gtk)
    (hothers : ∀ e ∈ before ++ after, ¬ HoldsGtk e) {padding : Bytes} (hpadding : IsPadding padding)
    (found : GtkKde) :
    kdeWalk (encodeElements (before ++ gtk :: after) ++ padding) 0 found = gtkOfElement gtk := by
  obtain ⟨pads, rest, hpad, hpads, hrest⟩ := exists_padding hpadding
  have hbefore : ∀ e ∈ before, ¬ HoldsGtk e := fun e he => hothers e (List.mem_append_left _ he)
  have hafter : ∀ e ∈ after ++ pads, ¬ HoldsGtk e := by
    intro e he
    rcases List.mem_append.mp he with he | he
    · exact hothers e (List.mem_append_right _ he)
    · exact hpads e he
  have hsplit : encodeElements (before ++ gtk :: after) ++ padding =
      encodeElements before ++ (gtk.encode ++ (encodeElements (after ++ pads) ++ rest)) := by
    rw [hpad, encodeElements_append, encodeElements_cons, encodeElements_append]
    simp only [List.append_assoc]
  have h1 := kdeWalk_others hbefore [] (gtk.encode ++ (encodeElements (after ++ pads) ++ rest)) found
  have h2 := kdeWalk_gtk (encodeElements before) gtk (encodeElements (after ++ pads) ++ rest) hgtk
    found
  have h3 := kdeWalk_others hafter (encodeElements before ++ gtk.encode) rest (gtkOfElement gtk)
  have h4 := kdeWalk_end (encodeElements before ++ (gtk.encode ++ encodeElements (after ++ pads)))
    hrest (gtkOfElement gtk)
  simp only [List.append_assoc, List.nil_append, List.length_nil] at h1 h2 h3 h4
  rw [hsplit, h1, h2, h3, h4]

/-! ## The key data of an authenticator -/

/-- Elements with one GTK KDE among them. -/
def gtkElements (gtk : Block) (keyId : Fin 4) (tx : Bool) (before after : List Element) :
    List Element := before ++ gtkKde gtk keyId tx :: after

theorem elements_eq (a : Authenticator) (c : M3Choice) :
    a.elements c = gtkElements a.gtk a.gtkKeyId c.tx c.before c.after := rfl

theorem length_gtkElements (gtk : Block) (keyId : Fin 4) (tx : Bool) (before after : List Element) :
    24 ≤ (encodeElements (gtkElements gtk keyId tx before after)).length := by
  have hgtk : (gtkKde gtk keyId tx).encode.length = 24 := by
    rw [length_encode_element]
    simp [gtkKde, gtkKdeType]
  rw [gtkElements, encodeElements_append, encodeElements_cons, List.length_append,
    List.length_append]
  omega

theorem keyId_masked (keyId : Fin 4) (tx : Bool) :
    (UInt8.ofNat keyId.val ||| (if tx then 0x04 else 0)) &&& 0x03 = UInt8.ofNat keyId.val := by
  revert keyId tx
  decide

theorem gtkOfElement_gtkKde (gtk : Block) (keyId : Fin 4) (tx : Bool) :
    gtkOfElement (gtkKde gtk keyId tx) =
      { gtkKey := gtk.bytes, gtkKeyId := UInt8.ofNat keyId.val } := by
  have hbody : (gtkKde gtk keyId tx).body.length = 22 := by simp [gtkKde, gtkKdeType]
  have hkey : (gtkKde gtk keyId tx).body.slice 6 16 = gtk.bytes :=
    List.take_of_length_le (by simp [hbody])
  have hid : (gtkKde gtk keyId tx).body.at 4 &&& 0x03 = UInt8.ofNat keyId.val :=
    keyId_masked keyId tx
  rw [gtkOfElement, hbody, show min (22 - 6) 32 = 16 from rfl, hkey, hid]

theorem padKeyData_eq (b : Bytes) : ∃ padding, padKeyData b = b ++ padding ∧ IsPadding padding := by
  unfold padKeyData
  split
  · exact ⟨[], (List.append_nil b).symm, .inl rfl⟩
  · exact ⟨_, rfl, .inr ⟨_, rfl⟩⟩

theorem kdeWalk_gtkElements (gtk : Block) (keyId : Fin 4) (tx : Bool) {before after : List Element}
    (hothers : ∀ e ∈ before ++ after, ¬ e.IsGtkKde) :
    kdeWalk (padKeyData (encodeElements (gtkElements gtk keyId tx before after))) 0
        { gtkKey := [], gtkKeyId := 0 } =
      { gtkKey := gtk.bytes, gtkKeyId := UInt8.ofNat keyId.val } := by
  have hgtk : HoldsGtk (gtkKde gtk keyId tx) := ⟨⟨rfl, rfl⟩, by simp [gtkKde, gtkKdeType]⟩
  obtain ⟨padding, hpad, hpadding⟩ :=
    padKeyData_eq (encodeElements (gtkElements gtk keyId tx before after))
  rw [hpad, gtkElements, kdeWalk_oneGtk hgtk (fun e he h => hothers e he h.1) hpadding,
    gtkOfElement_gtkKde]

end Device
end Rtl8814au
