import Rtl8814au.RegisterIO.Access

/-!
# Firmware.Image

The firmware file and its header: `_ReadFile`, `_ValidateHeader` and the ranges that `Load` hands to
the section transfers.

* `Image`        — what `_ReadFile` leaves: data and a 32-bit size no larger than it.
* `validateHeader` — the header fields in 32-bit arithmetic.
* `InBounds`     — both ranges behind the header, inside the file and apart, with no sum wrapped.
* `Room`         — the condition: the file has room for the trailers that the check leaves out.
-/

namespace Rtl8814au
namespace Firmware

def kRTL8814AU_ChipID : Nat := 0x8814
def kMaxFirmwareSize : Nat := 0x18000
def kFwHeaderSize : UInt32 := 64
def kSectionTrailerSize : UInt32 := 8

/-- `fData` and `fDataSize`. -/
structure Image where
  fData : Bytes
  fDataSize : UInt32
  inRange : fDataSize.toNat ≤ fData.length

/-- What the operating system does in `_ReadFile`. -/
structure FileEnv where
  opens : Bool
  fileSize : Int
  allocates : Bool
  bytesRead : Option Bytes -- `none` where `read` fails

theorem toNat_ofNat_le (n : Nat) : (UInt32.ofNat n).toNat ≤ n := by
  rw [UInt32.toNat_ofNat']
  exact Nat.mod_le _ _

/-- `_ReadFile`: `fData` afterwards and the status. The size is cut to 32 bits for the comparison. -/
def readFile (fData : Option Image) (file : FileEnv) : Option Image × StatusCode :=
  if ¬ file.opens then (fData, .entryNotFound)
  else if h : file.fileSize ≤ 0 ∨ (UInt32.ofNat file.fileSize.toNat).toNat > kMaxFirmwareSize then
    (fData, .badData)
  else if ¬ file.allocates then (none, .noMemory)
  else
    match file.bytesRead with
    | none => (none, .ioError)
    | some data =>
      if hread : (data.length : Int) ≠ file.fileSize then (none, .ioError)
      else
        (some
          { fData := data
            fDataSize := UInt32.ofNat file.fileSize.toNat
            inRange := by
              have hsize : file.fileSize.toNat = data.length := by omega
              rw [← hsize]
              exact toNat_ofNat_le _ }, .ok)

/-- The fields of the firmware object that the header determines. -/
structure Sections where
  fVersion : UInt16
  fDmemOffset : UInt32
  fDmemSize : UInt32
  fIramOffset : UInt32
  fIramSize : UInt32
deriving DecidableEq

namespace Image

variable (image : Image)

def signature : UInt16 := UInt16.ofNat (Bytes.leNat (image.fData.slice 0 2))
def version : UInt16 := UInt16.ofNat (Bytes.leNat (image.fData.slice 4 2))
def totalDmemSize : UInt32 := UInt32.ofNat (Bytes.leNat (image.fData.slice 36 4))
def iramSize : UInt32 := UInt32.ofNat (Bytes.leNat (image.fData.slice 48 4))

end Image

/-- `_ValidateHeader`; the version is stored before the sizes are checked. -/
def validateHeader (image : Image) (s : Sections) : Sections × StatusCode :=
  if image.fDataSize < kFwHeaderSize then (s, .badData)
  else if image.signature.toNat ≠ kRTL8814AU_ChipID then (s, .badData)
  else
    let s := { s with fVersion := image.version }
    let dmemSize := image.totalDmemSize
    let iramSize := image.iramSize
    if dmemSize = 0 ∧ iramSize = 0 then (s, .badData)
    else if kFwHeaderSize + dmemSize + iramSize > image.fDataSize then (s, .badData)
    else
      ({ s with
          fDmemOffset := kFwHeaderSize
          fDmemSize := dmemSize + kSectionTrailerSize
          fIramSize := iramSize + kSectionTrailerSize
          fIramOffset := image.fDataSize - (iramSize + kSectionTrailerSize) }, .ok)

/-! ## The bounds -/

/-- The ranges `[fDmemOffset, + fDmemSize)` and `[fIramOffset, + fIramSize)`. -/
structure InBounds (image : Image) (s : Sections) : Prop where
  dmemAfter : kFwHeaderSize.toNat ≤ s.fDmemOffset.toNat
  iramAfter : kFwHeaderSize.toNat ≤ s.fIramOffset.toNat
  dmemInside : s.fDmemOffset.toNat + s.fDmemSize.toNat ≤ image.fDataSize.toNat
  iramInside : s.fIramOffset.toNat + s.fIramSize.toNat ≤ image.fDataSize.toNat
  apart : s.fDmemOffset.toNat + s.fDmemSize.toNat ≤ s.fIramOffset.toNat ∨
    s.fIramOffset.toNat + s.fIramSize.toNat ≤ s.fDmemOffset.toNat

/-- The sums of the check and of the two sizes, and the difference that gives the offset. -/
structure NoWrap (image : Image) : Prop where
  check : kFwHeaderSize.toNat + image.totalDmemSize.toNat + image.iramSize.toNat < 2 ^ 32
  dmemSize : image.totalDmemSize.toNat + kSectionTrailerSize.toNat < 2 ^ 32
  iramSize : image.iramSize.toNat + kSectionTrailerSize.toNat < 2 ^ 32
  iramOffset : image.iramSize.toNat + kSectionTrailerSize.toNat ≤ image.fDataSize.toNat

/-- What acceptance is for. -/
def Safe (image : Image) (s : Sections) : Prop :=
  (validateHeader image s).2 = .ok → InBounds image (validateHeader image s).1 ∧ NoWrap image

/-- Refused for its size, its signature, for having no sections or by the wrapped sum; or with room
for the header, both sections and both trailers. -/
def Room (image : Image) : Prop :=
  image.fDataSize.toNat < 64 ∨ image.signature.toNat ≠ kRTL8814AU_ChipID ∨
    (image.totalDmemSize.toNat = 0 ∧ image.iramSize.toNat = 0) ∨
    image.fDataSize.toNat < (64 + image.totalDmemSize.toNat + image.iramSize.toNat) % 2 ^ 32 ∨
    64 + (image.totalDmemSize.toNat + 8) + (image.iramSize.toNat + 8) ≤ image.fDataSize.toNat

/-- What an accepted header gives. -/
def sectionsOf (image : Image) : Sections where
  fVersion := image.version
  fDmemOffset := kFwHeaderSize
  fDmemSize := image.totalDmemSize + kSectionTrailerSize
  fIramOffset := image.fDataSize - (image.iramSize + kSectionTrailerSize)
  fIramSize := image.iramSize + kSectionTrailerSize

/-- The four checks, on the values of the fields. -/
def Accepted (image : Image) : Prop :=
  64 ≤ image.fDataSize.toNat ∧ image.signature.toNat = kRTL8814AU_ChipID ∧
    ¬ (image.totalDmemSize.toNat = 0 ∧ image.iramSize.toNat = 0) ∧
    (64 + image.totalDmemSize.toNat + image.iramSize.toNat) % 2 ^ 32 ≤ image.fDataSize.toNat

theorem toNat_sum (image : Image) : (kFwHeaderSize + image.totalDmemSize + image.iramSize).toNat =
    (64 + image.totalDmemSize.toNat + image.iramSize.toNat) % 2 ^ 32 := by
  rw [UInt32.toNat_add, UInt32.toNat_add, Nat.mod_add_mod]
  rfl

theorem validateHeader_cases (image : Image) (s : Sections) :
    (Accepted image ∧ validateHeader image s = (sectionsOf image, .ok)) ∨
      (¬ Accepted image ∧ (validateHeader image s).2 = .badData) := by
  have hd := UInt32.toNat_inj (a := image.totalDmemSize) (b := 0)
  have hi := UInt32.toNat_inj (a := image.iramSize) (b := 0)
  rw [UInt32.toNat_zero] at hd hi
  unfold Accepted validateHeader
  rw [hd, hi, ← toNat_sum]
  split
  · rename_i hsize
    have hlt := UInt32.lt_iff_toNat_lt.mp hsize
    exact .inr ⟨fun h => absurd h.1 (Nat.not_le.mpr hlt), rfl⟩
  · rename_i hsize
    have hle : 64 ≤ image.fDataSize.toNat :=
      Nat.not_lt.mp fun h => hsize (UInt32.lt_iff_toNat_lt.mpr h)
    split
    · rename_i hsig
      exact .inr ⟨fun h => absurd h.2.1 hsig, rfl⟩
    · rename_i hsig
      simp only []
      split
      · rename_i hnone
        exact .inr ⟨fun h => absurd hnone h.2.2.1, rfl⟩
      · rename_i hsome
        split
        · rename_i hsum
          have hlt := UInt32.lt_iff_toNat_lt.mp hsum
          exact .inr ⟨fun h => absurd h.2.2.2 (Nat.not_le.mpr hlt), rfl⟩
        · rename_i hsum
          have hfit := Nat.not_lt.mp fun h => hsum (UInt32.lt_iff_toNat_lt.mpr h)
          exact .inl ⟨⟨hle, not_not.mp hsig, hsome, hfit⟩, rfl⟩

/-- With room, the 32-bit values are those of the natural numbers. -/
theorem sectionsOf_toNat {image : Image}
    (h : 64 + (image.totalDmemSize.toNat + 8) + (image.iramSize.toNat + 8) ≤ image.fDataSize.toNat) :
    (sectionsOf image).fDmemSize.toNat = image.totalDmemSize.toNat + 8 ∧
      (sectionsOf image).fIramSize.toNat = image.iramSize.toNat + 8 ∧
      (sectionsOf image).fIramOffset.toNat =
        image.fDataSize.toNat - (image.iramSize.toNat + 8) := by
  have hlt := image.fDataSize.toNat_lt
  have hd : (image.totalDmemSize + kSectionTrailerSize).toNat = image.totalDmemSize.toNat + 8 := by
    rw [UInt32.toNat_add]
    exact Nat.mod_eq_of_lt (by simp only [kSectionTrailerSize, UInt32.reduceToNat]; omega)
  have hi : (image.iramSize + kSectionTrailerSize).toNat = image.iramSize.toNat + 8 := by
    rw [UInt32.toNat_add]
    exact Nat.mod_eq_of_lt (by simp only [kSectionTrailerSize, UInt32.reduceToNat]; omega)
  refine ⟨hd, hi, ?_⟩
  show (image.fDataSize - (image.iramSize + kSectionTrailerSize)).toNat = _
  have hle : image.iramSize + kSectionTrailerSize ≤ image.fDataSize := by
    rw [UInt32.le_iff_toNat_le, hi]
    omega
  rw [UInt32.toNat_sub_of_le _ _ hle, hi]

theorem inBounds_of_room {image : Image}
    (h : 64 + (image.totalDmemSize.toNat + 8) + (image.iramSize.toNat + 8) ≤ image.fDataSize.toNat) :
    InBounds image (sectionsOf image) ∧ NoWrap image := by
  obtain ⟨hd, hi, ho⟩ := sectionsOf_toNat h
  have hlt := image.fDataSize.toNat_lt
  have hdo : (sectionsOf image).fDmemOffset.toNat = 64 := rfl
  have hheader : kFwHeaderSize.toNat = 64 := rfl
  have htrailer : kSectionTrailerSize.toNat = 8 := rfl
  constructor
  · constructor
    · rw [hdo, hheader]
    · omega
    · omega
    · omega
    · exact .inl (by omega)
  · constructor <;> omega

/-- Ranges that are apart and behind the header leave room for both. -/
theorem room_of_inBounds {image : Image} (h : InBounds image (sectionsOf image))
    (hwrap : NoWrap image) :
    64 + (image.totalDmemSize.toNat + 8) + (image.iramSize.toNat + 8) ≤ image.fDataSize.toNat := by
  have htrailer : kSectionTrailerSize.toNat = 8 := rfl
  have hdo : (sectionsOf image).fDmemOffset.toNat = 64 := rfl
  have hheader : kFwHeaderSize.toNat = 64 := rfl
  have hd : (sectionsOf image).fDmemSize.toNat = image.totalDmemSize.toNat + 8 := by
    rw [sectionsOf, UInt32.toNat_add]
    exact Nat.mod_eq_of_lt hwrap.dmemSize
  have hi : (sectionsOf image).fIramSize.toNat = image.iramSize.toNat + 8 := by
    rw [sectionsOf, UInt32.toNat_add]
    exact Nat.mod_eq_of_lt hwrap.iramSize
  have hafter := h.iramAfter
  have hinside := h.iramInside
  rcases h.apart with hbefore | hbehind
  · omega
  · omega

/-- Exactly when an accepted header gives ranges that can be transferred. -/
theorem image_bounds (image : Image) (s : Sections) : Safe image s ↔ Room image := by
  unfold Safe
  rcases validateHeader_cases image s with ⟨⟨hsize, hsig, hsome, hfit⟩, heq⟩ | ⟨hnot, heq⟩
  · rw [heq]
    constructor
    · intro h
      obtain ⟨hbounds, hwrap⟩ := h rfl
      exact .inr (.inr (.inr (.inr (room_of_inBounds hbounds hwrap))))
    · rintro (h | h | h | h | h) -
      · exact absurd h (Nat.not_lt.mpr hsize)
      · exact absurd hsig h
      · exact absurd h hsome
      · exact absurd h (Nat.not_lt.mpr hfit)
      · exact inBounds_of_room h
  · constructor
    · intro _
      unfold Accepted at hnot
      unfold Room
      omega
    · intro _ hok
      rw [heq] at hok
      cases hok

/-- A header with these two sizes, and `n` zero bytes behind it. -/
def imageOf (dmemSize iramSize n : Nat) (h : 64 + n < 2 ^ 32) : Image where
  fData := [0x14, 0x88] ++ Bytes.zeros 34 ++ Bytes.le 4 dmemSize ++ Bytes.zeros 8 ++
    Bytes.le 4 iramSize ++ Bytes.zeros 12 ++ Bytes.zeros n
  fDataSize := UInt32.ofNat (64 + n)
  inRange := by
    rw [UInt32.toNat_ofNat_of_lt' h]
    simp only [List.length_append, Bytes.length_zeros, Bytes.length_le, List.length_cons,
      List.length_nil]
    omega

/-- The two sections and nothing behind them. -/
def noTrailers : Image := imageOf 4 4 8 (by decide)

/-- A header alone; with its sizes the sum wraps to 64. -/
def wrappedSizes : Image := imageOf 0xFFFFFFC0 0x40 0 (by decide)

def Sections.init : Sections := ⟨0, 0, 0, 0, 0⟩

theorem image_out_of_bounds : ¬ Safe noTrailers .init ∧ ¬ Safe wrappedSizes .init := by
  refine ⟨fun h => ?_, fun h => ?_⟩
  · obtain ⟨hbounds, -⟩ := h (by decide)
    exact absurd hbounds.dmemInside (by decide)
  · obtain ⟨hbounds, -⟩ := h (by decide)
    exact absurd hbounds.dmemInside (by decide)

end Firmware
end Rtl8814au
