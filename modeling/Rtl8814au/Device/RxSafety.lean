import Rtl8814au.Device.Data
import Rtl8814au.Crypto.CcmpCorrect

/-!
# Device.RxSafety

Lengths in the decapsulation of a received data frame.

* `rxDecrypt_protected`: what the decryption branch leaves in hand.
* `Decap.Safe`: the payload is what is really there behind the LLC/SNAP header, and it fits.
* `rxDecap_safe_iff`: every frame that passes the LLC/SNAP check is handled safely, but for the
  protected ones whose decrypted body is shorter than an LLC/SNAP header.
-/

namespace Rtl8814au
namespace Device

open Crypto

theorem k80211HeaderLen_cases (frame : Bytes) :
    k80211HeaderLen frame = 24 ∨ k80211HeaderLen frame = 26 := by
  unfold k80211HeaderLen
  split
  · exact .inr rfl
  · exact .inl rfl

theorem toNat_headerLen (frame : Bytes) :
    (k80211HeaderLen frame).toNat = 24 ∨ (k80211HeaderLen frame).toNat = 26 := by
  rcases k80211HeaderLen_cases frame with h | h <;> rw [h]
  · exact .inl rfl
  · exact .inr rfl

theorem slice_set {b : Bytes} {i off n : Nat} {x : UInt8} (h : i < off) :
    Bytes.slice (b.set i x) off n = b.slice off n := by
  rw [Bytes.slice, List.drop_set, if_pos h, Bytes.slice]

/-! ## What decryption leaves -/

def Decrypted (d : Device) (frame : Bytes) : Prop :=
  isProtected frame = true ∧ d.fCcmpEnabled = true

theorem rxDecrypt_plain {d : Device} {frame : Bytes} (h : ¬ d.Decrypted frame) :
    d.rxDecrypt frame = some (frame, UInt32.ofNat frame.length) := by
  unfold rxDecrypt
  exact if_neg h

/-- An accepted frame: 16 bytes shorter, the plaintext moved over the IV. -/
theorem rxDecrypt_protected {d : Device} {frame : Bytes} {r : Bytes × UInt32}
    (h : d.Decrypted frame) (hr : d.rxDecrypt frame = some r) :
    ∃ key dec, d.rxKey frame = some key ∧
      ccmpDecrypt key frame (k80211HeaderLen frame).toNat = (true, dec) := by
  simp only [rxDecrypt, if_pos (show isProtected frame = true ∧ d.fCcmpEnabled = true from h)] at hr
  split at hr
  · cases hr
  · split at hr
    · cases hr
    · split at hr
      · cases hr
      · rename_i key hkey
        split at hr
        · cases hr
        · rename_i dec hdec
          exact ⟨key, dec, hkey, hdec⟩

theorem rxDecrypt_accepted {d : Device} {frame dec : Bytes} {key : Block} (h : d.Decrypted frame)
    (hlen : frame.length ≤ 2400) (hkey : d.rxKey frame = some key)
    (hdec : ccmpDecrypt key frame (k80211HeaderLen frame).toNat = (true, dec)) :
    ∃ x frameLength, d.rxDecrypt frame = some ((memmove dec (k80211HeaderLen frame).toNat
        ((k80211HeaderLen frame).toNat + 8)
        (frame.length - (k80211HeaderLen frame).toNat - 16)).set 1 x, frameLength) ∧
      frameLength.toNat = frame.length - 16 := by
  have hmin := length_of_ccmpDecrypt hdec
  have hn : (UInt32.ofNat frame.length).toNat = frame.length := by
    rw [UInt32.toNat_ofNat']
    omega
  have hcases := toNat_headerLen frame
  generalize hhdr : k80211HeaderLen frame = hdr at *
  have hlong : ¬ UInt32.ofNat frame.length > 2400 := by
    rw [gt_iff_lt, UInt32.lt_iff_toNat_lt, hn]
    exact Nat.not_lt.mpr hlen
  have h16 : ¬ UInt32.ofNat frame.length < hdr + 8 + 8 := by
    rw [UInt32.lt_iff_toNat_lt, hn]
    simp only [UInt32.toNat_add, UInt32.reduceToNat]
    omega
  have hstart : (hdr + 8).toNat = hdr.toNat + 8 := by
    simp only [UInt32.toNat_add, UInt32.reduceToNat]
    omega
  have hpay : (UInt32.ofNat frame.length - (hdr + 8) - 8).toNat =
      frame.length - hdr.toNat - 16 := by
    simp only [UInt32.toNat_sub, UInt32.toNat_add, hn, UInt32.reduceToNat]
    omega
  refine ⟨_, hdr + (UInt32.ofNat frame.length - (hdr + 8) - 8),
    (by simp only [rxDecrypt, if_pos (show isProtected frame = true ∧ d.fCcmpEnabled = true from h),
      hhdr, if_neg hlong, if_neg h16, hkey, hdec, hstart, hpay]; rfl), ?_⟩
  · simp only [UInt32.toNat_add, UInt32.toNat_sub, hn, UInt32.reduceToNat]
    omega

/-! ## Safety -/

/-- The bytes really there: all of the frame, or all but the IV and the MIC. -/
def presentLength (d : Device) (frame : Bytes) : Nat :=
  if isProtected frame ∧ d.fCcmpEnabled then frame.length - 16 else frame.length

structure Decap.Safe (d : Device) (frame : Bytes) (r : Decap) : Prop where
  llc : r.hdrLen.toNat + 8 ≤ d.presentLength frame -- The LLC/SNAP bytes are inside the frame.
  -- The payload is what is behind them.
  payload : r.payloadLen.toNat = d.presentLength frame - (r.hdrLen.toNat + 8)
  -- So no copy reads past the frame.
  source : r.hdrLen.toNat + 8 + r.payloadLen.toNat ≤ d.presentLength frame
  inbox : d.rxSink r = .inbox → r.payloadLen.toNat ≤ 300
  ring : d.rxSink r = .ring → 14 + r.payloadLen.toNat ≤ kRxRingFrameMaxSize

/-- A body that decrypts to fewer bytes than an LLC/SNAP header has, but which, completed with the
bytes of the IV behind it, starts like one. -/
def ShortDecrypted (d : Device) (frame : Bytes) : Prop :=
  d.Decrypted frame ∧ frame.length < (k80211HeaderLen frame).toNat + 24 ∧
    ∃ key dec, d.rxKey frame = some key ∧
      ccmpDecrypt key frame (k80211HeaderLen frame).toNat = (true, dec) ∧
      (memmove dec (k80211HeaderLen frame).toNat ((k80211HeaderLen frame).toNat + 8)
        (frame.length - (k80211HeaderLen frame).toNat - 16)).slice (k80211HeaderLen frame).toNat 3 =
          [0xAA, 0xAA, 0x03]

theorem rxDecap_eq_some {d : Device} {frame : Bytes} {r : Decap} (h : d.rxDecap frame = some r) :
    ∃ frameData frameLength, ¬ UInt32.ofNat frame.length < k80211HeaderLen frame + 8 ∧
      d.rxDecrypt frame = some (frameData, frameLength) ∧
      frameData.slice (k80211HeaderLen frame).toNat 3 = [0xAA, 0xAA, 0x03] ∧
      r = { hdrLen := k80211HeaderLen frame, frameData := frameData, frameLength := frameLength,
            payloadLen := frameLength - k80211HeaderLen frame - 8,
            ethLen := 14 + (frameLength - k80211HeaderLen frame - 8) } := by
  simp only [rxDecap] at h
  split at h
  · cases h
  · rename_i hlen
    split at h
    · cases h
    · rename_i frameData frameLength hdec
      split at h
      · cases h
      · rename_i hllc
        cases h
        exact ⟨frameData, frameLength, hlen, hdec, Decidable.not_not.mp hllc, rfl⟩

theorem rxDecap_of_llc {d : Device} {frame frameData : Bytes} {frameLength : UInt32}
    (h8 : ¬ UInt32.ofNat frame.length < k80211HeaderLen frame + 8)
    (hrx : d.rxDecrypt frame = some (frameData, frameLength))
    (hllc : frameData.slice (k80211HeaderLen frame).toNat 3 = [0xAA, 0xAA, 0x03]) :
    d.rxDecap frame =
      some { hdrLen := k80211HeaderLen frame, frameData := frameData, frameLength := frameLength,
             payloadLen := frameLength - k80211HeaderLen frame - 8,
             ethLen := 14 + (frameLength - k80211HeaderLen frame - 8) } := by
  simp only [rxDecap, if_neg h8, hrx]
  rw [if_neg (not_not.mpr hllc)]

/-- Once the lengths are right, the size checks of the sinks are about the true payload. -/
theorem Decap.safe_of_lengths {d : Device} {frame frameData : Bytes} {hdr frameLength : UInt32}
    (hhdr : hdr.toNat = 24 ∨ hdr.toNat = 26)
    (hpresent : frameLength.toNat = d.presentLength frame)
    (hllc : hdr.toNat + 8 ≤ d.presentLength frame) :
    Decap.Safe d frame { hdrLen := hdr, frameData := frameData, frameLength := frameLength,
                         payloadLen := frameLength - hdr - 8,
                         ethLen := 14 + (frameLength - hdr - 8) } := by
  have hlt := frameLength.toNat_lt
  have hpay : (frameLength - hdr - 8).toNat = d.presentLength frame - (hdr.toNat + 8) := by
    simp only [UInt32.toNat_sub, UInt32.reduceToNat]
    omega
  refine ⟨hllc, hpay, ?_, ?_, ?_⟩
  · simp only [hpay]
    omega
  · intro h
    simp only [rxSink] at h
    split at h
    · split at h
      · cases h
      · split at h
        · cases h
        · split at h
          · cases h
          · rename_i hbig
            rw [gt_iff_lt, UInt32.lt_iff_toNat_lt] at hbig
            exact Nat.not_lt.mp hbig
    · split at h <;> cases h
  · intro h
    simp only [rxSink] at h
    split at h
    · split at h
      · cases h
      · split at h
        · cases h
        · split at h <;> cases h
    · split at h
      · cases h
      · rename_i hbig
        rw [gt_iff_lt, UInt32.lt_iff_toNat_lt] at hbig
        simp only [UInt32.toNat_add, hpay, UInt32.toNat_ofNat', kRxRingFrameMaxSize] at hbig
        simp only [hpay, kRxRingFrameMaxSize]
        have : UInt32.toNat 14 = 14 := rfl
        omega

theorem rxDecap_safe_iff {d : Device} {frame : Bytes} (hlen : frame.length ≤ 2400) :
    (∀ r, d.rxDecap frame = some r → r.Safe d frame) ↔ ¬ d.ShortDecrypted frame := by
  have hcases := toNat_headerLen frame
  have hn : (UInt32.ofNat frame.length).toNat = frame.length := by
    rw [UInt32.toNat_ofNat']
    omega
  constructor
  · rintro hsafe ⟨henc, hshort, key, dec, hkey, hdec, hllc⟩
    obtain ⟨x, frameLength, hrx, -⟩ := rxDecrypt_accepted henc hlen hkey hdec
    have hmin := length_of_ccmpDecrypt hdec
    have h8 : ¬ UInt32.ofNat frame.length < k80211HeaderLen frame + 8 := by
      rw [UInt32.lt_iff_toNat_lt, hn]
      simp only [UInt32.toNat_add, UInt32.reduceToNat]
      omega
    have hin : (k80211HeaderLen frame).toNat + 8 ≤ d.presentLength frame :=
      (hsafe _ (rxDecap_of_llc h8 hrx (by rwa [slice_set (by omega)]))).llc
    have hpresent : d.presentLength frame = frame.length - 16 := if_pos henc
    rw [hpresent] at hin
    omega
  · intro hns r hr
    obtain ⟨frameData, frameLength, h8, hrx, hllc, rfl⟩ := rxDecap_eq_some hr
    rw [UInt32.lt_iff_toNat_lt, hn] at h8
    simp only [UInt32.toNat_add, UInt32.reduceToNat] at h8
    by_cases henc : d.Decrypted frame
    · obtain ⟨key, dec, hkey, hdec⟩ := rxDecrypt_protected henc hrx
      obtain ⟨x, len, hrx', hlen'⟩ := rxDecrypt_accepted henc hlen hkey hdec
      rw [hrx'] at hrx
      cases hrx
      rw [slice_set (by omega)] at hllc
      have hpresent : d.presentLength frame = frame.length - 16 := if_pos henc
      have hlong : (k80211HeaderLen frame).toNat + 24 ≤ frame.length := by
        by_contra hshort
        exact hns ⟨henc, by omega, key, dec, hkey, hdec, hllc⟩
      exact Decap.safe_of_lengths hcases (by omega) (by omega)
    · rw [rxDecrypt_plain henc] at hrx
      cases hrx
      have hpresent : d.presentLength frame = frame.length := if_neg henc
      exact Decap.safe_of_lengths hcases (by omega) (by omega)

def keyedDevice : Device := { init (Buf.zero 6) with fCcmpEnabled := true, fPtkValid := true }

/-- A plaintext data frame with three bytes of payload. -/
def plainFrame : Bytes :=
  [0x08, 0x02] ++ Bytes.zeros 22 ++ [0xAA, 0xAA, 0x03, 0, 0, 0, 0x08, 0x00] ++ [1, 2, 3]

theorem rxDecap_safe_plainFrame :
    (keyedDevice.rxDecap plainFrame).isSome = true ∧
      ∀ r, keyedDevice.rxDecap plainFrame = some r → r.Safe keyedDevice plainFrame := by
  refine ⟨by decide, (rxDecap_safe_iff (by decide)).mpr ?_⟩
  rintro ⟨⟨hprot, -⟩, -⟩
  exact absurd hprot (by decide)

def shortHeader : Bytes := [0x08, 0x02] ++ Bytes.zeros 22

/-- A genuine frame of 43 bytes with a body of three. -/
def shortFrame : Bytes := (ccmpEncrypt (Buf.zero 16) (shortHeader ++ [0xAA, 0xAA, 0x03]) 24 1 0).2

theorem shortFrame_at {i : Nat} (h : i < 24) :
    shortFrame.at i = (setProtected shortHeader).at i := by
  have hl : i < (setProtected shortHeader).length := h
  rw [shortFrame, ccmpEncrypt_eq (.inl rfl) rfl, Bytes.at_append_left hl]

theorem rxDecap_safe_shortFrame :
    shortFrame.length = 43 ∧ ∃ r, keyedDevice.rxDecap shortFrame = some r ∧
      r.payloadLen.toNat = 2 ^ 32 - 5 ∧ keyedDevice.rxSink r = .ring ∧
      ¬ r.Safe keyedDevice shortFrame := by
  have hlen : shortFrame.length = 43 := length_ccmpEncrypt _ [0xAA, 0xAA, 0x03] 1 0 (.inl rfl) rfl
  have hhdr : k80211HeaderLen shortFrame = 24 := by
    simp only [k80211HeaderLen, isQosData, shortFrame_at (show 0 < 24 by decide)]
    decide
  have hprot : isProtected shortFrame = true := by
    simp only [isProtected, shortFrame_at (show 1 < 24 by decide)]
    decide
  have hkey : keyedDevice.rxKey shortFrame = some (Buf.zero 16) := by
    simp only [rxKey, isGroupAddressed, shortFrame_at (show 4 < 24 by decide)]
    decide
  obtain ⟨mic, hmic, hdec⟩ := ccmpDecrypt_ccmpEncrypt (Buf.zero 16) [0xAA, 0xAA, 0x03] 1 0
    (.inl rfl) (show shortHeader.length = 24 from rfl)
  have hdec : ccmpDecrypt (Buf.zero 16) shortFrame (k80211HeaderLen shortFrame).toNat =
      (true, setProtected shortHeader ++ (ccmpIv 1 0 ++ ([0xAA, 0xAA, 0x03] ++ mic))) := by
    rw [hhdr]
    exact hdec
  obtain ⟨x, frameLength, hrx, hfl⟩ :=
    rxDecrypt_accepted ⟨hprot, rfl⟩ (by rw [hlen]; decide) hkey hdec
  have hfl : frameLength = 27 := UInt32.toNat_inj.mp (by rw [hfl, hlen]; rfl)
  have h8 : ¬ UInt32.ofNat shortFrame.length < k80211HeaderLen shortFrame + 8 := by
    rw [hlen, hhdr]
    decide
  have hllc := rxDecap_of_llc h8 hrx (by rw [hhdr, hlen]; rfl)
  rw [hhdr, hfl] at hllc
  refine ⟨hlen, _, hllc, rfl, ?_, ?_⟩
  · unfold rxSink
    rw [if_neg fun h => Bool.false_ne_true h.2]
    rfl
  intro hsafe
  have hin : 24 + 8 ≤ keyedDevice.presentLength shortFrame := hsafe.llc
  have hpresent : keyedDevice.presentLength shortFrame = shortFrame.length - 16 := if_pos ⟨hprot, rfl⟩
  omega

end Device
end Rtl8814au
