import Rtl8814au.Device.KeySafety
import Rtl8814au.Device.RxSafety

/-!
# Device.RxAuth

What reaches the RX ring while CCMP is enabled.

* `rxData_enqueued`: a frame in the ring was accepted by `ccmp_decrypt`, or came in the clear.
* `authentic_iff`: the one step that puts an unauthenticated packet into the ring is the reception of
  a data frame in the clear that carries one.
* `receive_authentication`: the same over runs. `IOC_DROPUNENCRYPTED` has no part in it.
-/

namespace Rtl8814au
namespace Device

open Crypto

def keyForAddr1 (d : Device) (frame : Bytes) : Block :=
  if isGroupAddressed frame then d.fGtk else d.tk

/-- A protected frame that `ccmp_decrypt` accepts under the key for its `Addr1`. -/
def Authenticates (d : Device) (frame : Bytes) : Prop :=
  isProtected frame = true ∧ d.rxKey frame = some (d.keyForAddr1 frame) ∧
    (ccmpDecrypt (d.keyForAddr1 frame) frame (k80211HeaderLen frame).toNat).1 = true

theorem rxKey_eq {d : Device} {frame : Bytes} {key : Block} (h : d.rxKey frame = some key) :
    key = d.keyForAddr1 frame := by
  unfold rxKey at h
  unfold keyForAddr1
  split at h
  · rename_i hg
    rw [if_pos hg]
    split at h
    · exact (Option.some.inj h).symm
    · cases h
  · rename_i hg
    rw [if_neg hg]
    split at h
    · exact (Option.some.inj h).symm
    · cases h

theorem authenticates_of_rxDecrypt {d : Device} {frame : Bytes} {r : Bytes × UInt32}
    (h : d.Decrypted frame) (hr : d.rxDecrypt frame = some r) : d.Authenticates frame := by
  obtain ⟨key, dec, hkey, hdec⟩ := rxDecrypt_protected h hr
  obtain rfl := rxKey_eq hkey
  exact ⟨h.1, hkey, by rw [hdec]⟩

/-- A data frame in the clear with a packet for the ring. -/
structure ClearPacket (frame : Bytes) : Prop where
  data : frameType frame = 2
  clear : isProtected frame = false
  header : ¬ UInt32.ofNat frame.length < k80211HeaderLen frame + 8
  llc : frame.slice (k80211HeaderLen frame).toNat 3 = [0xAA, 0xAA, 0x03]
  etherType : etherTypeAt frame ((k80211HeaderLen frame).toNat + 6) ≠ etherTypeEapol
  fits : ¬ 14 + (UInt32.ofNat frame.length - k80211HeaderLen frame - 8) >
    UInt32.ofNat kRxRingFrameMaxSize

instance (frame : Bytes) : Decidable (ClearPacket frame) :=
  decidable_of_iff (frameType frame = 2 ∧ isProtected frame = false ∧
      ¬ UInt32.ofNat frame.length < k80211HeaderLen frame + 8 ∧
      frame.slice (k80211HeaderLen frame).toNat 3 = [0xAA, 0xAA, 0x03] ∧
      etherTypeAt frame ((k80211HeaderLen frame).toNat + 6) ≠ etherTypeEapol ∧
      ¬ 14 + (UInt32.ofNat frame.length - k80211HeaderLen frame - 8) >
        UInt32.ofNat kRxRingFrameMaxSize)
    ⟨fun ⟨h1, h2, h3, h4, h5, h6⟩ => ⟨h1, h2, h3, h4, h5, h6⟩,
      fun ⟨h1, h2, h3, h4, h5, h6⟩ => ⟨h1, h2, h3, h4, h5, h6⟩⟩

def ringEtherType (entry : RxRingEntry) : UInt16 := etherTypeAt entry.data.bytes 12

/-- Behind two addresses of six bytes. -/
theorem ringEtherType_ringEntry {r : Decap} (old : RxRingEntry) (hlen : 22 ≤ r.frameData.length)
    (hfit : 14 + r.payloadLen.toNat ≤ 2400) : ringEtherType (r.ringEntry old) = r.etherType := by
  have hdst : (r.frameData.slice 4 6).length = 6 := Bytes.length_slice (by omega)
  have hsrc : (r.frameData.slice 16 6).length = 6 := Bytes.length_slice (by omega)
  have hpayload : r.payload.length ≤ r.payloadLen.toNat := List.length_take_le _ _
  have hat : ∀ i, i < 2 → (r.ringEntry old).data.bytes.at (12 + i) =
      r.frameData.at (r.hdrLen.toNat + 6 + i) := by
    intro i hi
    simp only [Decap.ringEntry]
    rw [Buf.bytes_copyAt _ (by simp [hdst, hsrc]; omega), List.take_zero, List.nil_append,
      Bytes.at_append_left (by simp [hdst, hsrc]; omega),
      Bytes.at_append_left (by simp [hdst, hsrc]; omega),
      Bytes.at_append_right (by simp [hdst, hsrc]), List.length_append, hdst, hsrc]
    obtain rfl | rfl : i = 0 ∨ i = 1 := by omega
    · rfl
    · rfl
  have h0 := hat 0 (by decide)
  have h1 := hat 1 (by decide)
  unfold ringEtherType Decap.etherType etherTypeAt
  rw [show 12 + 1 = 12 + 1 from rfl, h1]
  rw [Nat.add_zero, Nat.add_zero] at h0
  rw [h0]

def Decap.ofClear (frame : Bytes) : Decap where
  hdrLen := k80211HeaderLen frame
  frameData := frame
  frameLength := UInt32.ofNat frame.length
  payloadLen := UInt32.ofNat frame.length - k80211HeaderLen frame - 8
  ethLen := 14 + (UInt32.ofNat frame.length - k80211HeaderLen frame - 8)

theorem rxDecap_clear {d : Device} {frame : Bytes} (h : isProtected frame = false) {r : Decap} :
    d.rxDecap frame = some r ↔ ¬ UInt32.ofNat frame.length < k80211HeaderLen frame + 8 ∧
      frame.slice (k80211HeaderLen frame).toNat 3 = [0xAA, 0xAA, 0x03] ∧ r = Decap.ofClear frame := by
  have hrx : d.rxDecrypt frame = some (frame, UInt32.ofNat frame.length) :=
    rxDecrypt_plain fun henc => by rw [henc.1] at h; cases h
  constructor
  · intro hr
    obtain ⟨frameData, frameLength, h8, hdec, hllc, rfl⟩ := rxDecap_eq_some hr
    rw [hrx] at hdec
    cases hdec
    exact ⟨h8, hllc, rfl⟩
  · rintro ⟨h8, hllc, rfl⟩
    exact rxDecap_of_llc h8 hrx hllc

theorem ofClear_lengths {frame : Bytes}
    (h : ¬ UInt32.ofNat frame.length < k80211HeaderLen frame + 8) :
    24 ≤ frame.length ∧ (Decap.ofClear frame).ethLen.toNat =
      14 + (Decap.ofClear frame).payloadLen.toNat := by
  have hn : (UInt32.ofNat frame.length).toNat = frame.length % 2 ^ 32 := UInt32.toNat_ofNat'
  have hlt := (UInt32.ofNat frame.length).toNat_lt
  have hhdr := toNat_headerLen frame
  rw [UInt32.lt_iff_toNat_lt] at h
  simp only [UInt32.toNat_add, UInt32.reduceToNat] at h
  constructor
  · omega
  · simp only [Decap.ofClear, UInt32.toNat_add, UInt32.toNat_sub, UInt32.reduceToNat]
    omega

theorem enqueue_of_rxDeliver {d d' : Device} {frame received : Bytes} {r : Decap}
    {actions : List Action} {entry : RxRingEntry} (h : d.rxDeliver frame r = some (d', actions))
    (hmem : .enqueue received entry ∈ actions) :
    d.rxSink r = .ring ∧ received = frame ∧ entry = r.ringEntry (d.fRxRing d.fRxRingHead) ∧
      14 + r.payloadLen.toNat ≤ 2400 := by
  unfold rxDeliver at h
  split at h
  · cases h
    cases hmem
  · cases h
    cases hmem
  · rename_i hring
    split at h
    · cases h
    · rename_i hfit
      cases h
      cases List.mem_singleton.mp hmem
      exact ⟨hring, rfl, rfl, Nat.not_lt.mp hfit⟩

theorem rxDeliver_ring {d : Device} {frame : Bytes} {r : Decap} (h : d.rxSink r = .ring)
    (hfit : 14 + r.payloadLen.toNat ≤ 2400) :
    d.rxDeliver frame r = some (d.enqueue (r.ringEntry (d.fRxRing d.fRxRingHead)),
      [.enqueue frame (r.ringEntry (d.fRxRing d.fRxRingHead))]) := by
  unfold rxDeliver
  rw [h]
  exact if_neg (Nat.not_lt.mpr hfit)

theorem rxSink_eq_ring {d : Device} {r : Decap} (h : r.etherType ≠ etherTypeEapol) :
    d.rxSink r = .ring ↔ ¬ r.ethLen > UInt32.ofNat kRxRingFrameMaxSize := by
  unfold rxSink
  rw [if_neg fun hc => h hc.1]
  split
  · rename_i hbig
    exact iff_of_false (by decide) (not_not.mpr hbig)
  · rename_i hfit
    exact iff_of_true rfl hfit

/-- In the ring: accepted by `ccmp_decrypt`, or a packet in the clear. -/
theorem rxData_enqueued {d d' : Device} {frame received : Bytes} {actions : List Action}
    {entry : RxRingEntry} (hen : d.fCcmpEnabled = true) (htype : frameType frame = 2)
    (h : d.rxData frame = some (d', actions)) (hmem : .enqueue received entry ∈ actions)
    (hether : ringEtherType entry ≠ etherTypeEapol) :
    d.Authenticates frame ∨ ClearPacket frame := by
  unfold rxData at h
  split at h
  · cases h
    cases hmem
  rename_i r hr
  obtain ⟨hring, rfl, rfl, hfit⟩ := enqueue_of_rxDeliver h hmem
  cases hprot : isProtected received with
  | true =>
    obtain ⟨frameData, frameLength, -, hdec, -⟩ := rxDecap_eq_some hr
    exact .inl (authenticates_of_rxDecrypt ⟨hprot, hen⟩ hdec)
  | false =>
    obtain ⟨h8, hllc, rfl⟩ := (rxDecap_clear hprot).mp hr
    have hlen : 22 ≤ received.length := Nat.le_trans (by decide) (ofClear_lengths h8).1
    rw [ringEtherType_ringEntry _ hlen hfit] at hether
    exact .inr ⟨htype, hprot, h8, hllc, hether, (rxSink_eq_ring hether).mp hring⟩

theorem rxData_clearPacket (d : Device) {frame : Bytes} (h : ClearPacket frame) :
    ∃ d' entry, d.rxData frame = some (d', [.enqueue frame entry]) ∧
      ringEtherType entry ≠ etherTypeEapol := by
  obtain ⟨hlen, heth⟩ := ofClear_lengths h.header
  have hether : (Decap.ofClear frame).etherType ≠ etherTypeEapol := h.etherType
  have hring : d.rxSink (Decap.ofClear frame) = .ring := (rxSink_eq_ring hether).mpr h.fits
  have hfit : 14 + (Decap.ofClear frame).payloadLen.toNat ≤ 2400 := by
    have hmax : (UInt32.ofNat kRxRingFrameMaxSize).toNat = 2400 := rfl
    have hle : ¬ UInt32.ofNat kRxRingFrameMaxSize < (Decap.ofClear frame).ethLen := h.fits
    rw [UInt32.lt_iff_toNat_lt, heth, hmax] at hle
    exact Nat.not_lt.mp hle
  refine ⟨d.enqueue ((Decap.ofClear frame).ringEntry (d.fRxRing d.fRxRingHead)),
    (Decap.ofClear frame).ringEntry (d.fRxRing d.fRxRingHead), ?_, ?_⟩
  · rw [rxData, (rxDecap_clear h.clear).mpr ⟨h.header, h.llc, rfl⟩]
    exact rxDeliver_ring hring hfit
  · rw [ringEtherType_ringEntry _ (Nat.le_trans (by decide) hlen) hfit]
    exact hether

/-- Management frames and firmware events leave the ring alone. -/
theorem enqueue_of_rxFrameReceived {d d' : Device} {frame received : Bytes} {isC2H : Bool}
    {env : Env} {actions : List Action} {entry : RxRingEntry}
    (h : d.rxFrameReceived frame isC2H env = some (d', actions))
    (hmem : .enqueue received entry ∈ actions) :
    isC2H = false ∧ frameType frame = 2 ∧ d.rxData frame = some (d', actions) := by
  unfold rxFrameReceived at h
  split at h
  · cases h
    cases hmem
  rename_i hC2H
  split at h
  · cases h
    cases hmem
  split at h
  · split at h
    · have hquiet : ∀ a ∈ (d.handleAuthResponse frame env).2, a ≠ .enqueue received entry := by
        unfold handleAuthResponse
        split
        · simp
        split
        · simp
        split
        · simp
        · dsimp only [sendAssocRequest]
          split <;> simp
      rw [Option.some.inj h] at hquiet
      exact absurd rfl (hquiet _ hmem)
    split at h
    · cases h
      cases hmem
    · cases h
      cases hmem
  split at h
  · cases h
    cases hmem
  · rename_i htype
    exact ⟨Bool.not_eq_true _ ▸ hC2H, not_not.mp htype, h⟩

theorem rxFrameReceived_clearPacket (d : Device) {frame : Bytes} (env : Env)
    (h : ClearPacket frame) : d.rxFrameReceived frame false env = d.rxData frame := by
  have h24 : ¬ UInt32.ofNat frame.length < 24 := by
    have h8 := h.header
    have hhdr := toNat_headerLen frame
    rw [UInt32.lt_iff_toNat_lt] at h8 ⊢
    simp only [UInt32.toNat_add, UInt32.reduceToNat] at h8 ⊢
    omega
  have hdata : frameType frame = 2 := h.data
  unfold rxFrameReceived
  rw [if_neg (by decide), if_neg h24, if_neg (by rw [hdata]; decide), if_neg (not_not.mpr hdata)]

end Device

namespace System

/-- In this step, while CCMP is enabled, only authenticated packets get into the ring. -/
def Authentic (s : System) (e : Event × Env) : Prop :=
  s.device.fCcmpEnabled = true →
    match e.1 with
    | .rxFrame frame isC2H =>
      ∀ d' actions, s.device.rxFrameReceived frame isC2H e.2 = some (d', actions) →
        ∀ received entry, .enqueue received entry ∈ actions →
          Device.ringEtherType entry ≠ Device.etherTypeEapol → s.device.Authenticates frame
    | _ => True

/-- Not the reception, while CCMP is enabled, of a packet in the clear. -/
def NoPlaintext (s : System) (e : Event × Env) : Prop :=
  s.device.fCcmpEnabled = true →
    match e.1 with
    | .rxFrame frame isC2H => isC2H = false → ¬ Device.ClearPacket frame
    | _ => True

instance (s : System) (e : Event × Env) : Decidable (s.NoPlaintext e) := by
  unfold NoPlaintext
  cases e.1 <;> infer_instance

theorem authentic_iff (s : System) (e : Event × Env) : s.Authentic e ↔ s.NoPlaintext e := by
  obtain ⟨e, env⟩ := e
  refine forall_congr' fun hen => ?_
  cases e with
  | rxFrame frame isC2H =>
    constructor
    · rintro hauth rfl hclear
      obtain ⟨d', entry, hdata, hether⟩ := s.device.rxData_clearPacket hclear
      rw [← s.device.rxFrameReceived_clearPacket env hclear] at hdata
      have hprot := (hauth d' _ hdata frame entry (List.mem_singleton.mpr rfl) hether).1
      rw [hclear.clear] at hprot
      cases hprot
    · intro hno d' actions hstep received entry hmem hether
      obtain ⟨hC2H, htype, hdata⟩ := Device.enqueue_of_rxFrameReceived hstep hmem
      rcases Device.rxData_enqueued hen htype hdata hmem hether with h | h
      · exact h
      · exact absurd h (hno hC2H)
  | _ => exact Iff.rfl

theorem receive_authentication (mac : Mac) (es : List (Event × Env)) :
    Lts.Meets next Authentic (init mac) es ↔ Lts.Meets next NoPlaintext (init mac) es :=
  Lts.meets_congr authentic_iff

/-- Keys of a supplicant, drop-unencrypted set, and a packet in the clear. -/
def injectionRun : List (Event × Env) :=
  sampleJoin ++ [samplePairwise, sampleGroup, (.control (.dropUnencrypted 1), sampleEnv),
    (.rxFrame (sampleResponse 0x08 (Device.llcSnap 0x0800 ++ [1, 2, 3, 4])) false, sampleEnv)]

theorem receive_authentication_injection :
    (Lts.run next (init sampleMac) injectionRun).map (fun s => s.device.fDropUnencrypted) = some 1 ∧
      ¬ Lts.Meets next Authentic (init sampleMac) injectionRun := by
  refine ⟨by decide +kernel, ?_⟩
  rw [Lts.meets_congr authentic_iff]
  decide +kernel

end System
end Rtl8814au
