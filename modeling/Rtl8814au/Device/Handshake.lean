import Rtl8814au.Device.KeyData
import Rtl8814au.Device.KeyState

/-!
# Device.Handshake

The 4-way handshake between the driver and an authenticator.

* `acceptM2_sendM2`: the message 2 of a device that holds the PTK of the authenticator checks.
* `awaits_firstM1`, `awaits_repeatedM1`: a message 1 leaves the device with that PTK; the ones after
  it change neither the SNonce nor the PTK.
* `verifyM3_m3`: the message 3 for that PTK yields the GTK.
* `handshake_agreement`: after any number of messages 1, a message 3 made from any of the answers
  ends with the same keys on both sides.
-/

namespace Rtl8814au
namespace Device

open Crypto Spec

/-! ## The frames of the driver -/

def stationKey (keyInfo : UInt16) (replayCounter : Buf 8) (nonce : Buf 32) (keyData : Bytes) :
    EapolKey where
  version := 2
  keyInfo := keyInfo
  keyLength := 0
  replayCounter := replayCounter
  nonce := nonce
  iv := Buf.zero 16
  rsc := Buf.zero 8
  reserved := Buf.zero 8
  mic := Buf.zero 16
  keyData := keyData

theorem be_keyInfo (keyInfo : UInt16) :
    Bytes.be 2 keyInfo.toNat = [(keyInfo >>> 8).toUInt8, keyInfo.toUInt8] := by
  have hhigh : UInt8.ofNat (keyInfo.toNat / 256) = (keyInfo >>> 8).toUInt8 := by
    apply UInt8.toNat_inj.mp
    rw [UInt8.toNat_ofNat', UInt16.toNat_toUInt8, UInt16.toNat_shiftRight,
      show (8 : UInt16).toNat % 16 = 8 from rfl, Nat.shiftRight_eq_div_pow]
  have hlow : UInt8.ofNat keyInfo.toNat = keyInfo.toUInt8 := by
    apply UInt8.toNat_inj.mp
    rw [UInt8.toNat_ofNat', UInt16.toNat_toUInt8]
  rw [← hhigh, ← hlow]
  rfl

theorem eapolKeyFrame_eq (keyInfo : UInt16) (replayCounter : Buf 8) (nonce : Buf 32) (mic : Buf 16)
    (keyData : Bytes) :
    eapolKeyFrame keyInfo replayCounter.bytes nonce.bytes mic.bytes keyData =
      { stationKey keyInfo replayCounter nonce keyData with mic := mic }.encode := by
  have hzeros : Bytes.zeros 32 = Bytes.zeros 16 ++ (Bytes.zeros 8 ++ Bytes.zeros 8) := rfl
  have hlength : Bytes.be 2 (0 : UInt16).toNat = [0, 0] := rfl
  simp only [eapolKeyFrame, EapolKey.encode, EapolKey.head, EapolKey.tail, stationKey, be_keyInfo,
    hzeros, Buf.zero, List.append_assoc, List.cons_append, List.nil_append]
  rfl

theorem signedKeyFrame_eq (kck : Block) (keyInfo : UInt16) (replayCounter : Buf 8) (nonce : Buf 32)
    (keyData : Bytes) :
    signedKeyFrame kck.bytes keyInfo replayCounter.bytes nonce.bytes keyData =
      ((stationKey keyInfo replayCounter nonce keyData).sign kck).encode := by
  have hunsigned := eapolKeyFrame_eq keyInfo replayCounter nonce (Buf.zero 16) keyData
  have hmic : eapolMic kck.bytes (eapolKeyFrame keyInfo replayCounter.bytes nonce.bytes
      (Bytes.zeros 16) keyData) = (stationKey keyInfo replayCounter nonce keyData).micUnder kck := by
    rw [eapolMic, hmacSha1_eq, EapolKey.micUnder]
    exact congrArg (fun frame => (Spec.hmacSha1 kck.bytes frame).take 16) hunsigned
  rw [signedKeyFrame, hmic]
  have hsigned := eapolKeyFrame_eq keyInfo replayCounter nonce
    (Buf.ofBytes 16 ((stationKey keyInfo replayCounter nonce keyData).micUnder kck)) keyData
  rw [Buf.bytes_ofBytes (EapolKey.length_micUnder _ _)] at hsigned
  exact hsigned

theorem receive_wireFrame {a : Authenticator} {d : Device} (haa : d.fJoinBssid = a.aa)
    (hspa : d.fMacAddress = a.spa) (eapol : Bytes) :
    a.receive (d.wireFrame a.aa eapol) = some eapol := by
  have hwire : d.wireFrame a.aa eapol = [0x08, 0x01, 0, 0] ++ (a.aa.bytes ++ (a.spa.bytes ++
      (a.aa.bytes ++ ([0, 0] ++ (llcSnap etherTypeEapol ++ eapol))))) := by
    simp only [wireFrame, dataHeader, haa, hspa, List.append_assoc]
  have hskip : ∀ off n, (d.wireFrame a.aa eapol).slice (4 + (6 + off)) n = (a.spa.bytes ++
      (a.aa.bytes ++ ([0, 0] ++ (llcSnap etherTypeEapol ++ eapol)))).slice off n := by
    intro off n
    rw [hwire, Bytes.slice_skip _ (by rfl), Bytes.slice_skip _ a.aa.length_eq]
  have haddr1 : (d.wireFrame a.aa eapol).slice 4 6 = a.aa.bytes := by
    rw [hwire]
    exact (Bytes.slice_skip 0 (by rfl)).trans (Bytes.slice_here a.aa.length_eq)
  have haddr2 : (d.wireFrame a.aa eapol).slice 10 6 = a.spa.bytes :=
    (hskip 0 6).trans (Bytes.slice_here a.spa.length_eq)
  have haddr3 : (d.wireFrame a.aa eapol).slice 16 6 = a.aa.bytes :=
    (hskip 6 6).trans ((Bytes.slice_skip 0 a.spa.length_eq).trans
      (Bytes.slice_here a.aa.length_eq))
  have hllc : (d.wireFrame a.aa eapol).slice 24 8 = llcSnap etherTypeEapol :=
    (hskip 14 8).trans ((Bytes.slice_skip 8 a.spa.length_eq).trans
      ((Bytes.slice_skip 2 a.aa.length_eq).trans
        ((Bytes.slice_skip 0 (by rfl)).trans (Bytes.slice_here (by rfl)))))
  have hdrop : (d.wireFrame a.aa eapol).drop 32 = eapol := by
    rw [hwire]
    simp only [← List.append_assoc]
    exact List.drop_left' (by simp [llcSnap])
  have hfc : (d.wireFrame a.aa eapol).slice 0 2 = [0x08, 0x01] := by
    rw [hwire]
    rfl
  unfold Authenticator.receive
  rw [if_pos ⟨hfc, haddr1, haddr2, haddr3, hllc⟩, hdrop]

/-! ## The pairwise keys -/

theorem beNat_inj {a b : Bytes} (hlen : a.length = b.length)
    (h : Bytes.beNat a = Bytes.beNat b) : a = b := by
  rw [← Bytes.be_beNat a, ← Bytes.be_beNat b, hlen, h]

/-- `memcmp` only leaves equal strings in another order than their values, where it does not
matter. -/
theorem ite_memcmpLt {a b x y : Bytes} (hlen : a.length = b.length) (hxy : a = b → x = y) :
    (if Bytes.memcmpLt a b then x else y) = if Bytes.beNat a ≤ Bytes.beNat b then x else y := by
  rcases Nat.lt_trichotomy (Bytes.beNat a) (Bytes.beNat b) with h | h | h
  · rw [if_pos ((Bytes.memcmpLt_iff hlen).mpr h), if_pos (Nat.le_of_lt h)]
  · rw [hxy (beNat_inj hlen h), ite_self, ite_self]
  · rw [if_neg fun hlt => absurd ((Bytes.memcmpLt_iff hlen).mp hlt) (by omega), if_neg (by omega)]

theorem minBytes_eq {a b : Bytes} (hlen : a.length = b.length) :
    (if Bytes.memcmpLt a b then a else b) = minBytes a b := ite_memcmpLt hlen fun h => h

theorem maxBytes_eq {a b : Bytes} (hlen : a.length = b.length) :
    (if Bytes.memcmpLt a b then b else a) = maxBytes a b := ite_memcmpLt hlen fun h => h.symm

/-- The PTK is that of the authenticator. -/
def HoldsPtk (a : Authenticator) (d : Device) (sNonce : Buf 32) : Prop :=
  d.fPtk.bytes = a.ptkBytes sNonce

theorem ptkData_eq {aa spa aNonce sNonce : Bytes} (haddr : aa.length = spa.length)
    (hnonce : aNonce.length = sNonce.length) : ptkData aa spa aNonce sNonce =
      minBytes aa spa ++ maxBytes aa spa ++ minBytes aNonce sNonce ++ maxBytes aNonce sNonce := by
  simp only [ptkData, minBytes_eq haddr, maxBytes_eq haddr, minBytes_eq hnonce, maxBytes_eq hnonce]

theorem length_ptkData (aa spa aNonce sNonce : Bytes) : (ptkData aa spa aNonce sNonce).length =
    aa.length + spa.length + (aNonce.length + sNonce.length) := by
  have hpair : ∀ (c : Bool) (x y : Bytes), (if c then x else y).length +
      (if c then y else x).length = x.length + y.length := by
    intro c x y
    cases c
    · exact Nat.add_comm _ _
    · rfl
  have h1 := hpair (Bytes.memcmpLt aa spa) aa spa
  have h2 := hpair (Bytes.memcmpLt aNonce sNonce) aNonce sNonce
  simp only [ptkData, List.length_append]
  omega

theorem prf384_ptkData (a : Authenticator) (sNonce : Buf 32) :
    (prf384 a.pmk.bytes ptkLabel
      (ptkData a.aa.bytes a.spa.bytes a.aNonce.bytes sNonce.bytes)).bytes = a.ptkBytes sNonce := by
  have hlabel : ptkLabel = pairwiseLabel := rfl
  have hlength := length_ptkData a.aa.bytes a.spa.bytes a.aNonce.bytes sNonce.bytes
  simp only [Buf.length_eq] at hlength
  rw [hlabel, prf384_eq (by rw [hlength]; decide), ptkData_eq (by simp) (by simp)]
  rfl

section Ptk

variable {a : Authenticator} {d : Device} {sNonce : Buf 32} (h : HoldsPtk a d sNonce)
include h

theorem HoldsPtk.slice (off : Nat) (hoff : off + 16 ≤ 48) :
    d.fPtk.bytes.slice off 16 = (EapolKey.fieldAt (a.ptkBytes sNonce) off 16).bytes := by
  have hlen : (d.fPtk.bytes.slice off 16).length = 16 := Bytes.length_slice (by rwa [Buf.length_eq])
  rw [EapolKey.fieldAt, ← h, Buf.bytes_ofBytes hlen]

theorem HoldsPtk.kck : d.kck = (a.ptk sNonce).kck.bytes := h.slice 0 (by decide)

theorem HoldsPtk.kek : d.kek = (a.ptk sNonce).kek := Buf.ext (h.slice 16 (by decide))

theorem HoldsPtk.tk : d.tk = (a.ptk sNonce).tk := Buf.ext (h.slice 32 (by decide))

end Ptk

/-! ## Message 1 and message 2 -/

/-- Ready for a handshake with this authenticator. -/
structure Associated (a : Authenticator) (d : Device) : Prop where
  pmk : d.fPmk = a.pmk
  pmkValid : d.fPmkValid = true
  aa : d.fJoinBssid = a.aa
  spa : d.fMacAddress = a.spa
  rsnIe : d.fWpaIe.bytes.take d.fWpaIeLength = a.rsnIe
  rsnIeLength : 1 ≤ d.fWpaIeLength ∧ d.fWpaIeLength ≤ 80

/-- With the PTK for the ANonce of the authenticator and an SNonce. -/
structure Keyed (a : Authenticator) (d : Device) (sNonce : Buf 32) : Prop extends Associated a d where
  anonce : d.fAnonce = a.aNonce
  snonce : d.fSnonce = sNonce
  ptk : HoldsPtk a d sNonce
  ptkValid : d.fPtkValid = true

structure Awaits (a : Authenticator) (d : Device) (sNonce : Buf 32) : Prop extends Keyed a d sNonce where
  state : d.fEapolState = .kEapolWaitM3

/-- What the authenticator gets of the actions of a step. -/
def replies (a : Authenticator) (actions : List Action) : List Bytes :=
  actions.filterMap fun action =>
    match action with
    | .transmitEapol frame => a.receive frame
    | _ => none

theorem decode_sign_stationKey (kck : Block) (keyInfo : UInt16) (replayCounter : Buf 8)
    (nonce : Buf 32) {keyData : Bytes} (h : keyData.length ≤ 80) :
    EapolKey.decode ((stationKey keyInfo replayCounter nonce keyData).sign kck).encode =
      some ((stationKey keyInfo replayCounter nonce keyData).sign kck) :=
  EapolKey.decode_encode _ (by show keyData.length + 95 < 2 ^ 16; omega)

theorem length_rsnIe {a : Authenticator} {d : Device} (h : Associated a d) : a.rsnIe.length ≤ 80 := by
  rw [← h.rsnIe]
  exact Nat.le_trans (List.length_take_le _ _) h.rsnIeLength.2

theorem acceptM2_buildM2 {a : Authenticator} {d : Device} {sNonce : Buf 32} {replayCounter : Buf 8}
    (h : Associated a d) (hs : d.fSnonce = sNonce) (hptk : HoldsPtk a d sNonce)
    (hrc : Bytes.be 8 d.fM1ReplayCounter.toNat = replayCounter.bytes) :
    d.buildM2.length ≤ 256 ∧ a.acceptM2 replayCounter d.buildM2 = some sNonce := by
  have hbuild : d.buildM2 =
      ((stationKey 0x010A replayCounter sNonce a.rsnIe).sign (a.ptk sNonce).kck).encode := by
    rw [buildM2, hptk.kck, hrc, hs, h.rsnIe]
    exact signedKeyFrame_eq _ _ _ _ _
  have hlen := length_rsnIe h
  constructor
  · rw [hbuild, EapolKey.length_encode]
    show 99 + a.rsnIe.length ≤ 256
    omega
  · rw [Authenticator.acceptM2, hbuild, decode_sign_stationKey _ _ _ _ hlen]
    exact if_pos ⟨rfl, rfl, rfl, EapolKey.micUnder_sign _ _⟩

theorem acceptM2_sendM2 {a : Authenticator} {d : Device} {sNonce : Buf 32} {replayCounter : Buf 8}
    {env : Env} (h : Associated a d) (hs : d.fSnonce = sNonce) (hptk : HoldsPtk a d sNonce)
    (hrc : Bytes.be 8 d.fM1ReplayCounter.toNat = replayCounter.bytes) (henv : env.transmit = .ok) :
    (d.sendM2 a.aa env).1 = d.setEapolState .kEapolWaitM3 ∧
      ∃ m2, replies a (d.sendM2 a.aa env).2 = [m2] ∧ a.acceptM2 replayCounter m2 = some sNonce := by
  obtain ⟨hlen, haccept⟩ := acceptM2_buildM2 h hs hptk hrc
  have hie := h.rsnIeLength
  have hsend : d.sendM2 a.aa env =
      (d.setEapolState .kEapolWaitM3, [.transmitEapol (d.wireFrame a.aa d.buildM2)]) := by
    unfold sendM2
    rw [if_neg (by omega), txEapolDataFrame_eq hlen]
    exact if_neg (not_not.mpr henv)
  rw [hsend]
  refine ⟨rfl, d.buildM2, ?_, haccept⟩
  simp only [replies, List.filterMap_cons, List.filterMap_nil, receive_wireFrame h.aa h.spa]

section M1

variable {a : Authenticator} {d : Device} (c : M1Choice)

theorem keyNonce_m1 : keyNonce (a.m1 c).encode = a.aNonce := by
  have h := (a.m1 c).slice_nonce []
  rw [List.append_nil] at h
  rw [keyNonce, h]
  exact Buf.ofBytes_bytes _

theorem keyReplayCounter_m1 :
    Bytes.be 8 (keyReplayCounter (a.m1 c).encode).toNat = c.replayCounter.bytes := by
  have h := (a.m1 c).slice_replayCounter []
  rw [List.append_nil] at h
  have hlt := Bytes.beNat_lt c.replayCounter.bytes
  have hbe := Bytes.be_beNat c.replayCounter.bytes
  rw [Buf.length_eq] at hlt hbe
  rw [keyReplayCounter, h, UInt64.toNat_ofNat']
  show Bytes.be 8 (Bytes.beNat c.replayCounter.bytes % 2 ^ 64) = _
  rw [show 2 ^ 64 = 256 ^ 8 from rfl, Nat.mod_eq_of_lt hlt, hbe]

theorem be16At_eq {b : Bytes} {i : Nat} (h : i + 2 ≤ b.length) :
    be16At b i = Bytes.beNat (b.slice i 2) := by
  rw [be16At, Bytes.slice_two h]

theorem keyInfoAt_eq (k : EapolKey) {high low : UInt8} (h : Bytes.be 2 k.keyInfo.toNat = [high, low]) :
    keyInfoAt k.encode = (high.toUInt16 <<< 8) ||| low.toUInt16 := by
  have hlen := k.length_encode
  have hs := k.slice_keyInfo []
  rw [List.append_nil, Bytes.slice_two (by omega), h] at hs
  obtain ⟨h5, h6⟩ := List.cons.inj hs
  obtain ⟨h6, -⟩ := List.cons.inj h6
  rw [keyInfoAt, etherTypeAt, h5, h6]

theorem be16At_length {k : EapolKey} (h : k.encode.length ≤ 300) :
    4 + be16At k.encode 2 = k.encode.length := by
  have hlen := k.length_encode
  have hs := k.slice_length []
  rw [List.append_nil] at hs
  rw [be16At_eq (by omega), hs, Bytes.beNat_be]
  omega

theorem be16At_keyDataLength {k : EapolKey} (h : k.encode.length ≤ 300) :
    be16At k.encode 97 = k.keyData.length := by
  have hlen := k.length_encode
  have hs := k.slice_keyDataLength []
  rw [List.append_nil] at hs
  rw [be16At_eq (by omega), hs, Bytes.beNat_be]
  omega

theorem classify_m1 (h : (a.m1 c).encode.length ≤ 300) : d.classify (a.m1 c).encode = some .m1 := by
  have hlen := (a.m1 c).length_encode
  have hbody := be16At_length h
  have htype : (a.m1 c).encode.at 1 = 3 := rfl
  have hinfo : keyInfoAt (a.m1 c).encode = 0x008A :=
    keyInfoAt_eq (a.m1 c) (show Bytes.be 2 (0x008A : UInt16).toNat = [0x00, 0x8A] by decide)
  unfold classify
  rw [if_neg (by omega), if_neg (not_not.mpr htype), if_neg (by omega), hinfo]
  rfl

/-- The device after a message 1, as far as the handshake is concerned. -/
theorem awaits_sendM2 {env : Env} {sNonce : Buf 32} (h : Associated a d) (ha : d.fAnonce = a.aNonce)
    (hs : d.fSnonce = sNonce) (hptk : HoldsPtk a d sNonce) (hvalid : d.fPtkValid = true)
    (hrc : Bytes.be 8 d.fM1ReplayCounter.toNat = c.replayCounter.bytes) (henv : env.transmit = .ok) :
    Awaits a (d.sendM2 a.aa env).1 sNonce ∧
      ∃ m2, replies a (d.sendM2 a.aa env).2 = [m2] ∧ a.acceptM2 c.replayCounter m2 = some sNonce := by
  obtain ⟨hdev, hm2⟩ := acceptM2_sendM2 h hs hptk hrc henv
  rw [hdev]
  exact ⟨⟨⟨⟨h.pmk, h.pmkValid, h.aa, h.spa, h.rsnIe, h.rsnIeLength⟩, ha, hs, hptk, hvalid⟩, rfl⟩, hm2⟩

theorem associated_noteM1 (h : Associated a d) (frame : Bytes) : Associated a (d.noteM1 frame) :=
  ⟨h.pmk, h.pmkValid, h.aa, h.spa, h.rsnIe, h.rsnIeLength⟩

theorem associated_derivePtk (h : Associated a d) (snonce : Buf 32) :
    Associated a (d.derivePtk a.aa snonce) :=
  ⟨h.pmk, h.pmkValid, h.aa, h.spa, h.rsnIe, h.rsnIeLength⟩

theorem holdsPtk_derivePtk (h : Associated a d) (ha : d.fAnonce = a.aNonce) (snonce : Buf 32) :
    HoldsPtk a (d.derivePtk a.aa snonce) snonce := by
  rw [HoldsPtk, derivePtk, ha, h.pmk, h.spa]
  exact prf384_ptkData a snonce

/-- The message 1 that starts a handshake: a new SNonce and the PTK for it. -/
theorem awaits_firstM1 {env : Env} (h : Associated a d)
    (hnew : ¬ (d.fPtkValid = true ∧ d.fAnonce = a.aNonce)) (hlen : (a.m1 c).encode.length ≤ 300)
    (henv : env.transmit = .ok) :
    Awaits a (d.handleEapolFrame (a.m1 c).encode a.aa env).1 env.snonce ∧
      ∃ m2, replies a (d.handleEapolFrame (a.m1 c).encode a.aa env).2 = [m2] ∧
        a.acceptM2 c.replayCounter m2 = some env.snonce := by
  have hsame : d.sameAnonce (a.m1 c).encode = false := by
    rw [sameAnonce, keyNonce_m1, decide_eq_false_iff_not]
    exact hnew
  have hpmk : (d.noteM1 (a.m1 c).encode).fPmkValid = true := h.pmkValid
  have hstep : d.handleEapolFrame (a.m1 c).encode a.aa env =
      ((d.noteM1 (a.m1 c).encode).derivePtk a.aa env.snonce).sendM2 a.aa env := by
    rw [handleEapolFrame, classify_m1 c hlen]
    show d.handleM1 _ _ _ = _
    simp only [handleM1, hsame, hpmk, not_true_eq_false, Bool.false_eq_true, ↓reduceIte]
  have hanonce : (d.noteM1 (a.m1 c).encode).fAnonce = a.aNonce := keyNonce_m1 c
  have hnote := associated_noteM1 h (a.m1 c).encode
  have hrc := keyReplayCounter_m1 (a := a) c
  rw [hstep]
  exact awaits_sendM2 (d := (d.noteM1 (a.m1 c).encode).derivePtk a.aa env.snonce) c
    (associated_derivePtk hnote env.snonce) hanonce rfl (holdsPtk_derivePtk hnote hanonce env.snonce)
    rfl hrc henv

/-- A repeated message 1: the replay counter is new, SNonce and PTK are not. -/
theorem awaits_repeatedM1 {env : Env} {sNonce : Buf 32} (h : Keyed a d sNonce)
    (hlen : (a.m1 c).encode.length ≤ 300) (henv : env.transmit = .ok) :
    Awaits a (d.handleEapolFrame (a.m1 c).encode a.aa env).1 sNonce ∧
      ∃ m2, replies a (d.handleEapolFrame (a.m1 c).encode a.aa env).2 = [m2] ∧
        a.acceptM2 c.replayCounter m2 = some sNonce := by
  have hsame : d.sameAnonce (a.m1 c).encode = true := by
    rw [sameAnonce, keyNonce_m1, decide_eq_true_iff]
    exact ⟨h.ptkValid, h.anonce⟩
  have hpmk : (d.noteM1 (a.m1 c).encode).fPmkValid = true := h.pmkValid
  have hstep : d.handleEapolFrame (a.m1 c).encode a.aa env =
      (d.noteM1 (a.m1 c).encode).sendM2 a.aa env := by
    rw [handleEapolFrame, classify_m1 c hlen]
    show d.handleM1 _ _ _ = _
    simp only [handleM1, hsame, hpmk, not_true_eq_false, ↓reduceIte]
  rw [hstep]
  exact awaits_sendM2 c (associated_noteM1 h.toAssociated _) (keyNonce_m1 c) h.snonce h.ptk h.ptkValid
    (keyReplayCounter_m1 c) henv

/-- A PTK that is in place for this ANonce is that of the authenticator. -/
def PtkFits (a : Authenticator) (d : Device) : Prop :=
  d.fPtkValid = true → d.fAnonce = a.aNonce → HoldsPtk a d d.fSnonce

theorem ptkFits_haikuJoinPsk (a : Authenticator) (d : Device) (bssid : Mac) {ssidLen passphraseLen : UInt8}
    (ssid : Buf 32) (passphrase : Buf 64) (env : Env)
    (h : (d.haikuJoinPsk bssid ssidLen ssid passphraseLen passphrase env).status ≠ .badValue) :
    PtkFits a (d.haikuJoinPsk bssid ssidLen ssid passphraseLen passphrase env).device := by
  have hjoin : ∀ (d : Device) (b : Mac) (s : Bytes) (n : Nat),
      (d.doJoin b s n env).device.fPtkValid = d.fPtkValid := by
    intro d b s n
    unfold doJoin
    dsimp only
    split
    · split <;> rfl
    · rfl
  intro hvalid
  unfold haikuJoinPsk at h hvalid
  split at h
  · exact absurd rfl h
  · rename_i hargs
    rw [if_neg hargs] at hvalid
    dsimp only at hvalid
    rw [hjoin, defaultRsnIe] at hvalid
    split at hvalid <;> cases hvalid

theorem awaits_m1 {env : Env} (h : Associated a d) (hfits : PtkFits a d)
    (hlen : (a.m1 c).encode.length ≤ 300) (henv : env.transmit = .ok) :
    ∃ sNonce, Awaits a (d.handleEapolFrame (a.m1 c).encode a.aa env).1 sNonce ∧
      ∃ m2, replies a (d.handleEapolFrame (a.m1 c).encode a.aa env).2 = [m2] ∧
        a.acceptM2 c.replayCounter m2 = some sNonce := by
  by_cases hsame : d.fPtkValid = true ∧ d.fAnonce = a.aNonce
  · exact ⟨d.fSnonce, awaits_repeatedM1 c ⟨h, hsame.2, rfl, hfits hsame.1 hsame.2, hsame.1⟩ hlen henv⟩
  · exact ⟨env.snonce, awaits_firstM1 c h hsame hlen henv⟩

end M1

/-! ## Message 3 and message 4 -/

section M3

variable {a : Authenticator} {d : Device} {sNonce : Buf 32} (c : M3Choice)

theorem length_padKeyData (b : Bytes) :
    (padKeyData b).length % 8 = 0 ∧ b.length ≤ (padKeyData b).length := by
  unfold padKeyData
  split
  · rename_i h
    exact ⟨h, Nat.le_refl _⟩
  · simp only [List.length_append, List.length_cons, List.length_nil, Bytes.length_zeros]
    omega

theorem keyData_m3 : (a.m3 sNonce c).keyData =
    aesWrap (a.ptk sNonce).kek (padKeyData (encodeElements (a.elements c))) := rfl

theorem classify_m3 (h : Awaits a d sNonce) (hlen : (a.m3 sNonce c).encode.length ≤ 300) :
    d.classify (a.m3 sNonce c).encode = some .m3 := by
  have hlength := (a.m3 sNonce c).length_encode
  have hbody := be16At_length hlen
  have htype : (a.m3 sNonce c).encode.at 1 = 3 := rfl
  have hinfo : keyInfoAt (a.m3 sNonce c).encode = 0x13CA :=
    keyInfoAt_eq (a.m3 sNonce c) (show Bytes.be 2 (0x13CA : UInt16).toNat = [0x13, 0xCA] by decide)
  unfold classify
  rw [if_neg (by omega), if_neg (not_not.mpr htype), if_neg (by omega), hinfo,
    if_neg (by decide), if_pos ⟨by decide, h.state, h.ptkValid⟩]

/-- The copy whose MIC field is zeroed is the frame the MIC is over. -/
theorem m3Copy_encode (k : EapolKey) (stack : Bytes) (env : Env) (h : k.encode.length ≤ 300) :
    (m3Copy (k.encode ++ stack) k.encode.length env).1.bytes.take k.encode.length =
        { k with mic := Buf.zero 16 }.encode ∧
      (m3Copy (k.encode ++ stack) k.encode.length env).2 = k.mic.bytes := by
  have hlength := k.length_encode
  obtain ⟨rest, hcopy⟩ : ∃ rest, (env.m3copy.copyAt 0 k.encode).bytes = k.encode ++ rest := by
    have hbytes := Buf.bytes_copyAt env.m3copy (show 0 + k.encode.length ≤ 300 by omega)
    rw [List.take_zero, List.nil_append] at hbytes
    exact ⟨_, hbytes⟩
  have htake : (env.m3copy.copyAt 0 k.encode).bytes.take 81 = k.head := by
    rw [hcopy, EapolKey.encode, List.append_assoc, List.take_left' k.length_head]
  have hdrop : (env.m3copy.copyAt 0 k.encode).bytes.drop (81 + (Bytes.zeros 16).length) =
      k.tail ++ rest := by
    rw [hcopy, EapolKey.encode, ← List.append_assoc k.head, List.append_assoc]
    exact List.drop_left' (by rw [List.length_append, k.length_head, Buf.length_eq]; rfl)
  have hzeroed : ((env.m3copy.copyAt 0 k.encode).copyAt 81 (Bytes.zeros 16)).bytes =
      { k with mic := Buf.zero 16 }.encode ++ rest := by
    rw [Buf.bytes_copyAt _ (show 81 + (Bytes.zeros 16).length ≤ 300 by decide), htake, hdrop]
    simp only [EapolKey.encode, List.append_assoc]
    rfl
  simp only [m3Copy, List.take_left' (rfl : k.encode.length = k.encode.length)]
  constructor
  · rw [hzeroed, List.take_left']
    exact (EapolKey.length_encode _).trans hlength.symm
  · rw [hcopy]
    exact k.slice_mic rest

/-- A frame with its MIC under the KCK, and key data wrapped under the KEK, yields its GTK. -/
theorem verifyM3_signed {k : EapolKey} {gtk : Block} {keyId : Fin 4} {tx : Bool}
    {before after : List Element} (rest : Bytes) (env : Env) (hlen : k.encode.length ≤ 300)
    (hmic : eapolMic d.kck { k with mic := Buf.zero 16 }.encode = k.mic.bytes)
    (hothers : ∀ e ∈ before ++ after, ¬ e.IsGtkKde)
    (hdata : k.keyData =
      aesWrap d.kek (padKeyData (encodeElements (gtkElements gtk keyId tx before after)))) :
    d.verifyM3 (k.encode ++ rest) (be16At k.encode 2) (be16At k.encode 97) env =
      some { gtkKey := gtk.bytes, gtkKeyId := UInt8.ofNat keyId.val } := by
  obtain ⟨hcopy, hreceived⟩ := m3Copy_encode k rest env hlen
  have hlength := k.length_encode
  obtain ⟨hpad, hle⟩ := length_padKeyData (encodeElements (gtkElements gtk keyId tx before after))
  have helements := length_gtkElements gtk keyId tx before after
  have hwrapped := length_aesWrap d.kek hpad
  rw [← hdata] at hwrapped
  have hunwrap := aesUnwrap_aesWrap d.kek hpad (by omega)
  have hslice := k.slice_keyData rest
  have hpadded : Bytes.pad k.keyData.length k.keyData = k.keyData :=
    Bytes.pad_of_le (Nat.le_refl _)
  unfold verifyM3
  simp only [be16At_length hlen, be16At_keyDataLength hlen]
  rw [if_neg (by omega), hcopy, hreceived, if_neg (not_not.mpr hmic.symm), if_neg (by omega), hslice,
    hpadded, hdata, hunwrap]
  simp only [kdeWalk_gtkElements gtk keyId tx hothers, Buf.length_eq]
  rfl

theorem verifyM3_m3 (h : Awaits a d sNonce) (env : Env)
    (hlen : (a.m3 sNonce c).encode.length ≤ 300) :
    d.verifyM3 ((a.m3 sNonce c).encode ++ env.stack) (be16At (a.m3 sNonce c).encode 2)
        (be16At (a.m3 sNonce c).encode 97) env =
      some { gtkKey := a.gtk.bytes, gtkKeyId := UInt8.ofNat a.gtkKeyId.val } := by
  have hmic : eapolMic d.kck { a.m3 sNonce c with mic := Buf.zero 16 }.encode =
      (a.m3 sNonce c).mic.bytes := by
    rw [eapolMic, h.ptk.kck, hmacSha1_eq]
    exact (EapolKey.micUnder_sign _ _).symm
  have hdata : (a.m3 sNonce c).keyData = _ := keyData_m3 c
  rw [← h.ptk.kek, elements_eq] at hdata
  exact verifyM3_signed env.stack env hlen hmic c.others hdata

theorem acceptM4_buildM4 {ptk : Ptk} (h : d.kck = ptk.kck.bytes) (replayCounter : Buf 8) :
    Authenticator.acceptM4 ptk replayCounter (d.buildM4 replayCounter.bytes) = true := by
  have hbuild : d.buildM4 replayCounter.bytes =
      ((stationKey 0x030A replayCounter (Buf.zero 32) []).sign ptk.kck).encode := by
    rw [buildM4, h]
    exact signedKeyFrame_eq _ 0x030A replayCounter (Buf.zero 32) []
  rw [Authenticator.acceptM4, hbuild, decode_sign_stationKey _ _ _ _ (by decide)]
  exact decide_eq_true ⟨rfl, rfl, rfl, EapolKey.micUnder_sign _ _⟩

/-- How a handshake ends: message 4 checks, and both sides hold the same keys. -/
structure Completes (a : Authenticator) (sNonce : Buf 32) (c : M3Choice)
    (r : Device × List Action) : Prop where
  m4 : ∃ m4, replies a r.2 = [m4] ∧
    Authenticator.acceptM4 (a.ptk sNonce) c.replayCounter m4 = true
  done : r.1.fEapolState = .kEapolDone
  enabled : r.1.fCcmpEnabled = true
  tk : r.1.tk = (a.ptk sNonce).tk
  gtk : r.1.fGtk = a.gtk
  gtkKeyId : r.1.fGtkKeyId = UInt8.ofNat a.gtkKeyId.val

theorem installSessionKeys_gtk {env : Env} (gtk : Block) (keyId : Fin 4)
    (h : env.registers = .ok) :
    installSessionKeys { gtkKey := gtk.bytes, gtkKeyId := UInt8.ofNat keyId.val } env = .ok := by
  have hid : ¬ UInt8.ofNat keyId.val > 3 := by
    revert keyId
    decide
  unfold installSessionKeys
  rw [if_neg (by simp), if_neg hid, h]

theorem handleEapolFrame_m3 {env : Env} (h : Awaits a d sNonce)
    (hlen : (a.m3 sNonce c).encode.length ≤ 300) (htransmit : env.transmit = .ok)
    (hregisters : env.registers = .ok) :
    d.handleEapolFrame (a.m3 sNonce c).encode a.aa env =
      ((d.acceptKeys { gtkKey := a.gtk.bytes, gtkKeyId := UInt8.ofNat a.gtkKeyId.val }).setEapolState
          .kEapolDone,
        [.transmitEapol (d.wireFrame a.aa (d.buildM4 c.replayCounter.bytes)), .installKeys d.tk]) := by
  have hrc : ((a.m3 sNonce c).encode ++ env.stack).slice 9 8 = c.replayCounter.bytes :=
    (a.m3 sNonce c).slice_replayCounter env.stack
  have hm4 : (d.buildM4 c.replayCounter.bytes).length ≤ 256 := by
    have h99 := d.length_buildM4 ((a.m3 sNonce c).encode ++ env.stack)
    rw [hrc] at h99
    omega
  have hinstall := installSessionKeys_gtk a.gtk a.gtkKeyId hregisters
  rw [handleEapolFrame, classify_m3 c h hlen]
  show d.handleM3 _ _ _ _ _ = _
  rw [handleM3, verifyM3_m3 c h env hlen]
  show d.finishM3 _ _ _ _ = _
  simp only [finishM3, hrc, txEapolDataFrame_eq hm4, htransmit, hinstall, ne_eq, not_true_eq_false,
    ↓reduceIte, List.cons_append, List.nil_append]

theorem completes_m3 {env : Env} (h : Awaits a d sNonce)
    (hlen : (a.m3 sNonce c).encode.length ≤ 300) (htransmit : env.transmit = .ok)
    (hregisters : env.registers = .ok) :
    Completes a sNonce c (d.handleEapolFrame (a.m3 sNonce c).encode a.aa env) := by
  rw [handleEapolFrame_m3 c h hlen htransmit hregisters]
  refine ⟨⟨_, ?_, acceptM4_buildM4 h.ptk.kck c.replayCounter⟩, rfl, rfl, h.ptk.tk, ?_, rfl⟩
  · simp only [replies, List.filterMap_cons, List.filterMap_nil, receive_wireFrame h.aa h.spa]
  · apply Buf.ext
    have hgtk : a.gtk.bytes.take 16 = a.gtk.bytes := List.take_of_length_le (by simp)
    show (d.fGtk.copyAt 0 (a.gtk.bytes.take 16)).bytes = _
    rw [hgtk, Buf.bytes_fill _ (by simp), List.take_zero, List.nil_append]

end M3

/-! ## The handshake -/

/-- The device, and the messages 2 the authenticator has got with the replay counters they answer. -/
structure Session where
  device : Device
  m2s : List (Buf 8 × Bytes)

def exchangeM1 (a : Authenticator) (s : Session) (x : M1Choice × Env) : Session :=
  let r := s.device.handleEapolFrame (a.m1 x.1).encode a.aa x.2
  { device := r.1, m2s := s.m2s ++ (replies a r.2).map fun m2 => (x.1.replayCounter, m2) }

def exchangeM1s (a : Authenticator) (d : Device) (m1s : List (M1Choice × Env)) : Session :=
  m1s.foldl (exchangeM1 a) { device := d, m2s := [] }

/-- Every message 1 so far is answered by a message 2 with its replay counter that checks. -/
structure Answered (a : Authenticator) (sNonce : Buf 32) (m1s : List (M1Choice × Env))
    (s : Session) : Prop where
  counters : s.m2s.map Prod.fst = m1s.map fun x => x.1.replayCounter
  accepted : ∀ x ∈ s.m2s, a.acceptM2 x.1 x.2 = some sNonce

theorem answered_exchangeM1 {a : Authenticator} {s : Session} {sNonce : Buf 32}
    {m1s : List (M1Choice × Env)} {x : M1Choice × Env} (h : Answered a sNonce m1s s)
    (hm2 : ∃ m2, replies a (s.device.handleEapolFrame (a.m1 x.1).encode a.aa x.2).2 = [m2] ∧
      a.acceptM2 x.1.replayCounter m2 = some sNonce) :
    Answered a sNonce (m1s ++ [x]) (exchangeM1 a s x) := by
  obtain ⟨m2, hreply, haccept⟩ := hm2
  constructor
  · simp only [exchangeM1, hreply, List.map_append, List.map_cons, List.map_nil, h.counters]
  · intro y hy
    simp only [exchangeM1, hreply, List.map_cons, List.map_nil, List.mem_append,
      List.mem_singleton] at hy
    rcases hy with hy | rfl
    · exact h.accepted y hy
    · exact haccept

/-- A message 1 of at most 300 bytes, answered over a working link. -/
def M1Delivered (a : Authenticator) (x : M1Choice × Env) : Prop :=
  (a.m1 x.1).encode.length ≤ 300 ∧ x.2.transmit = .ok

theorem awaits_repeatedM1s {a : Authenticator} {sNonce : Buf 32} {before m1s : List (M1Choice × Env)}
    {s : Session} (h : Awaits a s.device sNonce) (ha : Answered a sNonce before s)
    (hm1s : ∀ x ∈ m1s, M1Delivered a x) :
    Awaits a (m1s.foldl (exchangeM1 a) s).device sNonce ∧
      Answered a sNonce (before ++ m1s) (m1s.foldl (exchangeM1 a) s) := by
  induction m1s generalizing before s with
  | nil => exact ⟨h, by rwa [List.append_nil]⟩
  | cons x m1s ih =>
    have hx := hm1s x List.mem_cons_self
    obtain ⟨hawaits, hm2⟩ := awaits_repeatedM1 x.1 h.toKeyed hx.1 hx.2
    have hrest := ih hawaits (answered_exchangeM1 ha hm2) fun y hy => hm1s y (List.mem_cons_of_mem x hy)
    rw [List.append_assoc] at hrest
    exact hrest

theorem awaits_exchangeM1s {a : Authenticator} {d : Device} (h : Associated a d)
    (hfits : PtkFits a d) {x : M1Choice × Env} {m1s : List (M1Choice × Env)}
    (hm1s : ∀ y ∈ x :: m1s, M1Delivered a y) :
    ∃ sNonce, Awaits a (exchangeM1s a d (x :: m1s)).device sNonce ∧
      Answered a sNonce (x :: m1s) (exchangeM1s a d (x :: m1s)) := by
  have hx := hm1s x List.mem_cons_self
  obtain ⟨sNonce, hawaits, hm2⟩ := awaits_m1 x.1 h hfits hx.1 hx.2
  have hstart : Answered a sNonce [] { device := d, m2s := [] } := ⟨rfl, by simp⟩
  exact ⟨sNonce, awaits_repeatedM1s hawaits (answered_exchangeM1 hstart hm2) fun y hy =>
    hm1s y (List.mem_cons_of_mem x hy)⟩

/-- Every message 1 is answered, every answer checks, and a message 3 made from any of them
completes the handshake. -/
structure Agreement (a : Authenticator) (m1s : List (M1Choice × Env)) (s : Session) : Prop where
  counters : s.m2s.map Prod.fst = m1s.map fun x => x.1.replayCounter
  accepted : ∀ x ∈ s.m2s, (a.acceptM2 x.1 x.2).isSome = true
  completes : ∀ x ∈ s.m2s, ∀ sNonce, a.acceptM2 x.1 x.2 = some sNonce →
    ∀ c env, (a.m3 sNonce c).encode.length ≤ 300 → env.transmit = .ok → env.registers = .ok →
      Completes a sNonce c (s.device.handleEapolFrame (a.m3 sNonce c).encode a.aa env)

theorem handshake_agreement {a : Authenticator} {d : Device} {m1s : List (M1Choice × Env)}
    (h : Associated a d) (hfits : PtkFits a d)
    (hm1s : ∀ x ∈ m1s, M1Delivered a x) : Agreement a m1s (exchangeM1s a d m1s) := by
  cases m1s with
  | nil => exact ⟨rfl, by simp [exchangeM1s], by simp [exchangeM1s]⟩
  | cons x m1s =>
    obtain ⟨sNonce, hawaits, hanswered⟩ := awaits_exchangeM1s h hfits hm1s
    refine ⟨hanswered.counters, ?_, ?_⟩
    · intro y hy
      rw [hanswered.accepted y hy]
      rfl
    · intro y hy _ hs c env hlen htransmit hregisters
      rw [hanswered.accepted y hy] at hs
      obtain rfl := Option.some.inj hs
      exact completes_m3 c hawaits hlen htransmit hregisters

def sampleAuthenticator : Authenticator where
  pmk := Buf.ofBytes 32 [1, 2, 3]
  aa := Buf.ofBytes 6 [2, 0, 0, 0, 0, 1]
  spa := Buf.ofBytes 6 [2, 0, 0, 0, 0, 2]
  aNonce := Buf.ofBytes 32 [4, 5, 6]
  gtk := Buf.ofBytes 16 [7, 8, 9]
  gtkKeyId := 1
  rsnIe := sRsnIeCcmpPsk

def sampleStation : Device :=
  { init (Buf.ofBytes 6 [2, 0, 0, 0, 0, 2]) with
    fPmk := Buf.ofBytes 32 [1, 2, 3]
    fPmkValid := true
    fJoinBssid := Buf.ofBytes 6 [2, 0, 0, 0, 0, 1]
    fWpaIe := Buf.ofBytes 256 sRsnIeCcmpPsk
    fWpaIeLength := 22
    fEapolState := .kEapolWaitM1 }

def sampleM1s : List (M1Choice × Env) :=
  [1, 2].map fun counter =>
    ({ version := 2, replayCounter := Buf.ofBytes 8 (Bytes.be 8 counter), keyData := [] },
      { transmit := .ok, registers := .ok, snonce := Buf.ofBytes 32 [10, 11, UInt8.ofNat counter],
        bss := none, is5GHz := false, stack := [], m3copy := Buf.zero 300 })

theorem handshake_agreement_retransmission :
    (exchangeM1s sampleAuthenticator sampleStation sampleM1s).m2s.length = 2 ∧
      Agreement sampleAuthenticator sampleM1s
        (exchangeM1s sampleAuthenticator sampleStation sampleM1s) := by
  have hm1s : ∀ x ∈ sampleM1s, M1Delivered sampleAuthenticator x := by
    intro x hx
    simp only [sampleM1s, List.map_cons, List.map_nil, List.mem_cons, List.not_mem_nil,
      or_false] at hx
    rcases hx with rfl | rfl
    · exact ⟨by decide, rfl⟩
    · exact ⟨by decide, rfl⟩
  have hagree := handshake_agreement (a := sampleAuthenticator) (d := sampleStation)
    ⟨rfl, rfl, rfl, rfl, by decide, by decide⟩ (fun hvalid => by cases hvalid) hm1s
  have hcount := congrArg List.length hagree.counters
  rw [List.length_map, List.length_map] at hcount
  exact ⟨hcount, hagree⟩

end Device
end Rtl8814au
