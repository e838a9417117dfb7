import Rtl8814au.Device.Delivery

/-!
# Device.Retransmission

Message 3, however often it comes.

* `AuthenticM3`: an EAPOL-Key frame with the bits of a message 3, its MIC under the PTK of the
  device, and a GTK KDE among the elements its key data unwraps to.
* `AnswersM3`: a message 4 with its replay counter and a MIC under the same PTK is sent.
* `verifyM3_authentic`: such a frame passes every check behind the state guard.
* `m3_answered_iff`: so it is answered exactly in `kEapolWaitM3`.
-/

namespace Rtl8814au
namespace Device

open Crypto Spec

/-! ## Messages and answers -/

/-- The keys in `fPtk`. -/
def currentPtk (d : Device) : Ptk where
  kck := ⟨d.kck, by simp [kck]⟩
  kek := d.kek
  tk := d.tk

/-- With `trailing` bytes behind the EAPOL body, as they come from the air. -/
structure AuthenticM3 (d : Device) (k : EapolKey) (trailing : Bytes) : Prop where
  pairwise : k.keyInfo &&& 0x0008 ≠ 0
  ack : k.keyInfo &&& 0x0080 ≠ 0
  micSet : k.keyInfo &&& 0x0100 ≠ 0
  install : k.keyInfo &&& 0x0040 ≠ 0
  mic : k.mic.bytes = k.micUnder d.currentPtk.kck
  keyData : ∃ gtk keyId tx before after, (∀ e ∈ before ++ after, ¬ e.IsGtkKde) ∧
    k.keyData = aesWrap d.kek (padKeyData (encodeElements (gtkElements gtk keyId tx before after)))
  fits : k.encode.length + trailing.length ≤ 300

/-- A message 4 to the sender that the authenticator accepts for this message 3. -/
def AnswersM3 (d : Device) (k : EapolKey) (trailing : Bytes) (senderMac : Mac) (env : Env) : Prop :=
  ∃ m4, .transmitEapol (d.wireFrame senderMac m4) ∈
      (d.handleEapolFrame (k.encode ++ trailing) senderMac env).2 ∧
    Authenticator.acceptM4 d.currentPtk k.replayCounter m4 = true

/-! ## The checks of message 3 -/

theorem keyInfo_bytes (x : UInt16) :
    ((x >>> 8).toUInt8.toUInt16 <<< 8) ||| x.toUInt8.toUInt16 = x := by
  have hlt := x.toNat_lt
  apply UInt16.toNat_inj.mp
  have hlow : x.toNat % 2 ^ 8 < 2 ^ 8 := Nat.mod_lt _ (by decide)
  have hhigh : x.toNat / 2 ^ 8 < 2 ^ 8 := by omega
  simp only [UInt16.toNat_or, UInt16.toNat_shiftLeft, UInt8.toNat_toUInt16, UInt16.toNat_toUInt8,
    UInt16.toNat_shiftRight, show (8 : UInt16).toNat % 16 = 8 from rfl, Nat.shiftRight_eq_div_pow,
    Nat.mod_eq_of_lt hhigh]
  have hshift : (x.toNat / 2 ^ 8) <<< 8 % 2 ^ 16 = (x.toNat / 2 ^ 8) <<< 8 := by
    rw [Nat.shiftLeft_eq]
    exact Nat.mod_eq_of_lt (by omega)
  rw [hshift, ← Nat.shiftLeft_add_eq_or_of_lt hlow, Nat.shiftLeft_eq]
  omega

section Fields

variable {k : EapolKey} (trailing : Bytes)

theorem be16At_append {b : Bytes} {i : Nat} (h : i + 2 ≤ b.length) :
    be16At (b ++ trailing) i = be16At b i := by
  unfold be16At
  rw [Bytes.at_append_left (by omega), Bytes.at_append_left (by omega)]

theorem keyInfoAt_append : keyInfoAt (k.encode ++ trailing) = k.keyInfo := by
  have hlen := k.length_encode
  have hinfo := keyInfoAt_eq k (be_keyInfo k.keyInfo)
  rw [keyInfo_bytes] at hinfo
  rw [← hinfo, keyInfoAt, keyInfoAt, etherTypeAt, etherTypeAt, Bytes.at_append_left (by omega),
    Bytes.at_append_left (by omega)]

end Fields

section Authentic

variable {d : Device} {k : EapolKey} {trailing : Bytes}

/-- All that is left to the guard is the state. -/
theorem classify_authentic (h : AuthenticM3 d k trailing) (hvalid : d.fPtkValid = true) :
    d.classify (k.encode ++ trailing) =
      if d.fEapolState = .kEapolWaitM3 then some .m3 else none := by
  have hlen := k.length_encode
  have hfits := h.fits
  have hbody := be16At_length (k := k) (by omega)
  have htotal : (k.encode ++ trailing).length = k.encode.length + trailing.length :=
    List.length_append
  have htype : (k.encode ++ trailing).at 1 = 3 := rfl
  have hm1 : isM1 k.keyInfo = false := decide_eq_false fun hm1 => h.micSet hm1.2.2.1
  have hm3 : isM3 k.keyInfo = true := decide_eq_true ⟨h.pairwise, h.ack, h.micSet, h.install⟩
  unfold classify
  rw [if_neg (by omega), if_neg (not_not.mpr htype),
    if_neg (by rw [be16At_append trailing (by omega)]; omega), keyInfoAt_append, hm1,
    if_neg (by decide), hm3]
  simp only [hvalid, and_true, true_and]

theorem verifyM3_authentic (h : AuthenticM3 d k trailing) (env : Env) :
    ∃ gtk, d.verifyM3 (k.encode ++ trailing ++ env.stack) (be16At (k.encode ++ trailing) 2)
      (be16At (k.encode ++ trailing) 97) env = some gtk := by
  obtain ⟨gtk, keyId, tx, before, after, hothers, hdata⟩ := h.keyData
  have hlen := k.length_encode
  have hfits := h.fits
  have hmic : eapolMic d.kck { k with mic := Buf.zero 16 }.encode = k.mic.bytes := by
    rw [eapolMic, hmacSha1_eq]
    exact h.mic.symm
  refine ⟨{ gtkKey := gtk.bytes, gtkKeyId := UInt8.ofNat keyId.val }, ?_⟩
  rw [be16At_append trailing (by omega), be16At_append trailing (by omega), List.append_assoc]
  exact verifyM3_signed (trailing ++ env.stack) env (by omega) hmic hothers hdata

/-- Past the guard, message 4 is sent whatever becomes of the keys. -/
theorem handleM3_answers (h : AuthenticM3 d k trailing) {senderMac : Mac} {env : Env}
    (htransmit : env.transmit = .ok) :
    .transmitEapol (d.wireFrame senderMac (d.buildM4 k.replayCounter.bytes)) ∈
      (d.handleM3 (k.encode ++ trailing ++ env.stack) (be16At (k.encode ++ trailing) 2)
        (be16At (k.encode ++ trailing) 97) senderMac env).2 := by
  obtain ⟨gtk, hverify⟩ := verifyM3_authentic h env
  have hrc : (k.encode ++ trailing ++ env.stack).slice 9 8 = k.replayCounter.bytes := by
    rw [List.append_assoc]
    exact k.slice_replayCounter _
  have hm4 : (d.buildM4 k.replayCounter.bytes).length ≤ 256 := by
    have h99 := d.length_buildM4 (k.encode ++ trailing ++ env.stack)
    rw [hrc] at h99
    omega
  unfold handleM3
  rw [hverify]
  show _ ∈ (d.finishM3 _ _ _ _).2
  simp only [finishM3, hrc, txEapolDataFrame_eq hm4, htransmit, ne_eq, not_true_eq_false,
    ↓reduceIte]
  split
  · exact List.mem_cons_self
  · exact List.mem_cons_self

theorem m3_answered_iff {senderMac : Mac} {env : Env} (h : AuthenticM3 d k trailing)
    (hvalid : d.fPtkValid = true) (htransmit : env.transmit = .ok) :
    d.AnswersM3 k trailing senderMac env ↔ d.fEapolState = .kEapolWaitM3 := by
  have hclassify := classify_authentic h hvalid
  constructor
  · rintro ⟨m4, hmem, -⟩
    by_contra hstate
    rw [if_neg hstate] at hclassify
    rw [handleEapolFrame, hclassify] at hmem
    cases hmem
  · intro hstate
    rw [if_pos hstate] at hclassify
    refine ⟨d.buildM4 k.replayCounter.bytes, ?_, acceptM4_buildM4 rfl k.replayCounter⟩
    rw [handleEapolFrame, hclassify]
    exact handleM3_answers h htransmit

end Authentic

/-- Such frames are what the authenticator sends to a station with its PTK. -/
theorem authenticM3_m3 {a : Authenticator} {d : Device} {sNonce : Buf 32} {c : M3Choice}
    {trailing : Bytes} (h : HoldsPtk a d sNonce)
    (hlen : (a.m3 sNonce c).encode.length + trailing.length ≤ 300) :
    AuthenticM3 d (a.m3 sNonce c) trailing := by
  have hkck : d.currentPtk.kck = (a.ptk sNonce).kck := Buf.ext h.kck
  have hinfo : ∀ bit : UInt16, (0x13CA : UInt16) &&& bit ≠ 0 →
      (a.m3 sNonce c).keyInfo &&& bit ≠ 0 := fun _ h => h
  refine ⟨hinfo _ (by decide), hinfo _ (by decide), hinfo _ (by decide), hinfo _ (by decide), ?_,
    ?_, hlen⟩
  · rw [hkck]
    exact EapolKey.micUnder_sign _ _
  · refine ⟨a.gtk, a.gtkKeyId, c.tx, c.before, c.after, c.others, ?_⟩
    rw [h.kek, ← elements_eq]
    exact keyData_m3 c

end Device

namespace System

open Device Spec

theorem m3_answered_iff_sampleAwaits : ∃ s, Lts.run next (init sampleMac) sampleAwaits = some s ∧
    s.device.fEapolState = .kEapolWaitM3 ∧
      (s.device.AnswersM3 (sampleAp.m3 sampleEnv.snonce sampleM3Choice) [0, 0] sampleBssid
        sampleEnv ↔ s.device.fEapolState = .kEapolWaitM3) := by
  obtain ⟨s, hs, hawaits, -, -⟩ := run_sampleM1
  exact ⟨s, hs, hawaits.state, m3_answered_iff
    (authenticM3_m3 hawaits.ptk (by rw [length_m3 rfl rfl]; decide)) hawaits.ptkValid rfl⟩

/-- The access point did not get message 4. -/
def sampleM3Again : M3Choice := { sampleM3Choice with replayCounter := Buf.ofBytes 8 [3] }

theorem m3_answered_iff_lostM4 :
    ¬ ∀ mac es s, Lts.run next (init mac) es = some s →
      s.device.fEapolState = .kEapolWaitM3 ∨ s.device.fEapolState = .kEapolDone →
      s.device.fPtkValid = true → ∀ k trailing senderMac env, AuthenticM3 s.device k trailing →
        env.transmit = .ok → s.device.AnswersM3 k trailing senderMac env := by
  intro hclaim
  obtain ⟨s, hs, hkeyed, hdone, -⟩ := run_sampleHandshake sampleEnv rfl
  have hm3 : AuthenticM3 s.device (sampleAp.m3 sampleEnv.snonce sampleM3Again) [] :=
    authenticM3_m3 hkeyed.ptk (by rw [length_m3 rfl rfl]; decide)
  obtain ⟨m4, hmem, -⟩ := hclaim _ _ s hs (.inr hdone) hkeyed.ptkValid _ [] sampleBssid sampleEnv hm3
    rfl
  have hignored := classify_authentic hm3 hkeyed.ptkValid
  rw [hdone, if_neg (by decide)] at hignored
  rw [handleEapolFrame, hignored] at hmem
  cases hmem

end System
end Rtl8814au
