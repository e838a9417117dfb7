import Rtl8814au.Device.AssocRequest
import Rtl8814au.Device.Handshake

/-!
# Device.RsnIe

The RSN IE as the access point gets to see it: once in the association request, and once more in the
key data of message 2, which it compares with the first.

* `LastRequest`, `noteActions` — the history: the association request of the exchange that the last
  authentication request began, and the IE that was stored when it was built.
* `SameIe`     — a message 2 carries the IE of that request.
* `IeUntouched` — when a message 1 is answered, the stored IE is still that one.
* `rsn_ie_run` — over every run the two are the same.
-/

namespace Rtl8814au

open Crypto Spec

structure LastRequest where
  frame : Bytes
  stored : Bytes
deriving DecidableEq

namespace Device

def storedIe (d : Device) : Bytes := d.fWpaIe.bytes.take d.fWpaIeLength

/-- What follows the supported rates, up to the extended ones of a 2.4 GHz request. -/
def requestIe (frame : Bytes) : Bytes :=
  let ssidLen := (frame.at 29).toNat
  let rest := frame.drop (40 + ssidLen)
  if frame.slice (32 + ssidLen) 8 = supportedRates true then rest else rest.take (rest.length - 6)

/-- A frame on the air begins an exchange, or asks for the association. -/
def noteAction (stored : Bytes) (h : Option LastRequest) : Action → Option LastRequest
  | .transmitAuthRequest _ => none
  | .transmitAssocRequest frame _ => some { frame := frame, stored := stored }
  | _ => h

def noteActions (d : Device) (actions : List Action) (h : Option LastRequest) :
    Option LastRequest := actions.foldl (noteAction d.storedIe) h

/-! ## The IE in the association request -/

theorem length_storedIe (d : Device) : d.storedIe.length = min d.fWpaIeLength 256 := by
  rw [storedIe, List.length_take, Buf.length_eq]

theorem requestIe_assocRequest {d : Device} (is5GHz : Bool) (h32 : d.fJoinSsidLength ≤ 32) :
    requestIe (d.assocRequest is5GHz) = if d.haveRsnIe is5GHz then d.storedIe else [] := by
  have hhead := length_assocRequestHead (d := d) is5GHz (Nat.le_succ_of_le h32)
  have hssid : (d.fJoinSsid.bytes.take d.fJoinSsidLength).length = d.fJoinSsidLength := by
    rw [List.length_take, Buf.length_eq]
    omega
  have hrates : (supportedRates is5GHz).length = 8 := by
    cases is5GHz
    · rfl
    · rfl
  generalize hie : (if d.haveRsnIe is5GHz then d.storedIe else []) = ie
  -- The frame up to the SSID length, to the rates, and behind the rates.
  obtain ⟨lead, hlead, hsplit⟩ : ∃ lead : Bytes, lead.length = 29 ∧ d.assocRequestHead is5GHz =
      lead ++ (UInt8.ofNat d.fJoinSsidLength :: (d.fJoinSsid.bytes.take d.fJoinSsidLength ++
        ([1, 8] ++ supportedRates is5GHz))) := by
    refine ⟨d.managementHeader 0x00 ++ [d.capabilityInfo, 0x00, 0x14, 0x00, 0], ?_, ?_⟩
    · simp [managementHeader, nextSeqBytes]
    · simp [assocRequestHead]
  have hframe : d.assocRequest is5GHz = d.assocRequestHead is5GHz ++ (ie ++
      if is5GHz then [] else [50, 4, 0x30, 0x48, 0x60, 0x6C]) := by
    rw [← hie, ← List.append_assoc]
    rfl
  have hn : ((d.assocRequest is5GHz).at 29).toNat = d.fJoinSsidLength := by
    rw [hframe, hsplit, List.append_assoc, Bytes.at_append_right (Nat.le_of_eq hlead), hlead]
    show (UInt8.ofNat d.fJoinSsidLength).toNat = d.fJoinSsidLength
    rw [UInt8.toNat_ofNat', Nat.mod_eq_of_lt (by omega)]
  have hband : (d.assocRequest is5GHz).slice (32 + d.fJoinSsidLength) 8 =
      supportedRates is5GHz := by
    have hpre : (lead ++ (UInt8.ofNat d.fJoinSsidLength ::
        (d.fJoinSsid.bytes.take d.fJoinSsidLength ++ [1, 8]))).length =
        32 + d.fJoinSsidLength := by
      rw [List.length_append, List.length_cons, List.length_append, hlead, hssid]
      simp
      omega
    have hshape : d.assocRequest is5GHz = (lead ++ (UInt8.ofNat d.fJoinSsidLength ::
        (d.fJoinSsid.bytes.take d.fJoinSsidLength ++ [1, 8]))) ++ (supportedRates is5GHz ++ (ie ++
          if is5GHz then [] else [50, 4, 0x30, 0x48, 0x60, 0x6C])) := by
      rw [hframe, hsplit]
      simp
    rw [hshape]
    exact Bytes.slice_append_mid hpre hrates
  have hrest : (d.assocRequest is5GHz).drop (40 + d.fJoinSsidLength) =
      ie ++ if is5GHz then [] else [50, 4, 0x30, 0x48, 0x60, 0x6C] := by
    rw [hframe]
    exact List.drop_left' hhead
  unfold requestIe
  simp only [hn, hband, hrest]
  cases is5GHz with
  | true =>
    rw [if_pos rfl]
    exact List.append_nil _
  | false =>
    rw [if_neg (by decide), List.length_append]
    exact List.take_left' (by simp)

/-- The request carries what is stored, unless that is too long for a message 2. -/
theorem requestIe_stored {d : Device} (is5GHz : Bool) (h32 : d.fJoinSsidLength ≤ 32) :
    requestIe (d.assocRequest is5GHz) = d.storedIe ∨
      requestIe (d.assocRequest is5GHz) = [] ∧ 80 < d.storedIe.length := by
  have hhead := length_assocRequestHead (d := d) is5GHz (Nat.le_succ_of_le h32)
  have hlen := d.length_storedIe
  rw [requestIe_assocRequest is5GHz h32]
  by_cases hhave : d.haveRsnIe is5GHz = true
  · rw [if_pos hhave]
    exact .inl rfl
  rw [if_neg hhave]
  by_cases hzero : d.fWpaIeLength = 0
  · refine .inl (List.eq_nil_of_length_eq_zero ?_).symm
    omega
  · have hroom : ¬ (d.assocRequestHead is5GHz).length + d.fWpaIeLength + 6 ≤ 256 := fun hle =>
      hhave (decide_eq_true ⟨by omega, hle⟩)
    exact .inr ⟨rfl, by omega⟩

/-! ## The IE in message 2 -/

/-- A message 1 that is answered. -/
structure AnswersM1 (d : Device) : Prop where
  wakes : d.Wakes
  isM1 : d.classify d.inboxPayload = some .m1
  pmkValid : d.fPmkValid = true
  stored : d.fWpaIeLength ≠ 0
  fits : d.fWpaIeLength ≤ 80

instance (d : Device) : Decidable d.AnswersM1 :=
  decidable_of_iff (d.Wakes ∧ d.classify d.inboxPayload = some .m1 ∧ d.fPmkValid = true ∧
      d.fWpaIeLength ≠ 0 ∧ d.fWpaIeLength ≤ 80)
    ⟨fun ⟨h1, h2, h3, h4, h5⟩ => ⟨h1, h2, h3, h4, h5⟩,
      fun ⟨h1, h2, h3, h4, h5⟩ => ⟨h1, h2, h3, h4, h5⟩⟩

/-- What the worker transmits. -/
inductive WorkerActions (d : Device) : List Action → Prop where
  | silent (h : ¬ d.AnswersM1) : WorkerActions d []
  | m2 (d1 : Device) (h : d.AnswersM1) (hie : d1.storedIe = d.storedIe) :
      WorkerActions d [.transmitEapol (d1.wireFrame d.fEapolInbox.senderMac d1.buildM2)]
  | m4 (d1 : Device) (replayCounter : Buf 8) (rest : List Action) (h : ¬ d.AnswersM1)
      (hrest : rest = [] ∨ ∃ tk, rest = [.installKeys tk]) :
      WorkerActions d
        (.transmitEapol (d1.wireFrame d.fEapolInbox.senderMac (d1.buildM4 replayCounter.bytes)) ::
          rest)

theorem classify_length {d : Device} {payload : Bytes} {message : EapolMessage}
    (h : d.classify payload = some message) : 99 ≤ payload.length := by
  unfold classify at h
  split at h
  · cases h
  · rename_i hlen
    exact Nat.not_lt.mp hlen

theorem sendM2_actions {d d1 : Device} (env : Env) (hw : d.Wakes)
    (hc : d.classify d.inboxPayload = some .m1) (hpmk : d.fPmkValid = true)
    (hie : d1.fWpaIe = d.fWpaIe) (hlen : d1.fWpaIeLength = d.fWpaIeLength) :
    WorkerActions d (d1.sendM2 d.fEapolInbox.senderMac env).2 := by
  have hstored : d1.storedIe = d.storedIe := by rw [storedIe, storedIe, hie, hlen]
  unfold sendM2
  rw [hlen]
  split
  · rename_i hno
    refine .silent fun h => ?_
    rcases hno with hno | hno
    · exact h.stored hno
    · exact absurd h.fits (Nat.not_le.mpr hno)
  · rename_i hok
    rw [not_or, Nat.not_lt] at hok
    have hfits : d1.buildM2.length ≤ 256 := by
      have hshort : (d1.fWpaIe.bytes.take d1.fWpaIeLength).length ≤ d1.fWpaIeLength :=
        List.length_take_le _ _
      rw [buildM2, length_signedKeyFrame, Bytes.length_be, Buf.length_eq]
      omega
    have hm2 := WorkerActions.m2 d1 ⟨hw, hc, hpmk, hok.1, hok.2⟩ hstored
    rw [txEapolDataFrame_eq hfits]
    dsimp only
    split
    · exact hm2
    · exact hm2

theorem eapolWorker_actions (d : Device) (env : Env) : WorkerActions d (d.eapolWorker env).2 := by
  by_cases hw : d.Wakes
  · rw [eapolWorker_eq hw.present hw.pending]
    unfold handleEapolFrame
    have htake : d.takeInbox.classify d.inboxPayload = d.classify d.inboxPayload := rfl
    rw [htake]
    cases hc : d.classify d.inboxPayload with
    | none =>
      refine .silent fun h => ?_
      have hm1 := h.isM1
      rw [hc] at hm1
      cases hm1
    | some message =>
      cases message with
      | m1 =>
        dsimp only
        unfold handleM1
        dsimp only
        split
        · rename_i hpmk
          exact .silent fun h => hpmk h.pmkValid
        rename_i hpmk
        rw [not_not] at hpmk
        split
        · exact sendM2_actions env hw hc hpmk rfl rfl
        · exact sendM2_actions env hw hc hpmk rfl rfl
      | m3 =>
        have hno : ¬ d.AnswersM1 := fun h => by
          have hm1 := h.isM1
          rw [hc] at hm1
          cases hm1
        dsimp only
        unfold handleM3
        split
        · exact .silent hno
        · rename_i gtk hm3
          have hlen : 99 ≤ d.inboxPayload.length := classify_length hc
          let replayCounter : Buf 8 := ⟨(d.inboxPayload ++ env.stack).slice 9 8,
            Bytes.length_slice (by rw [List.length_append]; omega)⟩
          have hfits : (d.takeInbox.buildM4 replayCounter.bytes).length ≤ 256 :=
            Nat.le_trans (length_buildM4 _ _) (by decide)
          unfold finishM3
          rw [txEapolDataFrame_eq hfits]
          dsimp only
          split
          · exact .m4 _ replayCounter [] hno (.inl rfl)
          split
          · exact .m4 _ replayCounter _ hno (.inr ⟨_, rfl⟩)
          · exact .m4 _ replayCounter [] hno (.inl rfl)
  · rw [eapolWorker_idle fun h => hw ⟨h.1, h.2⟩]
    exact .silent fun h => hw h.wakes

theorem drop_wireFrame (d : Device) (apMac : Mac) (eapol : Bytes) :
    (d.wireFrame apMac eapol).drop 32 = eapol := by
  refine List.drop_left' ?_
  simp [dataHeader, llcSnap]

/-- The EAPOL-Key frame in a transmitted frame, as a receiver decodes it. -/
def keyFrameOf (frame : Bytes) : Option EapolKey := EapolKey.decode (frame.drop 32)

theorem keyFrameOf_signed (d1 : Device) (apMac : Mac) (keyInfo : UInt16) (replayCounter : Buf 8)
    (nonce : Buf 32) {keyData : Bytes} (h : keyData.length ≤ 80) :
    ∃ k, keyFrameOf (d1.wireFrame apMac
        (signedKeyFrame d1.kck keyInfo replayCounter.bytes nonce.bytes keyData)) = some k ∧
      k.keyInfo = keyInfo ∧ k.keyData = keyData := by
  let kck : Block := ⟨d1.kck, by simp [kck]⟩
  refine ⟨(stationKey keyInfo replayCounter nonce keyData).sign kck, ?_, rfl, rfl⟩
  have hsigned := signedKeyFrame_eq kck keyInfo replayCounter nonce keyData
  rw [keyFrameOf, drop_wireFrame]
  exact (congrArg EapolKey.decode hsigned).trans
    (decode_sign_stationKey kck keyInfo replayCounter nonce h)

theorem keyFrameOf_m2 {d1 : Device} (apMac : Mac) (h : d1.storedIe.length ≤ 80) :
    ∃ k, keyFrameOf (d1.wireFrame apMac d1.buildM2) = some k ∧ k.keyInfo = kM2KeyInfo ∧
      k.keyData = d1.storedIe :=
  d1.keyFrameOf_signed apMac kM2KeyInfo ⟨_, Bytes.length_be 8 _⟩ d1.fSnonce h

theorem keyFrameOf_m4 (d1 : Device) (apMac : Mac) (replayCounter : Buf 8) :
    ∃ k, keyFrameOf (d1.wireFrame apMac (d1.buildM4 replayCounter.bytes)) = some k ∧
      k.keyInfo = kM4KeyInfo := by
  obtain ⟨k, hk, hinfo, -⟩ := d1.keyFrameOf_signed apMac kM4KeyInfo replayCounter (Buf.zero 32)
    (show ([] : Bytes).length ≤ 80 by decide)
  exact ⟨k, hk, hinfo⟩

/-! ## One step -/

/-- The step transmits a message 2. -/
def SendsM2 (actions : List Action) (k : EapolKey) : Prop :=
  ∃ frame, .transmitEapol frame ∈ actions ∧ keyFrameOf frame = some k ∧ k.keyInfo = kM2KeyInfo

/-- Neither an authentication nor an association request, nor an EAPOL frame. -/
def Action.isOther : Action → Bool
  | .transmitAuthRequest _ => false
  | .transmitAssocRequest _ _ => false
  | .transmitEapol _ => false
  | _ => true

/-- What a step that is not a wakeup of the worker does about the two. -/
inductive OtherActions (d : Device) (env : Env) : List Action → Prop where
  | other (actions : List Action) (h : ∀ a ∈ actions, Action.isOther a = true) :
      OtherActions d env actions
  | authRequest (frame : Bytes) : OtherActions d env [.joinRequest, .transmitAuthRequest frame]
  | assocRequest (haveRsnIe : Bool) :
      OtherActions d env [.transmitAssocRequest
        (assocRequest { d with fJoinState := .kJoinAssociating } env.is5GHz) haveRsnIe]

theorem handleAuthResponse_actions (d : Device) (frame : Bytes) (env : Env) :
    OtherActions d env (d.handleAuthResponse frame env).2 := by
  unfold handleAuthResponse
  split
  · exact .other [] nofun
  split
  · exact .other [] nofun
  split
  · exact .other [] nofun
  dsimp only
  split
  · exact .assocRequest _
  · exact .assocRequest _

theorem rxData_actions {d : Device} {frame : Bytes} {out : Device × List Action}
    (h : d.rxData frame = some out) : ∀ a ∈ out.2, Action.isOther a = true := by
  unfold rxData at h
  split at h
  · cases h
    exact nofun
  unfold rxDeliver at h
  split at h
  · cases h
    exact nofun
  · cases h
    exact nofun
  · dsimp only at h
    split at h
    · cases h
    · cases h
      intro a ha
      obtain rfl := List.mem_singleton.mp ha
      rfl

theorem rxFrame_actions {d : Device} {frame : Bytes} {isC2H : Bool} {env : Env}
    {out : Device × List Action} (h : d.rxFrameReceived frame isC2H env = some out) :
    OtherActions d env out.2 := by
  have hnone : some (d, []) = some out → OtherActions d env out.2 := by
    intro h
    cases h
    exact .other [] nofun
  unfold rxFrameReceived at h
  split at h
  · exact hnone h
  split at h
  · exact hnone h
  split at h
  · split at h
    · cases h
      exact handleAuthResponse_actions d frame env
    split at h
    · cases h
      exact .other [] nofun
    · exact hnone h
  split at h
  · exact hnone h
  · exact .other _ (rxData_actions h)

theorem write_actions (d : Device) (buffer : Bytes) (env : Env) :
    ∀ a ∈ (d.write buffer env).actions, Action.isOther a = true := by
  have hstep := d.write_step buffer env
  generalize d.write buffer env = r at hstep
  cases hstep with
  | refused => exact nofun
  | clear => simp [Action.isOther]
  | failed => simp [Action.isOther]
  | encrypted => simp [Action.isOther]

theorem control_actions {d : Device} {request : Request} {env : Env} {out : Device × List Action}
    (h : ControlStep d request env out) : OtherActions d env out.2 := by
  cases h with
  | keysArmed =>
    refine .other _ ?_
    intro a ha
    obtain rfl := List.mem_singleton.mp ha
    rfl
  | unresolved =>
    refine .other _ ?_
    intro a ha
    obtain rfl := List.mem_singleton.mp ha
    rfl
  | joining => exact .authRequest _
  | _ => exact .other [] nofun

theorem other_actions {d : Device} {e : Event} {env : Env} {out : Device × List Action}
    (h : d.step e env = some out) (he : e ≠ .eapolWorker) : OtherActions d env out.2 := by
  unfold step at h
  cases e with
  | write buffer =>
    cases h
    exact .other _ (d.write_actions buffer env)
  | rxFrame frame isC2H => exact rxFrame_actions h
  | eapolWorker => exact absurd rfl he
  | control request =>
    cases h
    exact control_actions (d.control_step request env)
  | _ =>
    cases h
    exact .other [] nofun

/-- Actions of no interest leave the history alone. -/
theorem noteActions_other (d : Device) {actions : List Action} (h : Option LastRequest)
    (hother : ∀ a ∈ actions, Action.isOther a = true) : d.noteActions actions h = h := by
  unfold noteActions
  induction actions with
  | nil => rfl
  | cons a actions ih =>
    have ha := hother a List.mem_cons_self
    have htail := ih fun b hb => hother b (List.mem_cons_of_mem a hb)
    cases a with
    | transmitAuthRequest => cases ha
    | transmitAssocRequest => cases ha
    | _ => exact htail

/-! ### The length of the SSID -/

theorem ssidLength_doJoin {d : Device} {bssid : Mac} {ssid : Bytes} {ssidLen : Nat} {env : Env}
    (h : d.fJoinSsidLength ≤ 32) (h32 : ssidLen ≤ 32) :
    (d.doJoin bssid ssid ssidLen env).device.fJoinSsidLength ≤ 32 := by
  rw [doJoin_eq]
  cases joinTarget bssid env with
  | none => exact h
  | some target => exact h32

theorem ssidLength_withPassphrase (d : Device) (bssid : Mac) (ssidLen : UInt8) (ssid : Buf 32)
    (passphraseLen : UInt8) (passphrase : Buf 64) :
    (d.withPassphrase bssid ssidLen ssid passphraseLen passphrase).fJoinSsidLength ≤ 32 := by
  have hlen : (ssid.bytes.take ssidLen.toNat).length ≤ 32 := by
    rw [List.length_take, Buf.length_eq]
    exact Nat.min_le_right _ _
  obtain ⟨wpaIe, wpaIeLength, heq⟩ :=
    d.withPassphrase_device bssid ssidLen ssid passphraseLen passphrase
  rw [heq]
  exact hlen

theorem ssidLength_control {d : Device} (request : Request) (env : Env)
    (h : d.fJoinSsidLength ≤ 32) : (d.control request env).device.fJoinSsidLength ≤ 32 := by
  unfold control
  split
  · exact h
  unfold set80211
  cases request with
  | ssid data => exact List.length_take_le _ _
  | bssid data =>
    dsimp only
    split
    · exact h
    · exact h
  | mlme op macaddr ssidLen ssid =>
    dsimp only [mlme]
    split
    · exact ssidLength_doJoin h (Nat.min_le_right _ _)
    split
    · unfold disconnectRequest
      split
      · exact h
      · exact h
    · exact h
  | appie data =>
    dsimp only [appie]
    split
    · exact h
    split
    · exact h
    · exact h
  | wpaKey keyix keylen macaddr keydata =>
    have hheld : (d.holdKey keyix macaddr keydata).fJoinSsidLength ≤ 32 := by
      obtain ⟨tk, tkValid, bssid, gtk, gtkId, gtkValid, heq⟩ :=
        d.holdKey_device keyix macaddr keydata
      rw [heq]
      exact h
    dsimp only [wpaKey]
    split
    · exact h
    split
    · exact hheld
    split
    · exact hheld
    · exact hheld
  | haikuJoinPsk bssid ssidLen ssid passphraseLen passphrase =>
    dsimp only [haikuJoinPsk]
    split
    · exact h
    · have hlen := d.ssidLength_withPassphrase bssid ssidLen ssid passphraseLen passphrase
      exact ssidLength_doJoin hlen hlen
  | haikuJoin =>
    dsimp only [haikuJoin]
    split
    · exact h
    · exact ssidLength_doJoin h h
  | _ => exact h

theorem ssidLength_step {d : Device} {e : Event} {env : Env} {out : Device × List Action}
    (h : d.fJoinSsidLength ≤ 32) (hstep : d.step e env = some out) :
    out.1.fJoinSsidLength ≤ 32 := by
  cases step_cases hstep with
  | dataPath => exact h
  | rxFrame frame isC2H hc hrx =>
    cases hrx with
    | ring r hd hr hs =>
      obtain ⟨ring, head, tail, heq⟩ := d.enqueue_device (r.ringEntry (d.fRxRing d.fRxRingHead))
      rw [heq]
      exact h
    | _ => exact h
  | eapolWorker hworker =>
    obtain ⟨snonce, ptk, ptkValid, heq⟩ :=
      d.takeInbox.keyedM1_device d.inboxPayload d.fEapolInbox.senderMac env
    cases hworker with
    | unanswered hw hc hpmk actions =>
      rw [heq]
      exact h
    | answered hw hc hpmk actions =>
      rw [heq]
      exact h
    | _ => exact h
  | control request hcontrol =>
    cases hstep
    exact ssidLength_control request env h

/-! ## Runs -/

/-- What the history says of the requests. -/
structure Carried (d : Device) (h : Option LastRequest) : Prop where
  ssidLength : d.fJoinSsidLength ≤ 32
  carried : ∀ r ∈ h, requestIe r.frame = r.stored ∨ requestIe r.frame = [] ∧ 80 < r.stored.length

theorem carried_step {d : Device} {e : Event} {env : Env} {out : Device × List Action}
    {h : Option LastRequest} (hi : Carried d h) (hstep : d.step e env = some out) :
    Carried out.1 (d.noteActions out.2 h) := by
  refine ⟨ssidLength_step hi.ssidLength hstep, ?_⟩
  have hother : (∀ a ∈ out.2, Action.isOther a = true) → ∀ r ∈ d.noteActions out.2 h,
      requestIe r.frame = r.stored ∨ requestIe r.frame = [] ∧ 80 < r.stored.length := by
    intro hother
    rw [d.noteActions_other h hother]
    exact hi.carried
  by_cases he : e = .eapolWorker
  · subst he
    cases hstep
    have hactions := d.eapolWorker_actions env
    generalize (d.eapolWorker env).2 = actions at hactions
    cases hactions with
    | silent => exact hi.carried
    | m2 => exact hi.carried
    | m4 d1 replayCounter rest hno hrest =>
      rcases hrest with rfl | ⟨tk, rfl⟩
      · exact hi.carried
      · exact hi.carried
  · have hactions := other_actions hstep he
    generalize out.2 = actions at hactions hother
    cases hactions with
    | other actions hall => exact hother hall
    | authRequest frame =>
      intro r hr
      cases hr
    | assocRequest haveRsnIe =>
      rintro _ ⟨⟩
      exact requestIe_stored (d := { d with fJoinState := .kJoinAssociating }) env.is5GHz
        hi.ssidLength

/-- A step that is not the answer to a message 1 sends no message 2. -/
theorem not_sendsM2 {d : Device} {e : Event} {env : Env} {out : Device × List Action}
    {k : EapolKey} (hstep : d.step e env = some out) (hno : e = .eapolWorker → ¬ d.AnswersM1) :
    ¬ SendsM2 out.2 k := by
  rintro ⟨frame, hmem, hframe, hinfo⟩
  by_cases he : e = .eapolWorker
  · subst he
    cases hstep
    have hactions := d.eapolWorker_actions env
    generalize (d.eapolWorker env).2 = actions at hactions hmem
    cases hactions with
    | silent => cases hmem
    | m2 d1 hanswers => exact hno rfl hanswers
    | m4 d1 replayCounter rest _ hrest =>
      obtain ⟨k', hk', hinfo'⟩ := d1.keyFrameOf_m4 d.fEapolInbox.senderMac replayCounter
      rcases List.mem_cons.mp hmem with hm4 | hmem
      · cases hm4
        obtain rfl := Option.some.inj (hframe.symm.trans hk')
        exact absurd (hinfo.symm.trans hinfo') (by decide)
      · rcases hrest with rfl | ⟨tk, rfl⟩
        · cases hmem
        · cases List.mem_singleton.mp hmem
  · have hactions := other_actions hstep he
    generalize out.2 = actions at hactions hmem
    cases hactions with
    | other actions hall => cases hall _ hmem
    | authRequest frame' =>
      rcases List.mem_cons.mp hmem with h | h
      · cases h
      · cases List.mem_singleton.mp h
    | assocRequest haveRsnIe => cases List.mem_singleton.mp hmem

/-- The answer to a message 1 is a message 2 with the stored IE. -/
theorem sendsM2_answer {d : Device} (env : Env) (h : d.AnswersM1) :
    (∃ k, SendsM2 (d.eapolWorker env).2 k) ∧
      ∀ k, SendsM2 (d.eapolWorker env).2 k → k.keyData = d.storedIe := by
  have hactions := d.eapolWorker_actions env
  generalize (d.eapolWorker env).2 = actions at hactions
  cases hactions with
  | silent hno => exact absurd h hno
  | m2 d1 _ hie =>
    have hfits := h.fits
    have hlen := d.length_storedIe
    obtain ⟨k, hk, hinfo, hdata⟩ := d1.keyFrameOf_m2 d.fEapolInbox.senderMac
      (by rw [hie]; omega)
    refine ⟨⟨k, _, List.mem_singleton_self _, hk, hinfo⟩, ?_⟩
    rintro k' ⟨frame, hmem, hframe, -⟩
    cases List.mem_singleton.mp hmem
    obtain rfl := Option.some.inj (hframe.symm.trans hk)
    exact hdata.trans hie
  | m4 d1 replayCounter rest hno => exact absurd h hno

end Device

namespace System

def noteRequest (s : System) (e : Event × Env) (h : Option LastRequest) : Option LastRequest :=
  match s.device.step e.1 e.2 with
  | some out => s.device.noteActions out.2 h
  | none => h

/-- The device with the association request of its current exchange. -/
def nextRequest : System × Option LastRequest → Event × Env → Option (System × Option LastRequest) :=
  Lts.recorded next noteRequest

/-- Every message 2 of the step carries the IE of the association request. -/
def SameIe (p : System × Option LastRequest) (e : Event × Env) : Prop :=
  ∀ out, p.1.device.step e.1 e.2 = some out → ∀ k, Device.SendsM2 out.2 k →
    ∃ r ∈ p.2, k.keyData = Device.requestIe r.frame

/-- A message 1 is answered after the association request, and with the IE stored at that time. -/
def IeUntouched (p : System × Option LastRequest) (e : Event × Env) : Prop :=
  match e.1 with
  | .eapolWorker => p.1.device.AnswersM1 → ∃ r ∈ p.2, r.stored = p.1.device.storedIe
  | _ => True

theorem sameIe_iff {p : System × Option LastRequest} {e : Event × Env}
    (hi : Device.Carried p.1.device p.2) : SameIe p e ↔ IeUntouched p e := by
  obtain ⟨e, env⟩ := e
  have hquiet : (e = .eapolWorker → ¬ p.1.device.AnswersM1) → SameIe p (e, env) :=
    fun hno out hstep k hk => absurd hk (Device.not_sendsM2 hstep hno)
  cases e with
  | eapolWorker =>
    by_cases hanswers : p.1.device.AnswersM1
    · obtain ⟨⟨k, hk⟩, hdata⟩ := Device.sendsM2_answer env hanswers
      have hlen := p.1.device.length_storedIe
      have hpos := hanswers.stored
      have hfits := hanswers.fits
      constructor
      · intro hsame _
        obtain ⟨r, hr, hie⟩ := hsame _ rfl k hk
        rw [hdata k hk] at hie
        refine ⟨r, hr, ?_⟩
        rcases hi.carried r hr with hcarried | ⟨hnone, -⟩
        · exact hcarried.symm.trans hie.symm
        · rw [hnone] at hie
          rw [hie, List.length_nil] at hlen
          omega
      · intro huntouched out hstep k' hk'
        cases hstep
        obtain ⟨r, hr, hstored⟩ := huntouched hanswers
        refine ⟨r, hr, ?_⟩
        rw [hdata k' hk', ← hstored]
        rcases hi.carried r hr with hcarried | ⟨-, hlong⟩
        · exact hcarried.symm
        · rw [hstored] at hlong
          omega
    · exact ⟨fun _ h => absurd h hanswers, fun _ => hquiet fun _ => hanswers⟩
  | _ => exact ⟨fun _ => trivial, fun _ => hquiet nofun⟩

theorem carried_nextRequest {p q : System × Option LastRequest} {e : Event × Env}
    (hi : Device.Carried p.1.device p.2) (hn : nextRequest p e = some q) :
    Device.Carried q.1.device q.2 := by
  obtain ⟨hnext, hrecord⟩ := Lts.recorded_eq_some.mp hn
  obtain ⟨actions, hstep, -⟩ := next_eq_some hnext
  have hkept := Device.carried_step hi hstep
  rw [hrecord, noteRequest, hstep]
  exact hkept

theorem carried_init (mac : Mac) : Device.Carried (init mac).device none :=
  ⟨Nat.zero_le _, nofun⟩

/-- Every message 2 of a run carries the IE of the association request exactly if the IE stored for
it was left alone whenever a message 1 is answered. -/
theorem rsn_ie_run (mac : Mac) (es : List (Event × Env)) :
    Lts.Meets nextRequest SameIe (init mac, none) es ↔
      Lts.Meets nextRequest IeUntouched (init mac, none) es :=
  Lts.meets_iff_of_invariant (I := fun p : System × Option LastRequest =>
    Device.Carried p.1.device p.2) carried_nextRequest sameIe_iff (carried_init mac)

/-- Another IE is set between the association and message 1. -/
def latePolicyRun : List (Event × Env) :=
  samplePskJoin ++
    [(.control (.appie [0x30, 0x02, 0x01, 0x00]), sampleEnv), (.rxFrame sampleM1 false, sampleEnv)]

theorem rsn_ie_run_latePolicy :
    ¬ ∀ mac es, Lts.Meets nextRequest SameIe (init mac, none) es := by
  intro hclaim
  have hrun : (Lts.run nextRequest (init sampleMac, none) latePolicyRun).map (fun p =>
      (decide p.1.device.AnswersM1, p.1.device.storedIe, p.2.map LastRequest.stored)) =
      some (true, [0x30, 0x02, 0x01, 0x00], some Device.sRsnIeCcmpPsk) := by decide +kernel
  obtain ⟨p, hr, hfields⟩ := Option.map_eq_some_iff.mp hrun
  obtain ⟨hanswers, hfields⟩ := Prod.mk.inj hfields
  obtain ⟨hstored, hrequest⟩ := Prod.mk.inj hfields
  have hi : Device.Carried p.1.device p.2 :=
    Lts.run_invariant (C := fun _ _ => True) (fun hi _ hn => carried_nextRequest hi hn)
      (carried_init sampleMac) (Lts.meets_true _ _) hr
  have hm := hclaim sampleMac (latePolicyRun ++ [(.eapolWorker, sampleEnv)])
  obtain ⟨hsame, -⟩ := (Lts.meets_append.mp hm).2 p hr
  obtain ⟨r, hr, hsame⟩ := (sameIe_iff hi).mp hsame (of_decide_eq_true hanswers)
  rw [hr] at hrequest
  have hwrong := (Option.some.inj hrequest).symm.trans (hsame.trans hstored)
  exact absurd hwrong (by decide)

end System
end Rtl8814au
