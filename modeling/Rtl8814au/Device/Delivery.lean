import Rtl8814au.Device.Decapsulation
import Rtl8814au.Device.Handshake
import Rtl8814au.Device.Steps

/-!
# Device.Delivery

An EAPOL packet of the AP on its way to the worker: a data frame to this station, the inbox, one
wakeup.

* `rxFrameReceived_apFrame`: a packet of at most 300 bytes goes to the inbox of a station with a PMK.
* `run_deliver`: the frame and the wakeup together hand it to `handleEapolFrame`.
* `run_m1`, `run_m3`: the handshake over the air, with a chip that takes the keys or does not.
-/

namespace Rtl8814au
namespace Device

open Crypto
open Spec (DataHeader Msdu)

/-- A data frame of the AP to a station, in the clear, with an EAPOL packet. -/
def apFrame (mac bssid : Mac) (eapol : Bytes) : Bytes :=
  [0x08, 0x02, 0, 0] ++ (mac.bytes ++ (bssid.bytes ++ (bssid.bytes ++
    ([0, 0] ++ (llcSnap etherTypeEapol ++ eapol)))))

section Frame

variable (mac bssid : Mac) (eapol : Bytes)

/-- Data from the distribution system. -/
def apHeader : DataHeader where
  toDs := false
  fromDs := true
  moreFragments := false
  retry := false
  powerManagement := false
  moreData := false
  isProtected := false
  duration := Buf.zero 2
  address1 := mac
  address2 := bssid
  address3 := bssid
  sequence := Buf.zero 2
  qosControl := none

def eapolMsdu : Msdu where
  destination := mac
  source := bssid
  etherType := Buf.ofBytes 2 [0x88, 0x8E]
  payload := eapol

theorem apFrame_eq : apFrame mac bssid eapol =
    (apHeader mac bssid).encode ++ (eapolMsdu mac bssid eapol).snap := by
  have hflags : (apHeader mac bssid).flags = 0x02 := by
    simp only [DataHeader.flags, apHeader]
    decide
  rw [DataHeader.encode_append, hflags]
  rfl

theorem length_apFrame : (apFrame mac bssid eapol).length = 32 + eapol.length := by
  have hsnap := (eapolMsdu mac bssid eapol).length_snap
  rw [apFrame_eq, List.length_append, DataHeader.length_encode, hsnap]
  show 24 + (8 + eapol.length) = _
  omega

theorem addr1_apFrame : (apFrame mac bssid eapol).slice 4 6 = mac.bytes := by
  rw [apFrame_eq]
  exact DataHeader.slice_address1 _ _

theorem addr2_apFrame : (apFrame mac bssid eapol).slice 10 6 = bssid.bytes := by
  rw [apFrame_eq]
  exact DataHeader.slice_address2 _ _

theorem addr3_apFrame : (apFrame mac bssid eapol).slice 16 6 = bssid.bytes := by
  rw [apFrame_eq]
  exact DataHeader.slice_address3 _ _

theorem frameType_apFrame : frameType (apFrame mac bssid eapol) = 2 := by
  rw [apFrame_eq]
  exact frameType_encode _ _

end Frame

/-- What comes out of the decapsulation. -/
structure Unwraps (mac bssid : Mac) (eapol : Bytes) (r : Decap) : Prop where
  etherType : r.etherType = etherTypeEapol
  payloadLen : r.payloadLen.toNat = eapol.length
  payload : r.payload = eapol
  frameData : r.frameData = apFrame mac bssid eapol

theorem rxDecap_apFrame (d : Device) (mac bssid : Mac) {eapol : Bytes} (h : eapol.length ≤ 300) :
    d.rxDecap (apFrame mac bssid eapol) = some (Decap.ofClear (apFrame mac bssid eapol)) ∧
      Unwraps mac bssid eapol (Decap.ofClear (apFrame mac bssid eapol)) := by
  rw [apFrame_eq]
  have hclear := isProtected_encode (apHeader mac bssid) (eapolMsdu mac bssid eapol).snap
  have hsize : (eapolMsdu mac bssid eapol).payload.length ≤ 1600 := Nat.le_trans h (by decide)
  obtain ⟨r, hr, hyields⟩ :=
    d.rxDecap_clear_yields (h := apHeader mac bssid) hsize rfl rfl rfl
  obtain ⟨-, -, rfl⟩ := (rxDecap_clear hclear).mp hr
  have htype : etherTypeAt (eapolMsdu mac bssid eapol).etherType.bytes 0 = etherTypeEapol := by
    show etherTypeAt (Buf.ofBytes 2 [0x88, 0x8E]).bytes 0 = _
    decide
  exact ⟨hr, (etherType_yields hyields).trans htype, hyields.payloadLen, hyields.payload,
    (apFrame_eq _ _ _).symm⟩

/-- The device with the packet in its inbox. -/
def inInbox (d : Device) (eapol : Bytes) : Device :=
  { d with
    fEapolInbox :=
      { senderMac := d.fJoinBssid, length := eapol.length,
        payload := d.fEapolInbox.payload.copyAt 0 eapol }
    fEapolPending := true }

theorem rxFrameReceived_apFrame {d : Device} {eapol : Bytes} (env : Env)
    (hpmk : d.fPmkValid = true) (h : eapol.length ≤ 300) :
    d.rxFrameReceived (apFrame d.fMacAddress d.fJoinBssid eapol) false env =
      some (d.inInbox eapol, []) := by
  obtain ⟨hdecap, hunwraps⟩ := d.rxDecap_apFrame d.fMacAddress d.fJoinBssid h
  have htype := frameType_apFrame d.fMacAddress d.fJoinBssid eapol
  have hlen := length_apFrame d.fMacAddress d.fJoinBssid eapol
  have h24 : ¬ UInt32.ofNat (apFrame d.fMacAddress d.fJoinBssid eapol).length < 24 := by
    rw [UInt32.lt_iff_toNat_lt, UInt32.toNat_ofNat', hlen, Nat.mod_eq_of_lt (by omega)]
    show ¬ 32 + eapol.length < 24
    omega
  generalize Decap.ofClear (apFrame d.fMacAddress d.fJoinBssid eapol) = r at hdecap hunwraps
  have hfits : ¬ r.payloadLen > 300 := by
    rw [gt_iff_lt, UInt32.lt_iff_toNat_lt, hunwraps.payloadLen]
    show ¬ 300 < eapol.length
    omega
  have hsink : d.rxSink r = .inbox := by
    unfold rxSink
    rw [if_pos ⟨hunwraps.etherType, hpmk⟩, hunwraps.frameData, addr1_apFrame, addr2_apFrame,
      if_neg (not_not.mpr rfl), if_neg (not_not.mpr rfl), if_neg hfits]
  have hinbox : r.inboxFrame d.fEapolInbox =
      { senderMac := d.fJoinBssid, length := eapol.length,
        payload := d.fEapolInbox.payload.copyAt 0 eapol } := by
    unfold Decap.inboxFrame
    rw [hunwraps.frameData, addr3_apFrame, hunwraps.payloadLen, hunwraps.payload,
      Buf.ofBytes_bytes]
  unfold rxFrameReceived
  rw [if_neg (by decide), if_neg h24, htype, if_neg (by decide), if_neg (not_not.mpr rfl)]
  unfold rxData rxDeliver
  simp only [hdecap, hsink, hinbox]
  rfl

theorem inboxPayload_inInbox (d : Device) {eapol : Bytes} (h : eapol.length ≤ 300) :
    (d.inInbox eapol).inboxPayload = eapol := by
  have hcopy := Buf.bytes_copyAt d.fEapolInbox.payload (show 0 + eapol.length ≤ 300 by omega)
  show (d.fEapolInbox.payload.copyAt 0 eapol).bytes.take eapol.length = eapol
  rw [hcopy, List.take_zero, List.nil_append, List.take_left' rfl]

end Device

namespace System

/-- The packet, and the wakeup that handles it. -/
def deliver (mac bssid : Mac) (eapol : Bytes) (env : Env) : List (Event × Env) :=
  [(.rxFrame (Device.apFrame mac bssid eapol) false, env), (.eapolWorker, env)]

theorem run_deliver {s : System} {eapol : Bytes} (env : Env) (hr : s.device.fRemoved = false)
    (hpmk : s.device.fPmkValid = true) (h : eapol.length ≤ 300) :
    (Lts.run next s (deliver s.device.fMacAddress s.device.fJoinBssid eapol env)).map System.device =
      some ((s.device.inInbox eapol).takeInbox.handleEapolFrame eapol s.device.fJoinBssid env).1 := by
  have hrx := Device.rxFrameReceived_apFrame (d := s.device) env hpmk h
  have hworker : (s.device.inInbox eapol).eapolWorker env =
      (s.device.inInbox eapol).takeInbox.handleEapolFrame eapol s.device.fJoinBssid env := by
    rw [Device.eapolWorker_eq (d := s.device.inInbox eapol) hr rfl,
      Device.inboxPayload_inInbox _ h]
    rfl
  simp only [deliver, Lts.run, next, Device.step, hrx, hworker, Option.map_some]

end System

/-! ## The handshake over the air -/

namespace Device

open Spec

/-- What a handshake rests on stays as it is. -/
theorem Keyed.congr {a : Authenticator} {d d' : Device} {sNonce : Buf 32} (h : Keyed a d sNonce)
    (hpmk : (d'.fPmk, d'.fPmkValid) = (d.fPmk, d.fPmkValid))
    (haddr : (d'.fJoinBssid, d'.fMacAddress) = (d.fJoinBssid, d.fMacAddress))
    (hie : (d'.fWpaIe, d'.fWpaIeLength) = (d.fWpaIe, d.fWpaIeLength))
    (hnonces : (d'.fAnonce, d'.fSnonce) = (d.fAnonce, d.fSnonce))
    (hptk : (d'.fPtk, d'.fPtkValid) = (d.fPtk, d.fPtkValid)) : Keyed a d' sNonce := by
  simp only [Prod.mk.injEq] at hpmk haddr hie hnonces hptk
  refine ⟨⟨?_, ?_, ?_, ?_, ?_, ?_⟩, ?_, ?_, ?_, ?_⟩
  · rw [hpmk.1, h.pmk]
  · rw [hpmk.2, h.pmkValid]
  · rw [haddr.1, h.aa]
  · rw [haddr.2, h.spa]
  · rw [hie.1, hie.2, h.rsnIe]
  · rw [hie.2]
    exact h.rsnIeLength
  · rw [hnonces.1, h.anonce]
  · rw [hnonces.2, h.snonce]
  · rw [HoldsPtk, hptk.1]
    exact h.ptk
  · rw [hptk.2, h.ptkValid]

/-- A message 1 touches neither the encryption nor the removal flag. -/
theorem eapolWorker_m1 {d : Device} (env : Env) (hc : d.classify d.inboxPayload = some .m1) :
    (d.eapolWorker env).1.fRemoved = d.fRemoved ∧
      (d.eapolWorker env).1.fCcmpEnabled = d.fCcmpEnabled := by
  have hkeyed : (d.takeInbox.keyedM1 d.inboxPayload d.fEapolInbox.senderMac env).fCcmpEnabled =
      d.fCcmpEnabled := by
    obtain ⟨snonce, ptk, ptkValid, heq⟩ :=
      d.takeInbox.keyedM1_device d.inboxPayload d.fEapolInbox.senderMac env
    rw [heq]
    rfl
  have hno : d.inboxM3 env = none := if_neg (by rw [hc]; decide)
  have hstep := d.eapolWorker_step env
  refine ⟨hstep.keepsJoin.removed, ?_⟩
  generalize d.eapolWorker env = out at hstep
  cases hstep with
  | idle hw => rfl
  | ignored hw hne hm3 => exact absurd hc hne
  | noted hw hm1 hpmk => rfl
  | unanswered hw hm1 hpmk actions => exact hkeyed
  | answered hw hm1 hpmk actions => exact hkeyed
  | m4Lost gtk hw hm3 ht actions => rw [hno] at hm3; cases hm3
  | installed gtk hw hm3 ht hinst actions => rw [hno] at hm3; cases hm3
  | installFailed gtk hw hm3 ht hfail actions => rw [hno] at hm3; cases hm3

/-- Message 4 is sent and the handshake is done, whether the chip takes the keys or not. -/
theorem handleEapolFrame_m3_refused {a : Authenticator} {d : Device} {sNonce : Buf 32}
    {c : M3Choice} {env : Env} (h : Awaits a d sNonce)
    (hlen : (a.m3 sNonce c).encode.length ≤ 300) (htransmit : env.transmit = .ok)
    (hregisters : env.registers ≠ .ok) :
    (d.handleEapolFrame (a.m3 sNonce c).encode a.aa env).1 = d.setEapolState .kEapolDone := by
  have hm4 : (d.buildM4 (((a.m3 sNonce c).encode ++ env.stack).slice 9 8)).length ≤ 256 :=
    Nat.le_trans (length_buildM4 _ _) (by decide)
  have hfail : installSessionKeys
      { gtkKey := a.gtk.bytes, gtkKeyId := UInt8.ofNat a.gtkKeyId.val } env ≠ .ok := by
    unfold installSessionKeys
    split
    · decide
    · split
      · decide
      · exact hregisters
  rw [handleEapolFrame, classify_m3 c h hlen]
  show (d.handleM3 _ _ _ _ _).1 = _
  rw [handleM3, verifyM3_m3 c h env hlen]
  show (d.finishM3 _ _ _ _).1 = _
  simp only [finishM3, txEapolDataFrame_eq hm4, htransmit, hfail, ne_eq, not_true_eq_false,
    ↓reduceIte]

end Device

namespace System

open Crypto Device Spec

section Air

variable {a : Authenticator} {s : System}

theorem run_m1 (c : M1Choice) {env : Env} (h : Associated a s.device)
    (hnew : s.device.fPtkValid = false) (hr : s.device.fRemoved = false)
    (hlen : (a.m1 c).encode.length ≤ 300) (htransmit : env.transmit = .ok) :
    ∃ s', Lts.run next s (deliver a.spa a.aa (a.m1 c).encode env) = some s' ∧
      Awaits a s'.device env.snonce ∧ s'.device.fRemoved = false ∧
        s'.device.fCcmpEnabled = s.device.fCcmpEnabled := by
  have hrun := run_deliver env hr h.pmkValid hlen
  rw [h.spa, h.aa] at hrun
  obtain ⟨s', hs', hd⟩ := Option.map_eq_some_iff.mp hrun
  have hinbox : Associated a (s.device.inInbox (a.m1 c).encode).takeInbox :=
    ⟨h.pmk, h.pmkValid, h.aa, h.spa, h.rsnIe, h.rsnIeLength⟩
  have hfresh : ¬ ((s.device.inInbox (a.m1 c).encode).takeInbox.fPtkValid = true ∧
      (s.device.inInbox (a.m1 c).encode).takeInbox.fAnonce = a.aNonce) := by
    rintro ⟨hvalid, -⟩
    have hvalid : s.device.fPtkValid = true := hvalid
    rw [hnew] at hvalid
    cases hvalid
  have hawaits := (awaits_firstM1 c hinbox hfresh hlen htransmit).1
  have hkeeps := eapolWorker_m1 (d := s.device.inInbox (a.m1 c).encode) env (by
    rw [inboxPayload_inInbox _ hlen]
    exact classify_m1 c hlen)
  rw [eapolWorker_eq (d := s.device.inInbox (a.m1 c).encode) hr rfl,
    inboxPayload_inInbox _ hlen] at hkeeps
  have hsender : (s.device.inInbox (a.m1 c).encode).fEapolInbox.senderMac = a.aa := h.aa
  rw [hsender] at hkeeps
  refine ⟨s', hs', ?_, ?_, ?_⟩
  · rw [hd]
    exact hawaits
  · rw [hd]
    exact hkeeps.1.trans hr
  · rw [hd]
    exact hkeeps.2

theorem run_m3 {sNonce : Buf 32} (c : M3Choice) {env : Env} (h : Awaits a s.device sNonce)
    (hr : s.device.fRemoved = false) (hlen : (a.m3 sNonce c).encode.length ≤ 300)
    (htransmit : env.transmit = .ok) :
    ∃ s', Lts.run next s (deliver a.spa a.aa (a.m3 sNonce c).encode env) = some s' ∧
      Keyed a s'.device sNonce ∧ s'.device.fEapolState = .kEapolDone ∧
        s'.device.fCcmpEnabled = (s.device.fCcmpEnabled || env.registers = .ok) := by
  have hrun := run_deliver env hr h.pmkValid hlen
  rw [h.spa, h.aa] at hrun
  obtain ⟨s', hs', hd⟩ := Option.map_eq_some_iff.mp hrun
  have hinbox : Awaits a (s.device.inInbox (a.m3 sNonce c).encode).takeInbox sNonce :=
    ⟨h.toKeyed.congr rfl rfl rfl rfl rfl, h.state⟩
  refine ⟨s', hs', ?_⟩
  rw [hd]
  by_cases hregisters : env.registers = .ok
  · rw [handleEapolFrame_m3 c hinbox hlen htransmit hregisters, decide_eq_true hregisters,
      Bool.or_true]
    exact ⟨hinbox.toKeyed.congr rfl rfl rfl rfl rfl, rfl, rfl⟩
  · rw [handleEapolFrame_m3_refused hinbox hlen htransmit hregisters, decide_eq_false hregisters,
      Bool.or_false]
    exact ⟨hinbox.toKeyed.congr rfl rfl rfl rfl rfl, rfl, rfl⟩

end Air

/-! ### A passphrase join and its handshake -/

def samplePmk : Buf 32 :=
  pbkdf2HmacSha1 ((Buf.ofBytes 64 (List.replicate 8 0x70)).bytes.take (8 : UInt8).toNat)
    ((Buf.ofBytes 32 [0x6E, 0x65, 0x74]).bytes.take (3 : UInt8).toNat) 4096 32

def sampleAp : Authenticator where
  pmk := samplePmk
  aa := sampleBssid
  spa := sampleMac
  aNonce := sampleNonce
  gtk := Buf.zero 16
  gtkKeyId := 1
  rsnIe := Device.sRsnIeCcmpPsk

def sampleM1Choice : M1Choice where
  version := 2
  replayCounter := Buf.ofBytes 8 [1]
  keyData := []

def sampleM3Choice : M3Choice where
  version := 2
  replayCounter := Buf.ofBytes 8 [2]
  iv := Buf.zero 16
  rsc := Buf.zero 8
  tx := false
  before := []
  after := []
  others := by simp

/-- A passphrase join, and message 1. -/
def sampleAwaits : List (Event × Env) :=
  samplePskJoin ++ deliver sampleMac sampleBssid (sampleAp.m1 sampleM1Choice).encode sampleEnv

/-- The whole handshake, with message 3 in `env`. -/
def sampleHandshake (env : Env) : List (Event × Env) :=
  sampleAwaits ++
    deliver sampleMac sampleBssid (sampleAp.m3 sampleEnv.snonce sampleM3Choice).encode env

theorem length_m3 {a : Authenticator} {sNonce : Buf 32} {c : M3Choice} (hbefore : c.before = [])
    (hafter : c.after = []) : (a.m3 sNonce c).encode.length = 131 := by
  have helements : (encodeElements (a.elements c)).length = 24 := by
    rw [Authenticator.elements, hbefore, hafter]
    simp [encodeElements, length_encode_element, gtkKde, gtkKdeType]
  have hpad : padKeyData (encodeElements (a.elements c)) = encodeElements (a.elements c) :=
    if_pos (by rw [helements])
  rw [EapolKey.length_encode, keyData_m3, hpad, length_aesWrap _ (by rw [helements]), helements]

theorem samplePskJoin_associated : ∃ s, Lts.run next (init sampleMac) samplePskJoin = some s ∧
    Device.Associated sampleAp s.device ∧ s.device.fPtkValid = false ∧
      s.device.fRemoved = false ∧ s.device.fCcmpEnabled = false := by
  have hpmk : (Lts.run next (init sampleMac) samplePskJoin).map (fun s => s.device.fPmk) =
      some samplePmk := rfl
  have hfields : (Lts.run next (init sampleMac) samplePskJoin).map (fun s =>
      ((s.device.fPmkValid, s.device.fJoinBssid, s.device.fMacAddress),
        (s.device.fWpaIe.bytes.take s.device.fWpaIeLength, s.device.fWpaIeLength),
        s.device.fPtkValid, s.device.fRemoved, s.device.fCcmpEnabled)) =
      some ((true, sampleBssid, sampleMac), (Device.sRsnIeCcmpPsk, 22), false, false, false) := by
    decide +kernel
  obtain ⟨s, hs, hfields⟩ := Option.map_eq_some_iff.mp hfields
  rw [hs] at hpmk
  simp only [Prod.mk.injEq] at hfields
  obtain ⟨⟨hvalid, hbssid, hmac⟩, ⟨hie, hielen⟩, hptk, hremoved, hccmp⟩ := hfields
  exact ⟨s, hs, ⟨Option.some.inj hpmk, hvalid, hbssid, hmac, hie, by rw [hielen]; decide⟩, hptk,
    hremoved, hccmp⟩

theorem run_sampleM1 : ∃ s, Lts.run next (init sampleMac) sampleAwaits = some s ∧
    Awaits sampleAp s.device sampleEnv.snonce ∧ s.device.fRemoved = false ∧
      s.device.fCcmpEnabled = false := by
  obtain ⟨s0, hs0, hassoc, hptk, hremoved, hccmp⟩ := samplePskJoin_associated
  obtain ⟨s1, hs1, hawaits, hremoved1, hccmp1⟩ :=
    run_m1 sampleM1Choice hassoc hptk hremoved (by decide) (rfl : sampleEnv.transmit = .ok)
  have hm1 : Lts.run next s0 (deliver sampleMac sampleBssid (sampleAp.m1 sampleM1Choice).encode
      sampleEnv) = some s1 := hs1
  refine ⟨s1, ?_, hawaits, hremoved1, hccmp1.trans hccmp⟩
  rw [sampleAwaits, Lts.run_append, hs0, Option.bind_some, hm1]

theorem run_sampleHandshake (env : Env) (htransmit : env.transmit = .ok) :
    ∃ s, Lts.run next (init sampleMac) (sampleHandshake env) = some s ∧
      Keyed sampleAp s.device sampleEnv.snonce ∧ s.device.fEapolState = .kEapolDone ∧
        s.device.fCcmpEnabled = decide (env.registers = .ok) := by
  obtain ⟨s1, hs1, hawaits, hremoved, hccmp⟩ := run_sampleM1
  have hlen : (sampleAp.m3 sampleEnv.snonce sampleM3Choice).encode.length ≤ 300 := by
    rw [length_m3 rfl rfl]
    decide
  obtain ⟨s2, hs2, hkeyed, hdone, hccmp2⟩ := run_m3 sampleM3Choice hawaits hremoved hlen htransmit
  refine ⟨s2, ?_, hkeyed, hdone, ?_⟩
  · have hm3 : Lts.run next s1 (deliver sampleMac sampleBssid
        (sampleAp.m3 sampleEnv.snonce sampleM3Choice).encode env) = some s2 := hs2
    rw [sampleHandshake, Lts.run_append, hs1, Option.bind_some, hm3]
  · rw [hccmp2, hccmp, Bool.false_or]

/-- An EAPOL frame that comes in while CCMP is off: it is read before the worker gets to it. -/
theorem guardedKeys_deliver {s : System} {mac bssid : Mac} (eapol : Bytes) (env : Env)
    (h : s.device.fCcmpEnabled = false) :
    Lts.Meets next GuardedKeys s (deliver mac bssid eapol env) := by
  refine ⟨guardedKeys_of_off h, fun s' hs => ⟨guardedKeys_of_off ?_, fun _ _ => trivial⟩⟩
  have hsame := congrArg (fun l => l.state.enabled) (ledger_next hs)
  exact hsame.trans h

/-- Messages 1 and 3 come in ahead of the keys. -/
theorem installed_key_intact_sampleHandshake :
    ∃ s, Lts.run next (init sampleMac) (sampleHandshake sampleEnv) = some s ∧
      s.device.fCcmpEnabled = true ∧
      (s.device.fCcmpEnabled = true → (installedKeys s.log).getLast? = some s.device.tk) ∧
        Lts.Meets next KeepsTk (init sampleMac) (sampleHandshake sampleEnv) := by
  have hguarded : Lts.Meets next GuardedKeys (init sampleMac) (sampleHandshake sampleEnv) := by
    refine Lts.meets_append.mpr ⟨Lts.meets_append.mpr ⟨by decide +kernel, ?_⟩, ?_⟩
    · intro s hs
      obtain ⟨s', hs', -, -, -, hccmp⟩ := samplePskJoin_associated
      obtain rfl := Option.some.inj (hs.symm.trans hs')
      exact guardedKeys_deliver _ _ hccmp
    · intro s hs
      obtain ⟨s', hs', -, -, hccmp⟩ := run_sampleM1
      obtain rfl := Option.some.inj (hs.symm.trans hs')
      exact guardedKeys_deliver _ _ hccmp
  obtain ⟨s, hs, -, -, hccmp⟩ := run_sampleHandshake sampleEnv rfl
  exact ⟨s, hs, hccmp, installed_key_intact hguarded hs⟩

end System
end Rtl8814au
