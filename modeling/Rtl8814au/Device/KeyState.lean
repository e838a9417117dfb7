import Rtl8814au.Device.System
import Rtl8814au.Lib.KeyLedger

/-!
# Device.KeyState

What a step does to the key the data path uses.

* `keyEvent`: the step as an event of `KeyLedger`, decided on the state before it.
* `Refines`: the device moves as the ledger does, and logs what the ledger records.
* `step_refines`: every step refines its event. The properties of runs are proved on the ledger.
-/

namespace Rtl8814au

open Crypto

def usedNonces (log : List Action) : List (Block × UInt64) :=
  log.filterMap fun a =>
    match a with
    | .ccmpEncrypt tk pn => some (tk, pn)
    | _ => none

def installedKeys (log : List Action) : List Block :=
  log.filterMap fun a =>
    match a with
    | .installKeys tk => some tk
    | _ => none

/-- Whether the last key installation came after the last join request. -/
def keysInForce (before : Bool) (log : List Action) : Bool :=
  log.foldl (fun b a =>
    match a with
    | .installKeys _ => true
    | .joinRequest => false
    | _ => b) before

def Action.isQuiet : Action → Bool
  | .ccmpEncrypt _ _ => false
  | .transmitData _ _ => false
  | .installKeys _ => false
  | .joinRequest => false
  | _ => true

theorem quiet_log {log : List Action} (h : ∀ a ∈ log, a.isQuiet = true) :
    usedNonces log = [] ∧ installedKeys log = [] ∧ ∀ b, keysInForce b log = b := by
  induction log with
  | nil => exact ⟨rfl, rfl, fun _ => rfl⟩
  | cons a log ih =>
    obtain ⟨hu, hi, hf⟩ := ih fun x hx => h x (List.mem_cons_of_mem a hx)
    have ha := h a List.mem_cons_self
    cases a with
    | ccmpEncrypt => cases ha
    | transmitData => cases ha
    | installKeys => cases ha
    | joinRequest => cases ha
    | _ => exact ⟨hu, hi, hf⟩

theorem usedNonces_append (as bs : List Action) :
    usedNonces (as ++ bs) = usedNonces as ++ usedNonces bs := List.filterMap_append

theorem installedKeys_append (as bs : List Action) :
    installedKeys (as ++ bs) = installedKeys as ++ installedKeys bs := List.filterMap_append

theorem keysInForce_append (before : Bool) (as bs : List Action) :
    keysInForce before (as ++ bs) = keysInForce (keysInForce before as) bs := List.foldl_append

namespace Device

open KeyLedger (State KeyEvent)

def keyState (d : Device) : State Block :=
  { key := d.tk, counter := d.fTxPnPairwise, enabled := d.fCcmpEnabled }

/-! ## The event of a step -/

structure Encrypts (d : Device) (buffer : Bytes) : Prop where
  present : d.fRemoved = false
  header : 14 ≤ buffer.length
  connected : d.fJoinState = .kJoinConnected
  size : ¬ UInt32.ofNat buffer.length - 14 > 1600
  enabled : d.fCcmpEnabled = true
  etherType : etherTypeAt buffer 12 ≠ etherTypeEapol
  room : ¬ UInt32.ofNat buffer.length - 14 + 32 + 16 > 1632
  key : d.fPtkValid = true

instance (d : Device) (buffer : Bytes) : Decidable (d.Encrypts buffer) :=
  decidable_of_iff (d.fRemoved = false ∧ 14 ≤ buffer.length ∧ d.fJoinState = .kJoinConnected ∧
      ¬ UInt32.ofNat buffer.length - 14 > 1600 ∧ d.fCcmpEnabled = true ∧
      etherTypeAt buffer 12 ≠ etherTypeEapol ∧
      ¬ UInt32.ofNat buffer.length - 14 + 32 + 16 > 1632 ∧ d.fPtkValid = true)
    ⟨fun ⟨h1, h2, h3, h4, h5, h6, h7, h8⟩ => ⟨h1, h2, h3, h4, h5, h6, h7, h8⟩,
      fun ⟨h1, h2, h3, h4, h5, h6, h7, h8⟩ => ⟨h1, h2, h3, h4, h5, h6, h7, h8⟩⟩

def writeEvent (d : Device) (buffer : Bytes) : KeyEvent Block :=
  if d.Encrypts buffer then .encrypt else .idle

/-- A message 1 that leads to a new PTK. -/
def rederives (d : Device) (payload : Bytes) : Bool := d.fPmkValid ∧ ¬ d.sameAnonce payload

def derivedDevice (d : Device) (payload : Bytes) (senderMac : Mac) (env : Env) : Device :=
  (d.noteM1 payload).derivePtk senderMac env.snonce

def eapolEvent (d : Device) (payload : Bytes) (senderMac : Mac) (env : Env) : KeyEvent Block :=
  match d.classify payload with
  | none => .idle
  | some .m1 =>
    if d.rederives payload then .rederive (d.derivedDevice payload senderMac env).tk else .idle
  | some .m3 =>
    match d.verifyM3 (payload ++ env.stack) (be16At payload 2) (be16At payload 97) env with
    | none => .idle
    | some gtk =>
      if env.transmit = .ok ∧ installSessionKeys gtk env = .ok then .install d.tk else .idle

def workerEvent (d : Device) (env : Env) : KeyEvent Block :=
  if d.fRemoved = false ∧ d.fEapolPending = true then
    d.eapolEvent d.inboxPayload d.fEapolInbox.senderMac env
  else .idle

/-- The keys a supplicant has delivered are complete and the chip takes them. -/
def keysComplete (d : Device) (env : Env) : Bool :=
  d.fSupplicantTkValid ∧ d.fSupplicantGtkValid ∧
    installSessionKeys { gtkKey := d.fSupplicantGtk.bytes, gtkKeyId := d.fSupplicantGtkId } env = .ok

def controlEvent (d : Device) (request : Request) (env : Env) : KeyEvent Block :=
  if d.fRemoved then .idle
  else
    match request with
    | .wpaKey keyix keylen macaddr keydata =>
      if keylen = 16 ∧ (d.holdKey keyix macaddr keydata).keysComplete env then
        .install (d.holdKey keyix macaddr keydata).fSupplicantTk
      else .idle
    | .mlme op _ _ _ => if op = kMlmeAssoc then .clear else .idle
    | .haikuJoinPsk _ ssidLen _ passphraseLen _ =>
      if ssidLen = 0 ∨ ssidLen > 32 ∨ passphraseLen = 0 ∨ passphraseLen > 63 then .idle else .clear
    | .haikuJoin => if d.fJoinSsidLength = 0 then .idle else .clear
    | _ => .idle

def keyEvent (d : Device) (e : Event) (env : Env) : KeyEvent Block :=
  match e with
  | .write buffer => d.writeEvent buffer
  | .eapolWorker => d.workerEvent env
  | .control request => d.controlEvent request env
  | _ => .idle

/-! ## Refinement -/

/-- The frames of `Write` among the actions are output of `ccmp_encrypt`, or EAPOL. -/
def Sealed (d : Device) (actions : List Action) : Prop :=
  ∀ etherType frame, .transmitData etherType frame ∈ actions → etherType ≠ etherTypeEapol →
    .ccmpEncrypt d.tk d.fTxPnPairwise ∈ actions ∧
      ∃ plain, frame = (ccmpEncrypt d.tk plain 24 d.fTxPnPairwise 0).2

structure Refines (d : Device) (ke : KeyEvent Block) (d' : Device) (actions : List Action) : Prop where
  state : d'.keyState = d.keyState.next ke
  used : usedNonces actions = d.keyState.uses ke
  installs : installedKeys actions = ke.installs
  inForce : keysInForce d.fCcmpEnabled actions = d'.fCcmpEnabled
  isSealed : d.fCcmpEnabled = true → d.Sealed actions

theorem sealed_of_quiet {d : Device} {actions : List Action}
    (hq : ∀ a ∈ actions, a.isQuiet = true) : d.Sealed actions := by
  intro etherType frame hmem
  cases hq _ hmem

theorem Refines.quiet {d d' : Device} {actions : List Action} (hs : d'.keyState = d.keyState)
    (hq : ∀ a ∈ actions, a.isQuiet = true) : Refines d .idle d' actions := by
  obtain ⟨hu, hi, hf⟩ := quiet_log hq
  refine ⟨hs, hu, hi, ?_, fun _ => sealed_of_quiet hq⟩
  rw [hf]
  exact (congrArg State.enabled hs).symm

/-- What `Write` can come to. -/
inductive WriteStep (d : Device) (buffer : Bytes) : Reply → Prop where
  | refused (status : Status) (h : ¬ d.Encrypts buffer) : WriteStep d buffer ⟨d, [], status⟩
  | clear (frame : Bytes) (status : Status)
      (h : ¬ (d.fCcmpEnabled = true ∧ etherTypeAt buffer 12 ≠ etherTypeEapol)) :
      WriteStep d buffer ⟨d, [.transmitData (etherTypeAt buffer 12) frame], status⟩
  | failed (status : Status) (h : d.Encrypts buffer) :
      WriteStep d buffer ⟨d.takePn, [.ccmpEncrypt d.tk d.fTxPnPairwise], status⟩
  | encrypted (plain : Bytes) (status : Status) (h : d.Encrypts buffer) :
      WriteStep d buffer ⟨d.takePn, [.ccmpEncrypt d.tk d.fTxPnPairwise,
        .transmitData (etherTypeAt buffer 12) (ccmpEncrypt d.tk plain 24 d.fTxPnPairwise 0).2], status⟩

theorem write_step (d : Device) (buffer : Bytes) (env : Env) :
    WriteStep d buffer (d.write buffer env) := by
  unfold write
  split
  · rename_i hremoved
    exact .refused _ fun h => by rw [h.present] at hremoved; cases hremoved
  split
  · exact .refused _ fun h => by have := h.header; omega
  split
  · exact .refused _ fun h => by have := h.header; omega
  split
  · rename_i hconn
    exact .refused _ fun h => hconn h.connected
  dsimp only
  split
  · rename_i hsize
    exact .refused _ fun h => h.size hsize
  split
  · rename_i hremoved hne hlen hconn hsize henc
    split
    · rename_i hroom
      exact .refused _ fun h => h.room hroom
    split
    · rename_i hkey
      exact .refused _ fun h => hkey h.key
    rename_i hroom hkey
    have he : d.Encrypts buffer :=
      ⟨Bool.not_eq_true _ ▸ hremoved, Nat.not_lt.mp hlen, not_not.mp hconn, hsize, henc.1, henc.2,
        hroom, not_not.mp hkey⟩
    split
    · exact .failed _ he
    · exact .encrypted _ _ he
  · rename_i hclear
    exact .clear _ _ hclear

theorem write_refines (d : Device) (buffer : Bytes) (env : Env) :
    Refines d (d.writeEvent buffer) (d.write buffer env).device (d.write buffer env).actions := by
  have hstep := d.write_step buffer env
  generalize d.write buffer env = r at hstep
  cases hstep with
  | refused status h =>
    rw [writeEvent, if_neg h]
    exact Refines.quiet rfl (by simp)
  | clear frame status h =>
    rw [writeEvent, if_neg fun he : d.Encrypts buffer => h ⟨he.enabled, he.etherType⟩]
    refine ⟨rfl, rfl, rfl, rfl, ?_⟩
    intro hen etherType f hmem hne
    simp only [List.mem_singleton, Action.transmitData.injEq] at hmem
    exact absurd ⟨hen, hmem.1 ▸ hne⟩ h
  | failed status h =>
    rw [writeEvent, if_pos h]
    refine ⟨rfl, rfl, rfl, rfl, ?_⟩
    intro _ etherType f hmem
    simp at hmem
  | encrypted plain status h =>
    rw [writeEvent, if_pos h]
    refine ⟨rfl, rfl, rfl, rfl, ?_⟩
    intro _ etherType f hmem _
    simp only [List.mem_cons, List.not_mem_nil, or_false, reduceCtorEq, false_or,
      Action.transmitData.injEq] at hmem
    exact ⟨List.mem_cons_self, plain, hmem.2⟩

/-! ### The EAPOL worker -/

theorem length_eapolKeyFrame (keyInfo : UInt16) (replayCounter nonce mic keyData : Bytes) :
    (eapolKeyFrame keyInfo replayCounter nonce mic keyData).length =
      43 + replayCounter.length + nonce.length + mic.length + keyData.length := by
  simp only [eapolKeyFrame, List.length_append, Bytes.length_be, Bytes.length_zeros,
    List.length_cons, List.length_nil]
  omega

theorem length_eapolMic (kck frame : Bytes) : (eapolMic kck frame).length = 16 := by
  simp [eapolMic]

theorem length_signedKeyFrame (kck : Bytes) (keyInfo : UInt16) (replayCounter nonce keyData : Bytes) :
    (signedKeyFrame kck keyInfo replayCounter nonce keyData).length =
      59 + replayCounter.length + nonce.length + keyData.length := by
  rw [signedKeyFrame, length_eapolKeyFrame, length_eapolMic]
  omega

theorem length_buildM4 (d : Device) (frame : Bytes) : (d.buildM4 (frame.slice 9 8)).length ≤ 99 := by
  have h : (frame.slice 9 8).length ≤ 8 := List.length_take_le _ _
  rw [buildM4, length_signedKeyFrame, Bytes.length_zeros, List.length_nil]
  omega

theorem txEapolDataFrame_eq {d : Device} {apMac : Mac} {eapol : Bytes} {env : Env}
    (h : eapol.length ≤ 256) :
    d.txEapolDataFrame apMac eapol env = ⟨d, [.transmitEapol (d.wireFrame apMac eapol)], env.transmit⟩ := by
  rw [txEapolDataFrame, if_neg (Nat.not_lt.mpr h)]

theorem txEapolDataFrame_quiet (d : Device) (apMac : Mac) (eapol : Bytes) (env : Env) :
    (d.txEapolDataFrame apMac eapol env).device = d ∧
      ∀ a ∈ (d.txEapolDataFrame apMac eapol env).actions, a.isQuiet = true := by
  unfold txEapolDataFrame
  split
  · exact ⟨rfl, by simp⟩
  · exact ⟨rfl, by simp [Action.isQuiet]⟩

/-- Message 2 adds nothing to what happened before it. -/
theorem sendM2_refines {d d0 : Device} {ke : KeyEvent Block} (senderMac : Mac) (env : Env)
    (h : Refines d0 ke d []) :
    Refines d0 ke (d.sendM2 senderMac env).1 (d.sendM2 senderMac env).2 := by
  have hreply := d.txEapolDataFrame_quiet senderMac d.buildM2 env
  unfold sendM2
  split
  · exact h
  · generalize d.txEapolDataFrame senderMac d.buildM2 env = r at hreply ⊢
    obtain ⟨hdev, hquiet⟩ := hreply
    obtain ⟨hu, hi, hf⟩ := quiet_log hquiet
    have htx : ∀ d' : Device, d'.keyState = d.keyState → Refines d0 ke d' r.actions := by
      intro d' hs
      refine ⟨hs.trans h.state, hu.trans h.used, hi.trans h.installs, ?_,
        fun _ => sealed_of_quiet hquiet⟩
      rw [hf]
      exact h.inForce.trans (congrArg State.enabled hs).symm
    dsimp only
    split
    · exact htx r.device (by rw [hdev])
    · exact htx (r.device.setEapolState .kEapolWaitM3) (by rw [hdev]; rfl)

theorem handleM1_refines (d : Device) (payload : Bytes) (senderMac : Mac) (env : Env) :
    Refines d (if d.rederives payload then .rederive (d.derivedDevice payload senderMac env).tk
      else .idle) (d.handleM1 payload senderMac env).1 (d.handleM1 payload senderMac env).2 := by
  have hnote : (d.noteM1 payload).fPmkValid = d.fPmkValid := rfl
  unfold handleM1 rederives
  cases hpmk : d.fPmkValid with
  | false =>
    simp only [hnote, hpmk]
    exact Refines.quiet rfl (by simp)
  | true =>
    cases hsame : d.sameAnonce payload with
    | true =>
      simp only [hnote, hpmk]
      exact sendM2_refines senderMac env (Refines.quiet rfl (by simp))
    | false =>
      simp only [hnote, hpmk]
      exact sendM2_refines senderMac env ⟨rfl, rfl, rfl, rfl, fun _ => sealed_of_quiet (by simp)⟩

theorem handleM3_refines (d : Device) (frame : Bytes) (bodyLen keyDataLen : Nat) (senderMac : Mac)
    (env : Env) :
    Refines d
      (match d.verifyM3 frame bodyLen keyDataLen env with
        | none => .idle
        | some gtk =>
          if env.transmit = .ok ∧ installSessionKeys gtk env = .ok then .install d.tk else .idle)
      (d.handleM3 frame bodyLen keyDataLen senderMac env).1
      (d.handleM3 frame bodyLen keyDataLen senderMac env).2 := by
  unfold handleM3
  cases d.verifyM3 frame bodyLen keyDataLen env with
  | none => exact Refines.quiet rfl (by simp)
  | some gtk =>
    have hlen : (d.buildM4 (frame.slice 9 8)).length ≤ 256 :=
      Nat.le_trans (d.length_buildM4 frame) (by decide)
    simp only [finishM3, txEapolDataFrame_eq hlen]
    by_cases hok : env.transmit = .ok
    · by_cases hkeys : installSessionKeys gtk env = .ok
      · simp only [hok, hkeys, and_self, ne_eq, not_true_eq_false, ↓reduceIte]
        refine ⟨rfl, rfl, rfl, rfl, ?_⟩
        intro _ etherType f hmem
        simp at hmem
      · simp only [hok, hkeys, and_false, ne_eq, not_true_eq_false, ↓reduceIte]
        exact Refines.quiet rfl (by simp [Action.isQuiet])
    · simp only [hok, false_and, ne_eq, not_false_eq_true, ↓reduceIte]
      exact Refines.quiet rfl (by simp [Action.isQuiet])

theorem handleEapolFrame_refines (d : Device) (payload : Bytes) (senderMac : Mac) (env : Env) :
    Refines d (d.eapolEvent payload senderMac env) (d.handleEapolFrame payload senderMac env).1
      (d.handleEapolFrame payload senderMac env).2 := by
  unfold eapolEvent handleEapolFrame
  cases d.classify payload with
  | none => exact Refines.quiet rfl (by simp)
  | some message =>
    cases message with
    | m1 => exact d.handleM1_refines payload senderMac env
    | m3 => exact d.handleM3_refines _ _ _ senderMac env

theorem eapolWorker_eq {d : Device} {env : Env} (hr : d.fRemoved = false)
    (hp : d.fEapolPending = true) :
    d.eapolWorker env = d.takeInbox.handleEapolFrame d.inboxPayload d.fEapolInbox.senderMac env := by
  simp only [eapolWorker, hr, hp, Bool.false_eq_true, ↓reduceIte]

theorem eapolWorker_idle {d : Device} {env : Env}
    (h : ¬ (d.fRemoved = false ∧ d.fEapolPending = true)) : d.eapolWorker env = (d, []) := by
  unfold eapolWorker
  split
  · rfl
  · rename_i hr
    exact if_neg fun hp => h ⟨Bool.not_eq_true _ ▸ hr, hp⟩

theorem eapolWorker_refines (d : Device) (env : Env) :
    Refines d (d.workerEvent env) (d.eapolWorker env).1 (d.eapolWorker env).2 := by
  unfold workerEvent
  split
  · rename_i h
    have hframe := d.takeInbox.handleEapolFrame_refines d.inboxPayload d.fEapolInbox.senderMac env
    rw [eapolWorker_eq h.1 h.2]
    exact ⟨hframe.state, hframe.used, hframe.installs, hframe.inForce, hframe.isSealed⟩
  · rename_i h
    rw [eapolWorker_idle h]
    exact Refines.quiet rfl (by simp)

/-! ### The ioctls -/

theorem Refines.join {d d' : Device} {actions : List Action}
    (hs : d'.keyState = { d.keyState with enabled := false })
    (hq : ∀ a ∈ actions, a.isQuiet = true) : Refines d .clear d' (.joinRequest :: actions) := by
  obtain ⟨hu, hi, hf⟩ := quiet_log hq
  refine ⟨hs, hu, hi, (hf false).trans (congrArg State.enabled hs).symm, ?_⟩
  intro _ etherType f hmem
  rcases List.mem_cons.mp hmem with h | h
  · cases h
  · cases hq _ h

theorem doJoin_refines {d0 d : Device} (hs : d.keyState = d0.keyState) (bssid : Mac) (ssid : Bytes)
    (ssidLen : Nat) (env : Env) :
    Refines d0 .clear (d.doJoin bssid ssid ssidLen env).device
      (d.doJoin bssid ssid ssidLen env).actions := by
  have hreset : ∀ d' : Device, d'.keyState = d.joinReset.keyState →
      d'.keyState = { d0.keyState with enabled := false } := by
    intro d' h
    rw [h, ← hs]
    rfl
  have hstart : ∀ b, Refines d0 .clear (d.joinReset.startJoin b ssid ssidLen env).device
      (d.joinReset.startJoin b ssid ssidLen env).actions := fun b =>
    Refines.join (hreset _ rfl) (by simp [sendAuthRequest, Action.isQuiet])
  unfold doJoin
  dsimp only
  split
  · split
    · exact Refines.join (hreset _ rfl) (by simp)
    · exact hstart _
  · exact hstart _

theorem holdKey_keyState (d : Device) (keyix : UInt16) (macaddr : Mac) (keydata : Block) :
    (d.holdKey keyix macaddr keydata).keyState = d.keyState := by
  unfold holdKey
  split <;> rfl

theorem armKeys_keyState (d : Device) :
    d.armKeys.keyState = { key := d.fSupplicantTk, counter := 1, enabled := true } := by
  have htk : d.armKeys.tk = d.fSupplicantTk := by
    apply Buf.ext
    have hfit : 32 + d.fSupplicantTk.bytes.length ≤ 48 := by simp
    have hslice := Buf.slice_copyAt d.fPtk hfit
    rwa [d.fSupplicantTk.length_eq] at hslice
  rw [keyState, htk]
  rfl

theorem wpaKey_refines (d : Device) (keyix : UInt16) (keylen : UInt8) (macaddr : Mac)
    (keydata : Block) (env : Env) :
    Refines d
      (if keylen = 16 ∧ (d.holdKey keyix macaddr keydata).keysComplete env then
        .install (d.holdKey keyix macaddr keydata).fSupplicantTk
      else .idle)
      (d.wpaKey keyix keylen macaddr keydata env).device
      (d.wpaKey keyix keylen macaddr keydata env).actions := by
  have hhold := d.holdKey_keyState keyix macaddr keydata
  have hccmp : (d.holdKey keyix macaddr keydata).fCcmpEnabled = d.fCcmpEnabled :=
    congrArg State.enabled hhold
  unfold wpaKey keysComplete
  by_cases hlen : keylen = 16
  · simp only [hlen, ne_eq, not_true_eq_false, ↓reduceIte, true_and]
    generalize d.holdKey keyix macaddr keydata = held at hhold hccmp
    cases htk : held.fSupplicantTkValid with
    | false => exact Refines.quiet hhold (by simp)
    | true =>
      cases hgtk : held.fSupplicantGtkValid with
      | false => exact Refines.quiet hhold (by simp)
      | true =>
        generalize installSessionKeys _ env = status
        cases status with
        | ok =>
          refine ⟨held.armKeys_keyState, rfl, rfl, rfl, ?_⟩
          intro _ etherType f hmem
          simp at hmem
        | _ => exact Refines.quiet hhold (by simp)
  · simp only [hlen, ne_eq, not_false_eq_true, ↓reduceIte, false_and]
    exact Refines.quiet rfl (by simp)

theorem haikuJoinPsk_keyState (d : Device) (bssid : Mac) (passphrase ssid : Bytes) :
    (defaultRsnIe { (d.setPmk passphrase ssid).setSsid ssid with fJoinBssid := bssid }).keyState =
      d.keyState := by
  unfold defaultRsnIe
  split <;> rfl

theorem control_refines (d : Device) (request : Request) (env : Env) :
    Refines d (d.controlEvent request env) (d.control request env).device
      (d.control request env).actions := by
  unfold controlEvent control
  split
  · exact Refines.quiet rfl (by simp)
  unfold set80211
  cases request with
  | ssid data => exact Refines.quiet rfl (by simp)
  | bssid data =>
    dsimp only
    split <;> exact Refines.quiet rfl (by simp)
  | mlme op macaddr ssidLen ssid =>
    dsimp only [mlme]
    split
    · exact doJoin_refines rfl _ _ _ env
    · split
      · exact Refines.quiet (by unfold disconnectRequest; split <;> rfl) (by simp)
      · exact Refines.quiet rfl (by simp)
  | appie data =>
    dsimp only [appie]
    split
    · exact Refines.quiet rfl (by simp)
    · split <;> exact Refines.quiet rfl (by simp)
  | wpaKey keyix keylen macaddr keydata => exact d.wpaKey_refines keyix keylen macaddr keydata env
  | dropUnencrypted val => exact Refines.quiet rfl (by simp)
  | privacy val => exact Refines.quiet rfl (by simp)
  | haikuJoinPsk bssid ssidLen ssid passphraseLen passphrase =>
    dsimp only [haikuJoinPsk]
    split
    · exact Refines.quiet rfl (by simp)
    · exact doJoin_refines (d.haikuJoinPsk_keyState _ _ _) _ _ _ env
  | haikuJoin =>
    dsimp only [haikuJoin]
    split
    · exact Refines.quiet rfl (by simp)
    · exact doJoin_refines rfl _ _ _ env
  | other => exact Refines.quiet rfl (by simp)

/-! ### Received frames -/

theorem handleAuthResponse_refines (d : Device) (frame : Bytes) (env : Env) :
    Refines d .idle (d.handleAuthResponse frame env).1 (d.handleAuthResponse frame env).2 := by
  unfold handleAuthResponse
  split
  · exact Refines.quiet rfl (by simp)
  · split
    · exact Refines.quiet rfl (by simp)
    · split
      · exact Refines.quiet rfl (by simp)
      · dsimp only [sendAssocRequest]
        split <;> exact Refines.quiet rfl (by simp [Action.isQuiet])

theorem handleAssocResponse_keyState (d : Device) (frame : Bytes) :
    (d.handleAssocResponse frame).keyState = d.keyState := by
  unfold handleAssocResponse
  split
  · rfl
  · split
    · rfl
    · split <;> rfl

theorem enqueue_keyState (d : Device) (entry : RxRingEntry) :
    (d.enqueue entry).keyState = d.keyState := by
  unfold enqueue makeRoom
  split <;> rfl

theorem rxDeliver_refines {d d' : Device} {frame : Bytes} {r : Decap} {actions : List Action}
    (h : d.rxDeliver frame r = some (d', actions)) : Refines d .idle d' actions := by
  unfold rxDeliver at h
  split at h
  · cases h
    exact Refines.quiet rfl (by simp)
  · cases h
    exact Refines.quiet rfl (by simp)
  · split at h
    · cases h
    · cases h
      exact Refines.quiet (d.enqueue_keyState _) (by simp [Action.isQuiet])

theorem rxFrameReceived_refines {d d' : Device} {frame : Bytes} {isC2H : Bool} {env : Env}
    {actions : List Action} (h : d.rxFrameReceived frame isC2H env = some (d', actions)) :
    Refines d .idle d' actions := by
  have hnone : some (d, []) = some (d', actions) → Refines d .idle d' actions := by
    intro h
    cases h
    exact Refines.quiet rfl (by simp)
  unfold rxFrameReceived at h
  split at h
  · exact hnone h
  split at h
  · exact hnone h
  split at h
  · split at h
    · have hauth := d.handleAuthResponse_refines frame env
      rwa [Option.some.inj h] at hauth
    split at h
    · obtain ⟨hd, ha⟩ := Prod.mk.inj (Option.some.inj h)
      rw [← hd, ← ha]
      exact Refines.quiet (d.handleAssocResponse_keyState frame) (by simp)
    · exact hnone h
  split at h
  · exact hnone h
  unfold rxData at h
  split at h
  · exact hnone h
  · exact rxDeliver_refines h

theorem read_keyState (d : Device) (numBytes : Nat) : (d.read numBytes).1.keyState = d.keyState := by
  unfold read
  dsimp only
  split <;> rfl

/-- A step of the device is a step of the key ledger. -/
theorem step_refines {d d' : Device} {e : Event} {env : Env} {actions : List Action}
    (h : d.step e env = some (d', actions)) : Refines d (d.keyEvent e env) d' actions := by
  unfold step at h
  cases e with
  | write buffer =>
    cases h
    exact d.write_refines buffer env
  | read numBytes =>
    cases h
    exact Refines.quiet (d.read_keyState numBytes) (by simp)
  | rxFrame frame isC2H => exact rxFrameReceived_refines h
  | eapolWorker =>
    have hworker := d.eapolWorker_refines env
    rwa [Option.some.inj h] at hworker
  | control request =>
    cases h
    exact d.control_refines request env
  | setRemoved =>
    cases h
    exact Refines.quiet rfl (by simp)

end Device

namespace System

open KeyLedger (Ledger)

def ledger (s : System) : Ledger Block where
  state := s.device.keyState
  used := usedNonces s.log
  installs := installedKeys s.log

theorem next_eq_some {s s' : System} {e : Event × Env} (h : s.next e = some s') :
    ∃ actions, s.device.step e.1 e.2 = some (s'.device, actions) ∧ s'.log = s.log ++ actions := by
  unfold next at h
  cases hs : s.device.step e.1 e.2 with
  | none => rw [hs] at h; cases h
  | some r =>
    rw [hs] at h
    cases h
    exact ⟨r.2, rfl, rfl⟩

theorem ledger_next {s s' : System} {e : Event × Env} (h : s.next e = some s') :
    s'.ledger = s.ledger.next (s.device.keyEvent e.1 e.2) := by
  obtain ⟨actions, hstep, hlog⟩ := next_eq_some h
  have hr := Device.step_refines hstep
  unfold ledger Ledger.next
  rw [hlog, usedNonces_append, installedKeys_append, hr.state, hr.used, hr.installs]

/-- CCMP is enabled exactly when no join request came after the last installation. -/
theorem inForce_next {s s' : System} {e : Event × Env} (h : s.next e = some s')
    (hi : s.device.fCcmpEnabled = keysInForce false s.log) :
    s'.device.fCcmpEnabled = keysInForce false s'.log := by
  obtain ⟨actions, hstep, hlog⟩ := next_eq_some h
  rw [hlog, keysInForce_append, ← hi]
  exact (Device.step_refines hstep).inForce.symm

end System
end Rtl8814au
