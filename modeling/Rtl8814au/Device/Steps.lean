import Rtl8814au.Device.KeyState

/-!
# Device.Steps

What each call can come to, with the conditions under which it does.

* `write_device`, `read_device`, `enqueue_device`: all that the data path changes.
* `RxStep`: a received frame, from the join responses to the inbox and the ring; `KeepsKeys` is what
  it leaves alone.
* `EapolStep`: a wakeup of the EAPOL worker; `KeepsJoin` is what it leaves alone.
* `ControlStep`: an ioctl; `Joins` names the calls of `_DoJoin` and `joinTarget` what they find.
* `Step`: any step of the device.

The invariants of the join and key state are proved by cases on these.
-/

namespace Rtl8814au
namespace Device

/-! ## The data path -/

theorem write_device (d : Device) (buffer : Bytes) (env : Env) :
    (d.write buffer env).device = d ∨ (d.write buffer env).device = d.takePn := by
  have hstep := d.write_step buffer env
  generalize d.write buffer env = r at hstep
  cases hstep with
  | refused status h => exact .inl rfl
  | clear frame status h => exact .inl rfl
  | failed status h => exact .inr rfl
  | encrypted plain status h => exact .inr rfl

theorem read_device (d : Device) (numBytes : Nat) :
    ∃ ring tail, (d.read numBytes).1 = { d with fRxRing := ring, fRxRingTail := tail } := by
  unfold read
  dsimp only
  split
  · exact ⟨d.fRxRing, d.fRxRingTail, rfl⟩
  · exact ⟨_, _, rfl⟩

theorem enqueue_device (d : Device) (entry : RxRingEntry) :
    ∃ ring head tail, d.enqueue entry =
      { d with fRxRing := ring, fRxRingHead := head, fRxRingTail := tail } := by
  unfold enqueue makeRoom
  split
  · exact ⟨_, _, _, rfl⟩
  · exact ⟨_, _, _, rfl⟩

/-- The keys held for a supplicant. -/
def supplicantKeys (d : Device) : Crypto.Block × Bool × Crypto.Block × UInt8 × Bool :=
  (d.fSupplicantTk, d.fSupplicantTkValid, d.fSupplicantGtk, d.fSupplicantGtkId,
    d.fSupplicantGtkValid)

/-! ## Received frames -/

/-- A response that a handler goes by: it has the right subtype, waits for it, and it is for us. -/
structure Answers (d : Device) (frame : Bytes) (subtype : UInt8) (waiting : JoinState) : Prop where
  header : ¬ UInt32.ofNat frame.length < 24
  management : frameType frame = 0
  subtypeEq : frameSubtype frame = subtype
  size : 30 ≤ frame.length
  waits : d.fJoinState = waiting
  forUs : d.isForThisJoin frame = true

instance (d : Device) (frame : Bytes) (subtype : UInt8) (waiting : JoinState) :
    Decidable (d.Answers frame subtype waiting) :=
  decidable_of_iff (¬ UInt32.ofNat frame.length < 24 ∧ frameType frame = 0 ∧
      frameSubtype frame = subtype ∧ 30 ≤ frame.length ∧ d.fJoinState = waiting ∧
      d.isForThisJoin frame = true)
    ⟨fun ⟨h1, h2, h3, h4, h5, h6⟩ => ⟨h1, h2, h3, h4, h5, h6⟩,
      fun ⟨h1, h2, h3, h4, h5, h6⟩ => ⟨h1, h2, h3, h4, h5, h6⟩⟩

/-- Algorithm 0, sequence 2, status 0. -/
def authSucceeds (frame : Bytes) : Bool :=
  le16At frame 24 = 0 ∧ le16At frame 26 = 2 ∧ le16At frame 28 = 0

/-- Status 0. -/
def assocSucceeds (frame : Bytes) : Bool := le16At frame 26 = 0

def acceptsAuth (d : Device) (frame : Bytes) : Bool :=
  d.Answers frame 11 .kJoinAuthenticating ∧ authSucceeds frame

def acceptsAssoc (d : Device) (frame : Bytes) : Bool :=
  d.Answers frame 1 .kJoinAssociating ∧ assocSucceeds frame

/-- A data frame past the length check of `_RxFrameReceived`. -/
structure IsData (frame : Bytes) : Prop where
  header : ¬ UInt32.ofNat frame.length < 24
  data : frameType frame = 2

inductive RxStep (d : Device) (frame : Bytes) (env : Env) : Device × List Action → Prop where
  | ignored : RxStep d frame env (d, [])
  | refused (h : d.fJoinState = .kJoinAuthenticating ∨ d.fJoinState = .kJoinAssociating) :
      RxStep d frame env ({ d with fJoinState := .kJoinIdle }, [])
  -- The association request could not be sent.
  | requestLost (h : d.acceptsAuth frame = true) (actions : List Action) :
      RxStep d frame env ({ d.bumpSeq with fJoinState := .kJoinIdle }, actions)
  | authenticated (h : d.acceptsAuth frame = true) (ht : env.transmit = .ok)
      (actions : List Action) :
      RxStep d frame env ({ d.bumpSeq with fJoinState := .kJoinAssociating }, actions)
  | associated (h : d.acceptsAssoc frame = true) :
      RxStep d frame env ({ d with fJoinState := .kJoinConnected }, [])
  | inbox (r : Decap) (hd : IsData frame) (hr : d.rxDecap frame = some r)
      (hs : d.rxSink r = .inbox) :
      RxStep d frame env
        ({ d with fEapolInbox := r.inboxFrame d.fEapolInbox, fEapolPending := true }, [])
  | ring (r : Decap) (hd : IsData frame) (hr : d.rxDecap frame = some r)
      (hs : d.rxSink r = .ring) :
      RxStep d frame env (d.enqueue (r.ringEntry (d.fRxRing d.fRxRingHead)),
        [.enqueue frame (r.ringEntry (d.fRxRing d.fRxRingHead))])

theorem handleAuthResponse_step {d : Device} {frame : Bytes} {env : Env}
    (h24 : ¬ UInt32.ofNat frame.length < 24) (htype : frameType frame = 0)
    (hsub : frameSubtype frame = 11) : RxStep d frame env (d.handleAuthResponse frame env) := by
  unfold handleAuthResponse
  split
  · exact .ignored
  rename_i hwait
  split
  · exact .ignored
  rename_i hus
  rw [not_or, Nat.not_lt, not_not] at hwait
  rw [not_not] at hus
  split
  · exact .refused (.inl hwait.2)
  rename_i hok
  simp only [not_or, not_not] at hok
  have hacc : d.acceptsAuth frame = true :=
    decide_eq_true ⟨⟨h24, htype, hsub, hwait.1, hwait.2, hus⟩, decide_eq_true hok⟩
  dsimp only [sendAssocRequest]
  split
  · exact .requestLost hacc _
  · rename_i ht
    exact .authenticated hacc (not_not.mp ht) _

theorem handleAssocResponse_step {d : Device} {frame : Bytes} {env : Env}
    (h24 : ¬ UInt32.ofNat frame.length < 24) (htype : frameType frame = 0)
    (hsub : frameSubtype frame = 1) : RxStep d frame env (d.handleAssocResponse frame, []) := by
  unfold handleAssocResponse
  split
  · exact .ignored
  rename_i hwait
  split
  · exact .ignored
  rename_i hus
  rw [not_or, Nat.not_lt, not_not] at hwait
  rw [not_not] at hus
  split
  · exact .refused (.inr hwait.2)
  rename_i hok
  exact .associated
    (decide_eq_true ⟨⟨h24, htype, hsub, hwait.1, hwait.2, hus⟩, decide_eq_true (not_not.mp hok)⟩)

theorem rxData_step {d : Device} {frame : Bytes} {env : Env} {out : Device × List Action}
    (hd : IsData frame) (h : d.rxData frame = some out) : RxStep d frame env out := by
  unfold rxData at h
  cases hr : d.rxDecap frame with
  | none =>
    rw [hr] at h
    cases h
    exact .ignored
  | some r =>
    rw [hr] at h
    change d.rxDeliver frame r = some out at h
    unfold rxDeliver at h
    cases hs : d.rxSink r with
    | drop =>
      rw [hs] at h
      cases h
      exact .ignored
    | inbox =>
      rw [hs] at h
      cases h
      exact .inbox r hd hr hs
    | ring =>
      rw [hs] at h
      dsimp only at h
      split at h
      · cases h
      · cases h
        exact .ring r hd hr hs

theorem rxFrameReceived_step {d : Device} {frame : Bytes} {isC2H : Bool} {env : Env}
    {out : Device × List Action} (h : d.rxFrameReceived frame isC2H env = some out) :
    RxStep d frame env out := by
  have hnone : some (d, []) = some out → RxStep d frame env out := by
    intro h
    cases h
    exact .ignored
  unfold rxFrameReceived at h
  split at h
  · exact hnone h
  split at h
  · exact hnone h
  rename_i h24
  split at h
  · rename_i htype
    split at h
    · rename_i hsub
      cases h
      exact handleAuthResponse_step h24 htype hsub
    split at h
    · rename_i hsub
      cases h
      exact handleAssocResponse_step h24 htype hsub
    · exact hnone h
  split at h
  · exact hnone h
  · rename_i hdata
    exact rxData_step ⟨h24, not_not.mp hdata⟩ h

/-- The handshake and the keys are as before. -/
structure KeepsKeys (d d' : Device) : Prop where
  removed : d'.fRemoved = d.fRemoved
  eapolState : d'.fEapolState = d.fEapolState
  pmkValid : d'.fPmkValid = d.fPmkValid
  ptkValid : d'.fPtkValid = d.fPtkValid
  gtkValid : d'.fGtkValid = d.fGtkValid
  ccmpEnabled : d'.fCcmpEnabled = d.fCcmpEnabled
  supplicantKeys : d'.supplicantKeys = d.supplicantKeys

/-- A received frame only touches the join, the inbox and the ring. -/
theorem RxStep.keepsKeys {d : Device} {frame : Bytes} {env : Env} {out : Device × List Action}
    (h : RxStep d frame env out) : KeepsKeys d out.1 := by
  cases h with
  | ring r hd hr hs =>
    obtain ⟨ring, head, tail, heq⟩ := d.enqueue_device (r.ringEntry (d.fRxRing d.fRxRingHead))
    rw [heq]
    exact ⟨rfl, rfl, rfl, rfl, rfl, rfl, rfl⟩
  | _ => exact ⟨rfl, rfl, rfl, rfl, rfl, rfl, rfl⟩

/-! ## The EAPOL worker -/

/-- The worker has a frame to handle. -/
structure Wakes (d : Device) : Prop where
  present : d.fRemoved = false
  pending : d.fEapolPending = true

instance (d : Device) : Decidable d.Wakes :=
  decidable_of_iff (d.fRemoved = false ∧ d.fEapolPending = true)
    ⟨fun ⟨h1, h2⟩ => ⟨h1, h2⟩, fun ⟨h1, h2⟩ => ⟨h1, h2⟩⟩

/-- A message 1 taken in, with the PTK for it. -/
def keyedM1 (d : Device) (payload : Bytes) (senderMac : Mac) (env : Env) : Device :=
  if d.sameAnonce payload then d.noteM1 payload
  else (d.noteM1 payload).derivePtk senderMac env.snonce

/-- The group key of the message 3 the worker has to handle. -/
def inboxM3 (d : Device) (env : Env) : Option GtkKde :=
  if d.classify d.inboxPayload = some .m3 then
    d.verifyM3 (d.inboxPayload ++ env.stack) (be16At d.inboxPayload 2) (be16At d.inboxPayload 97) env
  else none

/-- A group key of 16 bytes, and register writes that succeed. -/
def Installs (gtk : GtkKde) (env : Env) : Prop := gtk.gtkKey.length = 16 ∧ env.registers = .ok

instance (gtk : GtkKde) (env : Env) : Decidable (Installs gtk env) :=
  inferInstanceAs (Decidable (_ ∧ _))

theorem installSessionKeys_iff {gtk : GtkKde} {env : Env} (h : gtk.gtkKeyId ≤ 3) :
    installSessionKeys gtk env = .ok ↔ Installs gtk env := by
  have hid : ¬ gtk.gtkKeyId > 3 := UInt8.not_lt.mpr h
  unfold installSessionKeys Installs
  by_cases hlen : gtk.gtkKey.length = 16
  · rw [if_neg (not_not.mpr hlen), if_neg hid]
    exact ⟨fun hok => ⟨hlen, hok⟩, fun hok => hok.2⟩
  · rw [if_pos hlen]
    constructor
    · intro hok
      cases hok
    · intro hok
      exact absurd hok.1 hlen

inductive EapolStep (d : Device) (env : Env) : Device × List Action → Prop where
  | idle (hw : ¬ d.Wakes) : EapolStep d env (d, [])
  | ignored (hw : d.Wakes) (hc : d.classify d.inboxPayload ≠ some .m1) (h : d.inboxM3 env = none) :
      EapolStep d env (d.takeInbox, [])
  | noted (hw : d.Wakes) (hc : d.classify d.inboxPayload = some .m1) (h : d.fPmkValid = false) :
      EapolStep d env (d.takeInbox.noteM1 d.inboxPayload, [])
  | unanswered (hw : d.Wakes) (hc : d.classify d.inboxPayload = some .m1) (h : d.fPmkValid = true)
      (actions : List Action) :
      EapolStep d env
        (d.takeInbox.keyedM1 d.inboxPayload d.fEapolInbox.senderMac env, actions)
  | answered (hw : d.Wakes) (hc : d.classify d.inboxPayload = some .m1) (h : d.fPmkValid = true)
      (actions : List Action) :
      EapolStep d env
        ((d.takeInbox.keyedM1 d.inboxPayload d.fEapolInbox.senderMac env).setEapolState
          .kEapolWaitM3, actions)
  | m4Lost (gtk : GtkKde) (hw : d.Wakes) (h : d.inboxM3 env = some gtk) (ht : env.transmit ≠ .ok)
      (actions : List Action) : EapolStep d env (d.takeInbox, actions)
  | installed (gtk : GtkKde) (hw : d.Wakes) (h : d.inboxM3 env = some gtk) (ht : env.transmit = .ok)
      (hi : installSessionKeys gtk env = .ok) (actions : List Action) :
      EapolStep d env ((d.takeInbox.acceptKeys gtk).setEapolState .kEapolDone, actions)
  | installFailed (gtk : GtkKde) (hw : d.Wakes) (h : d.inboxM3 env = some gtk)
      (ht : env.transmit = .ok) (hi : installSessionKeys gtk env ≠ .ok) (actions : List Action) :
      EapolStep d env (d.takeInbox.setEapolState .kEapolDone, actions)

theorem handleM1_step {d : Device} {env : Env} (hw : d.Wakes)
    (hc : d.classify d.inboxPayload = some .m1) :
    EapolStep d env (d.takeInbox.handleM1 d.inboxPayload d.fEapolInbox.senderMac env) := by
  have hsend : ∀ d1 : Device, d1 = d.takeInbox.keyedM1 d.inboxPayload d.fEapolInbox.senderMac env →
      d.fPmkValid = true → EapolStep d env (d1.sendM2 d.fEapolInbox.senderMac env) := by
    intro d1 hd1 hpmk
    have hdev := (d1.txEapolDataFrame_quiet d.fEapolInbox.senderMac d1.buildM2 env).1
    unfold sendM2
    split
    · rw [hd1]
      exact .unanswered hw hc hpmk _
    · dsimp only
      split
      · rw [hdev, hd1]
        exact .unanswered hw hc hpmk _
      · rw [hdev, hd1]
        exact .answered hw hc hpmk _
  unfold handleM1
  dsimp only
  split
  · rename_i hpmk
    exact .noted hw hc (Bool.not_eq_true _ ▸ hpmk)
  rename_i hpmk
  rw [not_not] at hpmk
  split
  · rename_i hsame
    exact hsend _ (if_pos hsame).symm hpmk
  · rename_i hsame
    exact hsend _ (if_neg hsame).symm hpmk

theorem handleM3_step {d : Device} {env : Env} (hw : d.Wakes)
    (hc : d.classify d.inboxPayload = some .m3) :
    EapolStep d env (d.takeInbox.handleM3 (d.inboxPayload ++ env.stack) (be16At d.inboxPayload 2)
      (be16At d.inboxPayload 97) d.fEapolInbox.senderMac env) := by
  have hinbox : d.takeInbox.verifyM3 (d.inboxPayload ++ env.stack) (be16At d.inboxPayload 2)
      (be16At d.inboxPayload 97) env = d.inboxM3 env := (if_pos hc).symm
  unfold handleM3
  rw [hinbox]
  cases hm3 : d.inboxM3 env with
  | none => exact .ignored hw (by rw [hc]; decide) hm3
  | some gtk =>
    have hlen : (d.takeInbox.buildM4 ((d.inboxPayload ++ env.stack).slice 9 8)).length ≤ 256 :=
      Nat.le_trans (length_buildM4 _ _) (by decide)
    simp only [finishM3, txEapolDataFrame_eq hlen]
    by_cases ht : env.transmit = .ok
    · by_cases hi : installSessionKeys gtk env = .ok
      · simp only [ht, hi, ne_eq, not_true_eq_false, ↓reduceIte]
        exact .installed gtk hw hm3 ht hi _
      · simp only [ht, hi, ne_eq, not_true_eq_false, ↓reduceIte]
        exact .installFailed gtk hw hm3 ht hi _
    · simp only [ht, ne_eq, not_false_eq_true, ↓reduceIte]
      exact .m4Lost gtk hw hm3 ht _

theorem eapolWorker_step (d : Device) (env : Env) : EapolStep d env (d.eapolWorker env) := by
  by_cases hw : d.Wakes
  · rw [eapolWorker_eq hw.present hw.pending]
    unfold handleEapolFrame
    cases hc : d.classify d.inboxPayload with
    | none =>
      have hclass : d.takeInbox.classify d.inboxPayload = none := hc
      rw [hclass]
      exact .ignored hw (by rw [hc]; decide) (if_neg (by rw [hc]; decide))
    | some message =>
      have hclass : d.takeInbox.classify d.inboxPayload = some message := hc
      rw [hclass]
      cases message with
      | m1 => exact handleM1_step hw hc
      | m3 => exact handleM3_step hw hc
  · rw [eapolWorker_idle fun h => hw ⟨h.1, h.2⟩]
    exact .idle hw

/-- The join, the PMK and the keys of a supplicant are as before. -/
structure KeepsJoin (d d' : Device) : Prop where
  removed : d'.fRemoved = d.fRemoved
  macAddress : d'.fMacAddress = d.fMacAddress
  joinState : d'.fJoinState = d.fJoinState
  joinBssid : d'.fJoinBssid = d.fJoinBssid
  pmkValid : d'.fPmkValid = d.fPmkValid
  supplicantKeys : d'.supplicantKeys = d.supplicantKeys

theorem keyedM1_device (d : Device) (payload : Bytes) (senderMac : Mac) (env : Env) :
    ∃ snonce ptk ptkValid, d.keyedM1 payload senderMac env =
      { d.noteM1 payload with fSnonce := snonce, fPtk := ptk, fPtkValid := ptkValid } := by
  unfold keyedM1
  split
  · exact ⟨d.fSnonce, d.fPtk, d.fPtkValid, rfl⟩
  · exact ⟨_, _, _, rfl⟩

theorem keepsJoin_keyedM1 (d : Device) (payload : Bytes) (senderMac : Mac) (env : Env) :
    KeepsJoin d (d.takeInbox.keyedM1 payload senderMac env) := by
  obtain ⟨snonce, ptk, ptkValid, heq⟩ := d.takeInbox.keyedM1_device payload senderMac env
  rw [heq]
  exact ⟨rfl, rfl, rfl, rfl, rfl, rfl⟩

/-- The worker only touches the handshake and the session keys. -/
theorem EapolStep.keepsJoin {d : Device} {env : Env} {out : Device × List Action}
    (h : EapolStep d env out) : KeepsJoin d out.1 := by
  have hkeyed := d.keepsJoin_keyedM1 d.inboxPayload d.fEapolInbox.senderMac env
  cases h with
  | unanswered hw hc hpmk actions => exact hkeyed
  | answered hw hc hpmk actions =>
    obtain ⟨h1, h2, h3, h4, h5, h6⟩ := hkeyed
    exact ⟨h1, h2, h3, h4, h5, h6⟩
  | _ => exact ⟨rfl, rfl, rfl, rfl, rfl, rfl⟩

/-! ## The ioctls -/

/-- The BSSID `_DoJoin` goes for. -/
def joinTarget (bssid : Mac) (env : Env) : Option Mac :=
  if isWildcardBssid bssid then env.bss else some bssid

theorem doJoin_eq (d : Device) (bssid : Mac) (ssid : Bytes) (ssidLen : Nat) (env : Env) :
    d.doJoin bssid ssid ssidLen env =
      match joinTarget bssid env with
      | none => ⟨d.joinReset, [.joinRequest], .nameNotFound⟩
      | some target => d.joinReset.startJoin target ssid ssidLen env := by
  unfold doJoin joinTarget
  split
  · cases env.bss with
    | none => rfl
    | some resolved => rfl
  · rfl

/-- The fields a passphrase request sets ahead of `_DoJoin`. -/
def withPassphrase (d : Device) (bssid : Mac) (ssidLen : UInt8) (ssid : Buf 32)
    (passphraseLen : UInt8) (passphrase : Buf 64) : Device :=
  defaultRsnIe
    { (d.setPmk (passphrase.bytes.take passphraseLen.toNat) (ssid.bytes.take ssidLen.toNat)).setSsid
        (ssid.bytes.take ssidLen.toNat) with fJoinBssid := bssid }

/-- Only the RSN IE depends on what was there before. -/
theorem withPassphrase_device (d : Device) (bssid : Mac) (ssidLen : UInt8) (ssid : Buf 32)
    (passphraseLen : UInt8) (passphrase : Buf 64) :
    ∃ wpaIe wpaIeLength, d.withPassphrase bssid ssidLen ssid passphraseLen passphrase =
      { (d.setPmk (passphrase.bytes.take passphraseLen.toNat)
            (ssid.bytes.take ssidLen.toNat)).setSsid (ssid.bytes.take ssidLen.toNat) with
        fJoinBssid := bssid, fWpaIe := wpaIe, fWpaIeLength := wpaIeLength } := by
  unfold withPassphrase defaultRsnIe
  split
  · exact ⟨_, _, rfl⟩
  · exact ⟨d.fWpaIe, d.fWpaIeLength, rfl⟩

/-- A new PMK and a new target; the join is as before, and so are the keys of a supplicant. -/
structure TakesPassphrase (d : Device) (bssid : Mac) (d' : Device) : Prop where
  macAddress : d'.fMacAddress = d.fMacAddress
  joinState : d'.fJoinState = d.fJoinState
  joinBssid : d'.fJoinBssid = bssid
  eapolState : d'.fEapolState = .kEapolWaitM1
  pmkValid : d'.fPmkValid = true
  supplicantKeys : d'.supplicantKeys = d.supplicantKeys

theorem takesPassphrase (d : Device) (bssid : Mac) (ssidLen : UInt8) (ssid : Buf 32)
    (passphraseLen : UInt8) (passphrase : Buf 64) :
    TakesPassphrase d bssid (d.withPassphrase bssid ssidLen ssid passphraseLen passphrase) := by
  obtain ⟨wpaIe, wpaIeLength, heq⟩ :=
    d.withPassphrase_device bssid ssidLen ssid passphraseLen passphrase
  rw [heq]
  exact ⟨rfl, rfl, rfl, rfl, rfl, rfl⟩

/-- A key of a supplicant, and the BSSID that a pairwise one comes with. -/
theorem holdKey_device (d : Device) (keyix : UInt16) (macaddr : Mac) (keydata : Crypto.Block) :
    ∃ tk tkValid bssid gtk gtkId gtkValid, d.holdKey keyix macaddr keydata =
      { d with
        fSupplicantTk := tk, fSupplicantTkValid := tkValid, fJoinBssid := bssid,
        fSupplicantGtk := gtk, fSupplicantGtkId := gtkId, fSupplicantGtkValid := gtkValid } := by
  unfold holdKey
  split
  · exact ⟨_, _, _, d.fSupplicantGtk, d.fSupplicantGtkId, d.fSupplicantGtkValid, rfl⟩
  · exact ⟨d.fSupplicantTk, d.fSupplicantTkValid, d.fJoinBssid, _, _, _, rfl⟩

/-- The request calls `_DoJoin` on `d1`, with these arguments. -/
inductive Joins (d : Device) : Request → Device → Mac → Bytes → Nat → Prop where
  | mlme (macaddr : Mac) (ssidLen : UInt8) (ssid : Buf 32) :
      Joins d (.mlme kMlmeAssoc macaddr ssidLen ssid) d macaddr
        (ssid.bytes.take (min ssidLen.toNat 32) ++ [0]) (min ssidLen.toNat 32)
  | passphrase (bssid : Mac) (ssidLen : UInt8) (ssid : Buf 32) (passphraseLen : UInt8)
      (passphrase : Buf 64)
      (h : ¬ (ssidLen = 0 ∨ ssidLen > 32 ∨ passphraseLen = 0 ∨ passphraseLen > 63)) :
      Joins d (.haikuJoinPsk bssid ssidLen ssid passphraseLen passphrase)
        (d.withPassphrase bssid ssidLen ssid passphraseLen passphrase)
        (d.withPassphrase bssid ssidLen ssid passphraseLen passphrase).fJoinBssid
        (d.withPassphrase bssid ssidLen ssid passphraseLen passphrase).fJoinSsid.bytes
        (d.withPassphrase bssid ssidLen ssid passphraseLen passphrase).fJoinSsidLength
  | again (h : d.fJoinSsidLength ≠ 0) :
      Joins d .haikuJoin d d.fJoinBssid d.fJoinSsid.bytes d.fJoinSsidLength

/-- The request calls `_DoJoin`. -/
def entersJoin (d : Device) (request : Request) : Bool :=
  match request with
  | .mlme op _ _ _ => op = kMlmeAssoc
  | .haikuJoinPsk _ ssidLen _ passphraseLen _ =>
    ¬ (ssidLen = 0 ∨ ssidLen > 32 ∨ passphraseLen = 0 ∨ passphraseLen > 63)
  | .haikuJoin => d.fJoinSsidLength ≠ 0
  | _ => false

theorem entersJoin_iff {d : Device} {request : Request} :
    d.entersJoin request = true ↔ ∃ d1 bssid ssid n, d.Joins request d1 bssid ssid n := by
  constructor
  · intro h
    cases request with
    | mlme op macaddr ssidLen ssid =>
      obtain rfl : op = kMlmeAssoc := of_decide_eq_true h
      exact ⟨_, _, _, _, .mlme macaddr ssidLen ssid⟩
    | haikuJoinPsk bssid ssidLen ssid passphraseLen passphrase =>
      exact ⟨_, _, _, _, .passphrase bssid ssidLen ssid passphraseLen passphrase
        (of_decide_eq_true h)⟩
    | haikuJoin => exact ⟨_, _, _, _, .again (of_decide_eq_true h)⟩
    | _ => cases h
  · rintro ⟨d1, bssid, ssid, n, hj⟩
    cases hj with
    | mlme => rfl
    | passphrase _ _ _ _ _ h => exact decide_eq_true h
    | again h => exact decide_eq_true h

/-- The BSSID with which a request calls `_DoJoin`, if it does. -/
def joinBssid (d : Device) (request : Request) : Mac :=
  match request with
  | .mlme _ macaddr _ _ => macaddr
  | .haikuJoinPsk bssid _ _ _ _ => bssid
  | _ => d.fJoinBssid

/-- The BSSID an exchange is started with. -/
def exchangeTarget (d : Device) (request : Request) (env : Env) : Option Mac :=
  if d.fRemoved = false ∧ d.entersJoin request then joinTarget (d.joinBssid request) env else none

theorem exchangeTarget_joins {d d1 : Device} {request : Request} {bssid : Mac} {ssid : Bytes}
    {ssidLen : Nat} {env : Env} (hr : d.fRemoved = false)
    (h : d.Joins request d1 bssid ssid ssidLen) :
    d.exchangeTarget request env = joinTarget bssid env := by
  have henters := entersJoin_iff.mpr ⟨d1, bssid, ssid, ssidLen, h⟩
  have hbssid : d.joinBssid request = bssid := by
    cases h with
    | mlme => rfl
    | passphrase bssid ssidLen ssid passphraseLen passphrase hok =>
      exact (d.takesPassphrase bssid ssidLen ssid passphraseLen passphrase).joinBssid.symm
    | again => rfl
  unfold exchangeTarget
  rw [if_pos ⟨hr, henters⟩, hbssid]

theorem exchangeTarget_other {d : Device} {request : Request} {env : Env}
    (hno : d.fRemoved = false → d.entersJoin request = false) :
    d.exchangeTarget request env = none := by
  refine if_neg ?_
  rintro ⟨hr, henters⟩
  rw [hno hr] at henters
  cases henters

/-- A request with nothing to do for the join and the keys, or refused for its arguments. -/
def isSettings (d : Device) (request : Request) : Bool :=
  match request with
  | .bssid data => data.length < 6
  | .mlme op _ _ _ => op ≠ kMlmeAssoc
  | .wpaKey _ keylen _ _ => keylen ≠ 16
  | .haikuJoinPsk _ ssidLen _ passphraseLen _ =>
    ssidLen = 0 ∨ ssidLen > 32 ∨ passphraseLen = 0 ∨ passphraseLen > 63
  | .haikuJoin => d.fJoinSsidLength = 0
  | _ => true

theorem entersJoin_settings {d : Device} {request : Request} (h : d.isSettings request = true) :
    d.entersJoin request = false := by
  cases request with
  | mlme op macaddr ssidLen ssid => exact decide_eq_false (of_decide_eq_true h)
  | haikuJoinPsk bssid ssidLen ssid passphraseLen passphrase =>
    exact decide_eq_false (not_not.mpr (of_decide_eq_true h))
  | haikuJoin => exact decide_eq_false (not_not.mpr (of_decide_eq_true h))
  | _ => rfl

inductive ControlStep (d : Device) (request : Request) (env : Env) : Device × List Action → Prop where
  -- Refused, or nothing but SSID, IE, privacy and the unencrypted-frames policy.
  | settings (ssid : Buf 33) (ssidLen : Nat) (wpaIe : Buf 256) (wpaIeLen : Nat) (privacy drop : Int)
      (hs : d.fRemoved = false → d.isSettings request = true) :
      ControlStep d request env
        ({ d with
            fJoinSsid := ssid
            fJoinSsidLength := ssidLen
            fWpaIe := wpaIe
            fWpaIeLength := wpaIeLen
            fPrivacy := privacy
            fDropUnencrypted := drop }, [])
  | bssid (data : Bytes) (hr : d.fRemoved = false) (hq : request = .bssid data)
      (h : 6 ≤ data.length) :
      ControlStep d request env ({ d with fJoinBssid := Buf.ofBytes 6 data }, [])
  | disconnected (op : UInt8) (macaddr : Mac) (ssidLen : UInt8) (ssid : Buf 32)
      (hr : d.fRemoved = false) (hq : request = .mlme op macaddr ssidLen ssid)
      (hop : op = kMlmeDeauth ∨ op = kMlmeDisassoc) :
      ControlStep d request env ({ d with fJoinState := .kJoinIdle }, [])
  | keyHeld (keyix : UInt16) (macaddr : Mac) (keydata : Crypto.Block) (hr : d.fRemoved = false)
      (hq : request = .wpaKey keyix 16 macaddr keydata)
      (h : (d.holdKey keyix macaddr keydata).keysComplete env = false) :
      ControlStep d request env (d.holdKey keyix macaddr keydata, [])
  | keysArmed (keyix : UInt16) (macaddr : Mac) (keydata : Crypto.Block) (hr : d.fRemoved = false)
      (hq : request = .wpaKey keyix 16 macaddr keydata)
      (h : (d.holdKey keyix macaddr keydata).keysComplete env = true) :
      ControlStep d request env ((d.holdKey keyix macaddr keydata).armKeys,
        [.installKeys (d.holdKey keyix macaddr keydata).fSupplicantTk])
  | unresolved (d1 : Device) (bssid : Mac) (ssid : Bytes) (ssidLen : Nat) (hr : d.fRemoved = false)
      (hj : d.Joins request d1 bssid ssid ssidLen) (ht : joinTarget bssid env = none) :
      ControlStep d request env (d1.joinReset, [.joinRequest])
  | joining (d1 : Device) (bssid target : Mac) (ssid : Bytes) (ssidLen : Nat)
      (hr : d.fRemoved = false) (hj : d.Joins request d1 bssid ssid ssidLen)
      (ht : joinTarget bssid env = some target) :
      ControlStep d request env ((d1.joinReset.startJoin target ssid ssidLen env).device,
        (d1.joinReset.startJoin target ssid ssidLen env).actions)

/-- A request that changes nothing the join or key state rests on. -/
theorem ControlStep.unchanged {d : Device} {request : Request} {env : Env}
    (hs : d.fRemoved = false → d.isSettings request = true) :
    ControlStep d request env (d, []) :=
  .settings d.fJoinSsid d.fJoinSsidLength d.fWpaIe d.fWpaIeLength d.fPrivacy d.fDropUnencrypted hs

theorem doJoin_step {d d1 : Device} {request : Request} {bssid : Mac} {ssid : Bytes} {ssidLen : Nat}
    {env : Env} (hr : d.fRemoved = false) (hj : d.Joins request d1 bssid ssid ssidLen) :
    ControlStep d request env ((d1.doJoin bssid ssid ssidLen env).device,
      (d1.doJoin bssid ssid ssidLen env).actions) := by
  rw [doJoin_eq]
  cases ht : joinTarget bssid env with
  | none => exact .unresolved d1 bssid ssid ssidLen hr hj ht
  | some target => exact .joining d1 bssid target ssid ssidLen hr hj ht

theorem wpaKey_step {d : Device} {keyix : UInt16} {keylen : UInt8} {macaddr : Mac}
    {keydata : Crypto.Block} {env : Env} (hr : d.fRemoved = false) :
    ControlStep d (.wpaKey keyix keylen macaddr keydata) env
      ((d.wpaKey keyix keylen macaddr keydata env).device,
        (d.wpaKey keyix keylen macaddr keydata env).actions) := by
  by_cases hlen : keylen = 16
  · subst hlen
    have hheld : (d.holdKey keyix macaddr keydata).keysComplete env = false → ControlStep d
        (.wpaKey keyix 16 macaddr keydata) env (d.holdKey keyix macaddr keydata, []) :=
      .keyHeld keyix macaddr keydata hr rfl
    have harmed : (d.holdKey keyix macaddr keydata).keysComplete env = true → ControlStep d
        (.wpaKey keyix 16 macaddr keydata) env ((d.holdKey keyix macaddr keydata).armKeys,
          [.installKeys (d.holdKey keyix macaddr keydata).fSupplicantTk]) :=
      .keysArmed keyix macaddr keydata hr rfl
    unfold wpaKey
    rw [if_neg (by decide)]
    dsimp only
    unfold keysComplete at hheld harmed
    generalize d.holdKey keyix macaddr keydata = held at hheld harmed
    split
    · rename_i hmissing
      refine hheld (decide_eq_false ?_)
      rintro ⟨htk, hgtk, -⟩
      rcases hmissing with h | h
      · exact h htk
      · exact h hgtk
    rename_i hboth
    rw [not_or, not_not, not_not] at hboth
    split
    · rename_i hfail
      exact hheld (decide_eq_false fun h => hfail h.2.2)
    · rename_i hok
      exact harmed (decide_eq_true ⟨hboth.1, hboth.2, not_not.mp hok⟩)
  · unfold wpaKey
    rw [if_pos hlen]
    exact .unchanged fun _ => decide_eq_true hlen

theorem control_step (d : Device) (request : Request) (env : Env) :
    ControlStep d request env ((d.control request env).device, (d.control request env).actions) := by
  unfold control
  split
  · rename_i hremoved
    refine .unchanged ?_
    intro hr
    rw [hremoved] at hr
    cases hr
  rename_i hr
  rw [Bool.not_eq_true] at hr
  unfold set80211
  cases request with
  | ssid data =>
    exact .settings _ _ d.fWpaIe d.fWpaIeLength d.fPrivacy d.fDropUnencrypted fun _ => rfl
  | bssid data =>
    dsimp only
    split
    · rename_i hlen
      exact .unchanged fun _ => decide_eq_true hlen
    · rename_i hlen
      exact .bssid data hr rfl (Nat.not_lt.mp hlen)
  | mlme op macaddr ssidLen ssid =>
    dsimp only [mlme]
    split
    · rename_i hop
      subst hop
      exact doJoin_step hr (.mlme macaddr ssidLen ssid)
    rename_i hop
    have hno : d.fRemoved = false → d.isSettings (.mlme op macaddr ssidLen ssid) = true :=
      fun _ => decide_eq_true hop
    split
    · rename_i hdis
      dsimp only [disconnectRequest]
      split
      · exact .unchanged hno
      · exact .disconnected op macaddr ssidLen ssid hr rfl hdis
    · exact .unchanged hno
  | appie data =>
    have hno : d.fRemoved = false → d.isSettings (.appie data) = true := fun _ => rfl
    dsimp only [appie]
    split
    · exact .settings d.fJoinSsid d.fJoinSsidLength d.fWpaIe 0 d.fPrivacy d.fDropUnencrypted hno
    split
    · exact .unchanged hno
    · exact .settings d.fJoinSsid d.fJoinSsidLength _ _ d.fPrivacy d.fDropUnencrypted hno
  | wpaKey keyix keylen macaddr keydata => exact wpaKey_step hr
  | dropUnencrypted val =>
    exact .settings d.fJoinSsid d.fJoinSsidLength d.fWpaIe d.fWpaIeLength d.fPrivacy val fun _ => rfl
  | privacy val =>
    exact .settings d.fJoinSsid d.fJoinSsidLength d.fWpaIe d.fWpaIeLength val d.fDropUnencrypted
      fun _ => rfl
  | haikuJoinPsk bssid ssidLen ssid passphraseLen passphrase =>
    dsimp only [haikuJoinPsk]
    split
    · rename_i hbad
      exact .unchanged fun _ => decide_eq_true hbad
    · rename_i hok
      exact doJoin_step hr (.passphrase bssid ssidLen ssid passphraseLen passphrase hok)
  | haikuJoin =>
    dsimp only [haikuJoin]
    split
    · rename_i hnone
      exact .unchanged fun _ => decide_eq_true hnone
    · rename_i hset
      exact doJoin_step hr (.again hset)
  | other => exact .unchanged fun _ => rfl

/-! ## Any step -/

/-- `Write`, `Read` or the removal. -/
def isDataPath (e : Event) : Bool :=
  match e with
  | .write _ => true
  | .read _ => true
  | .setRemoved => true
  | _ => false

inductive Step (d : Device) (env : Env) : Event → Device × List Action → Prop where
  | dataPath (e : Event) (he : isDataPath e = true)
      (removed : Bool) (ring : Fin 64 → RxRingEntry) (tail : Fin 64) (pn : UInt64)
      (actions : List Action) :
      Step d env e
        ({ d with fRemoved := removed, fRxRing := ring, fRxRingTail := tail, fTxPnPairwise := pn },
          actions)
  -- A firmware event goes to none of the handlers.
  | rxFrame (frame : Bytes) (isC2H : Bool) {out : Device × List Action}
      (hc : isC2H = true → out = (d, [])) (h : RxStep d frame env out) :
      Step d env (.rxFrame frame isC2H) out
  | eapolWorker {out : Device × List Action} (h : EapolStep d env out) : Step d env .eapolWorker out
  | control (request : Request) {out : Device × List Action} (h : ControlStep d request env out) :
      Step d env (.control request) out

theorem step_cases {d : Device} {e : Event} {env : Env} {out : Device × List Action}
    (h : d.step e env = some out) : Step d env e out := by
  unfold step at h
  cases e with
  | write buffer =>
    cases h
    rcases d.write_device buffer env with hd | hd
    · rw [hd]
      exact .dataPath _ rfl d.fRemoved d.fRxRing d.fRxRingTail d.fTxPnPairwise _
    · rw [hd]
      exact .dataPath _ rfl d.fRemoved d.fRxRing d.fRxRingTail (d.fTxPnPairwise + 1) _
  | read numBytes =>
    cases h
    obtain ⟨ring, tail, hd⟩ := d.read_device numBytes
    rw [hd]
    exact .dataPath _ rfl d.fRemoved ring tail d.fTxPnPairwise _
  | rxFrame frame isC2H =>
    refine .rxFrame frame isC2H (fun hc => ?_) (rxFrameReceived_step h)
    subst hc
    exact (Option.some.inj h).symm
  | eapolWorker =>
    cases h
    exact .eapolWorker (d.eapolWorker_step env)
  | control request =>
    cases h
    exact .control request (d.control_step request env)
  | setRemoved =>
    cases h
    exact .dataPath _ rfl true d.fRxRing d.fRxRingTail d.fTxPnPairwise _

end Device
end Rtl8814au
