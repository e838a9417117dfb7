import Rtl8814au.Device.KeySafety
import Rtl8814au.Device.Steps

/-!
# Device.Association

What `kJoinConnected` says about the frames that led to it.

* The history holds the response frames accepted since the last `_DoJoin` that started an exchange.
* `AuthFrom`, `AssocFrom`: a successful response of one BSSID to this station.
* `AssociatedBy`: an authentication and then an association response of `fJoinBssid` are in the
  history.
* `KeepsBssid`: no ioctl changes `fJoinBssid` behind an accepted response.
* `associated_run`: as long as none does, a connected station is associated.
-/

namespace Rtl8814au
namespace Device

/-! ## The history -/

/-- `h` with the frame, if a response handler accepts it; empty when an exchange starts. -/
def recordResponse (d : Device) (e : Event) (env : Env) (h : List Bytes) : List Bytes :=
  match e with
  | .rxFrame frame isC2H =>
    if isC2H = false ∧ (d.acceptsAuth frame ∨ d.acceptsAssoc frame) then h ++ [frame] else h
  | .control request => if (d.exchangeTarget request env).isSome then [] else h
  | _ => h

/-- From `bssid` to this station, and long enough. -/
structure ResponseFrom (d : Device) (bssid : Mac) (frame : Bytes) : Prop where
  management : frameType frame = 0
  size : 30 ≤ frame.length
  transmitter : frame.slice 10 6 = bssid.bytes
  receiver : frame.slice 4 6 = d.fMacAddress.bytes

structure AuthFrom (d : Device) (bssid : Mac) (frame : Bytes) : Prop
    extends ResponseFrom d bssid frame where
  subtypeEq : frameSubtype frame = 11
  success : le16At frame 24 = 0 ∧ le16At frame 26 = 2 ∧ le16At frame 28 = 0

structure AssocFrom (d : Device) (bssid : Mac) (frame : Bytes) : Prop
    extends ResponseFrom d bssid frame where
  subtypeEq : frameSubtype frame = 1
  success : le16At frame 26 = 0

def AssociatedBy (d : Device) (h : List Bytes) : Prop :=
  ∃ auth assoc, [auth, assoc].Sublist h ∧ d.AuthFrom d.fJoinBssid auth ∧
    d.AssocFrom d.fJoinBssid assoc

/-! ## The condition -/

/-- A response of the current exchange has been accepted. -/
def HasAnswer (d : Device) : Prop :=
  d.fJoinState = .kJoinAssociating ∨ d.fJoinState = .kJoinConnected

instance (d : Device) : Decidable d.HasAnswer := inferInstanceAs (Decidable (_ ∨ _))

/-- The BSSID the request writes into `fJoinBssid` while it leaves `fJoinState` alone: all of them
but the passphrase request do that in any state. -/
def rewrittenBssid (d : Device) (request : Request) (env : Env) : Option Mac :=
  match request with
  | .bssid data => if data.length < 6 then none else some (Buf.ofBytes 6 data)
  | .wpaKey keyix keylen macaddr _ =>
    if keylen = 16 ∧ keyix = kKeyixNone ∧ macaddr ≠ Buf.zero 6 then some macaddr else none
  | .haikuJoinPsk bssid _ _ _ _ =>
    if d.entersJoin request ∧ joinTarget bssid env = none ∧ d.fJoinState = .kJoinConnected then
      some bssid
    else none
  | _ => none

def KeepsBssid (d : Device) (e : Event) (env : Env) : Prop :=
  match e with
  | .control request =>
    d.fRemoved = false → d.HasAnswer → ∀ bssid ∈ d.rewrittenBssid request env, bssid = d.fJoinBssid
  | _ => True

instance (d : Device) (e : Event) (env : Env) : Decidable (d.KeepsBssid e env) :=
  match e with
  | .control request =>
    inferInstanceAs (Decidable (_ → _ → ∀ bssid ∈ d.rewrittenBssid request env, _))
  | .write _ => inferInstanceAs (Decidable True)
  | .read _ => inferInstanceAs (Decidable True)
  | .rxFrame _ _ => inferInstanceAs (Decidable True)
  | .eapolWorker => inferInstanceAs (Decidable True)
  | .setRemoved => inferInstanceAs (Decidable True)

/-! ## One step -/

/-- The history of a station that is being answered or connected. -/
structure Backed (d : Device) (h : List Bytes) : Prop where
  associating : d.fJoinState = .kJoinAssociating → ∃ auth ∈ h, d.AuthFrom d.fJoinBssid auth
  connected : d.fJoinState = .kJoinConnected → d.AssociatedBy h

theorem backed_of_state {d : Device} (h : List Bytes) (ha : d.fJoinState ≠ .kJoinAssociating)
    (hc : d.fJoinState ≠ .kJoinConnected) : Backed d h :=
  ⟨fun hstate => absurd hstate ha, fun hstate => absurd hstate hc⟩

theorem AuthFrom.congr {d d' : Device} {bssid : Mac} {frame : Bytes} (h : d.AuthFrom bssid frame)
    (hmac : d'.fMacAddress = d.fMacAddress) : d'.AuthFrom bssid frame :=
  ⟨⟨h.management, h.size, h.transmitter, by rw [hmac]; exact h.receiver⟩, h.subtypeEq, h.success⟩

theorem AssocFrom.congr {d d' : Device} {bssid : Mac} {frame : Bytes} (h : d.AssocFrom bssid frame)
    (hmac : d'.fMacAddress = d.fMacAddress) : d'.AssocFrom bssid frame :=
  ⟨⟨h.management, h.size, h.transmitter, by rw [hmac]; exact h.receiver⟩, h.subtypeEq, h.success⟩

/-- The state is as before or no longer one to be backed; the BSSID is as before where it matters. -/
theorem Backed.congr {d d' : Device} {h : List Bytes} (hi : Backed d h)
    (hmac : d'.fMacAddress = d.fMacAddress)
    (hstate : d'.HasAnswer → d'.fJoinState = d.fJoinState ∧ d'.fJoinBssid = d.fJoinBssid) :
    Backed d' h := by
  constructor
  · intro hassoc
    obtain ⟨hsame, hbssid⟩ := hstate (.inl hassoc)
    obtain ⟨auth, hmem, hauth⟩ := hi.associating (hsame ▸ hassoc)
    rw [hbssid]
    exact ⟨auth, hmem, hauth.congr hmac⟩
  · intro hconn
    obtain ⟨hsame, hbssid⟩ := hstate (.inr hconn)
    obtain ⟨auth, assoc, hsub, hauth, hresp⟩ := hi.connected (hsame ▸ hconn)
    refine ⟨auth, assoc, hsub, ?_, ?_⟩
    · rw [hbssid]
      exact hauth.congr hmac
    · rw [hbssid]
      exact hresp.congr hmac

theorem responseFrom_answers {d : Device} {frame : Bytes} {subtype : UInt8} {waiting : JoinState}
    (h : d.Answers frame subtype waiting) : d.ResponseFrom d.fJoinBssid frame := by
  obtain ⟨htransmitter, hreceiver⟩ := of_decide_eq_true h.forUs
  exact ⟨h.management, h.size, htransmitter, hreceiver⟩

theorem authFrom_accepted {d : Device} {frame : Bytes} (h : d.acceptsAuth frame = true) :
    d.AuthFrom d.fJoinBssid frame := by
  obtain ⟨hans, hok⟩ := of_decide_eq_true h
  exact ⟨responseFrom_answers hans, hans.subtypeEq, of_decide_eq_true hok⟩

theorem assocFrom_accepted {d : Device} {frame : Bytes} (h : d.acceptsAssoc frame = true) :
    d.AssocFrom d.fJoinBssid frame ∧ d.fJoinState = .kJoinAssociating := by
  obtain ⟨hans, hok⟩ := of_decide_eq_true h
  exact ⟨⟨responseFrom_answers hans, hans.subtypeEq, of_decide_eq_true hok⟩, hans.waits⟩

theorem Backed.append {d : Device} {h : List Bytes} (hi : Backed d h) (frames : List Bytes) :
    Backed d (h ++ frames) := by
  constructor
  · intro hassoc
    obtain ⟨auth, hmem, hauth⟩ := hi.associating hassoc
    exact ⟨auth, List.mem_append_left frames hmem, hauth⟩
  · intro hconn
    obtain ⟨auth, assoc, hsub, hauth, hresp⟩ := hi.connected hconn
    exact ⟨auth, assoc, hsub.trans (List.sublist_append_left h frames), hauth, hresp⟩

theorem recordResponse_rxFrame (d : Device) (frame : Bytes) (isC2H : Bool) (env : Env)
    (h : List Bytes) : ∃ frames, d.recordResponse (.rxFrame frame isC2H) env h = h ++ frames ∧
      (isC2H = false → d.acceptsAuth frame = true ∨ d.acceptsAssoc frame = true →
        frames = [frame]) := by
  unfold recordResponse
  dsimp only
  split
  · exact ⟨[frame], rfl, fun _ _ => rfl⟩
  · rename_i hno
    exact ⟨[], (List.append_nil h).symm, fun hc hacc => absurd ⟨hc, hacc⟩ hno⟩

theorem backed_rxFrame {d : Device} {frame : Bytes} {isC2H : Bool} {env : Env}
    {out : Device × List Action} {h : List Bytes} (hc : isC2H = true → out = (d, []))
    (hstep : RxStep d frame env out) (hi : Backed d h) :
    Backed out.1 (d.recordResponse (.rxFrame frame isC2H) env h) := by
  obtain ⟨frames, hrec, hframes⟩ := d.recordResponse_rxFrame frame isC2H env h
  rw [hrec]
  have hkeep := hi.append frames
  cases isC2H with
  | true =>
    rw [hc rfl]
    exact hkeep
  | false =>
    cases hstep with
    | ignored => exact hkeep
    | refused hstate => exact backed_of_state _ (by simp) (by simp)
    | requestLost hacc actions => exact backed_of_state _ (by simp) (by simp)
    | authenticated hacc ht actions =>
      rw [hframes rfl (.inl hacc)]
      constructor
      · intro _
        exact ⟨frame, List.mem_append_right h (List.mem_singleton.mpr rfl),
          (authFrom_accepted hacc).congr rfl⟩
      · intro hconn
        cases hconn
    | associated hacc =>
      obtain ⟨hresp, hstate⟩ := assocFrom_accepted hacc
      obtain ⟨auth, hmem, hauth⟩ := hi.associating hstate
      rw [hframes rfl (.inr hacc)]
      constructor
      · intro hassoc
        cases hassoc
      · intro _
        have hsub : [auth, frame].Sublist (h ++ [frame]) :=
          (List.singleton_sublist.mpr hmem).append (List.Sublist.refl [frame])
        exact ⟨auth, frame, hsub, hauth.congr rfl, hresp.congr rfl⟩
    | inbox r hd hr hs => exact hkeep.congr rfl fun _ => ⟨rfl, rfl⟩
    | ring r hd hr hs =>
      obtain ⟨ring, head, tail, heq⟩ := d.enqueue_device (r.ringEntry (d.fRxRing d.fRxRingHead))
      rw [heq]
      exact hkeep.congr rfl fun _ => ⟨rfl, rfl⟩

theorem backed_eapolWorker {d : Device} {env : Env} {out : Device × List Action} {h : List Bytes}
    (hstep : EapolStep d env out) (hi : Backed d h) : Backed out.1 h := by
  have hkeeps := hstep.keepsJoin
  exact hi.congr hkeeps.macAddress fun _ => ⟨hkeeps.joinState, hkeeps.joinBssid⟩

/-! ### The ioctls -/

theorem recordResponse_control (d : Device) (request : Request) (env : Env) (h : List Bytes) :
    d.recordResponse (.control request) env h =
      if (d.exchangeTarget request env).isSome then [] else h := rfl

theorem recordResponse_other {d : Device} {request : Request} {env : Env} (h : List Bytes)
    (hno : d.fRemoved = false → d.entersJoin request = false) :
    d.recordResponse (.control request) env h = h := by
  rw [recordResponse_control, exchangeTarget_other hno]
  rfl

/-- `_DoJoin` without an exchange: a connected station stays as it is. -/
theorem backed_unresolved {d d1 : Device} {request : Request} {bssid : Mac} {ssid : Bytes}
    {ssidLen : Nat} {env : Env} {h : List Bytes} (hr : d.fRemoved = false)
    (hj : d.Joins request d1 bssid ssid ssidLen) (ht : joinTarget bssid env = none)
    (hkeep : d.KeepsBssid (.control request) env) (hi : Backed d h) : Backed d1.joinReset h := by
  have hreset : d1.joinReset.HasAnswer → d1.joinReset.fJoinState = .kJoinConnected ∧
      d1.fJoinState = .kJoinConnected := by
    intro hans
    unfold HasAnswer joinReset at hans
    unfold joinReset
    cases hstate : d1.fJoinState with
    | kJoinConnected => exact ⟨rfl, rfl⟩
    | _ => simp [hstate] at hans
  have hfields : d1.fMacAddress = d.fMacAddress ∧ d1.fJoinState = d.fJoinState ∧
      (d.fJoinState = .kJoinConnected → d1.fJoinBssid = d.fJoinBssid) := by
    cases hj with
    | mlme => exact ⟨rfl, rfl, fun _ => rfl⟩
    | passphrase bssid ssidLen ssid passphraseLen passphrase hok =>
      have htakes := d.takesPassphrase bssid ssidLen ssid passphraseLen passphrase
      refine ⟨htakes.macAddress, htakes.joinState, ?_⟩
      intro hconn
      rw [htakes.joinBssid] at ht ⊢
      refine hkeep hr (.inr hconn) bssid ?_
      exact if_pos ⟨decide_eq_true hok, ht, hconn⟩
    | again => exact ⟨rfl, rfl, fun _ => rfl⟩
  obtain ⟨hmac, hsame, hbssid⟩ := hfields
  refine hi.congr hmac ?_
  intro hans
  obtain ⟨hconn', hconn⟩ := hreset hans
  exact ⟨hconn'.trans (hconn.symm.trans hsame), hbssid (hsame ▸ hconn)⟩

/-- The pairwise key of a supplicant sets `fJoinBssid`, unless its address is zero. -/
theorem backed_holdKey {d : Device} {keyix : UInt16} {macaddr : Mac} {keydata : Crypto.Block}
    {env : Env} {h : List Bytes} (hr : d.fRemoved = false)
    (hkeep : d.KeepsBssid (.control (.wpaKey keyix 16 macaddr keydata)) env) (hi : Backed d h) :
    Backed (d.holdKey keyix macaddr keydata) h := by
  unfold holdKey
  by_cases hpair : keyix = kKeyixNone
  · rw [if_pos hpair]
    refine hi.congr rfl fun hans => ⟨rfl, ?_⟩
    by_cases hzero : macaddr = Buf.zero 6
    · exact if_pos hzero
    · exact (if_neg hzero).trans (hkeep hr hans macaddr (if_pos ⟨rfl, hpair, hzero⟩))
  · rw [if_neg hpair]
    exact hi.congr rfl fun _ => ⟨rfl, rfl⟩

theorem backed_control {d : Device} {request : Request} {env : Env} {out : Device × List Action}
    {h : List Bytes} (hstep : ControlStep d request env out)
    (hkeep : d.KeepsBssid (.control request) env) (hi : Backed d h) :
    Backed out.1 (d.recordResponse (.control request) env h) := by
  cases hstep with
  | settings ssid ssidLen wpaIe wpaIeLen privacy drop hs =>
    rw [recordResponse_other h fun hr => entersJoin_settings (hs hr)]
    exact hi.congr rfl fun _ => ⟨rfl, rfl⟩
  | bssid data hr hq hlen =>
    subst hq
    rw [recordResponse_other h fun _ => rfl]
    exact hi.congr rfl fun hans =>
      ⟨rfl, hkeep hr hans (Buf.ofBytes 6 data) (if_neg (Nat.not_lt.mpr hlen))⟩
  | disconnected op macaddr ssidLen ssid hr hq hop =>
    exact backed_of_state _ (by simp) (by simp)
  | keyHeld keyix macaddr keydata hr hq hincomplete =>
    subst hq
    rw [recordResponse_other h fun _ => rfl]
    exact backed_holdKey hr hkeep hi
  | keysArmed keyix macaddr keydata hr hq hcomplete =>
    subst hq
    rw [recordResponse_other h fun _ => rfl]
    exact (backed_holdKey hr hkeep hi).congr rfl fun _ => ⟨rfl, rfl⟩
  | unresolved d1 bssid ssid ssidLen hr hj ht =>
    rw [recordResponse_control, exchangeTarget_joins hr hj, ht]
    exact backed_unresolved hr hj ht hkeep hi
  | joining d1 bssid target ssid ssidLen hr hj ht =>
    have hstate : (d1.joinReset.startJoin target ssid ssidLen env).device.fJoinState =
        .kJoinAuthenticating := rfl
    exact backed_of_state _ (by rw [hstate]; decide) (by rw [hstate]; decide)

theorem backed_step {d : Device} {e : Event} {env : Env} {out : Device × List Action}
    {h : List Bytes} (hstep : Step d env e out) (hkeep : d.KeepsBssid e env) (hi : Backed d h) :
    Backed out.1 (d.recordResponse e env h) := by
  cases hstep with
  | dataPath e he removed ring tail pn actions =>
    have hrec : d.recordResponse e env h = h := by
      cases e with
      | rxFrame frame isC2H => cases he
      | control request => cases he
      | _ => rfl
    rw [hrec]
    exact hi.congr rfl fun _ => ⟨rfl, rfl⟩
  | rxFrame frame isC2H hc hrx => exact backed_rxFrame hc hrx hi
  | eapolWorker hworker => exact backed_eapolWorker hworker hi
  | control request hcontrol => exact backed_control hcontrol hkeep hi

end Device

namespace System

/-- The device with the history of its responses. -/
def nextResponses : System × List Bytes → Event × Env → Option (System × List Bytes) :=
  Lts.recorded next fun s e h => s.device.recordResponse e.1 e.2 h

theorem associated_run {mac : Mac} {es : List (Event × Env)} {p : System × List Bytes}
    (hm : Lts.Meets nextResponses (fun p e => p.1.device.KeepsBssid e.1 e.2) (init mac, []) es)
    (hr : Lts.run nextResponses (init mac, []) es = some p)
    (hconn : p.1.device.fJoinState = .kJoinConnected) : p.1.device.AssociatedBy p.2 := by
  have hbacked : Device.Backed p.1.device p.2 := by
    refine Lts.run_invariant (I := fun p : System × List Bytes => Device.Backed p.1.device p.2)
      ?_ (Device.backed_of_state _ (show JoinState.kJoinIdle ≠ _ by decide)
        (show JoinState.kJoinIdle ≠ _ by decide)) hm hr
    intro p q e hi hkeep hn
    obtain ⟨hnext, hrecord⟩ := Lts.recorded_eq_some.mp hn
    obtain ⟨actions, hstep, -⟩ := next_eq_some hnext
    rw [hrecord]
    exact Device.backed_step (Device.step_cases hstep) hkeep hi
  exact hbacked.connected hconn

theorem associated_run_sampleJoin :
    ∃ p, Lts.run nextResponses (init sampleMac, []) sampleJoin = some p ∧
      p.1.device.fJoinState = .kJoinConnected ∧ p.1.device.AssociatedBy p.2 := by
  have hstate : (Lts.run nextResponses (init sampleMac, []) sampleJoin).map
      (fun p => p.1.device.fJoinState) = some .kJoinConnected := by decide +kernel
  obtain ⟨p, hr, hconn⟩ := Option.map_eq_some_iff.mp hstate
  exact ⟨p, hr, hconn, associated_run (by decide +kernel) hr hconn⟩

def otherBssid : Mac := ⟨[2, 0, 0, 0, 0, 9], rfl⟩

/-- Connected to one BSS, and `IOC_BSSID` with the address of another. -/
def movedBssidRun : List (Event × Env) :=
  sampleJoin ++ [(.control (.bssid otherBssid.bytes), sampleEnv)]

theorem associated_run_movedBssid :
    ¬ ∀ mac es p, Lts.run nextResponses (init mac, []) es = some p →
      p.1.device.fJoinState = .kJoinConnected → p.1.device.AssociatedBy p.2 := by
  have hrun : (Lts.run nextResponses (init sampleMac, []) movedBssidRun).map (fun p =>
      (p.1.device.fJoinState, p.1.device.fJoinBssid, p.2.map fun frame => frame.slice 10 6)) =
      some (.kJoinConnected, otherBssid, [sampleBssid.bytes, sampleBssid.bytes]) := by
    decide +kernel
  obtain ⟨p, hr, hfields⟩ := Option.map_eq_some_iff.mp hrun
  obtain ⟨hconn, hfields⟩ := Prod.mk.inj hfields
  obtain ⟨hbssid, hsent⟩ := Prod.mk.inj hfields
  intro hclaim
  obtain ⟨auth, assoc, hsub, hauth, -⟩ := hclaim _ _ p hr hconn
  have hmem : auth.slice 10 6 ∈ p.2.map fun frame => frame.slice 10 6 :=
    List.mem_map_of_mem (hsub.subset List.mem_cons_self)
  rw [hauth.transmitter, hsent, hbssid] at hmem
  exact absurd hmem (by decide)

end System
end Rtl8814au
