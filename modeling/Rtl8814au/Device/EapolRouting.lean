import Rtl8814au.Device.Delivery

/-!
# Device.EapolRouting

Who gets the EAPOL frames of the AP: the in-driver handshake, or an external supplicant behind the
RX ring.

* `Ownership`: the history, which is the path that started the last association, its BSSID, and
  whether a passphrase request was ever accepted.
* `Routed`: an EAPOL frame of the AP goes where the path wants it.
* `Routable`: no passphrase request came before it, or `fJoinBssid` is still that BSSID.
* `eapol_routing`: the two are the same over every run.
-/

namespace Rtl8814au

open Crypto

inductive JoinPath where
  | supplicant
  | passphrase
deriving DecidableEq

structure Ownership where
  path : Option (JoinPath × Mac)
  passphraseSeen : Bool
deriving DecidableEq

def Ownership.empty : Ownership := { path := none, passphraseSeen := false }

namespace Device

/-! ## The addresses of a received frame -/

theorem slice_take {b : Bytes} {off n k : Nat} (h : off + n ≤ k) :
    Bytes.slice (b.take k) off n = b.slice off n := by
  rw [Bytes.slice, Bytes.slice, List.drop_take, List.take_take, Nat.min_eq_left (by omega)]

theorem slice_memmove {b : Bytes} {dst src m off n : Nat} (hdst : dst ≤ b.length)
    (h : off + n ≤ dst) : (memmove b dst src m).slice off n = b.slice off n := by
  have hlen : off + n ≤ (b.take dst).length := by
    rw [List.length_take]
    omega
  unfold memmove
  rw [List.append_assoc, Bytes.slice_append_left hlen, slice_take h]

theorem slice_ccmpDecrypt {tk : Block} {frame dec : Bytes} {hdrLen : Nat} (off n : Nat)
    (hdec : ccmpDecrypt tk frame hdrLen = (true, dec)) (h : off + n ≤ hdrLen) :
    hdrLen ≤ dec.length ∧ dec.slice off n = frame.slice off n := by
  have hmin := length_of_ccmpDecrypt hdec
  simp only [ccmpDecrypt] at hdec
  split at hdec
  · cases hdec
  split at hdec
  · cases hdec
  obtain ⟨-, rfl⟩ := Prod.mk.inj hdec
  have hlen : (frame.take (hdrLen + 8)).length = hdrLen + 8 := by
    rw [List.length_take]
    omega
  constructor
  · rw [List.length_append, List.length_append, hlen]
    omega
  · rw [List.append_assoc, Bytes.slice_append_left (by omega), slice_take (by omega)]

/-- Decryption leaves the addresses alone. -/
theorem slice_rxDecrypt {d : Device} {frame frameData : Bytes} {frameLength : UInt32}
    {off n : Nat} (hdec : d.rxDecrypt frame = some (frameData, frameLength)) (h2 : 2 ≤ off)
    (h24 : off + n ≤ 24) : frameData.slice off n = frame.slice off n := by
  have hhdr := toNat_headerLen frame
  by_cases henc : d.Decrypted frame
  · simp only [rxDecrypt, if_pos (show isProtected frame = true ∧ d.fCcmpEnabled = true from henc)]
      at hdec
    split at hdec
    · cases hdec
    split at hdec
    · cases hdec
    split at hdec
    · cases hdec
    split at hdec
    · cases hdec
    rename_i dec hccmp
    obtain ⟨hlen, hsame⟩ := slice_ccmpDecrypt off n hccmp (by omega)
    obtain ⟨rfl, -⟩ := Prod.mk.inj (Option.some.inj hdec)
    rw [slice_set (by omega), slice_memmove hlen (by omega), hsame]
  · rw [rxDecrypt_plain henc] at hdec
    obtain ⟨rfl, -⟩ := Prod.mk.inj (Option.some.inj hdec)
    rfl

theorem slice_rxDecap {d : Device} {frame : Bytes} {r : Decap} {off n : Nat}
    (hr : d.rxDecap frame = some r) (h2 : 2 ≤ off) (h24 : off + n ≤ 24) :
    r.frameData.slice off n = frame.slice off n := by
  obtain ⟨frameData, frameLength, -, hdec, -, rfl⟩ := rxDecap_eq_some hr
  exact slice_rxDecrypt hdec h2 h24

/-! ## Histories -/

def Request.pathFrom (request : Request) (bssid : Mac) : Option (JoinPath × Mac) :=
  match request with
  | .mlme _ _ _ _ => some (.supplicant, bssid)
  | .haikuJoinPsk _ _ _ _ _ => some (.passphrase, bssid)
  | _ => none

def Request.hasPassphrase (request : Request) : Bool :=
  match request with
  | .haikuJoinPsk _ _ _ _ _ => true
  | _ => false

/-- A call that reaches `_DoJoin` and what it starts. -/
def recordPath (d : Device) (e : Event) (env : Env) (h : Ownership) : Ownership :=
  match e with
  | .control request =>
    if d.fRemoved = false ∧ d.entersJoin request then
      { path :=
          match d.exchangeTarget request env with
          | none => h.path
          | some bssid => Request.pathFrom request bssid
        passphraseSeen := h.passphraseSeen || Request.hasPassphrase request }
    else h
  | _ => h

/-! ## Where a frame goes -/

/-- An EAPOL frame transmitted by `bssid`, as it comes out of the decapsulation. -/
structure EapolFrom (d : Device) (bssid : Mac) (frame : Bytes) (r : Decap) : Prop where
  data : IsData frame
  decap : d.rxDecap frame = some r
  etherType : r.etherType = etherTypeEapol
  transmitter : frame.slice 10 6 = bssid.bytes

/-- A new ring entry, and nothing else. -/
structure ToRing (d : Device) (frame : Bytes) (r : Decap) (env : Env) : Prop where
  sink : d.rxSink r = .ring
  effect : d.rxFrameReceived frame false env =
    some (d.enqueue (r.ringEntry (d.fRxRing d.fRxRingHead)),
      [.enqueue frame (r.ringEntry (d.fRxRing d.fRxRingHead))])

/-- A pending message in the inbox, and nothing else. -/
structure ToHandshake (d : Device) (frame : Bytes) (r : Decap) (env : Env) : Prop where
  sink : d.rxSink r = .inbox
  effect : d.rxFrameReceived frame false env =
    some ({ d with fEapolInbox := r.inboxFrame d.fEapolInbox, fEapolPending := true }, [])

/-- The ring for a supplicant; the handshake when it is unicast to us and fits the inbox. -/
def GoesTo (d : Device) (path : JoinPath) (frame : Bytes) (r : Decap) (env : Env) : Prop :=
  match path with
  | .supplicant => d.ToRing frame r env
  | .passphrase =>
    frame.slice 4 6 = d.fMacAddress.bytes → r.payloadLen.toNat ≤ 300 → d.ToHandshake frame r env

def Routed (d : Device) (e : Event) (env : Env) (h : Ownership) : Prop :=
  match e with
  | .rxFrame frame isC2H =>
    isC2H = false → ∀ path bssid r, h.path = some (path, bssid) → d.EapolFrom bssid frame r →
      d.GoesTo path frame r env
  | _ => True

/-- No passphrase request so far and room in a ring entry; or the BSSID has not moved. -/
def PathIntact (d : Device) (path : JoinPath) (bssid : Mac) (frame : Bytes) (r : Decap)
    (h : Ownership) : Prop :=
  match path with
  | .supplicant => h.passphraseSeen = false ∧ 14 + r.payloadLen.toNat ≤ kRxRingFrameMaxSize
  | .passphrase =>
    frame.slice 4 6 = d.fMacAddress.bytes → r.payloadLen.toNat ≤ 300 → d.fJoinBssid = bssid

def Routable (d : Device) (e : Event) (h : Ownership) : Prop :=
  match e with
  | .rxFrame frame isC2H =>
    isC2H = false → ∀ path bssid r, h.path = some (path, bssid) → d.EapolFrom bssid frame r →
      d.PathIntact path bssid frame r h
  | _ => True

theorem rxFrameReceived_data {d : Device} {frame : Bytes} (env : Env) {r : Decap}
    (hd : IsData frame) (hr : d.rxDecap frame = some r) :
    d.rxFrameReceived frame false env = d.rxDeliver frame r := by
  have htype := hd.data
  unfold rxFrameReceived
  rw [if_neg (by decide), if_neg hd.header, if_neg (by rw [htype]; decide),
    if_neg (not_not.mpr htype)]
  unfold rxData
  rw [hr]

theorem toRing_iff {d : Device} {bssid : Mac} {frame : Bytes} {r : Decap} {env : Env}
    (h : d.EapolFrom bssid frame r) : d.ToRing frame r env ↔
      d.fPmkValid = false ∧ 14 + r.payloadLen.toNat ≤ kRxRingFrameMaxSize := by
  have hdeliver := rxFrameReceived_data env h.data h.decap
  obtain ⟨frameData, frameLength, -, -, -, hr⟩ := rxDecap_eq_some h.decap
  have heth : r.ethLen = 14 + r.payloadLen := by rw [hr]
  constructor
  · rintro ⟨hsink, heffect⟩
    have hpmk : d.fPmkValid = false := by
      cases hvalid : d.fPmkValid with
      | false => rfl
      | true =>
        unfold rxSink at hsink
        rw [if_pos ⟨h.etherType, hvalid⟩] at hsink
        split at hsink
        · cases hsink
        split at hsink
        · cases hsink
        split at hsink <;> cases hsink
    refine ⟨hpmk, ?_⟩
    rw [hdeliver] at heffect
    unfold rxDeliver at heffect
    rw [hsink] at heffect
    dsimp only at heffect
    split at heffect
    · cases heffect
    · rename_i hfit
      exact Nat.not_lt.mp hfit
  · rintro ⟨hpmk, hfit⟩
    have hsmall : ¬ r.ethLen > UInt32.ofNat kRxRingFrameMaxSize := by
      have hmax : (UInt32.ofNat kRxRingFrameMaxSize).toNat = 2400 := rfl
      rw [gt_iff_lt, UInt32.lt_iff_toNat_lt, hmax, heth, UInt32.toNat_add]
      rw [kRxRingFrameMaxSize] at hfit
      show ¬ 2400 < (14 + r.payloadLen.toNat) % 2 ^ 32
      omega
    have hsink : d.rxSink r = .ring := by
      unfold rxSink
      rw [if_neg (by simp [hpmk]), if_neg hsmall]
    refine ⟨hsink, ?_⟩
    rw [hdeliver]
    exact rxDeliver_ring hsink hfit

theorem toHandshake_iff {d : Device} {bssid : Mac} {frame : Bytes} {r : Decap} {env : Env}
    (h : d.EapolFrom bssid frame r) (hpmk : d.fPmkValid = true)
    (hus : frame.slice 4 6 = d.fMacAddress.bytes) (hfit : r.payloadLen.toNat ≤ 300) :
    d.ToHandshake frame r env ↔ d.fJoinBssid = bssid := by
  have hdeliver := rxFrameReceived_data env h.data h.decap
  have haddr1 : r.frameData.slice 4 6 = d.fMacAddress.bytes := by
    rw [slice_rxDecap h.decap (by decide) (by decide), hus]
  have haddr2 : r.frameData.slice 10 6 = bssid.bytes := by
    rw [slice_rxDecap h.decap (by decide) (by decide), h.transmitter]
  have hsmall : ¬ r.payloadLen > 300 := by
    rw [gt_iff_lt, UInt32.lt_iff_toNat_lt]
    exact Nat.not_lt.mpr hfit
  have hsink : d.rxSink r = .inbox ↔ d.fJoinBssid = bssid := by
    unfold rxSink
    rw [if_pos ⟨h.etherType, hpmk⟩, haddr1, if_neg (not_not.mpr rfl), haddr2, if_neg hsmall]
    by_cases hsame : bssid = d.fJoinBssid
    · rw [hsame, if_neg (not_not.mpr rfl)]
      exact iff_of_true rfl rfl
    · rw [if_pos fun hbytes => hsame (Buf.ext hbytes)]
      exact iff_of_false (by decide) (Ne.symm hsame)
  constructor
  · rintro ⟨hs, -⟩
    exact hsink.mp hs
  · intro hsame
    refine ⟨hsink.mpr hsame, ?_⟩
    rw [hdeliver]
    unfold rxDeliver
    rw [hsink.mpr hsame]

/-! ## The PMK -/

/-- `fPmkValid` is set by the first passphrase request and stays set. -/
structure Owned (d : Device) (h : Ownership) : Prop where
  pmk : d.fPmkValid = h.passphraseSeen
  path : ∀ bssid, h.path = some (.passphrase, bssid) → h.passphraseSeen = true

theorem Owned.congr {d d' : Device} {h : Ownership} (hi : Owned d h)
    (hpmk : d'.fPmkValid = d.fPmkValid) : Owned d' h := ⟨hpmk.trans hi.pmk, hi.path⟩

theorem recordPath_control (d : Device) (request : Request) (env : Env) (h : Ownership) :
    d.recordPath (.control request) env h =
      if d.fRemoved = false ∧ d.entersJoin request then
        { path :=
            match d.exchangeTarget request env with
            | none => h.path
            | some bssid => Request.pathFrom request bssid
          passphraseSeen := h.passphraseSeen || Request.hasPassphrase request }
      else h := rfl

theorem recordPath_other {d : Device} {request : Request} {env : Env} {h : Ownership}
    (hno : d.fRemoved = false → d.entersJoin request = false) :
    d.recordPath (.control request) env h = h := by
  rw [recordPath_control]
  refine if_neg ?_
  rintro ⟨hr, henters⟩
  rw [hno hr] at henters
  cases henters

theorem owned_joins {d d1 d' : Device} {request : Request} {bssid : Mac} {ssid : Bytes}
    {ssidLen : Nat} {env : Env} {h : Ownership} (hr : d.fRemoved = false)
    (hj : d.Joins request d1 bssid ssid ssidLen) (hpmk : d'.fPmkValid = d1.fPmkValid)
    (hi : Owned d h) : Owned d' (d.recordPath (.control request) env h) := by
  have henters := entersJoin_iff.mpr ⟨d1, bssid, ssid, ssidLen, hj⟩
  rw [recordPath_control, if_pos ⟨hr, henters⟩]
  have hvalid : d1.fPmkValid = (h.passphraseSeen || Request.hasPassphrase request) := by
    cases hj with
    | mlme => exact hi.pmk.trans (Bool.or_false _).symm
    | passphrase bssid ssidLen ssid passphraseLen passphrase hok =>
      have htakes := d.takesPassphrase bssid ssidLen ssid passphraseLen passphrase
      exact htakes.pmkValid.trans (Bool.or_true _).symm
    | again => exact hi.pmk.trans (Bool.or_false _).symm
  refine ⟨hpmk.trans hvalid, ?_⟩
  intro b hpath
  dsimp only at hpath ⊢
  cases ht : d.exchangeTarget request env with
  | none =>
    rw [ht] at hpath
    rw [hi.path b hpath]
    exact Bool.true_or _
  | some target =>
    rw [ht] at hpath
    cases request with
    | haikuJoinPsk => exact Bool.or_true _
    | _ => cases hpath

theorem owned_control {d : Device} {request : Request} {env : Env} {out : Device × List Action}
    {h : Ownership} (hstep : ControlStep d request env out) (hi : Owned d h) :
    Owned out.1 (d.recordPath (.control request) env h) := by
  have hheld : ∀ keyix macaddr keydata, Owned (d.holdKey keyix macaddr keydata) h := by
    intro keyix macaddr keydata
    obtain ⟨tk, tkValid, bssid, gtk, gtkId, gtkValid, heq⟩ := d.holdKey_device keyix macaddr keydata
    rw [heq]
    exact hi.congr rfl
  cases hstep with
  | settings ssid ssidLen wpaIe wpaIeLen privacy drop hs =>
    rw [recordPath_other fun hr => entersJoin_settings (hs hr)]
    exact hi.congr rfl
  | bssid data hr hq hlen =>
    subst hq
    rw [recordPath_other fun _ => rfl]
    exact hi.congr rfl
  | disconnected op macaddr ssidLen ssid hr hq hop =>
    have hno : d.entersJoin request = false := by
      subst hq
      rcases hop with rfl | rfl
      · rfl
      · rfl
    rw [recordPath_other fun _ => hno]
    exact hi.congr rfl
  | keyHeld keyix macaddr keydata hr hq hincomplete =>
    subst hq
    rw [recordPath_other fun _ => rfl]
    exact hheld keyix macaddr keydata
  | keysArmed keyix macaddr keydata hr hq hcomplete =>
    subst hq
    rw [recordPath_other fun _ => rfl]
    exact (hheld keyix macaddr keydata).congr rfl
  | unresolved d1 bssid ssid ssidLen hr hj ht => exact owned_joins hr hj rfl hi
  | joining d1 bssid target ssid ssidLen hr hj ht => exact owned_joins hr hj rfl hi

theorem owned_step {d : Device} {e : Event} {env : Env} {out : Device × List Action}
    {h : Ownership} (hstep : Step d env e out) (hi : Owned d h) :
    Owned out.1 (d.recordPath e env h) := by
  cases hstep with
  | dataPath e he removed ring tail pn actions =>
    cases e with
    | rxFrame frame isC2H => cases he
    | control request => cases he
    | _ => exact hi.congr rfl
  | rxFrame frame isC2H hc hrx => exact hi.congr hrx.keepsKeys.pmkValid
  | eapolWorker hworker => exact hi.congr hworker.keepsJoin.pmkValid
  | control request hcontrol => exact owned_control hcontrol hi

theorem goesTo_iff {d : Device} {path : JoinPath} {bssid : Mac} {frame : Bytes} {r : Decap}
    {env : Env} {h : Ownership} (hi : Owned d h) (hpath : h.path = some (path, bssid))
    (hfrom : d.EapolFrom bssid frame r) :
    d.GoesTo path frame r env ↔ d.PathIntact path bssid frame r h := by
  cases path with
  | supplicant =>
    show d.ToRing frame r env ↔ h.passphraseSeen = false ∧ _
    rw [toRing_iff hfrom, hi.pmk]
  | passphrase =>
    have hpmk : d.fPmkValid = true := hi.pmk.trans (hi.path bssid hpath)
    constructor
    · intro hgoes hus hfit
      exact (toHandshake_iff hfrom hpmk hus hfit).mp (hgoes hus hfit)
    · intro hintact hus hfit
      exact (toHandshake_iff hfrom hpmk hus hfit).mpr (hintact hus hfit)

theorem routed_iff {d : Device} {e : Event} {env : Env} {h : Ownership} (hi : Owned d h) :
    d.Routed e env h ↔ d.Routable e h := by
  cases e with
  | rxFrame frame isC2H =>
    constructor
    · intro hrouted hc path bssid r hpath hfrom
      exact (goesTo_iff hi hpath hfrom).mp (hrouted hc path bssid r hpath hfrom)
    · intro hroutable hc path bssid r hpath hfrom
      exact (goesTo_iff hi hpath hfrom).mpr (hroutable hc path bssid r hpath hfrom)
  | _ => exact Iff.rfl

end Device

namespace System

/-- The device with the history of its joins. -/
def nextOwner : System × Ownership → Event × Env → Option (System × Ownership) :=
  Lts.recorded next fun s e h => s.device.recordPath e.1 e.2 h

theorem eapol_routing (mac : Mac) (es : List (Event × Env)) :
    Lts.Meets nextOwner (fun p e => p.1.device.Routed e.1 e.2 p.2) (init mac, .empty) es ↔
      Lts.Meets nextOwner (fun p e => p.1.device.Routable e.1 p.2) (init mac, .empty) es := by
  refine Lts.meets_iff_of_invariant (I := fun p : System × Ownership => Device.Owned p.1.device p.2)
    ?_ (fun hi => Device.routed_iff hi) ⟨rfl, ?_⟩
  · intro p q e hi hn
    obtain ⟨hnext, hrecord⟩ := Lts.recorded_eq_some.mp hn
    obtain ⟨actions, hstep, -⟩ := next_eq_some hnext
    rw [hrecord]
    exact Device.owned_step (Device.step_cases hstep) hi
  · intro bssid hpath
    cases hpath

/-! ### A supplicant's association after one with a passphrase -/

/-- A passphrase join, then an ASSOC request for the same BSS. -/
def mixedJoinRun : List (Event × Env) :=
  samplePskJoin ++
    [(.control (.mlme Device.kMlmeAssoc sampleBssid 3 (Buf.ofBytes 32 [0x6E, 0x65, 0x74])),
      sampleEnv)]

theorem eapol_routing_mixedJoins :
    ¬ ∀ mac es, Lts.Meets nextOwner (fun p e => p.1.device.Routed e.1 e.2 p.2)
      (init mac, .empty) es := by
  intro hclaim
  have hrun : (Lts.run nextOwner (init sampleMac, .empty) mixedJoinRun).map (fun p =>
      (p.2.path, p.1.device.fPmkValid)) = some (some (.supplicant, sampleBssid), true) := by
    decide +kernel
  obtain ⟨p, hr, hfields⟩ := Option.map_eq_some_iff.mp hrun
  obtain ⟨hpath, hpmk⟩ := Prod.mk.inj hfields
  have hm := hclaim sampleMac
    (mixedJoinRun ++ [(.rxFrame (Device.apFrame sampleMac sampleBssid []) false, sampleEnv)])
  obtain ⟨hrouted, -⟩ := (Lts.meets_append.mp hm).2 p hr
  obtain ⟨hdecap, hunwraps⟩ := p.1.device.rxDecap_apFrame sampleMac sampleBssid
    (show ([] : Bytes).length ≤ 300 by decide)
  have hfrom : p.1.device.EapolFrom sampleBssid (Device.apFrame sampleMac sampleBssid []) _ := {
    data := ⟨by decide, by decide⟩
    decap := hdecap
    etherType := hunwraps.etherType
    transmitter := Device.addr2_apFrame sampleMac sampleBssid [] }
  have hring : p.1.device.ToRing _ _ sampleEnv := hrouted rfl .supplicant sampleBssid _ hpath hfrom
  have hclear := ((Device.toRing_iff hfrom).mp hring).1
  rw [hpmk] at hclear
  cases hclear

end System
end Rtl8814au
