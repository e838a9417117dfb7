import Rtl8814au.Device.HandshakeDone
import Rtl8814au.Device.LinkState

/-!
# Device.Disconnect

What a DEAUTH or DISASSOC request comes to. It is ignored while a handshake of the driver's own is in
flight, and the guard takes `fEapolState` for that.

* `ownsExchange` — the history: the exchange is that of the passphrase request `fEapolState` is from.
* `TornDown`     — what the request is for: idle, and disconnected.
* `InHandshake`  — the handshake of the current association is in progress.
* `disconnect_request_run` — over every run, a request tears down or finds that handshake exactly if
  it finds `fEapolState` at rest, finds that handshake, or has nothing to tear down.
-/

namespace Rtl8814au
namespace Device

open Crypto Spec

/-- After the request, is the last exchange the one of the passphrase request that was accepted
last? A passphrase request that finds no BSS, and any other join, leave it at no. -/
def ownsExchange (d : Device) (request : Request) (env : Env) (own : Bool) : Bool :=
  match request with
  | .haikuJoinPsk _ _ _ _ _ =>
    if d.fRemoved = false ∧ d.entersJoin request then (d.exchangeTarget request env).isSome else own
  | _ => if (d.exchangeTarget request env).isSome then false else own

/-- A handshake is only ever begun with a PMK. -/
def BegunWithPmk (d : Device) : Prop := d.fEapolState ≠ .kEapolIdle → d.fPmkValid = true

theorem BegunWithPmk.congr {d d' : Device} (h : BegunWithPmk d)
    (hstate : d'.fEapolState = d.fEapolState) (hpmk : d'.fPmkValid = d.fPmkValid) :
    BegunWithPmk d' := by
  intro hbegun
  rw [hpmk]
  exact h (hstate ▸ hbegun)

theorem begunWithPmk_worker {d : Device} {env : Env} {out : Device × List Action}
    (h : BegunWithPmk d) (hstep : EapolStep d env out) : BegunWithPmk out.1 := by
  have hpmk := hstep.keepsJoin.pmkValid
  have hm3 : ∀ {gtk}, d.inboxM3 env = some gtk → d.fPmkValid = true := by
    intro gtk hgtk
    have hwait := (classify_eq_m3 (inboxM3_eq_some hgtk).1).1
    exact h (by rw [hwait]; exact nofun)
  cases hstep with
  | unanswered hw hc hvalid actions => exact fun _ => hpmk.trans hvalid
  | answered hw hc hvalid actions => exact fun _ => hpmk.trans hvalid
  | installed gtk hw hgtk ht hi actions => exact fun _ => hpmk.trans (hm3 hgtk)
  | installFailed gtk hw hgtk ht hi actions => exact fun _ => hpmk.trans (hm3 hgtk)
  | _ => exact h.congr rfl rfl

theorem begunWithPmk_joins {d d1 d' : Device} {request : Request} {bssid : Mac} {ssid : Bytes}
    {ssidLen : Nat} (h : BegunWithPmk d) (hj : d.Joins request d1 bssid ssid ssidLen)
    (hstate : d'.fEapolState = d1.fEapolState) (hpmk : d'.fPmkValid = d1.fPmkValid) :
    BegunWithPmk d' := by
  cases hj with
  | mlme => exact h.congr hstate hpmk
  | passphrase bssid ssidLen ssid passphraseLen passphrase hok =>
    exact fun _ =>
      hpmk.trans (d.takesPassphrase bssid ssidLen ssid passphraseLen passphrase).pmkValid
  | again => exact h.congr hstate hpmk

theorem begunWithPmk_control {d : Device} {request : Request} {env : Env}
    {out : Device × List Action} (h : BegunWithPmk d) (hstep : ControlStep d request env out) :
    BegunWithPmk out.1 := by
  have hheld : ∀ keyix macaddr keydata, BegunWithPmk (d.holdKey keyix macaddr keydata) := by
    intro keyix macaddr keydata
    obtain ⟨tk, tkValid, bssid, gtk, gtkId, gtkValid, heq⟩ := d.holdKey_device keyix macaddr keydata
    rw [heq]
    exact h.congr rfl rfl
  cases hstep with
  | keyHeld keyix macaddr keydata hr hq hincomplete => exact hheld keyix macaddr keydata
  | keysArmed keyix macaddr keydata hr hq hcomplete =>
    exact (hheld keyix macaddr keydata).congr rfl rfl
  | unresolved d1 bssid ssid ssidLen hr hj ht => exact begunWithPmk_joins h hj rfl rfl
  | joining d1 bssid target ssid ssidLen hr hj ht => exact begunWithPmk_joins h hj rfl rfl
  | _ => exact h.congr rfl rfl

theorem begunWithPmk_step {d : Device} {e : Event} {env : Env} {out : Device × List Action}
    (h : BegunWithPmk d) (hstep : d.step e env = some out) : BegunWithPmk out.1 := by
  cases step_cases hstep with
  | dataPath e he removed ring tail pn actions => exact h.congr rfl rfl
  | rxFrame frame isC2H hc hrx =>
    exact h.congr hrx.keepsKeys.eapolState hrx.keepsKeys.pmkValid
  | eapolWorker hworker => exact begunWithPmk_worker h hworker
  | control request hcontrol => exact begunWithPmk_control h hcontrol

/-- A handshake waits for a message. -/
def AwaitsMessage (d : Device) : Prop :=
  d.fEapolState = .kEapolWaitM1 ∨ d.fEapolState = .kEapolWaitM3

instance (d : Device) : Decidable d.AwaitsMessage := inferInstanceAs (Decidable (_ ∨ _))

/-- The guard of the request. -/
theorem awaitsMessage_iff {d : Device} (h : BegunWithPmk d) :
    d.AwaitsMessage ↔
      d.fPmkValid = true ∧ d.fEapolState ≠ .kEapolDone ∧ d.fEapolState ≠ .kEapolIdle := by
  unfold BegunWithPmk at h
  unfold AwaitsMessage
  cases hstate : d.fEapolState with
  | kEapolWaitM1 => simp [h (by rw [hstate]; exact nofun)]
  | kEapolWaitM3 => simp [h (by rw [hstate]; exact nofun)]
  | _ => simp

end Device

namespace Station

/-- The station with the history of its exchanges. -/
def noteExchange (s : Station) (op : Operation) (own : Bool) : Bool :=
  match op with
  | .call (.control request) env => s.device.ownsExchange request env own
  | _ => own

def nextExchange : Station × Bool → Operation → Option (Station × Bool) :=
  Lts.recorded next noteExchange

def TornDown (s : Station) : Prop :=
  s.device.fJoinState = .kJoinIdle ∧ s.manager.fState = .kWiFiStateDisconnected

instance (s : Station) : Decidable s.TornDown := inferInstanceAs (Decidable (_ ∧ _))

def InHandshake (s : Station) (own : Bool) : Prop :=
  own = true ∧ s.device.fJoinState = .kJoinConnected ∧ s.device.AwaitsMessage

instance (s : Station) (own : Bool) : Decidable (s.InHandshake own) :=
  inferInstanceAs (Decidable (_ ∧ _))

/-- A DEAUTH or DISASSOC request. -/
def isDisconnect : Operation → Bool
  | .call (.control (.mlme op _ _ _)) _ => op = Device.kMlmeDeauth ∨ op = Device.kMlmeDisassoc
  | _ => false

/-- The request tears down, or finds the handshake of the current association. -/
def Obeys (p : Station × Bool) (op : Operation) : Prop :=
  isDisconnect op = true → ∀ s', next p.1 op = some s' → TornDown s' ∨ p.1.InHandshake p.2

/-- It finds that handshake, no handshake that waits, or nothing to tear down. -/
def Disconnectable (p : Station × Bool) (op : Operation) : Prop :=
  isDisconnect op = true →
    p.1.InHandshake p.2 ∨ (p.1.device.fRemoved = false ∧ ¬ p.1.device.AwaitsMessage) ∨ p.1.TornDown

theorem tornDown_disconnect {s s' : Station} {op : Operation} (h : s.device.BegunWithPmk)
    (hop : isDisconnect op = true) (hn : next s op = some s') :
    s'.TornDown ↔ s.device.fRemoved = false ∧ ¬ s.device.AwaitsMessage ∨ s.TornDown := by
  obtain ⟨request, env, rfl⟩ : ∃ request env, op = .call (.control request) env := by
    unfold isDisconnect at hop
    split at hop
    · exact ⟨_, _, rfl⟩
    · cases hop
  cases request with
  | mlme op macaddr ssidLen ssid =>
    have hdis : op = Device.kMlmeDeauth ∨ op = Device.kMlmeDisassoc := of_decide_eq_true hop
    have hassoc : op ≠ Device.kMlmeAssoc := by
      rcases hdis with rfl | rfl
      · decide
      · decide
    cases hn
    unfold TornDown managerStep
    dsimp only
    by_cases hr : s.device.fRemoved = true
    · have hno : s.device.disconnects (.mlme op macaddr ssidLen ssid) = false := by
        refine decide_eq_false ?_
        rintro ⟨hr', -⟩
        rw [hr] at hr'
        cases hr'
      rw [hno]
      simp [Device.control, hr]
    rw [Bool.not_eq_true] at hr
    by_cases hwait : s.device.AwaitsMessage
    · have hguard := (Device.awaitsMessage_iff h).mp hwait
      have hno : s.device.disconnects (.mlme op macaddr ssidLen ssid) = false :=
        decide_eq_false fun hd => hd.2.2 hguard
      rw [hno]
      simp [Device.control, Device.set80211, Device.mlme, Device.disconnectRequest, hr, hassoc,
        hdis, hguard, hwait]
    · have hguard := fun hg => hwait ((Device.awaitsMessage_iff h).mpr hg)
      have hyes : s.device.disconnects (.mlme op macaddr ssidLen ssid) = true :=
        decide_eq_true ⟨hr, hdis, hguard⟩
      have hdown := s.manager.disconnect_state
      rw [hyes]
      simp only [Device.control, Device.set80211, Device.mlme, Device.disconnectRequest, hr,
        if_neg hassoc, if_pos hdis, if_neg hguard]
      simp [hdown, hwait]
  | _ => cases hop

theorem obeys_iff {p : Station × Bool} {op : Operation} (h : p.1.device.BegunWithPmk) :
    Obeys p op ↔ Disconnectable p op := by
  unfold Obeys Disconnectable
  refine imp_congr_right fun hop => ?_
  constructor
  · intro hobeys
    obtain ⟨s', hn⟩ : ∃ s', next p.1 op = some s' := by
      unfold isDisconnect at hop
      split at hop
      · exact ⟨_, rfl⟩
      · cases hop
    rcases hobeys s' hn with hdown | hown
    · exact .inr ((tornDown_disconnect h hop hn).mp hdown)
    · exact .inl hown
  · intro hable s' hn
    rcases hable with hown | hdown
    · exact .inr hown
    · exact .inl ((tornDown_disconnect h hop hn).mpr hdown)

theorem begunWithPmk_next {s s' : Station} {op : Operation} (h : s.device.BegunWithPmk)
    (hn : next s op = some s') : s'.device.BegunWithPmk := by
  cases op with
  | call e env =>
    obtain ⟨out, hout, rfl⟩ := Option.map_eq_some_iff.mp hn
    exact Device.begunWithPmk_step h hout
  | scan now h2c spawned =>
    cases hn
    unfold scan
    split
    · exact h
    split
    · exact h
    · exact h
  | _ =>
    cases hn
    exact h

/-- Over every run from start-up. -/
theorem disconnect_request_run (mac : Mac) (own : Bool) (ops : List Operation) :
    Lts.Meets nextExchange Obeys (init mac, own) ops ↔
      Lts.Meets nextExchange Disconnectable (init mac, own) ops := by
  refine Lts.meets_iff_of_invariant (I := fun p : Station × Bool => p.1.device.BegunWithPmk) ?_
    (fun h => obeys_iff h) ?_
  · intro p q op h hn
    exact begunWithPmk_next h (Lts.recorded_eq_some.mp hn).1
  · intro hbegun
    exact absurd rfl hbegun

/-- A request with a passphrase for a network that is not there. -/
def sampleRefusal : Operation :=
  .call (.control (.haikuJoinPsk (Buf.zero 6) 3 (Buf.ofBytes 32 [0x66, 0x61, 0x72]) 8
    (Buf.ofBytes 64 (List.replicate 8 0x70)))) System.sampleEnv

def sampleDeauth : Operation :=
  .call (.control (.mlme Device.kMlmeDeauth System.sampleBssid 0 (Buf.zero 32))) System.sampleEnv

/-- After it, the station cannot be taken off the network it is on. -/
theorem disconnect_request_run_refusal :
    ¬ ∀ mac ops, Lts.Meets nextExchange Obeys (init mac, false) ops := by
  intro hclaim
  have hrun : (Lts.run nextExchange (init System.sampleMac, false)
      (sampleAssociation ++ [sampleRefusal])).map (fun p => (p.2, (next p.1 sampleDeauth).map
        fun s => (s.device.fJoinState, s.manager.fState))) =
      some (false, some (.kJoinConnected, .kWiFiStateConnected)) := by decide +kernel
  obtain ⟨p, hr, hfields⟩ := Option.map_eq_some_iff.mp hrun
  obtain ⟨hown, hdeauth⟩ := Prod.mk.inj hfields
  obtain ⟨s', hn, hstates⟩ := Option.map_eq_some_iff.mp hdeauth
  have hm := hclaim System.sampleMac (sampleAssociation ++ [sampleRefusal] ++ [sampleDeauth])
  obtain ⟨hobeys, -⟩ := (Lts.meets_append.mp hm).2 p hr
  rcases hobeys rfl s' hn with hdown | hin
  · have hidle := (Prod.mk.inj hstates).1.symm.trans hdown.1
    cases hidle
  · have hyes := hown.symm.trans hin.1
    cases hyes

end Station
end Rtl8814au
