import Rtl8814au.Device.KeySafety
import Rtl8814au.Device.Station

/-!
# Device.LinkState

The link is recorded twice, in `fJoinState` of the device and in `fState` of the manager, and the
handlers that write one of them do not all write the other.

* `Agrees`    — both say connected, or neither does.
* `Parts`     — the operations that, in a state where they agree, write only one of the two.
* `agrees_next` — one operation keeps the agreement exactly if it is none of those.
-/

namespace Rtl8814au
namespace Station

def Agrees (s : Station) : Prop :=
  s.device.fJoinState = .kJoinConnected ↔ s.manager.fState = .kWiFiStateConnected

instance (s : Station) : Decidable s.Agrees := inferInstanceAs (Decidable (_ ↔ _))

/-- The firmware reports the loss of a link that is up, or a link where there is none. -/
def Contradicts (m : WiFiManager) (eventID : UInt8) (payload : Bytes) : Prop :=
  m.fState = .kWiFiStateConnected ∧ WiFiManager.reportsLinkDown eventID payload ∨
    m.fState ≠ .kWiFiStateConnected ∧ WiFiManager.reportsLinkUp eventID payload

instance (m : WiFiManager) (eventID : UInt8) (payload : Bytes) :
    Decidable (Contradicts m eventID payload) :=
  inferInstanceAs (Decidable (_ ∧ _ ∨ _ ∧ _))

/-- A join started while connected, a scan or a `Close` while connected, or a firmware event against
the recorded state. -/
def Parts (s : Station) : Operation → Prop
  | .call (.rxFrame frame isC2H) _ =>
    isC2H = true ∧ 2 ≤ frame.length ∧ Contradicts s.manager (frame.at 0) (frame.drop 2)
  | .call (.control request) env =>
    s.device.fJoinState = .kJoinConnected ∧ (s.device.exchangeTarget request env).isSome
  | .call _ _ => False
  | .interrupt eventID payload => Contradicts s.manager eventID payload
  | .scan _ _ _ => s.device.fRemoved = false ∧ s.manager.fState = .kWiFiStateConnected
  | .close => s.manager.fState = .kWiFiStateConnected
  | .reopen => False

instance (s : Station) : ∀ op, Decidable (s.Parts op)
  | .call (.rxFrame _ _) _ => inferInstanceAs (Decidable (_ ∧ _))
  | .call (.control _) _ => inferInstanceAs (Decidable (_ ∧ _))
  | .call (.write _) _ => isFalse id
  | .call (.read _) _ => isFalse id
  | .call .eapolWorker _ => isFalse id
  | .call .setRemoved _ => isFalse id
  | .interrupt _ _ => inferInstanceAs (Decidable (Contradicts _ _ _))
  | .scan _ _ _ => inferInstanceAs (Decidable (_ ∧ _))
  | .close => inferInstanceAs (Decidable (_ = _))
  | .reopen => isFalse id

/-! ## One operation -/

theorem not_reportsLinkDown (eventID : UInt8) (payload : Bytes) :
    WiFiManager.reportsLinkUp eventID payload →
      ¬ WiFiManager.reportsLinkDown eventID payload := by
  intro hup
  unfold WiFiManager.reportsLinkUp at hup
  unfold WiFiManager.reportsLinkDown
  rw [hup]
  decide

/-- The manager after an event on the interrupt endpoint is the only part that moves. -/
theorem agrees_interrupt {s : Station} (h : s.Agrees) (eventID : UInt8) (payload : Bytes) :
    (s.device.fJoinState = .kJoinConnected ↔
      (s.manager.handleC2HEvent eventID payload).fState = .kWiFiStateConnected) ↔
      ¬ Contradicts s.manager eventID payload := by
  have hnot := not_reportsLinkDown eventID payload
  unfold Agrees at h
  rw [h, WiFiManager.handleC2HEvent_connected]
  unfold Contradicts
  by_cases hconn : s.manager.fState = .kWiFiStateConnected
  · by_cases hup : WiFiManager.reportsLinkUp eventID payload
    · simp [hconn, hup, hnot hup]
    · simp [hconn, hup]
  · simp [hconn]

theorem agrees_rxFrame {s s' : Station} {frame : Bytes} {isC2H : Bool} {env : Env}
    (h : s.Agrees) (hn : s.step (.rxFrame frame isC2H) env = some s') :
    s'.Agrees ↔ ¬ s.Parts (.call (.rxFrame frame isC2H) env) := by
  unfold step at hn
  obtain ⟨out, hout, rfl⟩ := Option.map_eq_some_iff.mp hn
  have hnot := not_reportsLinkDown (frame.at 0) (frame.drop 2)
  unfold Agrees at h ⊢
  unfold Parts Contradicts
  dsimp only
  rw [Device.connected_rxFrame hout, managerStep_rxFrame, h]
  cases isC2H with
  | true =>
    by_cases hconn : s.manager.fState = .kWiFiStateConnected
    · by_cases hup : WiFiManager.reportsLinkUp (frame.at 0) (frame.drop 2)
      · simp [hconn, hup, hnot hup]
      · simp [hconn, hup]
    · simp [hconn]
  | false =>
    by_cases hacc : s.device.acceptsAssoc frame = true
    · simp [hacc]
    · simp [hacc]

theorem agrees_control {s s' : Station} {request : Request} {env : Env}
    (h : s.Agrees) (hn : s.step (.control request) env = some s') :
    s'.Agrees ↔ ¬ s.Parts (.call (.control request) env) := by
  cases hn
  have hjoin := s.device.connected_control request env
  unfold Agrees at h ⊢
  unfold Parts managerStep
  dsimp only
  rw [hjoin]
  cases hdis : s.device.disconnects request with
  | true =>
    have hdown := s.manager.disconnect_state
    have hnone : s.device.exchangeTarget request env = none := by
      refine Device.exchangeTarget_other fun _ => ?_
      cases request with
      | mlme op macaddr ssidLen ssid =>
        obtain ⟨-, hop, -⟩ := of_decide_eq_true hdis
        refine decide_eq_false ?_
        rintro rfl
        exact absurd hop (by decide)
      | _ => cases hdis
    simp [hdown, hnone]
  | false =>
    cases hx : s.device.exchangeTarget request env with
    | none => simpa using h
    | some target => simp [h]

/-- A scan that gets past `B_BUSY` takes the manager away from connected for good. -/
theorem agrees_scan {s : Station} (h : s.Agrees) (now : Int) (h2c : Status) (spawned : Bool) :
    (s.scan now h2c spawned).Agrees ↔ ¬ s.Parts (.scan now h2c spawned) := by
  unfold Agrees at h ⊢
  unfold Parts scan
  by_cases hr : s.device.fRemoved = true
  · rw [if_pos hr]
    simpa [hr] using h
  rw [if_neg hr]
  rw [Bool.not_eq_true] at hr
  cases hs : s.manager.startScan now with
  | none =>
    have hconn : s.manager.fState ≠ .kWiFiStateConnected := by
      intro hconn
      rw [WiFiManager.startScan_connected hconn] at hs
      cases hs
    simpa [hconn] using h
  | some m =>
    have hstate := WiFiManager.startScan_state hs
    dsimp only
    split
    · rw [WiFiManager.finishScan_connected]
      simp [hr, hstate, h]
    · simp [hr, hstate, h]

theorem agrees_next {s s' : Station} {op : Operation} (h : s.Agrees)
    (hn : next s op = some s') : s'.Agrees ↔ ¬ s.Parts op := by
  cases op with
  | call e env =>
    have hother : (∀ frame isC2H, e ≠ .rxFrame frame isC2H) → (∀ request, e ≠ .control request) →
        s.managerStep e = s.manager → s'.Agrees := by
      intro hrx hctl hman
      obtain ⟨out, hout, rfl⟩ := Option.map_eq_some_iff.mp hn
      unfold Agrees
      dsimp only
      rw [Device.joinState_step hout hrx hctl, hman]
      exact h
    cases e with
    | rxFrame frame isC2H => exact agrees_rxFrame h hn
    | control request => exact agrees_control h hn
    | _ => exact ⟨fun _ => id, fun _ => hother (by simp) (by simp) rfl⟩
  | interrupt eventID payload =>
    cases hn
    exact agrees_interrupt h eventID payload
  | scan now h2c spawned =>
    cases hn
    exact agrees_scan h now h2c spawned
  | close =>
    cases hn
    have hdown := s.manager.disconnect_state
    unfold Agrees at h ⊢
    unfold Parts
    simp [hdown, h]
  | reopen =>
    cases hn
    exact ⟨fun _ => id, fun _ => h⟩

/-! ## Runs -/

theorem agrees_init (mac : Mac) : (init mac).Agrees := by
  unfold Agrees
  simp [init, Device.init, WiFiManager.init]

/-- The two records agree after every operation of a run exactly if none of them parts the two. -/
theorem link_states_agree {mac : Mac} {ops : List Operation} {s : Station}
    (hr : Lts.run next (init mac) ops = some s) :
    Lts.Always next Agrees (init mac) ops ↔
      Lts.Meets next (fun s op => ¬ s.Parts op) (init mac) ops :=
  Lts.always_iff_meets agrees_next (agrees_init mac) hr

def sampleAssociation : List Operation :=
  System.sampleJoin.map fun (e, env) => .call e env

/-- It goes down again at the user's request, and a scan and another `Open` follow. -/
def sampleDisconnect : List Operation :=
  let request : Request := .mlme Device.kMlmeDisassoc System.sampleBssid 0 (Buf.zero 32)
  sampleAssociation ++
    [.call (.control request) System.sampleEnv, .scan 0 .ok true, .reopen]

theorem link_states_agree_sampleDisconnect :
    ∃ s, Lts.run next (init System.sampleMac) sampleDisconnect = some s ∧
      s.manager.fState = .kWiFiStateDisconnected ∧
      Lts.Always next Agrees (init System.sampleMac) sampleDisconnect := by
  have hstate : (Lts.run next (init System.sampleMac) sampleDisconnect).map
      (fun s => s.manager.fState) = some .kWiFiStateDisconnected := by decide +kernel
  obtain ⟨s, hr, hdown⟩ := Option.map_eq_some_iff.mp hstate
  exact ⟨s, hr, hdown, (link_states_agree hr).mpr (by decide +kernel)⟩

/-- `Close` disconnects the manager, and `Write` still finds `kJoinConnected`. -/
theorem link_states_agree_closed :
    ∃ s, Lts.run next (init System.sampleMac) (sampleAssociation ++ [.close]) = some s ∧
      s.device.fJoinState = .kJoinConnected ∧ s.manager.fState = .kWiFiStateDisconnected := by
  have hstate : (Lts.run next (init System.sampleMac) (sampleAssociation ++ [.close])).map
      (fun s => (s.device.fJoinState, s.manager.fState)) =
      some (.kJoinConnected, .kWiFiStateDisconnected) := by decide +kernel
  obtain ⟨s, hr, hfields⟩ := Option.map_eq_some_iff.mp hstate
  exact ⟨s, hr, Prod.mk.inj hfields⟩

end Station
end Rtl8814au
