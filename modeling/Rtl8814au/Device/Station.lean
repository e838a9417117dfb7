import Rtl8814au.Device.Steps
import Rtl8814au.WiFi.Manager

/-!
# Device.Station

The device together with its WiFi manager: what each call into the driver makes of the link state
that the manager keeps beside `fJoinState`.

* `Station.step`: a call into the device, with its effect on the manager.
* `Operation`, `next`: the completed operations, among them a scan, `Close` and a later `Open`.
* `connected_step`: when a call leaves `fJoinState` at `kJoinConnected`.
-/

namespace Rtl8814au

structure Station where
  device : Device
  manager : WiFiManager

namespace Device

/-- The request gets to `Disconnect`: no handshake of the driver's own is in flight. -/
def disconnects (d : Device) (request : Request) : Bool :=
  match request with
  | .mlme op _ _ _ =>
    d.fRemoved = false ∧ (op = kMlmeDeauth ∨ op = kMlmeDisassoc) ∧
      ¬ (d.fPmkValid ∧ d.fEapolState ≠ .kEapolDone ∧ d.fEapolState ≠ .kEapolIdle)
  | _ => false

end Device

namespace Station

def init (mac : Mac) : Station where
  device := .init mac
  manager := .init

/-- A firmware event in the receive stream: id, sequence number, payload. -/
def c2hFrame (m : WiFiManager) (frame : Bytes) : WiFiManager :=
  if frame.length < 2 then m else m.handleC2HEvent (frame.at 0) (frame.drop 2)

/-- What the call makes of the manager. -/
def managerStep (s : Station) (e : Event) : WiFiManager :=
  match e with
  | .rxFrame frame isC2H =>
    if isC2H then c2hFrame s.manager frame
    else if s.device.acceptsAssoc frame then
      s.manager.markConnected s.device.fJoinBssid s.device.fJoinSsid
    else s.manager
  | .control request => if s.device.disconnects request then s.manager.disconnect else s.manager
  | _ => s.manager

def step (s : Station) (e : Event) (env : Env) : Option Station :=
  (s.device.step e env).map fun r => { device := r.1, manager := s.managerStep e }

/-- `IOC_SCAN_REQ` and the sweep it leads to. `h2c` is the status of the scan command, `spawned`
whether the notifier thread could be created; without it nobody calls `FinishScan`. -/
def scan (s : Station) (now : Int) (h2c : Status) (spawned : Bool) : Station :=
  if s.device.fRemoved then s
  else
    match s.manager.startScan now with
    | none => s
    | some m => { s with manager := if h2c = .ok ∧ spawned then m.finishScan else m }

/-- An operation run to its end. -/
inductive Operation where
  | call (e : Event) (env : Env)
  | interrupt (eventID : UInt8) (payload : Bytes) -- A firmware event on the interrupt endpoint.
  | scan (now : Int) (h2c : Status) (spawned : Bool)
  | close
  | reopen

def next (s : Station) : Operation → Option Station
  | .call e env => s.step e env
  | .interrupt eventID payload =>
    some { s with manager := s.manager.handleC2HEvent eventID payload }
  | .scan now h2c spawned => some (s.scan now h2c spawned)
  | .close => some { s with manager := s.manager.disconnect }
  | .reopen => some s

end Station

namespace Station

/-- A received frame leaves the manager connected when it says the link is up, or when it was up and
the frame does not say it is gone. -/
theorem managerStep_rxFrame (s : Station) (frame : Bytes) (isC2H : Bool) :
    (s.managerStep (.rxFrame frame isC2H)).fState = .kWiFiStateConnected ↔
      (isC2H = true ∧ 2 ≤ frame.length ∧
          WiFiManager.reportsLinkUp (frame.at 0) (frame.drop 2) ∨
        isC2H = false ∧ s.device.acceptsAssoc frame = true) ∨
      s.manager.fState = .kWiFiStateConnected ∧
        ¬ (isC2H = true ∧ 2 ≤ frame.length ∧
          WiFiManager.reportsLinkDown (frame.at 0) (frame.drop 2)) := by
  unfold managerStep
  dsimp only
  cases isC2H with
  | true =>
    rw [if_pos rfl]
    unfold c2hFrame
    by_cases hshort : frame.length < 2
    · have hno : ¬ 2 ≤ frame.length := by omega
      rw [if_pos hshort]
      simp [hno]
    · have hlen : 2 ≤ frame.length := by omega
      rw [if_neg hshort, WiFiManager.handleC2HEvent_connected]
      simp [hlen]
  | false =>
    rw [if_neg (by decide)]
    by_cases hacc : s.device.acceptsAssoc frame = true
    · rw [if_pos hacc]
      simp [hacc, WiFiManager.markConnected]
    · rw [if_neg hacc]
      simp [hacc]

end Station

/-! ## When a call leaves the station associated -/

namespace Device

theorem rxFrameReceived_associated {d : Device} {frame : Bytes} (env : Env)
    (h : d.acceptsAssoc frame = true) : d.rxFrameReceived frame false env =
      some ({ d with fJoinState := .kJoinConnected }, []) := by
  obtain ⟨hans, hok⟩ := of_decide_eq_true h
  have hshort : ¬ (frame.length < 30 ∨ d.fJoinState ≠ .kJoinAssociating) := by
    rintro (hlen | hstate)
    · exact absurd hans.size (Nat.not_le.mpr hlen)
    · exact hstate hans.waits
  have hstatus : ¬ le16At frame 26 ≠ 0 := not_not.mpr (of_decide_eq_true hok)
  unfold rxFrameReceived
  rw [if_neg (by decide), if_neg hans.header, if_pos hans.management, hans.subtypeEq,
    if_neg (by decide), if_pos rfl]
  unfold handleAssocResponse
  rw [if_neg hshort, if_neg (not_not.mpr hans.forUs), if_neg hstatus]

/-- A received frame. -/
theorem connected_rxFrame {d : Device} {frame : Bytes} {isC2H : Bool} {env : Env}
    {out : Device × List Action} (h : d.rxFrameReceived frame isC2H env = some out) :
    out.1.fJoinState = .kJoinConnected ↔
      d.fJoinState = .kJoinConnected ∨ isC2H = false ∧ d.acceptsAssoc frame = true := by
  cases isC2H with
  | true =>
    cases h
    simp
  | false =>
    by_cases hacc : d.acceptsAssoc frame = true
    · rw [rxFrameReceived_associated env hacc] at h
      cases h
      simp [hacc]
    · have hstep := rxFrameReceived_step h
      have hright : (d.fJoinState = .kJoinConnected ∨ false = false ∧ d.acceptsAssoc frame = true) ↔
          d.fJoinState = .kJoinConnected := by simp [hacc]
      rw [hright]
      cases hstep with
      | ignored => exact Iff.rfl
      | refused hstate =>
        rcases hstate with hstate | hstate
        · simp [hstate]
        · simp [hstate]
      | requestLost hauth actions =>
        have hstate := (of_decide_eq_true hauth).1.waits
        simp [hstate]
      | authenticated hauth ht actions =>
        have hstate := (of_decide_eq_true hauth).1.waits
        simp [hstate]
      | associated hassoc => exact absurd hassoc hacc
      | inbox r hd hr hs => exact Iff.rfl
      | ring r hd hr hs =>
        obtain ⟨ring, head, tail, heq⟩ := d.enqueue_device (r.ringEntry (d.fRxRing d.fRxRingHead))
        rw [heq]

theorem joinState_joins {d d1 : Device} {request : Request} {bssid : Mac} {ssid : Bytes}
    {ssidLen : Nat} (h : d.Joins request d1 bssid ssid ssidLen) : d1.fJoinState = d.fJoinState := by
  cases h with
  | mlme => rfl
  | passphrase bssid ssidLen ssid passphraseLen passphrase hok =>
    exact (d.takesPassphrase bssid ssidLen ssid passphraseLen passphrase).joinState
  | again => rfl

/-- The resets of `_DoJoin` leave a connected station connected. -/
theorem connected_joinReset (d : Device) :
    d.joinReset.fJoinState = .kJoinConnected ↔ d.fJoinState = .kJoinConnected := by
  unfold joinReset
  cases hstate : d.fJoinState with
  | _ => simp

theorem joinState_holdKey (d : Device) (keyix : UInt16) (macaddr : Mac) (keydata : Crypto.Block) :
    (d.holdKey keyix macaddr keydata).fJoinState = d.fJoinState := by
  obtain ⟨tk, tkValid, bssid, gtk, gtkId, gtkValid, heq⟩ := d.holdKey_device keyix macaddr keydata
  rw [heq]

/-- The MLME requests other than an association. -/
theorem connected_mlme (d : Device) {op : UInt8} (macaddr : Mac) (ssidLen : UInt8) (ssid : Buf 32)
    (env : Env) (hop : op ≠ kMlmeAssoc) :
    (d.control (.mlme op macaddr ssidLen ssid) env).device.fJoinState = .kJoinConnected ↔
      d.fJoinState = .kJoinConnected ∧ d.disconnects (.mlme op macaddr ssidLen ssid) = false := by
  unfold control set80211
  by_cases hr : d.fRemoved = true
  · rw [if_pos hr]
    simp [disconnects, hr]
  rw [if_neg hr]
  rw [Bool.not_eq_true] at hr
  dsimp only [mlme]
  rw [if_neg hop]
  by_cases hdown : op = kMlmeDeauth ∨ op = kMlmeDisassoc
  · rw [if_pos hdown]
    dsimp only [disconnectRequest]
    split
    · rename_i hflight
      have hno : d.disconnects (.mlme op macaddr ssidLen ssid) = false :=
        decide_eq_false fun h => h.2.2 hflight
      simp [hno]
    · rename_i hflight
      have hyes : d.disconnects (.mlme op macaddr ssidLen ssid) = true :=
        decide_eq_true ⟨hr, hdown, hflight⟩
      simp [hyes]
  · rw [if_neg hdown]
    have hno : d.disconnects (.mlme op macaddr ssidLen ssid) = false :=
      decide_eq_false fun h => hdown h.2.1
    simp [hno]

/-- Any other request: only an exchange takes the station away from `kJoinConnected`. -/
theorem ControlStep.connected {d : Device} {request : Request} {env : Env}
    {out : Device × List Action} (h : ControlStep d request env out)
    (hno : ∀ op macaddr ssidLen ssid, request = .mlme op macaddr ssidLen ssid → op = kMlmeAssoc) :
    out.1.fJoinState = .kJoinConnected ↔
      d.fJoinState = .kJoinConnected ∧ d.exchangeTarget request env = none := by
  cases h with
  | settings ssid ssidLen wpaIe wpaIeLen privacy drop hs =>
    rw [exchangeTarget_other fun hr => entersJoin_settings (hs hr)]
    simp
  | bssid data hr hq hlen =>
    subst hq
    rw [exchangeTarget_other fun _ => rfl]
    simp
  | disconnected op macaddr ssidLen ssid hr hq hop =>
    have hassoc := hno op macaddr ssidLen ssid hq
    subst hassoc
    exact absurd hop (by decide)
  | keyHeld keyix macaddr keydata hr hq hincomplete =>
    subst hq
    rw [exchangeTarget_other fun _ => rfl, joinState_holdKey]
    simp
  | keysArmed keyix macaddr keydata hr hq hcomplete =>
    subst hq
    rw [exchangeTarget_other fun _ => rfl]
    have hstate : (d.holdKey keyix macaddr keydata).armKeys.fJoinState = d.fJoinState :=
      d.joinState_holdKey keyix macaddr keydata
    rw [hstate]
    simp
  | unresolved d1 bssid ssid ssidLen hr hj ht =>
    rw [exchangeTarget_joins hr hj, ht, connected_joinReset, joinState_joins hj]
    simp
  | joining d1 bssid target ssid ssidLen hr hj ht =>
    rw [exchangeTarget_joins hr hj, ht]
    have hstate : (d1.joinReset.startJoin target ssid ssidLen env).device.fJoinState =
        .kJoinAuthenticating := rfl
    rw [hstate]
    simp

/-- A request that starts an exchange or disconnects leaves the station unconnected. -/
theorem connected_control (d : Device) (request : Request) (env : Env) :
    (d.control request env).device.fJoinState = .kJoinConnected ↔
      d.fJoinState = .kJoinConnected ∧ d.disconnects request = false ∧
        d.exchangeTarget request env = none := by
  have hmain : d.disconnects request = false →
      (∀ op macaddr ssidLen ssid, request = .mlme op macaddr ssidLen ssid → op = kMlmeAssoc) →
      ((d.control request env).device.fJoinState = .kJoinConnected ↔
        d.fJoinState = .kJoinConnected ∧ d.disconnects request = false ∧
          d.exchangeTarget request env = none) := by
    intro hno hassoc
    rw [(d.control_step request env).connected hassoc, hno]
    simp
  cases request with
  | mlme op macaddr ssidLen ssid =>
    by_cases hop : op = kMlmeAssoc
    · subst hop
      refine hmain (decide_eq_false ?_) ?_
      · rintro ⟨-, h, -⟩
        exact absurd h (by decide)
      · intro op macaddr ssidLen ssid hq
        cases hq
        rfl
    · have hnone : d.exchangeTarget (.mlme op macaddr ssidLen ssid) env = none :=
        exchangeTarget_other fun _ => decide_eq_false hop
      rw [connected_mlme d macaddr ssidLen ssid env hop, hnone]
      simp
  | _ =>
    refine hmain rfl ?_
    intro op macaddr ssidLen ssid hq
    cases hq

/-- A call that goes neither to the receive path nor to an ioctl keeps the join state. -/
theorem joinState_step {d : Device} {e : Event} {env : Env} {out : Device × List Action}
    (h : d.step e env = some out) (hrx : ∀ frame isC2H, e ≠ .rxFrame frame isC2H)
    (hctl : ∀ request, e ≠ .control request) : out.1.fJoinState = d.fJoinState := by
  cases step_cases h with
  | dataPath e he removed ring tail pn actions => rfl
  | rxFrame frame isC2H hc hstep => exact absurd rfl (hrx frame isC2H)
  | eapolWorker hstep => exact hstep.keepsJoin.joinState
  | control request hstep => exact absurd rfl (hctl request)

end Device
end Rtl8814au
