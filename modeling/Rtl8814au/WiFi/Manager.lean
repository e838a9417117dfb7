import Rtl8814au.Device.Join

/-!
# WiFi.Manager

The link state of `RTL8814AUWiFiManager`: what a scan, an association, a disconnect and the events
of the firmware make of it. Each definition is one section under the manager's lock.

The BSS table and the mailbox have no part in it: `Disconnect` and `StartScan` send their command
after the lock is released, and what the transfer came to does not reach these fields.
-/

namespace Rtl8814au

inductive WiFiState where
  | kWiFiStateDisconnected
  | kWiFiStateScanning
  | kWiFiStateAuthenticating
  | kWiFiStateAssociating
  | kWiFiStateConnected
deriving DecidableEq

structure WiFiManager where
  fState : WiFiState
  fConnectedBssid : Mac
  fConnectedSsid : Buf 33
  fCurrentChannel : UInt8
  fCurrentRssi : Int8
  fCurrentDataRate : UInt8
  fScanStartTime : Int
deriving DecidableEq

def kScanStaleTimeout : Int := 15 * 1000 * 1000

def kC2H_ScanComplete : UInt8 := 0x07
def kC2H_RateAdaptive : UInt8 := 0x0C
def kC2H_ConnectionStatus : UInt8 := 0x10

namespace WiFiManager

def init : WiFiManager where
  fState := .kWiFiStateDisconnected
  fConnectedBssid := Buf.zero 6
  fConnectedSsid := Buf.zero 33
  fCurrentChannel := 0
  fCurrentRssi := 0
  fCurrentDataRate := 0
  fScanStartTime := 0

/-- The locked section of `StartScan`, at system time `now`; `none` is `B_BUSY`. -/
def startScan (m : WiFiManager) (now : Int) : Option WiFiManager :=
  if m.fState = .kWiFiStateScanning ∧ now - m.fScanStartTime < kScanStaleTimeout then none
  else some { m with fState := .kWiFiStateScanning, fScanStartTime := now }

def finishScan (m : WiFiManager) : WiFiManager :=
  if m.fState ≠ .kWiFiStateScanning then m else { m with fState := .kWiFiStateDisconnected }

def markConnected (m : WiFiManager) (bssid : Mac) (ssid : Buf 33) : WiFiManager :=
  { m with
    fConnectedBssid := bssid
    fConnectedSsid := Device.strlcpy33 m.fConnectedSsid ssid.bytes
    fState := .kWiFiStateConnected }

def disconnect (m : WiFiManager) : WiFiManager :=
  if m.fState = .kWiFiStateDisconnected then m
  else
    { m with
      fState := .kWiFiStateDisconnected
      fConnectedBssid := Buf.zero 6
      fConnectedSsid := m.fConnectedSsid.copyAt 0 [0]
      fCurrentRssi := 0
      fCurrentDataRate := 0
      fCurrentChannel := 0 }

/-! ## Firmware events -/

def handleScanComplete (m : WiFiManager) : WiFiManager :=
  if m.fState = .kWiFiStateScanning then { m with fState := .kWiFiStateDisconnected } else m

/-- Status 0 is connected, 1 disconnected, 2 a failed authentication. -/
def handleConnectionStatus (m : WiFiManager) (payload : Bytes) : WiFiManager :=
  if payload.length < 1 then m
  else if payload.at 0 = 0 then { m with fState := .kWiFiStateConnected }
  else if payload.at 0 = 1 then
    { m with
      fState := .kWiFiStateDisconnected
      fConnectedBssid := Buf.zero 6
      fConnectedSsid := m.fConnectedSsid.copyAt 0 [0] }
  else if payload.at 0 = 2 then { m with fState := .kWiFiStateDisconnected }
  else m

def handleRateAdaptive (m : WiFiManager) (payload : Bytes) : WiFiManager :=
  if payload.length < 2 then m else { m with fCurrentDataRate := payload.at 0 }

/-- The transmit reports, the debug output and the unknown events leave the link state alone. -/
def handleC2HEvent (m : WiFiManager) (eventID : UInt8) (payload : Bytes) : WiFiManager :=
  if eventID = kC2H_ScanComplete then m.handleScanComplete
  else if eventID = kC2H_ConnectionStatus then m.handleConnectionStatus payload
  else if eventID = kC2H_RateAdaptive then m.handleRateAdaptive payload
  else m

/-! ## What becomes of a connected link -/

/-- The status a firmware event reports, if it is a connection status. -/
def linkReport (eventID : UInt8) (payload : Bytes) : Option UInt8 :=
  if eventID = kC2H_ConnectionStatus ∧ 1 ≤ payload.length then some (payload.at 0) else none

/-- An event that says the link is up. -/
def reportsLinkUp (eventID : UInt8) (payload : Bytes) : Prop := linkReport eventID payload = some 0

/-- An event that says it is gone. -/
def reportsLinkDown (eventID : UInt8) (payload : Bytes) : Prop :=
  linkReport eventID payload = some 1 ∨ linkReport eventID payload = some 2

instance (eventID : UInt8) (payload : Bytes) : Decidable (reportsLinkUp eventID payload) :=
  inferInstanceAs (Decidable (_ = _))

instance (eventID : UInt8) (payload : Bytes) : Decidable (reportsLinkDown eventID payload) :=
  inferInstanceAs (Decidable (_ ∨ _))

theorem startScan_state {m m' : WiFiManager} {now : Int} (h : m.startScan now = some m') :
    m'.fState = .kWiFiStateScanning := by
  unfold startScan at h
  split at h
  · cases h
  · cases h
    rfl

theorem startScan_connected {m : WiFiManager} {now : Int} (h : m.fState = .kWiFiStateConnected) :
    m.startScan now = some { m with fState := .kWiFiStateScanning, fScanStartTime := now } := by
  refine if_neg ?_
  rintro ⟨hscan, -⟩
  rw [h] at hscan
  cases hscan

/-- A scan that ends does not touch a state other than scanning. -/
theorem finishScan_connected (m : WiFiManager) :
    m.finishScan.fState = .kWiFiStateConnected ↔ m.fState = .kWiFiStateConnected := by
  unfold finishScan
  split
  · exact Iff.rfl
  · rename_i h
    rw [not_not] at h
    simp [h]

theorem handleScanComplete_connected (m : WiFiManager) :
    m.handleScanComplete.fState = .kWiFiStateConnected ↔ m.fState = .kWiFiStateConnected := by
  unfold handleScanComplete
  split
  · rename_i h
    simp [h]
  · exact Iff.rfl

theorem disconnect_state (m : WiFiManager) :
    m.disconnect.fState = .kWiFiStateDisconnected := by
  unfold disconnect
  split
  · rename_i h
    exact h
  · rfl

theorem linkReport_other {eventID : UInt8} (h : eventID ≠ kC2H_ConnectionStatus)
    (payload : Bytes) : linkReport eventID payload = none :=
  if_neg fun hs => h hs.1

theorem handleConnectionStatus_connected (m : WiFiManager) (payload : Bytes) :
    (m.handleConnectionStatus payload).fState = .kWiFiStateConnected ↔
      reportsLinkUp kC2H_ConnectionStatus payload ∨
        m.fState = .kWiFiStateConnected ∧ ¬ reportsLinkDown kC2H_ConnectionStatus payload := by
  unfold handleConnectionStatus reportsLinkUp reportsLinkDown
  by_cases hlen : payload.length < 1
  · have hreport : linkReport kC2H_ConnectionStatus payload = none := if_neg fun h => by omega
    rw [hreport, if_pos hlen]
    simp
  · have hreport : linkReport kC2H_ConnectionStatus payload = some (payload.at 0) :=
      if_pos ⟨rfl, by omega⟩
    rw [hreport, if_neg hlen]
    by_cases h0 : payload.at 0 = 0
    · simp [h0]
    by_cases h1 : payload.at 0 = 1
    · simp [h1]
    by_cases h2 : payload.at 0 = 2
    · simp [h2]
    · simp [h0, h1, h2]

/-- After an event the link is up when the event says so, or was up and the event does not say it
is gone. -/
theorem handleC2HEvent_connected (m : WiFiManager) (eventID : UInt8) (payload : Bytes) :
    (m.handleC2HEvent eventID payload).fState = .kWiFiStateConnected ↔
      reportsLinkUp eventID payload ∨
        m.fState = .kWiFiStateConnected ∧ ¬ reportsLinkDown eventID payload := by
  unfold handleC2HEvent
  by_cases hstatus : eventID = kC2H_ConnectionStatus
  · subst hstatus
    rw [if_neg (by decide), if_pos rfl]
    exact handleConnectionStatus_connected m payload
  have hother : (reportsLinkUp eventID payload ∨
      m.fState = .kWiFiStateConnected ∧ ¬ reportsLinkDown eventID payload) ↔
      m.fState = .kWiFiStateConnected := by
    unfold reportsLinkUp reportsLinkDown
    rw [linkReport_other hstatus]
    simp
  rw [hother]
  by_cases hscan : eventID = kC2H_ScanComplete
  · rw [if_pos hscan]
    exact handleScanComplete_connected m
  rw [if_neg hscan, if_neg hstatus]
  split
  · unfold handleRateAdaptive
    split
    · exact Iff.rfl
    · exact Iff.rfl
  · exact Iff.rfl

/-- No event starts a scan. -/
theorem handleC2HEvent_scanning {m : WiFiManager} {eventID : UInt8} {payload : Bytes}
    (h : (m.handleC2HEvent eventID payload).fState = .kWiFiStateScanning) :
    m.fState = .kWiFiStateScanning := by
  unfold handleC2HEvent at h
  split at h
  · unfold handleScanComplete at h
    split at h
    · cases h
    · exact h
  split at h
  · unfold handleConnectionStatus at h
    split at h
    · exact h
    split at h
    · cases h
    split at h
    · cases h
    split at h
    · cases h
    · exact h
  split at h
  · unfold handleRateAdaptive at h
    split at h
    · exact h
    · exact h
  · exact h

theorem finishScan_scanning (m : WiFiManager) :
    m.finishScan.fState ≠ .kWiFiStateScanning := by
  unfold finishScan
  split
  · rename_i h
    exact h
  · exact nofun

end WiFiManager
end Rtl8814au
