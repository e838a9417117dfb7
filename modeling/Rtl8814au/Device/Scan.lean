import Rtl8814au.Device.LinkState

/-!
# Device.Scan

A scan request step by step: `_DoScanRequest`, `StartScan`, the notifier thread with its sweep and
`FinishScan`, interleaved with received frames and firmware events. The hardware is initialized, so
there is a PHY. The BSSID filter that a sweep clears and the notification at its end are left out.

* `advance`  — the next step of the request and then of the notifier.
* `Kept`     — the link is up, and no channel has been set.
* `Saves`    — what can save the link: the refusal of the request, and a frame that says the link is
  up between `StartScan` and the guard of the sweep.
* `scan_step` — one step, with the invariant that goes by whether something has saved the link.
-/

namespace Rtl8814au

def kChannelList2G : List UInt8 := [1, 2, 3, 4, 5, 6, 7, 8, 9, 10, 11, 12, 13, 14]

def kChannelList5G : List UInt8 :=
  [36, 40, 44, 48, 52, 56, 60, 64, 100, 104, 108, 112, 116, 120, 124, 128, 132, 136, 140, 144, 149,
    153, 157, 161, 165, 169, 173, 177]

namespace Scan

/-- Where the request, and later the notifier thread, stands. -/
inductive ScanPc where
  | requested -- In `_DoScanRequest`.
  | starting -- Ahead of the locked section of `StartScan`.
  | sending -- The state is `kWiFiStateScanning`, the scan command is still to be sent.
  | spawning
  | recording -- The thread exists; `fScanNotifierThread` is not set and it does not run yet.
  | guarding -- The notifier, ahead of the two checks of `_ScanSweep`.
  | sweeping (left : List UInt8) (returnChannel : UInt8)
  | returning (returnChannel : UInt8)
  | finishing -- Ahead of `FinishScan`.
  | clearing -- Ahead of the reset of `fScanNotifierThread`.
  | done
deriving DecidableEq

structure ScanState where
  station : Station
  fScanNotifierThread : Bool -- Not negative.
  currentChannel : UInt8
  tuned : List UInt8 -- The channels `SetChannel` was called with, the last one first.
  pc : ScanPc

inductive ScanEvent where
  -- The scan takes its next step. `now` is the system time, `ok` the outcome of the command, of the
  -- thread creation or of `SetChannel`.
  | advance (now : Int) (ok : Bool)
  | rxFrame (frame : Bytes) (isC2H : Bool) (env : Env)
  | interrupt (eventID : UInt8) (payload : Bytes)

namespace ScanState

def setPc (s : ScanState) (pc : ScanPc) : ScanState := { s with pc := pc }

def setManager (s : ScanState) (m : WiFiManager) : ScanState :=
  { s with station := { s.station with manager := m } }

def setChannel (s : ScanState) (channel : UInt8) (ok : Bool) : ScanState :=
  { s with
    tuned := channel :: s.tuned
    currentChannel := if ok then channel else s.currentChannel }

/-- The request as it is made: `_Set80211` calls `_DoScanRequest`. -/
def request (station : Station) (fScanNotifierThread : Bool) (currentChannel : UInt8) :
    ScanState where
  station := station
  fScanNotifierThread := fScanNotifierThread
  currentChannel := currentChannel
  tuned := []
  pc := .requested

end ScanState

def advance (s : ScanState) (now : Int) (ok : Bool) : Option ScanState :=
  match s.pc with
  | .requested =>
    if s.station.device.fRemoved ∨ s.fScanNotifierThread then some (s.setPc .done)
    else some (s.setPc .starting)
  | .starting =>
    match s.station.manager.startScan now with
    | none => some (s.setPc .done)
    | some m => some ((s.setManager m).setPc .sending)
  | .sending => if ok then some (s.setPc .spawning) else some (s.setPc .done)
  | .spawning => if ok then some (s.setPc .recording) else some (s.setPc .done)
  | .recording => some ({ s with fScanNotifierThread := true }.setPc .guarding)
  | .guarding =>
    if s.station.device.fRemoved then some (s.setPc .finishing)
    -- The guard reads the state that `StartScan` has overwritten.
    else if s.station.manager.fState = .kWiFiStateConnected then some (s.setPc .finishing)
    else some (s.setPc (.sweeping (kChannelList2G ++ kChannelList5G) s.currentChannel))
  | .sweeping [] returnChannel => some (s.setPc (.returning returnChannel))
  | .sweeping (channel :: left) returnChannel =>
    if s.station.device.fRemoved then some (s.setPc .finishing)
    else some ((s.setChannel channel ok).setPc (.sweeping left returnChannel))
  | .returning returnChannel =>
    if returnChannel ≠ 0 ∧ ¬ s.station.device.fRemoved then
      some ((s.setChannel returnChannel ok).setPc .finishing)
    else some (s.setPc .finishing)
  | .finishing => some ((s.setManager s.station.manager.finishScan).setPc .clearing)
  | .clearing => some ({ s with fScanNotifierThread := false }.setPc .done)
  | .done => none

/-- The system of one scan: it ends when the scan has completed. -/
def next (s : ScanState) (e : ScanEvent) : Option ScanState :=
  if s.pc = .done then none
  else
    match e with
    | .advance now ok => advance s now ok
    | .rxFrame frame isC2H env =>
      (s.station.step (.rxFrame frame isC2H) env).map fun station => { s with station := station }
    | .interrupt eventID payload =>
      some (s.setManager (s.station.manager.handleC2HEvent eventID payload))

/-! ## The property -/

def ScanState.linkUp (s : ScanState) : Prop := s.station.manager.fState = .kWiFiStateConnected

/-- The link is up and the channel was left alone. -/
def Kept (s : ScanState) : Prop := s.linkUp ∧ s.tuned = []

/-- A firmware event that reports the loss of the link. -/
def EndsLink : ScanEvent → Prop
  | .advance _ _ => False
  | .rxFrame frame isC2H _ =>
    isC2H = true ∧ 2 ≤ frame.length ∧ WiFiManager.reportsLinkDown (frame.at 0) (frame.drop 2)
  | .interrupt eventID payload => WiFiManager.reportsLinkDown eventID payload

/-- A frame that leads to `MarkConnected`, or a firmware event that reports the link up. -/
def MarksLink (station : Station) : ScanEvent → Prop
  | .advance _ _ => False
  | .rxFrame frame isC2H _ =>
    isC2H = true ∧ 2 ≤ frame.length ∧ WiFiManager.reportsLinkUp (frame.at 0) (frame.drop 2) ∨
      isC2H = false ∧ station.device.acceptsAssoc frame = true
  | .interrupt eventID payload => WiFiManager.reportsLinkUp eventID payload

/-- After `StartScan` has overwritten the state, and before anything is made of it. -/
def ScanPc.exposed : ScanPc → Bool
  | .sending => true
  | .spawning => true
  | .recording => true
  | .guarding => true
  | _ => false

/-- The request is refused, or the link is marked while its record is overwritten. -/
def Saves (s : ScanState) : ScanEvent → Prop
  | .advance _ _ =>
    s.pc = .requested ∧ (s.station.device.fRemoved = true ∨ s.fScanNotifierThread = true)
  | .rxFrame frame isC2H env =>
    s.pc.exposed = true ∧ MarksLink s.station (.rxFrame frame isC2H env)
  | .interrupt eventID payload =>
    s.pc.exposed = true ∧ MarksLink s.station (.interrupt eventID payload)

instance : ∀ e, Decidable (EndsLink e)
  | .advance _ _ => isFalse id
  | .rxFrame _ _ _ => inferInstanceAs (Decidable (_ ∧ _))
  | .interrupt _ _ => inferInstanceAs (Decidable (WiFiManager.reportsLinkDown _ _))

/-! ## Frames -/

/-- What a frame or an event does to the scan: nothing but to the link. -/
structure Received (s s' : ScanState) (e : ScanEvent) : Prop where
  pc : s'.pc = s.pc
  tuned : s'.tuned = s.tuned
  removed : s'.station.device.fRemoved = s.station.device.fRemoved
  link : ¬ EndsLink e → (s'.linkUp ↔ MarksLink s.station e ∨ s.linkUp)

theorem received_interrupt {s s' : ScanState} {eventID : UInt8} {payload : Bytes}
    (hn : next s (.interrupt eventID payload) = some s') :
    Received s s' (.interrupt eventID payload) := by
  unfold next at hn
  split at hn
  · cases hn
  · cases hn
    refine ⟨rfl, rfl, rfl, ?_⟩
    intro hends
    have hconn := s.station.manager.handleC2HEvent_connected eventID payload
    unfold EndsLink at hends
    unfold MarksLink ScanState.linkUp
    simpa [ScanState.setManager, hends] using hconn

theorem received_rxFrame {s s' : ScanState} {frame : Bytes} {isC2H : Bool} {env : Env}
    (hn : next s (.rxFrame frame isC2H env) = some s') :
    Received s s' (.rxFrame frame isC2H env) := by
  unfold next at hn
  split at hn
  · cases hn
  obtain ⟨station, hstep, rfl⟩ := Option.map_eq_some_iff.mp hn
  obtain ⟨out, hout, rfl⟩ := Option.map_eq_some_iff.mp hstep
  refine ⟨rfl, rfl, (Device.rxFrameReceived_step hout).keepsKeys.removed, ?_⟩
  intro hends
  unfold EndsLink at hends
  unfold MarksLink ScanState.linkUp
  dsimp only
  rw [Station.managerStep_rxFrame, and_iff_left hends]

/-! ## One step of the scan -/

/-- The scan with what has happened to it so far: `saved` says whether something has saved the
link. -/
def Tracks (s : ScanState) (saved : Prop) : Prop :=
  match s.pc with
  | .requested => s.linkUp ∧ s.tuned = [] ∧ ¬ saved
  | .starting => s.linkUp ∧ s.tuned = [] ∧ ¬ saved ∧ s.station.device.fRemoved = false
  | .sending | .spawning | .recording | .guarding =>
    s.tuned = [] ∧ (s.linkUp ↔ saved) ∧ s.station.device.fRemoved = false
  | .sweeping left _ =>
    (s.tuned ≠ [] ∨ left ≠ []) ∧ ¬ saved ∧ s.station.device.fRemoved = false
  | .returning _ => s.tuned ≠ [] ∧ ¬ saved ∧ s.station.device.fRemoved = false
  | .finishing | .clearing => (saved → Kept s) ∧ (¬ saved → s.tuned ≠ [])
  | .done => Kept s ↔ saved

theorem tracks_requested {s s' : ScanState} {now : Int} {ok : Bool} {saved : Prop}
    (h : Tracks s saved) (hpc : s.pc = .requested) (hn : advance s now ok = some s') :
    Tracks s' (saved ∨ Saves s (.advance now ok)) := by
  unfold Tracks at h
  simp only [hpc] at h
  obtain ⟨hup, htuned, hno⟩ := h
  simp only [advance, hpc] at hn
  split at hn
  · rename_i hrefused
    cases hn
    have hsaves : Saves s (.advance now ok) := ⟨hpc, by simpa using hrefused⟩
    simp only [Tracks, ScanState.setPc]
    exact ⟨fun _ => .inr hsaves, fun _ => ⟨hup, htuned⟩⟩
  · rename_i hgo
    cases hn
    have hsaves : ¬ Saves s (.advance now ok) := fun hs => hgo (by simpa using hs.2)
    simp only [not_or, Bool.not_eq_true] at hgo
    simp only [Tracks, ScanState.setPc]
    exact ⟨hup, htuned, not_or.mpr ⟨hno, hsaves⟩, hgo.1⟩

/-- Once the request is accepted no step of the scan itself saves the link. -/
theorem tracks_accepted {s s' : ScanState} {now : Int} {ok : Bool} {saved : Prop}
    (h : Tracks s saved) (hpc : s.pc ≠ .requested) (hn : advance s now ok = some s') :
    Tracks s' saved := by
  unfold Tracks at h
  cases hat : s.pc with
  | requested => exact absurd hat hpc
  | starting =>
    simp only [hat] at h
    obtain ⟨hup, htuned, hno, hr⟩ := h
    simp only [advance, hat, WiFiManager.startScan_connected hup] at hn
    cases hn
    refine ⟨htuned, ?_, hr⟩
    simp [ScanState.linkUp, ScanState.setManager, ScanState.setPc, hno]
  | sending | spawning =>
    simp only [hat] at h
    obtain ⟨htuned, hup, hr⟩ := h
    simp only [advance, hat] at hn
    split at hn
    · cases hn
      exact ⟨htuned, hup, hr⟩
    · cases hn
      exact ⟨fun hk => hup.mp hk.1, fun hs => ⟨hup.mpr hs, htuned⟩⟩
  | recording =>
    simp only [hat] at h
    simp only [advance, hat] at hn
    cases hn
    exact h
  | guarding =>
    simp only [hat] at h
    obtain ⟨htuned, hup, hr⟩ := h
    simp only [advance, hat, hr] at hn
    rw [if_neg (by decide)] at hn
    split at hn
    · rename_i hconn
      cases hn
      exact ⟨fun _ => ⟨hconn, htuned⟩, fun hno => absurd (hup.mp hconn) hno⟩
    · rename_i hconn
      cases hn
      exact ⟨.inr (by decide), fun hs => hconn (hup.mpr hs), hr⟩
  | sweeping left returnChannel =>
    simp only [hat] at h
    obtain ⟨hsome, hno, hr⟩ := h
    cases left with
    | nil =>
      simp only [advance, hat] at hn
      cases hn
      exact ⟨hsome.resolve_right (by simp), hno, hr⟩
    | cons channel left =>
      simp only [advance, hat, hr] at hn
      rw [if_neg (by decide)] at hn
      cases hn
      exact ⟨.inl (List.cons_ne_nil _ _), hno, hr⟩
  | returning returnChannel =>
    simp only [hat] at h
    obtain ⟨htuned, hno, hr⟩ := h
    simp only [advance, hat] at hn
    split at hn
    · cases hn
      exact ⟨fun hs => absurd hs hno, fun _ => List.cons_ne_nil _ _⟩
    · cases hn
      exact ⟨fun hs => absurd hs hno, fun _ => htuned⟩
  | finishing =>
    simp only [hat] at h
    simp only [advance, hat] at hn
    cases hn
    refine ⟨?_, h.2⟩
    intro hs
    obtain ⟨hup, htuned⟩ := h.1 hs
    exact ⟨(WiFiManager.finishScan_connected _).mpr hup, htuned⟩
  | clearing =>
    simp only [hat] at h
    simp only [advance, hat] at hn
    cases hn
    refine ⟨?_, h.1⟩
    intro hk
    by_contra hno
    exact h.2 hno hk.2
  | done =>
    simp only [advance, hat] at hn
    cases hn

theorem tracks_advance {s s' : ScanState} {now : Int} {ok : Bool} {saved : Prop}
    (h : Tracks s saved) (hn : advance s now ok = some s') :
    Tracks s' (saved ∨ Saves s (.advance now ok)) := by
  by_cases hpc : s.pc = .requested
  · exact tracks_requested h hpc hn
  · have hsaves : (saved ∨ Saves s (.advance now ok)) = saved :=
      propext ⟨fun hs => hs.resolve_right fun hadvance => hpc hadvance.1, .inl⟩
    rw [hsaves]
    exact tracks_accepted h hpc hn

/-- A frame leaves the scan where it is; while the record is overwritten, one that marks the link
saves it. -/
theorem tracks_received {s s' : ScanState} {e : ScanEvent} {saved : Prop} (h : Tracks s saved)
    (hr : Received s s' e) (hends : ¬ EndsLink e) (hdone : s.pc ≠ .done)
    (hsaves : Saves s e ↔ s.pc.exposed = true ∧ MarksLink s.station e) :
    Tracks s' (saved ∨ Saves s e) := by
  have hlink := hr.link hends
  have hquiet : s.pc.exposed = false → (saved ∨ Saves s e) = saved := by
    intro hpc
    refine propext ⟨?_, .inl⟩
    rintro (hsaved | hs)
    · exact hsaved
    · have hexposed := (hsaves.mp hs).1
      rw [hpc] at hexposed
      cases hexposed
  have hexposed : s.pc.exposed = true → s.tuned = [] ∧ (s.linkUp ↔ saved) →
      s'.tuned = [] ∧ (s'.linkUp ↔ saved ∨ Saves s e) := by
    intro hpc ⟨htuned, hup⟩
    refine ⟨hr.tuned.trans htuned, ?_⟩
    rw [hlink, hsaves, hpc, hup]
    simp [or_comm]
  unfold Tracks at h ⊢
  rw [hr.pc]
  cases hpc : s.pc with
  | requested =>
    simp only [hpc] at h
    rw [hquiet (by rw [hpc]; rfl)]
    exact ⟨hlink.mpr (.inr h.1), hr.tuned.trans h.2.1, h.2.2⟩
  | starting =>
    simp only [hpc] at h
    rw [hquiet (by rw [hpc]; rfl)]
    exact ⟨hlink.mpr (.inr h.1), hr.tuned.trans h.2.1, h.2.2.1, hr.removed.trans h.2.2.2⟩
  | sweeping left returnChannel =>
    simp only [hpc] at h
    rw [hquiet (by rw [hpc]; rfl), hr.tuned, hr.removed]
    exact h
  | returning returnChannel =>
    simp only [hpc] at h
    rw [hquiet (by rw [hpc]; rfl), hr.tuned, hr.removed]
    exact h
  | finishing =>
    simp only [hpc] at h
    rw [hquiet (by rw [hpc]; rfl), hr.tuned]
    exact ⟨fun hs => ⟨hlink.mpr (.inr (h.1 hs).1), hr.tuned.trans (h.1 hs).2⟩, h.2⟩
  | clearing =>
    simp only [hpc] at h
    rw [hquiet (by rw [hpc]; rfl), hr.tuned]
    exact ⟨fun hs => ⟨hlink.mpr (.inr (h.1 hs).1), hr.tuned.trans (h.1 hs).2⟩, h.2⟩
  | done => exact absurd hpc hdone
  | _ =>
    simp only [hpc] at h
    obtain ⟨htuned, hup⟩ := hexposed (by rw [hpc]; rfl) ⟨h.1, h.2.1⟩
    exact ⟨htuned, hup, hr.removed.trans h.2.2⟩

theorem scan_step {s s' : ScanState} {e : ScanEvent} {saved : Prop} (h : Tracks s saved)
    (hends : ¬ EndsLink e) (hn : next s e = some s') : Tracks s' (saved ∨ Saves s e) := by
  have hdone : s.pc ≠ .done := by
    intro hpc
    unfold next at hn
    rw [if_pos hpc] at hn
    cases hn
  cases e with
  | advance now ok =>
    unfold next at hn
    rw [if_neg hdone] at hn
    exact tracks_advance h hn
  | rxFrame frame isC2H env =>
    exact tracks_received h (received_rxFrame hn) hends hdone Iff.rfl
  | interrupt eventID payload =>
    exact tracks_received h (received_interrupt hn) hends hdone Iff.rfl

/-- A scan requested on a live link, run to its end among frames that do not end the link, leaves
link and channel alone exactly if something saves the link on the way. -/
theorem scan_keeps_link {station : Station} {fScanNotifierThread : Bool} {currentChannel : UInt8}
    {es : List ScanEvent} {s : ScanState} (hup : station.manager.fState = .kWiFiStateConnected)
    (hm : Lts.Meets next (fun _ e => ¬ EndsLink e)
      (.request station fScanNotifierThread currentChannel) es)
    (hr : Lts.run next (.request station fScanNotifierThread currentChannel) es = some s)
    (hdone : s.pc = .done) :
    Kept s ↔ Lts.Sometime next Saves (.request station fScanNotifierThread currentChannel) es := by
  have hinit : Tracks (.request station fScanNotifierThread currentChannel) False :=
    ⟨hup, rfl, id⟩
  have htracks := Lts.run_sometime (C := Saves) scan_step hinit hm hr
  unfold Tracks at htracks
  simp only [hdone, false_or] at htracks
  exact htracks

/-- The firmware reports the link up while the scan command is on its way. -/
def savedScan : List ScanEvent :=
  List.replicate 2 (.advance 0 true) ++ [.interrupt kC2H_ConnectionStatus [0]] ++
    List.replicate 6 (.advance 0 true)

/-- Nothing is received before the sweep is over: 42 channels, and back to the first. -/
def sweptScan : List ScanEvent := List.replicate 52 (.advance 0 true)

theorem scan_keeps_link_savedScan : ∃ station s,
    Lts.run Station.next (Station.init System.sampleMac) Station.sampleAssociation = some station ∧
      Lts.run next (.request station false 6) savedScan = some s ∧ Kept s ∧
      Lts.Sometime next Saves (.request station false 6) savedScan := by
  have hrun : ((Lts.run Station.next (Station.init System.sampleMac)
      Station.sampleAssociation).map fun station => (station.manager.fState,
        (Lts.run next (.request station false 6) savedScan).map fun s =>
          (s.pc, s.station.manager.fState, s.tuned))) =
      some (.kWiFiStateConnected, some (.done, .kWiFiStateConnected, [])) := by decide +kernel
  obtain ⟨station, hstation, hfields⟩ := Option.map_eq_some_iff.mp hrun
  obtain ⟨hup, hscan⟩ := Prod.mk.inj hfields
  obtain ⟨s, hr, hend⟩ := Option.map_eq_some_iff.mp hscan
  obtain ⟨hdone, hkept⟩ := Prod.mk.inj hend
  have hends : ∀ e ∈ savedScan, ¬ EndsLink e := by decide
  have hm : Lts.Meets next (fun _ e => ¬ EndsLink e) (.request station false 6) savedScan :=
    Lts.meets_of_forall fun _ => hends
  have hkept : Kept s := Prod.mk.inj hkept
  exact ⟨station, s, hstation, hr, hkept, (scan_keeps_link hup hm hr hdone).mp hkept⟩

/-- A scan on a live link: the guard finds the state overwritten, every channel is set, and the
manager ends up disconnected. -/
theorem scan_keeps_link_sweptScan : ∃ station s,
    Lts.run Station.next (Station.init System.sampleMac) Station.sampleAssociation = some station ∧
      station.manager.fState = .kWiFiStateConnected ∧
      Lts.run next (.request station false 6) sweptScan = some s ∧ s.pc = .done ∧
      s.station.manager.fState = .kWiFiStateDisconnected ∧ s.tuned.length = 43 := by
  have hrun : ((Lts.run Station.next (Station.init System.sampleMac)
      Station.sampleAssociation).map fun station => (station.manager.fState,
        (Lts.run next (.request station false 6) sweptScan).map fun s =>
          (s.pc, s.station.manager.fState, s.tuned.length))) =
      some (.kWiFiStateConnected, some (.done, .kWiFiStateDisconnected, 43)) := by decide +kernel
  obtain ⟨station, hstation, hfields⟩ := Option.map_eq_some_iff.mp hrun
  obtain ⟨hup, hscan⟩ := Prod.mk.inj hfields
  obtain ⟨s, hr, hend⟩ := Option.map_eq_some_iff.mp hscan
  obtain ⟨hdone, hend⟩ := Prod.mk.inj hend
  obtain ⟨hdown, htuned⟩ := Prod.mk.inj hend
  exact ⟨station, s, hstation, hup, hr, hdone, hdown, htuned⟩

end Scan
end Rtl8814au
