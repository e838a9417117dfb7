import Rtl8814au.Device.Scan

/-!
# Device.ScanRequest

A scan request as one call: `_DoScanRequest` over `StartScan` and `_SendH2CCommand`, with the outcome
of every part that can fail.

* `scanRequest`   — what the request returns and leaves behind.
* `AllOrNothing`  — an error leaves the manager alone, and nothing stays scanning without a sweep.
* `request_runs`  — the call is the part of `Scan.next` that precedes the notifier.
* `notifier_finishes`, `pending_run` — what a set `fScanNotifierThread` stands for.
-/

namespace Rtl8814au

/-- What `StartScan` and `_DoScanRequest` return; `Status` has the codes of the transfers. -/
inductive ScanStatus where
  | ok
  | busy -- `B_BUSY`
  | inProgress -- `EINPROGRESS`
  | failed (status : Status)
deriving DecidableEq

/-- What a scan request meets: the system time, what the bounded writes of the extended payload and
of the command return, and whether the notifier thread can be created. -/
structure ScanOutcome where
  now : Int
  ext : Status
  command : Status
  spawned : Bool

structure ScanHost where
  station : Station
  fH2CMailboxIndex : Fin 4 -- Of `kH2CMailboxCount`.
  fScanNotifierThread : Bool -- Not negative.

namespace ScanHost

/-- The two writes of `_SendH2CCommand`, and the mailbox the next command goes to. -/
def sendH2CCommand (h : ScanHost) (ext command : Status) : ScanHost × Status :=
  if ext ≠ .ok then (h, ext)
  else if command ≠ .ok then (h, command)
  else ({ h with fH2CMailboxIndex := h.fH2CMailboxIndex + 1 }, .ok)

def startScan (h : ScanHost) (o : ScanOutcome) : ScanHost × ScanStatus :=
  match h.station.manager.startScan o.now with
  | none => (h, .busy)
  | some m =>
    -- The lock is released here; nothing below takes the new state back.
    let r := { h with station := { h.station with manager := m } }.sendH2CCommand o.ext o.command
    (r.1, if r.2 = .ok then .ok else .failed r.2)

def doScanRequest (h : ScanHost) (o : ScanOutcome) : ScanHost × ScanStatus :=
  if h.fScanNotifierThread then (h, .inProgress)
  else
    let r := h.startScan o
    if r.2 = .busy then (r.1, .inProgress)
    else if r.2 ≠ .ok then (r.1, r.2)
    else if o.spawned then ({ r.1 with fScanNotifierThread := true }, .ok)
    else (r.1, .ok)

/-- `IOC_SCAN_REQ`, from `Control` on. -/
def scanRequest (h : ScanHost) (o : ScanOutcome) : ScanHost × ScanStatus :=
  if h.station.device.fRemoved then (h, .failed .devNotReady) else h.doScanRequest o

/-! ## What a request comes to -/

/-- The request gets to `StartScan`, which takes it. -/
def takes (h : ScanHost) (now : Int) : Option WiFiManager :=
  if h.station.device.fRemoved ∨ h.fScanNotifierThread then none
  else h.station.manager.startScan now

inductive Requested (h : ScanHost) (o : ScanOutcome) : ScanHost × ScanStatus → Prop where
  | refused (status : ScanStatus) (ht : h.takes o.now = none) (hs : status ≠ .ok) :
      Requested h o (h, status)
  | unsent (m : WiFiManager) (status : Status) (ht : h.takes o.now = some m)
      (hs : ¬ (o.ext = .ok ∧ o.command = .ok)) :
      Requested h o ({ h with station := { h.station with manager := m } }, .failed status)
  | sent (m : WiFiManager) (ht : h.takes o.now = some m) (he : o.ext = .ok)
      (hc : o.command = .ok) :
      Requested h o
        ({ station := { h.station with manager := m }
           fH2CMailboxIndex := h.fH2CMailboxIndex + 1
           fScanNotifierThread := o.spawned }, .ok)

theorem startScan_failed {h : ScanHost} {o : ScanOutcome} {m : WiFiManager}
    (hm : h.station.manager.startScan o.now = some m) (hs : ¬ (o.ext = .ok ∧ o.command = .ok)) :
    ∃ status, h.startScan o =
      ({ h with station := { h.station with manager := m } }, .failed status) := by
  unfold startScan sendH2CCommand
  rw [hm]
  by_cases he : o.ext = .ok
  · have hc : o.command ≠ .ok := fun hc => hs ⟨he, hc⟩
    exact ⟨o.command, by simp [he, hc]⟩
  · exact ⟨o.ext, by simp [he]⟩

theorem startScan_sent {h : ScanHost} {o : ScanOutcome} {m : WiFiManager}
    (hm : h.station.manager.startScan o.now = some m) (he : o.ext = .ok) (hc : o.command = .ok) :
    h.startScan o =
      ({ h with
          station := { h.station with manager := m }
          fH2CMailboxIndex := h.fH2CMailboxIndex + 1 }, .ok) := by
  unfold startScan sendH2CCommand
  rw [hm]
  simp [he, hc]

theorem scanRequest_cases (h : ScanHost) (o : ScanOutcome) : Requested h o (h.scanRequest o) := by
  unfold scanRequest
  split
  · rename_i hr
    exact .refused _ (if_pos (.inl hr)) (by decide)
  rename_i hr
  unfold doScanRequest
  split
  · rename_i hthread
    exact .refused _ (if_pos (.inr hthread)) (by decide)
  rename_i hthread
  have htakes : h.takes o.now = h.station.manager.startScan o.now :=
    if_neg (not_or.mpr ⟨hr, hthread⟩)
  rw [Bool.not_eq_true] at hthread
  cases hm : h.station.manager.startScan o.now with
  | none =>
    have hbusy : h.startScan o = (h, .busy) := by
      unfold startScan
      rw [hm]
    rw [hbusy]
    exact .refused _ (htakes.trans hm) (by decide)
  | some m =>
    by_cases hs : o.ext = .ok ∧ o.command = .ok
    · rw [startScan_sent hm hs.1 hs.2]
      have hsent := Requested.sent (h := h) m (htakes.trans hm) hs.1 hs.2
      cases hspawned : o.spawned with
      | true =>
        rw [hspawned] at hsent
        exact hsent
      | false =>
        rw [hspawned, ← hthread] at hsent
        exact hsent
    · obtain ⟨status, hfailed⟩ := startScan_failed hm hs
      rw [hfailed]
      exact .unsent m status (htakes.trans hm) hs

/-! ## All or nothing -/

structure AllOrNothing (h : ScanHost) (r : ScanHost × ScanStatus) : Prop where
  kept : r.2 ≠ .ok → r.1.station.manager = h.station.manager
  swept : r.1.station.manager.fState = .kWiFiStateScanning → r.1.fScanNotifierThread = true

/-- Taken, and everything after `StartScan` succeeds. -/
def GoesThrough (h : ScanHost) (o : ScanOutcome) : Prop :=
  (h.takes o.now).isSome ∧ o.ext = .ok ∧ o.command = .ok ∧ o.spawned = true

/-- Refused where nothing waits for a sweep that does not come. -/
def RefusedInOrder (h : ScanHost) (o : ScanOutcome) : Prop :=
  h.takes o.now = none ∧
    (h.station.manager.fState = .kWiFiStateScanning → h.fScanNotifierThread = true)

instance (h : ScanHost) (o : ScanOutcome) : Decidable (GoesThrough h o) :=
  inferInstanceAs (Decidable (_ ∧ _))

instance (h : ScanHost) (o : ScanOutcome) : Decidable (RefusedInOrder h o) :=
  inferInstanceAs (Decidable (_ ∧ (_ → _)))

theorem takes_some {h : ScanHost} {now : Int} {m : WiFiManager} (ht : h.takes now = some m) :
    h.fScanNotifierThread = false ∧ m.fState = .kWiFiStateScanning := by
  unfold takes at ht
  split at ht
  · cases ht
  · rename_i hgo
    rw [not_or, Bool.not_eq_true, Bool.not_eq_true] at hgo
    exact ⟨hgo.2, WiFiManager.startScan_state ht⟩

/-- A scan request is all or nothing exactly if it goes through to the created thread, or is refused
where no scan is recorded or a thread is there for it. -/
theorem scan_request_allOrNothing (h : ScanHost) (o : ScanOutcome) :
    AllOrNothing h (h.scanRequest o) ↔ GoesThrough h o ∨ RefusedInOrder h o := by
  have hcases := h.scanRequest_cases o
  generalize h.scanRequest o = r at hcases
  unfold GoesThrough RefusedInOrder
  cases hcases with
  | refused status ht hs =>
    rw [ht]
    constructor
    · intro hall
      exact .inr ⟨rfl, hall.swept⟩
    · rintro (⟨hsome, -⟩ | ⟨-, hswept⟩)
      · cases hsome
      · exact ⟨fun _ => rfl, hswept⟩
  | unsent m status ht hs =>
    obtain ⟨hthread, hscanning⟩ := takes_some ht
    rw [ht]
    constructor
    · intro hall
      have hset := hall.swept hscanning
      rw [hthread] at hset
      cases hset
    · rintro (⟨-, he, hc, -⟩ | ⟨hnone, -⟩)
      · exact absurd ⟨he, hc⟩ hs
      · cases hnone
  | sent m ht he hc =>
    obtain ⟨-, hscanning⟩ := takes_some ht
    rw [ht]
    constructor
    · intro hall
      exact .inl ⟨rfl, he, hc, hall.swept hscanning⟩
    · rintro (⟨-, -, -, hspawned⟩ | ⟨hnone, -⟩)
      · exact ⟨fun hne => absurd rfl hne, fun _ => hspawned⟩
      · cases hnone

def connectedHost : ScanHost where
  station :=
    { device := .init System.sampleMac
      manager := WiFiManager.init.markConnected System.sampleBssid (Buf.zero 33) }
  fH2CMailboxIndex := 0
  fScanNotifierThread := false

/-- The first mailbox write of a scan times out: the link is forgotten, and nobody sweeps. -/
theorem scan_request_allOrNothing_unsent :
    ¬ ∀ h o, AllOrNothing h (h.scanRequest o) := by
  intro hclaim
  have hall := hclaim connectedHost ⟨0, .timedOut, .ok, true⟩
  exact absurd (hall.swept (by decide)) (by decide)

end ScanHost

/-! ## The steps of the call -/

namespace Scan

open Lts ScanHost

theorem takes_start {h : ScanHost} {now : Int} {m : WiFiManager} (ht : h.takes now = some m) :
    ¬ (h.station.device.fRemoved ∨ h.fScanNotifierThread) ∧
      h.station.manager.startScan now = some m := by
  unfold takes at ht
  split at ht
  · cases ht
  · rename_i hgo
    exact ⟨hgo, ht⟩

theorem managerStep_scanning {s : Station} (frame : Bytes) (isC2H : Bool)
    (h : (s.managerStep (.rxFrame frame isC2H)).fState = .kWiFiStateScanning) :
    s.manager.fState = .kWiFiStateScanning := by
  unfold Station.managerStep at h
  dsimp only at h
  split at h
  · unfold Station.c2hFrame at h
    split at h
    · exact h
    · exact WiFiManager.handleC2HEvent_scanning h
  split at h
  · cases h
  · exact h

/-- The notifier has `FinishScan` still ahead of it. -/
def ScanPc.awaits : ScanPc → Bool
  | .guarding => true
  | .sweeping _ _ => true
  | .returning _ => true
  | .finishing => true
  | _ => false

/-- The steps of the notifier up to `FinishScan`, at most. -/
def ScanPc.stepsLeft : ScanPc → Nat
  | .guarding => (kChannelList2G ++ kChannelList5G).length + 3
  | .sweeping left _ => left.length + 2
  | .returning _ => 1
  | _ => 0

theorem advance_stepsLeft {s : ScanState} (ha : s.pc.awaits = true) (hf : s.pc ≠ .finishing)
    (now : Int) (ok : Bool) :
    ∃ s', advance s now ok = some s' ∧ s'.pc.awaits = true ∧ s'.pc.stepsLeft < s.pc.stepsLeft := by
  cases hpc : s.pc with
  | guarding =>
    have hend : ScanPc.finishing.stepsLeft < ScanPc.guarding.stepsLeft := by decide
    simp only [advance, hpc]
    split
    · exact ⟨_, rfl, rfl, hend⟩
    split
    · exact ⟨_, rfl, rfl, hend⟩
    · exact ⟨_, rfl, rfl, Nat.lt_succ_self _⟩
  | sweeping left returnChannel =>
    cases left with
    | nil =>
      simp only [advance, hpc]
      exact ⟨_, rfl, rfl, Nat.lt_succ_self _⟩
    | cons channel left =>
      simp only [advance, hpc]
      split
      · exact ⟨_, rfl, rfl, Nat.succ_pos _⟩
      · exact ⟨_, rfl, rfl, Nat.lt_succ_self _⟩
  | returning returnChannel =>
    simp only [advance, hpc]
    split
    · exact ⟨_, rfl, rfl, Nat.one_pos⟩
    · exact ⟨_, rfl, rfl, Nat.one_pos⟩
  | finishing => exact absurd hpc hf
  | _ =>
    rw [hpc] at ha
    cases ha

/-- Whatever its channel changes come to, the notifier gets to `FinishScan`. -/
theorem notifier_finishes {s : ScanState} (ha : s.pc.awaits = true)
    (outcomes : Nat → Int × Bool) :
    ∃ n s', run next s ((List.range n).map fun i => .advance (outcomes i).1 (outcomes i).2) = some s' ∧
      s'.pc = .finishing := by
  generalize hn : s.pc.stepsLeft = n
  induction n using Nat.strongRecOn generalizing s outcomes with
  | ind n ih =>
    by_cases hf : s.pc = .finishing
    · exact ⟨0, s, rfl, hf⟩
    obtain ⟨t, ht, hta, hlt⟩ := advance_stepsLeft ha hf (outcomes 0).1 (outcomes 0).2
    obtain ⟨k, s', hrun, hend⟩ := ih _ (hn ▸ hlt) hta (fun i => outcomes (i + 1)) rfl
    refine ⟨k + 1, s', ?_, hend⟩
    have hnext : next s (.advance (outcomes 0).1 (outcomes 0).2) = some t := by
      unfold next
      rw [if_neg (by rintro hdone; rw [hdone] at ha; cases ha)]
      exact ht
    rw [List.range_succ_eq_map, List.map_cons, List.map_map, run, hnext]
    exact hrun

/-- The request takes its steps up to the notifier, and comes to what `scanRequest` says. -/
theorem request_runs (h : ScanHost) (o : ScanOutcome) (currentChannel : UInt8) :
    ∃ oks s, run next (.request h.station h.fScanNotifierThread currentChannel)
        (List.map (.advance o.now) oks) = some s ∧
      s.station = (h.scanRequest o).1.station ∧
      s.fScanNotifierThread = (h.scanRequest o).1.fScanNotifierThread ∧
      s.pc = if GoesThrough h o then .guarding else .done := by
  let start : ScanState := .request h.station h.fScanNotifierThread currentChannel
  have hcases := h.scanRequest_cases o
  generalize h.scanRequest o = r at hcases
  cases hcases with
  | refused status ht hs =>
    have hno : ¬ GoesThrough h o := by
      rintro ⟨hsome, -⟩
      rw [ht] at hsome
      cases hsome
    rw [if_neg hno]
    by_cases hearly : h.station.device.fRemoved ∨ h.fScanNotifierThread
    · refine ⟨[true], start.setPc .done, ?_, rfl, rfl, rfl⟩
      simp [start, run, next, advance, ScanState.request, ScanState.setPc, hearly]
    · have hbusy : h.station.manager.startScan o.now = none := (if_neg hearly).symm.trans ht
      refine ⟨[true, true], start.setPc .done, ?_, rfl, rfl, rfl⟩
      simp [start, run, next, advance, ScanState.request, ScanState.setPc, hearly, hbusy]
  | unsent m status ht hs =>
    have hno : ¬ GoesThrough h o := fun hgoes => hs ⟨hgoes.2.1, hgoes.2.2.1⟩
    obtain ⟨hgo, hstart⟩ := takes_start ht
    rw [if_neg hno]
    refine ⟨[true, true, false], (start.setManager m).setPc .done, ?_, rfl, rfl, rfl⟩
    simp [start, run, next, advance, ScanState.request, ScanState.setPc, ScanState.setManager, hgo,
      hstart]
  | sent m ht he hc =>
    obtain ⟨hgo, hstart⟩ := takes_start ht
    have hthread := (takes_some ht).1
    cases hspawned : o.spawned with
    | true =>
      have hgoes : GoesThrough h o := ⟨by rw [ht]; rfl, he, hc, hspawned⟩
      rw [if_pos hgoes]
      refine ⟨List.replicate 5 true,
        { start.setManager m with fScanNotifierThread := true }.setPc .guarding, ?_, rfl, rfl, rfl⟩
      simp [start, List.replicate, run, next, advance, ScanState.request, ScanState.setPc,
        ScanState.setManager, hgo, hstart]
    | false =>
      have hno : ¬ GoesThrough h o := by
        rintro ⟨-, -, -, hyes⟩
        rw [hspawned] at hyes
        cases hyes
      rw [if_neg hno]
      refine ⟨[true, true, true, false], (start.setManager m).setPc .done, ?_, rfl, hthread, rfl⟩
      simp [start, run, next, advance, ScanState.request, ScanState.setPc, ScanState.setManager,
        hgo, hstart]

/-! ## What a recorded thread stands for -/

def Pending (s : ScanState) : Prop :=
  s.fScanNotifierThread = true →
    s.pc.awaits = true ∨
      s.pc = .clearing ∧ s.station.manager.fState ≠ .kWiFiStateScanning

theorem pending_advance {s s' : ScanState} {now : Int} {ok : Bool} (h : Pending s)
    (hn : advance s now ok = some s') : Pending s' := by
  have hidle : s.pc.awaits = false → s.pc ≠ .clearing → s.fScanNotifierThread = false := by
    intro ha hc
    by_contra hset
    rw [Bool.not_eq_false] at hset
    rcases h hset with hyes | ⟨hyes, -⟩
    · rw [ha] at hyes
      cases hyes
    · exact hc hyes
  cases hpc : s.pc with
  | requested | sending | spawning =>
    have hoff := hidle (by rw [hpc]; rfl) (by rw [hpc]; simp)
    simp only [advance, hpc] at hn
    split at hn
    · cases hn
      exact fun hset => Bool.noConfusion (hset.symm.trans hoff)
    · cases hn
      exact fun hset => Bool.noConfusion (hset.symm.trans hoff)
  | starting =>
    have hoff := hidle (by rw [hpc]; rfl) (by rw [hpc]; simp)
    simp only [advance, hpc] at hn
    split at hn
    · cases hn
      exact fun hset => Bool.noConfusion (hset.symm.trans hoff)
    · cases hn
      exact fun hset => Bool.noConfusion (hset.symm.trans hoff)
  | recording =>
    simp only [advance, hpc] at hn
    cases hn
    exact fun _ => .inl rfl
  | finishing =>
    simp only [advance, hpc] at hn
    cases hn
    exact fun _ => .inr ⟨rfl, WiFiManager.finishScan_scanning _⟩
  | clearing =>
    simp only [advance, hpc] at hn
    cases hn
    exact fun hset => Bool.noConfusion hset
  | done =>
    simp only [advance, hpc] at hn
    cases hn
  | _ =>
    obtain ⟨t, ht, hawaits, -⟩ :=
      advance_stepsLeft (s := s) (by rw [hpc]; rfl) (by rw [hpc]; simp) now ok
    obtain rfl := Option.some.inj (ht.symm.trans hn)
    exact fun _ => .inl hawaits

/-- A recorded thread has `FinishScan` ahead of it for as long as the manager is scanning. -/
theorem pending_next {s s' : ScanState} {e : ScanEvent} (h : Pending s) (hn : next s e = some s') :
    Pending s' := by
  have hframe : s'.pc = s.pc → s'.fScanNotifierThread = s.fScanNotifierThread →
      (s'.station.manager.fState = .kWiFiStateScanning →
        s.station.manager.fState = .kWiFiStateScanning) → Pending s' := by
    intro hpc hthread hscanning hset
    rw [hthread] at hset
    rw [hpc]
    exact (h hset).imp id fun ⟨hc, hno⟩ => ⟨hc, fun hyes => hno (hscanning hyes)⟩
  unfold next at hn
  split at hn
  · cases hn
  cases e with
  | advance now ok => exact pending_advance h hn
  | rxFrame frame isC2H env =>
    obtain ⟨station, hstep, rfl⟩ := Option.map_eq_some_iff.mp hn
    obtain ⟨out, hout, rfl⟩ := Option.map_eq_some_iff.mp hstep
    exact hframe rfl rfl (managerStep_scanning frame isC2H)
  | interrupt eventID payload =>
    cases hn
    exact hframe rfl rfl WiFiManager.handleC2HEvent_scanning

/-- In every run of a request made while no thread is recorded. -/
theorem pending_run {station : Station} {currentChannel : UInt8} {es : List ScanEvent}
    {s : ScanState} (hr : run next (.request station false currentChannel) es = some s) :
    Pending s := by
  refine run_invariant (C := fun _ _ => True) ?_ ?_ (meets_true _ es) hr
  · intro s s' e h _ hn
    exact pending_next h hn
  · exact nofun

end Scan
end Rtl8814au
