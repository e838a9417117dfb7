import Rtl8814au.Device.LinkState

/-!
# Device.Handles

Any number of handles on one device: `Open`, `Close`, `Free`, `Read` and `Write`, interleaved at
every access to what the handles share. `Open` runs under the device list lock, `Close` does not.

* `openStep`, `closeStep`, `readStep` — one step of each kind of call.
* `LastOnly`  — the condition: no step of a `Close` while another handle is open or being opened.
* `Inv`       — with it, an open handle finds the device open and receiving.
* `Undisturbed` — between two states only the ring and the packet number have changed.

`fRxDataReady` and the count of blocked readers have a module of their own (`Device.RxRing`), and
`CancelAll` works on the transmit slots only (`TxPath.Slots`).
-/

namespace Rtl8814au
namespace Handles

open Lts

/-- Where the call of `Open` that holds the list lock stands. -/
inductive OpenPc where
  | entered
  | initializing -- `fRemoved` was clear.
  | reopening -- The hardware is initialized.
  | restarting -- `fClosing` is cleared.
  | counting -- The RX path runs.
deriving DecidableEq

/-- Where a call of `Close` stands. -/
inductive ClosePc where
  | entered
  | disconnecting -- `fClosing` is set and the readers are woken.
  | stopping -- The manager is disconnected.
deriving DecidableEq

/-- Where a call of `Read` stands. -/
inductive ReadPc where
  | entered
  | waiting -- On `fRxDataReady`.
  | checking -- Woken, ahead of the second look at `fClosing`.
  | dequeuing
deriving DecidableEq

structure HandleState where
  station : Station
  fClosing : Bool
  fRxRunning : Bool -- What `fRxPath->IsRunning()` returns.
  fHardwareInitialized : Bool
  fOpenCount : Int
  opening : Option OpenPc
  handles : Nat -- Opened, and not passed to `Close` yet.
  closes : List ClosePc
  closed : Nat -- Closed, and not freed yet.
  reads : List ReadPc

def HandleState.init (mac : Mac) : HandleState where
  station := .init mac
  fClosing := false
  fRxRunning := false
  fHardwareInitialized := false
  fOpenCount := 0
  opening := none
  handles := 0
  closes := []
  closed := 0
  reads := []

inductive HandleEvent where
  | callOpen
  -- `rx` is whether `Start` succeeds, `manager` whether the rest of `_InitHardware` does.
  | openStep (rx manager : Bool)
  | callClose
  | close (k : Nat)
  | free
  | callRead
  -- `acquired` is whether the semaphore was acquired, rather than the wait interrupted.
  | read (k : Nat) (acquired : Bool) (numBytes : Nat)
  | write (buffer : Bytes) (env : Env)
  | call (e : Event) (env : Env) -- A frame, the EAPOL worker, an ioctl.

/-- One of the five calls that the handles make. -/
def HandleEvent.isHandleCall : HandleEvent → Bool
  | .call _ _ => false
  | _ => true

/-! ## Steps -/

namespace HandleState

def setDevice (s : HandleState) (d : Device) : HandleState :=
  { s with station := { s.station with device := d } }

def addClose (s : HandleState) (t : ClosePc) : HandleState := { s with closes := t :: s.closes }
def addRead (s : HandleState) (t : ReadPc) : HandleState := { s with reads := t :: s.reads }

end HandleState

/-- One step of `Open`. Where it returns, the lock is released. -/
def openStep (s : HandleState) (rx manager : Bool) : OpenPc → HandleState
  | .entered =>
    if s.station.device.fRemoved then { s with opening := none }
    else { s with opening := some .initializing }
  | .initializing =>
    if s.fHardwareInitialized then { s with opening := some .reopening }
    else if ¬ rx then { s with opening := none }
    else if ¬ manager then { s with fRxRunning := true, opening := none }
    else
      { s.setDevice { s.station.device with fJoinState := .kJoinIdle, fJoinSeqCounter := 0 } with
        fRxRunning := true
        fHardwareInitialized := true
        opening := some .reopening }
  | .reopening => { s with fClosing := false, opening := some .restarting }
  | .restarting =>
    if s.fRxRunning then { s with opening := some .counting }
    else if rx then { s with fRxRunning := true, opening := some .counting }
    else { s with opening := none }
  | .counting =>
    { s with fOpenCount := s.fOpenCount + 1, handles := s.handles + 1, opening := none }

/-- One step of `Close`, by a call already taken out of the pool. -/
def closeStep (s : HandleState) : ClosePc → HandleState
  | .entered => { s with fClosing := true }.addClose .disconnecting
  | .disconnecting =>
    { s with station := { s.station with manager := s.station.manager.disconnect } }.addClose
      .stopping
  | .stopping => { s with fRxRunning := false, closed := s.closed + 1 }

def readStep (s : HandleState) (acquired : Bool) (numBytes : Nat) : ReadPc → HandleState
  | .entered => if s.station.device.fRemoved ∨ s.fClosing then s else s.addRead .waiting
  | .waiting => if acquired then s.addRead .checking else s
  | .checking => if s.station.device.fRemoved ∨ s.fClosing then s else s.addRead .dequeuing
  | .dequeuing => s.setDevice (s.station.device.read numBytes).1

def next (s : HandleState) : HandleEvent → Option HandleState
  | .callOpen => if s.opening = none then some { s with opening := some .entered } else none
  | .openStep rx manager => s.opening.map (openStep s rx manager)
  | .callClose =>
    if 0 < s.handles then some ({ s with handles := s.handles - 1 }.addClose .entered) else none
  | .close k => (pick s.closes k).map fun (t, rest) => closeStep { s with closes := rest } t
  | .free =>
    if 0 < s.closed then some { s with closed := s.closed - 1, fOpenCount := s.fOpenCount - 1 }
    else none
  | .callRead => some (s.addRead .entered)
  | .read k acquired numBytes =>
    (pick s.reads k).map fun (t, rest) => readStep { s with reads := rest } acquired numBytes t
  | .write buffer env => some (s.setDevice (s.station.device.write buffer env).device)
  | .call e env => (s.station.step e env).map fun station => { s with station := station }

/-! ## The condition -/

/-- An `Open` that has cleared `fClosing`. -/
def OpenPc.committed : OpenPc → Bool
  | .entered => false
  | .initializing => false
  | .reopening => false
  | .restarting => true
  | .counting => true

/-- A `Close` takes its steps only while no other handle is open and no `Open` has cleared
`fClosing`. -/
def LastOnly (s : HandleState) : HandleEvent → Prop
  | .close _ => s.handles = 0 ∧ ∀ t ∈ s.opening, t.committed = false
  | _ => True

instance (s : HandleState) : ∀ e, Decidable (LastOnly s e)
  | .close _ => inferInstanceAs (Decidable (_ ∧ ∀ t ∈ s.opening, _))
  | .callOpen => isTrue trivial
  | .openStep _ _ => isTrue trivial
  | .callClose => isTrue trivial
  | .free => isTrue trivial
  | .callRead => isTrue trivial
  | .read _ _ _ => isTrue trivial
  | .write _ _ => isTrue trivial
  | .call _ _ => isTrue trivial

/-! ## The invariant -/

/-- The device is open and receiving. -/
structure Ready (s : HandleState) : Prop where
  accepting : s.fClosing = false
  running : s.fRxRunning = true
  initialized : s.fHardwareInitialized = true

structure Inv (s : HandleState) : Prop where
  opened : 0 < s.handles → Ready s
  initialized : s.opening = some .reopening ∨ s.opening = some .restarting ∨
    s.opening = some .counting → s.fHardwareInitialized = true
  committed : s.opening = some .restarting ∨ s.opening = some .counting → s.fClosing = false
  restarted : s.opening = some .counting → s.fRxRunning = true

theorem inv_init (mac : Mac) : Inv (.init mac) := by
  refine ⟨?_, ?_, ?_, ?_⟩
  · intro h
    cases h
  · simp [HandleState.init]
  · simp [HandleState.init]
  · simp [HandleState.init]

/-- A step that leaves the shared flags, the open handles and the `Open` in progress alone. -/
theorem Inv.congr {s s' : HandleState} (h : Inv s) (hc : s'.fClosing = s.fClosing)
    (hr : s'.fRxRunning = s.fRxRunning) (hi : s'.fHardwareInitialized = s.fHardwareInitialized)
    (ho : s'.opening = s.opening) (hh : s'.handles ≤ s.handles) : Inv s' := by
  refine ⟨?_, ?_, ?_, ?_⟩
  · intro hpos
    obtain ⟨h1, h2, h3⟩ := h.opened (Nat.lt_of_lt_of_le hpos hh)
    exact ⟨hc.trans h1, hr.trans h2, hi.trans h3⟩
  · rw [ho, hi]
    exact h.initialized
  · rw [ho, hc]
    exact h.committed
  · rw [ho, hr]
    exact h.restarted

theorem inv_open {s : HandleState} {rx manager : Bool} {t : OpenPc} (h : Inv s)
    (ht : s.opening = some t) : Inv (openStep s rx manager t) := by
  -- `Open` gives the lock back without a handle.
  have hfail : ∀ running : Bool, (s.fRxRunning = true → running = true) →
      Inv { s with fRxRunning := running, opening := none } := by
    intro running hrun
    refine ⟨?_, ?_, ?_, ?_⟩
    · intro hpos
      obtain ⟨h1, h2, h3⟩ := h.opened hpos
      exact ⟨h1, hrun h2, h3⟩
    · simp
    · simp
    · simp
  cases t with
  | entered =>
    simp only [openStep]
    split
    · exact hfail s.fRxRunning id
    · exact ⟨fun hpos => ⟨(h.opened hpos).1, (h.opened hpos).2, (h.opened hpos).3⟩, by simp, by simp,
        by simp⟩
  | initializing =>
    simp only [openStep]
    split
    · rename_i hinit
      exact ⟨fun hpos => ⟨(h.opened hpos).1, (h.opened hpos).2, hinit⟩, fun _ => hinit, by simp,
        by simp⟩
    split
    · exact hfail s.fRxRunning id
    split
    · exact hfail true fun _ => rfl
    · exact ⟨fun hpos => ⟨(h.opened hpos).1, rfl, rfl⟩, fun _ => rfl, by simp, by simp⟩
  | reopening =>
    have hinit := h.initialized (.inl ht)
    simp only [openStep]
    exact ⟨fun hpos => ⟨rfl, (h.opened hpos).2, hinit⟩, fun _ => hinit, fun _ => rfl, by simp⟩
  | restarting =>
    have hinit := h.initialized (.inr (.inl ht))
    have hopen := h.committed (.inl ht)
    simp only [openStep]
    split
    · rename_i hrun
      exact ⟨fun _ => ⟨hopen, hrun, hinit⟩, fun _ => hinit, fun _ => hopen, fun _ => hrun⟩
    split
    · exact ⟨fun _ => ⟨hopen, rfl, hinit⟩, fun _ => hinit, fun _ => hopen, fun _ => rfl⟩
    · exact hfail s.fRxRunning id
  | counting =>
    have hinit := h.initialized (.inr (.inr ht))
    have hopen := h.committed (.inr ht)
    have hrun := h.restarted ht
    simp only [openStep]
    exact ⟨fun _ => ⟨hopen, hrun, hinit⟩, by simp, by simp, by simp⟩

theorem inv_close {s : HandleState} {t : ClosePc} {rest : List ClosePc} {k : Nat} (h : Inv s)
    (hlast : LastOnly s (.close k)) : Inv (closeStep { s with closes := rest } t) := by
  obtain ⟨hnone, hopening⟩ := hlast
  have hpos : ¬ 0 < s.handles := by omega
  have hrestart : s.opening ≠ some .restarting := by
    intro ho
    have := hopening _ ho
    cases this
  have hcount : s.opening ≠ some .counting := by
    intro ho
    have := hopening _ ho
    cases this
  have hclosed : ∀ s' : HandleState, s'.handles = s.handles → s'.opening = s.opening →
      s'.fHardwareInitialized = s.fHardwareInitialized → Inv s' := by
    intro s' hh ho hi
    refine ⟨fun hp => absurd (hh ▸ hp) hpos, ?_, ?_, ?_⟩
    · rw [ho, hi]
      exact h.initialized
    · rw [ho]
      exact fun hp => absurd hp (not_or.mpr ⟨hrestart, hcount⟩)
    · rw [ho]
      exact fun hp => absurd hp hcount
  cases t with
  | entered => exact hclosed _ rfl rfl rfl
  | disconnecting => exact hclosed _ rfl rfl rfl
  | stopping => exact hclosed _ rfl rfl rfl

/-- A `Read` takes a frame off the ring at most. -/
theorem readStep_eq (s : HandleState) (acquired : Bool) (numBytes : Nat) (t : ReadPc) :
    ∃ ring tail reads, readStep s acquired numBytes t =
      { s.setDevice { s.station.device with fRxRing := ring, fRxRingTail := tail } with
        reads := reads } := by
  cases t with
  | entered =>
    simp only [readStep]
    split
    · exact ⟨_, _, s.reads, rfl⟩
    · exact ⟨_, _, .waiting :: s.reads, rfl⟩
  | waiting =>
    simp only [readStep]
    split
    · exact ⟨_, _, .checking :: s.reads, rfl⟩
    · exact ⟨_, _, s.reads, rfl⟩
  | checking =>
    simp only [readStep]
    split
    · exact ⟨_, _, s.reads, rfl⟩
    · exact ⟨_, _, .dequeuing :: s.reads, rfl⟩
  | dequeuing =>
    obtain ⟨ring, tail, hd⟩ := s.station.device.read_device numBytes
    simp only [readStep]
    rw [hd]
    exact ⟨ring, tail, s.reads, rfl⟩

theorem inv_step {s s' : HandleState} {e : HandleEvent} (h : Inv s) (hlast : LastOnly s e)
    (hn : next s e = some s') : Inv s' := by
  cases e with
  | callOpen =>
    simp only [next] at hn
    split at hn
    · cases hn
      exact ⟨fun hpos => ⟨(h.opened hpos).1, (h.opened hpos).2, (h.opened hpos).3⟩, by simp,
        by simp, by simp⟩
    · cases hn
  | openStep rx manager =>
    simp only [next, Option.map_eq_some_iff] at hn
    obtain ⟨t, ht, rfl⟩ := hn
    exact inv_open h ht
  | callClose =>
    simp only [next] at hn
    split at hn
    · cases hn
      exact h.congr rfl rfl rfl rfl (Nat.sub_le _ _)
    · cases hn
  | close k =>
    simp only [next, Option.map_eq_some_iff] at hn
    obtain ⟨⟨t, rest⟩, hp, rfl⟩ := hn
    exact inv_close h hlast
  | free =>
    simp only [next] at hn
    split at hn
    · cases hn
      exact h.congr rfl rfl rfl rfl (Nat.le_refl _)
    · cases hn
  | callRead =>
    cases hn
    exact h.congr rfl rfl rfl rfl (Nat.le_refl _)
  | read k acquired numBytes =>
    simp only [next, Option.map_eq_some_iff] at hn
    obtain ⟨⟨t, rest⟩, hp, rfl⟩ := hn
    obtain ⟨ring, tail, reads, heq⟩ := readStep_eq { s with reads := rest } acquired numBytes t
    dsimp only
    rw [heq]
    exact h.congr rfl rfl rfl rfl (Nat.le_refl _)
  | write buffer env =>
    cases hn
    exact h.congr rfl rfl rfl rfl (Nat.le_refl _)
  | call e env =>
    simp only [next, Option.map_eq_some_iff] at hn
    obtain ⟨station, hstep, rfl⟩ := hn
    exact h.congr rfl rfl rfl rfl (Nat.le_refl _)

/-! ## What an open handle keeps -/

/-- The manager is untouched, and so is all of the device but the ring and the packet number. -/
structure Undisturbed (s s' : HandleState) : Prop where
  manager : s'.station.manager = s.station.manager
  device : ∃ ring tail pn, s'.station.device =
    { s.station.device with fRxRing := ring, fRxRingTail := tail, fTxPnPairwise := pn }

theorem Undisturbed.of_station {s s' : HandleState} (h : s'.station = s.station) :
    Undisturbed s s' := by
  refine ⟨by rw [h], s.station.device.fRxRing, s.station.device.fRxRingTail,
    s.station.device.fTxPnPairwise, ?_⟩
  rw [h]

theorem Undisturbed.trans {s s' s'' : HandleState} (h1 : Undisturbed s s')
    (h2 : Undisturbed s' s'') : Undisturbed s s'' := by
  obtain ⟨ring1, tail1, pn1, hd1⟩ := h1.device
  obtain ⟨ring2, tail2, pn2, hd2⟩ := h2.device
  refine ⟨h2.manager.trans h1.manager, ring2, tail2, pn2, ?_⟩
  rw [hd2, hd1]

theorem undisturbed_write (s : HandleState) (buffer : Bytes) (env : Env) :
    Undisturbed s (s.setDevice (s.station.device.write buffer env).device) := by
  rcases s.station.device.write_device buffer env with hd | hd
  · rw [hd]
    exact .of_station rfl
  · rw [hd]
    exact ⟨rfl, s.station.device.fRxRing, s.station.device.fRxRingTail, _, rfl⟩

theorem undisturbed_read (s : HandleState) (rest : List ReadPc) (acquired : Bool) (numBytes : Nat)
    (t : ReadPc) : Undisturbed s (readStep { s with reads := rest } acquired numBytes t) := by
  obtain ⟨ring, tail, reads, heq⟩ := readStep_eq { s with reads := rest } acquired numBytes t
  rw [heq]
  exact ⟨rfl, ring, tail, s.station.device.fTxPnPairwise, rfl⟩

/-- With a handle open the hardware is initialized, so an `Open` does not reset the device. -/
theorem undisturbed_open {s : HandleState} {rx manager : Bool} {t : OpenPc} (h : Ready s) :
    Undisturbed s (openStep s rx manager t) := by
  cases t with
  | entered =>
    simp only [openStep]
    split
    · exact .of_station rfl
    · exact .of_station rfl
  | initializing =>
    simp only [openStep]
    rw [if_pos h.initialized]
    exact .of_station rfl
  | restarting =>
    simp only [openStep]
    rw [if_pos h.running]
    exact .of_station rfl
  | _ => exact .of_station rfl

theorem undisturbed_step {s s' : HandleState} {e : HandleEvent} (h : Inv s) (hpos : 0 < s.handles)
    (hlast : LastOnly s e) (hcall : e.isHandleCall = true) (hn : next s e = some s') :
    Undisturbed s s' := by
  cases e with
  | callOpen =>
    simp only [next] at hn
    split at hn
    · cases hn
      exact .of_station rfl
    · cases hn
  | openStep rx manager =>
    simp only [next, Option.map_eq_some_iff] at hn
    obtain ⟨t, ht, rfl⟩ := hn
    exact undisturbed_open (h.opened hpos)
  | callClose =>
    simp only [next, if_pos hpos, Option.some.injEq] at hn
    subst hn
    exact .of_station rfl
  | close k =>
    have := hlast.1
    omega
  | free =>
    simp only [next] at hn
    split at hn
    · cases hn
      exact .of_station rfl
    · cases hn
  | callRead =>
    cases hn
    exact .of_station rfl
  | read k acquired numBytes =>
    simp only [next, Option.map_eq_some_iff] at hn
    obtain ⟨⟨t, rest⟩, hp, rfl⟩ := hn
    exact undisturbed_read s rest acquired numBytes t
  | write buffer env =>
    cases hn
    exact undisturbed_write s buffer env
  | call e env => cases hcall

/-- `Close` sets `fClosing` whoever else has the device open. -/
theorem not_ready_close {s s' : HandleState} {k : Nat} {rest : List ClosePc}
    (hp : pick s.closes k = some (.entered, rest)) (hn : next s (.close k) = some s') :
    ¬ Ready s' := by
  simp only [next, hp, Option.map_some, Option.some.injEq] at hn
  subst hn
  intro h
  cases h.accepting

/-! ## Runs -/

/-- However the device got to `s`: as long as a handle stays open, no interleaving of the five calls
closes the device, stops its reception, disconnects it or touches its keys. The first step of a
`Close` would end that at once. -/
theorem handle_independence {mac : Mac} {es fs : List HandleEvent} {s t : HandleState}
    (hm : Meets next LastOnly (.init mac) (es ++ fs)) (hr : run next (.init mac) es = some s)
    (hcalls : ∀ e ∈ fs, e.isHandleCall = true)
    (hopen : Always next (fun s => 0 < s.handles) s fs) (ht : run next s fs = some t) :
    Ready t ∧ Undisturbed s t ∧ ∀ k rest, pick t.closes k = some (.entered, rest) →
      ∀ u ∈ next t (.close k), ¬ Ready u := by
  obtain ⟨hes, hfs⟩ := meets_append.mp hm
  have hinv : Inv s := run_invariant inv_step (inv_init mac) hes hr
  have hguard : Meets next (fun s e => LastOnly s e ∧ 0 < s.handles ∧ e.isHandleCall = true) s fs :=
    meets_and (hfs s hr) (meets_and (meets_of_always hopen) (meets_of_forall fun _ => hcalls))
  have hboth : Inv t ∧ Undisturbed s t := by
    refine run_invariant (I := fun u => Inv u ∧ Undisturbed s u) ?_ ⟨hinv, .of_station rfl⟩
      hguard ht
    intro u u' e ⟨hi, hu⟩ ⟨hlast, hpos, hcall⟩ hn
    exact ⟨inv_step hi hlast hn, hu.trans (undisturbed_step hi hpos hlast hcall hn)⟩
  refine ⟨hboth.1.opened (always_last (I := fun s => 0 < s.handles) hopen ht), hboth.2, ?_⟩
  intro k rest hp u hu hready
  exact not_ready_close hp hu hready

def sampleOpen : List HandleEvent := .callOpen :: List.replicate 5 (.openStep true true)

def sampleClose : List HandleEvent := .callClose :: List.replicate 3 (.close 0)

def sampleAssociated : List HandleEvent :=
  System.sampleJoin.map fun (e, env) => .call e env

/-- A handle is opened, closed and freed; with the next one the station associates. -/
def sampleReopened : List HandleEvent :=
  sampleOpen ++ sampleClose ++ [.free] ++ sampleOpen ++ sampleAssociated

/-- Another handle comes, and a `Read` that is interrupted. -/
def sampleSecond : List HandleEvent :=
  sampleOpen ++ [.callRead, .read 0 true 0, .read 0 false 0]

theorem handle_independence_sampleSecond : ∃ s t,
    run next (.init System.sampleMac) sampleReopened = some s ∧
      s.station.manager.fState = .kWiFiStateConnected ∧ run next s sampleSecond = some t ∧
      t.handles = 2 ∧ Ready t ∧ Undisturbed s t := by
  have hrun : ((run next (.init System.sampleMac) sampleReopened).map fun s =>
      (s.station.manager.fState, decide (Always next (fun s => 0 < s.handles) s sampleSecond),
        (run next s sampleSecond).map HandleState.handles)) =
      some (.kWiFiStateConnected, true, some 2) := by decide +kernel
  obtain ⟨s, hr, hfields⟩ := Option.map_eq_some_iff.mp hrun
  obtain ⟨hup, hfields⟩ := Prod.mk.inj hfields
  obtain ⟨hopen, hend⟩ := Prod.mk.inj hfields
  obtain ⟨t, ht, hhandles⟩ := Option.map_eq_some_iff.mp hend
  have hm : Meets next LastOnly (.init System.sampleMac) (sampleReopened ++ sampleSecond) := by
    decide +kernel
  have hkept := handle_independence hm hr (by decide) (of_decide_eq_true hopen) ht
  exact ⟨s, t, hr, hup, ht, hhandles, hkept.1, hkept.2.1⟩

/-- Two handles on a connected device, and one of them is closed. -/
theorem handle_independence_closedOne : ∃ s t,
    run next (.init System.sampleMac) (sampleOpen ++ sampleOpen ++ sampleAssociated) = some s ∧
      s.station.manager.fState = .kWiFiStateConnected ∧ run next s sampleClose = some t ∧
      t.handles = 1 ∧ t.fClosing = true ∧ t.fRxRunning = false ∧
      t.station.manager.fState = .kWiFiStateDisconnected := by
  have hrun : ((run next (.init System.sampleMac)
      (sampleOpen ++ sampleOpen ++ sampleAssociated)).map fun s =>
        (s.station.manager.fState, (run next s sampleClose).map fun t =>
          (t.handles, t.fClosing, t.fRxRunning, t.station.manager.fState))) =
      some (.kWiFiStateConnected, some (1, true, false, .kWiFiStateDisconnected)) := by
    decide +kernel
  obtain ⟨s, hr, hfields⟩ := Option.map_eq_some_iff.mp hrun
  obtain ⟨hup, hend⟩ := Prod.mk.inj hfields
  obtain ⟨t, ht, hfields⟩ := Option.map_eq_some_iff.mp hend
  simp only [Prod.mk.injEq] at hfields
  exact ⟨s, t, hr, hup, ht, hfields⟩

end Handles
end Rtl8814au
