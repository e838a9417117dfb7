import Rtl8814au.Device.EapolInbox
import Rtl8814au.Device.InstallKeys
import Rtl8814au.WiFi.Commands

/-!
# Device.PostAssoc

The setup that follows an association: `_PostAssocLoop` with the callers that wake it, and what
`_DoPostAssocSetup` tells the chip.

* `design`         — the worker, which a transient failure of `acquire_sem` does not end.
* `Present`, `Unhurried` — the semaphore stays, and no join is started while a setup is due.
* `setups_follow`  — each association is followed by one setup, with its own BSSID in unhurried runs.
* `workers_reaped` — `_Shutdown` never waits in vain, neither for this worker nor for the handshake's.
* `setup_sent`     — a setup writes the BSSID, and both its commands are sent, whatever fails.
-/

namespace Rtl8814au
namespace PostAssoc

open Lts Worker

inductive Change
  | associated -- `_HandleAssocResponse`, down to its release
  | joined (bssid : Mac) -- `_DoJoin`, where it sets `fJoinBssid`

def note (fJoinBssid : Mac) : Change → Mac × Bool
  | .associated => (fJoinBssid, true)
  | .joined bssid => (bssid, false)

/-- The mailbox is `fJoinBssid`, which a setup copies under `fLock`. -/
def design : Design Change Mac Mac where
  put := note
  take fJoinBssid := (some fJoinBssid, fJoinBssid)
  full _ := false
  retries wake := wake = .transient

abbrev System := State Mac Mac × History Change Mac

/-- Setups that are still due. -/
def due (s : State Mac Mac) : Nat := s.pc.token + s.tokens + s.owed

/-- `acquire_sem` does not find the semaphore gone: it is deleted behind the worker's end. -/
def Present (_ : System) (e : Worker.Event Change) : Prop :=
  match e with
  | .work .gone => False
  | _ => True

/-- No join is started while a setup is due. -/
def Unhurried (p : System) (e : Worker.Event Change) : Prop :=
  match e with
  | .put (.joined _) => due p.1 = 0
  | _ => True

instance (p : System) (e : Worker.Event Change) : Decidable (Present p e) :=
  match e with
  | .put _ | .release | .remove | .shutdown | .work .ok | .work .transient => isTrue trivial
  | .work .gone => isFalse id

instance (p : System) (e : Worker.Event Change) : Decidable (Unhurried p e) :=
  match e with
  | .put (.joined _) => inferInstanceAs (Decidable (due p.1 = 0))
  | .put .associated | .release | .remove | .shutdown | .work _ => isTrue trivial

/-- The BSSIDs of the associations. -/
def associations : Mac → List Change → List Mac
  | _, [] => []
  | fJoinBssid, .associated :: cs => fJoinBssid :: associations fJoinBssid cs
  | _, .joined bssid :: cs => associations bssid cs

def joinBssid (fJoinBssid : Mac) (cs : List Change) : Mac :=
  cs.foldl (fun b c => (note b c).1) fJoinBssid

theorem associations_concat (fJoinBssid : Mac) (cs : List Change) (c : Change) :
    associations fJoinBssid (cs ++ [c]) =
      associations fJoinBssid cs ++ associations (joinBssid fJoinBssid cs) [c] := by
  induction cs generalizing fJoinBssid with
  | nil => rfl
  | cons d cs ih =>
    cases d with
    | associated => exact congrArg (fJoinBssid :: ·) (ih fJoinBssid)
    | joined bssid => exact ih bssid

theorem joinBssid_concat (fJoinBssid : Mac) (cs : List Change) (c : Change) :
    joinBssid fJoinBssid (cs ++ [c]) = (note (joinBssid fJoinBssid cs) c).1 := List.foldl_concat ..

/-! ## Runs -/

/-- One setup for each association, done or due, and a worker to do it. -/
structure Settled (fJoinBssid : Mac) (p : System) : Prop where
  alive : p.1.stop = false → p.1.pc.isExited = false
  least : p.2.taken.length ≤ (associations fJoinBssid p.2.puts).length
  count : p.1.stop = false → p.1.removed = false →
    p.2.taken.length + due p.1 = (associations fJoinBssid p.2.puts).length

/-- Each with the BSSID of its association. -/
def Named (fJoinBssid : Mac) (p : System) : Prop :=
  p.1.stop = false → p.1.removed = false →
    p.2.taken ++ List.replicate (due p.1) p.1.box = associations fJoinBssid p.2.puts

/-- `unhurried` says whether the BSSIDs are followed too. -/
structure Inv (fJoinBssid : Mac) (unhurried : Prop) (s : State Mac Mac) (h : History Change Mac) :
    Prop where
  accounted : Accounted s h
  box : s.box = joinBssid fJoinBssid h.puts
  signals : h.signals = (associations fJoinBssid h.puts).length
  visits : h.visits = h.taken.length
  alive : s.stop = false → s.pc ≠ .exited ∧ s.pc ≠ .woken .gone
  each : unhurried → Named fJoinBssid (s, h)

variable {fJoinBssid : Mac} {unhurried : Prop} {s s' : State Mac Mac} {h h' : History Change Mac}

theorem inv_init (fJoinBssid : Mac) (unhurried : Prop) :
    Inv fJoinBssid unhurried (.init fJoinBssid) .init where
  accounted := accounted_init fJoinBssid
  box := rfl
  signals := rfl
  visits := rfl
  alive _ := ⟨nofun, nofun⟩
  each _ _ _ := rfl

/-- A step of the worker that is not a visit, and spends no token. -/
theorem Inv.keep {tokens : Nat} {pc : Pc Mac} (hi : Inv fJoinBssid unhurried s h)
    (ha : Accounted { s with tokens := tokens, pc := pc } h)
    (hdue : pc.token + tokens = s.pc.token + s.tokens)
    (hpc : s.stop = false → pc ≠ .exited ∧ pc ≠ .woken .gone) :
    Inv fJoinBssid unhurried { s with tokens := tokens, pc := pc } h where
  accounted := ha
  box := hi.box
  signals := hi.signals
  visits := hi.visits
  alive := hpc
  each hu hs hr := by
    have hsame : due { s with tokens := tokens, pc := pc } = due s :=
      congrArg (· + s.owed) hdue
    show _ ++ List.replicate (due { s with tokens := tokens, pc := pc }) s.box = _
    rw [hsame]
    exact hi.each hu hs hr

theorem Inv.work {wake : Wake} (hi : Inv fJoinBssid unhurried s h) (hg : wake ≠ .gone)
    (hs : WorkStep design s h wake s' h') : Inv fJoinBssid unhurried s' h' := by
  have ha := hi.accounted.step (.work hs)
  cases hs with
  | test _ hp hs => exact hi.keep ha (by rw [hp]; rfl) fun _ => by simp
  | leave _ hp hs => exact hi.keep ha (by rw [hp]; rfl) fun hns => absurd hns (ne_true hs)
  | fail _ hp hw =>
    refine hi.keep ha (by rw [hp, token_fail hw]; rfl) fun _ => ⟨by simp, fun heq => hg ?_⟩
    exact Pc.woken.inj heq
  | wake hp ht =>
    refine hi.keep ha ?_ fun _ => by simp
    rw [hp]
    simp only [Pc.token]
    omega
  | stopped _ hp hs =>
    exact ⟨ha, hi.box, hi.signals, hi.visits, fun hns => absurd hns (ne_true hs),
      fun _ hns => absurd hns (ne_true hs)⟩
  | arm _ hp hs => exact hi.keep ha (by rw [hp]; rfl) fun _ => by simp
  | retry _ woken hp hw hs hr => exact hi.keep ha (by rw [hp, token_fail hw]; rfl) fun _ => by simp
  | die _ woken hp hw hs =>
    refine hi.keep ha (by rw [hp, token_fail hw]; rfl) fun hns => ?_
    have hgone : woken ≠ .gone := fun heq => (hi.alive hns).2 (by rw [hp, heq])
    cases woken with
    | ok => exact absurd rfl hw
    | transient =>
      rcases hs with hs | hs
      · exact absurd hns (ne_true hs)
      · cases hs
    | gone => exact absurd rfl hgone
  | skip _ hp hr =>
    exact ⟨ha, hi.box, hi.signals, hi.visits, fun _ => by simp,
      fun _ _ hnr => absurd hnr (ne_true hr)⟩
  | go _ hp hr => exact hi.keep ha (by rw [hp]; rfl) fun _ => by simp
  | take _ hp =>
    refine ⟨ha, hi.box, hi.signals, ?_, fun _ => by simp [design], fun hu hs hr => ?_⟩
    · simp only [hi.visits, design, Option.toList_some, List.length_append, List.length_singleton]
    · have heach := hi.each hu hs hr
      have hdue : due s = s.tokens + s.owed + 1 := by
        simp only [due, hp, Pc.token]
        omega
      rw [hdue, List.replicate_succ] at heach
      simp only [design, Option.toList_some, due, Pc.token, List.append_assoc, List.singleton_append,
        Nat.zero_add]
      exact heach
  | done _ job hp => exact hi.keep ha (by rw [hp]; rfl) fun _ => by simp

theorem inv_step {p q : System} {e : Worker.Event Change} (hi : Inv fJoinBssid unhurried p.1 p.2)
    (hg : Present p e ∧ (unhurried → Unhurried p e)) (hs : tracked design p e = some q) :
    Inv fJoinBssid unhurried q.1 q.2 := by
  obtain ⟨s, h⟩ := p
  obtain ⟨s', h'⟩ := q
  have hstep := step_of_tracked hs
  have ha := hi.accounted.step hstep
  simp only at hi hstep ha ⊢
  cases hstep with
  | put c =>
    cases c with
    | associated =>
      have hnew : associations (joinBssid fJoinBssid h.puts) [.associated] = [s.box] := by
        rw [hi.box]
        rfl
      refine ⟨ha, ?_, ?_, hi.visits, hi.alive, fun hu hs hr => ?_⟩
      · rw [joinBssid_concat, ← hi.box]
        rfl
      · rw [associations_concat, hnew, List.length_append, ← hi.signals]
        rfl
      · have heach := hi.each hu hs hr
        have hdue : s.pc.token + s.tokens + (s.owed + 1) = due s + 1 := rfl
        show h.taken ++ List.replicate (s.pc.token + s.tokens + (s.owed + 1)) s.box = _
        rw [hdue, List.replicate_succ', ← List.append_assoc, heach, associations_concat, hnew]
    | joined bssid =>
      refine ⟨ha, ?_, ?_, hi.visits, hi.alive, fun hu hs hr => ?_⟩
      · rw [joinBssid_concat]
        rfl
      · rw [associations_concat]
        exact hi.signals.trans (congrArg List.length (List.append_nil _).symm)
      · have heach := hi.each hu hs hr
        have hdue : due s = 0 := hg.2 hu
        simp only [hdue] at heach
        have hsame : s.pc.token + s.tokens + (s.owed + 0) = 0 := hdue
        show h.taken ++ List.replicate (s.pc.token + s.tokens + (s.owed + 0)) bssid = _
        rw [hsame, associations_concat]
        exact (heach.trans (List.append_nil _).symm)
  | release ho =>
    refine ⟨ha, hi.box, hi.signals, hi.visits, hi.alive, fun hu hs hr => ?_⟩
    have hdue : due { s with owed := s.owed - 1, tokens := s.tokens + 1 } = due s := by
      simp only [due]
      omega
    show _ ++ List.replicate (due { s with owed := s.owed - 1, tokens := s.tokens + 1 }) s.box = _
    rw [hdue]
    exact hi.each hu hs hr
  | remove => exact ⟨ha, hi.box, hi.signals, hi.visits, hi.alive, fun _ _ hr => (nomatch hr)⟩
  | flag hd =>
    exact ⟨ha, hi.box, hi.signals, hi.visits, fun hs => (nomatch hs), fun _ hs => (nomatch hs)⟩
  | signal hd =>
    have hstop : s.stop ≠ false := fun hns => by
      have := hi.accounted.flagged hns
      rw [hd] at this
      cases this
    exact ⟨ha, hi.box, hi.signals, hi.visits, fun hs => absurd hs hstop,
      fun _ hs => absurd hs hstop⟩
  | join hd hp => exact ⟨ha, hi.box, hi.signals, hi.visits, hi.alive, hi.each⟩
  | work hw =>
    refine hi.work ?_ hw
    rintro rfl
    exact hg.1

theorem Inv.settled {p : System} (hi : Inv fJoinBssid unhurried p.1 p.2) : Settled fJoinBssid p where
  alive hs := by
    have hlive := (hi.alive hs).1
    cases hp : p.1.pc with
    | exited => exact absurd hp hlive
    | _ => rfl
  least := by
    rw [← hi.visits, ← hi.signals]
    exact hi.accounted.visits_le
  count hs hr := by
    have htotal := hi.accounted.total
    rw [hi.accounted.unspent hs hr, hi.accounted.flagged hs] at htotal
    simp only [Shutdown.token] at htotal
    rw [← hi.visits, ← hi.signals]
    simp only [due]
    omega

theorem inv_always (unhurried : Prop) (fJoinBssid : Mac) {es : List (Worker.Event Change)}
    (h : Meets (tracked design) (fun p e => Present p e ∧ (unhurried → Unhurried p e))
      (start fJoinBssid) es) :
    Always (tracked design) (fun p => Inv fJoinBssid unhurried p.1 p.2) (start fJoinBssid) es :=
  always_of_meets inv_step (inv_init fJoinBssid unhurried) h

/-- Every association is followed by one setup, and nothing but the shutdown ends the worker, whatever
`acquire_sem` fails with. As long as no join is started while a setup is due, the setups have the
BSSIDs of the associations, in their order. -/
theorem setups_follow (fJoinBssid : Mac) (es : List (Worker.Event Change))
    (h : Meets (tracked design) Present (start fJoinBssid) es) :
    Always (tracked design) (Settled fJoinBssid) (start fJoinBssid) es ∧
      (Meets (tracked design) Unhurried (start fJoinBssid) es →
        Always (tracked design) (Named fJoinBssid) (start fJoinBssid) es) := by
  have hloose := meets_and h (meets_true (start fJoinBssid) es)
  refine ⟨always_mono Inv.settled (inv_always False fJoinBssid ?_), fun hu => ?_⟩
  · exact meets_of_invariant (I := fun _ => True) (fun _ _ _ => trivial)
      (fun _ hc => ⟨hc.1, False.elim⟩) trivial hloose
  · have hboth := meets_and h hu
    refine always_mono (fun hi => hi.each trivial) (inv_always True fJoinBssid ?_)
    exact meets_of_invariant (I := fun _ => True) (fun _ _ _ => trivial)
      (fun _ hc => ⟨hc.1, fun _ => hc.2⟩) trivial hboth

/-- Two associations with a failing `acquire_sem` in between, and the setups they lead to. -/
def rejoinRun : List (Worker.Event Change) :=
  [.put (.joined (Buf.fill 6 1)), .put .associated, .work .ok, .work .transient, .release,
    .work .ok, .work .ok, .work .ok, .work .ok, .work .ok, .work .ok, .work .ok,
    .put (.joined (Buf.fill 6 2)), .put .associated, .release]

theorem setups_follow_rejoinRun :
    Meets (tracked design) Present (start (Buf.zero 6)) rejoinRun ∧
      Always (tracked design) (Settled (Buf.zero 6)) (start (Buf.zero 6)) rejoinRun ∧
      Always (tracked design) (Named (Buf.zero 6)) (start (Buf.zero 6)) rejoinRun := by
  have h : Meets (tracked design) Present (start (Buf.zero 6)) rejoinRun := by decide
  have hu : Meets (tracked design) Unhurried (start (Buf.zero 6)) rejoinRun := by decide
  have hsettled := setups_follow (Buf.zero 6) rejoinRun h
  exact ⟨h, hsettled.1, hsettled.2 hu⟩

/-! ## The shutdown -/

/-- Once their flag is set, the workers of the handshake and of the setups take four steps at most,
and none of them is blocked, so that `_Shutdown` gets past both of its waits. -/
theorem workers_reaped (mac fJoinBssid : Mac) :
    (∀ es, Always (next EapolInbox.design) (Reaped EapolInbox.design)
      (.init (EapolInbox.boxOf (Device.init mac))) es) ∧
    ∀ es, Always (next design) (Reaped design) (.init fJoinBssid) es :=
  ⟨reaped_always _, reaped_always _⟩

/-! ## The setup -/

open RegisterIO Dialogue Commands
open Cam (kRegBSSID)
open Mailbox (Command)

abbrev SetupIo (α : Type) : Type := Io (fun _ : Command => StatusCode) α

/-- `SendH2C` for each of the commands, with what they come to. -/
def sendAll : List Command → SetupIo (List StatusCode)
  | [] => pure []
  | c :: cs => do
    let status ← call c
    let rest ← sendAll cs
    pure (status :: rest)

/-- `ready` says that the manager and the register access are there. -/
def doPostAssocSetup (ready : Bool) (bssid : Mac) : SetupIo StatusCode :=
  if !ready then pure .noInit
  else do
    let at' := fun i => (bssid.bytes.at i).toNat
    let bssidLo := at' 0 ||| at' 1 <<< 8 ||| at' 2 <<< 16 ||| at' 3 <<< 24
    let bssidHi := at' 4 ||| at' 5 <<< 8
    let _ ← write32 kRegBSSID bssidLo
    let _ ← write16 (kRegBSSID + 4) bssidHi
    let statuses ← sendAll postAssocCommands
    pure (if statuses.all (· = .ok) then .ok else .other 0xFFFFFFFF)

/-- The accesses of a setup, with their outcomes. -/
def Sent (bssid : Mac) (result : StatusCode)
    (log : List ((i : Access Command) × Access.Answer (fun _ => StatusCode) i)) : Prop :=
  ∃ lo hi ra ms, log =
    [⟨.vendorWrite kRegBSSID (bssid.bytes.take 4), lo⟩,
      ⟨.vendorWrite (kRegBSSID + 4) (bssid.bytes.drop 4), hi⟩,
      ⟨.call (ofPayload kH2C_MacIDCfg [0, 12, 0, 0xF0, 0x0F, 0]), ra⟩,
      ⟨.call (ofPayload kH2C_MediaStatusRpt [1, 0]), ms⟩] ∧
    (result = .ok ↔ ra = .ok ∧ ms = .ok)

theorem le_bssid (bssid : Mac) :
    Bytes.le 4 ((bssid.bytes.at 0).toNat ||| (bssid.bytes.at 1).toNat <<< 8 |||
        (bssid.bytes.at 2).toNat <<< 16 ||| (bssid.bytes.at 3).toNat <<< 24) = bssid.bytes.take 4 ∧
      Bytes.le 2 ((bssid.bytes.at 4).toNat ||| (bssid.bytes.at 5).toNat <<< 8) =
        bssid.bytes.drop 4 := by
  have hbytes : bssid.bytes.take 4 =
      [bssid.bytes.at 0, bssid.bytes.at 1, bssid.bytes.at 2, bssid.bytes.at 3] ∧
        bssid.bytes.drop 4 = [bssid.bytes.at 4, bssid.bytes.at 5] := by
    match bssid with
    | ⟨[_, _, _, _, _, _], _⟩ => exact ⟨rfl, rfl⟩
  rw [hbytes.1, hbytes.2, Bytes.leNat_four, ← Cam.leNat_two]
  exact ⟨Bytes.le_leNat [_, _, _, _], Bytes.le_leNat [_, _]⟩

theorem all_ok (ra ms : StatusCode) :
    (if [ra, ms].all (· = .ok) then StatusCode.ok else .other 0xFFFFFFFF) = .ok ↔
      ra = .ok ∧ ms = .ok := by
  simp

/-- A setup writes the BSSID it has copied and sends both commands, whatever becomes of the accesses
before them; it reports success exactly if both commands were accepted. -/
theorem setup_sent (bssid : Mac) :
    wp logged (Sent bssid) (doPostAssocSetup true bssid) [] := by
  obtain ⟨hlo, hhi⟩ := le_bssid bssid
  refine wp_logged.mpr fun lo => wp_logged.mpr fun hi => ?_
  refine wp_logged.mpr fun ra => wp_logged.mpr fun ms => ⟨lo, hi, ra, ms, ?_, ?_⟩
  · rw [hlo, hhi]
    rfl
  · exact all_ok ra ms

end PostAssoc
end Rtl8814au
