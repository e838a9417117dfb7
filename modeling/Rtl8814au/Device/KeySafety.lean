import Rtl8814au.Device.KeyState

/-!
# Device.KeySafety

Runs of the device, in terms of its data keys.

* `nonces_distinct`: no packet number repeats under a temporal key, if a key is only put in force
  before `Write` encrypts anything under it.
* `installed_key_intact`: the TK in use is the one installed last, if no PTK is derived while CCMP
  is enabled.
* `encrypted_while_inForce`: from the installation of keys to the next join request, `Write` sends
  nothing but EAPOL in the clear.
-/

namespace Rtl8814au
namespace System

open Crypto

/-! ## Sample steps -/

def sampleMac : Mac := ⟨[2, 0, 0, 0, 0, 2], rfl⟩

def sampleBssid : Mac := ⟨[2, 0, 0, 0, 0, 1], rfl⟩

def sampleEnv : Env where
  transmit := .ok
  registers := .ok
  snonce := Buf.zero 32
  bss := none
  is5GHz := false
  stack := []
  m3copy := Buf.zero 300

def sampleResponse (fc : UInt8) (body : Bytes) : Bytes :=
  [fc, 0, 0, 0] ++ sampleMac.bytes ++ sampleBssid.bytes ++ sampleBssid.bytes ++ [0, 0] ++ body

/-- An RSN association from the first request to `kJoinConnected`. -/
def sampleJoin : List (Event × Env) :=
  [.control (.appie Device.sRsnIeCcmpPsk), .control (.privacy 1),
    .control (.mlme Device.kMlmeAssoc sampleBssid 3 (Buf.ofBytes 32 [0x6E, 0x65, 0x74])),
    .rxFrame (sampleResponse 0xB0 [0, 0, 2, 0, 0, 0]) false,
    .rxFrame (sampleResponse 0x10 [0x11, 0, 0, 0, 1, 0xC0]) false].map fun e => (e, sampleEnv)

def sampleWrite : Event × Env :=
  (.write (sampleBssid.bytes ++ sampleMac.bytes ++ [0x08, 0x00, 1, 2, 3, 4]), sampleEnv)

def sampleTk : Block := Buf.ofBytes 16 [1]

def samplePairwise : Event × Env :=
  (.control (.wpaKey Device.kKeyixNone 16 sampleBssid sampleTk), sampleEnv)

def sampleGroup : Event × Env := (.control (.wpaKey 1 16 sampleBssid (Buf.zero 16)), sampleEnv)

/-! ## Packet numbers -/

/-- A key this step puts in force (derived from a message 1, accepted with a message 3, or completed
by `IOC_WPAKEY`) has not been used by `Write`. -/
def FreshKeys (s : System) (e : Event × Env) : Prop :=
  s.ledger.Fresh (s.device.keyEvent e.1 e.2)

instance (s : System) (e : Event × Env) : Decidable (s.FreshKeys e) :=
  inferInstanceAs (Decidable (s.ledger.Fresh _))

theorem ledger_init (mac : Mac) : (init mac).ledger.Inv :=
  ⟨fun _ => ⟨0, rfl⟩, 1, rfl, rfl⟩

theorem nonces_distinct {mac : Mac} {es : List (Event × Env)} {s : System}
    (hm : Lts.Meets next FreshKeys (init mac) es) (hr : Lts.run next (init mac) es = some s)
    (hlen : ∀ tk, ((usedNonces s.log).filter fun u => u.1 = tk).length < 2 ^ 48) :
    ((usedNonces s.log).map fun u => (u.1, u.2.toNat % 2 ^ 48)).Nodup := by
  have hinv : s.ledger.Inv := by
    refine Lts.run_invariant (I := fun s => s.ledger.Inv) ?_ (ledger_init mac) hm hr
    intro s s' e hi hfresh hn
    rw [ledger_next hn]
    exact KeyLedger.inv_next hi hfresh
  refine hinv.nodup_used fun tk => ?_
  rw [KeyLedger.Ledger.numbers, List.length_map]
  exact hlen tk

def sampleRun : List (Event × Env) :=
  sampleJoin ++ [samplePairwise, sampleGroup, sampleWrite, sampleWrite]

theorem nonces_distinct_sampleRun :
    ∃ s, Lts.run next (init sampleMac) sampleRun = some s ∧ (usedNonces s.log).length = 2 ∧
      ((usedNonces s.log).map fun u => (u.1, u.2.toNat % 2 ^ 48)).Nodup := by
  have hused : (Lts.run next (init sampleMac) sampleRun).map (fun s => usedNonces s.log) =
      some [(sampleTk, 1), (sampleTk, 2)] := by decide +kernel
  obtain ⟨s, hr, hu⟩ := Option.map_eq_some_iff.mp hused
  refine ⟨s, hr, by rw [hu]; rfl, nonces_distinct (by decide +kernel) hr ?_⟩
  intro tk
  rw [hu]
  exact Nat.lt_of_le_of_lt (List.length_filter_le _ _) (by decide)

/-- The supplicant delivers a new group key, and the packet number of the pairwise key restarts. -/
def groupRekeyRun : List (Event × Env) :=
  sampleJoin ++ [samplePairwise, sampleGroup, sampleWrite, sampleGroup, sampleWrite]

theorem nonces_distinct_groupRekey :
    ∃ s, Lts.run next (init sampleMac) groupRekeyRun = some s ∧
      (∀ tk, ((usedNonces s.log).filter fun u => u.1 = tk).length < 2 ^ 48) ∧
      ¬ ((usedNonces s.log).map fun u => (u.1, u.2.toNat % 2 ^ 48)).Nodup := by
  have hused : (Lts.run next (init sampleMac) groupRekeyRun).map (fun s => usedNonces s.log) =
      some [(sampleTk, 1), (sampleTk, 1)] := by decide +kernel
  obtain ⟨s, hr, hu⟩ := Option.map_eq_some_iff.mp hused
  refine ⟨s, hr, ?_, by rw [hu]; decide⟩
  intro tk
  rw [hu]
  exact Nat.lt_of_le_of_lt (List.length_filter_le _ _) (by decide)

/-! ## The installed key -/

/-- No PTK is derived while CCMP is enabled. -/
def GuardedKeys (s : System) (e : Event × Env) : Prop :=
  s.ledger.Guarded (s.device.keyEvent e.1 e.2)

instance (s : System) (e : Event × Env) : Decidable (s.GuardedKeys e) :=
  inferInstanceAs (Decidable (s.ledger.Guarded _))

/-- Only an installation changes the TK while CCMP is enabled. -/
def KeepsTk (s : System) (e : Event × Env) : Prop :=
  s.device.fCcmpEnabled = true → ∀ d' actions, s.device.step e.1 e.2 = some (d', actions) →
    installedKeys actions = [] → d'.tk = s.device.tk

theorem keepsTk_of_guarded {s : System} {e : Event × Env} (h : s.GuardedKeys e) : s.KeepsTk e := by
  intro hen d' actions hstep hnone
  have hr := Device.step_refines hstep
  have htk : d'.tk = (s.device.keyState.next (s.device.keyEvent e.1 e.2)).key :=
    congrArg KeyLedger.State.key hr.state
  have hinst := hr.installs
  unfold GuardedKeys at h
  rw [htk]
  cases hke : s.device.keyEvent e.1 e.2 with
  | idle => rfl
  | encrypt => rfl
  | rederive key =>
    rw [hke] at h
    have hoff : s.device.fCcmpEnabled = false := h
    rw [hoff] at hen
    cases hen
  | install key =>
    rw [hke, hnone] at hinst
    cases hinst
  | clear => rfl

theorem installed_key_intact {mac : Mac} {es : List (Event × Env)} {s : System}
    (hm : Lts.Meets next GuardedKeys (init mac) es) (hr : Lts.run next (init mac) es = some s) :
    (s.device.fCcmpEnabled = true → (installedKeys s.log).getLast? = some s.device.tk) ∧
      Lts.Meets next KeepsTk (init mac) es := by
  constructor
  · have hinv : s.ledger.Intact := by
      refine Lts.run_invariant (I := fun s => s.ledger.Intact) ?_ (fun h => by cases h) hm hr
      intro s s' e hi hguard hn
      rw [ledger_next hn]
      exact KeyLedger.intact_next hi hguard
    exact hinv
  · exact Lts.meets_of_invariant (I := fun _ => True) (fun _ _ _ => trivial)
      (fun _ hg => keepsTk_of_guarded hg) trivial hm

/-- While CCMP is off, any message 1 may be answered. -/
theorem guardedKeys_of_off {s : System} {e : Event × Env} (h : s.device.fCcmpEnabled = false) :
    s.GuardedKeys e := by
  unfold GuardedKeys
  cases s.device.keyEvent e.1 e.2 with
  | rederive key => exact h
  | idle | encrypt | install key | clear => trivial

/-! ### A forged message 1 -/

theorem wpaKey_fPmk (d : Device) (keyix : UInt16) (keylen : UInt8) (macaddr : Mac)
    (keydata : Block) (env : Env) :
    (d.wpaKey keyix keylen macaddr keydata env).device.fPmk = d.fPmk := by
  have hhold : (d.holdKey keyix macaddr keydata).fPmk = d.fPmk := by
    unfold Device.holdKey
    split <;> rfl
  unfold Device.wpaKey
  split
  · rfl
  dsimp only
  split
  · exact hhold
  · split
    · exact hhold
    · exact hhold

theorem rxData_fPmk {d d' : Device} {frame : Bytes} {actions : List Action}
    (h : d.rxData frame = some (d', actions)) : d'.fPmk = d.fPmk := by
  unfold Device.rxData at h
  split at h
  · cases h
    rfl
  unfold Device.rxDeliver at h
  split at h
  · cases h
    rfl
  · cases h
    rfl
  · split at h
    · cases h
    · cases h
      unfold Device.enqueue Device.makeRoom
      split <;> rfl

/-- A supplicant's key or a data frame. -/
def LeavesPmk : Event → Prop
  | .control (.wpaKey _ _ _ _) => True
  | .rxFrame frame _ => Device.frameType frame = 2
  | _ => False

theorem next_fPmk {s s' : System} {e : Event × Env} (hk : LeavesPmk e.1) (h : s.next e = some s') :
    s'.device.fPmk = s.device.fPmk := by
  obtain ⟨actions, hstep, -⟩ := next_eq_some h
  obtain ⟨e, env⟩ := e
  unfold LeavesPmk at hk
  split at hk
  · rename_i keyix keylen macaddr keydata he
    subst he
    obtain ⟨hd, -⟩ := Prod.mk.inj (Option.some.inj hstep)
    rw [← hd]
    unfold Device.control
    split
    · rfl
    · exact wpaKey_fPmk s.device keyix keylen macaddr keydata env
  · rename_i frame isC2H he
    subst he
    simp only [Device.step, Device.rxFrameReceived, hk] at hstep
    split at hstep
    · exact congrArg (fun r => r.1.fPmk) (Option.some.inj hstep.symm)
    split at hstep
    · exact congrArg (fun r => r.1.fPmk) (Option.some.inj hstep.symm)
    exact rxData_fPmk hstep
  · cases hk

def sampleNonce : Buf 32 := Buf.ofBytes 32 [1]

def sampleM1 : Bytes :=
  sampleResponse 0x08 (Device.llcSnap Device.etherTypeEapol ++
    Device.eapolKeyFrame 0x008A (Bytes.be 8 1) sampleNonce.bytes (Bytes.zeros 16) [])

/-- The join of `sampleJoin`, asked for with a passphrase. -/
def samplePskJoin : List (Event × Env) :=
  [.control (.haikuJoinPsk sampleBssid 3 (Buf.ofBytes 32 [0x6E, 0x65, 0x74]) 8
      (Buf.ofBytes 64 (List.replicate 8 0x70))),
    .rxFrame (sampleResponse 0xB0 [0, 0, 2, 0, 0, 0]) false,
    .rxFrame (sampleResponse 0x10 [0x11, 0, 0, 0, 1, 0xC0]) false].map fun e => (e, sampleEnv)

/-- A supplicant's keys, the pairwise one `tk`, and a message 1 in the inbox. -/
def awaitM1 (tk : Block) : List (Event × Env) :=
  [(.control (.wpaKey Device.kKeyixNone 16 sampleBssid tk), sampleEnv), sampleGroup,
    (.rxFrame sampleM1 false, sampleEnv)]

def forgedM1Run (tk : Block) : List (Event × Env) :=
  samplePskJoin ++ awaitM1 tk ++ [(.eapolWorker, sampleEnv)]

/-- The keys are installed, and the message 1 waiting is one to derive a PTK from. -/
structure ForgedM1 (tk : Block) (s : System) : Prop where
  present : s.device.fRemoved = false
  pending : s.device.fEapolPending = true
  enabled : s.device.fCcmpEnabled = true
  installs : installedKeys s.log = [tk]
  isM1 : s.device.classify s.device.inboxPayload = some .m1
  rederives : s.device.rederives s.device.inboxPayload = true
  sender : s.device.fEapolInbox.senderMac = sampleBssid
  address : s.device.fMacAddress = sampleMac
  nonce : Device.keyNonce s.device.inboxPayload = sampleNonce

instance (tk : Block) (s : System) : Decidable (ForgedM1 tk s) :=
  decidable_of_iff (s.device.fRemoved = false ∧ s.device.fEapolPending = true ∧
      s.device.fCcmpEnabled = true ∧ installedKeys s.log = [tk] ∧
      s.device.classify s.device.inboxPayload = some .m1 ∧
      s.device.rederives s.device.inboxPayload = true ∧
      s.device.fEapolInbox.senderMac = sampleBssid ∧ s.device.fMacAddress = sampleMac ∧
      Device.keyNonce s.device.inboxPayload = sampleNonce)
    ⟨fun ⟨h1, h2, h3, h4, h5, h6, h7, h8, h9⟩ => ⟨h1, h2, h3, h4, h5, h6, h7, h8, h9⟩,
      fun ⟨h1, h2, h3, h4, h5, h6, h7, h8, h9⟩ => ⟨h1, h2, h3, h4, h5, h6, h7, h8, h9⟩⟩

def sampleDerivedTk (pmk : Buf 32) : Block :=
  ⟨(prf384 pmk.bytes Device.ptkLabel (Device.ptkData sampleBssid.bytes sampleMac.bytes
    sampleNonce.bytes sampleEnv.snonce.bytes)).bytes.slice 32 16, Bytes.length_slice (by simp)⟩

theorem next_forgedM1 {s s' : System} {tk : Block} (h : ForgedM1 tk s)
    (hn : s.next (.eapolWorker, sampleEnv) = some s') :
    s'.device.fCcmpEnabled = true ∧ installedKeys s'.log = [tk] ∧
      s'.device.tk = sampleDerivedTk s.device.fPmk := by
  have hevent : s.device.keyEvent .eapolWorker sampleEnv =
      .rederive (sampleDerivedTk s.device.fPmk) := by
    have hderived : (s.device.derivedDevice s.device.inboxPayload sampleBssid sampleEnv).tk =
        sampleDerivedTk s.device.fPmk := by
      simp only [Device.derivedDevice, Device.derivePtk, Device.noteM1, h.nonce, h.address]
      rfl
    simp only [Device.keyEvent, Device.workerEvent, Device.eapolEvent, h.present, h.pending, h.isM1,
      h.rederives, h.sender, hderived, and_self, ↓reduceIte]
  have hledger := ledger_next hn
  rw [hevent] at hledger
  refine ⟨(congrArg (fun l => l.state.enabled) hledger).trans h.enabled, ?_,
    congrArg (fun l => l.state.key) hledger⟩
  exact (congrArg KeyLedger.Ledger.installs hledger).trans
    ((List.append_nil _).trans h.installs)

theorem awaitM1_leavesPmk (s : System) (tk : Block) :
    Lts.Meets next (fun _ e => LeavesPmk e.1) s (awaitM1 tk) := by
  have htype : Device.frameType sampleM1 = 2 := by decide +kernel
  simp only [awaitM1, Lts.Meets, LeavesPmk, sampleGroup, htype, and_self, implies_true]

/-- The TK after `forgedM1Run` does not depend on the installed one. -/
theorem run_forgedM1 {s : System} (tk : Block)
    (hj : Lts.run next (init sampleMac) samplePskJoin = some s)
    (h : ∃ t ∈ Lts.run next (init sampleMac) (samplePskJoin ++ awaitM1 tk), ForgedM1 tk t) :
    ∃ s', Lts.run next (init sampleMac) (forgedM1Run tk) = some s' ∧
      s'.device.fCcmpEnabled = true ∧ installedKeys s'.log = [tk] ∧
      s'.device.tk = sampleDerivedTk s.device.fPmk := by
  obtain ⟨t, ht, hforged⟩ := h
  rw [Option.mem_def] at ht
  have hpmk : t.device.fPmk = s.device.fPmk := by
    have hawait : Lts.run next s (awaitM1 tk) = some t := by
      rwa [Lts.run_append, hj, Option.bind_some] at ht
    refine Lts.run_invariant (I := fun t => t.device.fPmk = s.device.fPmk)
      (C := fun _ e => LeavesPmk e.1) ?_ rfl (awaitM1_leavesPmk s tk) hawait
    intro t t' e hi hk hn
    rw [next_fPmk hk hn, hi]
  obtain ⟨t', hn⟩ : ∃ t', t.next (.eapolWorker, sampleEnv) = some t' := by
    simp only [next, Device.step, Option.map_some]
    exact ⟨_, rfl⟩
  rw [← hpmk]
  refine ⟨t', ?_, next_forgedM1 hforged hn⟩
  unfold forgedM1Run
  rw [Lts.run_append, ht]
  simp only [Option.bind_some, Lts.run, hn]

theorem installed_key_intact_forgedM1 :
    ¬ ∀ tk s, Lts.run next (init sampleMac) (forgedM1Run tk) = some s →
      s.device.fCcmpEnabled = true → (installedKeys s.log).getLast? = some s.device.tk := by
  intro hclaim
  obtain ⟨s, hj⟩ := Option.isSome_iff_exists.mp
    (show (Lts.run next (init sampleMac) samplePskJoin).isSome = true by decide +kernel)
  obtain ⟨s1, hr1, hen1, hi1, htk1⟩ := run_forgedM1 sampleTk hj (by decide +kernel)
  obtain ⟨s2, hr2, hen2, hi2, htk2⟩ := run_forgedM1 (Buf.zero 16) hj (by decide +kernel)
  have h1 := hclaim _ s1 hr1 hen1
  have h2 := hclaim _ s2 hr2 hen2
  rw [hi1, htk1] at h1
  rw [hi2, htk2] at h2
  exact absurd (h1.trans h2.symm) (by decide)

/-! ## Frames in the clear -/

/-- In this step, if `W` holds, the frames of `Write` are encrypted or EAPOL. -/
def EncryptsWhen (W : System → Prop) (s : System) (e : Event × Env) : Prop :=
  W s → ∀ d' actions, s.device.step e.1 e.2 = some (d', actions) → s.device.Sealed actions

theorem encrypted_while_inForce (mac : Mac) (es : List (Event × Env)) :
    Lts.Meets next (EncryptsWhen fun s => keysInForce false s.log = true) (init mac) es := by
  refine Lts.meets_of_invariant (I := fun s => s.device.fCcmpEnabled = keysInForce false s.log)
    (fun hi _ hn => inForce_next hn hi) ?_ rfl (Lts.meets_true _ es)
  intro s e hi _ hforce d' actions hstep
  exact (Device.step_refines hstep).isSealed (hi.trans hforce)

/-- An association request with the stored RSN IE was the last one. -/
def rsnAssociation (log : List Action) : Bool :=
  log.foldl (fun b a =>
    match a with
    | .transmitAssocRequest _ haveRsnIe => haveRsnIe
    | _ => b) false

def sampleClearFrame : Bytes :=
  Device.dataHeader sampleBssid.bytes sampleMac.bytes sampleBssid.bytes ++ Device.llcSnap 0x0800 ++
    [1, 2, 3, 4]

theorem encrypted_while_inForce_beforeKeys :
    ¬ Lts.Meets next (EncryptsWhen fun s => s.device.fJoinState = .kJoinConnected ∧
        rsnAssociation s.log = true) (init sampleMac) (sampleJoin ++ [sampleWrite]) := by
  have hrun : (Lts.run next (init sampleMac) sampleJoin).map (fun s =>
      (s.device.fJoinState, rsnAssociation s.log,
        (s.device.step sampleWrite.1 sampleWrite.2).map Prod.snd)) =
      some (.kJoinConnected, true, some [.transmitData 0x0800 sampleClearFrame]) := by decide +kernel
  obtain ⟨s, hr, hs⟩ := Option.map_eq_some_iff.mp hrun
  obtain ⟨hconn, hs⟩ := Prod.mk.inj hs
  obtain ⟨hrsn, hs⟩ := Prod.mk.inj hs
  obtain ⟨⟨d', actions⟩, hstep, hactions⟩ := Option.map_eq_some_iff.mp hs
  change actions = _ at hactions
  intro hm
  obtain ⟨hseal, -⟩ := (Lts.meets_append.mp hm).2 s hr
  have hin := (hseal ⟨hconn, hrsn⟩ d' actions hstep 0x0800 sampleClearFrame
    (by rw [hactions]; exact List.mem_singleton.mpr rfl) (by decide)).1
  rw [hactions] at hin
  cases List.mem_singleton.mp hin

end System
end Rtl8814au
