import Rtl8814au.Device.Delivery

/-!
# Device.HandshakeDone

The declared meaning of `kEapolDone`: keys installed, link is encrypted.

* `DoneIsKeyed`: that meaning, as a relation between the fields.
* `KeepsDone`: what a step must not do: finish a message 3 whose keys the chip does not take, or
  enter `_DoJoin` over a finished handshake without a new passphrase.
* `doneIsKeyed_step`: one step keeps the meaning exactly when it does neither.
* `done_run`: the same over runs.
-/

namespace Rtl8814au
namespace Device

open Crypto Spec

def DoneIsKeyed (d : Device) : Prop :=
  d.fEapolState = .kEapolDone → d.fCcmpEnabled = true ∧ d.fPtkValid = true ∧ d.fGtkValid = true

instance (d : Device) : Decidable d.DoneIsKeyed :=
  inferInstanceAs (Decidable (d.fEapolState = .kEapolDone → _))

/-- `_DoJoin` called with the state of the handshake left as it is. -/
def rejoins (d : Device) (request : Request) : Bool :=
  match request with
  | .mlme op _ _ _ => op = kMlmeAssoc
  | .haikuJoin => d.fJoinSsidLength ≠ 0
  | _ => false

def KeepsDone (d : Device) (e : Event) (env : Env) : Prop :=
  match e with
  | .eapolWorker =>
    d.Wakes → env.transmit = .ok → ∀ gtk ∈ d.inboxM3 env,
      Installs gtk env ∨ d.fCcmpEnabled = true ∧ d.fGtkValid = true
  | .control request =>
    d.fRemoved = false → d.rejoins request = true → d.fEapolState ≠ .kEapolDone
  | _ => True

instance (d : Device) (e : Event) (env : Env) : Decidable (d.KeepsDone e env) :=
  match e with
  | .eapolWorker => inferInstanceAs (Decidable (d.Wakes → _ → ∀ gtk ∈ d.inboxM3 env, _))
  | .control _ => inferInstanceAs (Decidable (_ → _ → _))
  | .write _ => inferInstanceAs (Decidable True)
  | .read _ => inferInstanceAs (Decidable True)
  | .rxFrame _ _ => inferInstanceAs (Decidable True)
  | .setRemoved => inferInstanceAs (Decidable True)

/-! ## The group key of a message 3 -/

theorem kdeWalk_keyId (plaintext : Bytes) (off : Nat) {found : GtkKde} (h : found.gtkKeyId ≤ 3) :
    (kdeWalk plaintext off found).gtkKeyId ≤ 3 := by
  have hmask : ∀ b : UInt8, b &&& 0x03 ≤ 3 := by
    intro b
    rw [UInt8.le_iff_toNat_le, UInt8.toNat_and]
    exact Nat.and_le_right
  induction off, found using kdeWalk.induct plaintext with
  | case1 off found hin elementLen hover =>
    rw [kdeWalk, if_pos hin]
    exact (congrArg (fun g : GtkKde => g.gtkKeyId ≤ 3) (if_pos hover)).mpr h
  | case2 off found hin elementLen hover ih =>
    rw [kdeWalk, if_pos hin]
    refine (congrArg (fun g : GtkKde => g.gtkKeyId ≤ 3) (if_neg hover)).mpr (ih ?_)
    split
    · exact hmask _
    · exact h
  | case3 off found hout =>
    rw [kdeWalk, if_neg hout]
    exact h

theorem verifyM3_keyId {d : Device} {frame : Bytes} {bodyLen keyDataLen : Nat} {env : Env}
    {gtk : GtkKde} (h : d.verifyM3 frame bodyLen keyDataLen env = some gtk) : gtk.gtkKeyId ≤ 3 := by
  unfold verifyM3 at h
  dsimp only at h
  split at h
  · cases h
  split at h
  · cases h
  split at h
  · cases h
  split at h
  · cases h
  split at h
  · cases h
  · cases h
    exact kdeWalk_keyId _ 0 (by decide)

theorem inboxM3_eq_some {d : Device} {env : Env} {gtk : GtkKde} (h : d.inboxM3 env = some gtk) :
    d.classify d.inboxPayload = some .m3 ∧ gtk.gtkKeyId ≤ 3 := by
  unfold inboxM3 at h
  split at h
  · rename_i hc
    exact ⟨hc, verifyM3_keyId h⟩
  · cases h

theorem classify_eq_m3 {d : Device} {payload : Bytes} (h : d.classify payload = some .m3) :
    d.fEapolState = .kEapolWaitM3 ∧ d.fPtkValid = true := by
  unfold classify at h
  split at h
  · cases h
  split at h
  · cases h
  split at h
  · cases h
  split at h
  · cases h
  split at h
  · rename_i hm3
    exact hm3.2
  · cases h

/-! ## One step -/

/-- The fields `DoneIsKeyed` is about. -/
def linkState (d : Device) : EapolState × Bool × Bool × Bool :=
  (d.fEapolState, d.fCcmpEnabled, d.fPtkValid, d.fGtkValid)

theorem doneIsKeyed_congr {d d' : Device} (h : d'.linkState = d.linkState) (hi : d.DoneIsKeyed) :
    d'.DoneIsKeyed := by
  obtain ⟨hstate, h⟩ := Prod.mk.inj h
  obtain ⟨hccmp, h⟩ := Prod.mk.inj h
  obtain ⟨hptk, hgtk⟩ := Prod.mk.inj h
  intro hdone
  rw [hccmp, hptk, hgtk]
  exact hi (hstate ▸ hdone)

theorem doneIsKeyed_of_state {d : Device} (h : d.fEapolState ≠ .kEapolDone) : d.DoneIsKeyed :=
  fun hdone => absurd hdone h

theorem doneIsKeyed_keyedM1 {d : Device} {payload : Bytes} {senderMac : Mac} {env : Env}
    (hi : d.DoneIsKeyed) : (d.keyedM1 payload senderMac env).DoneIsKeyed := by
  unfold keyedM1
  split
  · exact doneIsKeyed_congr (d := d) rfl hi
  · intro hdone
    obtain ⟨hccmp, -, hgtk⟩ := hi hdone
    exact ⟨hccmp, rfl, hgtk⟩

theorem doneIsKeyed_eapolWorker {d : Device} {env : Env} {out : Device × List Action}
    (hstep : EapolStep d env out) (hi : d.DoneIsKeyed) :
    out.1.DoneIsKeyed ↔ d.KeepsDone .eapolWorker env := by
  have htake : d.takeInbox.DoneIsKeyed := doneIsKeyed_congr (d := d) rfl hi
  have hm1 : d.classify d.inboxPayload = some .m1 → d.inboxM3 env = none := by
    intro hc
    exact if_neg (by rw [hc]; decide)
  -- Without a message 3 to finish there is nothing to keep from.
  have hquiet : ∀ {d' : Device}, d'.DoneIsKeyed → (d.Wakes → d.inboxM3 env = none) →
      (d'.DoneIsKeyed ↔ d.KeepsDone .eapolWorker env) := by
    intro d' hdone hnone
    constructor
    · intro _ hw _ gtk hgtk
      rw [hnone hw] at hgtk
      cases hgtk
    · intro _
      exact hdone
  cases hstep with
  | idle hw => exact hquiet hi fun h => absurd h hw
  | ignored hw hc hm3 => exact hquiet htake fun _ => hm3
  | noted hw hc hpmk =>
    exact hquiet (doneIsKeyed_congr (d := d.takeInbox) rfl htake) fun _ => hm1 hc
  | unanswered hw hc hpmk => exact hquiet (doneIsKeyed_keyedM1 htake) fun _ => hm1 hc
  | answered hw hc hpmk =>
    exact hquiet (doneIsKeyed_of_state (show EapolState.kEapolWaitM3 ≠ _ by decide)) fun _ => hm1 hc
  | m4Lost gtk hw hm3 ht =>
    exact ⟨fun _ _ hok => absurd hok ht, fun _ => htake⟩
  | installed gtk hw hm3 ht hinst =>
    obtain ⟨hc, hid⟩ := inboxM3_eq_some hm3
    constructor
    · intro _ _ _ gtk' hgtk
      rw [hm3] at hgtk
      obtain rfl := Option.some.inj hgtk
      exact .inl ((installSessionKeys_iff hid).mp hinst)
    · intro _ _
      exact ⟨rfl, (classify_eq_m3 hc).2, rfl⟩
  | installFailed gtk hw hm3 ht hfail =>
    obtain ⟨hc, hid⟩ := inboxM3_eq_some hm3
    constructor
    · intro hdone _ _ gtk' hgtk
      obtain ⟨hccmp, -, hvalid⟩ := hdone rfl
      exact .inr ⟨hccmp, hvalid⟩
    · intro hkeep _
      rcases hkeep hw ht gtk hm3 with hinst | ⟨hccmp, hvalid⟩
      · exact absurd ((installSessionKeys_iff hid).mpr hinst) hfail
      · exact ⟨hccmp, (classify_eq_m3 hc).2, hvalid⟩

theorem rejoins_eq_true {d d1 : Device} {request : Request} {bssid : Mac} {ssid : Bytes}
    {ssidLen : Nat} (h : d.Joins request d1 bssid ssid ssidLen) :
    d1.fEapolState ≠ .kEapolDone ∧ d.rejoins request = false ∨
      d1 = d ∧ d.rejoins request = true := by
  cases h with
  | mlme => exact .inr ⟨rfl, rfl⟩
  | passphrase bssid ssidLen ssid passphraseLen passphrase =>
    refine .inl ⟨?_, rfl⟩
    rw [(d.takesPassphrase bssid ssidLen ssid passphraseLen passphrase).eapolState]
    decide
  | again hset => exact .inr ⟨rfl, decide_eq_true hset⟩

theorem rejoins_entersJoin {d : Device} {request : Request} (h : d.rejoins request = true) :
    d.entersJoin request = true := by
  cases request with
  | mlme => exact h
  | haikuJoin => exact h
  | _ => cases h

theorem rejoins_settings {d : Device} {request : Request} (h : d.isSettings request = true) :
    d.rejoins request = false := by
  rw [← Bool.not_eq_true]
  intro hrejoin
  have henters := rejoins_entersJoin hrejoin
  rw [entersJoin_settings h] at henters
  cases henters

/-- `_DoJoin` turns the encryption off. -/
theorem doneIsKeyed_join {d d' : Device} (hstate : d'.fEapolState = d.fEapolState)
    (hccmp : d'.fCcmpEnabled = false) : d'.DoneIsKeyed ↔ d.fEapolState ≠ .kEapolDone := by
  constructor
  · intro hi hdone
    have henabled := (hi (hstate.trans hdone)).1
    rw [hccmp] at henabled
    cases henabled
  · intro hstate'
    exact doneIsKeyed_of_state (hstate ▸ hstate')

theorem doneIsKeyed_joins {d d1 d' : Device} {request : Request} {bssid : Mac} {ssid : Bytes}
    {ssidLen : Nat} {env : Env} (hr : d.fRemoved = false)
    (hj : d.Joins request d1 bssid ssid ssidLen) (hstate : d'.fEapolState = d1.fEapolState)
    (hccmp : d'.fCcmpEnabled = false) : d'.DoneIsKeyed ↔ d.KeepsDone (.control request) env := by
  rw [doneIsKeyed_join hstate hccmp]
  rcases rejoins_eq_true hj with ⟨hne, hfalse⟩ | ⟨rfl, htrue⟩
  · constructor
    · intro _ _ hrejoin
      rw [hfalse] at hrejoin
      cases hrejoin
    · exact fun _ => hne
  · exact ⟨fun hne _ _ => hne, fun hkeep => hkeep hr htrue⟩

theorem doneIsKeyed_control {d : Device} {request : Request} {env : Env} {out : Device × List Action}
    (hstep : ControlStep d request env out) (hi : d.DoneIsKeyed) :
    out.1.DoneIsKeyed ↔ d.KeepsDone (.control request) env := by
  have hquiet : ∀ {d' : Device}, d'.DoneIsKeyed → (d.fRemoved = false → d.rejoins request = false) →
      (d'.DoneIsKeyed ↔ d.KeepsDone (.control request) env) := by
    intro d' hdone hno
    constructor
    · intro _ hr hrejoin
      rw [hno hr] at hrejoin
      cases hrejoin
    · intro _
      exact hdone
  cases hstep with
  | settings ssid ssidLen wpaIe wpaIeLen privacy drop hs =>
    exact hquiet (doneIsKeyed_congr (d := d) rfl hi) fun hr => rejoins_settings (hs hr)
  | bssid data hr hq hlen =>
    subst hq
    exact hquiet (doneIsKeyed_congr (d := d) rfl hi) fun _ => rfl
  | disconnected op macaddr ssidLen ssid hr hq hop =>
    subst hq
    refine hquiet (doneIsKeyed_congr (d := d) rfl hi) fun _ => decide_eq_false ?_
    rcases hop with rfl | rfl
    · decide
    · decide
  | keyHeld keyix macaddr keydata hr hq hincomplete =>
    subst hq
    refine hquiet (doneIsKeyed_congr (d := d) ?_ hi) fun _ => rfl
    obtain ⟨tk, tkValid, bssid, gtk, gtkId, gtkValid, heq⟩ := d.holdKey_device keyix macaddr keydata
    rw [heq]
    rfl
  | keysArmed keyix macaddr keydata hr hq hcomplete =>
    subst hq
    exact hquiet (fun _ => ⟨rfl, rfl, rfl⟩) fun _ => rfl
  | unresolved d1 bssid ssid ssidLen hr hj ht => exact doneIsKeyed_joins hr hj rfl rfl
  | joining d1 bssid target ssid ssidLen hr hj ht => exact doneIsKeyed_joins hr hj rfl rfl

theorem doneIsKeyed_rxFrame {d : Device} {frame : Bytes} {env : Env} {out : Device × List Action}
    (h : RxStep d frame env out) (hi : d.DoneIsKeyed) : out.1.DoneIsKeyed := by
  have hkeeps := h.keepsKeys
  refine doneIsKeyed_congr ?_ hi
  unfold linkState
  rw [hkeeps.eapolState, hkeeps.ccmpEnabled, hkeeps.ptkValid, hkeeps.gtkValid]

theorem doneIsKeyed_step {d d' : Device} {e : Event} {env : Env} {actions : List Action}
    (hi : d.DoneIsKeyed) (h : d.step e env = some (d', actions)) :
    d'.DoneIsKeyed ↔ d.KeepsDone e env := by
  cases step_cases h with
  | dataPath e he removed ring tail pn actions =>
    refine iff_of_true (doneIsKeyed_congr (d := d) rfl hi) ?_
    cases e with
    | eapolWorker => cases he
    | control request => cases he
    | _ => trivial
  | rxFrame frame isC2H hc hrx => exact iff_of_true (doneIsKeyed_rxFrame hrx hi) trivial
  | eapolWorker hworker => exact doneIsKeyed_eapolWorker hworker hi
  | control request hcontrol => exact doneIsKeyed_control hcontrol hi

end Device

namespace System

/-- Over a run, `kEapolDone` keeps its meaning exactly as long as every step does. -/
theorem done_run {mac : Mac} {es : List (Event × Env)} {s : System}
    (hr : Lts.run next (init mac) es = some s) :
    Lts.Always next (fun s => s.device.DoneIsKeyed) (init mac) es ↔
      Lts.Meets next (fun s e => s.device.KeepsDone e.1 e.2) (init mac) es := by
  refine Lts.always_iff_meets ?_ (fun h => by cases h) hr
  intro s s' e hi hn
  obtain ⟨actions, hstep, -⟩ := next_eq_some hn
  exact Device.doneIsKeyed_step hi hstep

/-! ### A handshake whose keys the chip takes, and one whose keys it does not -/

theorem done_run_sampleHandshake :
    ∃ s, Lts.run next (init sampleMac) (sampleHandshake sampleEnv) = some s ∧
      s.device.fEapolState = .kEapolDone ∧
        (Lts.Always next (fun s => s.device.DoneIsKeyed) (init sampleMac)
            (sampleHandshake sampleEnv) ↔
          Lts.Meets next (fun s e => s.device.KeepsDone e.1 e.2) (init sampleMac)
            (sampleHandshake sampleEnv)) := by
  obtain ⟨s, hs, -, hdone, -⟩ := run_sampleHandshake sampleEnv rfl
  exact ⟨s, hs, hdone, done_run hs⟩

/-- The registers of the chip cannot be written when message 3 comes. -/
def brokenEnv : Env := { sampleEnv with registers := .error }

theorem done_run_brokenRegisters :
    ¬ ∀ mac es s, Lts.run next (init mac) es = some s → s.device.fEapolState = .kEapolDone →
      s.device.fCcmpEnabled = true ∧ s.device.fPtkValid = true ∧ s.device.fGtkValid = true := by
  intro hclaim
  obtain ⟨s, hs, -, hdone, hccmp⟩ := run_sampleHandshake brokenEnv rfl
  have henabled := (hclaim _ _ s hs hdone).1
  rw [hccmp] at henabled
  exact absurd henabled (by decide)

end System
end Rtl8814au
