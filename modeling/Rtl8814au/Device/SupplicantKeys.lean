import Rtl8814au.Device.KeySafety
import Rtl8814au.Device.Steps

/-!
# Device.SupplicantKeys

Keys of an external supplicant, over any number of joins.

* `Delivered`: the history, which is the last pairwise and the last group key delivered since the
  last call of `_DoJoin`.
* `InstallsDelivered`: an `IOC_WPAKEY` that installs keys installs those two.
* `FreshHalf`: what it takes: the key that is not delivered by this call, when it is held at all,
  was delivered since the last join.
* `supplicant_keys_current`: the two are the same over every run.
-/

namespace Rtl8814au

open Crypto

structure Delivered where
  tk : Option Block
  gtk : Option (Block × UInt8)
deriving DecidableEq

def Delivered.empty : Delivered := { tk := none, gtk := none }

namespace Device

/-- What a call adds to the history: `_DoJoin` starts it anew. -/
def recordKeys (d : Device) (e : Event) (h : Delivered) : Delivered :=
  match e with
  | .control (.wpaKey keyix keylen _ keydata) =>
    if d.fRemoved ∨ keylen ≠ 16 then h
    else if keyix = kKeyixNone then { h with tk := some keydata }
    else { h with gtk := some (keydata, keyix.toUInt8 &&& 0x03) }
  | .control request => if d.fRemoved = false ∧ d.entersJoin request then .empty else h
  | _ => h

/-- The call installed no keys and left the encryption as it was, or it installed the last pairwise
and the last group key of the history. -/
def InstalledFrom (d : Device) (h : Delivered) (r : Reply) : Prop :=
  installedKeys r.actions = [] ∧ r.device.fCcmpEnabled = d.fCcmpEnabled ∨
    h.tk = some r.device.tk ∧ h.gtk = some (r.device.fGtk, r.device.fGtkKeyId)

instance (d : Device) (h : Delivered) (r : Reply) : Decidable (d.InstalledFrom h r) :=
  inferInstanceAs (Decidable (_ ∧ _ ∨ _ ∧ _))

def InstallsDelivered (d : Device) (e : Event) (env : Env) (h : Delivered) : Prop :=
  match e with
  | .control (.wpaKey keyix keylen macaddr keydata) =>
    d.InstalledFrom h (d.control (.wpaKey keyix keylen macaddr keydata) env)
  | _ => True

instance (d : Device) (e : Event) (env : Env) (h : Delivered) :
    Decidable (d.InstallsDelivered e env h) := by
  unfold InstallsDelivered
  split <;> infer_instance

def FreshHalf (d : Device) (e : Event) (env : Env) (h : Delivered) : Prop :=
  match e with
  | .control (.wpaKey keyix keylen _ _) =>
    d.fRemoved = false → keylen = 16 → env.registers = .ok →
      if keyix = kKeyixNone then d.fSupplicantGtkValid = true → h.gtk.isSome = true
      else d.fSupplicantTkValid = true → h.tk.isSome = true
  | _ => True

/-! ## The keys of the history are held -/

structure Holds (d : Device) (h : Delivered) : Prop where
  tk : ∀ k, h.tk = some k → d.fSupplicantTkValid = true ∧ d.fSupplicantTk = k
  gtk : ∀ k keyId, h.gtk = some (k, keyId) →
    d.fSupplicantGtkValid = true ∧ d.fSupplicantGtk = k ∧ d.fSupplicantGtkId = keyId
  gtkId : d.fSupplicantGtkId ≤ 3

theorem Holds.congr {d d' : Device} {h : Delivered} (hi : Holds d h)
    (heq : d'.supplicantKeys = d.supplicantKeys) : Holds d' h := by
  simp only [supplicantKeys, Prod.mk.injEq] at heq
  obtain ⟨h1, h2, h3, h4, h5⟩ := heq
  constructor
  · rw [h1, h2]
    exact hi.tk
  · rw [h3, h4, h5]
    exact hi.gtk
  · rw [h4]
    exact hi.gtkId

theorem Holds.clear {d : Device} {h : Delivered} (hi : Holds d h) : Holds d .empty := by
  refine ⟨?_, ?_, hi.gtkId⟩
  · intro k hk
    cases hk
  · intro k keyId hk
    cases hk

theorem recordKeys_wpaKey {d : Device} {keyix : UInt16} {macaddr : Mac} {keydata : Block}
    {h : Delivered} (hr : d.fRemoved = false) :
    d.recordKeys (.control (.wpaKey keyix 16 macaddr keydata)) h =
      if keyix = kKeyixNone then { h with tk := some keydata }
      else { h with gtk := some (keydata, keyix.toUInt8 &&& 0x03) } := by
  unfold recordKeys
  exact if_neg (by simp [hr])

/-- A delivered key is held from then on. -/
theorem Holds.holdKey {d : Device} {h : Delivered} (hi : Holds d h) (hr : d.fRemoved = false)
    (keyix : UInt16) (macaddr : Mac) (keydata : Block) :
    Holds (d.holdKey keyix macaddr keydata)
      (d.recordKeys (.control (.wpaKey keyix 16 macaddr keydata)) h) := by
  rw [recordKeys_wpaKey hr]
  unfold Device.holdKey
  by_cases hpair : keyix = kKeyixNone
  · rw [if_pos hpair, if_pos hpair]
    refine ⟨?_, hi.gtk, hi.gtkId⟩
    intro k hk
    exact ⟨rfl, Option.some.inj hk⟩
  · rw [if_neg hpair, if_neg hpair]
    refine ⟨hi.tk, ?_, ?_⟩
    · intro k keyId hk
      obtain ⟨hkey, hid⟩ := Prod.mk.inj (Option.some.inj hk)
      exact ⟨rfl, hkey, hid⟩
    · show keyix.toUInt8 &&& 0x03 ≤ 3
      rw [UInt8.le_iff_toNat_le, UInt8.toNat_and]
      exact Nat.and_le_right

/-- Any other event leaves the keys alone, and the history or an empty one. -/
theorem recordKeys_other {d : Device} {e : Event} {h : Delivered}
    (hno : ∀ keyix macaddr keydata, d.fRemoved = false →
      e ≠ .control (.wpaKey keyix 16 macaddr keydata)) :
    d.recordKeys e h = h ∨ d.recordKeys e h = .empty := by
  unfold recordKeys
  split
  · rename_i keyix keylen macaddr keydata
    left
    refine if_pos ?_
    by_cases hr : d.fRemoved = true
    · exact .inl hr
    · right
      intro hlen
      subst hlen
      exact hno keyix macaddr keydata (Bool.not_eq_true _ ▸ hr) rfl
  · split
    · exact .inr rfl
    · exact .inl rfl
  · exact .inl rfl

theorem Holds.other {d d' : Device} {e : Event} {h : Delivered} (hi : Holds d h)
    (heq : d'.supplicantKeys = d.supplicantKeys)
    (hno : ∀ keyix macaddr keydata, d.fRemoved = false →
      e ≠ .control (.wpaKey keyix 16 macaddr keydata)) : Holds d' (d.recordKeys e h) := by
  rcases recordKeys_other (h := h) hno with hrec | hrec
  · rw [hrec]
    exact hi.congr heq
  · rw [hrec]
    exact hi.clear.congr heq

theorem supplicantKeys_joins {d d1 : Device} {request : Request} {bssid : Mac} {ssid : Bytes}
    {ssidLen : Nat} (h : d.Joins request d1 bssid ssid ssidLen) :
    d1.supplicantKeys = d.supplicantKeys ∧
      ∀ keyix macaddr keydata, request ≠ .wpaKey keyix 16 macaddr keydata := by
  cases h with
  | mlme => exact ⟨rfl, fun _ _ _ hq => by cases hq⟩
  | passphrase bssid ssidLen ssid passphraseLen passphrase =>
    exact ⟨(d.takesPassphrase bssid ssidLen ssid passphraseLen passphrase).supplicantKeys,
      fun _ _ _ hq => by cases hq⟩
  | again => exact ⟨rfl, fun _ _ _ hq => by cases hq⟩

theorem holds_control {d : Device} {request : Request} {env : Env} {out : Device × List Action}
    {h : Delivered} (hstep : ControlStep d request env out) (hi : Holds d h) :
    Holds out.1 (d.recordKeys (.control request) h) := by
  cases hstep with
  | settings ssid ssidLen wpaIe wpaIeLen privacy drop hs =>
    refine hi.other rfl ?_
    intro keyix macaddr keydata hr heq
    cases heq
    cases hs hr
  | bssid data hr hq hlen =>
    subst hq
    exact hi.other rfl fun _ _ _ _ heq => by cases heq
  | disconnected op macaddr ssidLen ssid hr hq hop =>
    subst hq
    exact hi.other rfl fun _ _ _ _ heq => by cases heq
  | keyHeld keyix macaddr keydata hr hq hincomplete =>
    subst hq
    exact hi.holdKey hr keyix macaddr keydata
  | keysArmed keyix macaddr keydata hr hq hcomplete =>
    subst hq
    exact (hi.holdKey hr keyix macaddr keydata).congr rfl
  | unresolved d1 bssid ssid ssidLen hr hj ht =>
    obtain ⟨hkeys, hno⟩ := supplicantKeys_joins hj
    refine hi.other hkeys ?_
    intro keyix macaddr keydata _ heq
    cases heq
    exact hno _ _ _ rfl
  | joining d1 bssid target ssid ssidLen hr hj ht =>
    obtain ⟨hkeys, hno⟩ := supplicantKeys_joins hj
    refine hi.other hkeys ?_
    intro keyix macaddr keydata _ heq
    cases heq
    exact hno _ _ _ rfl

theorem holds_step {d : Device} {e : Event} {env : Env} {out : Device × List Action}
    {h : Delivered} (hstep : Step d env e out) (hi : Holds d h) :
    Holds out.1 (d.recordKeys e h) := by
  cases hstep with
  | dataPath e he removed ring tail pn actions =>
    refine hi.other rfl ?_
    rintro keyix macaddr keydata - rfl
    cases he
  | rxFrame frame isC2H hc hrx =>
    exact hi.other hrx.keepsKeys.supplicantKeys fun _ _ _ _ heq => by cases heq
  | eapolWorker hworker =>
    exact hi.other hworker.keepsJoin.supplicantKeys fun _ _ _ _ heq => by cases heq
  | control request hcontrol => exact holds_control hcontrol hi

/-! ## What is installed -/

theorem keysComplete_iff {d : Device} {env : Env} (hid : d.fSupplicantGtkId ≤ 3) :
    d.keysComplete env = true ↔
      d.fSupplicantTkValid = true ∧ d.fSupplicantGtkValid = true ∧ env.registers = .ok := by
  have hinst : installSessionKeys
      { gtkKey := d.fSupplicantGtk.bytes, gtkKeyId := d.fSupplicantGtkId } env = .ok ↔
      Installs { gtkKey := d.fSupplicantGtk.bytes, gtkKeyId := d.fSupplicantGtkId } env :=
    installSessionKeys_iff hid
  have hlen : d.fSupplicantGtk.bytes.length = 16 := d.fSupplicantGtk.length_eq
  rw [keysComplete, decide_eq_true_iff, hinst, Installs]
  exact ⟨fun ⟨h1, h2, h3⟩ => ⟨h1, h2, h3.2⟩, fun ⟨h1, h2, h3⟩ => ⟨h1, h2, hlen, h3⟩⟩

theorem tk_armKeys (d : Device) : d.armKeys.tk = d.fSupplicantTk :=
  congrArg KeyLedger.State.key d.armKeys_keyState

/-- The other half is in the history exactly if it was delivered since the join. -/
theorem installsDelivered_armed {d : Device} {h : Delivered} {env : Env} (hi : Holds d h)
    (hr : d.fRemoved = false) {keyix : UInt16} {macaddr : Mac} {keydata : Block}
    (hcomplete : (d.holdKey keyix macaddr keydata).keysComplete env = true) :
    ((d.recordKeys (.control (.wpaKey keyix 16 macaddr keydata)) h).tk =
        some (d.holdKey keyix macaddr keydata).armKeys.tk ∧
      (d.recordKeys (.control (.wpaKey keyix 16 macaddr keydata)) h).gtk =
        some ((d.holdKey keyix macaddr keydata).armKeys.fGtk,
          (d.holdKey keyix macaddr keydata).armKeys.fGtkKeyId)) ↔
      d.FreshHalf (.control (.wpaKey keyix 16 macaddr keydata)) env h := by
  obtain ⟨htk, hgtk, hreg⟩ := (keysComplete_iff (hi.holdKey hr keyix macaddr keydata).gtkId).mp
    hcomplete
  rw [recordKeys_wpaKey hr, tk_armKeys]
  show _ ↔ (d.fRemoved = false → (16 : UInt8) = 16 → env.registers = .ok → _)
  by_cases hpair : keyix = kKeyixNone
  · simp only [Device.holdKey, if_pos hpair] at htk hgtk ⊢
    simp only [hr, hreg, hgtk, forall_const, true_and, armKeys]
    constructor
    · intro hg
      rw [hg]
      rfl
    · intro hsome
      obtain ⟨⟨k, keyId⟩, hk⟩ := Option.isSome_iff_exists.mp hsome
      obtain ⟨-, hkey, hid⟩ := hi.gtk k keyId hk
      rw [hk, hkey, hid]
  · simp only [Device.holdKey, if_neg hpair] at htk hgtk ⊢
    simp only [hr, hreg, htk, forall_const, and_true, armKeys]
    constructor
    · intro hk
      rw [hk]
      rfl
    · intro hsome
      obtain ⟨k, hk⟩ := Option.isSome_iff_exists.mp hsome
      rw [hk, (hi.tk k hk).2]

theorem installsDelivered_iff {d : Device} {e : Event} {env : Env} {h : Delivered}
    (hi : Holds d h) : d.InstallsDelivered e env (d.recordKeys e h) ↔ d.FreshHalf e env h := by
  cases e with
  | control request =>
    cases request with
    | wpaKey keyix keylen macaddr keydata =>
      have hstep := d.control_step (.wpaKey keyix keylen macaddr keydata) env
      show d.InstalledFrom _ (d.control (.wpaKey keyix keylen macaddr keydata) env) ↔ _
      generalize d.control (.wpaKey keyix keylen macaddr keydata) env = r at hstep
      obtain ⟨d', actions, status⟩ := r
      change ControlStep d _ env (d', actions) at hstep
      cases hstep with
      | settings ssid ssidLen wpaIe wpaIeLen privacy drop hs =>
        refine iff_of_true (.inl ⟨rfl, rfl⟩) ?_
        intro hr hlen
        exact absurd hlen (of_decide_eq_true (hs hr))
      | bssid data hr hq hlen => cases hq
      | disconnected op macaddr' ssidLen ssid hr hq hop => cases hq
      | keyHeld keyix' macaddr' keydata' hr hq hincomplete =>
        cases hq
        have hid := (hi.holdKey hr keyix macaddr keydata).gtkId
        refine iff_of_true (.inl ⟨rfl, congrArg KeyLedger.State.enabled (d.holdKey_keyState ..)⟩) ?_
        intro _ _ hreg
        by_cases hpair : keyix = kKeyixNone
        · rw [if_pos hpair]
          intro hgtk
          rw [(keysComplete_iff hid).mpr ⟨?_, ?_, hreg⟩] at hincomplete
          · cases hincomplete
          · rw [Device.holdKey, if_pos hpair]
          · rw [Device.holdKey, if_pos hpair]
            exact hgtk
        · rw [if_neg hpair]
          intro htk
          rw [(keysComplete_iff hid).mpr ⟨?_, ?_, hreg⟩] at hincomplete
          · cases hincomplete
          · rw [Device.holdKey, if_neg hpair]
            exact htk
          · rw [Device.holdKey, if_neg hpair]
      | keysArmed keyix' macaddr' keydata' hr hq hcomplete =>
        cases hq
        rw [← installsDelivered_armed hi hr hcomplete]
        constructor
        · rintro (⟨hnone, -⟩ | hboth)
          · cases hnone
          · exact hboth
        · exact fun hboth => .inr hboth
      | unresolved d1 bssid ssid ssidLen hr hj ht => cases hj
      | joining d1 bssid target ssid ssidLen hr hj ht => cases hj
    | _ => exact Iff.rfl
  | _ => exact Iff.rfl

end Device

namespace System

def recordKeys (s : System) (e : Event × Env) (h : Delivered) : Delivered :=
  s.device.recordKeys e.1 h

/-- The device with the history of its keys. -/
def nextKeys : System × Delivered → Event × Env → Option (System × Delivered) :=
  Lts.recorded next recordKeys

theorem supplicant_keys_current (mac : Mac) (es : List (Event × Env)) :
    Lts.Meets nextKeys (fun p e => p.1.device.InstallsDelivered e.1 e.2 (recordKeys p.1 e p.2))
        (init mac, .empty) es ↔
      Lts.Meets nextKeys (fun p e => p.1.device.FreshHalf e.1 e.2 p.2) (init mac, .empty) es := by
  refine Lts.meets_iff_of_invariant
    (I := fun p : System × Delivered => Device.Holds p.1.device p.2) ?_
    (fun hi => Device.installsDelivered_iff hi) ?_
  · intro p q e hi hn
    obtain ⟨hnext, hrecord⟩ := Lts.recorded_eq_some.mp hn
    obtain ⟨actions, hstep, -⟩ := next_eq_some hnext
    rw [hrecord]
    exact Device.holds_step (Device.step_cases hstep) hi
  · refine ⟨?_, ?_, ?_⟩
    · intro k hk
      cases hk
    · intro k keyId hk
      cases hk
    · show (0 : UInt8) ≤ 3
      decide

/-! ### A group key of an earlier association -/

def sampleRejoin : Event × Env :=
  (.control (.mlme Device.kMlmeAssoc sampleBssid 3 (Buf.ofBytes 32 [0x6E, 0x65, 0x74])), sampleEnv)

/-- Both keys, another join, and a pairwise key for it. -/
def staleGroupRun : List (Event × Env) :=
  sampleJoin ++ [samplePairwise, sampleGroup, sampleRejoin,
    (.control (.wpaKey Device.kKeyixNone 16 sampleBssid (Buf.ofBytes 16 [2])), sampleEnv)]

theorem supplicant_keys_current_staleGroup :
    ¬ ∀ mac es, Lts.Meets nextKeys
      (fun (p : System × Delivered) e =>
        p.1.device.InstallsDelivered e.1 e.2 (recordKeys p.1 e p.2)) (init mac, .empty) es := by
  intro hclaim
  exact absurd (hclaim sampleMac staleGroupRun) (by decide +kernel)

end System
end Rtl8814au
