import Rtl8814au.Device.KeySafety
import Rtl8814au.Device.Steps

/-!
# Device.RefusedJoin

A join request that is refused, for its arguments or because no BSS matches. `_DoJoin` resets its
fields, and a passphrase request overwrites them, ahead of the lookup that can fail.

* `SameJoin`          — the join, key and EAPOL fields are as before.
* `NothingToReset`    — the resets of `_DoJoin` find what they write.
* `NothingToWrite`    — a passphrase request finds what it writes ahead of `_DoJoin`.
* `refused_join_keeps` — a refused request leaves the fields alone exactly if its arguments are
  invalid or both of these hold.
-/

namespace Rtl8814au
namespace Device

open Crypto

/-- A request that is to call `_DoJoin`. -/
def isJoin : Request → Bool
  | .mlme op _ _ _ => op = kMlmeAssoc
  | .haikuJoinPsk _ _ _ _ _ => true
  | .haikuJoin => true
  | _ => false

structure Refuses (d : Device) (request : Request) (env : Env) : Prop where
  present : d.fRemoved = false
  join : isJoin request = true
  noTarget : d.exchangeTarget request env = none

instance (d : Device) (request : Request) (env : Env) : Decidable (d.Refuses request env) :=
  decidable_of_iff (d.fRemoved = false ∧ isJoin request = true ∧ d.exchangeTarget request env = none)
    ⟨fun ⟨h1, h2, h3⟩ => ⟨h1, h2, h3⟩, fun ⟨h1, h2, h3⟩ => ⟨h1, h2, h3⟩⟩

structure SameJoin (d d' : Device) : Prop where
  joinState : d'.fJoinState = d.fJoinState
  joinBssid : d'.fJoinBssid = d.fJoinBssid
  joinSsid : d'.fJoinSsid = d.fJoinSsid
  ccmpEnabled : d'.fCcmpEnabled = d.fCcmpEnabled
  pmk : d'.fPmk = d.fPmk
  pmkValid : d'.fPmkValid = d.fPmkValid
  ptkValid : d'.fPtkValid = d.fPtkValid
  eapolState : d'.fEapolState = d.fEapolState

theorem SameJoin.refl (d : Device) : SameJoin d d := ⟨rfl, rfl, rfl, rfl, rfl, rfl, rfl, rfl⟩

/-- No encryption in force, and no exchange under way. -/
structure NothingToReset (d : Device) : Prop where
  clear : d.fCcmpEnabled = false
  notAuthenticating : d.fJoinState ≠ .kJoinAuthenticating
  notAssociating : d.fJoinState ≠ .kJoinAssociating

/-- A passphrase request with these arguments has been the last thing to happen to the fields. -/
structure NothingToWrite (d : Device) (bssid : Mac) (ssid passphrase : Bytes) : Prop where
  pmk : d.fPmk = pbkdf2HmacSha1 passphrase ssid 4096 32
  pmkValid : d.fPmkValid = true
  ptkValid : d.fPtkValid = false
  eapolState : d.fEapolState = .kEapolWaitM1
  joinBssid : d.fJoinBssid = bssid
  joinSsid : d.fJoinSsid = d.fJoinSsid.copyAt 0 (ssid ++ [0])

/-- What the request writes before it is refused, if anything, is there already. -/
def Untouched (d : Device) (request : Request) : Prop :=
  d.entersJoin request = true →
    d.NothingToReset ∧
      match request with
      | .haikuJoinPsk bssid ssidLen ssid passphraseLen passphrase =>
        d.NothingToWrite bssid (ssid.bytes.take ssidLen.toNat)
          (passphrase.bytes.take passphraseLen.toNat)
      | _ => True

/-! ## The resets and the writes -/

theorem sameJoin_joinReset (d : Device) : SameJoin d d.joinReset ↔ d.NothingToReset := by
  constructor
  · intro h
    have hclear : false = d.fCcmpEnabled := h.ccmpEnabled
    have hstate := h.joinState
    unfold joinReset at hstate
    refine ⟨hclear.symm, ?_, ?_⟩
    · intro hauth
      simp [hauth] at hstate
    · intro hassoc
      simp [hassoc] at hstate
  · intro h
    refine ⟨?_, rfl, rfl, h.clear.symm, rfl, rfl, rfl, rfl⟩
    unfold joinReset
    cases hstate : d.fJoinState with
    | kJoinAuthenticating => exact absurd hstate h.notAuthenticating
    | kJoinAssociating => exact absurd hstate h.notAssociating
    | _ => rfl

/-- The fields of `SameJoin` after a passphrase request has written its own. -/
theorem withPassphrase_fields (d : Device) (bssid : Mac) (ssidLen : UInt8) (ssid : Buf 32)
    (passphraseLen : UInt8) (passphrase : Buf 64) :
    SameJoin
      { d with
        fJoinBssid := bssid
        fJoinSsid := d.fJoinSsid.copyAt 0 (ssid.bytes.take ssidLen.toNat ++ [0])
        fPmk := pbkdf2HmacSha1 (passphrase.bytes.take passphraseLen.toNat)
          (ssid.bytes.take ssidLen.toNat) 4096 32
        fPmkValid := true
        fPtkValid := false
        fEapolState := .kEapolWaitM1 }
      (d.withPassphrase bssid ssidLen ssid passphraseLen passphrase) := by
  obtain ⟨wpaIe, wpaIeLength, heq⟩ :=
    d.withPassphrase_device bssid ssidLen ssid passphraseLen passphrase
  rw [heq]
  exact ⟨rfl, rfl, rfl, rfl, rfl, rfl, rfl, rfl⟩

theorem sameJoin_withPassphrase (d : Device) (bssid : Mac) (ssidLen : UInt8) (ssid : Buf 32)
    (passphraseLen : UInt8) (passphrase : Buf 64) :
    SameJoin d (d.withPassphrase bssid ssidLen ssid passphraseLen passphrase).joinReset ↔
      d.NothingToReset ∧
        d.NothingToWrite bssid (ssid.bytes.take ssidLen.toNat)
          (passphrase.bytes.take passphraseLen.toNat) := by
  have hw := d.withPassphrase_fields bssid ssidLen ssid passphraseLen passphrase
  generalize d.withPassphrase bssid ssidLen ssid passphraseLen passphrase = d1 at hw
  have hreset : SameJoin d1 d1.joinReset ↔ d.NothingToReset := by
    rw [sameJoin_joinReset]
    constructor
    · intro h
      exact ⟨hw.ccmpEnabled ▸ h.clear, hw.joinState ▸ h.notAuthenticating,
        hw.joinState ▸ h.notAssociating⟩
    · intro h
      exact ⟨hw.ccmpEnabled.trans h.clear, fun h1 => h.notAuthenticating (hw.joinState ▸ h1),
        fun h1 => h.notAssociating (hw.joinState ▸ h1)⟩
  constructor
  · intro h
    -- The resets touch neither of the fields that the request writes.
    refine ⟨hreset.mp ⟨?_, rfl, rfl, ?_, rfl, rfl, rfl, rfl⟩, ?_⟩
    · exact h.joinState.trans hw.joinState.symm
    · exact h.ccmpEnabled.trans hw.ccmpEnabled.symm
    · exact
        { pmk := h.pmk.symm.trans hw.pmk
          pmkValid := h.pmkValid.symm.trans hw.pmkValid
          ptkValid := h.ptkValid.symm.trans hw.ptkValid
          eapolState := h.eapolState.symm.trans hw.eapolState
          joinBssid := h.joinBssid.symm.trans hw.joinBssid
          joinSsid := h.joinSsid.symm.trans hw.joinSsid }
  · rintro ⟨hr, hn⟩
    have hsame := hreset.mpr hr
    exact
      { joinState := hsame.joinState.trans hw.joinState
        joinBssid := hw.joinBssid.trans hn.joinBssid.symm
        joinSsid := hw.joinSsid.trans hn.joinSsid.symm
        ccmpEnabled := hsame.ccmpEnabled.trans hw.ccmpEnabled
        pmk := hw.pmk.trans hn.pmk.symm
        pmkValid := hw.pmkValid.trans hn.pmkValid.symm
        ptkValid := hw.ptkValid.trans hn.ptkValid.symm
        eapolState := hw.eapolState.trans hn.eapolState.symm }

/-! ## A refused request -/

/-- Where a refused request leaves the device, and what it returns. -/
inductive Refusal (d : Device) (request : Request) : Device × Status → Prop where
  | invalid (status : Status) (h : d.entersJoin request = false)
      (hs : status = .badValue ∨ status = .notInitialized) : Refusal d request (d, status)
  | noMatch (d1 : Device) (bssid : Mac) (ssid : Bytes) (ssidLen : Nat)
      (hj : d.Joins request d1 bssid ssid ssidLen) :
      Refusal d request (d1.joinReset, .nameNotFound)

theorem doJoin_refused {d d1 : Device} {request : Request} {bssid : Mac} {ssid : Bytes}
    {ssidLen : Nat} {env : Env} (h : d.Refuses request env)
    (hj : d.Joins request d1 bssid ssid ssidLen) :
    d1.doJoin bssid ssid ssidLen env = ⟨d1.joinReset, [.joinRequest], .nameNotFound⟩ := by
  have htarget : joinTarget bssid env = none :=
    (exchangeTarget_joins h.present hj).symm.trans h.noTarget
  rw [doJoin_eq, htarget]

theorem refusal_cases {d : Device} {request : Request} {env : Env} (h : d.Refuses request env) :
    Refusal d request ((d.control request env).device, (d.control request env).status) := by
  have hjoin := h.join
  unfold control
  rw [h.present, if_neg Bool.false_ne_true]
  unfold set80211
  cases request with
  | mlme op macaddr ssidLen ssid =>
    obtain rfl : op = kMlmeAssoc := of_decide_eq_true hjoin
    have hj := Joins.mlme (d := d) macaddr ssidLen ssid
    dsimp only [mlme]
    rw [if_pos rfl, doJoin_refused h hj]
    exact .noMatch d _ _ _ hj
  | haikuJoinPsk bssid ssidLen ssid passphraseLen passphrase =>
    dsimp only [haikuJoinPsk]
    split
    · rename_i hbad
      exact .invalid _ (decide_eq_false (not_not.mpr hbad)) (.inl rfl)
    · rename_i hok
      have hj := Joins.passphrase (d := d) bssid ssidLen ssid passphraseLen passphrase hok
      have hdo := doJoin_refused h hj
      unfold withPassphrase at hdo
      rw [hdo]
      exact .noMatch _ _ _ _ hj
  | haikuJoin =>
    dsimp only [haikuJoin]
    split
    · rename_i hnone
      exact .invalid _ (decide_eq_false (not_not.mpr hnone)) (.inr rfl)
    · rename_i hset
      have hj := Joins.again hset
      rw [doJoin_refused h hj]
      exact .noMatch d _ _ _ hj
  | _ => cases hjoin

/-- A refused join leaves the join, key and EAPOL fields alone exactly if it is refused for its
arguments, or what it writes ahead of the lookup was there before. -/
theorem refused_join_keeps {d : Device} {request : Request} {env : Env}
    (h : d.Refuses request env) :
    SameJoin d (d.control request env).device ↔ d.Untouched request := by
  have hcases := refusal_cases h
  unfold Untouched
  generalize (d.control request env).device = d', (d.control request env).status = status
    at hcases ⊢
  cases hcases with
  | invalid _ hno hs =>
    rw [hno]
    exact ⟨fun _ => nofun, fun _ => .refl d⟩
  | noMatch d1 bssid ssid ssidLen hj =>
    rw [forall_prop_of_true (entersJoin_iff.mpr ⟨d1, bssid, ssid, ssidLen, hj⟩)]
    cases hj with
    | mlme => rw [sameJoin_joinReset, and_true]
    | passphrase bssid ssidLen ssid passphraseLen passphrase hok =>
      exact sameJoin_withPassphrase d bssid ssidLen ssid passphraseLen passphrase
    | again => rw [sameJoin_joinReset, and_true]

/-- A join by SSID alone. -/
def sampleLookup : Request :=
  .mlme kMlmeAssoc (Buf.zero 6) 3 (Buf.ofBytes 32 [0x66, 0x61, 0x72])

/-- An association whose keys are not there yet stays. -/
theorem refused_join_keeps_connected :
    ∃ s, Lts.run System.next (.init System.sampleMac) System.sampleJoin = some s ∧
      s.device.fJoinState = .kJoinConnected ∧
      SameJoin s.device (s.device.control sampleLookup System.sampleEnv).device := by
  have hrun : (Lts.run System.next (.init System.sampleMac) System.sampleJoin).map (fun s =>
      (s.device.fJoinState, s.device.fCcmpEnabled,
        decide (s.device.Refuses sampleLookup System.sampleEnv))) =
      some (.kJoinConnected, false, true) := by decide +kernel
  obtain ⟨s, hr, hfields⟩ := Option.map_eq_some_iff.mp hrun
  obtain ⟨hstate, hfields⟩ := Prod.mk.inj hfields
  obtain ⟨hclear, hrefuses⟩ := Prod.mk.inj hfields
  have hreset : s.device.NothingToReset := ⟨hclear, by rw [hstate]; nofun, by rw [hstate]; nofun⟩
  exact ⟨s, hr, hstate,
    (refused_join_keeps (of_decide_eq_true hrefuses)).mpr fun _ => ⟨hreset, trivial⟩⟩

/-- It ends the encryption of the link it finds. -/
theorem refused_join_keeps_encrypted :
    ¬ ∀ s es, Lts.run System.next (.init System.sampleMac) es = some s →
      ∀ request env, s.device.Refuses request env →
        SameJoin s.device (s.device.control request env).device := by
  intro hclaim
  have hrun : (Lts.run System.next (.init System.sampleMac) System.sampleRun).map (fun s =>
      (s.device.fJoinState, s.device.fCcmpEnabled,
        (s.device.control sampleLookup System.sampleEnv).device.fCcmpEnabled,
        decide (s.device.Refuses sampleLookup System.sampleEnv))) =
      some (.kJoinConnected, true, false, true) := by decide +kernel
  obtain ⟨s, hr, hfields⟩ := Option.map_eq_some_iff.mp hrun
  obtain ⟨-, hfields⟩ := Prod.mk.inj hfields
  obtain ⟨hbefore, hfields⟩ := Prod.mk.inj hfields
  obtain ⟨hafter, hrefuses⟩ := Prod.mk.inj hfields
  have hsame := hclaim s System.sampleRun hr sampleLookup System.sampleEnv
    (of_decide_eq_true hrefuses)
  have hkept := hafter.symm.trans (hsame.ccmpEnabled.trans hbefore)
  cases hkept

end Device
end Rtl8814au
