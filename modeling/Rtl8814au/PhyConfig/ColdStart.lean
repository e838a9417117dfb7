import Rtl8814au.PhyConfig.History
import Rtl8814au.PhyConfig.InitTable

/-!
# PhyConfig.ColdStart

`Initialize`: the writes of a recorded cold start, and the TX power behind them.

* `initializePhy` — the replay stops at the first write that fails.
* `replay`        — what the writes leave in the registers.
* `cold_start`    — the registers agree with the band that the driver starts with, but for the LNAs: these
  are left as for 5 GHz, and stay so until the band is switched.
-/

namespace Rtl8814au
namespace PhyConfig

open Dialogue EfuseReader RegisterIO

/-- The object that the constructor makes. -/
def fresh : PhyConfig := ⟨1, .kBandwidth20MHz, .kBand2_4GHz, fun _ _ => 0⟩

structure Initialized where
  status : StatusCode
  fInitialized : Bool
  phy : PhyConfig

def initializePhy (fEfuseReader : Reader) (phy : PhyConfig) : SwitchIo Initialized := do
  let status ← tag .other (applyBBTable kFullInitSequence)
  if status ≠ StatusCode.ok then pure ⟨status, false, phy⟩
  else
    let efuseMap := if fEfuseReader.fMapValid then some fEfuseReader.fMap else none
    let (status, phy) ← tag .other (phy.setTxPower efuseMap)
    pure ⟨status, true, phy⟩

/-! ## The replay -/

/-- One write that arrives. -/
def PhyRegEntry.apply (chip : Chip) (e : PhyRegEntry) : Chip :=
  Function.update chip (target e.address e.value) (content e.address e.value)

def replay (table : List PhyRegEntry) (chip : Chip) : Chip := table.foldl PhyRegEntry.apply chip

def lastWrite : List PhyRegEntry → Place → Option Nat
  | [], _ => none
  | e :: rest, place =>
    match lastWrite rest place with
    | some value => some value
    | none => if target e.address e.value = place then some (content e.address e.value) else none

theorem replay_place (table : List PhyRegEntry) (chip : Chip) (place : Place) :
    replay table chip place = (lastWrite table place).getD (chip place) := by
  induction table generalizing chip with
  | nil => rfl
  | cons e rest ih =>
    show replay rest (PhyRegEntry.apply chip e) place = _
    rw [ih, lastWrite]
    cases lastWrite rest place with
    | some value => rfl
    | none =>
      show Function.update chip (target e.address e.value) (content e.address e.value) place =
        (if target e.address e.value = place then some (content e.address e.value) else none).getD _
      by_cases hplace : target e.address e.value = place
      · rw [if_pos hplace, ← hplace, Function.update_self]
        rfl
      · rw [if_neg hplace, Function.update_of_ne (Ne.symm hplace)]
        rfl

theorem applyBBTable_spec {t : Phase} {table : List PhyRegEntry}
    (hword : ∀ e ∈ table, e.value < 2 ^ 32) (s : Switching) :
    wp (stepIn t) (fun status s' => s'.clean = true →
      s.clean = true ∧ status = .ok ∧ s'.chip = replay table s.chip) (applyBBTable table) s := by
  induction table generalizing s with
  | nil => exact fun hclean => ⟨hclean, rfl, rfl⟩
  | cons e rest ih =>
    have hwrite : wp (stepIn t) (fun status s₁ => s₁.clean = true →
        s.clean = true ∧ status = .ok ∧ s₁.chip = PhyRegEntry.apply s.chip e)
        (write32 e.address e.value) s := by
      intro status s₁ hstep
      cases hstep with
      | write _ left =>
        intro hclean
        obtain ⟨hclean, hok, hleft⟩ := clean_of_written hclean
        have hvalue : Bytes.leNat (Bytes.le 4 e.value) = e.value := by
          rw [Bytes.leNat_le]
          exact Nat.mod_eq_of_lt (hword e (.head _))
        refine ⟨hclean, hok, ?_⟩
        show Function.update s.chip _ left = _
        rw [hleft, hvalue]
        rfl
    refine wp_seq hwrite fun status s₁ h₁ => ?_
    split
    · rename_i hfailed
      exact fun hclean => absurd (h₁ hclean).2.1 hfailed
    · refine wp_mono (ih (fun e' he' => hword e' (.tail _ he')) s₁) fun status' s' h hclean => ?_
      obtain ⟨hclean₁, hok, hchip⟩ := h hclean
      obtain ⟨hclean₀, -, hchip₁⟩ := h₁ hclean₁
      refine ⟨hclean₀, hok, ?_⟩
      rw [hchip, hchip₁]
      rfl

theorem word_fullInitSequence : ∀ e ∈ kFullInitSequence, e.value < 2 ^ 32 := by
  intro e he
  obtain ⟨word, -, rfl⟩ := List.mem_map.mp he
  exact Nat.mod_lt _ (Nat.two_pow_pos 32)

/-! ## What the table leaves -/

theorem lastWrite_lna (path : Fin kRfPathCount) :
    lastWrite kFullInitSequence (.rf path kRfRegLNA) = some (lnaValue .kBand5GHz) := by
  revert path
  decide +kernel

theorem lastWrite_cckCheck : lastWrite kFullInitSequence (.bb kRegBBCckCheck) = none := by
  decide +kernel

/-- The registers of the antenna switches. -/
theorem lastWrite_pinmux : ∀ address ∈ [kRegBBRfePinmux0, kRegBBRfePinmuxPathB, kRegBBRfePinmuxPathC,
    kRegBBRfePinmuxPathD], lastWrite kFullInitSequence (.bb address) = some 0x77777777 := by
  decide +kernel

theorem lastWrite_coex : lastWrite kFullInitSequence (.bb kRegBBRfePinmuxCoex) = some 0x77700000 := by
  decide +kernel

theorem lastWrite_demodulators :
    lastWrite kFullInitSequence (.bb kRegBBAgcTableSelect) = some 0 ∧
      lastWrite kFullInitSequence (.bb kRegBBOfdmCckEn) = some 0x3E0282FF ∧
      lastWrite kFullInitSequence (.bb kRegBBCckTxOnly) = some 0x218075B2 ∧
      lastWrite kFullInitSequence (.bb kRegBBTxPath) = some 0x1000002F := by
  decide +kernel

/-- The classes of boards that share the values of the default class in 2.4 GHz. -/
theorem pinmux_2_4GHz {rfeType : UInt8} (h : rfeType ≠ 2) :
    pinmux rfeType .kBand2_4GHz = 0x77777777 ∧ pinmuxPathD rfeType .kBand2_4GHz = 0x77777777 ∧
      pinmuxCoex rfeType .kBand2_4GHz = 0x07700000 := by
  have hclass : selectedClass rfeType = defaultPinmuxClass ∨
      selectedClass rfeType = ⟨1, 0x77777777, 0x77777777, 0x33173317, 0x77177717, 0x07700000,
        0x03300000⟩ := by
    by_cases h₁ : rfeType = 1
    · subst h₁
      exact .inr rfl
    · refine .inl ?_
      by_cases h₀ : rfeType = 0
      · subst h₀
        rfl
      · simp [selectedClass, kRfePinmuxClasses, defaultPinmuxClass, Ne.symm h₁, Ne.symm h, Ne.symm h₀]
  rcases hclass with hclass | hclass
  · simp [pinmux, pinmuxPathD, pinmuxCoex, hclass, defaultPinmuxClass]
  · simp [pinmux, pinmuxPathD, pinmuxCoex, hclass]

/-- The registers after a faultless start, over those before it. -/
structure Started (rfeType : UInt8) (chip chip' : Chip) : Prop where
  lna : ∀ path, chip' (.rf path kRfRegLNA) = lnaValue .kBand5GHz
  cckCheck : chip' (.bb kRegBBCckCheck) = chip (.bb kRegBBCckCheck)
  others : rfeType ≠ 2 → ∀ e ∈ bandEntries rfeType .kBand2_4GHz, e.place ≠ .bb kRegBBCckCheck →
    (∀ path, e.place ≠ .rf path kRfRegLNA) → Holds chip' e

theorem started_replay (rfeType : UInt8) {chip chip' : Chip}
    (h : ∀ place ∈ managed, chip' place = replay kFullInitSequence chip place) :
    Started rfeType chip chip' := by
  have hlast : ∀ {place : Place} {value : Nat}, place ∈ managed →
      lastWrite kFullInitSequence place = some value → chip' place = value := by
    intro place value hplace hvalue
    rw [h place hplace, replay_place, hvalue]
    rfl
  obtain ⟨hagc, hofdm, hcck, htx⟩ := lastWrite_demodulators
  refine ⟨fun path => hlast ?_ (lastWrite_lna path), ?_, fun hclass e he hcheck hlna => ?_⟩
  · revert path
    decide
  · rw [h _ (by decide), replay_place, lastWrite_cckCheck]
    rfl
  · obtain ⟨habc, hd, hcoex⟩ := pinmux_2_4GHz hclass
    simp only [bandEntries, pinmuxEntries, demodulatorEntries, List.mem_append, List.mem_cons,
      List.not_mem_nil, or_false, List.mem_map] at he
    rcases he with (rfl | rfl | rfl | rfl | rfl) | (rfl | rfl | rfl | rfl) |
      ⟨path, -, rfl⟩ | rfl
    · rw [Holds, habc, hlast (by decide) (lastWrite_pinmux kRegBBRfePinmux0 (by decide))]
    · rw [Holds, habc, hlast (by decide) (lastWrite_pinmux kRegBBRfePinmuxPathB (by decide))]
    · rw [Holds, habc, hlast (by decide) (lastWrite_pinmux kRegBBRfePinmuxPathC (by decide))]
    · rw [Holds, hd, hlast (by decide) (lastWrite_pinmux kRegBBRfePinmuxPathD (by decide))]
    · rw [Holds, hcoex, hlast (by decide) lastWrite_coex]
      rfl
    · rw [Holds, hlast (by decide) hagc]
    · rw [Holds, hlast (by decide) hofdm]
      rfl
    · exact absurd rfl hcheck
    · rw [Holds, hlast (by decide) hcck]
      rfl
    · exact absurd rfl (hlna path)
    · rw [Holds, txPathEntry, hlast (by decide) htx]
      rfl

/-- One LNA is enough. -/
theorem Started.not_matches {rfeType : UInt8} {chip chip' : Chip} (h : Started rfeType chip chip') :
    ¬ Matches rfeType .kBand2_4GHz chip' := by
  intro hmatches
  obtain ⟨path⟩ : Nonempty (Fin kRfPathCount) := ⟨0, Nat.zero_lt_succ 3⟩
  have hentry : lnaEntry .kBand2_4GHz path ∈ bandEntries rfeType .kBand2_4GHz := by
    refine List.mem_append_right _ (List.mem_append_right _ (List.mem_append_left _ ?_))
    exact List.mem_map_of_mem (List.mem_finRange path)
  have hholds : chip' (.rf path kRfRegLNA) &&& kRfDataMask = lnaValue .kBand2_4GHz &&& kRfDataMask :=
    hmatches _ hentry
  rw [h.lna path] at hholds
  exact absurd hholds (by decide)

/-! ## The power -/

theorem applyTxPower_does (phy : PhyConfig) (paths : List (Fin kRfPathCount)) (s : Switching) :
    wp (stepIn .other) (fun status s' => status = .ok ∧ Progress .other [] s s')
      (phy.applyTxPower paths) s := by
  induction paths generalizing s with
  | nil => exact ⟨rfl, .rfl⟩
  | cons path paths ih =>
    have hindex : wp (stepIn .other) (fun status s' => status = .ok ∧ Progress .other [] s s')
        (writeTxPowerIndex path (phy.getTxPowerIndex path phy.fCurrentChannel)) s :=
      wp_seq (writeEach_does (plain_txPwrRegisters path) .nil s) fun _ s₁ h => ⟨rfl, h⟩
    refine wp_seq hindex ?_
    rintro status s₁ ⟨rfl, h₁⟩
    refine wp_mono (ih s₁) ?_
    rintro status s₂ ⟨hok, h₂⟩
    exact ⟨hok, h₁.after h₂ .nil⟩

theorem initializePhy_spec (reader : Reader) (phy : PhyConfig) (chip : Chip) :
    wp SwitchStep (fun r s => s.clean = true →
        r.status = .ok ∧ r.fInitialized = true ∧ r.phy.fCurrentBand = phy.fCurrentBand ∧
          Started (rfeTypeOf reader) chip s.chip)
      (initializePhy reader phy) (.start chip) := by
  refine wp_tag_seq (applyBBTable_spec word_fullInitSequence (.start chip)) fun status s₁ h₁ => ?_
  split
  · rename_i hfailed
    exact fun hclean => absurd (h₁ hclean).2.1 hfailed
  · have hpower : ∀ efuseMap, wp (stepIn .other) (fun (r : StatusCode × PhyConfig) s' =>
        r.1 = .ok ∧ r.2.fCurrentBand = phy.fCurrentBand ∧ Progress .other [] s₁ s')
        (phy.setTxPower efuseMap) s₁ := by
      intro efuseMap
      refine wp_seq (applyTxPower_does { phy with fTxPowerIndex := powerTable efuseMap } _ s₁) ?_
      rintro status s₂ ⟨hok, h⟩
      exact ⟨hok, rfl, h⟩
    refine wp_tag_seq (hpower _) ?_
    rintro ⟨status, phy'⟩ s₂ ⟨hok, hband, h₂⟩ hclean
    refine ⟨hok, rfl, hband, started_replay _ fun place hplace => ?_⟩
    rw [h₂.frame place hplace nofun, (h₁ (h₂.clean hclean).1).2.2]
    rfl

/-! ## While the band stays -/

/-- Calls that stay in the band of the start, with any of their accesses failing. -/
inductive Stays (reader : Reader) (phy : PhyConfig) (chip : Chip) : PhyConfig → Chip → Prop
  | nil : Stays reader phy chip phy chip
  | call {phy₁ : PhyConfig} {chip₁ : Chip} (channel : UInt8) (bandwidth : ChannelBandwidth)
      {result : StatusCode × PhyConfig} {s : Switching} :
      Stays reader phy chip phy₁ chip₁ → bandForChannel channel = phy.fCurrentBand →
      Runs SwitchStep (setChannel reader phy₁ channel bandwidth) (.start chip₁) result s →
      Stays reader phy chip result.2 s.chip

/-- The band stays the driver's, and no register of it changes. -/
theorem stays_keeps {reader : Reader} {phy phy' : PhyConfig} {chip chip' : Chip}
    (h : Stays reader phy chip phy' chip') : phy'.fCurrentBand = phy.fCurrentBand ∧
      ∀ e ∈ bandEntries (rfeTypeOf reader) phy.fCurrentBand, chip' e.place = chip e.place := by
  induction h with
  | nil => exact ⟨rfl, fun _ _ => rfl⟩
  | call channel bandwidth _ hchannel hrun ih =>
    obtain ⟨hband, hsame⟩ := ih
    have hout := wp_iff_runs.mp (setChannel_spec reader _) _ _ hrun
    have hstay := hchannel.trans hband.symm
    refine ⟨?_, fun e he => ?_⟩
    · rw [hout.band, hstay, ite_self, hband]
    · rw [hout.stays hstay e (hband.symm ▸ he), hsame e he]

/-- After a faultless start the driver counts itself in 2.4 GHz, and all that goes with that band is
there but for the LNAs, which are left as for 5 GHz. As long as no call leaves the band, no faultless one
in the band makes up for them; the first into 5 GHz does. -/
theorem cold_start (reader : Reader) (chip : Chip) :
    wp SwitchStep (fun r s => s.clean = true →
        r.status = .ok ∧ r.fInitialized = true ∧ Started (rfeTypeOf reader) chip s.chip ∧
          ∀ phy chip', Stays reader r.phy s.chip phy chip' → ∀ channel bandwidth,
            wp SwitchStep (fun _ s' => s'.clean = true →
                (Prescribed (rfeTypeOf reader) channel bandwidth s'.chip ↔
                  bandForChannel channel = .kBand5GHz))
              (setChannel reader phy channel bandwidth) (.start chip'))
      (initializePhy reader fresh) (.start chip) := by
  refine wp_mono (initializePhy_spec reader fresh chip) fun r s h hclean => ?_
  obtain ⟨hok, hinit, hband, hstarted⟩ := h hclean
  refine ⟨hok, hinit, hstarted, fun phy chip' hstays channel bandwidth => ?_⟩
  obtain ⟨hphy, hsame⟩ := stays_keeps hstays
  have h2_4 : r.phy.fCurrentBand = .kBand2_4GHz := hband
  rw [h2_4] at hphy hsame
  have hno : ¬ Matches (rfeTypeOf reader) .kBand2_4GHz chip' := fun hmatches =>
    hstarted.not_matches (Shown.frame hmatches fun e he => (hsame e he).symm)
  refine wp_mono (setChannel_spec reader chip') fun result s' hout hclean' => ?_
  rw [call_prescribes hout hclean', hphy]
  cases bandForChannel channel with
  | kBand2_4GHz => exact iff_of_false (by simp [hno]) nofun
  | kBand5GHz => exact iff_of_true (.inl nofun) rfl

end PhyConfig
end Rtl8814au
