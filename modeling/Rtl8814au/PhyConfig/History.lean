import Rtl8814au.PhyConfig.Chip

/-!
# PhyConfig.History

What a call of `SetChannel` leaves in the registers, whatever has gone before.

* `bandEntries`, `channelEntries` — what a band, and a channel with its bandwidth, prescribe.
* `setChannel_spec` — one call, with any of its accesses failing.
* `Session`         — calls, one after the other.
* `channel_history` — after calls that keep the band and the registers together, one that succeeds
  leaves what is prescribed. `stale_band` is a run where they have come apart.
-/

namespace Rtl8814au
namespace PhyConfig

open Dialogue EfuseReader RegisterIO

/-! ## What is prescribed -/

def pinmuxEntries (rfeType : UInt8) (band : ChannelBand) : List Entry :=
  [⟨.bb kRegBBRfePinmux0, 0xFFFFFFFF, pinmux rfeType band⟩,
    ⟨.bb kRegBBRfePinmuxPathB, 0xFFFFFFFF, pinmux rfeType band⟩,
    ⟨.bb kRegBBRfePinmuxPathC, 0xFFFFFFFF, pinmux rfeType band⟩,
    ⟨.bb kRegBBRfePinmuxPathD, 0xFFFFFFFF, pinmuxPathD rfeType band⟩,
    ⟨.bb kRegBBRfePinmuxCoex, kBBRfePinmuxCoexMask, pinmuxCoex rfeType band⟩]

/-- In 5 GHz the gain table is the channel's. -/
def demodulatorEntries : ChannelBand → List Entry
  | .kBand5GHz =>
    [⟨.bb kRegBBCckCheck, 0xFF, kBBCckCheck5GHz⟩,
      ⟨.bb kRegBBCckTxOnly, kBBCckTxOnly5GHz, kBBCckTxOnly5GHz⟩,
      ⟨.bb kRegBBOfdmCckEn, kBBOfdmCckEnOfdm ||| kBBOfdmCckEnCck, kBBOfdmCckEnOfdm⟩]
  | .kBand2_4GHz =>
    [⟨.bb kRegBBAgcTableSelect, kBBAgcTableSelectMask, 0⟩,
      ⟨.bb kRegBBOfdmCckEn, kBBOfdmCckEnOfdm ||| kBBOfdmCckEnCck, kBBOfdmCckEnOfdm ||| kBBOfdmCckEnCck⟩,
      ⟨.bb kRegBBCckCheck, 0xFF, 0⟩,
      ⟨.bb kRegBBCckTxOnly, kBBCckTxOnly5GHz, 0⟩]

def lnaEntry (band : ChannelBand) (path : Fin kRfPathCount) : Entry :=
  ⟨.rf path kRfRegLNA, kRfDataMask, lnaValue band⟩

def txPathEntry (band : ChannelBand) : Entry :=
  ⟨.bb kRegBBTxPath, kBBTxPath2_4GHzBit, if band = .kBand5GHz then 0 else kBBTxPath2_4GHzBit⟩

def bandEntries (rfeType : UInt8) (band : ChannelBand) : List Entry :=
  pinmuxEntries rfeType band ++ (demodulatorEntries band ++
    ((List.finRange kRfPathCount).map (lnaEntry band) ++ [txPathEntry band]))

def fcAreaEntry (channel : UInt8) : Entry :=
  ⟨.bb kRegBBFcArea, kBBFcAreaMask, fcAreaForChannel channel⟩

def channelEntry (channel : UInt8) (path : Fin kRfPathCount) : Entry :=
  ⟨.rf path kRfRegChannelStandalone, kRfChannelBandMask, channelBits channel⟩

def agcEntries (channel : UInt8) : List Entry :=
  if bandForChannel channel = .kBand5GHz then
    [⟨.bb kRegBBAgcTableSelect, kBBAgcTableSelectMask, agcTableForChannel channel⟩]
  else []

def bandwidthCode : ChannelBandwidth → Nat
  | .kBandwidth20MHz => 0
  | .kBandwidth40MHz => 1
  | .kBandwidth80MHz => 2

def filterEntry (bandwidth : ChannelBandwidth) (path : Fin kRfPathCount) : Entry :=
  ⟨.rf path kRfRegChannelStandalone, 0x03 <<< 10, bandwidthCode bandwidth <<< 10⟩

def bandwidthEntries (bandwidth : ChannelBandwidth) : List Entry :=
  [⟨.bb kRegBBBwCtrl, 0x00000003, bandwidthCode bandwidth⟩,
    ⟨.bb kRegBBSubChan, 0x0000000F, 0x00000000⟩,
    ⟨.bb kRegBBAdcClk, 0x30000000, bandwidthCode bandwidth <<< 28⟩,
    ⟨.bb kRegBBDacClk, 0x30000000, bandwidthCode bandwidth <<< 28⟩] ++
  (List.finRange kRfPathCount).map (filterEntry bandwidth)

def channelEntries (channel : UInt8) (bandwidth : ChannelBandwidth) : List Entry :=
  [fcAreaEntry channel] ++ ((List.finRange kRfPathCount).map (channelEntry channel) ++
    (agcEntries channel ++ bandwidthEntries bandwidth))

/-- The registers have what goes with a band. -/
def Matches (rfeType : UInt8) (band : ChannelBand) (chip : Chip) : Prop :=
  Shown (bandEntries rfeType band) chip

/-- They have all that a channel and a bandwidth prescribe. -/
def Prescribed (rfeType channel : UInt8) (bandwidth : ChannelBandwidth) (chip : Chip) : Prop :=
  Matches rfeType (bandForChannel channel) chip ∧ Shown (channelEntries channel bandwidth) chip

/-! ## Registers that are apart -/

theorem apart_of_places {L : List Entry} (places : List Place) (h : L.map Entry.place = places)
    (hnodup : places.Nodup) (hmanaged : ∀ place ∈ places, place ∈ managed) : Apart L where
  nodup := h ▸ hnodup
  managed _ he := hmanaged _ (h ▸ List.mem_map_of_mem he)

theorem apart_bandEntries (rfeType : UInt8) (band : ChannelBand) : Apart (bandEntries rfeType band) := by
  cases band with
  | kBand2_4GHz =>
    exact apart_of_places ((bandEntries 0 .kBand2_4GHz).map Entry.place) rfl (by decide)
      (by decide)
  | kBand5GHz =>
    exact apart_of_places ((bandEntries 0 .kBand5GHz).map Entry.place) rfl (by decide)
      (by decide)

/-! ## The band -/

theorem setRfePinmux_does (rfeType : UInt8) (band : ChannelBand) :
    Does .bandSetup (pinmuxEntries rfeType band) (setRfePinmux rfeType band) :=
  (write_does rfl (by decide) rfl).cons <| (write_does rfl (by decide) rfl).cons <|
    (write_does rfl (by decide) rfl).cons <| (write_does rfl (by decide) rfl).cons <|
      (maskedWrite_does rfl (by decide)).cons .nil

theorem setDemodulators_does (band : ChannelBand) :
    Does .bandSetup (demodulatorEntries band) (setDemodulators band) := by
  cases band with
  | kBand2_4GHz =>
    exact (maskedWrite_does rfl (by decide)).cons <| (maskedWrite_does rfl (by decide)).cons <|
      (write_does rfl (by decide) rfl).cons <| (maskedWrite_does rfl (by decide)).cons .nil
  | kBand5GHz =>
    exact (write_does rfl (by decide) rfl).cons <| (maskedWrite_does rfl (by decide)).cons <|
      (maskedWrite_does rfl (by decide)).cons .nil

theorem writeLNA_does (band : ChannelBand) (path : Fin kRfPathCount) :
    Does .bandSetup [lnaEntry band path] (writeRF path kRfRegLNA (lnaValue band)) := by
  intro _ s
  refine wp_mono (writeRF_reported path (by decide) (by decide) rfl ?_) fun _ _ h => h.progress
  intro _ _ hchannel
  cases hchannel

theorem applyBBTable_does {table : List PhyRegEntry} (h : ∀ entry ∈ table, Plain entry.address) :
    Does .other [] (applyBBTable table) := by
  induction table with
  | nil => exact .nil
  | cons entry table ih =>
    refine (write_plain (h entry List.mem_cons_self)).bind fun status => ?_
    split
    · exact .nil
    · exact ih fun entry' hentry' => h entry' (List.mem_cons_of_mem _ hentry')

theorem plain_gainTable (band : ChannelBand) : ∀ entry ∈ gainTable band, Plain entry.address := by
  intro entry hentry
  cases band with
  | kBand2_4GHz =>
    obtain ⟨_, _, rfl⟩ := List.mem_map.mp hentry
    exact show Plain 0x81C by decide
  | kBand5GHz =>
    obtain ⟨address, haddress, hentry⟩ := List.mem_flatMap.mp hentry
    obtain ⟨_, _, rfl⟩ := List.mem_map.mp hentry
    have hplain : ∀ address ∈ [0xC78, 0xE78, 0x1878, 0x1A78], Plain address := by decide
    exact hplain address haddress

theorem switchBand_spec (rfeType : UInt8) (band : ChannelBand) (s : Switching) :
    wp SwitchStep (fun status s' => status = .ok ∧
        Progress .bandSetup (bandEntries rfeType band) s s') (switchBand rfeType band) s := by
  have hapart := apart_bandEntries rfeType band
  have hdemodulators := hapart.right
  have hpaths := hdemodulators.right
  refine wp_tag_seq (setRfePinmux_does rfeType band hapart.left s) ?_
  intro _ s₁ hpinmux
  refine wp_tag_seq (setDemodulators_does band hdemodulators.left s₁) ?_
  intro _ s₂ hdemodulator
  refine wp_tag_seq (Does.forPaths (writeLNA_does band) _ hpaths.left s₂) ?_
  intro _ s₃ hlna
  refine wp_tag_seq (applyBBTable_does (plain_gainTable band) hpaths.left.left s₃) ?_
  intro _ s₄ hgain
  have htxPath : Does .bandSetup [txPathEntry band] (maskedWrite32 kRegBBTxPath kBBTxPath2_4GHzBit
      (if band = .kBand5GHz then 0 else kBBTxPath2_4GHzBit)) := maskedWrite_does rfl (by decide)
  refine wp_tag_seq (htxPath hpaths.right s₄) ?_
  intro _ s₅ htx
  have hrest := hgain.of_other.trans htx hpaths.right
  exact ⟨rfl, hpinmux.trans (hdemodulator.trans (hlna.trans hrest hpaths) hdemodulators) hapart⟩

/-! ## The channel -/

theorem apart_channelEntries (channel : UInt8) :
    Apart ((List.finRange kRfPathCount).map (channelEntry channel)) :=
  apart_of_places ((List.finRange kRfPathCount).map fun path =>
    .rf path kRfRegChannelStandalone) (List.map_map ..) (by decide) (by decide)

/-- Where a write fails, the rest is left out. -/
theorem Progress.stop {L L' : List Entry} {s s' : Switching} (h : Progress .tuning L s s')
    (hclean : s'.clean = false) : Progress .tuning (L ++ L') s s' where
  frame place hplace hne := h.frame place hplace fun e he => hne e (List.mem_append_left _ he)
  clean hclean' := by
    rw [hclean] at hclean'
    cases hclean'
  missed := nofun
  reached := nofun
  beyond := h.beyond
  untuned := h.untuned
  channel := h.channel

theorem tune_spec (channel : UInt8) {paths : List (Fin kRfPathCount)}
    (hapart : Apart (paths.map (channelEntry channel))) (s : Switching) :
    wp SwitchStep (Reported .tuning (paths.map (channelEntry channel)) s) (tune channel paths) s := by
  induction paths generalizing s with
  | nil => exact ⟨.rfl, fun _ => rfl, fun _ => (Bool.or_false _).symm⟩
  | cons path paths ih =>
    refine wp_tag_seq (readRF_spec path) ?_
    rintro rfValue s₁ ⟨hread, _, _⟩
    refine wp_tag_seq (writeRF_reported path (by decide) (by decide)
      (Fields.merge_and (by decide) rfValue (channelBits channel)) fun h => absurd rfl h) ?_
    intro status s₂ hwrite
    have huntuned : s₂.untuned = (s.untuned || decide (status ≠ .ok)) := by
      rw [hwrite.untuned rfl, hread.untuned nofun]
    have hprogress : Progress .tuning [channelEntry channel path] s s₂ :=
      hread.of_other.trans hwrite.progress (hapart.left (L := [_]))
    show wp SwitchStep _ (if status ≠ StatusCode.ok then pure status else tune channel paths) s₂
    by_cases hstatus : status = .ok
    · rw [if_neg (not_not.mpr hstatus)]
      refine wp_mono (ih (hapart.right (L := [_])) s₂) ?_
      intro status' s₃ hrest
      refine ⟨hprogress.trans hrest.progress hapart, hrest.ok, fun _ => ?_⟩
      rw [hrest.untuned rfl, huntuned, hstatus]
      simp
    · rw [if_pos hstatus]
      have hclean : s₂.clean = false := Bool.eq_false_iff.mpr fun hclean => hstatus (hwrite.ok hclean)
      exact ⟨hprogress.stop hclean, hwrite.ok, fun _ => huntuned⟩

/-! ## What comes after it -/

theorem selectAgcTable_does (channel : UInt8) :
    Does .other (agcEntries channel) (selectAgcTable channel) := by
  rw [agcEntries, selectAgcTable]
  split
  · exact (maskedWrite_does rfl (by decide)).cons .nil
  · exact .nil

theorem setBandwidth_eq (bandwidth : ChannelBandwidth) :
    setBandwidth bandwidth = setBandwidthTo (bandwidthCode bandwidth) (bandwidthCode bandwidth <<< 28)
      (bandwidthCode bandwidth) := by
  cases bandwidth <;> rfl

theorem setBandwidth_does (bandwidth : ChannelBandwidth) :
    Does .other (bandwidthEntries bandwidth) (setBandwidth bandwidth) := by
  rw [setBandwidth_eq]
  have hfilters : Does .other ((List.finRange kRfPathCount).map (filterEntry bandwidth))
      (forPaths (setFilter (bandwidthCode bandwidth)) (List.finRange kRfPathCount) >>=
        fun _ => pure StatusCode.ok) := by
    rw [← List.append_nil (List.map _ _)]
    exact (Does.forPaths (fun path => setFilter_does path _) _).bind fun _ => .nil
  exact (maskedWrite_does rfl (by decide)).cons <| (maskedWrite_does rfl (by decide)).cons <|
    (maskedWrite_does rfl (by decide)).cons <| (maskedWrite_does rfl (by decide)).cons hfilters

theorem setBandwidth_ok (bandwidth : ChannelBandwidth) {t : Phase} {s : Switching} :
    wp (stepIn t) (fun status _ => status = .ok) (setBandwidth bandwidth) s := by
  rw [setBandwidth_eq]
  refine wp_then fun _ _ => ?_
  refine wp_then fun _ _ => ?_
  refine wp_then fun _ _ => ?_
  refine wp_then fun _ _ => ?_
  exact wp_then fun _ _ => rfl

theorem plain_txPwrRegisters (path : Fin kRfPathCount) :
    ∀ register ∈ txPwrRegisters path, Plain register := by
  revert path
  decide

theorem writeEach_does {value : Nat} {registers : List Nat}
    (h : ∀ register ∈ registers, Plain register) : Does .other [] (writeEach value registers) := by
  induction registers with
  | nil => exact .nil
  | cons register registers ih =>
    refine (write_plain (h register List.mem_cons_self)).bind fun _ => ?_
    exact ih fun register' hregister' => h register' (List.mem_cons_of_mem _ hregister')

theorem writeTxPower_does (phy : PhyConfig) (channel : UInt8) (paths : List (Fin kRfPathCount)) :
    Does .other [] (phy.writeTxPower channel paths) := by
  induction paths with
  | nil => exact .nil
  | cons path paths ih =>
    have hindex : Does .other []
        (writeTxPowerIndex path (phy.getTxPowerIndex path channel)) :=
      (writeEach_does (plain_txPwrRegisters path)).bind fun _ => .nil
    exact hindex.bind fun _ => ih

theorem readPaths_does (paths : List (Fin kRfPathCount)) :
    Does .other [] (forPaths (fun path => readRF path kRfRegChannelStandalone) paths) := by
  induction paths with
  | nil => exact .nil
  | cons path paths ih =>
    have hread : Does .other [] (readRF path kRfRegChannelStandalone) := read_does.bind fun _ => .nil
    exact hread.bind fun _ => ih

theorem logRegisters_does : Does .other [] logRegisters :=
  read_does.bind fun _ => read_does.bind fun _ => read_does.bind fun _ => read_does.bind fun _ =>
    read_does.bind fun _ => readPaths_does _

theorem finishChannel_spec (phy : PhyConfig) (channel : UInt8) (bandwidth : ChannelBandwidth)
    (hapart : Apart (bandwidthEntries bandwidth)) (s : Switching) :
    wp (stepIn .other) (fun result s' => Progress .other (bandwidthEntries bandwidth) s s' ∧
        result.1 = .ok ∧ result.2.fCurrentBand = bandForChannel channel)
      (phy.finishChannel channel bandwidth) s := by
  refine wp_seq (wp_and (setBandwidth_does bandwidth hapart s) (setBandwidth_ok bandwidth)) ?_
  rintro status s₁ ⟨hbandwidth, rfl⟩
  rw [if_neg (not_not.mpr rfl)]
  refine wp_seq (writeTxPower_does phy channel _ .nil s₁) ?_
  intro _ s₂ hpower
  have hdone := hbandwidth.after hpower hapart
  dsimp only
  split
  · refine wp_seq (logRegisters_does .nil s₂) ?_
    intro _ s₃ hlog
    exact ⟨hdone.after hlog hapart, rfl, rfl⟩
  · exact ⟨hdone, rfl, rfl⟩

/-! ## A call -/

/-- What follows the band switch. -/
def settle (phy : PhyConfig) (channel : UInt8) (bandwidth : ChannelBandwidth) :
    SwitchIo (StatusCode × PhyConfig) := do
  let _ ← tag .other (maskedWrite32 kRegBBFcArea kBBFcAreaMask (fcAreaForChannel channel))
  let status ← tune channel (List.finRange kRfPathCount)
  if status ≠ StatusCode.ok then pure (status, phy)
  else
    tag .other (selectAgcTable channel)
    tag .other (phy.finishChannel channel bandwidth)

theorem setChannel_switches {reader : Reader} {phy : PhyConfig} {channel : UInt8}
    {bandwidth : ChannelBandwidth} (h : bandForChannel channel ≠ phy.fCurrentBand) :
    setChannel reader phy channel bandwidth =
      (switchBand (rfeTypeOf reader) (bandForChannel channel) >>= fun status =>
        if status ≠ StatusCode.ok then pure (status, phy) else phy.settle channel bandwidth) := by
  rw [setChannel, if_pos h]
  rfl

theorem setChannel_stays {reader : Reader} {phy : PhyConfig} {channel : UInt8}
    {bandwidth : ChannelBandwidth} (h : bandForChannel channel = phy.fCurrentBand) :
    setChannel reader phy channel bandwidth = phy.settle channel bandwidth := by
  rw [setChannel, if_neg (not_not.mpr h)]
  rfl

/-- The registers that are written after the band switch, but for the gain table. -/
def laterPlaces : List Place :=
  [kRegBBFcArea, kRegBBBwCtrl, kRegBBSubChan, kRegBBAdcClk, kRegBBDacClk].map .bb ++
    (List.finRange kRfPathCount).map (.rf · kRfRegChannelStandalone)

theorem place_mem_bandEntries {rfeType : UInt8} {band : ChannelBand} {e : Entry}
    (he : e ∈ bandEntries rfeType band) : e.place ∈ (bandEntries 0 band).map Entry.place := by
  have hplaces : (bandEntries 0 band).map Entry.place = (bandEntries rfeType band).map Entry.place := by
    cases band <;> rfl
  rw [hplaces]
  exact List.mem_map_of_mem he

theorem band_notMem_later {rfeType : UInt8} {band : ChannelBand} {e : Entry}
    (he : e ∈ bandEntries rfeType band) : e.place ∉ laterPlaces := by
  have hplaces : ∀ place ∈ (bandEntries 0 band).map Entry.place, place ∉ laterPlaces := by
    cases band <;> decide
  exact hplaces e.place (place_mem_bandEntries he)

theorem places_bandwidthEntries (bandwidth : ChannelBandwidth) :
    (bandwidthEntries bandwidth).map Entry.place =
      (bandwidthEntries .kBandwidth20MHz).map Entry.place := by
  cases bandwidth <;> rfl

theorem bandwidth_mem_later {bandwidth : ChannelBandwidth} {e : Entry}
    (he : e ∈ bandwidthEntries bandwidth) : e.place ∈ laterPlaces := by
  have hplaces : ∀ place ∈ (bandwidthEntries .kBandwidth20MHz).map Entry.place, place ∈ laterPlaces := by
    decide
  refine hplaces e.place ?_
  rw [← places_bandwidthEntries bandwidth]
  exact List.mem_map_of_mem he

theorem channel_mem_later {channel : UInt8} {e : Entry}
    (he : e ∈ (List.finRange kRfPathCount).map (channelEntry channel)) : e.place ∈ laterPlaces := by
  obtain ⟨path, hpath, rfl⟩ := List.mem_map.mp he
  exact List.mem_append_right _ (List.mem_map_of_mem hpath)

theorem agc_place {channel : UInt8} {e : Entry} (he : e ∈ agcEntries channel) :
    bandForChannel channel = .kBand5GHz ∧ e.place = .bb kRegBBAgcTableSelect := by
  rw [agcEntries] at he
  split at he
  · rename_i hband
    obtain rfl := List.mem_singleton.mp he
    exact ⟨hband, rfl⟩
  · cases he

theorem agc_ne_band {rfeType channel : UInt8} {e e' : Entry} (he' : e' ∈ agcEntries channel)
    (he : e ∈ bandEntries rfeType (bandForChannel channel)) : e'.place ≠ e.place := by
  obtain ⟨hband, hplace⟩ := agc_place he'
  have hplaces : .bb kRegBBAgcTableSelect ∉ (bandEntries 0 .kBand5GHz).map Entry.place := by decide
  rw [hband] at he
  intro heq
  rw [hplace] at heq
  exact hplaces (heq ▸ place_mem_bandEntries he)

theorem area_ne_after {channel : UInt8} {bandwidth : ChannelBandwidth} {e : Entry}
    (he : e ∈ agcEntries channel ++ bandwidthEntries bandwidth) : e.place ≠ .bb kRegBBFcArea := by
  rcases List.mem_append.mp he with he | he
  · rw [(agc_place he).2]
    decide
  · have hplaces : .bb kRegBBFcArea ∉ (bandwidthEntries .kBandwidth20MHz).map Entry.place := by decide
    intro heq
    refine hplaces ?_
    rw [← heq, ← places_bandwidthEntries bandwidth]
    exact List.mem_map_of_mem he

theorem apart_after (channel : UInt8) (bandwidth : ChannelBandwidth) :
    Apart (agcEntries channel ++ bandwidthEntries bandwidth) := by
  rw [agcEntries]
  split
  · refine apart_of_places (.bb kRegBBAgcTableSelect ::
      (bandwidthEntries .kBandwidth20MHz).map Entry.place) ?_ (by decide) (by decide)
    rw [← places_bandwidthEntries bandwidth]
    rfl
  · exact apart_of_places _ (places_bandwidthEntries bandwidth) (by decide) (by decide)

section

variable {rfeType : UInt8} {phy : PhyConfig} {channel : UInt8} {bandwidth : ChannelBandwidth}

/-- What has been set up for a band is left alone. -/
theorem Progress.keeps_band {t : Phase} {L : List Entry} {s s' : Switching} (h : Progress t L s s')
    {band : ChannelBand} {e : Entry} (he : e ∈ bandEntries rfeType band)
    (hne : ∀ e' ∈ L, e'.place ≠ e.place) : s'.chip e.place = s.chip e.place :=
  h.frame e.place ((apart_bandEntries rfeType band).managed e he) hne

/-- Where everything after the band switch ends. -/
structure Settled (rfeType : UInt8) (phy : PhyConfig) (channel : UInt8) (bandwidth : ChannelBandwidth)
    (s : Switching) (result : StatusCode × PhyConfig) (s' : Switching) : Prop where
  missed : s'.missed = s.missed
  reached : s'.reached = s.reached
  ok : result.1 = .ok ↔ s'.untuned = false
  band : result.2.fCurrentBand = if s'.untuned then phy.fCurrentBand else bandForChannel channel
  same : ∀ band, band = bandForChannel channel ∨ s'.untuned = true →
    ∀ e ∈ bandEntries rfeType band, s'.chip e.place = s.chip e.place
  clean : s'.clean = true → s.clean = true ∧ Shown (channelEntries channel bandwidth) s'.chip

theorem settle_spec (rfeType : UInt8) {s : Switching} (hs : s.untuned = false) :
    wp SwitchStep (Settled rfeType phy channel bandwidth s) (phy.settle channel bandwidth) s := by
  have harea : Does .other [fcAreaEntry channel]
      (maskedWrite32 kRegBBFcArea kBBFcAreaMask (fcAreaForChannel channel)) :=
    maskedWrite_does rfl (by decide)
  have hone : Apart [fcAreaEntry channel] :=
    apart_of_places [.bb kRegBBFcArea] rfl (by decide) (by decide)
  refine wp_tag_seq (harea hone s) ?_
  intro _ s₁ harea
  refine wp_seq (tune_spec channel (apart_channelEntries channel) s₁) ?_
  intro status s₂ htune
  have hmissed : s₂.missed = s.missed :=
    (htune.progress.beyond (by decide)).1.trans (harea.beyond (by decide)).1
  have hreached : s₂.reached = s.reached :=
    (htune.progress.beyond (by decide)).2.trans (harea.beyond (by decide)).2
  have huntuned : s₂.untuned = decide (status ≠ .ok) := by
    rw [htune.untuned rfl, harea.untuned (by decide), hs, Bool.false_or]
  have hsame : ∀ band, ∀ e ∈ bandEntries rfeType band, s₂.chip e.place = s.chip e.place := by
    intro band e he
    have hlater := band_notMem_later he
    rw [htune.progress.keeps_band he fun e' he' heq => hlater (heq ▸ channel_mem_later he'),
      harea.keeps_band he fun e' he' heq => hlater ?_]
    obtain rfl := List.mem_singleton.mp he'
    exact heq ▸ List.mem_cons_self
  show wp SwitchStep _ (if status ≠ StatusCode.ok then pure (status, phy) else _) s₂
  by_cases hstatus : status = .ok
  · rw [if_neg (not_not.mpr hstatus)]
    have hapart := apart_after channel bandwidth
    refine wp_tag_seq (selectAgcTable_does channel hapart.left s₂) ?_
    intro _ s₃ hagc
    refine wp_tag.mpr (wp_mono (finishChannel_spec phy channel bandwidth hapart.right s₃) ?_)
    rintro result s₄ ⟨hfinish, hok, hband⟩
    have hafter := hagc.trans hfinish hapart
    have htuned : s₄.untuned = false := by
      rw [hafter.untuned (by decide), huntuned, decide_eq_false (not_not.mpr hstatus)]
    refine ⟨(hafter.beyond (by decide)).1.trans hmissed, (hafter.beyond (by decide)).2.trans hreached,
      iff_of_true hok htuned, ?_, ?_, ?_⟩
    · rw [hband, htuned]
      rfl
    · rintro band (rfl | hnot) e he
      · rw [hafter.keeps_band he ?_, hsame _ e he]
        intro e' he'
        rcases List.mem_append.mp he' with he' | he'
        · exact agc_ne_band he' he
        · exact fun heq => band_notMem_later he (heq ▸ bandwidth_mem_later he')
      · rw [htuned] at hnot
        cases hnot
    · intro hclean
      obtain ⟨hclean₂, _, hshown⟩ := hafter.clean hclean
      obtain ⟨hclean₁, _, hchannels⟩ := htune.progress.clean hclean₂
      obtain ⟨hclean₀, _, hfcArea⟩ := harea.clean hclean₁
      refine ⟨hclean₀, (hfcArea.frame ?_).append (Shown.append ?_ hshown)⟩
      · intro e he
        obtain rfl := List.mem_singleton.mp he
        have hmanaged : .bb kRegBBFcArea ∈ managed := by decide
        show s₄.chip (.bb kRegBBFcArea) = s₁.chip (.bb kRegBBFcArea)
        rw [hafter.frame _ hmanaged fun e' he' => area_ne_after he',
          htune.progress.frame _ hmanaged fun e' he' => ?_]
        obtain ⟨path, _, rfl⟩ := List.mem_map.mp he'
        intro heq
        cases heq
      · intro e he
        obtain ⟨path, _, rfl⟩ := List.mem_map.mp he
        exact (hafter.channel (by decide) hclean path).trans (hchannels _ he)
  · rw [if_pos hstatus]
    have hstopped : s₂.untuned = true := by rw [huntuned, decide_eq_true hstatus]
    refine ⟨hmissed, hreached, ?_, ?_, fun band _ => hsame band, ?_⟩
    · rw [hstopped]
      exact iff_of_false hstatus (by decide)
    · rw [hstopped]
      rfl
    · exact fun hclean => absurd (htune.ok hclean) hstatus

/-- Where a call ends. -/
structure Outcome (rfeType : UInt8) (phy : PhyConfig) (channel : UInt8) (bandwidth : ChannelBandwidth)
    (chip : Chip) (result : StatusCode × PhyConfig) (s : Switching) : Prop where
  ok : result.1 = .ok ↔ s.untuned = false
  band : result.2.fCurrentBand = if s.untuned then phy.fCurrentBand else bandForChannel channel
  stays : bandForChannel channel = phy.fCurrentBand →
    ∀ e ∈ bandEntries rfeType phy.fCurrentBand, s.chip e.place = chip e.place
  switched : bandForChannel channel ≠ phy.fCurrentBand → s.missed = false →
    Matches rfeType (bandForChannel channel) s.chip
  untouched : bandForChannel channel ≠ phy.fCurrentBand → s.reached = false → s.untuned = true →
    ∀ e ∈ bandEntries rfeType phy.fCurrentBand, s.chip e.place = chip e.place
  clean : s.clean = true →
    s.missed = false ∧ Shown (channelEntries channel bandwidth) s.chip

theorem setChannel_spec (reader : Reader) (chip : Chip) :
    wp SwitchStep (Outcome (rfeTypeOf reader) phy channel bandwidth chip)
      (setChannel reader phy channel bandwidth) (.start chip) := by
  have hapart := apart_bandEntries (rfeTypeOf reader) phy.fCurrentBand
  by_cases hswitch : bandForChannel channel = phy.fCurrentBand
  · rw [setChannel_stays hswitch]
    refine wp_mono (settle_spec (rfeTypeOf reader) rfl) ?_
    intro result s h
    refine ⟨h.ok, h.band, fun _ => h.same _ (.inl hswitch.symm), fun hne => absurd hswitch hne,
      fun hne => absurd hswitch hne, fun hclean => ?_⟩
    exact ⟨h.missed, (h.clean hclean).2⟩
  · rw [setChannel_switches hswitch]
    refine wp_seq (switchBand_spec (rfeTypeOf reader) _ (.start chip)) ?_
    rintro status s₁ ⟨rfl, hband⟩
    show wp SwitchStep _ (phy.settle channel bandwidth) s₁
    refine wp_mono (settle_spec (rfeTypeOf reader) (hband.untuned nofun)) ?_
    intro result s h
    refine ⟨h.ok, h.band, fun heq => absurd heq hswitch, ?_, ?_, ?_⟩
    · intro _ hmissed
      obtain ⟨_, hshown⟩ := hband.missed rfl (h.missed ▸ hmissed)
      exact hshown.frame (h.same _ (.inl rfl))
    · intro _ hreached huntuned e he
      obtain ⟨_, hsame⟩ := hband.reached rfl (h.reached ▸ hreached)
      rw [h.same _ (.inr huntuned) e he]
      exact hsame e.place (hapart.managed e he)
    · intro hclean
      obtain ⟨hclean₁, hshown⟩ := h.clean hclean
      obtain ⟨_, hmissed, _⟩ := hband.clean hclean₁
      exact ⟨h.missed.trans hmissed, hshown⟩

/-! ## Calls -/

/-- Whether the band and the registers may have come apart, by what happened to a call. One that stops
at a tuning write keeps the band, and one that does not takes the new one. -/
def staleAfter (phy : PhyConfig) (channel : UInt8) (stale : Bool) (s : Switching) : Bool :=
  if bandForChannel channel = phy.fCurrentBand then stale
  else if s.untuned then stale || s.reached
  else s.missed

theorem call_keeps {chip : Chip} {result : StatusCode × PhyConfig} {s : Switching} {stale : Bool}
    (h : Outcome rfeType phy channel bandwidth chip result s)
    (hmatches : stale = false → Matches rfeType phy.fCurrentBand chip)
    (hstale : staleAfter phy channel stale s = false) :
    Matches rfeType result.2.fCurrentBand s.chip := by
  rw [staleAfter] at hstale
  by_cases hswitch : bandForChannel channel = phy.fCurrentBand
  · have hband : result.2.fCurrentBand = phy.fCurrentBand := by rw [h.band, hswitch, ite_self]
    rw [if_pos hswitch] at hstale
    rw [hband]
    exact Shown.frame (hmatches hstale) (h.stays hswitch)
  · rw [if_neg hswitch] at hstale
    cases huntuned : s.untuned with
    | false =>
      have hband : result.2.fCurrentBand = bandForChannel channel := by
        rw [h.band, huntuned]
        rfl
      rw [huntuned] at hstale
      rw [hband]
      exact h.switched hswitch hstale
    | true =>
      have hband : result.2.fCurrentBand = phy.fCurrentBand := by
        rw [h.band, huntuned]
        rfl
      rw [huntuned] at hstale
      obtain ⟨hbefore, hreached⟩ := Bool.or_eq_false_iff.mp hstale
      rw [hband]
      exact Shown.frame (hmatches hbefore) (h.untouched hswitch hreached huntuned)

/-- A call in which all accesses succeed. -/
theorem call_prescribes {chip : Chip} {result : StatusCode × PhyConfig} {s : Switching}
    (h : Outcome rfeType phy channel bandwidth chip result s) (hclean : s.clean = true) :
    Prescribed rfeType channel bandwidth s.chip ↔
      bandForChannel channel ≠ phy.fCurrentBand ∨ Matches rfeType phy.fCurrentBand chip := by
  obtain ⟨hmissed, hshown⟩ := h.clean hclean
  by_cases hswitch : bandForChannel channel = phy.fCurrentBand
  · constructor
    · rintro ⟨hmatches, _⟩
      rw [hswitch] at hmatches
      exact .inr (Shown.frame hmatches fun e he => (h.stays hswitch e he).symm)
    · rintro (hne | hmatches)
      · exact absurd hswitch hne
      · refine ⟨?_, hshown⟩
        rw [hswitch]
        exact Shown.frame hmatches (h.stays hswitch)
  · exact iff_of_true ⟨h.switched hswitch hmissed, hshown⟩ (.inl hswitch)

end

/-- Calls one after the other, on any channels, with any of their accesses failing. -/
inductive Session (reader : Reader) (phy : PhyConfig) (chip : Chip) : PhyConfig → Chip → Bool → Prop
  | nil : Session reader phy chip phy chip false
  | call {phy₁ : PhyConfig} {chip₁ : Chip} {stale : Bool} (channel : UInt8)
      (bandwidth : ChannelBandwidth) {result : StatusCode × PhyConfig} {s : Switching} :
      Session reader phy chip phy₁ chip₁ stale →
      Runs SwitchStep (setChannel reader phy₁ channel bandwidth) (.start chip₁) result s →
      Session reader phy chip result.2 s.chip (staleAfter phy₁ channel stale s)

theorem session_keeps {reader : Reader} {phy phy' : PhyConfig} {chip chip' : Chip} {stale : Bool}
    (h : Session reader phy chip phy' chip' stale)
    (hmatches : Matches (rfeTypeOf reader) phy.fCurrentBand chip) :
    stale = false → Matches (rfeTypeOf reader) phy'.fCurrentBand chip' := by
  induction h with
  | nil => exact fun _ => hmatches
  | call channel bandwidth _ hrun ih =>
    exact call_keeps (wp_iff_runs.mp (setChannel_spec reader _) _ _ hrun) ih

/-! ## Runs from 2.4 GHz -/

/-- A board of class 1 on 2.4 GHz. -/
def chip2_4GHz : Chip
  | .bb 0x0CB0 | .bb 0x0EB0 | .bb 0x18B4 | .bb 0x1AB4 => 0x77777777
  | .bb 0x1ABC => 0x07700000
  | .bb 0x0808 => 0x30000000
  | .bb 0x080C => 0x20
  | _ => 0

def reader1 : Reader := ⟨.fill kEfuseMapSize 1, true⟩

theorem rfeTypeOf_reader1 : rfeTypeOf reader1 = 1 := by
  have hbyte : reader1.fMap.bytes.at kEfuseRfeType = 1 := Buf.at_fill (by decide)
  rw [rfeTypeOf, hbyte]
  rfl

def phy2_4GHz : PhyConfig := ⟨1, .kBandwidth20MHz, .kBand2_4GHz, fun _ _ => 0x24⟩

theorem matches_chip2_4GHz : Matches (rfeTypeOf reader1) .kBand2_4GHz chip2_4GHz := by
  rw [rfeTypeOf_reader1]
  unfold Matches Shown Holds
  decide

/-- Every request can be met. -/
theorem step_succeeds {s : Switching} (hs : s.clean = true) (i : Phase × Access Empty) :
    ∃ r s', SwitchStep s i r s' ∧ s'.clean = true := by
  obtain ⟨phase, access⟩ := i
  cases access with
  | vendorRead address length => exact ⟨_, s, .read ⟨_, Bytes.length_le length _⟩ rfl, hs⟩
  | vendorWrite address data =>
    refine ⟨_, _, .write .ok (content address (Bytes.leNat data)), ?_⟩
    rw [Switching.written, hs]
    simp
  | call c => exact c.elim

/-- So can every one but a write to a register that keeps its value. -/
theorem step_succeeds_but {s : Switching} {place : Place} {value : Nat} (hplace : s.chip place = value)
    (hs : s.untuned = false) (i : Phase × Access Empty) :
    ∃ r s', SwitchStep s i r s' ∧ s'.chip place = value ∧ s'.untuned = false := by
  obtain ⟨phase, access⟩ := i
  cases access with
  | vendorRead address length => exact ⟨_, s, .read ⟨_, Bytes.length_le length _⟩ rfl, hplace, hs⟩
  | vendorWrite address data =>
    by_cases htarget : place = target address (Bytes.leNat data)
    · refine ⟨_, _, .write (if phase = .tuning then .ok else .ioError) value, ?_, ?_⟩
      · rw [htarget, written_self]
      · rw [Switching.written, hs]
        by_cases hphase : phase = .tuning <;> simp [hphase]
    · refine ⟨_, _, .write .ok (content address (Bytes.leNat data)), ?_, ?_⟩
      · rw [written_ne htarget, hplace]
      · rw [Switching.written, hs]
        simp
  | call c => exact c.elim

/-! ## After any calls -/

/-- After any calls: one in which all accesses succeed leaves what is prescribed if and only if it sets
up the band, or the registers match the one there is, and they do unless they have come apart. -/
theorem channel_history {reader : Reader} {phy phy' : PhyConfig} {chip chip' : Chip} {stale : Bool}
    (hmatches : Matches (rfeTypeOf reader) phy.fCurrentBand chip)
    (hsession : Session reader phy chip phy' chip' stale) (channel : UInt8)
    (bandwidth : ChannelBandwidth) :
    wp SwitchStep (fun _ s => s.clean = true →
        (Prescribed (rfeTypeOf reader) channel bandwidth s.chip ↔
          bandForChannel channel ≠ phy'.fCurrentBand ∨
            Matches (rfeTypeOf reader) phy'.fCurrentBand chip') ∧
        (bandForChannel channel ≠ phy'.fCurrentBand ∨ stale = false →
          Prescribed (rfeTypeOf reader) channel bandwidth s.chip))
      (setChannel reader phy' channel bandwidth) (.start chip') := by
  refine wp_mono (setChannel_spec reader chip') ?_
  intro result s h hclean
  have hiff := call_prescribes h hclean
  refine ⟨hiff, fun hbefore => hiff.mpr ?_⟩
  rcases hbefore with hswitch | hfresh
  · exact .inl hswitch
  · exact .inr (session_keeps hsession hmatches hfresh)

/-- From 2.4 GHz, with a call behind it, into 5 GHz. -/
theorem channel_history_2_4GHz : ∃ phy chip,
    Session reader1 phy2_4GHz chip2_4GHz phy chip false ∧
    wp SwitchStep (fun _ s => s.clean = true →
        (Prescribed (rfeTypeOf reader1) 36 .kBandwidth80MHz s.chip ↔
          bandForChannel 36 ≠ phy.fCurrentBand ∨ Matches (rfeTypeOf reader1) phy.fCurrentBand chip) ∧
        (bandForChannel 36 ≠ phy.fCurrentBand ∨ false = false →
          Prescribed (rfeTypeOf reader1) 36 .kBandwidth80MHz s.chip))
      (setChannel reader1 phy 36 .kBandwidth80MHz) (.start chip) := by
  obtain ⟨result, s, hrun, _⟩ := exists_run
    (p := setChannel reader1 phy2_4GHz 11 .kBandwidth20MHz) (I := fun s : Switching => s.clean = true)
    (fun s hs i => step_succeeds hs i) (s := Switching.start chip2_4GHz) rfl
  have hsession : Session reader1 phy2_4GHz chip2_4GHz result.2 s.chip false :=
    .call 11 .kBandwidth20MHz .nil hrun
  exact ⟨result.2, s.chip, hsession,
    channel_history matches_chip2_4GHz hsession 36 .kBandwidth80MHz⟩

/-- The write of one pinmux register fails, which is not looked at. The call ends as if it had not, and
the next one, in which all goes well, leaves the register as it is. -/
theorem stale_band :
    Matches (rfeTypeOf reader1) phy2_4GHz.fCurrentBand chip2_4GHz ∧ ∃ result₁ s₁ result₂ s₂,
      Runs SwitchStep (setChannel reader1 phy2_4GHz 36 .kBandwidth20MHz) (.start chip2_4GHz) result₁ s₁ ∧
      result₁.1 = .ok ∧
      Runs SwitchStep (setChannel reader1 result₁.2 36 .kBandwidth20MHz) (.start s₁.chip) result₂ s₂ ∧
      s₂.clean = true ∧ s₂.chip (.bb kRegBBRfePinmux0) = 0x77777777 ∧
      ¬ Prescribed (rfeTypeOf reader1) 36 .kBandwidth20MHz s₂.chip := by
  refine ⟨matches_chip2_4GHz, ?_⟩
  obtain ⟨result₁, s₁, hrun₁, hpinmux, htuned⟩ := exists_run
    (p := setChannel reader1 phy2_4GHz 36 .kBandwidth20MHz)
    (I := fun s : Switching => s.chip (.bb kRegBBRfePinmux0) = 0x77777777 ∧ s.untuned = false)
    (fun s hs i => step_succeeds_but hs.1 hs.2 i) (s := Switching.start chip2_4GHz) ⟨rfl, rfl⟩
  obtain ⟨result₂, s₂, hrun₂, hclean⟩ := exists_run
    (p := setChannel reader1 result₁.2 36 .kBandwidth20MHz) (I := fun s : Switching => s.clean = true)
    (fun s hs i => step_succeeds hs i) (s := Switching.start s₁.chip) rfl
  have hfirst := wp_iff_runs.mp (setChannel_spec reader1 chip2_4GHz) _ _ hrun₁
  have hsecond := wp_iff_runs.mp (setChannel_spec reader1 s₁.chip) _ _ hrun₂
  have hband : result₁.2.fCurrentBand = .kBand5GHz := by
    rw [hfirst.band, htuned]
    decide
  have hkept : s₂.chip (.bb kRegBBRfePinmux0) = 0x77777777 := by
    rw [← hpinmux]
    refine hsecond.stays (hband ▸ by decide) ⟨.bb kRegBBRfePinmux0, 0xFFFFFFFF,
      pinmux (rfeTypeOf reader1) result₁.2.fCurrentBand⟩ ?_
    exact List.mem_append_left _ List.mem_cons_self
  refine ⟨result₁, s₁, result₂, s₂, hrun₁, hfirst.ok.mpr htuned, hrun₂, hclean, hkept, ?_⟩
  rintro ⟨hmatches, _⟩
  have hholds := hmatches ⟨.bb kRegBBRfePinmux0, 0xFFFFFFFF, pinmux (rfeTypeOf reader1) .kBand5GHz⟩
    (List.mem_append_left _ List.mem_cons_self)
  rw [rfeTypeOf_reader1, Holds, hkept] at hholds
  exact absurd hholds (by decide)

end PhyConfig
end Rtl8814au
