import Mathlib.Data.Fin.VecNotation
import Rtl8814au.EfuseReader.Decode
import Rtl8814au.RegisterIO.Access

/-!
# PhyConfig.Power

The TX power indices: from the EFUSE map into the table of the PHY object, and from there into the
registers of each path.

* `setTxPower`   — `_SetTxPower`.
* `writeTxPower` — what `SetChannel` writes for a channel.
* `PowerGroup`   — the groups that the EFUSE has its indices for; that of
  `channelToGroupIndex` is the only one (`eq_channelToGroupIndex`).
* `tx_power_safe` — each index that is written is a usable one, and the EFUSE's own where that is.
-/

namespace Rtl8814au

inductive ChannelBand
  | kBand2_4GHz
  | kBand5GHz
deriving DecidableEq

inductive ChannelBandwidth
  | kBandwidth20MHz
  | kBandwidth40MHz
  | kBandwidth80MHz
deriving DecidableEq

def kRfPathCount : Nat := 4
def kTxPwrGroupCount2G : Nat := 5
def kTxPwrGroupCount5G : Nat := 14
def kTxPwrGroupCountTotal : Nat := kTxPwrGroupCount2G + kTxPwrGroupCount5G

/-- The PHY object. -/
structure PhyConfig where
  fCurrentChannel : UInt8
  fCurrentBandwidth : ChannelBandwidth
  fCurrentBand : ChannelBand
  fTxPowerIndex : Fin kRfPathCount → Fin kTxPwrGroupCountTotal → UInt8

namespace PhyConfig

open Dialogue EfuseReader RegisterIO

/-- Nothing but register accesses. -/
abbrev PhyIo (α : Type) : Type := Io (fun _ : Empty => Unit) α

def kEfuseTxPwrBase : Nat := 0x010
def kEfuseTxPwrPathStride : Nat := 42
def kEfuseTxPwr5GInPath : Nat := 18

def kTxPwrIndexMax : UInt8 := 0x3F
def kTxPwrDefault2G : UInt8 := 0x2D
def kTxPwrDefault5G : UInt8 := 0x2A

def kChannelList5G : List UInt8 :=
  [36, 40, 44, 48, 52, 56, 60, 64, 100, 104, 108, 112, 116, 120, 124, 128, 132, 136, 140, 144,
    149, 153, 157, 161, 165, 169, 173, 177]

def kRegTxPwrCCK : Fin kRfPathCount → Nat := ![0x0C20, 0x0E20, 0x1820, 0x1A20]
def kRegTxPwrOFDM : Fin kRfPathCount → Nat := ![0x0C24, 0x0E24, 0x1824, 0x1A24]
def kRegTxPwrHT1 : Fin kRfPathCount → Nat := ![0x0C28, 0x0E28, 0x1828, 0x1A28]
def kRegTxPwrHT2 : Fin kRfPathCount → Nat := ![0x0C2C, 0x0E2C, 0x182C, 0x1A2C]
def kRegTxPwrVHT1 : Fin kRfPathCount → Nat := ![0x0C30, 0x0E30, 0x1830, 0x1A30]
def kRegTxPwrVHT2 : Fin kRfPathCount → Nat := ![0x0C34, 0x0E34, 0x1834, 0x1A34]

/-! ## The table -/

/-- What is read for a group; `map` has `kEfuseMapSize` bytes. -/
def readPowerIndex (map : Buf kEfuseMapSize) (path group : Nat) : UInt8 :=
  let pathBase := kEfuseTxPwrBase + path * kEfuseTxPwrPathStride
  if group < kTxPwrGroupCount2G then
    let offset2G := pathBase + kTxPwrGroupCount2G + 1
    if offset2G + group < kEfuseMapSize then map.bytes.at (offset2G + group) else kTxPwrDefault2G
  else
    let offset5G := pathBase + kEfuseTxPwr5GInPath
    let inBand := group - kTxPwrGroupCount2G
    if offset5G + inBand < kEfuseMapSize then map.bytes.at (offset5G + inBand) else kTxPwrDefault5G

/-- The second pass over the table. -/
def validatedIndex (group : Nat) (index : UInt8) : UInt8 :=
  if index ≠ 0 ∧ index ≤ kTxPwrIndexMax then index
  else if kTxPwrGroupCount2G ≤ group then kTxPwrDefault5G else kTxPwrDefault2G

def powerTable (efuseMap : Option (Buf kEfuseMapSize)) (path : Fin kRfPathCount)
    (group : Fin kTxPwrGroupCountTotal) : UInt8 :=
  match efuseMap with
  | none => 0x24
  | some map => validatedIndex group (readPowerIndex map path group)

/-- The position of a channel in the list, from `i` on. -/
def positionIn5G (channel : UInt8) : List UInt8 → (i : Nat) → Option Nat
  | [], _ => none
  | c :: cs, i => if c = channel then some i else positionIn5G channel cs (i + 1)

def channelToGroupIndex (channel : UInt8) : Nat :=
  if channel ≤ 2 then 0
  else if channel ≤ 5 then 1
  else if channel ≤ 8 then 2
  else if channel ≤ 11 then 3
  else if channel ≤ 14 then 4
  else
    match positionIn5G channel kChannelList5G 0 with
    | some i => kTxPwrGroupCount2G + i / 2
    | none => kTxPwrGroupCount2G + kTxPwrGroupCount5G - 1

def getTxPowerIndex (phy : PhyConfig) (path : Fin kRfPathCount) (channel : UInt8) : UInt8 :=
  let groupIndex := channelToGroupIndex channel
  if h : groupIndex < kTxPwrGroupCountTotal then phy.fTxPowerIndex path ⟨groupIndex, h⟩ else 0x24

/-! ## The registers -/

/-- The registers of the rate groups. -/
def txPwrRegisters (path : Fin kRfPathCount) : List Nat :=
  [kRegTxPwrCCK path, kRegTxPwrOFDM path, kRegTxPwrHT1 path, kRegTxPwrHT2 path, kRegTxPwrVHT1 path,
    kRegTxPwrVHT2 path]

/-- The same index for four rates. -/
def powerVal (powerIndex : UInt8) : Nat :=
  powerIndex.toNat ||| powerIndex.toNat <<< 8 ||| powerIndex.toNat <<< 16 ||| powerIndex.toNat <<< 24

/-- Writes whose status is not looked at. -/
def writeEach (value : Nat) : List Nat → PhyIo Unit
  | [] => pure ()
  | register :: rest => do
    let _ ← write32 register value
    writeEach value rest

def writeTxPowerIndex (path : Fin kRfPathCount) (powerIndex : UInt8) : PhyIo StatusCode := do
  writeEach (powerVal powerIndex) (txPwrRegisters path)
  pure .ok

/-- The label `apply`, for the paths that are left. -/
def applyTxPower (phy : PhyConfig) : List (Fin kRfPathCount) → PhyIo StatusCode
  | [] => pure .ok
  | path :: rest => do
    let status ← writeTxPowerIndex path (phy.getTxPowerIndex path phy.fCurrentChannel)
    if status ≠ StatusCode.ok then pure status else applyTxPower phy rest

/-- `efuseMap` is what `Map()` gives, where `none` is the null pointer. -/
def setTxPower (phy : PhyConfig) (efuseMap : Option (Buf kEfuseMapSize)) :
    PhyIo (StatusCode × PhyConfig) := do
  let phy := { phy with fTxPowerIndex := powerTable efuseMap }
  let status ← phy.applyTxPower (List.finRange kRfPathCount)
  pure (status, phy)

/-- The loop of `SetChannel`. -/
def writeTxPower (phy : PhyConfig) (channel : UInt8) : List (Fin kRfPathCount) → PhyIo Unit
  | [] => pure ()
  | path :: rest => do
    let _ ← writeTxPowerIndex path (phy.getTxPowerIndex path channel)
    writeTxPower phy channel rest

/-! ## The indices -/

/-- Where the EFUSE has the index of a path and a group: behind the CCK groups, or in the part for
5 GHz. -/
def powerOffset (path group : Nat) : Nat :=
  0x10 + 42 * path + if group < 5 then 6 + group else 18 + (group - 5)

/-- An index that gives power, and that the hardware has. -/
def Usable (index : UInt8) : Prop := 1 ≤ index ∧ index ≤ 0x3F

theorem usable_iff {index : UInt8} : Usable index ↔ index ≠ 0 ∧ index ≤ kTxPwrIndexMax := by
  have hpos : 1 ≤ index ↔ index ≠ 0 := by
    rw [UInt8.le_iff_toNat_le, ne_eq, ← UInt8.toNat_inj]
    exact Nat.one_le_iff_ne_zero
  rw [Usable, hpos]
  rfl

theorem usable_validatedIndex (group : Nat) (index : UInt8) : Usable (validatedIndex group index) := by
  rw [validatedIndex]
  split
  · rename_i hvalid
    exact usable_iff.mpr hvalid
  · split
    · exact usable_iff.mpr (by decide)
    · exact usable_iff.mpr (by decide)

/-- The blocks of all paths are inside the map. -/
theorem readPowerIndex_eq (map : Buf kEfuseMapSize) (path : Fin kRfPathCount)
    (group : Fin kTxPwrGroupCountTotal) :
    readPowerIndex map path group = map.bytes.at (powerOffset path group) := by
  have hpath : path.val < 4 := path.isLt
  have hgroup : group.val < 19 := group.isLt
  have hsize : kEfuseMapSize = 512 := rfl
  have hbase : kEfuseTxPwrBase = 0x10 := rfl
  have hstride : path.val * kEfuseTxPwrPathStride = 42 * path.val := Nat.mul_comm _ _
  have hcount : kTxPwrGroupCount2G = 5 := rfl
  have hpart : kEfuseTxPwr5GInPath = 18 := rfl
  by_cases hband : group.val < kTxPwrGroupCount2G
  · have hoffset : kEfuseTxPwrBase + path.val * kEfuseTxPwrPathStride + kTxPwrGroupCount2G + 1 +
        group.val = powerOffset path group := by
      rw [powerOffset, if_pos (show group.val < 5 from hband)]
      omega
    have hinside : powerOffset path group < kEfuseMapSize := by omega
    simp only [readPowerIndex, if_pos hband, hoffset, if_pos hinside]
  · have hoffset : kEfuseTxPwrBase + path.val * kEfuseTxPwrPathStride + kEfuseTxPwr5GInPath +
        (group.val - kTxPwrGroupCount2G) = powerOffset path group := by
      rw [powerOffset, if_neg (show ¬ group.val < 5 from hband)]
      omega
    have hinside : powerOffset path group < kEfuseMapSize := by omega
    simp only [readPowerIndex, if_neg hband, hoffset, if_pos hinside]

/-- The groups of the channels: five below 5 GHz, then one for each two channels of the list. Any
other channel has the last one. -/
inductive PowerGroup (channel : UInt8) : Nat → Prop
  | channels1To2 : channel ≤ 2 → PowerGroup channel 0
  | channels3To5 : 3 ≤ channel → channel ≤ 5 → PowerGroup channel 1
  | channels6To8 : 6 ≤ channel → channel ≤ 8 → PowerGroup channel 2
  | channels9To11 : 9 ≤ channel → channel ≤ 11 → PowerGroup channel 3
  | channels12To14 : 12 ≤ channel → channel ≤ 14 → PowerGroup channel 4
  | listed (i : Nat) : kChannelList5G[i]? = some channel → PowerGroup channel (5 + i / 2)
  | unlisted : 15 ≤ channel → channel ∉ kChannelList5G → PowerGroup channel 18

theorem positionIn5G_some {channel : UInt8} {cs : List UInt8} {i k : Nat}
    (h : positionIn5G channel cs i = some k) : i ≤ k ∧ cs[k - i]? = some channel := by
  induction cs generalizing i with
  | nil => cases h
  | cons c cs ih =>
    rw [positionIn5G] at h
    split at h
    · rename_i hc
      cases h
      exact ⟨Nat.le_refl _, by rw [Nat.sub_self, hc]; rfl⟩
    · obtain ⟨hle, hat⟩ := ih h
      have hpos : k - i = (k - (i + 1)) + 1 := by omega
      exact ⟨by omega, by rw [hpos, List.getElem?_cons_succ, hat]⟩

theorem positionIn5G_none {channel : UInt8} {cs : List UInt8} {i : Nat}
    (h : positionIn5G channel cs i = none) : channel ∉ cs := by
  induction cs generalizing i with
  | nil => exact List.not_mem_nil
  | cons c cs ih =>
    rw [positionIn5G] at h
    split at h
    · cases h
    · rename_i hc
      rw [List.mem_cons, not_or]
      exact ⟨fun heq => hc heq.symm, ih h⟩

theorem succ_le_of_not_le {x c : UInt8} (hc : c < 255) (h : ¬ x ≤ c) : c + 1 ≤ x := by
  rw [UInt8.le_iff_toNat_le, UInt8.toNat_add]
  rw [UInt8.le_iff_toNat_le] at h
  rw [UInt8.lt_iff_toNat_lt] at hc
  have hone : (1 : UInt8).toNat = 1 := rfl
  have hmax : (255 : UInt8).toNat = 255 := rfl
  omega

theorem powerGroup_channelToGroupIndex (channel : UInt8) :
    PowerGroup channel (channelToGroupIndex channel) := by
  rw [channelToGroupIndex]
  split_ifs with h2 h5 h8 h11 h14
  · exact .channels1To2 h2
  · exact .channels3To5 (succ_le_of_not_le (by decide) h2) h5
  · exact .channels6To8 (succ_le_of_not_le (by decide) h5) h8
  · exact .channels9To11 (succ_le_of_not_le (by decide) h8) h11
  · exact .channels12To14 (succ_le_of_not_le (by decide) h11) h14
  · split
    · rename_i i hposition
      exact .listed i (positionIn5G_some hposition).2
    · rename_i hposition
      exact .unlisted (succ_le_of_not_le (by decide) h14) (positionIn5G_none hposition)

/-- The list has no channel twice, and none of the lower band. -/
theorem channelToGroupIndex_listed : ∀ i < kChannelList5G.length, ∀ channel ∈ kChannelList5G[i]?,
    channelToGroupIndex channel = 5 + i / 2 := by decide +kernel

theorem PowerGroup.eq_channelToGroupIndex {channel : UInt8} {group : Nat}
    (h : PowerGroup channel group) : channelToGroupIndex channel = group := by
  have hbands : ∀ x : UInt8, (x ≤ 2 → channelToGroupIndex x = 0) ∧
      (3 ≤ x → x ≤ 5 → channelToGroupIndex x = 1) ∧ (6 ≤ x → x ≤ 8 → channelToGroupIndex x = 2) ∧
      (9 ≤ x → x ≤ 11 → channelToGroupIndex x = 3) ∧
      (12 ≤ x → x ≤ 14 → channelToGroupIndex x = 4) ∧
      (15 ≤ x → x ∉ kChannelList5G → channelToGroupIndex x = 18) :=
    Bytes.forall_byte (by decide +kernel)
  obtain ⟨h0, h1, h2, h3, h4, hother⟩ := hbands channel
  cases h with
  | channels1To2 hle => exact h0 hle
  | channels3To5 hge hle => exact h1 hge hle
  | channels6To8 hge hle => exact h2 hge hle
  | channels9To11 hge hle => exact h3 hge hle
  | channels12To14 hge hle => exact h4 hge hle
  | listed i hat =>
    exact channelToGroupIndex_listed i (List.getElem?_eq_some_iff.mp hat).1 channel hat
  | unlisted hge hnot => exact hother hge hnot

theorem PowerGroup.lt {channel : UInt8} {group : Nat} (h : PowerGroup channel group) :
    group < kTxPwrGroupCountTotal := by
  have htotal : kTxPwrGroupCountTotal = 19 := rfl
  have hlist : kChannelList5G.length = 28 := rfl
  cases h with
  | listed i hat =>
    have hi := (List.getElem?_eq_some_iff.mp hat).1
    omega
  | _ => omega

theorem channelToGroupIndex_lt (channel : UInt8) :
    channelToGroupIndex channel < kTxPwrGroupCountTotal :=
  (powerGroup_channelToGroupIndex channel).lt

theorem getTxPowerIndex_eq (phy : PhyConfig) (path : Fin kRfPathCount) (channel : UInt8) :
    phy.getTxPowerIndex path channel =
      phy.fTxPowerIndex path ⟨channelToGroupIndex channel, channelToGroupIndex_lt channel⟩ :=
  dif_pos (channelToGroupIndex_lt channel)

/-! ## What is written -/

theorem le_powerVal (index : UInt8) : Bytes.le 4 (powerVal index) = List.replicate 4 index := by
  rw [powerVal, Bytes.leNat_four]
  exact Bytes.le_leNat [index, index, index, index]

abbrev Exchange : Type := Sigma (Access.Answer fun _ : Empty => Unit)

/-- The writes of an index, for a path. -/
def powerWrites (path : Fin kRfPathCount) (index : UInt8) : List (Access Empty) :=
  (txPwrRegisters path).map fun register => .vendorWrite register (List.replicate 4 index)

theorem writeEach_spec (index : UInt8) (registers : List Nat) (log : List Exchange) :
    wp logged (fun _ log' => log'.map Sigma.fst = log.map Sigma.fst ++
        registers.map fun register => Access.vendorWrite register (List.replicate 4 index))
      (writeEach (powerVal index) registers) log := by
  induction registers generalizing log with
  | nil => exact (List.append_nil _).symm
  | cons register registers ih =>
    refine wp_logged.mpr fun status => wp_mono (ih _) ?_
    intro _ log' hlog
    rw [hlog, List.map_append, List.append_assoc, ← le_powerVal]
    rfl

theorem writeTxPower_spec (phy : PhyConfig) (channel : UInt8) (paths : List (Fin kRfPathCount))
    (log : List Exchange) :
    wp logged (fun _ log' => log'.map Sigma.fst = log.map Sigma.fst ++
        paths.flatMap fun path => powerWrites path (phy.getTxPowerIndex path channel))
      (phy.writeTxPower channel paths) log := by
  induction paths generalizing log with
  | nil => exact (List.append_nil _).symm
  | cons path paths ih =>
    refine wp_bind.mpr (wp_seq (writeEach_spec _ _ _) ?_)
    intro _ log' hpath
    show wp logged _ (phy.writeTxPower channel paths) log'
    refine wp_mono (ih log') ?_
    intro _ log'' hrest
    rw [hrest, hpath, List.flatMap_cons, List.append_assoc]
    rfl

theorem applyTxPower_ok (phy : PhyConfig) (paths : List (Fin kRfPathCount)) (log : List Exchange) :
    wp logged (fun status _ => status = .ok) (phy.applyTxPower paths) log := by
  induction paths generalizing log with
  | nil => exact rfl
  | cons path paths ih => exact wp_bind.mpr (wp_then fun _ log' => ih log')

theorem usable_powerTable (efuseMap : Option (Buf kEfuseMapSize)) (path : Fin kRfPathCount)
    (group : Fin kTxPwrGroupCountTotal) : Usable (powerTable efuseMap path group) := by
  cases efuseMap with
  | none => exact usable_iff.mpr (show (0x24 : UInt8) ≠ 0 ∧ (0x24 : UInt8) ≤ 0x3F by decide)
  | some map => exact usable_validatedIndex _ _

theorem powerTable_eq (map : Buf kEfuseMapSize) (path : Fin kRfPathCount)
    (group : Fin kTxPwrGroupCountTotal) (h : Usable (map.bytes.at (powerOffset path group))) :
    powerTable (some map) path group = map.bytes.at (powerOffset path group) := by
  show validatedIndex group (readPowerIndex map path group) = _
  rw [readPowerIndex_eq, validatedIndex, if_pos (usable_iff.mp h)]

/-- After `setTxPower`, from any EFUSE map or none, and for any channel. -/
theorem tx_power_safe (phy : PhyConfig) (efuseMap : Option (Buf kEfuseMapSize)) (log : List Exchange) :
    wp logged (fun result _ => result.1 = .ok ∧ ∀ channel : UInt8,
        (∃ group, PowerGroup channel group) ∧ ∀ group, PowerGroup channel group →
        channelToGroupIndex channel = group ∧ group < kTxPwrGroupCountTotal ∧
        wp logged (fun _ written => written.map Sigma.fst =
            (List.finRange kRfPathCount).flatMap fun path =>
              powerWrites path (result.2.getTxPowerIndex path channel))
          (result.2.writeTxPower channel (List.finRange kRfPathCount)) [] ∧
        ∀ path : Fin kRfPathCount, Usable (result.2.getTxPowerIndex path channel) ∧
          ∀ map ∈ efuseMap, Usable (map.bytes.at (powerOffset path group)) →
            result.2.getTxPowerIndex path channel = map.bytes.at (powerOffset path group))
      (phy.setTxPower efuseMap) log := by
  refine wp_seq (applyTxPower_ok _ _ log) ?_
  intro status log' hok
  refine ⟨hok, fun channel => ⟨⟨_, powerGroup_channelToGroupIndex channel⟩, ?_⟩⟩
  intro group hgroup
  obtain rfl := hgroup.eq_channelToGroupIndex
  refine ⟨rfl, hgroup.lt, writeTxPower_spec { phy with fTxPowerIndex := powerTable efuseMap }
    channel (List.finRange kRfPathCount) [], ?_⟩
  intro path
  rw [getTxPowerIndex_eq]
  refine ⟨usable_powerTable efuseMap path _, ?_⟩
  intro map hmap husable
  obtain rfl := Option.mem_def.mp hmap
  exact powerTable_eq map path _ husable

end PhyConfig
end Rtl8814au
