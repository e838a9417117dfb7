import Rtl8814au.Device.Cam

/-!
# Device.InstallKeys

`_InstallSessionKeys` on the chip: the two keys of a session in the CAM, the hardware cipher off, and
the receive filter bound to the access point.

* `installSessionKeys` — the accesses, with those of the read-back at the end.
* `Installed`          — what they leave on the chip when they are reported as done.
* `Untouched`          — what they leave alone when they are not.
* `session_keys_installed` — the one or the other comes of every run.
-/

namespace Rtl8814au
namespace Cam

open Dialogue RegisterIO

def kRegRCR : Nat := 0x0608
def kRegBSSID : Nat := 0x0618
def kRegMAR : Nat := 0x0620
def kRegSecCfg : Nat := 0x0680

def kRCR_CBSSID_DATA : Nat := 1 <<< 6
def kRCR_CBSSID_BCN : Nat := 1 <<< 7
def kRCR_HTC_LOC_CTRL : Nat := 1 <<< 14
def kRCR_APP_PHYST_RXFF : Nat := 1 <<< 28
def kRCR_APP_ICV : Nat := 1 <<< 29
def kRCR_APP_MIC : Nat := 1 <<< 30

/-- What is set in `RCR` for a session. -/
def rcrBits : Nat := kRCR_CBSSID_DATA ||| kRCR_CBSSID_BCN ||| kRCR_APP_ICV ||| kRCR_APP_MIC |||
  kRCR_APP_PHYST_RXFF ||| kRCR_HTC_LOC_CTRL

def readBssid : List Nat → CamIo Bytes
  | [] => pure []
  | i :: is => do
    let value ← read8 (kRegBSSID + i)
    let bytes ← readBssid is
    pure (UInt8.ofNat value :: bytes)

def writeBssid (bssid : Mac) : List Nat → CamIo Unit
  | [] => pure ()
  | i :: is => do
    let _ ← write8 (kRegBSSID + i) (bssid.bytes.at i).toNat
    writeBssid bssid is

/-- The first two words of an entry are read for the log. -/
def readBack (entry : Nat) : CamIo Unit := do
  let addr := entry <<< 3
  let _ ← write32 kRegCamCmd (kCamCmdPolling ||| addr)
  let _ ← pollCommand 100
  let _ ← read32 kRegCamRead
  let _ ← write32 kRegCamCmd (kCamCmdPolling ||| (addr + 1))
  let _ ← pollCommand 100
  let _ ← read32 kRegCamRead
  pure ()

def groupKey (gtk : Nat → UInt8) (gtkLen : UInt32) (gtkKeyId : UInt8) : Arguments where
  algo := kCamAlgoAES
  keyId := gtkKeyId
  isGroupKey := true
  mac := Buf.zero 6
  key := some gtk
  keyLen := gtkLen

def pairwiseKey (tk : Nat → UInt8) (apMac : Mac) : Arguments where
  algo := kCamAlgoAES
  keyId := 0
  isGroupKey := false
  mac := apMac
  key := some tk
  keyLen := 16

/-- The filter, once the `BSSID` register has been looked at. -/
def bindFilter (fJoinBssid : Mac) : CamIo Unit := do
  let bssidNow ← readBssid (List.range 6)
  if bssidNow ≠ fJoinBssid.bytes then writeBssid fJoinBssid (List.range 6)
  let oldRcr ← read32 kRegRCR
  let _ ← write32 kRegRCR (oldRcr ||| rcrBits)
  pure ()

def installSessionKeys (hasRegisters : Bool) (tk gtk : Option (Nat → UInt8)) (gtkLen : UInt32)
    (gtkKeyId : UInt8) (apMac fJoinBssid : Mac) : CamIo StatusCode :=
  if !hasRegisters then pure .noInit
  else match tk, gtk with
  | some tk, some gtk =>
    if gtkLen ≠ 16 then pure .badValue
    else if 3 < gtkKeyId then pure .badValue
    else do
      let status ← programCamEntry hasRegisters gtkKeyId (groupKey gtk gtkLen gtkKeyId)
      if status ≠ .ok then pure status
      else
        let status ← programCamEntry hasRegisters 4 (pairwiseKey tk apMac)
        if status ≠ .ok then pure status
        else
          let _ ← read16 kRegSecCfg
          let status ← write16 kRegSecCfg 0
          if status ≠ .ok then pure status
          else
            let _ ← write32 (kRegMAR + 0) 0xFFFFFFFF
            let _ ← write32 (kRegMAR + 4) 0xFFFFFFFF
            bindFilter fJoinBssid
            readBack 1
            readBack 4
            pure .ok
  | _, _ => pure .badValue

/-! ## Accesses -/

section

variable {s : Chip}

/-- The registers from `a` on, where none of them is written. -/
theorem Within.load {lo hi a n : Nat} {s' : Chip} (h : Within lo hi s s')
    (hapart : a + n ≤ lo ∨ hi ≤ a) : s'.regs.load a n = s.regs.load a n :=
  RegisterFile.load_congr fun i hi' => h.regs (a + i) (by omega)

/-- What a read gives: the register, or all ones for a read that failed. -/
structure Fetched (address length : Nat) (s : Chip) (value : Nat) (s' : Chip) : Prop where
  within : ∀ lo hi, Within lo hi s s'
  cam : s'.cam = s.cam
  value : value = Bytes.leNat (s.regs.load address length) ∨
    value = 2 ^ (8 * length) - 1 ∧ address ∈ s'.blind

theorem read_spec (length : Nat) {address : Nat} (hcmd : address ≠ kRegCamCmd)
    (hread : address ≠ kRegCamRead) :
    wp CamStep (Fetched address length s) (read length address) s := by
  refine wp_bind.mpr fun answer s' hstep => ?_
  cases hstep with
  | read b h => exact ⟨fun _ _ => .rfl, rfl, .inl (congrArg Bytes.leNat (h hcmd hread))⟩
  | readFails => exact ⟨fun _ _ => .readFails, rfl, .inr ⟨rfl, .head _⟩⟩

/-- What a write leaves: the value, where it arrives. -/
structure Stored (address length value : Nat) (s : Chip) (status : StatusCode) (s' : Chip) : Prop where
  within : Within address (address + length) s s'
  cam : s'.cam = s.cam
  value : status = .ok ∨ address ∉ s'.lost → s'.regs.load address length = Bytes.le length value

theorem write_spec (length value : Nat) {address : Nat} (hcmd : address ≠ kRegCamCmd) :
    wp CamStep (Stored address length value s) (write length address value) s := by
  intro status s' hstep
  have hlength := Bytes.length_le length value
  cases hstep with
  | write _ cam h =>
    obtain rfl : cam = s.cam := by
      cases h with
      | command _ h => exact absurd h hcmd
      | register => rfl
    refine ⟨.written address _ s.cam (Nat.le_refl _) (by rw [hlength]), rfl, fun _ => ?_⟩
    have hload := RegisterFile.load_store s.regs address (Bytes.le length value)
    rwa [hlength] at hload
  | writeLost _ h =>
    exact ⟨.writeLost, rfl, fun h' => h'.elim (absurd · h) (absurd (.head _))⟩

theorem Within.widen {lo hi lo' hi' : Nat} {s' : Chip} (h : Within lo hi s s') (hlo : lo' ≤ lo)
    (hhi : hi ≤ hi') : Within lo' hi' s s' where
  regs a ha := h.regs a (by omega)
  seen := h.seen
  lost := h.lost
  blind := h.blind

/-! ## The address of the access point -/

theorem leNat_one (x : UInt8) : Bytes.leNat [x] = x.toNat := by
  rw [Bytes.leNat_cons]
  exact Nat.zero_add x.toNat

theorem le_one (x : UInt8) : Bytes.le 1 x.toNat = [x] := by
  rw [← leNat_one]
  exact Bytes.le_leNat [x]

theorem load_one (regs : RegisterFile) (a : Nat) : regs.load a 1 = [regs a] := rfl

theorem readBssid_spec (is : List Nat) (his : ∀ i ∈ is, i < 6) :
    wp CamStep (fun bytes s' => (∀ lo hi, Within lo hi s s') ∧ s'.cam = s.cam ∧
        bytes.length = is.length ∧ ∀ n i, is[n]? = some i →
          bytes.at n = s.regs (kRegBSSID + i) ∨ bytes.at n = 0xFF ∧ kRegBSSID + i ∈ s'.blind)
      (readBssid is) s := by
  induction is generalizing s with
  | nil => exact ⟨fun _ _ => .rfl, rfl, rfl, fun n i h => by cases h⟩
  | cons i is ih =>
    have hi := his i List.mem_cons_self
    have hcmd : kRegBSSID + i ≠ kRegCamCmd := by
      simp only [kRegBSSID, kRegCamCmd]
      omega
    have hread : kRegBSSID + i ≠ kRegCamRead := by
      simp only [kRegBSSID, kRegCamRead]
      omega
    refine wp_seq (read_spec 1 hcmd hread) ?_
    intro value s₁ hfetched
    refine wp_seq (ih fun j hj => his j (List.mem_cons_of_mem i hj)) ?_
    rintro bytes s₂ ⟨hwithin, hcam, hlength, hbytes⟩
    have hsame : s₁.regs = s.regs := funext fun a => (hfetched.within 0 0).regs a (.inr (Nat.zero_le a))
    refine ⟨fun lo hi => (hfetched.within lo hi).trans (hwithin lo hi), hcam.trans hfetched.cam,
      congrArg (· + 1) hlength, ?_⟩
    intro n j hj
    cases n with
    | zero =>
      cases hj
      rcases hfetched.value with hvalue | ⟨hvalue, hblind⟩
      · refine .inl ?_
        show UInt8.ofNat value = _
        rw [hvalue, load_one, leNat_one]
        exact UInt8.ofNat_toNat
      · refine .inr ⟨?_, (hwithin 0 0).blind _ hblind⟩
        show UInt8.ofNat value = _
        rw [hvalue]
        rfl
    | succ n =>
      have h := hbytes n j hj
      rw [hsame] at h
      exact h

theorem writeBssid_spec (bssid : Mac) (is : List Nat) (his : ∀ i ∈ is, i < 6) :
    wp CamStep (fun _ s' => Within kRegBSSID (kRegBSSID + 6) s s' ∧ s'.cam = s.cam ∧
        (∀ a, (∀ i ∈ is, a ≠ kRegBSSID + i) → s'.regs a = s.regs a) ∧
        ∀ i ∈ is, kRegBSSID + i ∉ s'.lost → s'.regs (kRegBSSID + i) = bssid.bytes.at i)
      (writeBssid bssid is) s := by
  induction is generalizing s with
  | nil => exact ⟨.rfl, rfl, fun _ _ => rfl, fun i h => by cases h⟩
  | cons i is ih =>
    have hi := his i List.mem_cons_self
    have hcmd : kRegBSSID + i ≠ kRegCamCmd := by
      simp only [kRegBSSID, kRegCamCmd]
      omega
    refine wp_seq (write_spec 1 (bssid.bytes.at i).toNat hcmd) ?_
    intro status s₁ hstored
    refine wp_mono (ih fun j hj => his j (List.mem_cons_of_mem i hj)) ?_
    rintro _ s₂ ⟨hwithin, hcam, hframe, hbytes⟩
    refine ⟨(hstored.within.widen (Nat.le_add_right _ _) (by omega)).trans hwithin,
      hcam.trans hstored.cam, ?_, ?_⟩
    · intro a ha
      rw [hframe a fun j hj => ha j (List.mem_cons_of_mem i hj)]
      have hne := ha i List.mem_cons_self
      exact hstored.within.regs a (by omega)
    · intro j hj hlost
      by_cases hmem : j ∈ is
      · exact hbytes j hmem hlost
      · obtain rfl : j = i := (List.mem_cons.mp hj).resolve_right hmem
        have hvalue := hstored.value (.inr fun h => hlost (hwithin.lost _ h))
        rw [load_one, le_one] at hvalue
        rw [hframe]
        · exact List.head_eq_of_cons_eq hvalue
        · intro k hk heq
          obtain rfl : j = k := Nat.add_left_cancel heq
          exact hmem hk

/-! ## The filter -/

/-- The writes of the address arrive, and no byte of it that is all ones is taken from a read that
failed. -/
def AddressSure (bssid : Mac) (s : Chip) : Prop :=
  ∀ i < 6, kRegBSSID + i ∉ s.lost ∧ (kRegBSSID + i ∈ s.blind → bssid.bytes.at i ≠ 0xFF)

/-- The filter lets only the frames of the access point through. -/
structure Bound (bssid : Mac) (s s' : Chip) : Prop where
  within : Within kRegRCR kRegMAR s s'
  cam : s'.cam = s.cam
  address : AddressSure bssid s' → s'.regs.load kRegBSSID 6 = bssid.bytes
  filter : kRegRCR ∉ s'.lost → Bytes.leNat (s'.regs.load kRegRCR 4) &&& rcrBits = rcrBits

theorem load_address {regs : RegisterFile} {bssid : Mac}
    (h : ∀ i < 6, regs (kRegBSSID + i) = bssid.bytes.at i) : regs.load kRegBSSID 6 = bssid.bytes := by
  have hslice : bssid.bytes = bssid.bytes.slice 0 6 := by
    rw [Bytes.slice, List.drop_zero, List.take_of_length_le (Nat.le_of_eq bssid.length_eq)]
  rw [hslice, Bytes.slice_eq_map (Nat.le_of_eq bssid.length_eq.symm)]
  refine List.map_congr_left fun i hi => ?_
  exact h i (List.mem_range.mp hi)

/-- The last access of the two. -/
theorem filter_spec (bssid : Mac) (haddress : AddressSure bssid s → s.regs.load kRegBSSID 6 = bssid.bytes) :
    wp CamStep (fun _ s' => Bound bssid s s')
      (do let oldRcr ← read32 kRegRCR
          let _ ← write32 kRegRCR (oldRcr ||| rcrBits)
          pure () : CamIo Unit) s := by
  refine wp_seq (read_spec 4 (by decide) (by decide)) ?_
  intro oldRcr s₁ hfetched
  refine wp_seq (write_spec 4 (oldRcr ||| rcrBits) (by decide)) ?_
  intro status s₂ hstored
  have hwithin : Within kRegRCR (kRegRCR + 4) s s₂ := (hfetched.within _ _).trans hstored.within
  refine ⟨hwithin.widen (by decide) (by decide), hstored.cam.trans hfetched.cam, ?_, ?_⟩
  · intro hsure
    rw [hwithin.load (.inr (by decide))]
    refine haddress fun i hi => ?_
    exact ⟨fun h => (hsure i hi).1 (hwithin.lost _ h), fun h => (hsure i hi).2 (hwithin.blind _ h)⟩
  · intro hlost
    rw [hstored.value (.inr hlost), Bytes.leNat_le]
    show (oldRcr ||| rcrBits) % 2 ^ 32 &&& rcrBits = rcrBits
    rw [Fields.mod_and (by decide), Fields.or_and_self]

theorem bindFilter_spec (bssid : Mac) :
    wp CamStep (fun _ s' => Bound bssid s s') (bindFilter bssid) s := by
  have hbelow : ∀ i ∈ List.range 6, i < 6 := fun i => List.mem_range.mp
  refine wp_seq (readBssid_spec (List.range 6) hbelow) ?_
  rintro bssidNow s₁ ⟨hread, hcam, hlength, hbytes⟩
  have hsame : s₁.regs = s.regs := funext fun a => (hread 0 0).regs a (.inr (Nat.zero_le a))
  have hwhole : ∀ {s₂ s₃ : Chip}, Within kRegRCR kRegMAR s₁ s₂ → s₂.cam = s₁.cam → Bound bssid s₂ s₃ →
      Bound bssid s s₃ := by
    intro s₂ s₃ hwithin₂ hcam₂ hbound
    exact ⟨((hread _ _).trans hwithin₂).trans hbound.within, hbound.cam.trans (hcam₂.trans hcam),
      hbound.address, hbound.filter⟩
  split
  · refine wp_seq (writeBssid_spec bssid (List.range 6) hbelow) ?_
    rintro _ s₂ ⟨hwithin₂, hcam₂, -, hwritten⟩
    refine wp_mono (filter_spec bssid ?_) fun _ s₃ =>
      hwhole (hwithin₂.widen (by decide) (by decide)) hcam₂
    exact fun hsure => load_address fun i hi => hwritten i (List.mem_range.mpr hi) (hsure i hi).1
  · rename_i heq
    have heq : bssidNow = bssid.bytes := not_not.mp heq
    refine wp_mono (filter_spec bssid ?_) fun _ s₃ => hwhole .rfl rfl
    intro hsure
    refine load_address fun i hi => ?_
    have hget : (List.range 6)[i]? = some i := List.getElem?_range hi
    rcases hbytes i i hget with h | ⟨h, hblind⟩
    · rw [hsame, ← h, heq]
    · rw [heq] at h
      exact absurd h ((hsure i hi).2 hblind)

/-! ## The read-back -/

/-- A command that neither stores nor clears. -/
theorem readCommand_spec {addr : Nat} (h : addr < 2 ^ 8) :
    wp CamStep (fun _ s' => Frame s s' ∧ s'.cam = s.cam)
      (write32 kRegCamCmd (kCamCmdPolling ||| addr) : CamIo StatusCode) s := by
  have hflag : ∀ mask, mask < 2 ^ 32 → mask &&& 0xFF = 0 → mask &&& kCamCmdPolling = 0 →
      Fields.flag mask (Bytes.leNat (Bytes.le 4 (kCamCmdPolling ||| addr))) = false := by
    intro mask hmask hlow hpolling
    have haddr : addr &&& mask = 0 := by
      have hself : addr &&& 0xFF = addr :=
        (Nat.and_two_pow_sub_one_eq_mod addr 8).trans (Nat.mod_eq_of_lt h)
      rw [← hself, Nat.and_assoc, Nat.and_comm 0xFF, hlow, Nat.and_zero]
    rw [leNat_le_of_lt (Nat.or_lt_two_pow (by decide) (Nat.lt_trans h (by decide))), Fields.flag_or]
    refine Bool.or_eq_false_iff.mpr ⟨decide_eq_false fun hne => hne ?_, decide_eq_false fun hne => hne ?_⟩
    · rw [Nat.and_comm]
      exact hpolling
    · exact haddr
  intro status s' hstep
  cases hstep with
  | writeLost _ h => exact ⟨.writeLost, rfl⟩
  | write _ cam h =>
    refine ⟨.written kRegCamCmd _ cam (Nat.le_refl _) (by rw [Bytes.length_le]; decide), ?_⟩
    cases h with
    | register h => exact absurd rfl h
    | command _ _ hcam =>
      cases hcam with
      | write _ hwrite =>
        rw [hflag kCamCmdWrite (by decide) (by decide) (by decide)] at hwrite
        cases hwrite
      | clear _ _ _ hclear =>
        rw [hflag kCamCmdClear (by decide) (by decide) (by decide)] at hclear
        cases hclear
      | other _ => rfl

theorem readCam_spec : wp CamStep (fun _ s' => Frame s s' ∧ s'.cam = s.cam)
    (read32 kRegCamRead : CamIo Nat) s := by
  refine wp_bind.mpr fun answer s' hstep => ?_
  cases hstep with
  | read b h => exact ⟨.rfl, rfl⟩
  | readFails => exact ⟨.readFails, rfl⟩

theorem readBack_spec {entry : Nat} (h : entry < 31) :
    wp CamStep (fun _ s' => Frame s s' ∧ s'.cam = s.cam) (readBack entry) s := by
  have haddr : entry <<< 3 < 2 ^ 8 - 1 := by
    rw [Nat.shiftLeft_eq]
    omega
  refine wp_seq (readCommand_spec (Nat.lt_of_lt_of_le haddr (by decide))) ?_
  rintro _ s₁ ⟨hframe₁, hcam₁⟩
  refine wp_seq (pollCommand_spec 100) ?_
  rintro _ s₂ ⟨hframe₂, hcam₂, -⟩
  refine wp_seq readCam_spec ?_
  rintro _ s₃ ⟨hframe₃, hcam₃⟩
  refine wp_seq (readCommand_spec (Nat.succ_lt_of_lt_pred haddr)) ?_
  rintro _ s₄ ⟨hframe₄, hcam₄⟩
  refine wp_seq (pollCommand_spec 100) ?_
  rintro _ s₅ ⟨hframe₅, hcam₅, -⟩
  refine wp_seq readCam_spec ?_
  rintro _ s₆ ⟨hframe₆, hcam₆⟩
  exact ⟨hframe₁.trans (hframe₂.trans (hframe₃.trans (hframe₄.trans (hframe₅.trans hframe₆)))),
    hcam₆.trans (hcam₅.trans (hcam₄.trans (hcam₃.trans (hcam₂.trans hcam₁))))⟩

end

/-! ## The keys of a session -/

/-- Both keys are in the CAM, the hardware cipher is off, and the filter takes the frames of the access
point alone, as far as its own writes arrive. -/
structure Installed (tk gtk : Nat → UInt8) (gtkKeyId : UInt8) (apMac fJoinBssid : Mac) (s : Chip) :
    Prop where
  group : decode (words s.cam gtkKeyId.toNat) = (groupKey gtk 16 gtkKeyId).entry
  pairwise : decode (words s.cam 4) = (pairwiseKey tk apMac).entry
  cipher : s.regs.load kRegSecCfg 2 = [0, 0]
  address : AddressSure fJoinBssid s → s.regs.load kRegBSSID 6 = fJoinBssid.bytes
  filter : kRegRCR ∉ s.lost → Bytes.leNat (s.regs.load kRegRCR 4) &&& rcrBits = rcrBits

/-- The filter is as it was. -/
structure Untouched (s s' : Chip) : Prop where
  address : s'.regs.load kRegBSSID 6 = s.regs.load kRegBSSID 6
  filter : s'.regs.load kRegRCR 4 = s.regs.load kRegRCR 4

theorem Untouched.of_within {lo hi : Nat} {s s' : Chip} (h : Within lo hi s s') (hlo : kRegBSSID + 6 ≤ lo) :
    Untouched s s' where
  address := h.load (.inl hlo)
  filter := h.load (.inl (Nat.le_trans (by decide) hlo))

theorem decode_congr {w w' : Nat → Nat} (h : ∀ j < 8, w j = w' j) : decode w = decode w' := by
  unfold decode
  rw [h 0 (by decide), h 1 (by decide), h 2 (by decide), h 3 (by decide), h 4 (by decide),
    h 5 (by decide)]

/-- What comes of a call that has put both keys into the CAM. -/
theorem installed_of_bound {tk gtk : Nat → UInt8} {gtkKeyId : UInt8} {apMac fJoinBssid : Mac}
    {s s' s'' : Chip} (hgroup : decode (words s.cam gtkKeyId.toNat) = (groupKey gtk 16 gtkKeyId).entry)
    (hpairwise : decode (words s.cam 4) = (pairwiseKey tk apMac).entry)
    (hcipher : s.regs.load kRegSecCfg 2 = [0, 0]) (hbound : Bound fJoinBssid s s') (hframe : Frame s' s'')
    (hcam : s''.cam = s'.cam) : Installed tk gtk gtkKeyId apMac fJoinBssid s'' where
  group := by rwa [hcam, hbound.cam]
  pairwise := by rwa [hcam, hbound.cam]
  cipher := by
    rw [hframe.load (.inr (by decide)), hbound.within.load (.inr (by decide))]
    exact hcipher
  address := by
    intro hsure
    rw [hframe.load (.inl (by decide))]
    refine hbound.address fun i hi => ?_
    exact ⟨fun h => (hsure i hi).1 (hframe.lost _ h), fun h => (hsure i hi).2 (hframe.blind _ h)⟩
  filter := by
    intro hlost
    rw [hframe.load (.inl (by decide))]
    exact hbound.filter fun h => hlost (hframe.lost _ h)

/-- A call that is reported as done leaves both keys in the CAM, the hardware cipher off and the filter
bound to the access point. One that is not leaves the filter as it was, and no call changes another
entry of the CAM. -/
theorem session_keys_installed (hasRegisters : Bool) (tk gtk : Option (Nat → UInt8))
    (gtkLen : UInt32) (gtkKeyId : UInt8) (apMac fJoinBssid : Mac) (regs : RegisterFile) (cam : Table) :
    wp CamStep (fun status s =>
        (∀ other, other ≠ gtkKeyId.toNat → other ≠ 4 → ∀ j < 8, words s.cam other j = words cam other j) ∧
        (status = .ok → ∃ tk' gtk', tk = some tk' ∧ gtk = some gtk' ∧ gtkLen = 16 ∧ gtkKeyId ≤ 3 ∧
          Installed tk' gtk' gtkKeyId apMac fJoinBssid s) ∧
        (status ≠ .ok → Untouched (.start regs cam) s))
      (installSessionKeys hasRegisters tk gtk gtkLen gtkKeyId apMac fJoinBssid) (.start regs cam) := by
  unfold installSessionKeys
  split
  · exact ⟨fun _ _ _ _ _ => rfl, nofun, fun _ => ⟨rfl, rfl⟩⟩
  split
  swap
  · exact ⟨fun _ _ _ _ _ => rfl, nofun, fun _ => ⟨rfl, rfl⟩⟩
  rename_i tk' gtk'
  split
  · exact ⟨fun _ _ _ _ _ => rfl, nofun, fun _ => ⟨rfl, rfl⟩⟩
  rename_i hlen
  obtain rfl : gtkLen = 16 := not_not.mp hlen
  split
  · exact ⟨fun _ _ _ _ _ => rfl, nofun, fun _ => ⟨rfl, rfl⟩⟩
  rename_i hid
  have hid : gtkKeyId ≤ 3 := UInt8.not_lt.mp hid
  have hid' : gtkKeyId.toNat ≠ 4 := fun h => by
    have hle : gtkKeyId.toNat ≤ 3 := hid
    omega
  refine wp_seq (programCamEntry_writes hasRegisters gtkKeyId (groupKey gtk' 16 gtkKeyId) _) ?_
  intro status s₁ hgroup
  show wp CamStep _ (if _ then _ else _) _
  split
  · rename_i hfailed
    exact ⟨fun other hother _ => hgroup.others other hother, fun h => absurd h hfailed,
      fun _ => .of_within hgroup.frame (by decide)⟩
  rename_i hok₁
  have hok₁ : status = .ok := not_not.mp hok₁
  refine wp_seq (programCamEntry_writes hasRegisters 4 (pairwiseKey tk' apMac) _) ?_
  intro status s₂ hpairwise
  have hothers : ∀ other, other ≠ gtkKeyId.toNat → other ≠ 4 → ∀ j < 8,
      words s₂.cam other j = words cam other j := fun other hother hfour j hj =>
    (hpairwise.others other hfour j hj).trans (hgroup.others other hother j hj)
  have hframe₂ := hgroup.frame.trans hpairwise.frame
  show wp CamStep _ (if _ then _ else _) _
  split
  · rename_i hfailed
    exact ⟨hothers, fun h => absurd h hfailed, fun _ => .of_within hframe₂ (by decide)⟩
  rename_i hok₂
  have hok₂ : status = .ok := not_not.mp hok₂
  refine wp_seq (read_spec 2 (by decide) (by decide)) ?_
  intro _ s₃ hsecCfg
  refine wp_seq (write_spec 2 0 (by decide)) ?_
  intro status s₄ hcipher
  have hcam₄ : s₄.cam = s₂.cam := hcipher.cam.trans hsecCfg.cam
  show wp CamStep _ (if _ then _ else _) _
  split
  · rename_i hfailed
    refine ⟨?_, fun h => absurd h hfailed, fun _ => ?_⟩
    · rw [hcam₄]
      exact hothers
    · have hwithin : Within kRegCamCmd (kRegSecCfg + 2) (.start regs cam) s₄ :=
        (hframe₂.widen (Nat.le_refl _) (by decide)).trans
          ((hsecCfg.within _ _).trans (hcipher.within.widen (by decide) (Nat.le_refl _)))
      exact .of_within hwithin (by decide)
  rename_i hok₄
  refine wp_seq (write_spec 4 0xFFFFFFFF (by decide)) ?_
  intro _ s₅ hmar₁
  refine wp_seq (write_spec 4 0xFFFFFFFF (by decide)) ?_
  intro _ s₆ hmar₂
  refine wp_seq (bindFilter_spec fJoinBssid) ?_
  intro _ s₇ hbound
  refine wp_seq (readBack_spec (by decide)) ?_
  rintro _ s₈ ⟨hframe₈, hcam₈⟩
  refine wp_seq (readBack_spec (by decide)) ?_
  rintro _ s₉ ⟨hframe₉, hcam₉⟩
  have hcam₆ : s₆.cam = s₂.cam := hmar₂.cam.trans (hmar₁.cam.trans hcam₄)
  have hcam : s₉.cam = s₂.cam := hcam₉.trans (hcam₈.trans (hbound.cam.trans hcam₆))
  refine ⟨?_, fun _ => ⟨tk', gtk', rfl, rfl, rfl, hid, ?_⟩, fun h => absurd rfl h⟩
  · rw [hcam]
    exact hothers
  refine installed_of_bound (s := s₆) ?_ ?_ ?_ hbound (hframe₈.trans hframe₉) (hcam₉.trans hcam₈)
  · rw [hcam₆, decode_congr (hpairwise.others _ hid')]
    exact (hgroup.done hok₁).2
  · rw [hcam₆]
    exact (hpairwise.done hok₂).2
  · rw [hmar₂.within.load (.inr (by decide)), hmar₁.within.load (.inr (by decide))]
    exact hcipher.value (.inl (not_not.mp hok₄))

end Cam
end Rtl8814au
