import Mathlib.Logic.Function.Basic
import Rtl8814au.PhyConfig.Channel

/-!
# PhyConfig.Chip

The registers of the chip behind the accesses of `SetChannel`, any of which may fail.

* `SwitchStep`    — a read that fails gives nothing; a write leaves its register with any value, and
  has succeeded if that is the value written.
* `Entry`         — a field of a register, with the value it is to have.
* `Progress t L`  — what a part of a switch does: the entries of `L` where its writes arrive, and
  nothing to the other registers that are managed. `Does t L p` says so of a program.
-/

namespace Rtl8814au
namespace PhyConfig

open Dialogue RegisterIO

/-! ## Registers -/

inductive Place
  | bb (address : Nat)
  | rf (path : Fin kRfPathCount) (rfRegister : Nat)
deriving DecidableEq

abbrev Chip : Type := Place → Nat

def pathAt (addresses : Fin kRfPathCount → Nat) (address : Nat) : Option (Fin kRfPathCount) :=
  (List.finRange kRfPathCount).find? fun path => addresses path = address

/-- The RF registers of a path are read at its base. -/
def source (address : Nat) : Place :=
  match pathAt kBBRegPathBase (address / 0x400 * 0x400) with
  | some path => .rf path (address % 0x400 / 4)
  | none => .bb address

/-- They are written through one register, with a command that names them. -/
def target (address word : Nat) : Place :=
  match pathAt kRfLssiWriteReg address with
  | some path => .rf path (word >>> kRfAddressShift)
  | none => .bb address

def content (address word : Nat) : Nat :=
  match pathAt kRfLssiWriteReg address with
  | some _ => word &&& kRfDataMask
  | none => word

/-- The registers that have a field for the band or the channel. -/
def managed : List Place :=
  [kRegBBRfePinmux0, kRegBBRfePinmuxPathB, kRegBBRfePinmuxPathC, kRegBBRfePinmuxPathD,
    kRegBBRfePinmuxCoex, kRegBBCckCheck, kRegBBCckTxOnly, kRegBBOfdmCckEn, kRegBBAgcTableSelect,
    kRegBBTxPath, kRegBBFcArea, kRegBBBwCtrl, kRegBBSubChan, kRegBBAdcClk, kRegBBDacClk].map .bb ++
  (List.finRange kRfPathCount).map (.rf · kRfRegLNA) ++
  (List.finRange kRfPathCount).map (.rf · kRfRegChannelStandalone)

/-! ## Accesses -/

/-- The registers, and how a call has gone so far: whether all accesses have succeeded; whether a write
of the band setup has missed its register, and whether one has changed one; whether a tuning write
was reported as failed. -/
structure Switching where
  chip : Chip
  clean : Bool
  missed : Bool
  reached : Bool
  untuned : Bool

def Switching.start (chip : Chip) : Switching := ⟨chip, true, false, false, false⟩

/-- After a write of `value` that is reported with `status`, and leaves `left`. -/
def Switching.written (s : Switching) (phase : Phase) (place : Place) (value : Nat)
    (status : StatusCode) (left : Nat) : Switching where
  chip := Function.update s.chip place left
  clean := s.clean && decide (status = .ok ∧ left = value)
  missed := s.missed || decide (phase = .bandSetup ∧ left ≠ value)
  reached := s.reached || decide (phase = .bandSetup ∧ left ≠ s.chip place)
  untuned := s.untuned || decide (phase = .tuning ∧ status ≠ .ok)

inductive SwitchStep :
    Dialogue.Env Switching fun i : Phase × Access Empty => Access.Answer (fun _ : Empty => Unit) i.2
  | read {s : Switching} {phase : Phase} {address length : Nat} (b : Buf length)
    (h : b.bytes = Bytes.le length (s.chip (source address))) :
    SwitchStep s (phase, .vendorRead address length) (some b) s
  | readFails {s : Switching} {phase : Phase} {address length : Nat} :
    SwitchStep s (phase, .vendorRead address length) none { s with clean := false }
  | write {s : Switching} {phase : Phase} {address : Nat} {data : Bytes} (status : StatusCode)
    (left : Nat) :
    SwitchStep s (phase, .vendorWrite address data) status
      (s.written phase (target address (Bytes.leNat data)) (content address (Bytes.leNat data))
        status left)

/-- The accesses of one part. -/
abbrev stepIn (t : Phase) : Dialogue.Env Switching (Access.Answer fun _ : Empty => Unit) :=
  fun s i r s' => SwitchStep s (t, i) r s'

/-! ## Fields -/

structure Entry where
  place : Place
  mask : Nat
  value : Nat

def Holds (chip : Chip) (e : Entry) : Prop := chip e.place &&& e.mask = e.value &&& e.mask

def Shown (L : List Entry) (chip : Chip) : Prop := ∀ e ∈ L, Holds chip e

/-- No two of the entries are in one register. -/
structure Apart (L : List Entry) : Prop where
  nodup : (L.map Entry.place).Nodup
  managed : ∀ e ∈ L, e.place ∈ managed

theorem Apart.nil : Apart [] := ⟨List.nodup_nil, nofun⟩

theorem Apart.places {L L' : List Entry} (h : Apart (L ++ L')) :
    (L.map Entry.place).Nodup ∧ (L'.map Entry.place).Nodup ∧
      ∀ a ∈ L.map Entry.place, ∀ b ∈ L'.map Entry.place, a ≠ b := by
  have hnodup := h.nodup
  rw [List.map_append] at hnodup
  exact List.nodup_append.mp hnodup

theorem Apart.left {L L' : List Entry} (h : Apart (L ++ L')) : Apart L where
  nodup := h.places.1
  managed e he := h.managed e (List.mem_append_left _ he)

theorem Apart.right {L L' : List Entry} (h : Apart (L ++ L')) : Apart L' where
  nodup := h.places.2.1
  managed e he := h.managed e (List.mem_append_right _ he)

theorem Apart.ne {L L' : List Entry} (h : Apart (L ++ L')) {e e' : Entry} (he : e ∈ L) (he' : e' ∈ L') :
    e'.place ≠ e.place :=
  (h.places.2.2 _ (List.mem_map_of_mem he) _ (List.mem_map_of_mem he')).symm

/-! ## Progress -/

structure Progress (t : Phase) (L : List Entry) (s s' : Switching) : Prop where
  frame : ∀ place ∈ managed, (∀ e ∈ L, e.place ≠ place) → s'.chip place = s.chip place
  clean : s'.clean = true → s.clean = true ∧ s'.missed = s.missed ∧ Shown L s'.chip
  missed : t = .bandSetup → s'.missed = false → s.missed = false ∧ Shown L s'.chip
  reached : t = .bandSetup → s'.reached = false →
    s.reached = false ∧ ∀ place ∈ managed, s'.chip place = s.chip place
  beyond : t ≠ .bandSetup → s'.missed = s.missed ∧ s'.reached = s.reached
  untuned : t ≠ .tuning → s'.untuned = s.untuned
  /-- Only tuning changes the channel. -/
  channel : t ≠ .tuning → s'.clean = true → ∀ path,
    s'.chip (.rf path kRfRegChannelStandalone) &&& kRfChannelBandMask =
      s.chip (.rf path kRfRegChannelStandalone) &&& kRfChannelBandMask

section

variable {t : Phase} {L L' : List Entry} {s s' s'' : Switching}

theorem Shown.frame {chip chip' : Chip} (h : Shown L chip)
    (hframe : ∀ e ∈ L, chip' e.place = chip e.place) : Shown L chip' := by
  intro e he
  rw [Holds, hframe e he]
  exact h e he

theorem Shown.append {chip : Chip} (h : Shown L chip) (h' : Shown L' chip) : Shown (L ++ L') chip := by
  intro e he
  rcases List.mem_append.mp he with he | he
  · exact h e he
  · exact h' e he

theorem Progress.trans (h : Progress t L s s') (h' : Progress t L' s' s'') (hapart : Apart (L ++ L')) :
    Progress t (L ++ L') s s'' := by
  have hshown : Shown L s'.chip → Shown L' s''.chip → Shown (L ++ L') s''.chip := fun hL hL' =>
    (hL.frame fun e he => h'.frame e.place (hapart.left.managed e he)
      fun e' he' => hapart.ne he he').append hL'
  constructor
  · intro place hplace hne
    rw [h'.frame place hplace fun e he => hne e (List.mem_append_right _ he),
      h.frame place hplace fun e he => hne e (List.mem_append_left _ he)]
  · intro hclean
    obtain ⟨hclean, hmissed', hL'⟩ := h'.clean hclean
    obtain ⟨hclean, hmissed, hL⟩ := h.clean hclean
    exact ⟨hclean, hmissed'.trans hmissed, hshown hL hL'⟩
  · intro ht hmissed
    obtain ⟨hmissed, hL'⟩ := h'.missed ht hmissed
    obtain ⟨hmissed, hL⟩ := h.missed ht hmissed
    exact ⟨hmissed, hshown hL hL'⟩
  · intro ht hreached
    obtain ⟨hreached, hsame'⟩ := h'.reached ht hreached
    obtain ⟨hreached, hsame⟩ := h.reached ht hreached
    exact ⟨hreached, fun place hplace => (hsame' place hplace).trans (hsame place hplace)⟩
  · intro ht
    exact ⟨(h'.beyond ht).1.trans (h.beyond ht).1, (h'.beyond ht).2.trans (h.beyond ht).2⟩
  · intro ht
    exact (h'.untuned ht).trans (h.untuned ht)
  · intro ht hclean path
    exact (h'.channel ht hclean path).trans (h.channel ht (h'.clean hclean).1 path)

theorem Progress.after (h : Progress t L s s') (h' : Progress t [] s' s'') (hapart : Apart L) :
    Progress t L s s'' := by
  rw [← List.append_nil L] at hapart ⊢
  exact h.trans h' hapart

/-- A part that leaves the managed registers alone is one of any phase. -/
theorem Progress.of_other (h : Progress .other [] s s') : Progress t [] s s' where
  frame := h.frame
  clean := h.clean
  missed _ hmissed := ⟨(h.beyond nofun).1 ▸ hmissed, nofun⟩
  reached _ hreached := ⟨(h.beyond nofun).2 ▸ hreached, fun place hplace => h.frame place hplace nofun⟩
  beyond _ := h.beyond nofun
  untuned _ := h.untuned nofun
  channel _ := h.channel nofun

theorem Progress.rfl : Progress t [] s s where
  frame _ _ _ := .refl _
  clean hclean := ⟨hclean, .refl _, nofun⟩
  missed _ hmissed := ⟨hmissed, nofun⟩
  reached _ hreached := ⟨hreached, fun _ _ => .refl _⟩
  beyond _ := ⟨.refl _, .refl _⟩
  untuned _ := .refl _
  channel _ _ _ := .refl _

theorem Progress.readFails : Progress t [] s { s with clean := false } where
  frame _ _ _ := .refl _
  clean hclean := nomatch hclean
  missed _ hmissed := ⟨hmissed, nofun⟩
  reached _ hreached := ⟨hreached, fun _ _ => .refl _⟩
  beyond _ := ⟨.refl _, .refl _⟩
  untuned _ := .refl _
  channel _ hclean := nomatch hclean

end

/-! ## Writes -/

section

variable {t : Phase} {s : Switching} {place : Place} {value : Nat} {status : StatusCode} {left : Nat}

theorem written_ne {place' : Place} (h : place' ≠ place) :
    (s.written t place value status left).chip place' = s.chip place' := by
  show Function.update s.chip place left place' = s.chip place'
  rw [Function.update_of_ne h]

theorem written_self : (s.written t place value status left).chip place = left := by
  show Function.update s.chip place left place = left
  rw [Function.update_self]

theorem clean_of_written (h : (s.written t place value status left).clean = true) :
    s.clean = true ∧ status = .ok ∧ left = value := by
  obtain ⟨hclean, hdone⟩ := Bool.and_eq_true_iff.mp h
  exact ⟨hclean, of_decide_eq_true hdone⟩

theorem missed_of_written (h : (s.written .bandSetup place value status left).missed = false) :
    s.missed = false ∧ left = value := by
  obtain ⟨hmissed, hdone⟩ := Bool.or_eq_false_iff.mp h
  exact ⟨hmissed, of_not_not fun hne => of_decide_eq_false hdone ⟨rfl, hne⟩⟩

theorem reached_of_written (h : (s.written .bandSetup place value status left).reached = false) :
    s.reached = false ∧ left = s.chip place := by
  obtain ⟨hreached, hdone⟩ := Bool.or_eq_false_iff.mp h
  exact ⟨hreached, of_not_not fun hne => of_decide_eq_false hdone ⟨rfl, hne⟩⟩

theorem beyond_written (ht : t ≠ .bandSetup) :
    (s.written t place value status left).missed = s.missed ∧
      (s.written t place value status left).reached = s.reached := by
  constructor
  · exact (congrArg (s.missed || ·) (decide_eq_false fun h => ht h.1)).trans (Bool.or_false _)
  · exact (congrArg (s.reached || ·) (decide_eq_false fun h => ht h.1)).trans (Bool.or_false _)

theorem untuned_written (ht : t ≠ .tuning) :
    (s.written t place value status left).untuned = s.untuned :=
  (congrArg (s.untuned || ·) (decide_eq_false fun h => ht h.1)).trans (Bool.or_false _)

theorem missed_written (h : left = value) :
    (s.written t place value status left).missed = s.missed :=
  (congrArg (s.missed || ·) (decide_eq_false fun hne => hne.2 h)).trans (Bool.or_false _)

/-- A write of a field. -/
theorem Progress.written {e : Entry} (hplace : place = e.place)
    (hvalue : value &&& e.mask = e.value &&& e.mask)
    (hchannel : t ≠ .tuning → s.clean = true → ∀ path, place = .rf path kRfRegChannelStandalone →
      value &&& kRfChannelBandMask = s.chip place &&& kRfChannelBandMask) :
    Progress t [e] s (s.written t place value status left) := by
  have hshown : left = value → Shown [e] (s.written t place value status left).chip := by
    rintro hleft e' he'
    obtain rfl := List.mem_singleton.mp he'
    rw [Holds, ← hplace, written_self, hleft]
    exact hvalue
  constructor
  · intro place' _ hne
    refine written_ne ?_
    rw [hplace]
    exact (hne e (List.mem_singleton_self e)).symm
  · intro hclean
    obtain ⟨hclean, _, hleft⟩ := clean_of_written hclean
    exact ⟨hclean, missed_written hleft, hshown hleft⟩
  · rintro rfl hmissed
    obtain ⟨hmissed, hleft⟩ := missed_of_written hmissed
    exact ⟨hmissed, hshown hleft⟩
  · rintro rfl hreached
    obtain ⟨hreached, hleft⟩ := reached_of_written hreached
    refine ⟨hreached, fun place' _ => ?_⟩
    by_cases hself : place' = place
    · rw [hself, written_self, hleft]
    · exact written_ne hself
  · exact beyond_written
  · exact untuned_written
  · intro ht hclean path
    obtain ⟨hclean, _, hleft⟩ := clean_of_written hclean
    by_cases hself : .rf path kRfRegChannelStandalone = place
    · rw [hself, written_self, hleft]
      exact hchannel ht hclean path hself.symm
    · rw [written_ne hself]

/-- A write that is none of them. -/
theorem Progress.written_other (h : place ∉ managed) :
    Progress .other [] s (s.written .other place value status left) := by
  have hne : ∀ place' ∈ managed, place' ≠ place := fun place' hplace' heq => h (heq ▸ hplace')
  constructor
  · exact fun place' hplace' _ => written_ne (hne place' hplace')
  · intro hclean
    obtain ⟨hclean, _, hleft⟩ := clean_of_written hclean
    exact ⟨hclean, missed_written hleft, nofun⟩
  · exact nofun
  · exact nofun
  · exact beyond_written
  · exact untuned_written
  · intro _ _ path
    rw [written_ne (hne _ (List.mem_append_right _ (List.mem_map_of_mem (List.mem_finRange path))))]

end

/-! ## Programs -/

/-- What holds after a write that carries a status for the sequence. -/
structure Reported (t : Phase) (L : List Entry) (s : Switching) (status : StatusCode)
    (s' : Switching) : Prop where
  progress : Progress t L s s'
  ok : s'.clean = true → status = .ok
  untuned : t = .tuning → s'.untuned = (s.untuned || decide (status ≠ .ok))

def Does {α : Type} (t : Phase) (L : List Entry) (p : PhyIo α) : Prop :=
  Apart L → ∀ s, wp (stepIn t) (fun _ s' => Progress t L s s') p s

section

variable {α β : Type} {t : Phase} {L L' : List Entry} {p : PhyIo α}

theorem Does.nil {a : α} : Does t [] (pure a : PhyIo α) := fun _ _ => .rfl

theorem Does.bind {q : α → PhyIo β} (hp : Does t L p) (hq : ∀ a, Does t L' (q a)) :
    Does t (L ++ L') (p >>= q) := by
  intro hapart s
  refine wp_seq (hp hapart.left s) fun a s' h => ?_
  exact wp_mono (hq a hapart.right s') fun _ s'' h' => h.trans h' hapart

theorem Does.cons {e : Entry} {q : PhyIo β} (hp : Does t [e] p) (hq : Does t L q) :
    Does t (e :: L) (p >>= fun _ => q) := hp.bind fun _ => hq

theorem Does.forPaths {step : Fin kRfPathCount → PhyIo α} {f : Fin kRfPathCount → Entry}
    (h : ∀ path, Does t [f path] (step path)) (paths : List (Fin kRfPathCount)) :
    Does t (paths.map f) (forPaths step paths) := by
  induction paths with
  | nil => exact .nil
  | cons path paths ih => exact (h path).cons ih

end

section

variable {t : Phase} {s : Switching} {length address : Nat}

theorem write_reported {value : Nat} {e : Entry}
    (htarget : target address (value % 256 ^ length) = e.place)
    (hcontent : content address (value % 256 ^ length) &&& e.mask = e.value &&& e.mask)
    (hchannel : t ≠ .tuning → s.clean = true → ∀ path, e.place = .rf path kRfRegChannelStandalone →
      content address (value % 256 ^ length) &&& kRfChannelBandMask =
        s.chip e.place &&& kRfChannelBandMask) :
    wp (stepIn t) (Reported t [e] s) (write length address value) s := by
  intro status s' hstep
  cases hstep with
  | write _ left =>
    rw [Bytes.leNat_le]
    refine ⟨.written htarget hcontent ?_, ?_, ?_⟩
    · rw [htarget]
      exact hchannel
    · exact fun hclean => (clean_of_written hclean).2.1
    · rintro rfl
      exact congrArg (s.untuned || ·) (decide_eq_decide.mpr (and_iff_right rfl))

/-- What a read gives, in a call in which all accesses succeed. -/
theorem read_spec :
    wp (stepIn t) (fun value s' => Progress t [] s s' ∧ s'.chip = s.chip ∧
        (s'.clean = true → value = s.chip (source address) % 256 ^ length))
      (read length address) s := by
  refine wp_bind.mpr ?_
  intro answer s' hstep
  cases hstep with
  | read b hb =>
    refine ⟨.rfl, rfl, fun _ => ?_⟩
    show Bytes.leNat b.bytes = _
    rw [hb, Bytes.leNat_le]
  | readFails => exact ⟨.readFails, rfl, nofun⟩

theorem read_does : Does t [] (read length address) :=
  fun _ _ => wp_mono read_spec fun _ _ h => h.1

theorem write_does {mask value value' : Nat} (h : pathAt kRfLssiWriteReg address = none)
    (hmask : mask < 2 ^ (8 * length)) (hvalue : value &&& mask = value' &&& mask) :
    Does t [⟨.bb address, mask, value'⟩] (write length address value) := by
  intro _ s
  have hcontent : content address (value % 256 ^ length) &&& mask = value' &&& mask := by
    rw [content, h, ← hvalue]
    show value % (2 ^ 8) ^ length &&& mask = _
    rw [← Nat.pow_mul, Fields.mod_and hmask]
  refine wp_mono (write_reported ?_ hcontent ?_) fun _ _ hreported => hreported.progress
  · rw [target, h]
  · intro _ _ path hpath
    cases hpath

theorem maskedWrite_does {mask value : Nat} (h : pathAt kRfLssiWriteReg address = none)
    (hmask : mask < 2 ^ (8 * length)) :
    Does t [⟨.bb address, mask, value⟩] (maskedWrite length address mask value) :=
  read_does.bind fun current => write_does h hmask (Fields.merge_and hmask current value)

/-- Neither a field nor a command. -/
def Plain (address : Nat) : Prop := pathAt kRfLssiWriteReg address = none ∧ .bb address ∉ managed

instance (address : Nat) : Decidable (Plain address) := by
  unfold Plain
  infer_instance

theorem write_plain {value : Nat} (h : Plain address) : Does .other [] (write length address value) := by
  intro _ s status s' hstep
  cases hstep with
  | write _ left =>
    refine .written_other ?_
    rw [target, h.1]
    exact h.2

end

/-! ## RF registers -/

section

variable {t : Phase} {s : Switching} (path : Fin kRfPathCount)

theorem pathAt_lssi : pathAt kRfLssiWriteReg (kRfLssiWriteReg path) = some path := by
  revert path
  decide

theorem source_channel :
    source (kBBRegPathBase path + kRfRegChannelStandalone * 4) = .rf path kRfRegChannelStandalone := by
  revert path
  decide

/-- The command of a write. -/
theorem command_eq {rfRegister : Nat} (h : rfRegister < 256) (value : Nat) :
    (((rfRegister <<< kRfAddressShift) ||| (value &&& kRfDataMask)) &&& kRfCommandMask) % 256 ^ 4 =
      rfRegister * 2 ^ 20 + value % 2 ^ 20 := by
  have hdata : value &&& kRfDataMask = value % 2 ^ 20 := Nat.and_two_pow_sub_one_eq_mod value 20
  have hlt : value % 2 ^ 20 < 2 ^ 20 := Nat.mod_lt _ (Nat.two_pow_pos 20)
  have hmask (x : Nat) : x &&& kRfCommandMask = x % 2 ^ 28 := Nat.and_two_pow_sub_one_eq_mod x 28
  have hword : rfRegister <<< kRfAddressShift ||| value % 2 ^ 20 =
      rfRegister * 2 ^ 20 + value % 2 ^ 20 := by
    show rfRegister <<< 20 ||| value % 2 ^ 20 = _
    rw [← Nat.shiftLeft_add_eq_or_of_lt hlt, Nat.shiftLeft_eq]
  rw [hdata, hword, hmask]
  omega

theorem target_command {rfRegister : Nat} (h : rfRegister < 256) (value : Nat) :
    target (kRfLssiWriteReg path) ((((rfRegister <<< kRfAddressShift) ||| (value &&& kRfDataMask)) &&&
      kRfCommandMask) % 256 ^ 4) = .rf path rfRegister := by
  rw [target, pathAt_lssi, command_eq h]
  show Place.rf path ((rfRegister * 2 ^ 20 + value % 2 ^ 20) >>> 20) = _
  rw [Nat.shiftRight_eq_div_pow]
  congr 1
  omega

theorem content_command {rfRegister : Nat} (h : rfRegister < 256) (value : Nat) :
    content (kRfLssiWriteReg path) ((((rfRegister <<< kRfAddressShift) ||| (value &&& kRfDataMask)) &&&
      kRfCommandMask) % 256 ^ 4) = value % 2 ^ 20 := by
  rw [content, pathAt_lssi, command_eq h]
  show (rfRegister * 2 ^ 20 + value % 2 ^ 20) &&& (2 ^ 20 - 1) = _
  rw [Nat.and_two_pow_sub_one_eq_mod]
  omega

theorem writeRF_reported {rfRegister mask value value' : Nat} (h : rfRegister < 256)
    (hmask : mask < 2 ^ 20) (hvalue : value &&& mask = value' &&& mask)
    (hchannel : t ≠ .tuning → s.clean = true → rfRegister = kRfRegChannelStandalone →
      value &&& kRfChannelBandMask =
        s.chip (.rf path kRfRegChannelStandalone) &&& kRfChannelBandMask) :
    wp (stepIn t) (Reported t [⟨.rf path rfRegister, mask, value'⟩] s)
      (writeRF path rfRegister value) s := by
  have hcontent := content_command path h value
  refine write_reported (target_command path h value) ?_ ?_
  · rw [hcontent, Fields.mod_and hmask]
    exact hvalue
  · intro ht hclean path' hplace
    cases hplace
    rw [hcontent, Fields.mod_and (show kRfChannelBandMask < 2 ^ 20 by decide)]
    exact hchannel ht hclean rfl

theorem readRF_spec :
    wp (stepIn t) (fun value s' => Progress t [] s s' ∧ s'.chip = s.chip ∧
        (s'.clean = true → value &&& kRfChannelBandMask =
          s.chip (.rf path kRfRegChannelStandalone) &&& kRfChannelBandMask))
      (readRF path kRfRegChannelStandalone) s := by
  refine wp_seq read_spec ?_
  rintro value s' ⟨hread, hchip, hvalue⟩
  refine ⟨hread, hchip, fun hclean => ?_⟩
  rw [hvalue hclean, source_channel, Nat.and_assoc]
  exact Fields.mod_and (n := 32) (by decide) _

/-- The filter is in the register of the channel. -/
theorem setFilter_does (bits : Nat) :
    Does .other [⟨.rf path kRfRegChannelStandalone, 0x03 <<< 10, bits <<< 10⟩]
      (setFilter bits path) := by
  intro hapart s
  refine wp_seq (readRF_spec path) ?_
  rintro value s' ⟨hread, hchip, hvalue⟩
  refine wp_mono (writeRF_reported path (by decide) (by decide)
    (Fields.merge_and (by decide) value (bits <<< 10)) ?_) ?_
  · intro _ hclean _
    rw [Fields.merge_and_disjoint (by decide) (by decide), hvalue hclean, hchip]
  · exact fun _ _ hreported => hread.trans hreported.progress hapart

end

end PhyConfig
end Rtl8814au
