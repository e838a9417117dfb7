import Mathlib.Logic.Function.Basic
import Rtl8814au.Device.State
import Rtl8814au.Lib.RegisterFile
import Rtl8814au.Lib.Staged
import Rtl8814au.RegisterIO.Access

/-!
# Device.Cam

The key table of the security engine, its CAM, as `_CamWrite` and `_ProgramCamEntry` write it.

* `programCamEntry` — the eight words of an entry, from the last to the first.
* `decode`          — what the security engine makes of the words of an entry.
* `CamStep`         — the chip: a command stores the staged word, and any transfer may fail.
* `entry_programmed` — an entry that is reported as written decodes to the arguments, and the others
  stay.
* `entry_staged`    — when an entry is valid with only some of its words replaced.
-/

namespace Rtl8814au
namespace Cam

open Dialogue RegisterIO

def kRegCamCmd : Nat := 0x0670
def kRegCamWrite : Nat := 0x0674
def kRegCamRead : Nat := 0x0678

def kCamCmdPolling : Nat := 0x80000000
def kCamCmdWrite : Nat := 0x00010000
def kCamCmdClear : Nat := 0x40000000

def kCamValid : Nat := 0x00008000
def kCamGroupKey : Nat := 0x00000040
def kCamAlgoAES : UInt8 := 0x4
def kCamAlgoShift : Nat := 2

abbrev CamIo (α : Type) : Type := Io (fun _ : Empty => Unit) α

/-- The pauses between the polls are left out. -/
def pollCommand : (attempts : Nat) → CamIo StatusCode
  | 0 => pure .timedOut
  | n + 1 => do
    let cmd ← read32 kRegCamCmd
    if cmd &&& kCamCmdPolling = 0 then pure .ok else pollCommand n

/-- `hasRegisters` says that there is a register access. -/
def camWrite (hasRegisters : Bool) (addr data : Nat) : CamIo StatusCode :=
  if !hasRegisters then pure .noInit
  else do
    let status ← write32 kRegCamWrite data
    if status ≠ .ok then pure status
    else
      let status ← write32 kRegCamCmd (kCamCmdPolling ||| kCamCmdWrite ||| addr)
      if status ≠ .ok then pure status else pollCommand 100

/-- What `_ProgramCamEntry` is told about a key. The key is the memory behind the pointer, if that is
not null. -/
structure Arguments where
  algo : UInt8
  keyId : UInt8
  isGroupKey : Bool
  mac : Mac
  key : Option (Nat → UInt8)
  keyLen : UInt32

namespace Arguments

variable (a : Arguments)

def keyBuf : Buf 16 :=
  match a.key with
  | some p =>
    if 0 < a.keyLen then (Buf.zero 16).copyAt 0 ((List.range a.keyLen.toNat).map p) else Buf.zero 16
  | none => Buf.zero 16

/-- The key bytes from `i` on. -/
def keyWord (i : Nat) : Nat :=
  let keyBuf := a.keyBuf.bytes
  (keyBuf.at i).toNat ||| (keyBuf.at (i + 1)).toNat <<< 8 ||| (keyBuf.at (i + 2)).toNat <<< 16 |||
    (keyBuf.at (i + 3)).toNat <<< 24

def ctl1 : Nat :=
  let mac := a.mac.bytes
  (mac.at 2).toNat ||| (mac.at 3).toNat <<< 8 ||| (mac.at 4).toNat <<< 16 ||| (mac.at 5).toNat <<< 24

def ctl0 : Nat :=
  let ctrl := kCamValid ||| (a.algo.toNat &&& 0x7) <<< kCamAlgoShift ||| (a.keyId.toNat &&& 0x3) |||
    if a.isGroupKey then kCamGroupKey else 0
  ctrl ||| (a.mac.bytes.at 0).toNat <<< 16 ||| (a.mac.bytes.at 1).toNat <<< 24

def word : Nat → Nat
  | 0 => a.ctl0
  | 1 => a.ctl1
  | 2 => a.keyWord 0
  | 3 => a.keyWord 4
  | 4 => a.keyWord 8
  | 5 => a.keyWord 12
  | _ => 0 -- reserved

end Arguments

/-- The words below `n`, the last one first. -/
def writeWords (hasRegisters : Bool) (base : Nat) (word : Nat → Nat) : (n : Nat) → CamIo StatusCode
  | 0 => pure .ok
  | n + 1 => do
    let status ← camWrite hasRegisters (base + n) (word n)
    if status ≠ .ok then pure status else writeWords hasRegisters base word n

def programCamEntry (hasRegisters : Bool) (entry : UInt8) (a : Arguments) : CamIo StatusCode :=
  if 32 ≤ entry then pure .badValue
  else if 16 < a.keyLen then pure .badValue
  else writeWords hasRegisters (entry.toNat <<< 3) a.word 8

/-! ## The chip -/

/-- What the security engine reads in an entry. -/
structure Entry where
  valid : Bool
  isGroupKey : Bool
  algo : Nat
  keyId : Nat
  mac : Bytes
  key : Bytes
deriving DecidableEq

def decode (words : Nat → Nat) : Entry where
  valid := Fields.flag kCamValid (words 0)
  isGroupKey := Fields.flag kCamGroupKey (words 0)
  algo := Fields.extract 0x1C kCamAlgoShift (words 0)
  keyId := Fields.extract 0x3 0 (words 0)
  mac := Bytes.le 2 (words 0 >>> 16) ++ Bytes.le 4 (words 1)
  key := Bytes.le 4 (words 2) ++ Bytes.le 4 (words 3) ++ Bytes.le 4 (words 4) ++ Bytes.le 4 (words 5)

/-- The entry that the arguments describe. -/
def Arguments.entry (a : Arguments) : Entry where
  valid := true
  isGroupKey := a.isGroupKey
  algo := a.algo.toNat % 8
  keyId := a.keyId.toNat % 4
  mac := a.mac.bytes
  key := a.keyBuf.bytes

/-- The words of the CAM, by their addresses. -/
abbrev Table : Type := Nat → Nat

def words (cam : Table) (entry : Nat) : Nat → Nat := fun j => cam (8 * entry + j)

def isValid (word0 : Nat) : Bool := Fields.flag kCamValid word0

/-! ## Words -/

section

variable {a : Arguments}

/-- The bits of `CTL0` below the address. -/
def Arguments.ctrl (a : Arguments) : Nat :=
  kCamValid ||| (a.algo.toNat &&& 0x7) <<< kCamAlgoShift ||| (a.keyId.toNat &&& 0x3) |||
    if a.isGroupKey then kCamGroupKey else 0

theorem leNat_two (x y : UInt8) : Bytes.leNat [x, y] = x.toNat ||| y.toNat <<< 8 := by
  rw [Bytes.leNat_cons_or, Bytes.leNat_cons_or]
  exact congrArg (fun z => x.toNat ||| z <<< 8) (Nat.or_zero _)

theorem ctl0_eq : a.ctl0 = a.ctrl ||| Bytes.leNat [a.mac.bytes.at 0, a.mac.bytes.at 1] <<< 16 := by
  rw [leNat_two, Nat.shiftLeft_or_distrib, ← Nat.shiftLeft_add, ← Nat.or_assoc]
  rfl

theorem algo_field (x : Nat) : (x &&& 0x7) <<< kCamAlgoShift = Fields.field 0x1C kCamAlgoShift x :=
  Nat.shiftLeft_and_distrib

theorem keyId_field (x : Nat) : x &&& 0x3 = Fields.field 0x3 0 x := rfl

theorem ctrl_eq : a.ctrl = kCamValid ||| Fields.field 0x1C kCamAlgoShift a.algo.toNat |||
    Fields.field 0x3 0 a.keyId.toNat ||| if a.isGroupKey then kCamGroupKey else 0 := by
  rw [Arguments.ctrl, algo_field, keyId_field]

theorem field_lt {mask n : Nat} (h : mask < n) (shift v : Nat) : Fields.field mask shift v < n :=
  Nat.lt_of_le_of_lt Nat.and_le_right h

theorem ctrl_lt : a.ctrl < 2 ^ 16 := by
  have hgroup : (if a.isGroupKey then kCamGroupKey else 0) < 2 ^ 16 := by
    split
    · decide
    · decide
  rw [ctrl_eq]
  exact Nat.or_lt_two_pow (Nat.or_lt_two_pow (Nat.or_lt_two_pow (by decide)
    (field_lt (by decide) _ _)) (field_lt (by decide) _ _)) hgroup

/-- A field below the address is one of the control bits. -/
theorem ctl0_mod : a.ctl0 % 2 ^ 16 = a.ctrl := by
  rw [ctl0_eq, Nat.or_mod_two_pow, Nat.mod_eq_of_lt ctrl_lt, Nat.shiftLeft_eq, Nat.mul_mod_left,
    Nat.or_zero]

theorem ctl0_mac : a.ctl0 >>> 16 = Bytes.leNat [a.mac.bytes.at 0, a.mac.bytes.at 1] := by
  rw [ctl0_eq, Nat.shiftRight_or_distrib, Nat.shiftRight_eq_div_pow a.ctrl,
    Nat.div_eq_of_lt ctrl_lt, Nat.zero_or, Nat.shiftLeft_shiftRight]

theorem flag_group (mask : Nat) :
    Fields.flag mask (if a.isGroupKey then kCamGroupKey else 0) =
      (a.isGroupKey && Fields.flag mask kCamGroupKey) := by
  cases a.isGroupKey with
  | false => exact decide_eq_false fun h => h (Nat.zero_and mask)
  | true => rfl

theorem decode_valid : (decode a.word).valid = true := by
  show Fields.flag kCamValid a.ctl0 = true
  rw [← Fields.flag_mod (n := 16) (by decide), ctl0_mod, ctrl_eq, Fields.flag_or, Fields.flag_or,
    Fields.flag_or]
  rfl

theorem decode_isGroupKey : (decode a.word).isGroupKey = a.isGroupKey := by
  show Fields.flag kCamGroupKey a.ctl0 = a.isGroupKey
  rw [← Fields.flag_mod (n := 16) (by decide), ctl0_mod, ctrl_eq, Fields.flag_or, Fields.flag_or,
    Fields.flag_or, Fields.flag_field_disjoint (by decide), Fields.flag_field_disjoint (by decide),
    flag_group]
  exact Bool.and_true _

theorem extract_group {mask shift : Nat} (h : kCamGroupKey &&& mask = 0) :
    Fields.extract mask shift (if a.isGroupKey then kCamGroupKey else 0) = 0 := by
  refine Fields.extract_ite _ ?_ ?_
  · rw [Fields.extract, h, Nat.zero_shiftRight]
  · rw [Fields.extract, Nat.zero_and, Nat.zero_shiftRight]

theorem decode_algo : (decode a.word).algo = a.algo.toNat % 8 := by
  show Fields.extract 0x1C kCamAlgoShift a.ctl0 = _
  have hvalid : Fields.extract 0x1C kCamAlgoShift kCamValid = 0 := by decide
  rw [← Fields.extract_mod (n := 16) (by decide), ctl0_mod, ctrl_eq, Fields.extract_or,
    Fields.extract_or, Fields.extract_or, Fields.extract_field (w := 3) (by decide),
    Fields.extract_field_disjoint (by decide), extract_group (by decide), hvalid, Nat.zero_or,
    Nat.or_zero, Nat.or_zero]
  rfl

theorem decode_keyId : (decode a.word).keyId = a.keyId.toNat % 4 := by
  show Fields.extract 0x3 0 a.ctl0 = _
  have hvalid : Fields.extract 0x3 0 kCamValid = 0 := by decide
  rw [← Fields.extract_mod (n := 16) (by decide), ctl0_mod, ctrl_eq, Fields.extract_or,
    Fields.extract_or, Fields.extract_or, Fields.extract_field (w := 2) (by decide),
    Fields.extract_field_disjoint (by decide), extract_group (by decide), hvalid, Nat.zero_or,
    Nat.zero_or, Nat.or_zero]
  rfl

theorem decode_mac : (decode a.word).mac = a.mac.bytes := by
  show Bytes.le 2 (a.ctl0 >>> 16) ++ Bytes.le 4 a.ctl1 = _
  rw [ctl0_mac, Arguments.ctl1, Bytes.leNat_four]
  refine (congrArg₂ (· ++ ·) (Bytes.le_leNat [_, _]) (Bytes.le_leNat [_, _, _, _])).trans ?_
  match a.mac with
  | ⟨[_, _, _, _, _, _], _⟩ => rfl

theorem le_keyWord (i : Nat) : Bytes.le 4 (a.keyWord i) =
    [a.keyBuf.bytes.at i, a.keyBuf.bytes.at (i + 1), a.keyBuf.bytes.at (i + 2),
      a.keyBuf.bytes.at (i + 3)] := by
  rw [Arguments.keyWord, Bytes.leNat_four]
  exact Bytes.le_leNat [_, _, _, _]

theorem decode_key : (decode a.word).key = a.keyBuf.bytes := by
  show Bytes.le 4 (a.keyWord 0) ++ Bytes.le 4 (a.keyWord 4) ++ Bytes.le 4 (a.keyWord 8) ++
    Bytes.le 4 (a.keyWord 12) = _
  rw [le_keyWord, le_keyWord, le_keyWord, le_keyWord]
  match a.keyBuf with
  | ⟨[_, _, _, _, _, _, _, _, _, _, _, _, _, _, _, _], _⟩ => rfl

/-- The words of an entry say what the arguments do. -/
theorem decode_word : decode a.word = a.entry := by
  show Entry.mk (decode a.word).valid (decode a.word).isGroupKey (decode a.word).algo
    (decode a.word).keyId (decode a.word).mac (decode a.word).key = a.entry
  rw [decode_valid, decode_isGroupKey, decode_algo, decode_keyId, decode_mac, decode_key]
  rfl

end

/-! ## Accesses -/

/-- The registers and the CAM, with all contents the CAM has had; and the addresses of the writes that
did not arrive, and of the reads that failed. -/
structure Chip where
  regs : RegisterFile
  cam : Table
  seen : List Table
  lost : List Nat
  blind : List Nat

def Chip.start (regs : RegisterFile) (cam : Table) : Chip := ⟨regs, cam, [], [], []⟩

/-- What a command makes of the CAM. One that clears it leaves no entry valid. -/
inductive Executes (staged : Nat) (cam : Table) (cmd : Nat) : Table → Prop
  | write (hpolling : Fields.flag kCamCmdPolling cmd = true)
    (hwrite : Fields.flag kCamCmdWrite cmd = true) :
    Executes staged cam cmd (Function.update cam (cmd % 2 ^ 8) staged)
  | clear (cam' : Table) (hpolling : Fields.flag kCamCmdPolling cmd = true)
    (hread : Fields.flag kCamCmdWrite cmd = false) (hclear : Fields.flag kCamCmdClear cmd = true)
    (hinvalid : ∀ entry, isValid (cam' (8 * entry)) = false) : Executes staged cam cmd cam'
  | other (h : Fields.flag kCamCmdPolling cmd = true → Fields.flag kCamCmdWrite cmd = false ∧
      Fields.flag kCamCmdClear cmd = false) : Executes staged cam cmd cam

/-- What is left in the CAM by a write that arrives. -/
inductive Arrives (s : Chip) (address : Nat) (data : Bytes) : Table → Prop
  | command (cam : Table) (h : address = kRegCamCmd)
    (hcam : Executes (Bytes.leNat (s.regs.load kRegCamWrite 4)) s.cam (Bytes.leNat data) cam) :
    Arrives s address data cam
  | register (h : address ≠ kRegCamCmd) : Arrives s address data s.cam

/-- A write that is reported as failed may have arrived; one that is not is taken to have arrived as a
whole. What is read of the command and of its result is the chip's own affair. -/
inductive CamStep : Dialogue.Env Chip (Access.Answer fun _ : Empty => Unit)
  | read {s : Chip} {address length : Nat} (b : Buf length)
    (h : address ≠ kRegCamCmd → address ≠ kRegCamRead → b.bytes = s.regs.load address length) :
    CamStep s (.vendorRead address length) (some b) s
  | readFails {s : Chip} {address length : Nat} :
    CamStep s (.vendorRead address length) none { s with blind := address :: s.blind }
  | write {s : Chip} {address : Nat} {data : Bytes} (status : StatusCode) (cam : Table)
    (h : Arrives s address data cam) :
    CamStep s (.vendorWrite address data) status
      { s with regs := s.regs.store address data, cam := cam, seen := cam :: s.seen }
  | writeLost {s : Chip} {address : Nat} {data : Bytes} (status : StatusCode) (h : status ≠ .ok) :
    CamStep s (.vendorWrite address data) status { s with lost := address :: s.lost }

/-- What accesses to the registers from `lo` to `hi` leave alone. -/
structure Within (lo hi : Nat) (s s' : Chip) : Prop where
  regs : ∀ a, a < lo ∨ hi ≤ a → s'.regs a = s.regs a
  seen : ∀ cam ∈ s.seen, cam ∈ s'.seen
  lost : ∀ a ∈ s.lost, a ∈ s'.lost
  blind : ∀ a ∈ s.blind, a ∈ s'.blind

/-- The registers of the CAM that are written. -/
abbrev Frame : Chip → Chip → Prop := Within kRegCamCmd kRegCamRead

section

variable {lo hi : Nat} {s s' s'' : Chip}

theorem Within.rfl : Within lo hi s s := ⟨fun _ _ => .refl _, fun _ h => h, fun _ h => h, fun _ h => h⟩

theorem Within.trans (h : Within lo hi s s') (h' : Within lo hi s' s'') : Within lo hi s s'' where
  regs a ha := (h'.regs a ha).trans (h.regs a ha)
  seen cam hcam := h'.seen cam (h.seen cam hcam)
  lost a ha := h'.lost a (h.lost a ha)
  blind a ha := h'.blind a (h.blind a ha)

/-- A write that arrives. -/
theorem Within.written (address : Nat) (data : Bytes) (cam : Table) (hlow : lo ≤ address)
    (hhigh : address + data.length ≤ hi) :
    Within lo hi s { s with regs := s.regs.store address data, cam := cam, seen := cam :: s.seen } where
  regs a ha := RegisterFile.store_apart (by omega)
  seen _ := .tail _
  lost _ h := h
  blind _ h := h

theorem Within.writeLost {address : Nat} : Within lo hi s { s with lost := address :: s.lost } where
  regs _ _ := .refl _
  seen _ h := h
  lost _ := .tail _
  blind _ h := h

theorem Within.readFails {address : Nat} : Within lo hi s { s with blind := address :: s.blind } where
  regs _ _ := .refl _
  seen _ h := h
  lost _ h := h
  blind _ := .tail _

end

/-- The CAM has been brought to `cam`, or the access was reported as failed. -/
structure Advanced (s : Chip) (cam : Table) (status : StatusCode) (s' : Chip) : Prop where
  frame : Frame s s'
  held : s'.cam = s.cam ∧ status ≠ .ok ∨ s'.cam = cam ∧ cam ∈ s'.seen
  seen : ∀ cam' ∈ s'.seen, cam' ∈ s.seen ∨ cam' = s.cam ∨ cam' = cam

section

variable {s : Chip}

/-- Polls do not change the CAM. -/
theorem pollCommand_spec (attempts : Nat) :
    wp CamStep (fun _ s' => Frame s s' ∧ s'.cam = s.cam ∧ s'.seen = s.seen) (pollCommand attempts) s := by
  induction attempts generalizing s with
  | zero => exact ⟨.rfl, rfl, rfl⟩
  | succ n ih =>
    refine wp_bind.mpr fun answer s' hstep => ?_
    have hread : Frame s s' ∧ s'.cam = s.cam ∧ s'.seen = s.seen := by
      cases hstep with
      | read b h => exact ⟨.rfl, rfl, rfl⟩
      | readFails => exact ⟨.readFails, rfl, rfl⟩
    show wp CamStep _ (if _ then _ else _) _
    split
    · exact hread
    · refine wp_mono ih ?_
      rintro _ s'' ⟨hframe, hcam, hseen⟩
      exact ⟨hread.1.trans hframe, hcam.trans hread.2.1, hseen.trans hread.2.2⟩

theorem command_flags {addr : Nat} (h : addr < 2 ^ 8) :
    Fields.flag kCamCmdPolling (kCamCmdPolling ||| kCamCmdWrite ||| addr) = true ∧
      Fields.flag kCamCmdWrite (kCamCmdPolling ||| kCamCmdWrite ||| addr) = true ∧
      (kCamCmdPolling ||| kCamCmdWrite ||| addr) % 2 ^ 8 = addr := by
  have hhigh : (kCamCmdPolling ||| kCamCmdWrite) % 2 ^ 8 = 0 := by decide
  have hpolling : Fields.flag kCamCmdPolling (kCamCmdPolling ||| kCamCmdWrite) = true := by decide
  have hwrite : Fields.flag kCamCmdWrite (kCamCmdPolling ||| kCamCmdWrite) = true := by decide
  rw [Fields.flag_or, Fields.flag_or _ _ addr, Nat.or_mod_two_pow, Nat.mod_eq_of_lt h, hhigh, hpolling,
    hwrite]
  exact ⟨rfl, rfl, Nat.zero_or addr⟩

theorem command_lt {addr : Nat} (h : addr < 2 ^ 8) :
    kCamCmdPolling ||| kCamCmdWrite ||| addr < 2 ^ 32 :=
  Nat.or_lt_two_pow (by decide) (Nat.lt_trans h (by decide))

theorem leNat_le_of_lt {v : Nat} (h : v < 2 ^ 32) : Bytes.leNat (Bytes.le 4 v) = v := by
  rw [Bytes.leNat_le]
  exact Nat.mod_eq_of_lt h

/-- The word that a command stores. -/
theorem command_arrives {addr : Nat} {cam : Table} (haddr : addr < 2 ^ 8)
    (h : Arrives s kRegCamCmd (Bytes.le 4 (kCamCmdPolling ||| kCamCmdWrite ||| addr)) cam) :
    cam = Function.update s.cam addr (Bytes.leNat (s.regs.load kRegCamWrite 4)) := by
  obtain ⟨hpolling, hwrite, hcommand⟩ := command_flags haddr
  cases h with
  | register h => exact absurd rfl h
  | command _ _ hcam =>
    rw [leNat_le_of_lt (command_lt haddr)] at hcam
    cases hcam with
    | write => rw [hcommand]
    | clear _ _ hread =>
      rw [hwrite] at hread
      cases hread
    | other h =>
      rw [hwrite] at h
      cases (h hpolling).1

theorem staged_word {regs : RegisterFile} {data : Nat} (h : data < 2 ^ 32) :
    Bytes.leNat ((regs.store kRegCamWrite (Bytes.le 4 data)).load kRegCamWrite 4) = data := by
  have hload := RegisterFile.load_store regs kRegCamWrite (Bytes.le 4 data)
  rw [Bytes.length_le] at hload
  rw [hload, leNat_le_of_lt h]

theorem camWrite_spec {hasRegisters : Bool} {addr data : Nat} (haddr : addr < 2 ^ 8)
    (hdata : data < 2 ^ 32) :
    wp CamStep (Advanced s (Function.update s.cam addr data)) (camWrite hasRegisters addr data) s := by
  unfold camWrite
  split
  · exact ⟨.rfl, .inl ⟨rfl, nofun⟩, fun _ => .inl⟩
  refine wp_ask.mpr fun status s₁ hstep => ?_
  cases hstep with
  | writeLost _ h =>
    rw [if_pos h]
    exact ⟨.writeLost, .inl ⟨rfl, h⟩, fun _ => .inl⟩
  | write _ cam h =>
    obtain rfl : cam = s.cam := by
      cases h with
      | command _ h => exact absurd h (by decide)
      | register => rfl
    have hframe : Frame s _ :=
      .written kRegCamWrite (Bytes.le 4 data) s.cam (by decide) (by rw [Bytes.length_le]; decide)
    have hseen : ∀ cam' ∈ s.cam :: s.seen, cam' ∈ s.seen ∨ cam' = s.cam := fun cam' h' =>
      (List.mem_cons.mp h').symm
    split
    · rename_i hstatus
      exact ⟨hframe, .inl ⟨rfl, hstatus⟩, fun cam' h' => (hseen cam' h').imp_right .inl⟩
    refine wp_ask.mpr fun status s₂ hstep => ?_
    cases hstep with
    | writeLost _ h =>
      rw [if_pos h]
      exact ⟨hframe.trans .writeLost, .inl ⟨rfl, h⟩, fun cam' h' => (hseen cam' h').imp_right .inl⟩
    | write _ cam h =>
      have hcam : cam = Function.update s.cam addr data := by
        rw [command_arrives haddr h]
        exact congrArg (Function.update s.cam addr) (staged_word hdata)
      rw [← hcam]
      have hstored := hframe.trans (.written kRegCamCmd
        (Bytes.le 4 (kCamCmdPolling ||| kCamCmdWrite ||| addr)) cam (by decide)
        (by rw [Bytes.length_le]; decide))
      have hseen' : ∀ cam' ∈ cam :: s.cam :: s.seen, cam' ∈ s.seen ∨ cam' = s.cam ∨ cam' = cam := by
        intro cam' h'
        rcases List.mem_cons.mp h' with rfl | h'
        · exact .inr (.inr rfl)
        · exact (hseen cam' h').imp_right .inl
      split
      · exact ⟨hstored, .inr ⟨rfl, .head _⟩, hseen'⟩
      · refine wp_mono (pollCommand_spec 100) ?_
        rintro _ s₃ ⟨hpolled, hheld, hsame⟩
        refine ⟨hstored.trans hpolled, .inr ⟨hheld, ?_⟩, ?_⟩
        · rw [hsame]
          exact .head _
        · rw [hsame]
          exact hseen'

end

/-! ## Entries -/

/-- The CAM with other words in an entry. -/
def put (cam : Table) (entry : Nat) (w : Nat → Nat) : Table := fun a =>
  if a / 8 = entry then w (a % 8) else cam a

/-- The words of an entry from `k` on are replaced. -/
def staged (cam : Table) (entry : Nat) (new : Nat → Nat) (k : Nat) : Table :=
  put cam entry (Staged.stage (words cam entry) new k)

section

variable {cam : Table} {entry k : Nat} {new : Nat → Nat}

theorem staged_self {j : Nat} (h : j < 8) :
    words (staged cam entry new k) entry j = Staged.stage (words cam entry) new k j := by
  have hdiv : (8 * entry + j) / 8 = entry := by omega
  have hmod : (8 * entry + j) % 8 = j := by omega
  rw [words, staged, put, hdiv, hmod, if_pos rfl]

theorem staged_other {a : Nat} (h : a / 8 ≠ entry) : staged cam entry new k a = cam a := if_neg h

/-- Nothing is replaced. -/
theorem staged_all : staged cam entry new 8 = cam := by
  funext a
  by_cases h : a / 8 = entry
  · have hmod : a % 8 < 8 := Nat.mod_lt a (by decide)
    have haddr : 8 * entry + a % 8 = a := by omega
    rw [staged, put, if_pos h, Staged.stage_old hmod, words, haddr]
  · exact staged_other h

theorem staged_next (h : k < 8) :
    Function.update (staged cam entry new (k + 1)) (8 * entry + k) (new k) = staged cam entry new k := by
  funext a
  by_cases hself : a = 8 * entry + k
  · have hdiv : a / 8 = entry := by omega
    have hmod : a % 8 = k := by omega
    rw [hself, Function.update_self, ← hself, staged, put, if_pos hdiv, hmod,
      Staged.stage_new (Nat.le_refl k)]
  · rw [Function.update_of_ne hself]
    by_cases hdiv : a / 8 = entry
    · have hmod : a % 8 ≠ k := by omega
      rw [staged, staged, put, put, if_pos hdiv, if_pos hdiv, Staged.stage, Staged.stage]
      by_cases hlt : k ≤ a % 8
      · rw [if_pos hlt, if_pos (by omega)]
      · rw [if_neg hlt, if_neg (by omega)]
    · rw [staged_other hdiv, staged_other hdiv]

end

/-- The words below `k` have been written, down to word `k'`. -/
structure Programmed (cam : Table) (entry : Nat) (new : Nat → Nat) (k : Nat) (s : Chip)
    (status : StatusCode) (s' : Chip) : Prop where
  frame : Frame s s'
  reached : ∃ k' ≤ k, s'.cam = staged cam entry new k' ∧ (status = .ok → k' = 0) ∧
    ∀ j, k' ≤ j → j < k → staged cam entry new j ∈ s'.seen
  seen : ∀ cam' ∈ s'.seen, cam' ∈ s.seen ∨ ∃ j ≤ k, cam' = staged cam entry new j

theorem writeWords_spec {hasRegisters : Bool} {cam : Table} {entry : Nat} {new : Nat → Nat}
    (hentry : entry < 32) (hnew : ∀ j, new j < 2 ^ 32) {k : Nat} (hk : k ≤ 8) {s : Chip}
    (hs : s.cam = staged cam entry new k) :
    wp CamStep (Programmed cam entry new k s) (writeWords hasRegisters (8 * entry) new k) s := by
  induction k generalizing s with
  | zero =>
    exact ⟨.rfl, ⟨0, Nat.le_refl 0, hs, fun _ => rfl, fun j _ hj => absurd hj (Nat.not_lt_zero j)⟩,
      fun cam' => .inl⟩
  | succ k ih =>
    have haddr : 8 * entry + k < 2 ^ 8 := by omega
    refine wp_seq (camWrite_spec haddr (hnew k)) ?_
    intro status s₁ h
    rw [hs, staged_next hk] at h
    obtain ⟨hframe, hheld, hseen⟩ := h
    have hseen' : ∀ cam' ∈ s₁.seen, cam' ∈ s.seen ∨ ∃ j ≤ k + 1, cam' = staged cam entry new j := by
      intro cam' h'
      rcases hseen cam' h' with h' | rfl | rfl
      · exact .inl h'
      · exact .inr ⟨k + 1, Nat.le_refl _, hs⟩
      · exact .inr ⟨k, Nat.le_succ k, rfl⟩
    show wp CamStep _ (if _ then _ else _) _
    split
    · rename_i hstatus
      refine ⟨hframe, ?_, hseen'⟩
      rcases hheld with ⟨hcam, -⟩ | ⟨hcam, hmem⟩
      · exact ⟨k + 1, Nat.le_refl _, hcam.trans hs, fun h => absurd h hstatus,
          fun j hj hlt => absurd hlt (Nat.not_lt.mpr hj)⟩
      · refine ⟨k, Nat.le_succ k, hcam, fun h => absurd h hstatus, fun j hj hlt => ?_⟩
        obtain rfl : j = k := Nat.le_antisymm (Nat.le_of_lt_succ hlt) hj
        exact hmem
    · rename_i hstatus
      obtain ⟨hcam, hmem⟩ : s₁.cam = staged cam entry new k ∧ staged cam entry new k ∈ s₁.seen := by
        rcases hheld with ⟨-, hfailed⟩ | h
        · exact absurd hfailed hstatus
        · exact h
      refine wp_mono (ih (Nat.le_of_succ_le hk) hcam) ?_
      rintro status s₂ ⟨hrest, ⟨k', hk', hfinal, hok, hpassed⟩, hseen₂⟩
      refine ⟨hframe.trans hrest, ⟨k', Nat.le_succ_of_le hk', hfinal, hok, ?_⟩, ?_⟩
      · intro j hj hlt
        rcases Nat.lt_succ_iff_lt_or_eq.mp hlt with hlt | rfl
        · exact hpassed j hj hlt
        · exact hrest.seen _ hmem
      · intro cam' h'
        rcases hseen₂ cam' h' with h' | ⟨j, hj, rfl⟩
        · exact hseen' cam' h'
        · exact .inr ⟨j, Nat.le_succ_of_le hj, rfl⟩

theorem shift_or_lt {x : UInt8} {n : Nat} (h : n ≤ 24) : x.toNat <<< n < 2 ^ 32 := by
  rw [Nat.shiftLeft_eq]
  calc x.toNat * 2 ^ n < 2 ^ 8 * 2 ^ n := Nat.mul_lt_mul_of_pos_right x.toNat_lt (Nat.two_pow_pos n)
    _ ≤ 2 ^ 8 * 2 ^ 24 := Nat.mul_le_mul_left _ (Nat.pow_le_pow_right (by decide) h)

theorem four_lt (w x y z : UInt8) :
    w.toNat ||| x.toNat <<< 8 ||| y.toNat <<< 16 ||| z.toNat <<< 24 < 2 ^ 32 := by
  have hw : w.toNat < 2 ^ 32 := Nat.lt_trans w.toNat_lt (by decide)
  exact Nat.or_lt_two_pow (Nat.or_lt_two_pow (Nat.or_lt_two_pow hw (shift_or_lt (by decide)))
    (shift_or_lt (by decide))) (shift_or_lt (by decide))

theorem word_lt (a : Arguments) (j : Nat) : a.word j < 2 ^ 32 := by
  match j with
  | 0 =>
    have hctrl : a.ctrl < 2 ^ 32 := Nat.lt_trans ctrl_lt (by decide)
    exact Nat.or_lt_two_pow (Nat.or_lt_two_pow hctrl (shift_or_lt (by decide)))
      (shift_or_lt (by decide))
  | 1 => exact four_lt _ _ _ _
  | 2 => exact four_lt _ _ _ _
  | 3 => exact four_lt _ _ _ _
  | 4 => exact four_lt _ _ _ _
  | 5 => exact four_lt _ _ _ _
  | _ + 6 => exact Nat.two_pow_pos 32

/-- No access is made for arguments that are refused. -/
def Refused (entry : UInt8) (a : Arguments) : Prop := 32 ≤ entry ∨ 16 < a.keyLen

theorem programCamEntry_spec (hasRegisters : Bool) (entry : UInt8) (a : Arguments) (s : Chip) :
    wp CamStep (fun status s' => Refused entry a ∧ status = .badValue ∧ s' = s ∨
        ¬ Refused entry a ∧ Programmed s.cam entry.toNat a.word 8 s status s')
      (programCamEntry hasRegisters entry a) s := by
  unfold programCamEntry
  split
  · rename_i hentry
    exact .inl ⟨.inl hentry, rfl, rfl⟩
  rename_i hentry
  split
  · rename_i hlen
    exact .inl ⟨.inr hlen, rfl, rfl⟩
  rename_i hlen
  have hlt : entry.toNat < 32 := Nat.not_le.mp hentry
  have hbase : entry.toNat <<< 3 = 8 * entry.toNat := by rw [Nat.shiftLeft_eq, Nat.mul_comm]
  rw [hbase]
  refine wp_mono (writeWords_spec hlt (word_lt a) (Nat.le_refl 8) staged_all.symm) ?_
  exact fun status s' h => .inr ⟨fun hr => hr.elim hentry hlen, h⟩

/-- The words of an entry that has been written. -/
theorem decode_staged {cam : Table} {entry : Nat} {a : Arguments} :
    decode (words (staged cam entry a.word 0) entry) = a.entry := by
  have hword : ∀ j < 8, words (staged cam entry a.word 0) entry j = a.word j := fun j hj =>
    (staged_self hj).trans (Staged.stage_new (Nat.zero_le j))
  rw [← decode_word]
  unfold decode
  rw [hword 0 (by decide), hword 1 (by decide), hword 2 (by decide), hword 3 (by decide),
    hword 4 (by decide), hword 5 (by decide)]

/-- What a call leaves of the CAM and of the other registers. -/
structure EntryWritten (entry : UInt8) (a : Arguments) (s : Chip) (status : StatusCode) (s' : Chip) :
    Prop where
  frame : Frame s s'
  refused : Refused entry a → status = .badValue ∧ s' = s
  others : ∀ other, other ≠ entry.toNat → ∀ j < 8, words s'.cam other j = words s.cam other j
  done : status = .ok → ¬ Refused entry a ∧ decode (words s'.cam entry.toNat) = a.entry

theorem programCamEntry_writes (hasRegisters : Bool) (entry : UInt8) (a : Arguments) (s : Chip) :
    wp CamStep (EntryWritten entry a s) (programCamEntry hasRegisters entry a) s := by
  refine wp_mono (programCamEntry_spec hasRegisters entry a s) ?_
  rintro status s' (⟨-, rfl, rfl⟩ | ⟨haccepted, h⟩)
  · exact ⟨.rfl, fun _ => ⟨rfl, rfl⟩, fun _ _ _ _ => rfl, nofun⟩
  obtain ⟨k, -, hcam, hok, -⟩ := h.reached
  refine ⟨h.frame, fun hrefused => absurd hrefused haccepted, ?_, ?_⟩
  · intro other hother j hj
    have hdiv : (8 * other + j) / 8 ≠ entry.toNat := by omega
    rw [words, words, hcam, staged_other hdiv]
  · intro hstatus
    rw [hcam, hok hstatus, decode_staged]
    exact ⟨haccepted, rfl⟩

/-- Without the register access nothing is written. -/
theorem programCamEntry_noInit {entry : UInt8} {a : Arguments} (h : ¬ Refused entry a) :
    programCamEntry false entry a = pure .noInit := by
  rw [programCamEntry, if_neg fun hentry => h (.inl hentry), if_neg fun hlen => h (.inr hlen)]
  rfl

/-- Whatever accesses fail, only the entry changes, and nothing does for arguments that are refused or
without the register access. When the write is reported as done, the entry says what the arguments do,
with the key filled up with zeros. -/
theorem entry_programmed (hasRegisters : Bool) (entry : UInt8) (a : Arguments) (s : Chip) :
    wp CamStep (fun status s' =>
        (∀ other, other ≠ entry.toNat → ∀ j < 8, words s'.cam other j = words s.cam other j) ∧
        (Refused entry a → status = .badValue ∧ s' = s) ∧
        (¬ Refused entry a → hasRegisters = false → status = .noInit ∧ s' = s) ∧
        (status = .ok → ¬ Refused entry a ∧ decode (words s'.cam entry.toNat) = a.entry))
      (programCamEntry hasRegisters entry a) s := by
  have hnoInit : wp CamStep (fun status s' => ¬ Refused entry a → hasRegisters = false →
      status = .noInit ∧ s' = s) (programCamEntry hasRegisters entry a) s := by
    by_cases h : ¬ Refused entry a ∧ hasRegisters = false
    · rw [h.2, programCamEntry_noInit h.1]
      exact fun _ _ => ⟨rfl, rfl⟩
    · exact wp_mono wp_true fun _ _ _ haccepted hnull => absurd ⟨haccepted, hnull⟩ h
  refine wp_mono (wp_and (programCamEntry_writes hasRegisters entry a s) hnoInit) ?_
  rintro status s' ⟨h, hnull⟩
  exact ⟨h.others, h.refused, hnull, h.done⟩

/-- The CAM has had the entry valid with words of two entries, while it was written. -/
def MixedIn (entry : Nat) (a : Arguments) (cam : Table) (seen : List Table) : Prop :=
  ∃ cam' ∈ seen, Staged.Mixed isValid 8 (words cam entry) a.word (words cam' entry)

theorem mixed_staged {cam : Table} {entry k : Nat} {new : Nat → Nat} :
    Staged.Mixed isValid 8 (words cam entry) new (words (staged cam entry new k) entry) ↔
      Staged.Mixed isValid 8 (words cam entry) new (Staged.stage (words cam entry) new k) := by
  have hword : ∀ j < 8, words (staged cam entry new k) entry j = Staged.stage (words cam entry) new k j :=
    fun j hj => staged_self hj
  unfold Staged.Mixed
  rw [hword 0 (by decide)]
  refine and_congr_right fun _ => and_congr ?_ ?_
  · exact exists_congr fun i => and_congr_right fun hi => by rw [hword i hi]
  · exact exists_congr fun i => and_congr_right fun hi => by rw [hword i hi]

/-- The word that makes an entry valid is written last, so an entry that was not valid is never seen
with only some of its words. One that was valid is, if two of its words differ. -/
theorem entry_staged (hasRegisters : Bool) (entry : UInt8) (a : Arguments) (regs : RegisterFile)
    (cam : Table) : wp CamStep (fun status s' =>
        (MixedIn entry.toNat a cam s'.seen → isValid (words cam entry.toNat 0) = true ∧
          Staged.DifferTwice 8 (words cam entry.toNat) a.word) ∧
        (status = .ok → isValid (words cam entry.toNat 0) = true →
          Staged.DifferTwice 8 (words cam entry.toNat) a.word → MixedIn entry.toNat a cam s'.seen))
      (programCamEntry hasRegisters entry a) (.start regs cam) := by
  refine wp_mono (programCamEntry_spec hasRegisters entry a (.start regs cam)) ?_
  rintro status s' (⟨-, rfl, rfl⟩ | ⟨-, h⟩)
  · refine ⟨?_, nofun⟩
    rintro ⟨cam', hmem, -⟩
    cases hmem
  constructor
  · rintro ⟨cam', hmem, hmixed⟩
    rcases h.seen cam' hmem with hmem | ⟨j, -, rfl⟩
    · cases hmem
    · exact Staged.mixed_stage (mixed_staged.mp hmixed)
  · intro hstatus hvalid hdiffer
    obtain ⟨k, -, -, hok, hpassed⟩ := h.reached
    obtain ⟨j, hj, hmixed⟩ := Staged.exists_mixed hvalid hdiffer
    have hk := hok hstatus
    exact ⟨_, hpassed j (hk ▸ Nat.zero_le j) hj, mixed_staged.mpr hmixed⟩

end Cam
end Rtl8814au
