import Rtl8814au.EfuseReader.Decode
import Rtl8814au.RegisterIO.Poll

/-!
# EfuseReader.ReadByte

`_ReadByte`: a byte of the EFUSE through the control register.

* `readByte`      — the register accesses.
* `poll_observed` — when the polls, and `readByte` with them, tell what they saw.
* `readByte_run`  — against a register that works: the byte at the lower ten bits of the address.
-/

namespace Rtl8814au
namespace EfuseReader

open Dialogue RegisterIO

def kRegEfuseCtrl : Nat := 0x0030

def kEfuseCtrlValid : UInt32 := (1 : UInt32) <<< 31
def kEfuseCtrlAddr_Shift : UInt32 := 8
def kEfuseCtrlAddr_Mask : UInt32 := 0x03FF00
def kEfuseCtrlData_Mask : UInt32 := 0x000000FF

/-- The address field set and the valid bit clear, which starts a read cycle. -/
def startWord (address : UInt16) (ctrl : UInt32) : UInt32 :=
  (ctrl &&& ~~~kEfuseCtrlAddr_Mask |||
    (address.toUInt32 <<< kEfuseCtrlAddr_Shift) &&& kEfuseCtrlAddr_Mask) &&& ~~~kEfuseCtrlValid

def readByte (address : UInt16) : DeviceIo (StatusCode × UInt8) := do
  let ctrl ← read32 kRegEfuseCtrl
  let _ ← write32 kRegEfuseCtrl (startWord address (.ofNat ctrl)).toNat
  let status ← pollFor32 kRegEfuseCtrl kEfuseCtrlValid kEfuseCtrlValid 100
  if status ≠ StatusCode.ok then pure (.timedOut, 0xFF)
  else
    let result ← read32 kRegEfuseCtrl
    pure (.ok, (UInt32.ofNat result &&& kEfuseCtrlData_Mask).toUInt8)

/-! ## What the polls tell -/

/-- The exchanges of the poll: a read and a write are before it, the read of the byte behind it. -/
def pollExchanges (status : StatusCode) (log : List Exchange) : List Exchange :=
  if status = .ok then (log.drop 2).dropLast else log.drop 2

/-- A poll that waits for anything but its whole mask only succeeds on a read that did; the others
do where no read fails before the value is seen. -/
theorem poll_observed (address maxAttempts : Nat) (mask8 expected8 : UInt8) (mask32 expected32 : UInt32)
    (physAddr : UInt16) :
    wp logged (fun status log => (status = .ok → Observes mask8.toNat expected8.toNat log) ↔
          (mask8 = expected8 → ¬ FailsFirst mask8.toNat expected8.toNat log))
        (pollFor8 address mask8 expected8 maxAttempts) [] ∧
      wp logged (fun status log => (status = .ok → Observes mask32.toNat expected32.toNat log) ↔
          (mask32 = expected32 → ¬ FailsFirst mask32.toNat expected32.toNat log))
        (pollFor32 address mask32 expected32 maxAttempts) [] ∧
      wp logged (fun result log =>
          (result.1 = .ok → Observes kEfuseCtrlValid.toNat kEfuseCtrlValid.toNat
            (pollExchanges result.1 log)) ↔
          ¬ FailsFirst kEfuseCtrlValid.toNat kEfuseCtrlValid.toNat (pollExchanges result.1 log))
        (readByte physAddr) [] := by
  refine ⟨?_, ?_, ?_⟩
  · refine wp_mono (pollFor_spec mask8.toNat_lt maxAttempts []) ?_
    rintro status log ⟨polled, rfl, htruthful⟩
    rw [Truthful, UInt8.toNat_inj] at htruthful
    exact htruthful
  · refine wp_mono (pollFor_spec mask32.toNat_lt maxAttempts []) ?_
    rintro status log ⟨polled, rfl, htruthful⟩
    rw [Truthful, UInt32.toNat_inj] at htruthful
    exact htruthful
  · refine wp_bind.mpr (wp_logged.mpr fun ctrl => wp_logged.mpr fun written => ?_)
    refine wp_seq (pollFor_spec kEfuseCtrlValid.toNat_lt 100 _) ?_
    rintro status log ⟨polled, rfl, htruthful⟩
    rw [Truthful, eq_self, true_implies] at htruthful
    by_cases hok : status = StatusCode.ok
    · rw [if_neg (not_not.mpr hok)]
      refine wp_logged.mpr fun last => ?_
      show (_ → Observes _ _ (List.dropLast (polled ++ _))) ↔
        ¬ FailsFirst _ _ (List.dropLast (polled ++ _))
      rw [List.dropLast_concat, ← htruthful]
      exact ⟨fun h _ => h rfl, fun h _ => h hok⟩
    · rw [if_pos hok]
      show ((StatusCode.timedOut = .ok) → _) ↔ ¬ FailsFirst _ _ polled
      rw [← htruthful]
      exact ⟨fun _ h => absurd h hok, fun _ h => absurd h (by decide)⟩

/-- The wait for the clock, and the read of a byte: a read of the register fails, and counts as the
value that is waited for. -/
theorem poll_unobserved :
    Runs logged (pollFor8 0x0006 0x02 0x02 200) [] .ok [readExchange 0x0006 1 none] ∧
      ¬ Observes 0x02 0x02 [readExchange 0x0006 1 none] ∧
      ∃ log, Runs logged (readByte 0) [] (.ok, 0xFF) log ∧
        ¬ Observes kEfuseCtrlValid.toNat kEfuseCtrlValid.toNat (pollExchanges .ok log) := by
  have hnot : ∀ {address length mask expected : Nat},
      ¬ Observes mask expected [readExchange address length none] := by
    rintro address length mask expected ⟨e, hmem, hshows⟩
    rw [List.mem_singleton.mp hmem] at hshows
    exact not_shows_none hshows
  have hread : ∀ (address length : Nat) (log : List Exchange),
      logged log (.vendorRead address length) none (log ++ [readExchange address length none]) :=
    fun _ _ _ => rfl
  have hwrite : ∀ (address : Nat) (data : Bytes) (log : List Exchange),
      logged log (.vendorWrite address data) StatusCode.ok (log ++ [⟨.vendorWrite address data, .ok⟩]) :=
    fun _ _ _ => rfl
  refine ⟨.ask (hread _ _ _) .done, hnot, _, .ask (hread _ _ _) (.ask (hwrite _ _ _)
    (.ask (hread _ _ _) (.ask (hread _ _ _) .done))), ?_⟩
  exact hnot

/-! ## A register that works -/

/-- The register when it is written: a read cycle puts the byte in, and sets the valid bit. -/
def written (content : Buf kEfuseTotalSize) (word : UInt32) : UInt32 :=
  if word &&& kEfuseCtrlValid = 0 then
    let address := (word &&& kEfuseCtrlAddr_Mask) >>> kEfuseCtrlAddr_Shift
    word &&& ~~~kEfuseCtrlData_Mask ||| (content.bytes.at address.toNat).toUInt32 ||| kEfuseCtrlValid
  else word

/-- The state is what the register holds. -/
def serveRegister (content : Buf kEfuseTotalSize) :
    (i : Access DeviceCall) → UInt32 → Access.Answer DeviceCall.Answer i × UInt32
  | .vendorRead _ length, ctrl => (some ⟨Bytes.le length ctrl.toNat, Bytes.length_le length _⟩, ctrl)
  | .vendorWrite _ data, _ => (StatusCode.ok, written content (.ofNat (Bytes.leNat data)))
  | .call .fDevicePresent, ctrl => (true, ctrl)

section

variable {content : Buf kEfuseTotalSize}

theorem leNat_le (word : UInt32) : Bytes.leNat (Bytes.le 4 word.toNat) = word.toNat :=
  (Bytes.leNat_le 4 word.toNat).trans (Nat.mod_eq_of_lt word.toNat_lt)

theorem read32_run {address : Nat} {ctrl : UInt32} :
    (read32 address).run (serveRegister content) ctrl = (ctrl.toNat, ctrl) :=
  congrArg (·, ctrl) (leNat_le ctrl)

theorem write32_run {address : Nat} {word ctrl : UInt32} :
    (write32 address word.toNat).run (serveRegister content) ctrl = (.ok, written content word) := by
  show (StatusCode.ok, written content (.ofNat (Bytes.leNat (Bytes.le 4 word.toNat)))) = _
  rw [leNat_le, UInt32.ofNat_toNat]

theorem and_or_distrib_right (x y z : UInt32) : (x ||| y) &&& z = x &&& z ||| y &&& z :=
  UInt32.toBitVec_inj.mp BitVec.and_or_distrib_right

theorem or_and_self (x y : UInt32) : (x ||| y) &&& y = y := by
  rw [← UInt32.toBitVec_inj, UInt32.toBitVec_and, UInt32.toBitVec_or]
  ext i
  rw [BitVec.getElem_and, BitVec.getElem_or, Bool.and_eq_right_iff_imp]
  exact fun h => Bool.or_eq_true_iff.mpr (.inr h)

theorem startWord_valid (address : UInt16) (ctrl : UInt32) :
    startWord address ctrl &&& kEfuseCtrlValid = 0 := by
  have hclear : ~~~kEfuseCtrlValid &&& kEfuseCtrlValid = 0 := by decide
  rw [startWord, UInt32.and_assoc, hclear, UInt32.and_zero]

/-- Higher bits of the address are lost. -/
theorem startWord_address (address : UInt16) (ctrl : UInt32) :
    ((startWord address ctrl &&& kEfuseCtrlAddr_Mask) >>> kEfuseCtrlAddr_Shift).toNat =
      address.toNat % 1024 := by
  have hvalid : ~~~kEfuseCtrlValid &&& kEfuseCtrlAddr_Mask = kEfuseCtrlAddr_Mask := by decide
  have hclear : ~~~kEfuseCtrlAddr_Mask &&& kEfuseCtrlAddr_Mask = 0 := by decide
  have hword : startWord address ctrl &&& kEfuseCtrlAddr_Mask =
      address.toUInt32 <<< kEfuseCtrlAddr_Shift &&& kEfuseCtrlAddr_Mask := by
    rw [startWord, UInt32.and_assoc, hvalid, and_or_distrib_right, UInt32.and_assoc, hclear,
      UInt32.and_zero, UInt32.zero_or, UInt32.and_assoc, UInt32.and_self]
  have hfield : Fields.extract 0x03FF00 8 (address.toNat <<< 8 % 2 ^ 32) =
      address.toNat <<< 8 % 2 ^ 32 / 2 ^ 8 % 2 ^ 10 := Fields.extract_eq (by decide) _
  have hlt := address.toNat_lt
  rw [hword, UInt32.toNat_shiftRight, UInt32.toNat_and, UInt32.toNat_shiftLeft]
  refine hfield.trans ?_
  rw [Nat.shiftLeft_eq]
  omega

theorem toUInt8_and_mask (x : UInt8) : (x.toUInt32 &&& kEfuseCtrlData_Mask).toUInt8 = x := by
  refine UInt8.toNat_inj.mp ?_
  rw [UInt32.toNat_toUInt8, UInt32.toNat_and, UInt8.toNat_toUInt32]
  have hmask : x.toNat &&& kEfuseCtrlData_Mask.toNat = x.toNat % 2 ^ 8 :=
    Nat.and_two_pow_sub_one_eq_mod x.toNat 8
  rw [hmask, Nat.mod_mod, Nat.mod_eq_of_lt x.toNat_lt]

/-- A cycle that is started has ended by the first read. -/
theorem written_start (content : Buf kEfuseTotalSize) (address : UInt16) (ctrl : UInt32) :
    written content (startWord address ctrl) &&& kEfuseCtrlValid = kEfuseCtrlValid ∧
      (written content (startWord address ctrl) &&& kEfuseCtrlData_Mask).toUInt8 =
        content.bytes.at (address.toNat % 1024) := by
  have hvalid : kEfuseCtrlValid &&& kEfuseCtrlData_Mask = 0 := by decide
  have hclear : ~~~kEfuseCtrlData_Mask &&& kEfuseCtrlData_Mask = 0 := by decide
  rw [written, if_pos (startWord_valid address ctrl)]
  simp only [startWord_address]
  constructor
  · exact or_and_self _ _
  · rw [and_or_distrib_right, and_or_distrib_right, UInt32.and_assoc, hclear, hvalid, UInt32.and_zero,
      UInt32.zero_or, UInt32.or_zero]
    exact toUInt8_and_mask _

theorem readByte_run (address : UInt16) (ctrl : UInt32) :
    ((readByte address).run (serveRegister content) ctrl).1 =
      (.ok, content.bytes.at (address.toNat % 1024)) := by
  obtain ⟨hvalid, hdata⟩ := written_start content address ctrl
  rw [readByte, run_bind_eq read32_run, UInt32.ofNat_toNat, run_bind_eq write32_run]
  have hpoll : (pollFor32 kRegEfuseCtrl kEfuseCtrlValid kEfuseCtrlValid 100).run
      (serveRegister content) (written content (startWord address ctrl)) =
      (.ok, written content (startWord address ctrl)) := by
    rw [pollFor32, pollFor]
    refine (run_bind_eq read32_run).trans ?_
    rw [← UInt32.toNat_and, hvalid, if_pos rfl]
    rfl
  rw [run_bind_eq hpoll, if_neg (not_not.mpr rfl), run_bind_eq read32_run, UInt32.ofNat_toNat, hdata]
  rfl

end

end EfuseReader
end Rtl8814au
