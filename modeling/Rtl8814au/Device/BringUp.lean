import Mathlib.Data.Fin.VecNotation
import Rtl8814au.Lib.Fields
import Rtl8814au.RegisterIO.Access

/-!
# Device.BringUp

`_InitHardware`: the stages that bring the chip up, any of which may fail, with the register accesses
that `_InitHardware` makes itself. The stages are functions of their own.

* `initHardware` — the stages in their order, with the attempts at the firmware.
* `Bench`        — the chip on the bench: what has been done to it so far.
* `Allowed`      — which stages and writes come ahead of a stage, and of the start of the MAC.
* `Founded`      — whether the writes that a stage relies on have arrived. Their statuses are ignored.
* `bring_up`     — whatever fails, the order is kept; a stage is entered without its writes exactly if
  one of them failed; the status is that of the stage that failed, and the device counts as initialised
  exactly if none did.
-/

namespace Rtl8814au
namespace BringUp

open Dialogue RegisterIO

def kFirmwareLoadAttempts : Nat := 3

def kRegCR : Nat := 0x0100
def kCR_MAC_TX_En : Nat := 1 <<< 6
def kCR_MAC_RX_En : Nat := 1 <<< 7

inductive Stage
  | powerOnSequence
  | readEfuseMap
  | readMacAddress
  | initMAC
  | load
  | writeMacAddress
  | phyInitialize
  | initRxAggregation
  | configTrxPath
  | clearHalt
  | rxStart
  | wifiStart
  | createPostAssocSem
  | spawnPostAssoc
  | spawnEapol4Way
  | transmitProbe
deriving DecidableEq

abbrev InitIo (α : Type) : Type := Io (fun _ : Stage => StatusCode) α

/-- The objects that are there; the others are needed. -/
structure Parts where
  fPhyConfig : Bool
  fRxPath : Bool
  fWiFiManager : Bool

structure Outcome where
  status : StatusCode
  fHardwareInitialized : Bool
  postAssocWorker : Bool -- `fPostAssocSem` is there, and a thread that waits for it
  eapolWorker : Bool

def Outcome.failed (status : StatusCode) : Outcome := ⟨status, false, false, false⟩

/-- A stage whose failure ends the initialisation. -/
def must (stage : Stage) (rest : InitIo Outcome) : InitIo Outcome := do
  let status ← call stage
  if status ≠ .ok then pure (.failed status) else rest

/-- One for an object that may not be there. -/
def mustIf (there : Bool) (stage : Stage) (rest : InitIo Outcome) : InitIo Outcome :=
  if there then must stage rest else rest

/-- What is left of the attempts at the firmware. A failed one is followed by a new power-on, but
for the last. -/
def loadFirmware : (attempts : Nat) → InitIo StatusCode
  | 0 => pure .ok
  | n + 1 => do
    let status ← call .load
    if status = .ok then pure .ok
    else if n = 0 then pure status
    else
      let resetStatus ← call .powerOnSequence
      if resetStatus ≠ .ok then pure resetStatus else loadFirmware n

/-- The baseband out of its reset, the four RF paths on, and the pins of the front end. -/
def powerRadio : InitIo Unit := do
  let before ← read8 0x1002
  let _ ← write8 0x1002 (before ||| 0x03)
  let _ ← read8 0x1002
  let _ ← write8 0x001F 0x07
  let _ ← write8 0x0020 0x07
  let _ ← write8 0x0021 0x07
  let _ ← write8 0x0076 0x07
  let _ ← read8 0x001F
  let _ ← read8 0x0020
  let _ ← read8 0x0021
  let _ ← read8 0x0076
  let gpioSel ← read8 0x0042
  let _ ← write8 0x0042 (gpioSel ||| 0xC0)
  let _ ← read8 0x0042
  pure ()

def enableMac : InitIo Unit := do
  let crBefore ← read16 kRegCR
  let _ ← write16 kRegCR (crBefore ||| kCR_MAC_TX_En ||| kCR_MAC_RX_En)
  let _ ← read16 kRegCR
  pure ()

def spawnWorkers : InitIo Outcome := do
  let sem ← call .createPostAssocSem
  let postAssoc ← if sem = .ok then call .spawnPostAssoc else pure sem
  let eapol ← call .spawnEapol4Way
  let _ ← call .transmitProbe
  pure ⟨.ok, true, postAssoc = .ok, eapol = .ok⟩

/-- The last stages. -/
def startRadio (p : Parts) : InitIo Outcome := do
  enableMac
  let _ ← call .configTrxPath
  if p.fRxPath then
    let _ ← call .clearHalt
    must .rxStart (mustIf p.fWiFiManager .wifiStart spawnWorkers)
  else mustIf p.fWiFiManager .wifiStart spawnWorkers

def initHardware (p : Parts) : InitIo Outcome :=
  must .powerOnSequence <| must .readEfuseMap <| must .readMacAddress <| must .initMAC <| do
    let status ← loadFirmware kFirmwareLoadAttempts
    if status ≠ .ok then pure (.failed status)
    else
      must .writeMacAddress do
        powerRadio
        mustIf p.fPhyConfig .phyInitialize <| must .initRxAggregation <| startRadio p

/-! ## The chip on the bench -/

/-- A write of `_InitHardware` itself. One whose status is not `B_OK` is not counted as arrived. -/
structure Write where
  address : Nat
  value : Nat
  arrived : Bool

structure Bench where
  done : List Stage -- the stages that succeeded
  loads : Nat -- attempts at the firmware
  halted : Bool -- an attempt failed, and there was no power-on since
  written : List Write
  early : Bool -- something was done before what comes ahead of it
  unfounded : Bool -- a stage was entered without a write that it relies on
  last : Option (Stage × StatusCode)

def Bench.start : Bench := ⟨[], 0, false, [], false, false, none⟩

def Bench.arrived (s : Bench) : List Write := s.written.filter Write.arrived

/-- The addresses of the writes that failed. -/
def Bench.lost (s : Bench) : List Nat := (s.written.filter fun w => !w.arrived).map Write.address

/-- The MAC is told to send and to receive. -/
def startsMac (address value : Nat) : Bool :=
  address = kRegCR && value &&& (kCR_MAC_TX_En ||| kCR_MAC_RX_En) ≠ 0

def macOn (writes : List Write) : Bool := writes.any fun w => startsMac w.address w.value

/-- The registers that let the writes to the baseband and to the RF paths arrive. -/
def radioRegisters : List Nat := [0x1002, 0x001F, 0x0020, 0x0021, 0x0076, 0x0042]

/-- What they are to hold. -/
def opensRadio (address value : Nat) : Bool :=
  if address = 0x1002 then value &&& 3 = 3
  else if address = 0x0042 then value &&& 0xC0 = 0xC0
  else value = 0x07

def radioOn (writes : List Write) : Bool :=
  radioRegisters.all fun address =>
    writes.any fun w => w.address = address && opensRadio address w.value

/-- The firmware runs, and the PHY is set up where there is one. -/
def Bench.phyReady (p : Parts) (s : Bench) : Bool :=
  s.done.contains .load && (!p.fPhyConfig || s.done.contains .phyInitialize)

/-- The writes count here as soon as they are made. -/
def Allowed (p : Parts) (s : Bench) : Stage → Bool
  | .powerOnSequence => true
  | .readEfuseMap => s.done.contains .powerOnSequence
  | .readMacAddress => s.done.contains .readEfuseMap
  | .initMAC => s.done.contains .powerOnSequence
  | .load => s.done.contains .initMAC && !s.halted && s.loads < kFirmwareLoadAttempts
  | .writeMacAddress => s.done.contains .load && s.done.contains .readMacAddress
  | .phyInitialize => s.done.contains .load && radioOn s.written
  | .initRxAggregation => s.phyReady p
  | .configTrxPath | .clearHalt => macOn s.written
  | .rxStart => macOn s.written && s.done.contains .initRxAggregation
  | .wifiStart => macOn s.written && (!p.fRxPath || s.done.contains .rxStart)
  | .createPostAssocSem | .spawnEapol4Way | .transmitProbe =>
    macOn s.written && (!p.fRxPath || s.done.contains .rxStart) &&
      (!p.fWiFiManager || s.done.contains .wifiStart)
  | .spawnPostAssoc => s.done.contains .createPostAssocSem

/-- Here only those that have arrived. -/
def Founded (s : Bench) : Stage → Bool
  | .phyInitialize => radioOn s.arrived
  | .configTrxPath | .clearHalt | .rxStart | .wifiStart | .createPostAssocSem | .spawnPostAssoc
  | .spawnEapol4Way | .transmitProbe => macOn s.arrived
  | .powerOnSequence | .readEfuseMap | .readMacAddress | .initMAC | .load | .writeMacAddress
  | .initRxAggregation => true

def Bench.enter (p : Parts) (s : Bench) (stage : Stage) (status : StatusCode) : Bench where
  done := if status = .ok then stage :: s.done else s.done
  loads := if stage = .load then s.loads + 1 else s.loads
  halted :=
    if stage = .load then decide (status ≠ .ok)
    else s.halted && !(stage = .powerOnSequence && status = .ok)
  written := s.written
  early := s.early || !Allowed p s stage
  unfounded := s.unfounded || !Founded s stage
  last := some (stage, status)

def Bench.write (p : Parts) (s : Bench) (address value : Nat) (status : StatusCode) : Bench :=
  { s with
    written := ⟨address, value, status = .ok⟩ :: s.written
    early := s.early ||
      startsMac address value && !(s.phyReady p && s.done.contains .initRxAggregation) }

/-- Every access and every stage may come to anything. -/
inductive BenchStep (p : Parts) : Dialogue.Env Bench (Access.Answer fun _ : Stage => StatusCode)
  | read {s : Bench} {address length : Nat} (answer : Option (Buf length)) :
    BenchStep p s (.vendorRead address length) answer s
  | write {s : Bench} {address : Nat} {data : Bytes} (status : StatusCode) :
    BenchStep p s (.vendorWrite address data) status (s.write p address (Bytes.leNat data) status)
  | call {s : Bench} {stage : Stage} (status : StatusCode) :
    BenchStep p s (.call stage) status (s.enter p stage status)

/-- The stages of a device that is up. -/
def stagesOf (p : Parts) : List Stage :=
  [.powerOnSequence, .readEfuseMap, .readMacAddress, .initMAC, .load, .writeMacAddress,
    .initRxAggregation] ++ (if p.fPhyConfig then [.phyInitialize] else []) ++
    (if p.fRxPath then [.rxStart] else []) ++ if p.fWiFiManager then [.wifiStart] else []

/-- A stage was entered without its writes exactly if one of them failed: for the PHY, where there is
one, or for all that comes behind the start of the MAC. -/
def Accounted (p : Parts) (s : Bench) : Prop :=
  s.unfounded = true ↔
    (p.fPhyConfig = true ∧ ∃ address ∈ radioRegisters, address ∈ s.lost) ∨ kRegCR ∈ s.lost

structure Brought (p : Parts) (o : Outcome) (s : Bench) : Prop where
  inOrder : s.early = false
  founded : Accounted p s
  loads : s.loads ≤ kFirmwareLoadAttempts
  initialized : o.fHardwareInitialized = true ↔ o.status = .ok
  up : o.status = .ok → macOn s.written = true ∧ (macOn s.arrived = true ↔ kRegCR ∉ s.lost) ∧
    ∀ stage ∈ stagesOf p, stage ∈ s.done
  down : o.status ≠ .ok → ∃ stage, s.last = some (stage, o.status)
  workers : o.postAssocWorker = true → .createPostAssocSem ∈ s.done ∧ .spawnPostAssoc ∈ s.done

/-! ## Steps -/

section

variable {p : Parts} {α : Type} {Q : α → Bench → Prop} {s : Bench} {stages : List Stage} {stage : Stage}

theorem wp_call {f : StatusCode → InitIo α} :
    wp (BenchStep p) Q (call stage >>= f) s ↔
      ∀ status, wp (BenchStep p) Q (f status) (s.enter p stage status) := by
  constructor
  · exact fun h status => h status _ (.call status)
  · rintro h status s' ⟨⟩
    exact h status

theorem wp_read {length address : Nat} {f : Nat → InitIo α}
    (h : ∀ value < 2 ^ (8 * length), wp (BenchStep p) Q (f value) s) :
    wp (BenchStep p) Q (read length address >>= f) s := by
  refine wp_bind.mpr ?_
  rintro answer s' ⟨⟩
  exact h _ (valueOf_lt answer)

theorem wp_write {length address value : Nat} {f : StatusCode → InitIo α}
    (h : ∀ status, wp (BenchStep p) Q (f status) (s.write p address (value % 256 ^ length) status)) :
    wp (BenchStep p) Q (write length address value >>= f) s := by
  rintro status s' ⟨⟩
  rw [Bytes.leNat_le]
  exact h status

/-- So far nothing was out of order, no attempt at the firmware is left half done, and these stages
have succeeded. -/
structure At (stages : List Stage) (s : Bench) : Prop where
  inOrder : s.early = false
  loads : s.loads ≤ kFirmwareLoadAttempts
  halted : s.halted = false
  done : ∀ stage ∈ stages, s.done.contains stage = true

theorem at_start : At [] .start := ⟨rfl, Nat.zero_le _, rfl, nofun⟩

/-- A stage that is due. -/
theorem At.enter (status : StatusCode) (h : At stages s) (hallowed : Allowed p s stage = true)
    (hload : stage ≠ .load) : At stages (s.enter p stage status) := by
  refine ⟨?_, ?_, ?_, fun st hst => ?_⟩
  · simp only [Bench.enter, h.inOrder, hallowed]
    rfl
  · simp only [Bench.enter, if_neg hload]
    exact h.loads
  · simp only [Bench.enter, if_neg hload, h.halted]
    rfl
  · have hdone := h.done st hst
    simp only [Bench.enter]
    split
    · rw [List.contains_cons, hdone, Bool.or_true]
    · exact hdone

theorem At.succeed (h : At stages s) (hallowed : Allowed p s stage = true) (hload : stage ≠ .load) :
    At (stage :: stages) (s.enter p stage .ok) := by
  obtain ⟨hin, hloads, hhalted, hdone⟩ := h.enter .ok hallowed hload
  refine ⟨hin, hloads, hhalted, fun st hst => ?_⟩
  rcases List.mem_cons.mp hst with rfl | hst
  · simp [Bench.enter]
  · exact hdone st hst

theorem At.write {address value : Nat} {status : StatusCode} (h : At stages s)
    (hmac : startsMac address value = true →
      (s.phyReady p && s.done.contains .initRxAggregation) = true) :
    At stages (s.write p address value status) := by
  refine ⟨?_, h.loads, h.halted, h.done⟩
  simp only [Bench.write, h.inOrder]
  cases hstarts : startsMac address value with
  | false => rfl
  | true => rw [hmac hstarts]; rfl

/-- A stage that has its writes, or that is not the first to lack them. -/
theorem Accounted.enter (h : Accounted p s) (status : StatusCode)
    (hfounded : s.unfounded = false → Founded s stage = true) :
    Accounted p (s.enter p stage status) := by
  have hsame : (s.enter p stage status).unfounded = s.unfounded := by
    show (s.unfounded || !Founded s stage) = s.unfounded
    cases hs : s.unfounded with
    | true => rfl
    | false => rw [hfounded hs]; rfl
  rw [Accounted, hsame]
  exact h

theorem brought_failed {status : StatusCode} (hearly : s.early = false) (haccounted : Accounted p s)
    (hloads : s.loads ≤ kFirmwareLoadAttempts) (hstatus : status ≠ .ok)
    (hlast : ∃ stage, s.last = some (stage, status)) : Brought p (.failed status) s where
  inOrder := hearly
  founded := haccounted
  loads := hloads
  initialized := iff_of_false nofun hstatus
  up hok := absurd hok hstatus
  down _ := hlast
  workers := nofun

/-- A stage that has to succeed: it fails, or the rest goes on behind it. -/
theorem must_spec {rest : InitIo Outcome} (h : At stages s)
    (haccounted : ∀ status, Accounted p (s.enter p stage status)) (hallowed : Allowed p s stage = true)
    (hload : stage ≠ .load)
    (hrest : At (stage :: stages) (s.enter p stage .ok) →
      wp (BenchStep p) (Brought p) rest (s.enter p stage .ok)) :
    wp (BenchStep p) (Brought p) (must stage rest) s := by
  refine wp_call.mpr fun status => ?_
  split
  · rename_i hstatus
    have hat := h.enter status hallowed hload
    exact brought_failed hat.inOrder (haccounted status) hat.loads hstatus ⟨stage, rfl⟩
  · rename_i hstatus
    obtain rfl := not_not.mp hstatus
    exact hrest (h.succeed hallowed hload)

/-! ## The firmware -/

/-- How the attempts end. -/
structure Loaded (stages : List Stage) (s : Bench) (status : StatusCode) (s' : Bench) : Prop where
  written : s'.written = s.written
  unfounded : s'.unfounded = s.unfounded
  up : status = .ok → At (.load :: stages) s'
  down : status ≠ .ok → s'.early = false ∧ s'.loads ≤ kFirmwareLoadAttempts ∧
    ∃ stage, s'.last = some (stage, status)

theorem At.load_allowed (h : At stages s) (hmac : Stage.initMAC ∈ stages)
    (hloads : s.loads < kFirmwareLoadAttempts) : Allowed p s .load = true := by
  simp only [Allowed, h.done _ hmac, h.halted, hloads, decide_true]
  rfl

/-- After an attempt: the firmware runs, or the chip waits for a power-on. -/
theorem At.load (p : Parts) (status : StatusCode) (h : At stages s) (hmac : Stage.initMAC ∈ stages)
    (hloads : s.loads < kFirmwareLoadAttempts) :
    (s.enter p .load status).early = false ∧
      (s.enter p .load status).loads = s.loads + 1 ∧
      (∀ st ∈ stages, (s.enter p .load status).done.contains st = true) ∧
      (status = .ok → At (.load :: stages) (s.enter p .load status)) := by
  have hearly : (s.enter p .load status).early = false := by
    simp only [Bench.enter, h.inOrder, h.load_allowed hmac hloads]
    rfl
  have hdone : ∀ st ∈ stages, (s.enter p .load status).done.contains st = true := by
    intro st hst
    simp only [Bench.enter]
    split
    · rw [List.contains_cons, h.done st hst, Bool.or_true]
    · exact h.done st hst
  refine ⟨hearly, rfl, hdone, ?_⟩
  rintro rfl
  refine ⟨hearly, hloads, rfl, fun st hst => ?_⟩
  rcases List.mem_cons.mp hst with rfl | hst
  · simp [Bench.enter]
  · exact hdone st hst

theorem loadFirmware_spec (n : Nat) (h : At stages s) (hmac : Stage.initMAC ∈ stages)
    (hloads : s.loads + (n + 1) ≤ kFirmwareLoadAttempts) :
    wp (BenchStep p) (Loaded stages s) (loadFirmware (n + 1)) s := by
  have hfounded : ∀ (s : Bench) (stage : Stage) (status : StatusCode), Founded s stage = true →
      (s.enter p stage status).unfounded = s.unfounded := by
    intro s stage status hf
    simp only [Bench.enter, hf]
    exact Bool.or_false _
  induction n generalizing s with
  | zero =>
    refine wp_call.mpr fun status => ?_
    obtain ⟨hearly, hcount, -, hup⟩ := h.load p status hmac (by omega)
    split
    · rename_i hok
      subst hok
      exact ⟨rfl, hfounded s .load .ok rfl, hup, fun hne => absurd rfl hne⟩
    · rename_i hfailed
      exact ⟨rfl, hfounded s .load status rfl, fun hok => absurd hok hfailed,
        fun _ => ⟨hearly, by omega, .load, rfl⟩⟩
  | succ n ih =>
    refine wp_call.mpr fun status => ?_
    obtain ⟨hearly, hcount, hdone, hup⟩ := h.load p status hmac (by omega)
    split
    · rename_i hok
      subst hok
      exact ⟨rfl, hfounded s .load .ok rfl, hup, fun hne => absurd rfl hne⟩
    · rw [if_neg (Nat.succ_ne_zero n)]
      refine wp_call.mpr fun resetStatus => ?_
      have hearly' : ((s.enter p .load status).enter p .powerOnSequence resetStatus).early = false := by
        simp only [Bench.enter] at hearly ⊢
        rw [hearly]
        rfl
      have hboth : ((s.enter p .load status).enter p .powerOnSequence resetStatus).unfounded =
          s.unfounded :=
        (hfounded _ .powerOnSequence resetStatus rfl).trans (hfounded s .load status rfl)
      split
      · rename_i hfailed
        refine ⟨rfl, hboth, fun hok => absurd hok hfailed,
          fun _ => ⟨hearly', ?_, .powerOnSequence, rfl⟩⟩
        show (s.enter p .load status).loads ≤ _
        omega
      · rename_i hok
        obtain rfl := not_not.mp hok
        have hat : At stages ((s.enter p .load status).enter p .powerOnSequence .ok) := by
          refine ⟨hearly', ?_, ?_, fun st hst => ?_⟩
          · show (s.enter p .load status).loads ≤ _
            omega
          · simp only [Bench.enter]
            simp
          · show (Stage.powerOnSequence :: (s.enter p .load status).done).contains st = true
            rw [List.contains_cons, hdone st hst, Bool.or_true]
        refine wp_mono (ih hat ?_) fun status' s' hl =>
          ⟨hl.written, hl.unfounded.trans hboth, hl.up, hl.down⟩
        show (s.enter p .load status).loads + (n + 1) ≤ _
        omega

/-! ## The writes -/

/-- The PHY's part of the account, while the MAC is not started. -/
def PhyAccounted (p : Parts) (s : Bench) : Prop :=
  s.unfounded = true ↔ p.fPhyConfig = true ∧ ∃ address ∈ radioRegisters, address ∈ s.lost

theorem mem_lost {address : Nat} :
    address ∈ s.lost ↔ ∃ w ∈ s.written, w.arrived = false ∧ w.address = address := by
  simp only [Bench.lost, List.mem_map, List.mem_filter, Bool.not_eq_true', and_assoc]

theorem PhyAccounted.accounted (h : PhyAccounted p s) (hcr : kRegCR ∉ s.lost) : Accounted p s := by
  exact Iff.trans h (or_iff_left hcr).symm

theorem cr_not_lost (h : ∀ w ∈ s.written, w.address ≠ kRegCR) : kRegCR ∉ s.lost := by
  intro hlost
  obtain ⟨w, hw, -, haddress⟩ := mem_lost.mp hlost
  exact h w hw haddress

/-- Before any write of its own. -/
theorem phyAccounted_of_none (hwritten : s.written = []) (hunfounded : s.unfounded = false) :
    PhyAccounted p s := by
  rw [PhyAccounted, hunfounded]
  refine iff_of_false nofun ?_
  rintro ⟨-, address, -, hlost⟩
  obtain ⟨w, hw, -⟩ := mem_lost.mp hlost
  rw [hwritten] at hw
  cases hw

/-- The stages ahead of the first write rely on none. -/
theorem accounted_of_none (hwritten : s.written = []) (hunfounded : s.unfounded = false) :
    Accounted p s :=
  (phyAccounted_of_none hwritten hunfounded).accounted (cr_not_lost (by rw [hwritten]; nofun))

theorem At.other {address value : Nat} {status : StatusCode} (h : At stages s)
    (hcr : address ≠ kRegCR) : At stages (s.write p address value status) :=
  h.write fun hstarts => absurd hstarts (by simp [startsMac, hcr])

theorem set_bits (bits value : Nat) (h : bits < 2 ^ 8) :
    (value ||| bits) % 256 &&& bits = bits := by
  exact (Fields.mod_and h _).trans (Fields.or_and_self _ _)

/-- The six writes for the radio, with what became of each. -/
def radioWrites (bb gpio : Nat) (status : Fin 6 → StatusCode) : List Write :=
  [⟨0x0042, gpio, status 5 = .ok⟩, ⟨0x0076, 0x07, status 4 = .ok⟩, ⟨0x0021, 0x07, status 3 = .ok⟩,
    ⟨0x0020, 0x07, status 2 = .ok⟩, ⟨0x001F, 0x07, status 1 = .ok⟩, ⟨0x1002, bb, status 0 = .ok⟩]

/-- The radio is on exactly if none of the six is lost. -/
structure RadioTried (s : Bench) : Prop where
  on : radioOn s.written = true
  arrived : radioOn s.arrived = true ↔ ∀ address ∈ radioRegisters, address ∉ s.lost
  noMac : ∀ w ∈ s.written, w.address ≠ kRegCR
  unfounded : s.unfounded = false

theorem radioTried_of_written {bb gpio : Nat} {status : Fin 6 → StatusCode}
    (hwritten : s.written = radioWrites bb gpio status) (hunfounded : s.unfounded = false)
    (hbb : bb &&& 0x03 = 0x03) (hgpio : gpio &&& 0xC0 = 0xC0) : RadioTried s where
  on := by simp [hwritten, radioWrites, radioOn, radioRegisters, opensRadio, hbb, hgpio]
  arrived := by
    simp [mem_lost, Bench.arrived, hwritten, radioWrites, radioOn, radioRegisters, opensRadio,
      List.any_filter, hbb, hgpio]
  noMac := by simp [hwritten, radioWrites, kRegCR]
  unfounded := hunfounded

theorem powerRadio_spec {rest : Unit → InitIo Outcome} (h : At stages s) (hwritten : s.written = [])
    (hunfounded : s.unfounded = false)
    (hrest : ∀ s', At stages s' → RadioTried s' → wp (BenchStep p) (Brought p) (rest ()) s') :
    wp (BenchStep p) (Brought p) (powerRadio >>= rest) s := by
  refine wp_bind.mpr ?_
  unfold powerRadio
  refine wp_read fun before _ => wp_write fun bb => ?_
  refine wp_read fun _ _ => ?_
  refine wp_write fun rfA => wp_write fun rfB => ?_
  refine wp_write fun rfC => wp_write fun rfD => ?_
  refine wp_read fun _ _ => wp_read fun _ _ => ?_
  refine wp_read fun _ _ => wp_read fun _ _ => ?_
  refine wp_read fun gpioSel _ => wp_write fun gpio => ?_
  refine wp_read fun _ _ => hrest _ ?_ ?_
  · exact (((((h.other (by decide)).other (by decide)).other (by decide)).other
      (by decide)).other (by decide)).other (by decide)
  · have hall : (((((((s.write p 0x1002 ((before ||| 0x03) % 256 ^ 1) bb).write p 0x001F
        (0x07 % 256 ^ 1) rfA).write p 0x0020 (0x07 % 256 ^ 1) rfB).write p 0x0021
        (0x07 % 256 ^ 1) rfC).write p 0x0076 (0x07 % 256 ^ 1) rfD).write p 0x0042
        ((gpioSel ||| 0xC0) % 256 ^ 1) gpio).written) =
        radioWrites ((before ||| 0x03) % 256) ((gpioSel ||| 0xC0) % 256)
          ![bb, rfA, rfB, rfC, rfD, gpio] := by
      simp only [Bench.write, hwritten]
      rfl
    exact radioTried_of_written hall hunfounded (set_bits 0x03 before (by decide))
      (set_bits 0xC0 gpioSel (by decide))

/-- The MAC is started: it is on exactly if the write is not lost. -/
structure MacTried (s : Bench) : Prop where
  on : macOn s.written = true
  arrived : macOn s.arrived = true ↔ kRegCR ∉ s.lost

theorem macTried_write {value : Nat} {status : StatusCode} (h : ∀ w ∈ s.written, w.address ≠ kRegCR)
    (hstarts : startsMac kRegCR value = true) : MacTried (s.write p kRegCR value status) where
  on := by simp [macOn, Bench.write, hstarts]
  arrived := by
    have hearlier : macOn s.arrived = false := by
      refine List.any_eq_false.mpr fun w hw hon => ?_
      have haddress := h w (List.mem_of_mem_filter hw)
      simp [startsMac, haddress] at hon
    have hlost := cr_not_lost h
    by_cases hok : status = .ok
    · have hlost' : kRegCR ∉ (s.write p kRegCR value status).lost := by
        simpa [Bench.lost, Bench.write, hok] using hlost
      refine iff_of_true ?_ hlost'
      simp [macOn, Bench.arrived, Bench.write, hok, hstarts]
    · have hlost' : kRegCR ∈ (s.write p kRegCR value status).lost := by
        simp [Bench.lost, Bench.write, hok]
      refine iff_of_false ?_ (not_not.mpr hlost')
      rw [Bool.not_eq_true]
      simpa [macOn, Bench.arrived, Bench.write, hok] using hearlier

/-- The write to `CR` is none of the PHY's. -/
theorem PhyAccounted.write {value : Nat} {status : StatusCode} (h : PhyAccounted p s) :
    PhyAccounted p (s.write p kRegCR value status) := by
  have hsame : ∀ address ∈ radioRegisters,
      (address ∈ (s.write p kRegCR value status).lost ↔ address ∈ s.lost) := by
    intro address haddress
    have hne : kRegCR ≠ address := by
      rintro rfl
      exact absurd haddress (by decide)
    simp [mem_lost, Bench.write, hne]
  rw [PhyAccounted]
  refine Iff.trans h (and_congr_right fun _ => exists_congr fun address => ?_)
  exact and_congr_right fun haddress => (hsame address haddress).symm

theorem enableMac_spec {rest : Unit → InitIo Outcome} (h : At stages s) (hphy : s.phyReady p = true)
    (hagg : Stage.initRxAggregation ∈ stages) (haccounted : PhyAccounted p s)
    (hnoMac : ∀ w ∈ s.written, w.address ≠ kRegCR)
    (hrest : ∀ s', At stages s' → PhyAccounted p s' → MacTried s' →
      wp (BenchStep p) (Brought p) (rest ()) s') :
    wp (BenchStep p) (Brought p) (enableMac >>= rest) s := by
  refine wp_bind.mpr ?_
  unfold enableMac
  refine wp_read fun crBefore _ => wp_write fun status => ?_
  refine wp_read fun _ _ => hrest _ ?_ haccounted.write (macTried_write hnoMac ?_)
  · refine h.write fun _ => ?_
    rw [hphy, h.done _ hagg]
    rfl
  · have hbits : (crBefore ||| kCR_MAC_TX_En ||| kCR_MAC_RX_En) % 256 ^ 2 &&&
        (kCR_MAC_TX_En ||| kCR_MAC_RX_En) = kCR_MAC_TX_En ||| kCR_MAC_RX_En := by
      rw [Nat.or_assoc, show (256 : Nat) ^ 2 = 2 ^ 16 from rfl, Fields.mod_and (by decide),
        Fields.or_and_self]
    rw [startsMac, hbits]
    rfl

/-- Behind the start of the MAC, with the account settled. -/
structure Running (p : Parts) (s : Bench) : Prop extends MacTried s where
  accounted : Accounted p s

theorem MacTried.running {status : StatusCode} (h : MacTried s) (hphy : PhyAccounted p s) :
    Running p (s.enter p .configTrxPath status) where
  on := h.on
  arrived := h.arrived
  accounted := by
    have hfounded : Founded s .configTrxPath = false ↔ kRegCR ∈ s.lost := by
      rw [← Bool.not_eq_true, ← not_not (a := kRegCR ∈ s.lost)]
      exact not_congr h.arrived
    show (s.unfounded || !Founded s .configTrxPath) = true ↔ _
    rw [Bool.or_eq_true, Bool.not_eq_true', hfounded]
    exact or_congr_left hphy

theorem Running.macOn_arrived (h : Running p s) (hunfounded : s.unfounded = false) :
    macOn s.arrived = true := by
  refine h.arrived.mpr fun hlost => ?_
  have hbad : s.unfounded = true := h.accounted.mpr (.inr hlost)
  rw [hunfounded] at hbad
  cases hbad

theorem Running.enter (h : Running p s) (status : StatusCode)
    (hstage : Founded s stage = macOn s.arrived) : Running p (s.enter p stage status) where
  on := h.on
  arrived := h.arrived
  accounted := h.accounted.enter status fun hu => hstage.trans (h.macOn_arrived hu)

/-! ## The rest -/

/-- The same for a stage of an object that may not be there. -/
theorem mustIf_spec {there : Bool} {rest : InitIo Outcome} (h : At stages s)
    (haccounted : ∀ status, there = true → Accounted p (s.enter p stage status))
    (hallowed : there = true → Allowed p s stage = true) (hload : stage ≠ .load)
    (hrest : ∀ s', At (if there then stage :: stages else stages) s' →
      s' = (if there then s.enter p stage .ok else s) → wp (BenchStep p) (Brought p) rest s') :
    wp (BenchStep p) (Brought p) (mustIf there stage rest) s := by
  cases there with
  | true =>
    exact must_spec h (fun status => haccounted status rfl) (hallowed rfl) hload fun hat => hrest _ hat rfl
  | false => exact hrest s h rfl

theorem At.phyReady (h : At stages s) (hload : Stage.load ∈ stages)
    (hphy : p.fPhyConfig = true → Stage.phyInitialize ∈ stages) : s.phyReady p = true := by
  rw [Bench.phyReady, h.done _ hload, Bool.true_and]
  cases hp : p.fPhyConfig with
  | true => rw [h.done _ (hphy hp)]; rfl
  | false => rfl

/-- The stage of an object, where the object is there. -/
theorem At.present {there : Bool} (h : At stages s) (hstage : there = true → stage ∈ stages) :
    (!there || s.done.contains stage) = true := by
  cases there with
  | true => rw [h.done _ (hstage rfl)]; rfl
  | false => rfl

theorem spawnWorkers_spec (h : At stages s) (hrun : Running p s)
    (hrx : p.fRxPath = true → Stage.rxStart ∈ stages)
    (hwifi : p.fWiFiManager = true → Stage.wifiStart ∈ stages)
    (hup : ∀ stage ∈ stagesOf p, stage ∈ stages) :
    wp (BenchStep p) (Brought p) spawnWorkers s := by
  have hallowed : ∀ s', At stages s' → Running p s' →
      (macOn s'.written && (!p.fRxPath || s'.done.contains .rxStart) &&
        (!p.fWiFiManager || s'.done.contains .wifiStart)) = true := by
    intro s' hat hrun'
    rw [hrun'.on, hat.present hrx, hat.present hwifi]
    rfl
  have hdone : ∀ {s' : Bench} {stage : Stage}, s'.done.contains stage = true → stage ∈ s'.done :=
    fun hc => List.contains_iff_mem.mp hc
  -- The worker of the handshake and the probe, behind whatever became of the other worker.
  have hrest : ∀ s' (postAssoc : StatusCode), At stages s' → Running p s' →
      (postAssoc = .ok → Stage.createPostAssocSem ∈ s'.done ∧ Stage.spawnPostAssoc ∈ s'.done) →
      wp (BenchStep p) (Brought p) (do
        let eapol ← call .spawnEapol4Way
        let _ ← call .transmitProbe
        pure ⟨.ok, true, postAssoc = .ok, eapol = .ok⟩ : InitIo Outcome) s' := by
    intro s' postAssoc hat hrun' hworkers
    refine wp_call.mpr fun eapol => wp_call.mpr fun probe => ?_
    have hat₁ : At stages (s'.enter p .spawnEapol4Way eapol) :=
      hat.enter eapol (hallowed s' hat hrun') nofun
    have hrun₁ : Running p (s'.enter p .spawnEapol4Way eapol) := hrun'.enter eapol rfl
    have hat₂ : At stages ((s'.enter p .spawnEapol4Way eapol).enter p .transmitProbe probe) :=
      hat₁.enter probe (hallowed _ hat₁ hrun₁) nofun
    have hrun₂ : Running p ((s'.enter p .spawnEapol4Way eapol).enter p .transmitProbe probe) :=
      hrun₁.enter probe rfl
    refine ⟨hat₂.inOrder, hrun₂.accounted, hat₂.loads, iff_of_true rfl rfl,
      fun _ => ⟨hrun₂.on, hrun₂.arrived, fun stage hstage => ?_⟩, fun hne => absurd rfl hne,
      fun hpost => ?_⟩
    · exact hdone (hat₂.done stage (hup stage hstage))
    · obtain ⟨hsem, hspawn⟩ := hworkers (of_decide_eq_true hpost)
      simp only [Bench.enter]
      constructor <;> (repeat' split) <;> simp [hsem, hspawn]
  refine wp_call.mpr fun sem => ?_
  have hat : At stages (s.enter p .createPostAssocSem sem) := h.enter sem (hallowed s h hrun) nofun
  have hrun' : Running p (s.enter p .createPostAssocSem sem) := hrun.enter sem rfl
  split
  · rename_i hsem
    refine wp_call.mpr fun postAssoc => hrest _ postAssoc ?_ (hrun'.enter postAssoc rfl) ?_
    · refine hat.enter _ ?_ nofun
      simp [Allowed, Bench.enter, hsem]
    · rintro rfl
      simp [Bench.enter, hsem]
  · rename_i hsem
    exact hrest _ sem hat hrun' fun hok => absurd hok hsem

theorem mem_stagesOf (h : stage ∈ stagesOf p) :
    stage ∈ [Stage.writeMacAddress, .load, .initMAC, .readMacAddress, .readEfuseMap, .powerOnSequence] ∨
      stage = .initRxAggregation ∨ (stage = .phyInitialize ∧ p.fPhyConfig = true) ∨
      (stage = .rxStart ∧ p.fRxPath = true) ∨ (stage = .wifiStart ∧ p.fWiFiManager = true) := by
  simp only [stagesOf, List.mem_append, List.mem_ite_nil_right, List.mem_singleton] at h
  rcases h with ((hfirst | ⟨hp, rfl⟩) | ⟨hp, rfl⟩) | ⟨hp, rfl⟩
  · revert hfirst
    cases stage <;> simp
  · exact .inr (.inr (.inl ⟨rfl, hp⟩))
  · exact .inr (.inr (.inr (.inl ⟨rfl, hp⟩)))
  · exact .inr (.inr (.inr (.inr ⟨rfl, hp⟩)))

/-- The WiFi manager and the workers, behind the reception. -/
theorem startWiFi_spec (h : At stages s) (hrun : Running p s)
    (hrx : p.fRxPath = true → Stage.rxStart ∈ stages)
    (hup : ∀ stage ∈ stagesOf p, stage ≠ .wifiStart → stage ∈ stages) :
    wp (BenchStep p) (Brought p) (mustIf p.fWiFiManager .wifiStart spawnWorkers) s := by
  refine mustIf_spec h (fun status _ => (hrun.enter status rfl).accounted) (fun _ => ?_) nofun
    fun s' h' hs' => ?_
  · simp only [Allowed]
    rw [hrun.on, h.present hrx]
    rfl
  · have hrun' : Running p s' := by
      rw [hs']
      split
      · exact hrun.enter .ok rfl
      · exact hrun
    have hkeep : ∀ stage ∈ stages, stage ∈ if p.fWiFiManager then Stage.wifiStart :: stages else stages := by
      intro stage hstage
      split
      · exact .tail _ hstage
      · exact hstage
    refine spawnWorkers_spec h' hrun' (fun hp => hkeep _ (hrx hp)) (fun hp => ?_) fun stage hstage => ?_
    · rw [if_pos hp]
      exact .head _
    · by_cases hlast : stage = .wifiStart
      · subst hlast
        obtain hfirst | heq | ⟨heq, -⟩ | ⟨heq, -⟩ | ⟨-, hp⟩ := mem_stagesOf hstage
        · exact absurd hfirst (by decide)
        · exact nomatch heq
        · exact nomatch heq
        · exact nomatch heq
        · rw [if_pos hp]
          exact .head _
      · exact hkeep stage (hup stage hstage hlast)

theorem startRadio_spec (h : At stages s) (hphy : s.phyReady p = true)
    (hagg : Stage.initRxAggregation ∈ stages) (haccounted : PhyAccounted p s)
    (hnoMac : ∀ w ∈ s.written, w.address ≠ kRegCR)
    (hup : ∀ stage ∈ stagesOf p, stage ≠ .rxStart → stage ≠ .wifiStart → stage ∈ stages) :
    wp (BenchStep p) (Brought p) (startRadio p) s := by
  refine enableMac_spec h hphy hagg haccounted hnoMac fun s₁ h₁ hphy₁ hmac => wp_call.mpr fun trx => ?_
  have h₂ : At stages (s₁.enter p .configTrxPath trx) := h₁.enter trx hmac.on nofun
  have hrun₂ : Running p (s₁.enter p .configTrxPath trx) := hmac.running hphy₁
  split
  · refine wp_call.mpr fun halt => ?_
    have h₃ : At stages ((s₁.enter p .configTrxPath trx).enter p .clearHalt halt) :=
      h₂.enter halt hrun₂.on nofun
    have hrun₃ : Running p ((s₁.enter p .configTrxPath trx).enter p .clearHalt halt) :=
      hrun₂.enter halt rfl
    refine must_spec h₃ (fun status => (hrun₃.enter status rfl).accounted) ?_ nofun fun h₄ => ?_
    · simp only [Allowed]
      rw [h₃.done _ hagg, Bool.and_true]
      exact hrun₃.on
    · refine startWiFi_spec h₄ (hrun₃.enter .ok rfl) (fun _ => .head _) fun stage hstage hwifi => ?_
      by_cases hlast : stage = .rxStart
      · subst hlast
        exact .head _
      · exact .tail _ (hup stage hstage hlast hwifi)
  · rename_i hp
    refine startWiFi_spec h₂ hrun₂ (fun hp' => absurd hp' hp) fun stage hstage hwifi => ?_
    refine hup stage hstage ?_ hwifi
    rintro rfl
    obtain hfirst | heq | ⟨heq, -⟩ | ⟨-, hp'⟩ | ⟨heq, -⟩ := mem_stagesOf hstage
    · exact absurd hfirst (by decide)
    · exact nomatch heq
    · exact nomatch heq
    · exact hp hp'
    · exact nomatch heq

/-- The PHY, behind the writes for the radio. -/
theorem RadioTried.enter (h : RadioTried s) (status : StatusCode) (hp : p.fPhyConfig = true) :
    PhyAccounted p (s.enter p .phyInitialize status) := by
  show (s.unfounded || !radioOn s.arrived) = true ↔ _
  rw [h.unfounded, Bool.false_or, Bool.not_eq_true', ← Bool.not_eq_true, h.arrived]
  push Not
  exact (and_iff_right hp).symm

theorem RadioTried.skip (h : RadioTried s) (hp : p.fPhyConfig = false) : PhyAccounted p s := by
  rw [PhyAccounted, h.unfounded, hp]
  exact iff_of_false nofun fun hboth => nomatch hboth.1

/-- Whatever comes of the stages and of the accesses, none is made before those that come ahead of it:
the firmware is loaded into a chip that was powered on since the last failed attempt, at most three
times; the baseband is set up behind the writes that open the way to it; and the MAC is started after
both. As the statuses of these writes are ignored, a stage goes without them exactly if one has failed.
The device counts as initialised exactly if everything it needs has succeeded, and the status is
otherwise that of the stage that failed. -/
theorem bring_up (p : Parts) : wp (BenchStep p) (Brought p) (initHardware p) .start := by
  have hnone : ∀ {s : Bench} {stage : Stage}, s.written = [] → s.unfounded = false →
      Founded s stage = true → ∀ status, Accounted p (s.enter p stage status) :=
    fun hw hu hf status => (accounted_of_none hw hu).enter status fun _ => hf
  refine must_spec at_start (hnone rfl rfl rfl) rfl nofun fun h₁ => ?_
  refine must_spec h₁ (hnone rfl rfl rfl) rfl nofun fun h₂ => ?_
  refine must_spec h₂ (hnone rfl rfl rfl) rfl nofun fun h₃ => ?_
  refine must_spec h₃ (hnone rfl rfl rfl) rfl nofun fun h₄ => ?_
  refine wp_seq (loadFirmware_spec 2 h₄ (.head _) (Nat.le_refl 3)) ?_
  intro status s₅ hloaded
  have hwritten : s₅.written = [] := hloaded.written
  have hunfounded : s₅.unfounded = false := hloaded.unfounded
  split
  · rename_i hfailed
    obtain ⟨hearly, hloads, hlast⟩ := hloaded.down hfailed
    exact brought_failed hearly (accounted_of_none hwritten hunfounded) hloads hfailed hlast
  · rename_i hok
    have h₅ := hloaded.up (not_not.mp hok)
    refine must_spec h₅ (hnone hwritten hunfounded rfl) ?_ nofun fun h₆ => ?_
    · simp only [Allowed]
      rw [h₅.done _ (.head _), h₅.done _ (.tail _ (.tail _ (.head _)))]
      rfl
    · have hunfounded₆ : (s₅.enter p .writeMacAddress .ok).unfounded = false := by
        show (s₅.unfounded || false) = false
        rw [hunfounded]
        rfl
      refine powerRadio_spec h₆ hwritten hunfounded₆ fun s₇ h₇ hradio => ?_
      have hphy₈ : PhyAccounted p (if p.fPhyConfig then s₇.enter p .phyInitialize .ok else s₇) := by
        split
        · rename_i hp
          exact hradio.enter .ok hp
        · rename_i hp
          exact hradio.skip (Bool.not_eq_true _ ▸ hp)
      refine mustIf_spec h₇ (fun status hp => (hradio.enter status hp).accounted
        (cr_not_lost hradio.noMac)) (fun _ => ?_) nofun fun s₈ h₈ hs₈ => ?_
      · simp only [Allowed]
        rw [h₇.done _ (.tail _ (.head _)), hradio.on]
        rfl
      · rw [← hs₈] at hphy₈
        have hnoMac : ∀ w ∈ s₈.written, w.address ≠ kRegCR := by
          rw [hs₈]
          split
          · exact hradio.noMac
          · exact hradio.noMac
        generalize hstages : (if p.fPhyConfig then _ else _) = stages at h₈
        have hkeep : ∀ stage ∈ [Stage.writeMacAddress, .load, .initMAC, .readMacAddress,
            .readEfuseMap, .powerOnSequence], stage ∈ stages := by
          intro stage hstage
          rw [← hstages]
          split
          · exact .tail _ hstage
          · exact hstage
        have hinit : p.fPhyConfig = true → Stage.phyInitialize ∈ stages := by
          intro hp
          rw [← hstages, if_pos hp]
          exact .head _
        have hload : Stage.load ∈ stages := hkeep _ (.tail _ (.head _))
        have haccounted₈ := hphy₈.accounted (cr_not_lost hnoMac)
        refine must_spec h₈ (fun status => haccounted₈.enter status fun _ => rfl)
          (h₈.phyReady hload hinit) nofun fun h₉ => ?_
        have hphy₉ : PhyAccounted p (s₈.enter p .initRxAggregation .ok) := by
          show (s₈.unfounded || false) = true ↔ _
          rw [Bool.or_false]
          exact hphy₈
        refine startRadio_spec h₉ (h₉.phyReady (.tail _ hload) fun hp => .tail _ (hinit hp))
          (.head _) hphy₉ hnoMac fun stage hstage hrx hwifi => ?_
        rcases mem_stagesOf hstage with hfirst | rfl | ⟨rfl, hp⟩ | ⟨rfl, -⟩ | ⟨rfl, -⟩
        · exact .tail _ (hkeep stage hfirst)
        · exact .head _
        · exact .tail _ (hinit hp)
        · exact absurd rfl hrx
        · exact absurd rfl hwifi

end

end BringUp
end Rtl8814au
