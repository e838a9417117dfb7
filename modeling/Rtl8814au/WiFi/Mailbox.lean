import Rtl8814au.Lib.Dialogue
import Rtl8814au.RegisterIO.Access

/-!
# WiFi.Mailbox

The mailboxes through which commands go to the firmware.

* `sendH2CCommand` — `_SendH2CCommand`, with the mailbox index as it is found and as it is left.
* `decode`         — the seven bytes that the two words of a mailbox hold.
* `sendCommands`   — one command after the other, each with any outcome of its two writes.
* `mailbox_sequence` — the commands that are accepted take the mailboxes in turn.
-/

namespace Rtl8814au
namespace Mailbox

open Dialogue

def kH2CMailboxCount : Nat := 4
def kH2CCommandSize : Nat := 7

def kRegHMEBox : List Nat := [0x01D0, 0x01D4, 0x01D8, 0x01DC]
def kRegHMEBoxExt : List Nat := [0x01F0, 0x01F4, 0x01F8, 0x01FC]

/-- `WriteBounded32`; the timeout is the same in all of them. -/
structure BoundedWrite where
  address : Nat
  value : Nat

abbrev MailboxIo (α : Type) : Type := Dialogue BoundedWrite (fun _ => StatusCode) α

/-- The arguments of a call. The payload is the memory behind the pointer, if that is not null. -/
structure Command where
  commandID : UInt8
  payload : Option (Nat → UInt8)
  payloadLength : UInt32

namespace Command

variable (c : Command)

/-- The bytes that are copied. -/
def payloadBytes : Bytes :=
  match c.payload with
  | some p => if 0 < c.payloadLength then (List.range (min c.payloadLength.toNat 6)).map p else []
  | none => []

/-- The command buffer `cmd`. -/
def buffer : Buf kH2CCommandSize :=
  ((Buf.zero kH2CCommandSize).set 0 c.commandID).copyAt 1 c.payloadBytes

def extValue : Nat :=
  let cmd := c.buffer.bytes
  (cmd.at 4).toNat ||| (cmd.at 5).toNat <<< 8 ||| (cmd.at 6).toNat <<< 16

def stdValue : Nat :=
  let cmd := c.buffer.bytes
  (cmd.at 0).toNat ||| (cmd.at 1).toNat <<< 8 ||| (cmd.at 2).toNat <<< 16 ||| (cmd.at 3).toNat <<< 24

end Command

/-- The result is the status, and the index for the next command. -/
def sendH2CCommand (boxIndex : Nat) (c : Command) : MailboxIo (StatusCode × Nat) :=
  if 6 < c.payloadLength then pure (.badValue, boxIndex)
  else do
    let status ← request ⟨kRegHMEBoxExt.getD boxIndex 0, c.extValue⟩
    if status ≠ StatusCode.ok then pure (status, boxIndex)
    else
      let status ← request ⟨kRegHMEBox.getD boxIndex 0, c.stdValue⟩
      if status ≠ StatusCode.ok then pure (status, boxIndex)
      else pure (.ok, (boxIndex + 1) % kH2CMailboxCount)

/-- A call, with the mailbox index before and after it. -/
structure Result where
  before : Nat
  status : StatusCode
  after : Nat

def sendCommands : List Command → (boxIndex : Nat) → MailboxIo (List Result)
  | [], _ => pure []
  | c :: cs, boxIndex => do
    let (status, next) ← sendH2CCommand boxIndex c
    let results ← sendCommands cs next
    pure (⟨boxIndex, status, next⟩ :: results)

/-! ## The words of a mailbox -/

/-- The command of a mailbox: the four bytes of its word, and three of the extension. -/
def decode (std ext : Nat) : Bytes := Bytes.le 4 std ++ Bytes.le 3 ext

/-- The payload with zeros up to six bytes; none is there where the pointer is null. -/
def Command.paddedPayload (c : Command) : Bytes :=
  (List.range 6).map fun i =>
    match c.payload with
    | some p => if i < c.payloadLength.toNat then p i else 0
    | none => 0

section

variable {c : Command}

theorem payloadBytes_length : c.payloadBytes.length ≤ 6 := by
  rw [Command.payloadBytes]
  split
  · split
    · rw [List.length_map, List.length_range]
      exact Nat.min_le_right _ _
    · exact Nat.zero_le 6
  · exact Nat.zero_le 6

theorem buffer_bytes : c.buffer.bytes = c.commandID :: Bytes.pad 6 c.payloadBytes := by
  have hlength : 1 + c.payloadBytes.length ≤ kH2CCommandSize := by
    have := payloadBytes_length (c := c)
    have hsize : kH2CCommandSize = 7 := rfl
    omega
  rw [Command.buffer, Buf.bytes_copyAt _ hlength, Nat.add_comm]
  show c.commandID :: (c.payloadBytes ++ (List.replicate 6 0).drop c.payloadBytes.length) = _
  rw [List.drop_replicate]
  rfl

theorem decode_buffer (b : Buf kH2CCommandSize) :
    Bytes.le 4 (Bytes.leNat [b.bytes.at 0, b.bytes.at 1, b.bytes.at 2, b.bytes.at 3]) ++
      Bytes.le 3 (Bytes.leNat [b.bytes.at 4, b.bytes.at 5, b.bytes.at 6]) = b.bytes := by
  refine (congrArg₂ (· ++ ·) (Bytes.le_leNat [_, _, _, _]) (Bytes.le_leNat [_, _, _])).trans ?_
  match b with
  | ⟨[_, _, _, _, _, _, _], _⟩ => rfl

theorem map_range_padded (p : Nat → UInt8) (n m : Nat) :
    (List.range (n + m)).map (fun i => if i < n then p i else 0) =
      (List.range n).map p ++ List.replicate m 0 := by
  rw [List.range_add, List.map_append, List.map_map]
  congr 1
  · exact List.map_congr_left fun i hi => if_pos (List.mem_range.mp hi)
  · rw [List.eq_replicate_iff]
    refine ⟨by rw [List.length_map, List.length_range], ?_⟩
    intro x hx
    obtain ⟨i, -, rfl⟩ := List.mem_map.mp hx
    exact if_neg (Nat.not_lt.mpr (Nat.le_add_right n i))

theorem pad_payloadBytes (h : c.payloadLength ≤ 6) : Bytes.pad 6 c.payloadBytes = c.paddedPayload := by
  rw [Command.payloadBytes, Command.paddedPayload]
  cases c.payload with
  | none => rfl
  | some p =>
    have hlength : c.payloadLength.toNat ≤ 6 := h
    have hbytes : (if 0 < c.payloadLength then (List.range (min c.payloadLength.toNat 6)).map p else []) =
        (List.range c.payloadLength.toNat).map p := by
      split
      · rw [Nat.min_eq_left hlength]
      · rename_i hzero
        have hnat : c.payloadLength.toNat = 0 := Nat.eq_zero_of_not_pos hzero
        rw [hnat]
        rfl
    have hpadded := map_range_padded p c.payloadLength.toNat (6 - c.payloadLength.toNat)
    rw [Nat.add_sub_cancel' hlength] at hpadded
    show Bytes.pad 6 (if 0 < c.payloadLength then _ else _) = _
    rw [hbytes, hpadded, Bytes.pad, List.length_map, List.length_range]
    rfl

theorem decode_command (h : c.payloadLength ≤ 6) :
    decode c.stdValue c.extValue = c.commandID :: c.paddedPayload := by
  rw [decode, Command.stdValue, Command.extValue, Bytes.leNat_four, Bytes.leNat_three, decode_buffer,
    buffer_bytes, pad_payloadBytes h]

end

/-! ## The sequence -/

/-- A write, and its outcome. -/
abbrev Exchange : Type := (_ : BoundedWrite) × StatusCode

/-- The writes of a mailbox with a command in it, in their order. -/
def Delivers (mailbox : Nat) (c : Command) (sent : List Exchange) : Prop :=
  ∃ std ext, sent = [⟨⟨kRegHMEBoxExt.getD mailbox 0, ext⟩, .ok⟩, ⟨⟨kRegHMEBox.getD mailbox 0, std⟩, .ok⟩] ∧
    decode std ext = c.commandID :: c.paddedPayload

/-- What becomes of a command that has `k` accepted ones before it, and what is written for it. -/
structure Turn (k : Nat) (c : Command) (r : Result) (sent : List Exchange) : Prop where
  before : r.before = k % kH2CMailboxCount
  status_ok : r.status = .ok ↔ c.payloadLength ≤ 6 ∧ ∀ e ∈ sent, e.2 = .ok
  accepted : r.status = .ok →
    r.after = (k + 1) % kH2CMailboxCount ∧ Delivers (k % kH2CMailboxCount) c sent
  refused : r.status ≠ .ok → r.after = r.before

/-- How many of the commands were accepted. -/
def acceptedCount (results : List Result) : Nat := results.countP fun r => r.status = .ok

/-- Each command has its turn, with what was accepted before it. -/
structure InTurn (k : Nat) (commands : List Command) (results : List Result)
    (sent : List (List Exchange)) : Prop where
  results_length : results.length = commands.length
  sent_length : sent.length = commands.length
  turn : ∀ n c r w, commands[n]? = some c → results[n]? = some r → sent[n]? = some w →
    Turn (k + acceptedCount (results.take n)) c r w

theorem acceptedCount_cons (r : Result) (results : List Result) :
    acceptedCount (r :: results) = (if r.status = .ok then 1 else 0) + acceptedCount results := by
  rw [acceptedCount, List.countP_cons, Nat.add_comm]
  simp only [decide_eq_true_eq]
  rfl

/-- The mailbox of the command behind this one. -/
theorem Turn.next {k : Nat} {c : Command} {r : Result} {sent : List Exchange} (h : Turn k c r sent) :
    r.after = (k + if r.status = .ok then 1 else 0) % kH2CMailboxCount := by
  split
  · rename_i hok
    exact (h.accepted hok).1
  · rename_i hfailed
    rw [h.refused hfailed, h.before]
    rfl

theorem InTurn.cons {k : Nat} {c : Command} {cs : List Command} {r : Result} {results : List Result}
    {sent : List Exchange} {rest : List (List Exchange)}
    (hrest : InTurn (k + if r.status = .ok then 1 else 0) cs results rest) (h : Turn k c r sent) :
    InTurn k (c :: cs) (r :: results) (sent :: rest) := by
  refine ⟨congrArg (· + 1) hrest.results_length, congrArg (· + 1) hrest.sent_length, ?_⟩
  intro n c' r' w hc hr hw
  cases n with
  | zero =>
    cases hc
    cases hr
    cases hw
    exact h
  | succ n =>
    rw [List.take_succ_cons, acceptedCount_cons, ← Nat.add_assoc]
    exact hrest.turn n c' r' w hc hr hw

theorem sendH2CCommand_spec (k : Nat) (c : Command) (log : List Exchange) :
    wp logged (fun r log' => ∃ sent, log' = log ++ sent ∧
        Turn k c ⟨k % kH2CMailboxCount, r.1, r.2⟩ sent)
      (sendH2CCommand (k % kH2CMailboxCount) c) log := by
  rw [sendH2CCommand]
  split
  · rename_i hlarge
    refine ⟨[], (List.append_nil log).symm, rfl, ?_, nofun, fun _ => rfl⟩
    exact ⟨nofun, fun h => absurd hlarge (UInt32.not_lt.mpr h.1)⟩
  · rename_i hsmall
    have hlength := UInt32.not_lt.mp hsmall
    refine wp_logged.mpr fun ext => ?_
    split
    · rename_i hext
      refine ⟨_, rfl, rfl, ?_, fun h => absurd h hext, fun _ => rfl⟩
      exact ⟨fun h => absurd h hext, fun h => absurd (h.2 _ (List.mem_singleton.mpr rfl)) hext⟩
    · rename_i hext
      refine wp_logged.mpr fun std => ?_
      split
      · rename_i hstd
        refine ⟨_, List.append_assoc _ _ _, rfl, ?_, fun h => absurd h hstd, fun _ => rfl⟩
        exact ⟨fun h => absurd h hstd, fun h => absurd (h.2 _ (.tail _ (.head _))) hstd⟩
      · rename_i hstd
        obtain rfl := not_not.mp hext
        obtain rfl := not_not.mp hstd
        refine ⟨_, List.append_assoc _ _ _, rfl, ?_, fun _ => ⟨Nat.mod_add_mod k _ 1, ?_⟩,
          fun h => absurd rfl h⟩
        · refine iff_of_true rfl ⟨hlength, fun e he => ?_⟩
          rcases he with _ | ⟨_, _ | ⟨_, hnil⟩⟩
          · rfl
          · rfl
          · cases hnil
        · exact ⟨c.stdValue, c.extValue, rfl, decode_command hlength⟩

theorem sendCommands_spec (commands : List Command) (k : Nat) (log : List Exchange) :
    wp logged (fun results log' => ∃ sent, log' = log ++ sent.flatten ∧ InTurn k commands results sent)
      (sendCommands commands (k % kH2CMailboxCount)) log := by
  induction commands generalizing k log with
  | nil =>
    refine ⟨[], (List.append_nil log).symm, rfl, rfl, ?_⟩
    intro n c r w hc
    cases hc
  | cons c cs ih =>
    refine wp_seq (sendH2CCommand_spec k c log) ?_
    rintro ⟨status, next⟩ log' ⟨sent, rfl, hturn⟩
    have hnext : next = (k + if status = .ok then 1 else 0) % kH2CMailboxCount := hturn.next
    have hleft := ih (k + if status = .ok then 1 else 0) (log ++ sent)
    rw [← hnext] at hleft
    refine wp_seq hleft ?_
    rintro results log' ⟨rest, rfl, hrest⟩
    exact ⟨sent :: rest, List.append_assoc log sent rest.flatten, hrest.cons hturn⟩

/-- The commands that are accepted take the mailboxes in turn, extension first, and the others leave
the index alone. -/
theorem mailbox_sequence (commands : List Command) :
    wp logged (fun results log => ∃ sent, log = sent.flatten ∧ InTurn 0 commands results sent)
      (sendCommands commands 0) [] := sendCommands_spec commands 0 []

end Mailbox
end Rtl8814au
