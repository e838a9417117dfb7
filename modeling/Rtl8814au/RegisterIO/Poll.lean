import Rtl8814au.RegisterIO.Access

/-!
# RegisterIO.Poll

Polling a register whose reads may fail.

* `pollFor`   — `PollFor8` and `PollFor32`, with the width as a parameter.
* `Observes`  — among the exchanges is a read that succeeded and has the value.
* `FailsFirst` — a read fails before one has the value.
* `pollFor_spec` — a poll succeeds with nothing observed where the value that stands for a failed
  read is the one that it waits for, and a read fails first; nowhere else.
-/

namespace Rtl8814au
namespace RegisterIO

open Dialogue

/-- The member `fDevicePresent` may change while a thread polls. -/
inductive DeviceCall
  | fDevicePresent

abbrev DeviceCall.Answer : DeviceCall → Type
  | .fDevicePresent => Bool

abbrev DeviceIo (α : Type) : Type := Io DeviceCall.Answer α

/-- What a program asked, and the answer. -/
abbrev Exchange : Type := Sigma (Access.Answer DeviceCall.Answer)

/-- The pauses between the attempts are left out. -/
def pollFor (length address mask expected : Nat) : (maxAttempts : Nat) → DeviceIo StatusCode
  | 0 => pure .timedOut
  | n + 1 => do
    let value ← read length address
    if value &&& mask = expected then pure .ok
    else
      let present ← call DeviceCall.fDevicePresent
      if present then pollFor length address mask expected n else pure .devNotReady

def pollFor8 (address : Nat) (mask expected : UInt8) (maxAttempts : Nat) : DeviceIo StatusCode :=
  pollFor 1 address mask.toNat expected.toNat maxAttempts

def pollFor32 (address : Nat) (mask expected : UInt32) (maxAttempts : Nat) : DeviceIo StatusCode :=
  pollFor 4 address mask.toNat expected.toNat maxAttempts

/-! ## What is observed -/

def readExchange (address length : Nat) (answer : Option (Buf length)) : Exchange :=
  ⟨.vendorRead address length, answer⟩

def presentExchange (present : Bool) : Exchange := ⟨.call .fDevicePresent, present⟩

/-- A read that succeeded, with the value under the mask. -/
def Shows (mask expected : Nat) (e : Exchange) : Prop :=
  ∃ address length b, e = readExchange address length (some b) ∧ Bytes.leNat b.bytes &&& mask = expected

def Fails (e : Exchange) : Prop := ∃ address length, e = readExchange address length none

def Observes (mask expected : Nat) (log : List Exchange) : Prop := ∃ e ∈ log, Shows mask expected e

def FailsFirst (mask expected : Nat) : List Exchange → Prop
  | [] => False
  | e :: log => Fails e ∨ ¬ Shows mask expected e ∧ FailsFirst mask expected log

section

variable {address length mask expected : Nat}

theorem shows_some {b : Buf length} : Shows mask expected (readExchange address length (some b)) ↔
    Bytes.leNat b.bytes &&& mask = expected := by
  constructor
  · rintro ⟨address', length', b', heq, hvalue⟩
    cases heq
    exact hvalue
  · exact fun h => ⟨address, length, b, rfl, h⟩

theorem not_shows_none : ¬ Shows mask expected (readExchange address length none) := by
  rintro ⟨address', length', b', heq, -⟩
  cases heq

theorem not_shows_present {present : Bool} : ¬ Shows mask expected (presentExchange present) := by
  rintro ⟨address', length', b', heq, -⟩
  cases heq

theorem fails_none : Fails (readExchange address length none) := ⟨address, length, rfl⟩

theorem not_fails_some {b : Buf length} : ¬ Fails (readExchange address length (some b)) := by
  rintro ⟨address', length', heq⟩
  cases heq

theorem not_fails_present {present : Bool} : ¬ Fails (presentExchange present) := by
  rintro ⟨address', length', heq⟩
  cases heq

/-- The exchanges of an attempt that goes on to the next. -/
theorem observes_cons {e : Exchange} {log : List Exchange} (h : ¬ Shows mask expected e) :
    Observes mask expected (e :: log) ↔ Observes mask expected log := by
  constructor
  · rintro ⟨e', hmem, hshows⟩
    rcases List.mem_cons.mp hmem with rfl | hmem
    · exact absurd hshows h
    · exact ⟨e', hmem, hshows⟩
  · rintro ⟨e', hmem, hshows⟩
    exact ⟨e', List.mem_cons_of_mem e hmem, hshows⟩

theorem failsFirst_cons {e : Exchange} {log : List Exchange} (h : ¬ Shows mask expected e)
    (hfails : ¬ Fails e) :
    FailsFirst mask expected (e :: log) ↔ FailsFirst mask expected log := by
  rw [FailsFirst]
  simp only [hfails, h, not_false_eq_true, true_and, false_or]

/-! ## Polls -/

/-- All ones, through the mask, are the mask. -/
theorem valueOf_none_and (h : mask < 2 ^ (8 * length)) :
    valueOf (none : Option (Buf length)) &&& mask = mask := by
  rw [valueOf, Nat.and_comm, Nat.and_two_pow_sub_one_eq_mod, Nat.mod_eq_of_lt h]

/-- The poll tells what it saw, unless the value that stands for a failed read is what it waits for
and a read fails first. -/
def Truthful (mask expected : Nat) (status : StatusCode) (log : List Exchange) : Prop :=
  (status = .ok → Observes mask expected log) ↔ (mask = expected → ¬ FailsFirst mask expected log)

/-- A read that the poll goes on after has nothing to do with what it tells. -/
theorem truthful_cons {answer : Option (Buf length)} {present : Bool} {status : StatusCode}
    {log : List Exchange} (hmask : mask < 2 ^ (8 * length))
    (hvalue : valueOf answer &&& mask ≠ expected) (h : Truthful mask expected status log) :
    Truthful mask expected status
      (readExchange address length answer :: presentExchange present :: log) := by
  have hpresent := @not_shows_present mask expected present
  cases answer with
  | none =>
    rw [valueOf_none_and hmask] at hvalue
    rw [Truthful, observes_cons not_shows_none, observes_cons hpresent]
    rw [Truthful] at h
    simp only [hvalue, false_implies, iff_true] at h ⊢
    exact h
  | some b =>
    have hnot : ¬ Shows mask expected (readExchange address length (some b)) :=
      fun hshows => hvalue (shows_some.mp hshows)
    rw [Truthful, observes_cons hnot, observes_cons hpresent, failsFirst_cons hnot not_fails_some,
      failsFirst_cons hpresent not_fails_present]
    exact h

/-- A read that the poll ends with. -/
theorem truthful_last {answer : Option (Buf length)} (hmask : mask < 2 ^ (8 * length))
    (hvalue : valueOf answer &&& mask = expected) :
    Truthful mask expected .ok [readExchange address length answer] := by
  cases answer with
  | none =>
    rw [valueOf_none_and hmask] at hvalue
    have hfails : FailsFirst mask expected [readExchange address length none] := .inl fails_none
    constructor
    · intro hobserves
      obtain ⟨e, hmem, hshows⟩ := hobserves rfl
      rw [List.mem_singleton.mp hmem] at hshows
      exact absurd hshows not_shows_none
    · exact fun h => absurd hfails (h hvalue)
  | some b =>
    have hshows : Shows mask expected (readExchange address length (some b)) := shows_some.mpr hvalue
    constructor
    · rintro - - (hfails | ⟨hnot, -⟩)
      · exact not_fails_some hfails
      · exact hnot hshows
    · exact fun _ _ => ⟨_, List.mem_singleton.mpr rfl, hshows⟩

theorem truthful_nil {status : StatusCode} (h : status ≠ .ok) : Truthful mask expected status [] :=
  ⟨fun _ _ hfails => hfails, fun _ hok => absurd hok h⟩

theorem pollFor_spec (hmask : mask < 2 ^ (8 * length)) (maxAttempts : Nat) (log : List Exchange) :
    wp logged (fun status log' => ∃ polled, log' = log ++ polled ∧ Truthful mask expected status polled)
      (pollFor length address mask expected maxAttempts) log := by
  induction maxAttempts generalizing log with
  | zero => exact ⟨[], (List.append_nil log).symm, truthful_nil nofun⟩
  | succ n ih =>
    refine wp_bind.mpr (wp_logged.mpr fun answer => ?_)
    show wp logged _ (if valueOf answer &&& mask = expected then _ else _) _
    by_cases hvalue : valueOf answer &&& mask = expected
    · rw [if_pos hvalue]
      exact ⟨[readExchange address length answer], rfl, truthful_last hmask hvalue⟩
    · rw [if_neg hvalue]
      refine wp_logged.mpr fun present => ?_
      cases present with
      | false =>
        exact ⟨[readExchange address length answer, presentExchange false], List.append_assoc _ _ _,
          truthful_cons hmask hvalue (truthful_nil nofun)⟩
      | true =>
        refine wp_mono (ih _) ?_
        rintro status log' ⟨polled, rfl, htruthful⟩
        refine ⟨readExchange address length answer :: presentExchange true :: polled, ?_,
          truthful_cons hmask hvalue htruthful⟩
        rw [List.append_assoc, List.append_assoc]
        rfl

end

end RegisterIO
end Rtl8814au
