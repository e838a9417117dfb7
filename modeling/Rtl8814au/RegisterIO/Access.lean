import Rtl8814au.Lib.Bytes
import Rtl8814au.Lib.Dialogue
import Rtl8814au.Lib.Fields

/-!
# RegisterIO.Access

Register accesses as the requests of a program: `_VendorRead` and `_VendorWrite` with what they
answer, and the reads and writes of 8, 16 and 32 bits over them. `κ` is whatever else the program
asks.

A read that fails gives all ones; a write that fails gives its status. A masked write reads the
register, and writes it with the bits of the mask replaced.
-/

namespace Rtl8814au

/-- `status_t`, as far as the driver tells its values apart. -/
inductive StatusCode
  | ok
  | badValue
  | badData
  | busy
  | timedOut
  | canceled
  | ioError
  | devNotReady
  | noInit
  | noMemory
  | entryNotFound
  | other (code : UInt32) -- any other error of the USB stack
deriving DecidableEq

namespace RegisterIO

inductive Access (κ : Type)
  | vendorRead (address length : Nat)
  | vendorWrite (address : Nat) (data : Bytes)
  | call (c : κ)

/-- A read answers with bytes where it succeeds. -/
def Access.Answer {κ : Type} (ρ : κ → Type) : Access κ → Type
  | .vendorRead _ length => Option (Buf length)
  | .vendorWrite _ _ => StatusCode
  | .call c => ρ c

abbrev Io {κ : Type} (ρ : κ → Type) (α : Type) : Type := Dialogue (Access κ) (Access.Answer ρ) α

section

variable {κ : Type} {ρ : κ → Type}

def vendorRead (address length : Nat) : Io ρ (Option (Buf length)) :=
  Dialogue.request (Access.vendorRead address length : Access κ)

def vendorWrite (address : Nat) (data : Bytes) : Io ρ StatusCode :=
  Dialogue.request (Access.vendorWrite address data : Access κ)

def call (c : κ) : Io ρ (ρ c) := Dialogue.request (Access.call c : Access κ)

/-- What a read of `length` bytes gives, by its answer. -/
def valueOf {length : Nat} : Option (Buf length) → Nat
  | some b => Bytes.leNat b.bytes
  | none => 2 ^ (8 * length) - 1

theorem valueOf_lt {length : Nat} (answer : Option (Buf length)) :
    valueOf answer < 2 ^ (8 * length) := by
  cases answer with
  | none => exact Nat.sub_lt (Nat.two_pow_pos _) Nat.one_pos
  | some b =>
    have hlt := Bytes.beNat_lt b.bytes.reverse
    rw [List.length_reverse, b.length_eq] at hlt
    exact Nat.lt_of_lt_of_eq hlt (Nat.pow_mul 2 8 length).symm

def read (length address : Nat) : Io ρ Nat := do
  let answer ← vendorRead address length
  pure (valueOf answer)

def write (length address value : Nat) : Io ρ StatusCode :=
  vendorWrite address (Bytes.le length value)

def read8 (address : Nat) : Io ρ Nat := read 1 address
def read16 (address : Nat) : Io ρ Nat := read 2 address
def read32 (address : Nat) : Io ρ Nat := read 4 address

def write8 (address value : Nat) : Io ρ StatusCode := write 1 address value
def write16 (address value : Nat) : Io ρ StatusCode := write 2 address value
def write32 (address value : Nat) : Io ρ StatusCode := write 4 address value

def maskedWrite (length address mask value : Nat) : Io ρ StatusCode := do
  let current ← read length address
  write length address (Fields.merge (8 * length) mask current value)

def maskedWrite8 (address mask value : Nat) : Io ρ StatusCode := maskedWrite 1 address mask value
def maskedWrite16 (address mask value : Nat) : Io ρ StatusCode := maskedWrite 2 address mask value
def maskedWrite32 (address mask value : Nat) : Io ρ StatusCode := maskedWrite 4 address mask value

end

end RegisterIO
end Rtl8814au
