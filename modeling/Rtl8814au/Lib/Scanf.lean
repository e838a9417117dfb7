import Rtl8814au.Lib.Bytes

/-!
# Lib.Scanf

The conversion `%x` of `sscanf`, and formats with a character between such conversions. What is left
by a number that an `unsigned int` has no room for is not specified: `wide` stands for it.

* `scanHex`, `scanAll` — one conversion, and up to `n` of them with `sep` between.
* `Spells`             — digits only, for a number.
* `scanAll_spelled`    — numbers spelled so, with `sep` between, are read as they are.
-/

namespace Scanf

def isSpace (c : UInt8) : Bool := c = 0x20 ∨ (0x09 ≤ c ∧ c ≤ 0x0D)

def hexDigit (c : UInt8) : Option Nat :=
  if 0x30 ≤ c ∧ c ≤ 0x39 then some (c.toNat - 0x30)
  else if 0x41 ≤ c ∧ c ≤ 0x46 then some (c.toNat - 0x41 + 10)
  else if 0x61 ≤ c ∧ c ≤ 0x66 then some (c.toNat - 0x61 + 10)
  else none

def isHexDigit (c : UInt8) : Bool := (hexDigit c).isSome

def value (digits : Bytes) : Nat := digits.foldl (fun v c => 16 * v + (hexDigit c).getD 0) 0

def isX (c : UInt8) : Bool := c = 0x78 ∨ c = 0x58

def skipSign (s : Bytes) : Bytes :=
  if s.head? = some 0x2B ∨ s.head? = some 0x2D then s.tail else s

/-- Without `0x`; where nothing comes after it, that is no number. -/
def skipBase (s : Bytes) : Bytes := if s.head? = some 0x30 ∧ isX (s.at 1) then s.drop 2 else s

def convert (wide : Bool → Nat → UInt32) (negative : Bool) (v : Nat) : UInt32 :=
  if v < 0x100000000 then if negative then -UInt32.ofNat v else UInt32.ofNat v
  else wide negative v

def scanHex (wide : Bool → Nat → UInt32) (s : Bytes) : Option (UInt32 × Bytes) :=
  let s := s.dropWhile isSpace
  let negative : Bool := s.head? = some 0x2D
  let s := skipBase (skipSign s)
  let digits := s.takeWhile isHexDigit
  if digits = [] then none
  else some (convert wide negative (value digits), s.dropWhile isHexDigit)

/-- What has been converted when `sscanf` returns. -/
def scanAll (wide : Bool → Nat → UInt32) (sep : UInt8) : Nat → Bytes → List UInt32
  | 0, _ => []
  | n + 1, s =>
    match scanHex wide s with
    | none => []
    | some (v, rest) => v :: if rest.head? = some sep then scanAll wide sep n rest.tail else []

/-! ## Numbers spelled in digits -/

structure Spells (text : Bytes) (v : Nat) : Prop where
  nonempty : text ≠ []
  digits : ∀ c ∈ text, isHexDigit c = true
  value : value text = v

instance (text : Bytes) (v : Nat) : Decidable (Spells text v) :=
  decidable_of_iff (text.isEmpty = false ∧ text.all isHexDigit = true ∧ Scanf.value text = v)
    ⟨fun h => ⟨List.isEmpty_eq_false_iff.mp h.1, List.all_eq_true.mp h.2.1, h.2.2⟩,
      fun h => ⟨List.isEmpty_eq_false_iff.mpr h.nonempty, List.all_eq_true.mpr h.digits, h.value⟩⟩

/-- Nothing that a number could go on with. -/
def Ends (s : Bytes) : Prop := ∀ c, s.head? = some c → isHexDigit c = false ∧ isX c = false

theorem isHexDigit_not (c : UInt8) (h : isHexDigit c = true) :
    isSpace c = false ∧ c ≠ 0x2B ∧ c ≠ 0x2D ∧ isX c = false := by
  revert h
  exact Bytes.forall_byte (P := fun c => isHexDigit c = true →
    isSpace c = false ∧ c ≠ 0x2B ∧ c ≠ 0x2D ∧ isX c = false) (by decide +kernel) c

theorem takeWhile_dropWhile {digits rest : Bytes} (h : ∀ c ∈ digits, isHexDigit c = true)
    (hrest : Ends rest) :
    (digits ++ rest).takeWhile isHexDigit = digits ∧
      (digits ++ rest).dropWhile isHexDigit = rest := by
  have hstop : rest.takeWhile isHexDigit = [] ∧ rest.dropWhile isHexDigit = rest := by
    cases rest with
    | nil => exact ⟨rfl, rfl⟩
    | cons c rest =>
      have hc := (hrest c rfl).1
      exact ⟨List.takeWhile_cons_of_neg (by rw [hc]; decide),
        List.dropWhile_cons_of_neg (by rw [hc]; decide)⟩
  rw [List.takeWhile_append_of_pos h, List.dropWhile_append_of_pos h, hstop.1, hstop.2]
  exact ⟨List.append_nil digits, rfl⟩

/-- Digits have neither blanks nor a sign in front. -/
theorem front_digits {text rest : Bytes} (hsome : text ≠ [])
    (h : ∀ c ∈ text, isHexDigit c = true) :
    (text ++ rest).dropWhile isSpace = text ++ rest ∧ (text ++ rest).head? ≠ some 0x2B ∧
      (text ++ rest).head? ≠ some 0x2D := by
  obtain ⟨c, text, rfl⟩ := List.exists_cons_of_ne_nil hsome
  obtain ⟨hspace, hplus, hminus, -⟩ := isHexDigit_not c (h c List.mem_cons_self)
  refine ⟨List.dropWhile_cons_of_neg (by rw [hspace]; decide), ?_, ?_⟩
  · exact fun hc => hplus (Option.some.inj hc)
  · exact fun hc => hminus (Option.some.inj hc)

theorem skipBase_digits {text rest : Bytes} (hsome : text ≠ [])
    (h : ∀ c ∈ text, isHexDigit c = true) (hrest : Ends rest) :
    skipBase (text ++ rest) = text ++ rest := by
  obtain ⟨c, text, rfl⟩ := List.exists_cons_of_ne_nil hsome
  have hsecond : isX (Bytes.at ((c :: text) ++ rest) 1) = false := by
    cases text with
    | cons d text => exact (isHexDigit_not d (h d (by simp))).2.2.2
    | nil =>
      cases rest with
      | nil => rfl
      | cons d rest => exact (hrest d rfl).2
  refine if_neg fun hbase => ?_
  rw [hsecond] at hbase
  cases hbase.2

variable {wide : Bool → Nat → UInt32}

theorem scanHex_spelled {text rest : Bytes} {v : Nat} (h : Spells text v) (hv : v < 0x100000000)
    (hrest : Ends rest) : scanHex wide (text ++ rest) = some (UInt32.ofNat v, rest) := by
  obtain ⟨htake, hdrop⟩ := takeWhile_dropWhile h.digits hrest
  obtain ⟨hspace, hplus, hminus⟩ := @front_digits text rest h.nonempty h.digits
  have hsign : skipSign (text ++ rest) = text ++ rest := if_neg (not_or.mpr ⟨hplus, hminus⟩)
  unfold scanHex
  dsimp only
  rw [hspace, hsign, skipBase_digits h.nonempty h.digits hrest, htake, hdrop, if_neg h.nonempty,
    h.value, decide_eq_false hminus]
  unfold convert
  rw [if_pos hv]
  rfl

theorem ends_nil : Ends [] := by
  intro c hc
  cases hc

theorem ends_cons {sep : UInt8} (hsep : isHexDigit sep = false ∧ isX sep = false) (s : Bytes) :
    Ends (sep :: s) := by
  intro c hc
  cases hc
  exact hsep

theorem scanAll_spelled {sep : UInt8} (hsep : isHexDigit sep = false ∧ isX sep = false)
    {texts : List Bytes} {vs : List Nat}
    (h : List.Forall₂ (fun text v => Spells text v ∧ v < 0x100000000) texts vs) :
    scanAll wide sep texts.length (List.intercalate [sep] texts) = vs.map UInt32.ofNat := by
  induction h with
  | nil => rfl
  | @cons text v texts vs hspells htexts ih =>
    cases htexts with
    | nil =>
      have hone : List.intercalate [sep] [text] = text ++ [] := by simp [List.intercalate]
      rw [hone, List.length_singleton, scanAll, scanHex_spelled hspells.1 hspells.2 ends_nil]
      rfl
    | @cons text' v' texts vs hspells' htexts =>
      have hmore : List.intercalate [sep] (text :: text' :: texts) =
          text ++ sep :: List.intercalate [sep] (text' :: texts) := by
        simp [List.intercalate]
      rw [hmore, List.length_cons, scanAll,
        scanHex_spelled hspells.1 hspells.2 (ends_cons hsep _)]
      dsimp only
      rw [List.head?_cons, if_pos rfl, List.tail_cons, ih]
      rfl

end Scanf
