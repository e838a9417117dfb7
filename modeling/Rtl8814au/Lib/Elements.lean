import Rtl8814au.Lib.Bytes

/-!
# Lib.Elements

Information elements: an id byte, a length byte, and that many bytes of body.

* `InfoElement`     — an id with a body that the length byte can count.
* `encodeAll`   — a list of elements as bytes.
* `parse`       — the elements, when they tile the bytes.
* `parse_iff`   — `parse` finds the elements exactly when the bytes are their encoding.
* `leading`     — the elements that are whole, from the front on, up to the first that is not.
* `lastWith`    — the last element with a property.
-/

structure InfoElement where
  id : UInt8
  body : Bytes
  fits : body.length < 256
deriving DecidableEq

namespace InfoElement

def encode (e : InfoElement) : Bytes := e.id :: UInt8.ofNat e.body.length :: e.body

def encodeAll (es : List InfoElement) : Bytes := es.flatMap encode

@[simp] theorem encodeAll_nil : encodeAll [] = [] := rfl

@[simp] theorem encodeAll_cons (e : InfoElement) (es : List InfoElement) :
    encodeAll (e :: es) = e.encode ++ encodeAll es := rfl

@[simp] theorem length_encode (e : InfoElement) : e.encode.length = e.body.length + 2 := rfl

/-- The element at the front, and the bytes behind it. -/
def parseOne : Bytes → Option (InfoElement × Bytes)
  | id :: len :: rest =>
    if len.toNat ≤ rest.length then
      some (⟨id, rest.take len.toNat,
        Nat.lt_of_le_of_lt (List.length_take_le _ _) len.toNat_lt⟩, rest.drop len.toNat)
    else none
  | _ => none

/-- `parse` with a bound on the number of elements. -/
def parseUpTo : Nat → Bytes → Option (List InfoElement)
  | _, [] => some []
  | 0, _ :: _ => none
  | n + 1, b :: bs =>
    match parseOne (b :: bs) with
    | some (e, rest) => (parseUpTo n rest).map (e :: ·)
    | none => none

def parse (b : Bytes) : Option (List InfoElement) := parseUpTo b.length b

theorem parseOne_encode (e : InfoElement) (rest : Bytes) : parseOne (e.encode ++ rest) = some (e, rest) := by
  have hlen : (UInt8.ofNat e.body.length).toNat = e.body.length :=
    (UInt8.toNat_ofNat').trans (Nat.mod_eq_of_lt e.fits)
  simp only [encode, List.cons_append, parseOne, hlen]
  rw [if_pos (by rw [List.length_append]; exact Nat.le_add_right _ _)]
  simp

theorem parseOne_sound {b rest : Bytes} {e : InfoElement} (h : parseOne b = some (e, rest)) :
    b = e.encode ++ rest := by
  unfold parseOne at h
  split at h
  · split at h
    · rename_i id len tail hlen
      cases h
      simp only [encode, List.length_take, Nat.min_eq_left hlen, UInt8.ofNat_toNat,
        List.cons_append, List.take_append_drop]
    · cases h
  · cases h

theorem parseUpTo_encodeAll {es : List InfoElement} :
    ∀ {n : Nat}, (encodeAll es).length ≤ n → parseUpTo n (encodeAll es) = some es := by
  induction es with
  | nil =>
    intro n _
    unfold parseUpTo
    rfl
  | cons e es ih =>
    intro n hn
    rw [encodeAll_cons, List.length_append, length_encode] at hn
    cases n with
    | zero => omega
    | succ n =>
      have hone := parseOne_encode e (encodeAll es)
      have htail := ih (show (encodeAll es).length ≤ n by omega)
      rw [encodeAll_cons]
      unfold encode at hone ⊢
      simp only [List.cons_append] at hone ⊢
      rw [parseUpTo, hone]
      simp only [htail, Option.map_some]

theorem encodeAll_parseUpTo : ∀ {n : Nat} {b : Bytes} {es : List InfoElement},
    parseUpTo n b = some es → encodeAll es = b := by
  intro n
  induction n with
  | zero =>
    intro b es h
    cases b with
    | nil =>
      unfold parseUpTo at h
      cases h
      rfl
    | cons b bs => cases h
  | succ n ih =>
    intro b es h
    cases b with
    | nil =>
      unfold parseUpTo at h
      cases h
      rfl
    | cons b bs =>
      rw [parseUpTo] at h
      split at h
      · rename_i e rest hone
        obtain ⟨tail, htail, rfl⟩ := Option.map_eq_some_iff.mp h
        rw [encodeAll_cons, ih htail, parseOne_sound hone]
      · cases h

theorem parse_iff {b : Bytes} {es : List InfoElement} : parse b = some es ↔ b = encodeAll es := by
  constructor
  · intro h
    exact (encodeAll_parseUpTo h).symm
  · rintro rfl
    exact parseUpTo_encodeAll (Nat.le_refl _)

/-! ## The whole elements at the front -/

/-- `leading` with a bound on the number of elements, and the bytes behind them. -/
def splitUpTo : Nat → Bytes → List InfoElement × Bytes
  | 0, b => ([], b)
  | n + 1, b =>
    match parseOne b with
    | some (e, rest) => (e :: (splitUpTo n rest).1, (splitUpTo n rest).2)
    | none => ([], b)

def leading (b : Bytes) : List InfoElement := (splitUpTo b.length b).1

theorem splitUpTo_encodeAll {rest : Bytes} (hrest : parseOne rest = none) {es : List InfoElement} :
    ∀ {n : Nat}, (encodeAll es).length ≤ n → splitUpTo n (encodeAll es ++ rest) = (es, rest) := by
  induction es with
  | nil =>
    intro n _
    cases n with
    | zero => rfl
    | succ n =>
      rw [encodeAll_nil, List.nil_append, splitUpTo, hrest]
  | cons e es ih =>
    intro n hn
    rw [encodeAll_cons, List.length_append, length_encode] at hn
    cases n with
    | zero => omega
    | succ n =>
      rw [encodeAll_cons, List.append_assoc, splitUpTo, parseOne_encode]
      simp only [ih (show (encodeAll es).length ≤ n by omega)]

/-- The bytes are those elements, and what is behind them is not a whole element. -/
theorem leading_iff {b : Bytes} {es : List InfoElement} :
    leading b = es ↔ ∃ rest, b = encodeAll es ++ rest ∧ parseOne rest = none := by
  constructor
  · rintro rfl
    have hsplit : ∀ {n : Nat} {b : Bytes}, b.length ≤ n →
        b = encodeAll (splitUpTo n b).1 ++ (splitUpTo n b).2 ∧
          parseOne (splitUpTo n b).2 = none := by
      intro n
      induction n with
      | zero =>
        intro b hb
        have hnil : b = [] := List.eq_nil_of_length_eq_zero (Nat.le_zero.mp hb)
        subst hnil
        exact ⟨rfl, rfl⟩
      | succ n ih =>
        intro b hb
        rw [splitUpTo]
        cases hone : parseOne b with
        | none => exact ⟨rfl, hone⟩
        | some r =>
          obtain ⟨e, rest⟩ := r
          have hsound := parseOne_sound hone
          have hlen := congrArg List.length hsound
          rw [List.length_append, length_encode] at hlen
          obtain ⟨htail, hnone⟩ := ih (show rest.length ≤ n by omega)
          refine ⟨?_, hnone⟩
          dsimp only
          rw [encodeAll_cons, List.append_assoc, ← htail]
          exact hsound
    exact ⟨_, hsplit (Nat.le_refl b.length)⟩
  · rintro ⟨rest, rfl, hrest⟩
    rw [leading, splitUpTo_encodeAll hrest (by rw [List.length_append]; omega)]

/-- At an offset: the element that is there, when its bytes are. -/
theorem parseOne_drop {b : Bytes} {off : Nat}
    (h : off + 2 + (b.at (off + 1)).toNat ≤ b.length) :
    ∃ e, parseOne (b.drop off) = some (e, b.drop (off + 2 + (b.at (off + 1)).toNat)) ∧
      e.id = b.at off ∧ e.body = b.slice (off + 2) (b.at (off + 1)).toNat := by
  have hoff : off + 1 < b.length := by omega
  have h0 : b[off] = b.at off := (List.getD_eq_getElem b 0 (by omega)).symm
  have h1 : b[off + 1] = b.at (off + 1) := (List.getD_eq_getElem b 0 hoff).symm
  have hdrop : b.drop off = b.at off :: b.at (off + 1) :: b.drop (off + 2) := by
    rw [List.drop_eq_getElem_cons (by omega), List.drop_eq_getElem_cons (i := off + 1) (by omega),
      h0, h1]
  have hfits : (b.at (off + 1)).toNat ≤ (b.drop (off + 2)).length := by
    rw [List.length_drop]
    omega
  rw [hdrop, parseOne, if_pos hfits, List.drop_drop]
  exact ⟨_, rfl, rfl, rfl⟩

theorem parseOne_drop_none {b : Bytes} {off : Nat}
    (h : b.length < off + 2 ∨ b.length < off + 2 + (b.at (off + 1)).toNat) :
    parseOne (b.drop off) = none := by
  cases hone : parseOne (b.drop off) with
  | none => rfl
  | some r =>
    obtain ⟨e, rest⟩ := r
    have hsound := parseOne_sound hone
    have hlen := congrArg List.length hsound
    rw [List.length_drop, List.length_append, length_encode] at hlen
    have hat : Bytes.at (b.drop off) 1 = b.at (off + 1) := by
      simp [Bytes.«at», List.getElem?_drop]
    have hcount : (b.at (off + 1)).toNat = e.body.length := by
      rw [← hat, hsound]
      exact (UInt8.toNat_ofNat').trans (Nat.mod_eq_of_lt e.fits)
    omega

/-! ## The last element with a property -/

def lastWith (p : InfoElement → Bool) (es : List InfoElement) : Option InfoElement :=
  (es.filter p).getLast?

theorem lastWith_snoc (p : InfoElement → Bool) (es : List InfoElement) (e : InfoElement) :
    lastWith p (es ++ [e]) = if p e then some e else lastWith p es := by
  unfold lastWith
  rw [List.filter_append]
  cases hp : p e with
  | true =>
    rw [List.filter_cons_of_pos hp, List.filter_nil, if_pos rfl]
    exact List.getLast?_concat
  | false =>
    rw [List.filter_cons_of_neg (by rw [hp]; exact Bool.false_ne_true), List.filter_nil,
      List.append_nil, if_neg Bool.false_ne_true]

end InfoElement
