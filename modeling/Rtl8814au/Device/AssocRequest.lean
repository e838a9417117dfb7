import Rtl8814au.Device.KeySafety
import Rtl8814au.Device.Steps
import Rtl8814au.Lib.Elements

/-!
# Device.AssocRequest

The association request that follows `_DoJoin`, read as a list of information elements.

* `assocRequest`    — the frame `_SendAssocRequest` transmits.
* `WellEncoded`     — its elements are the requested SSID, the rates of the band and the stored RSN
  IE, in ascending order, and there is nothing else behind the fixed fields.
* `SsidSurvives`    — the copy of the SSID as a C string loses nothing.
* `assoc_request_encoding` — the request is well encoded exactly if the SSID survives and the RSN IE
  fits.
-/

namespace Rtl8814au
namespace Device

/-! ## Copies of C strings -/

theorem length_cString_le (s : Bytes) (n : Nat) : (cString s n).length ≤ n := List.length_take_le _ _

theorem at_cString {s : Bytes} {n i : Nat} (h : i < (cString s n).length) :
    (cString s n).at i = s.at i := by
  obtain ⟨rest, hrest⟩ : cString s n <+: s :=
    (List.take_prefix _ _).trans (List.takeWhile_prefix _)
  conv_rhs => rw [← hrest]
  exact (Bytes.at_append_left h).symm

/-- A C string shorter than its room ends at a zero byte. -/
theorem at_length_cString {s : Bytes} {n : Nat} (h : (cString s n).length < n) :
    s.at (cString s n).length = 0 := by
  induction s generalizing n with
  | nil => rfl
  | cons b s ih =>
    unfold cString at h ⊢
    by_cases hb : b = 0
    · simp [hb, Bytes.at]
    · cases n with
      | zero => exact absurd h (Nat.not_lt_zero _)
      | succ n =>
        rw [List.takeWhile_cons_of_pos (by simpa using hb)] at h ⊢
        exact ih (Nat.lt_of_succ_lt_succ h)

theorem bytes_strlcpy33 (dst : Buf 33) (src : Bytes) :
    (strlcpy33 dst src).bytes =
      cString src 32 ++ (0 :: dst.bytes.drop ((cString src 32).length + 1)) := by
  have hlen := length_cString_le src 32
  unfold strlcpy33
  rw [Buf.bytes_copyAt _ (by simp; omega)]
  simp

/-- The copy takes over what is in front of the first zero, and leaves what is behind it. -/
theorem at_strlcpy33 (dst : Buf 33) (src : Bytes) (i : Nat) :
    (strlcpy33 dst src).bytes.at i =
      if i < (cString src 32).length then src.at i
      else if i = (cString src 32).length then 0
      else dst.bytes.at i := by
  rw [bytes_strlcpy33]
  by_cases hi : i < (cString src 32).length
  · rw [if_pos hi, Bytes.at_append_left hi, at_cString hi]
  rw [if_neg hi, Bytes.at_append_right (Nat.not_lt.mp hi)]
  by_cases heq : i = (cString src 32).length
  · rw [if_pos heq, heq, Nat.sub_self]
    rfl
  · rw [if_neg heq]
    obtain ⟨j, rfl⟩ : ∃ j, i = (cString src 32).length + 1 + j :=
      ⟨i - (cString src 32).length - 1, by omega⟩
    have hj : (cString src 32).length + 1 + j - (cString src 32).length = j + 1 := by omega
    rw [hj, Bytes.at, Bytes.at, List.getD_eq_getElem?_getD, List.getD_eq_getElem?_getD,
      List.getElem?_cons_succ, List.getElem?_drop]

theorem take_eq_iff {a b : Bytes} {n : Nat} (ha : n ≤ a.length) (hb : n ≤ b.length) :
    a.take n = b.take n ↔ ∀ i < n, a.at i = b.at i := by
  constructor
  · intro h i hi
    have hat := congrArg (fun l => l[i]?) h
    simp only [List.getElem?_take, if_pos hi] at hat
    rw [Bytes.at, Bytes.at, List.getD_eq_getElem?_getD, List.getD_eq_getElem?_getD, hat]
  · intro h
    refine List.ext_getElem (by rw [List.length_take_of_le ha, List.length_take_of_le hb]) ?_
    intro i hi _
    rw [List.length_take_of_le ha] at hi
    have hat := h i hi
    rw [Bytes.at, Bytes.at, List.getD_eq_getElem?_getD, List.getD_eq_getElem?_getD,
      List.getElem?_eq_getElem (by omega), List.getElem?_eq_getElem (by omega)] at hat
    rw [List.getElem_take, List.getElem_take]
    exact hat

/-- What the SSID field held behind the first zero of the SSID is what the SSID has there. -/
def SsidSurvives (d : Device) (ssid : Bytes) (ssidLen : Nat) : Prop :=
  ∀ i < ssidLen, (cString ssid 32).length < i → d.fJoinSsid.bytes.at i = ssid.at i

instance (d : Device) (ssid : Bytes) (ssidLen : Nat) : Decidable (d.SsidSurvives ssid ssidLen) :=
  inferInstanceAs (Decidable (∀ i < ssidLen, _))

theorem ssidSurvives_iff {d : Device} {ssid : Bytes} {ssidLen : Nat} (h32 : ssidLen ≤ 32)
    (hlen : ssidLen ≤ ssid.length) :
    (strlcpy33 d.fJoinSsid ssid).bytes.take ssidLen = ssid.take ssidLen ↔
      d.SsidSurvives ssid ssidLen := by
  rw [take_eq_iff (by rw [Buf.length_eq]; omega) hlen]
  refine forall₂_congr fun i hi => ?_
  rw [at_strlcpy33]
  by_cases hbefore : i < (cString ssid 32).length
  · rw [if_pos hbefore]
    exact ⟨fun _ hbehind => absurd hbefore (Nat.not_lt_of_gt hbehind), fun _ => rfl⟩
  rw [if_neg hbefore]
  by_cases hzero : i = (cString ssid 32).length
  · rw [if_pos hzero]
    have hat := at_length_cString (s := ssid) (n := 32) (by omega)
    exact ⟨fun _ hbehind => absurd hbehind (by omega), fun _ => by rw [hzero, hat]⟩
  · rw [if_neg hzero]
    exact ⟨fun h _ => h, fun h => h (by omega)⟩

/-- The SSID that `_DoJoin` finds in the field survives. -/
theorem ssidSurvives_field (d : Device) (ssidLen : Nat) :
    d.SsidSurvives d.fJoinSsid.bytes ssidLen := fun _ _ _ => rfl

/-- So does one without a zero byte. -/
theorem ssidSurvives_noZero {d : Device} {ssid : Bytes} {ssidLen : Nat} (h32 : ssidLen ≤ 32)
    (h : ∀ i < ssidLen, ssid.at i ≠ 0) : d.SsidSurvives ssid ssidLen := by
  intro i hi hbehind
  exact absurd (at_length_cString (by omega)) (h _ (Nat.lt_trans hbehind hi))

/-- Only an ASSOC request brings an SSID that is not in the field yet. -/
theorem ssidSurvives_joins {d d1 : Device} {request : Request} {bssid : Mac} {ssid : Bytes}
    {ssidLen : Nat} (hj : d.Joins request d1 bssid ssid ssidLen) (h32 : ssidLen ≤ 32)
    (h : ∀ op macaddr len name, request = .mlme op macaddr len name → ∀ i < ssidLen, ssid.at i ≠ 0) :
    d1.SsidSurvives ssid ssidLen := by
  cases hj with
  | mlme macaddr len name => exact ssidSurvives_noZero h32 (h _ _ _ _ rfl)
  | passphrase => exact ssidSurvives_field _ _
  | again => exact ssidSurvives_field _ _

/-! ## The frame -/

def ratesElement (is5GHz : Bool) : InfoElement where
  id := 1
  body := supportedRates is5GHz
  fits := by cases is5GHz <;> decide

def extendedRates : InfoElement where
  id := 50
  body := [0x30, 0x48, 0x60, 0x6C]
  fits := by decide

def assocRequest (d : Device) (is5GHz : Bool) : Bytes :=
  d.assocRequestHead is5GHz ++
    (if d.haveRsnIe is5GHz then d.fWpaIe.bytes.take d.fWpaIeLength else []) ++
      if is5GHz then [] else [50, 4, 0x30, 0x48, 0x60, 0x6C]

theorem sendAssocRequest_actions (d : Device) (env : Env) :
    (d.sendAssocRequest env).actions =
      [.transmitAssocRequest (d.assocRequest env.is5GHz) (d.haveRsnIe env.is5GHz)] := rfl

/-- The stored IE is this element, or none is stored. -/
def StoresRsnIe (d : Device) : Option InfoElement → Prop
  | none => d.fWpaIeLength = 0
  | some rsn => rsn.id = 0x30 ∧ d.fWpaIeLength = rsn.encode.length ∧
      d.fWpaIe.bytes.take d.fWpaIeLength = rsn.encode

instance (d : Device) : ∀ stored, Decidable (d.StoresRsnIe stored)
  | none => inferInstanceAs (Decidable (_ = _))
  | some _ => inferInstanceAs (Decidable (_ ∧ _))

/-- `IOC_APPIE` stores a well-formed RSN IE. -/
theorem storesRsnIe_appie (d : Device) {rsn : InfoElement} (hid : rsn.id = 0x30)
    (h : rsn.encode.length ≤ 256) : (d.appie rsn.encode).device.StoresRsnIe (some rsn) := by
  have hpos : rsn.encode.length ≠ 0 := by
    rw [InfoElement.length_encode]
    omega
  unfold appie
  rw [if_neg hpos, if_neg (Nat.not_lt.mpr h)]
  refine ⟨hid, rfl, ?_⟩
  have hfits : 0 + rsn.encode.length ≤ 256 := by omega
  have htake := d.fWpaIe.take_copyAt hfits
  rw [Nat.zero_add] at htake
  exact htake

/-- The elements of a request. -/
def elementsOf (ssid : Bytes) (hssid : ssid.length < 256) (carried : Option InfoElement)
    (is5GHz : Bool) : List InfoElement :=
  [⟨0, ssid, hssid⟩, ratesElement is5GHz] ++ carried.toList ++
    if is5GHz then [] else [extendedRates]

/-- The stored IE, if there is room for it and for the extended rates. -/
def carriedIe (stored : Option InfoElement) (ssidLen : Nat) : Option InfoElement :=
  stored.filter fun rsn => 46 + ssidLen + rsn.encode.length ≤ 256

theorem length_assocRequestHead {d : Device} (is5GHz : Bool) (h : d.fJoinSsidLength ≤ 33) :
    (d.assocRequestHead is5GHz).length = 40 + d.fJoinSsidLength := by
  have hrates : (supportedRates is5GHz).length = 8 := by
    cases is5GHz
    · rfl
    · rfl
  simp [assocRequestHead, managementHeader, nextSeqBytes, hrates, Nat.min_eq_left h]
  omega

theorem length_assocRequest_le {d : Device} (is5GHz : Bool) (h : d.fJoinSsidLength ≤ 33) :
    (d.assocRequest is5GHz).length ≤ 256 := by
  have hhead := length_assocRequestHead is5GHz h
  have hrates : (if is5GHz then [] else [50, 4, 0x30, 0x48, 0x60, 0x6C] : Bytes).length ≤ 6 := by
    cases is5GHz
    · exact Nat.le_refl _
    · exact Nat.zero_le _
  unfold assocRequest
  rw [List.length_append, List.length_append, hhead]
  split
  · rename_i hhave
    obtain ⟨-, hroom⟩ := of_decide_eq_true hhave
    rw [List.length_take]
    omega
  · rw [List.length_nil]
    omega

theorem carriedIe_encode {d : Device} {stored : Option InfoElement} (is5GHz : Bool)
    (hssid : d.fJoinSsidLength ≤ 33) (h : d.StoresRsnIe stored) :
    (if d.haveRsnIe is5GHz then d.fWpaIe.bytes.take d.fWpaIeLength else []) =
      InfoElement.encodeAll (carriedIe stored d.fJoinSsidLength).toList := by
  have hhead := length_assocRequestHead is5GHz hssid
  cases stored with
  | none =>
    have hzero : d.fWpaIeLength = 0 := h
    have hno : d.haveRsnIe is5GHz = false := decide_eq_false fun hhave => by omega
    rw [hno]
    rfl
  | some rsn =>
    obtain ⟨-, hlen, hbytes⟩ := h
    have hpos : 0 < rsn.encode.length := by
      rw [InfoElement.length_encode]
      omega
    by_cases hfit : 46 + d.fJoinSsidLength + rsn.encode.length ≤ 256
    · have hyes : d.haveRsnIe is5GHz = true := decide_eq_true ⟨by omega, by omega⟩
      have hcarried : carriedIe (some rsn) d.fJoinSsidLength = some rsn :=
        Option.filter_some_pos (decide_eq_true hfit)
      rw [hyes, if_pos rfl, hbytes, hcarried]
      exact (List.append_nil _).symm
    · have hno : d.haveRsnIe is5GHz = false := decide_eq_false fun hhave => by omega
      have hcarried : carriedIe (some rsn) d.fJoinSsidLength = none :=
        Option.filter_some_neg (decide_eq_false hfit)
      rw [hno, hcarried]
      rfl

/-- The fixed fields, and the elements behind them. -/
theorem assocRequest_eq {d : Device} {stored : Option InfoElement} (is5GHz : Bool)
    (hssid : d.fJoinSsidLength ≤ 33) (h : d.StoresRsnIe stored) :
    ∃ fixed : Bytes, fixed.length = 28 ∧ d.assocRequest is5GHz = fixed ++ InfoElement.encodeAll
      (elementsOf (d.fJoinSsid.bytes.take d.fJoinSsidLength)
        (by rw [List.length_take, Buf.length_eq]; omega)
        (carriedIe stored d.fJoinSsidLength) is5GHz) := by
  have hlen : (d.fJoinSsid.bytes.take d.fJoinSsidLength).length = d.fJoinSsidLength := by
    rw [List.length_take, Buf.length_eq]
    omega
  refine ⟨d.managementHeader 0x00 ++ [d.capabilityInfo, 0x00, 0x14, 0x00], ?_, ?_⟩
  · simp [managementHeader, nextSeqBytes]
  · unfold assocRequest
    rw [carriedIe_encode is5GHz hssid h]
    cases is5GHz
    · simp [assocRequestHead, elementsOf, InfoElement.encodeAll, InfoElement.encode, ratesElement,
        extendedRates, supportedRates, hlen]
    · simp [assocRequestHead, elementsOf, InfoElement.encodeAll, InfoElement.encode, ratesElement,
        supportedRates, hlen]

/-! ## The encoding -/

/-- What the elements are to be. -/
structure Carries (es : List InfoElement) (ssid : Bytes) (stored : Option InfoElement) (is5GHz : Bool) :
    Prop where
  ascending : es.Pairwise fun a b => a.id < b.id
  ssid : ∃ e ∈ es, e.id = 0 ∧ e.body = ssid
  rates : ratesElement is5GHz ∈ es
  rsn : ∀ e, e ∈ es ∧ e.id = 0x30 ↔ stored = some e
  extended : ∀ e, e ∈ es ∧ e.id = 50 ↔ is5GHz = false ∧ e = extendedRates

structure WellEncoded (frame ssid : Bytes) (stored : Option InfoElement) (is5GHz : Bool) : Prop where
  size : frame.length ≤ 256
  elements : ∃ es, InfoElement.parse (frame.drop 28) = some es ∧ Carries es ssid stored is5GHz

theorem carries_elementsOf {body ssid : Bytes} {hbody : body.length < 256}
    {carried stored : Option InfoElement} {is5GHz : Bool} (hid : ∀ rsn ∈ carried, rsn.id = 0x30) :
    Carries (elementsOf body hbody carried is5GHz) ssid stored is5GHz ↔
      body = ssid ∧ carried = stored := by
  have hrates : (ratesElement is5GHz).id = 1 := rfl
  have hext : extendedRates.id = 50 := rfl
  have hmem : ∀ e, e ∈ elementsOf body hbody carried is5GHz ↔
      e = ⟨0, body, hbody⟩ ∨ e = ratesElement is5GHz ∨ carried = some e ∨
        is5GHz = false ∧ e = extendedRates := by
    intro e
    cases is5GHz <;> simp [elementsOf, Option.mem_toList]
  have hrsn : ∀ e, e ∈ elementsOf body hbody carried is5GHz ∧ e.id = 0x30 ↔ carried = some e := by
    intro e
    rw [hmem]
    constructor
    · rintro ⟨rfl | rfl | he | ⟨-, rfl⟩, hid⟩
      · cases hid
      · exact absurd (hrates.symm.trans hid) (by decide)
      · exact he
      · exact absurd (hext.symm.trans hid) (by decide)
    · intro he
      exact ⟨.inr (.inr (.inl he)), hid e he⟩
  constructor
  · intro h
    constructor
    · obtain ⟨e, he, hzero, rfl⟩ := h.ssid
      rcases (hmem e).mp he with rfl | rfl | hcarried | ⟨-, rfl⟩
      · rfl
      · exact absurd (hrates.symm.trans hzero) (by decide)
      · exact absurd ((hid e hcarried).symm.trans hzero) (by decide)
      · exact absurd (hext.symm.trans hzero) (by decide)
    · refine Option.ext fun e => ?_
      rw [← h.rsn e, hrsn e]
  · rintro ⟨rfl, rfl⟩
    refine ⟨?_, ⟨_, (hmem _).mpr (.inl rfl), rfl, rfl⟩, (hmem _).mpr (.inr (.inl rfl)), hrsn, ?_⟩
    · cases carried with
      | none => cases is5GHz <;> simp [elementsOf, hrates, hext]
      | some rsn =>
        have h48 := hid rsn rfl
        cases is5GHz <;> simp [elementsOf, hrates, hext, h48]
    · intro e
      rw [hmem]
      constructor
      · rintro ⟨rfl | rfl | he | he, h50⟩
        · cases h50
        · exact absurd (hrates.symm.trans h50) (by decide)
        · exact absurd ((hid e he).symm.trans h50) (by decide)
        · exact he
      · rintro ⟨hband, rfl⟩
        exact ⟨.inr (.inr (.inr ⟨hband, rfl⟩)), rfl⟩

/-- The state in which `_HandleAuthResponse` builds the request, the join having been started with
these arguments. -/
def authenticated (d : Device) (target : Mac) (ssid : Bytes) (ssidLen : Nat) (env : Env) : Device :=
  { (d.joinReset.startJoin target ssid ssidLen env).device with fJoinState := .kJoinAssociating }

theorem carriedIe_eq_iff {stored : Option InfoElement} {ssidLen : Nat} :
    carriedIe stored ssidLen = stored ↔
      ∀ rsn ∈ stored, 46 + ssidLen + rsn.encode.length ≤ 256 := by
  cases stored with
  | none => simp [carriedIe]
  | some rsn =>
    unfold carriedIe
    rw [Option.filter_eq_some_iff]
    simp only [true_and, Option.mem_some_iff, forall_eq', decide_eq_true_eq]

/-- An association request carries the requested SSID and the stored RSN IE, in a well-formed list
of elements, exactly if the SSID survives its copy and there is room for the IE. -/
theorem assoc_request_encoding {d : Device} {ssid : Bytes} {ssidLen : Nat} {stored : Option InfoElement}
    (target : Mac) (env : Env) (is5GHz : Bool) (h32 : ssidLen ≤ 32) (hlen : ssidLen ≤ ssid.length)
    (hstored : d.StoresRsnIe stored) :
    WellEncoded ((d.authenticated target ssid ssidLen env).assocRequest is5GHz) (ssid.take ssidLen)
        stored is5GHz ↔
      d.SsidSurvives ssid ssidLen ∧ ∀ rsn ∈ stored, 46 + ssidLen + rsn.encode.length ≤ 256 := by
  have hkept : (d.authenticated target ssid ssidLen env).StoresRsnIe stored := by
    cases stored with
    | none => exact hstored
    | some rsn => exact hstored
  obtain ⟨fixed, hfixed, hframe⟩ := assocRequest_eq is5GHz (Nat.le_succ_of_le h32) hkept
  have hid : ∀ rsn ∈ carriedIe stored ssidLen, rsn.id = 0x30 := by
    intro rsn hrsn
    obtain ⟨hsome, -⟩ := Option.filter_eq_some_iff.mp hrsn
    rw [hsome] at hstored
    exact hstored.1
  have hsize := length_assocRequest_le (d := d.authenticated target ssid ssidLen env) is5GHz
    (Nat.le_succ_of_le h32)
  rw [← ssidSurvives_iff h32 hlen, ← carriedIe_eq_iff, ← carries_elementsOf hid]
  constructor
  · rintro ⟨-, es, hparse, hcarries⟩
    rw [hframe, List.drop_left' hfixed, InfoElement.parse_iff.mpr rfl] at hparse
    obtain rfl := Option.some.inj hparse
    exact hcarries
  · intro hcarries
    refine ⟨hsize, _, ?_, hcarries⟩
    rw [hframe, List.drop_left' hfixed, InfoElement.parse_iff]
    rfl

theorem assoc_request_encoding_default :
    WellEncoded
      (((Device.init System.sampleMac).defaultRsnIe.authenticated System.sampleBssid
        [0x6E, 0x65, 0x74, 0] 3 System.sampleEnv).assocRequest false) [0x6E, 0x65, 0x74]
      (some ⟨0x30, sRsnIeCcmpPsk.drop 2, by decide⟩) false :=
  (assoc_request_encoding System.sampleBssid System.sampleEnv false (by decide) (by decide)
    (by decide)).mpr (by decide)

/-- The name `a`, zero, `b` loses its last byte. -/
theorem assoc_request_encoding_zeroByte :
    ¬ ∀ (d : Device) (ssid : Bytes) (ssidLen : Nat) (stored : Option InfoElement) (target : Mac)
      (env : Env) (is5GHz : Bool), ssidLen ≤ 32 → ssidLen ≤ ssid.length → d.StoresRsnIe stored →
      WellEncoded ((d.authenticated target ssid ssidLen env).assocRequest is5GHz) (ssid.take ssidLen)
        stored is5GHz := by
  intro hclaim
  let name : Bytes := [0x61, 0, 0x62, 0]
  obtain ⟨-, es, hparse, hcarries⟩ := hclaim (.init System.sampleMac) name 3 none System.sampleBssid
    System.sampleEnv true (by decide) (by decide) (by decide)
  have hfound : (InfoElement.parse ((((Device.init System.sampleMac).authenticated System.sampleBssid name
      3 System.sampleEnv).assocRequest true).drop 28)).map (List.map InfoElement.body) =
      some [[0x61, 0, 0], supportedRates true] := by decide +kernel
  rw [hparse] at hfound
  obtain ⟨e, he, -, hbody⟩ := hcarries.ssid
  have hmem := List.mem_map_of_mem (f := InfoElement.body) he
  rw [Option.some.inj hfound, hbody] at hmem
  exact absurd hmem (by decide)

end Device
end Rtl8814au
