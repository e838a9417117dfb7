import Rtl8814au.Device.KdeBounds
import Rtl8814au.Lib.Checked
import Rtl8814au.Lib.Elements
import Rtl8814au.WiFi.BssTable

/-!
# Device.BeaconParser

`_ParseBeaconOrProbe`, with every read, every write and every sum checked.

* `ieTurn`: one turn of the loop over the elements; `Gathered` says what the loop has in hand after a
  list of elements.
* `beaconOf`: the beacon in terms of the whole elements at the front of the body.
* `beacon_elements`: the function comes to its end on any frame, and forwards that beacon.
-/

namespace Rtl8814au
namespace Device

open Checked (Turn)

structure IeState where
  offset : Nat
  ssid : Buf 33
  ssidLength : UInt8
  channel : UInt8
  security : SecurityType
  foundSSID : Bool

def IeState.start : IeState where
  offset := 0
  ssid := Buf.zero 33
  ssidLength := 0
  channel := 0
  security := .kSecurityNone
  foundSSID := false

/-- `case 0`; the data is at `data` in the frame. -/
def caseSsid (frame : Bytes) (s : IeState) (data : Nat) (ieLen : UInt8) : Checked IeState := do
  let ssidLength := if ieLen.toNat > kMaxSSIDLength then UInt8.ofNat kMaxSSIDLength else ieLen
  let bytes ← Checked.bytesAt frame data ssidLength.toNat
  let ssid ← Checked.store s.ssid.bytes 0 bytes
  let ssid ← Checked.store ssid ssidLength.toNat [0]
  pure { s with ssid := Buf.ofBytes 33 ssid, ssidLength := ssidLength, foundSSID := true }

/-- `case 3` -/
def caseChannel (frame : Bytes) (s : IeState) (data : Nat) (ieLen : UInt8) : Checked IeState :=
  if ieLen ≥ 1 then do
    let channel ← Checked.byteAt frame data
    pure { s with channel := channel }
  else pure s

/-- The condition of `case 221`; what comes later is read only if the rest holds. -/
def isWpaOuiAt (frame : Bytes) (data : Nat) (ieLen : UInt8) : Checked Bool :=
  if ieLen ≥ 4 then do
    let oui0 ← Checked.byteAt frame data
    if oui0 = 0x00 then
      let oui1 ← Checked.byteAt frame (data + 1)
      if oui1 = 0x50 then
        let oui2 ← Checked.byteAt frame (data + 2)
        if oui2 = 0xF2 then
          let ouiType ← Checked.byteAt frame (data + 3)
          pure (ouiType = 0x01)
        else pure false
      else pure false
    else pure false
  else pure false

/-- `case 221` -/
def caseVendor (frame : Bytes) (s : IeState) (data : Nat) (ieLen : UInt8) : Checked IeState := do
  let isWpa ← isWpaOuiAt frame data ieLen
  if isWpa ∧ s.security = .kSecurityNone then pure { s with security := .kSecurityTKIP }
  else pure s

/-- The `switch` on the element's id. -/
def ieSwitch (frame : Bytes) (s : IeState) (data : Nat) (ieID ieLen : UInt8) : Checked IeState :=
  if ieID = 0 then caseSsid frame s data ieLen
  else if ieID = 3 then caseChannel frame s data ieLen
  else if ieID = 48 then pure { s with security := .kSecurityAESCCMP }
  else if ieID = 221 then caseVendor frame s data ieLen
  else pure s

def ieTurn (frame : Bytes) (ieTotal : Nat) (s : IeState) : Checked (Turn IeState) := do
  let head ← Checked.add s.offset 2
  if head ≤ ieTotal then
    let ieID ← Checked.byteAt frame (36 + s.offset)
    let ieLen ← Checked.byteAt frame (36 + s.offset + 1)
    let stop ← Checked.add head ieLen.toNat
    if stop > ieTotal then
      pure (.exit s)
    else
      let s' ← ieSwitch frame s (36 + s.offset + 2) ieID ieLen
      let offset ← Checked.add s.offset (2 + ieLen.toNat)
      pure (.next { s' with offset := offset })
  else
    pure (.exit s)

/-- The arguments of `UpdateBssEntry`, when it is called. `rssi` is there with `rxInfo`. -/
def parseBeaconOrProbe (hasWiFiManager : Bool) (frame : Bytes) (rssi : Option Int8) :
    Checked (Option Beacon) :=
  if frame.length < 36 then pure none
  else if ¬ hasWiFiManager then pure none
  else do
    let intervalLow ← Checked.byteAt frame 32
    let intervalHigh ← Checked.byteAt frame 33
    let capabilityLow ← Checked.byteAt frame 34
    let capabilityHigh ← Checked.byteAt frame 35
    let ieTotal ← Checked.sub frame.length 36
    let s ← Checked.iterate (ieTurn frame ieTotal) (frame.length + 1) .start
    if ¬ s.foundSSID ∨ s.ssidLength = 0 then pure none
    else
      let bssid ← Checked.bytesAt frame 16 6
      let ssid ← Checked.bytesAt s.ssid.bytes 0 s.ssidLength.toNat
      let ieData ← Checked.bytesAt frame 36 ieTotal
      pure (some {
        bssid := Buf.ofBytes 6 bssid
        ssid := ssid
        channel := s.channel
        beaconInterval := intervalLow.toUInt16 ||| (intervalHigh.toUInt16 <<< 8)
        capability := capabilityLow.toUInt16 ||| (capabilityHigh.toUInt16 <<< 8)
        security := s.security
        rssi := rssi.getD (-80)
        ieData := ieData })

/-! ## What a beacon says -/

def isSsid (e : InfoElement) : Bool := e.id = 0

def isChannel (e : InfoElement) : Bool := e.id = 3 ∧ 1 ≤ e.body.length

def isRsn (e : InfoElement) : Bool := e.id = 48

/-- A vendor element that starts with the WPA OUI and type. -/
def isWpa (e : InfoElement) : Bool := e.id = 221 ∧ e.body.take 4 = [0x00, 0x50, 0xF2, 0x01]

@[simp] theorem isSsid_iff {e : InfoElement} : isSsid e = true ↔ e.id = 0 := decide_eq_true_iff

@[simp] theorem isChannel_iff {e : InfoElement} :
    isChannel e = true ↔ e.id = 3 ∧ 1 ≤ e.body.length := decide_eq_true_iff

@[simp] theorem isRsn_iff {e : InfoElement} : isRsn e = true ↔ e.id = 48 := decide_eq_true_iff

@[simp] theorem isWpa_iff {e : InfoElement} :
    isWpa e = true ↔ e.id = 221 ∧ e.body.take 4 = [0x00, 0x50, 0xF2, 0x01] := decide_eq_true_iff

def ssidOf (es : List InfoElement) : Option Bytes :=
  (InfoElement.lastWith isSsid es).map fun e => e.body.take kMaxSSIDLength

def channelOf (es : List InfoElement) : UInt8 :=
  ((InfoElement.lastWith isChannel es).map fun e => e.body.at 0).getD 0

def securityOf (es : List InfoElement) : SecurityType :=
  if es.any isRsn then .kSecurityAESCCMP
  else if es.any isWpa then .kSecurityTKIP
  else .kSecurityNone

/-- A two-byte field of the fixed part. -/
def fieldAt (frame : Bytes) (i : Nat) : UInt16 :=
  (frame.at i).toUInt16 ||| ((frame.at (i + 1)).toUInt16 <<< 8)

/-- No beacon without an SSID, or with an empty one. -/
def beaconOf (frame : Bytes) (rssi : Option Int8) : Option Beacon :=
  let es := InfoElement.leading (frame.drop 36)
  let ssid := (ssidOf es).getD []
  if ssid = [] then none
  else
    some {
      bssid := Buf.ofBytes 6 (frame.slice 16 6)
      ssid := ssid
      channel := channelOf es
      beaconInterval := fieldAt frame 32
      capability := fieldAt frame 34
      security := securityOf es
      rssi := rssi.getD (-80)
      ieData := frame.drop 36 }

theorem ssidOf_snoc (es : List InfoElement) (e : InfoElement) :
    ssidOf (es ++ [e]) =
      if isSsid e then some (e.body.take kMaxSSIDLength) else ssidOf es := by
  rw [ssidOf, InfoElement.lastWith_snoc]
  split
  · rfl
  · rfl

theorem channelOf_snoc (es : List InfoElement) (e : InfoElement) :
    channelOf (es ++ [e]) = if isChannel e then e.body.at 0 else channelOf es := by
  rw [channelOf, InfoElement.lastWith_snoc]
  split
  · rfl
  · rfl

theorem securityOf_snoc (es : List InfoElement) (e : InfoElement) :
    securityOf (es ++ [e]) =
      if isRsn e then .kSecurityAESCCMP
      else if isWpa e ∧ securityOf es = .kSecurityNone then .kSecurityTKIP
      else securityOf es := by
  unfold securityOf
  simp only [List.any_append, List.any_cons, List.any_nil, Bool.or_false]
  cases es.any isRsn <;> cases es.any isWpa <;> cases isRsn e <;> cases isWpa e <;> simp

theorem securityOf_perm {es es' : List InfoElement} (h : es.Perm es') :
    securityOf es = securityOf es' := by
  unfold securityOf
  rw [h.any_eq, h.any_eq]

/-! ## One turn -/

/-- What the loop has in hand after the elements `es`. -/
structure Gathered (es : List InfoElement) (s : IeState) : Prop where
  fits : s.ssidLength.toNat ≤ kMaxSSIDLength
  ssid : ssidOf es = if s.foundSSID then some (s.ssid.bytes.take s.ssidLength.toNat) else none
  channel : channelOf es = s.channel
  security : securityOf es = s.security

theorem gathered_start : Gathered [] .start := ⟨Nat.zero_le _, rfl, rfl, rfl⟩

section

variable {frame : Bytes} {es : List InfoElement} {e : InfoElement} {s : IeState} {data : Nat}
  {ieLen : UInt8}

theorem caseSsid_gathered (h : Gathered es s) (hid : e.id = 0)
    (hbody : e.body = frame.slice data ieLen.toNat) (hin : data + ieLen.toNat ≤ frame.length) :
    ∃ s', caseSsid frame s data ieLen = .ok s' ∧ Gathered (es ++ [e]) s' ∧ s'.offset = s.offset := by
  obtain ⟨n, hn⟩ : ∃ n, n = min ieLen.toNat 32 := ⟨_, rfl⟩
  obtain ⟨cut, hcut⟩ : ∃ cut, cut =
    if ieLen.toNat > kMaxSSIDLength then UInt8.ofNat kMaxSSIDLength else ieLen := ⟨_, rfl⟩
  have hval : cut.toNat = n := by
    rw [hcut, hn]
    split
    · rename_i hlong
      exact (Nat.min_eq_right (Nat.le_of_lt hlong)).symm
    · rename_i hshort
      exact (Nat.min_eq_left (Nat.not_lt.mp hshort)).symm
  have hlen : (frame.slice data n).length = n := Bytes.length_slice (by omega)
  have hfirst : 0 + (frame.slice data n).length ≤ 33 := by omega
  have hnul : n + [(0 : UInt8)].length ≤ 33 := by
    rw [List.length_singleton]
    omega
  have htake : ((s.ssid.copyAt 0 (frame.slice data n)).copyAt n [0]).bytes.take n =
      frame.slice data n := by
    have hcopy := s.ssid.take_copyAt hfirst
    rw [hlen, Nat.zero_add, List.take_zero, List.nil_append] at hcopy
    rw [Buf.take_copyAt_left _ hnul, hcopy]
  refine ⟨{ s with
    ssid := (s.ssid.copyAt 0 (frame.slice data n)).copyAt n [0]
    ssidLength := cut
    foundSSID := true }, ?_, ⟨?_, ?_, ?_, ?_⟩, rfl⟩
  · simp only [caseSsid, ← hcut]
    rw [hval, Checked.bytesAt_ok (by omega), Checked.ok_bind, Checked.store_buf _ hfirst,
      Checked.ok_bind, Checked.store_buf _ hnul, Checked.ok_bind, Buf.ofBytes_bytes]
    rfl
  · show cut.toNat ≤ 32
    omega
  · rw [ssidOf_snoc, if_pos (isSsid_iff.mpr hid), if_pos rfl]
    dsimp only
    rw [hval, htake, hbody, Bytes.slice, Bytes.slice, List.take_take, hn, Nat.min_comm]
    rfl
  · rw [channelOf_snoc, if_neg (by simp [hid])]
    exact h.channel
  · rw [securityOf_snoc, if_neg (by simp [hid]), if_neg (by simp [hid])]
    exact h.security

theorem caseChannel_gathered (h : Gathered es s) (hid : e.id = 3)
    (hbody : e.body = frame.slice data ieLen.toNat) (hin : data + ieLen.toNat ≤ frame.length) :
    ∃ s', caseChannel frame s data ieLen = .ok s' ∧ Gathered (es ++ [e]) s' ∧
      s'.offset = s.offset := by
  have hcount : e.body.length = ieLen.toNat := by
    rw [hbody]
    exact Bytes.length_slice hin
  have hssid : ssidOf (es ++ [e]) = ssidOf es := by
    rw [ssidOf_snoc, if_neg (by simp [hid])]
  have hsecurity : securityOf (es ++ [e]) = securityOf es := by
    rw [securityOf_snoc, if_neg (by simp [hid]), if_neg (by simp [hid])]
  unfold caseChannel
  by_cases hsome : ieLen ≥ 1
  · have hpos : 1 ≤ ieLen.toNat := UInt8.le_iff_toNat_le.mp hsome
    have hat : e.body.at 0 = frame.at data := by
      rw [hbody, Bytes.at_slice hpos, Nat.add_zero]
    rw [if_pos hsome, Checked.byteAt_ok (by omega), Checked.ok_bind]
    refine ⟨_, rfl, ⟨h.fits, hssid.trans h.ssid, ?_, hsecurity.trans h.security⟩, rfl⟩
    rw [channelOf_snoc, if_pos (isChannel_iff.mpr ⟨hid, by omega⟩), hat]
  · have hzero : ¬ 1 ≤ ieLen.toNat := fun hle => hsome (UInt8.le_iff_toNat_le.mpr hle)
    rw [if_neg hsome]
    refine ⟨s, rfl, ⟨h.fits, hssid.trans h.ssid, ?_, hsecurity.trans h.security⟩, rfl⟩
    rw [channelOf_snoc, if_neg (fun hc => hzero (hcount ▸ (isChannel_iff.mp hc).2))]
    exact h.channel

theorem isWpaOuiAt_eq (hid : e.id = 221)
    (hbody : e.body = frame.slice data ieLen.toNat) (hin : data + ieLen.toNat ≤ frame.length) :
    isWpaOuiAt frame data ieLen = .ok (isWpa e) := by
  unfold isWpaOuiAt isWpa
  by_cases hlong : ieLen ≥ 4
  · have hfour : 4 ≤ ieLen.toNat := UInt8.le_iff_toNat_le.mp hlong
    have h0 := Checked.byteAt_ok (show data < frame.length by omega)
    have h1 := Checked.byteAt_ok (show data + 1 < frame.length by omega)
    have h2 := Checked.byteAt_ok (show data + 2 < frame.length by omega)
    have h3 := Checked.byteAt_ok (show data + 3 < frame.length by omega)
    have htake : e.body.take 4 =
        [frame.at data, frame.at (data + 1), frame.at (data + 2), frame.at (data + 3)] := by
      rw [hbody, Bytes.slice, List.take_take, Nat.min_eq_left hfour]
      exact Bytes.slice_eq_map (show data + 4 ≤ frame.length by omega)
    rw [if_pos hlong, htake]
    simp only [h0, h1, h2, h3, Checked.ok_bind, ite_chain, hid, true_and, List.cons.injEq, and_true]
  · have hshort : ¬ 4 ≤ ieLen.toNat := fun hle => hlong (UInt8.le_iff_toNat_le.mpr hle)
    have hnot : ¬ (e.id = 221 ∧ e.body.take 4 = [0x00, 0x50, 0xF2, 0x01]) := by
      rintro ⟨-, htake⟩
      have hlen := congrArg List.length htake
      rw [hbody, List.length_take, Bytes.length_slice hin] at hlen
      simp only [List.length_cons, List.length_nil] at hlen
      omega
    rw [if_neg hlong, decide_eq_false hnot]
    rfl

theorem caseVendor_gathered (h : Gathered es s) (hid : e.id = 221)
    (hbody : e.body = frame.slice data ieLen.toNat) (hin : data + ieLen.toNat ≤ frame.length) :
    ∃ s', caseVendor frame s data ieLen = .ok s' ∧ Gathered (es ++ [e]) s' ∧
      s'.offset = s.offset := by
  have hssid : ssidOf (es ++ [e]) = ssidOf es := by
    rw [ssidOf_snoc, if_neg (by simp [hid])]
  have hchannel : channelOf (es ++ [e]) = channelOf es := by
    rw [channelOf_snoc, if_neg (by simp [hid])]
  have hsecurity : securityOf (es ++ [e]) =
      if isWpa e ∧ s.security = .kSecurityNone then .kSecurityTKIP else s.security := by
    rw [securityOf_snoc, if_neg (by simp [hid]), h.security]
  unfold caseVendor
  rw [isWpaOuiAt_eq hid hbody hin, Checked.ok_bind]
  split
  · rename_i hwpa
    rw [if_pos hwpa] at hsecurity
    exact ⟨_, rfl, ⟨h.fits, hssid.trans h.ssid, hchannel.trans h.channel, hsecurity⟩, rfl⟩
  · rename_i hother
    rw [if_neg hother] at hsecurity
    exact ⟨s, rfl, ⟨h.fits, hssid.trans h.ssid, hchannel.trans h.channel, hsecurity⟩, rfl⟩

/-- An element takes what is in hand after `es` to what is in hand after it. -/
theorem ieSwitch_gathered (h : Gathered es s) (hbody : e.body = frame.slice data ieLen.toNat)
    (hin : data + ieLen.toNat ≤ frame.length) :
    ∃ s', ieSwitch frame s data e.id ieLen = .ok s' ∧ Gathered (es ++ [e]) s' ∧
      s'.offset = s.offset := by
  unfold ieSwitch
  split
  · rename_i hid
    exact caseSsid_gathered h hid hbody hin
  rename_i hssid
  have hssid' : ssidOf (es ++ [e]) = ssidOf es := by
    rw [ssidOf_snoc, if_neg (by simp [hssid])]
  split
  · rename_i hid
    exact caseChannel_gathered h hid hbody hin
  rename_i hchannel
  have hchannel' : channelOf (es ++ [e]) = channelOf es := by
    rw [channelOf_snoc, if_neg (by simp [hchannel])]
  split
  · rename_i hid
    refine ⟨_, rfl, ⟨h.fits, hssid'.trans h.ssid, hchannel'.trans h.channel, ?_⟩, rfl⟩
    rw [securityOf_snoc, if_pos (isRsn_iff.mpr hid)]
  rename_i hrsn
  split
  · rename_i hid
    exact caseVendor_gathered h hid hbody hin
  · rename_i hvendor
    refine ⟨s, rfl, ⟨h.fits, hssid'.trans h.ssid, hchannel'.trans h.channel, ?_⟩, rfl⟩
    rw [securityOf_snoc, if_neg (by simp [hrsn]), if_neg (by simp [hvendor])]
    exact h.security

end

/-! ## The loop -/

/-- The loop stands behind whole elements. -/
structure Walked (frame : Bytes) (s : IeState) : Prop where
  inside : 36 + s.offset ≤ frame.length
  elements : ∃ es, frame.drop 36 = InfoElement.encodeAll es ++ frame.drop (36 + s.offset) ∧
    Gathered es s

theorem walked_start {frame : Bytes} (h : 36 ≤ frame.length) : Walked frame .start :=
  ⟨h, [], rfl, gathered_start⟩

/-- A turn goes past one more element, or the loop ends where no whole one follows. -/
theorem ieTurn_spec {frame : Bytes} (hlen : frame.length < 2 ^ 32 - 219) {s : IeState}
    (h : Walked frame s) :
    (∃ s', ieTurn frame (frame.length - 36) s = .ok (.next s') ∧ Walked frame s' ∧
      frame.length - s'.offset < frame.length - s.offset) ∨
    ∃ s', ieTurn frame (frame.length - 36) s = .ok (.exit s') ∧
      Gathered (InfoElement.leading (frame.drop 36)) s' := by
  obtain ⟨hinside, es, hes, hgathered⟩ := h
  have hbyte := (frame.at (36 + s.offset + 1)).toNat_lt
  have hend : InfoElement.parseOne (frame.drop (36 + s.offset)) = none →
      Gathered (InfoElement.leading (frame.drop 36)) s := by
    intro hnone
    rw [InfoElement.leading_iff.mpr ⟨_, hes, hnone⟩]
    exact hgathered
  rw [ieTurn, Checked.add_ok (by omega), Checked.ok_bind]
  by_cases hhead : s.offset + 2 ≤ frame.length - 36
  · rw [if_pos hhead, Checked.byteAt_ok (by omega), Checked.ok_bind,
      Checked.byteAt_ok (by omega), Checked.ok_bind, Checked.add_ok (by omega), Checked.ok_bind]
    by_cases hstop : s.offset + 2 + (frame.at (36 + s.offset + 1)).toNat > frame.length - 36
    · right
      rw [if_pos hstop]
      exact ⟨s, rfl, hend (InfoElement.parseOne_drop_none (.inr (by omega)))⟩
    · left
      have hin : 36 + s.offset + 2 + (frame.at (36 + s.offset + 1)).toNat ≤ frame.length := by
        omega
      obtain ⟨e, hone, hid, hbody⟩ := InfoElement.parseOne_drop hin
      obtain ⟨s', hswitch, hgathered', hoffset⟩ := ieSwitch_gathered hgathered hbody hin
      rw [if_neg hstop, ← hid, hswitch, Checked.ok_bind, Checked.add_ok (by omega),
        Checked.ok_bind]
      refine ⟨_, rfl, ⟨?_, es ++ [e], ?_, hgathered'.fits, hgathered'.ssid, hgathered'.channel,
        hgathered'.security⟩, ?_⟩
      · dsimp only
        omega
      · dsimp only
        have hnext : 36 + (s.offset + (2 + (frame.at (36 + s.offset + 1)).toNat)) =
            36 + s.offset + 2 + (frame.at (36 + s.offset + 1)).toNat := by omega
        rw [hnext, hes, InfoElement.parseOne_sound hone, ← List.append_assoc]
        congr 1
        simp only [InfoElement.encodeAll, List.flatMap_append, List.flatMap_singleton]
      · dsimp only
        omega
  · right
    rw [if_neg hhead]
    exact ⟨s, rfl, hend (InfoElement.parseOne_drop_none (.inl (by omega)))⟩

theorem ieLoop_gathered {frame : Bytes} (hmin : 36 ≤ frame.length)
    (hlen : frame.length < 2 ^ 32 - 219) :
    ∃ s, Checked.iterate (ieTurn frame (frame.length - 36)) (frame.length + 1) .start = .ok s ∧
      Gathered (InfoElement.leading (frame.drop 36)) s := by
  have hturn : ∀ s, Walked frame s →
      (∃ s', ieTurn frame (frame.length - 36) s = .ok (.next s') ∧ Walked frame s' ∧
        frame.length - s'.offset < frame.length - s.offset) ∨
      ∃ s', ieTurn frame (frame.length - 36) s = .ok (.exit s') ∧
        Gathered (InfoElement.leading (frame.drop 36)) s' := fun s h => ieTurn_spec hlen h
  exact Checked.iterate_spec (fun s => frame.length - s.offset) hturn (walked_start hmin)
    (Nat.lt_succ_of_le (Nat.sub_le _ _))

theorem parseBeaconOrProbe_eq {frame : Bytes} (hlen : frame.length < 2 ^ 32 - 219)
    (hasWiFiManager : Bool) (rssi : Option Int8) :
    parseBeaconOrProbe hasWiFiManager frame rssi =
      .ok (if frame.length < 36 ∨ hasWiFiManager = false then none else beaconOf frame rssi) := by
  unfold parseBeaconOrProbe
  by_cases hshort : frame.length < 36
  · rw [if_pos hshort, if_pos (.inl hshort)]
    rfl
  cases hasWiFiManager with
  | false =>
    rw [if_neg hshort, if_pos Bool.false_ne_true, if_pos (.inr rfl)]
    rfl
  | true =>
    have hnot : ¬ (frame.length < 36 ∨ true = false) := fun h => h.elim hshort Bool.noConfusion
    obtain ⟨s, hloop, hgathered⟩ := ieLoop_gathered (by omega) hlen
    have hfits : s.ssidLength.toNat ≤ 32 := hgathered.fits
    rw [if_neg hshort, if_neg (not_not.mpr rfl), if_neg hnot, Checked.byteAt_ok (by omega),
      Checked.ok_bind, Checked.byteAt_ok (by omega), Checked.ok_bind,
      Checked.byteAt_ok (by omega), Checked.ok_bind, Checked.byteAt_ok (by omega),
      Checked.ok_bind, Checked.sub_ok (by omega), Checked.ok_bind, hloop, Checked.ok_bind,
      Checked.bytesAt_ok (by omega), Checked.bytesAt_ok (by rw [s.ssid.length_eq]; omega),
      Checked.bytesAt_ok (by omega)]
    unfold beaconOf
    dsimp only
    rw [hgathered.ssid, hgathered.channel, hgathered.security]
    have hssid : s.ssid.bytes.slice 0 s.ssidLength.toNat = s.ssid.bytes.take s.ssidLength.toNat :=
      rfl
    have hies : frame.slice 36 (frame.length - 36) = frame.drop 36 :=
      List.take_of_length_le (by rw [List.length_drop])
    cases hfound : s.foundSSID with
    | false =>
      rw [if_pos (.inl Bool.false_ne_true)]
      rfl
    | true =>
      have hempty : s.ssid.bytes.take s.ssidLength.toNat = [] ↔ s.ssidLength = 0 := by
        rw [← List.length_eq_zero_iff, List.length_take, s.ssid.length_eq, ← UInt8.toNat_inj,
          Nat.min_eq_left (by omega)]
        rfl
      rw [if_pos rfl, Option.getD_some]
      by_cases hzero : s.ssidLength = 0
      · rw [if_pos (.inr hzero), if_pos (hempty.mpr hzero)]
        rfl
      · rw [if_neg (fun h => h.elim (fun hf => hf rfl) hzero), if_neg (mt hempty.mp hzero),
          Checked.ok_bind, Checked.ok_bind, Checked.ok_bind, hssid, hies]
        rfl

theorem beacon_elements {frame : Bytes} (hlen : frame.length < 2 ^ 32 - 219)
    (hasWiFiManager : Bool) (rssi : Option Int8) :
    parseBeaconOrProbe hasWiFiManager frame rssi =
        .ok (if frame.length < 36 ∨ hasWiFiManager = false then none else beaconOf frame rssi) ∧
      (∃ rest, frame.drop 36 =
          InfoElement.encodeAll (InfoElement.leading (frame.drop 36)) ++ rest ∧
        InfoElement.parseOne rest = none) ∧
      ∀ es es' : List InfoElement, es.Perm es' → securityOf es = securityOf es' :=
  ⟨parseBeaconOrProbe_eq hlen hasWiFiManager rssi, InfoElement.leading_iff.mp rfl,
    fun _ _ h => securityOf_perm h⟩

/-- SSID, channel 6 and a WPA vendor element, an RSN element that is cut off. -/
def wpaBeacon : Bytes :=
  [0x80, 0x00] ++ Bytes.zeros 34 ++ [0, 2, 0x61, 0x62] ++ [3, 1, 6] ++
    [221, 4, 0x00, 0x50, 0xF2, 0x01] ++ [48, 20, 1, 0]

theorem beacon_elements_wpa :
    ∃ b, parseBeaconOrProbe true wpaBeacon none = .ok (some b) ∧ b.ssid = [0x61, 0x62] ∧
      b.channel = 6 ∧ b.security = .kSecurityTKIP ∧ b.rssi = -80 := by
  have hrun := (beacon_elements (show wpaBeacon.length < 2 ^ 32 - 219 by decide) true none).1
  have hnot : ¬ (wpaBeacon.length < 36 ∨ true = false) := by decide
  rw [if_neg hnot] at hrun
  exact ⟨_, hrun, rfl, rfl, rfl, rfl⟩

end Device
end Rtl8814au
