import Rtl8814au.Device.ControlRuns

/-!
# Device.ControlRequests

The requests as a caller lays them out in memory, and what becomes of them.

* `Request.encode` — the structures of the 802.11 interface, with anything in the fields that the
  driver does not look at.
* `request_handled` — a request that is laid out so is handled as that request.
-/

namespace Rtl8814au

/-- What no one looks at. -/
structure Unread where
  iName : Buf 32
  iGap : Buf 2
  imReason : Buf 2
  ikType : Buf 2 -- `ik_type` and `ik_pad`.
  ikFlags : UInt8
  ikCounters : Buf 20 -- From `ik_macaddr` to `ik_keydata`.
  ikMic : Buf 8
  jpPad : UInt8
  jpPad2 : Buf 3

namespace Request

def ioc : Request → Option Ioc
  | .ssid _ => some .ssid
  | .bssid _ => some .bssid
  | .mlme _ _ _ _ => some .mlme
  | .appie _ => some .appie
  | .wpaKey _ _ _ _ => some .wpaKey
  | .dropUnencrypted _ => some .dropUnencrypted
  | .privacy _ => some .privacy
  | .haikuJoinPsk _ _ _ _ _ => some .haikuJoin
  | .haikuJoin => some .haikuJoin
  | .other => none

/-- `i_val`. -/
def val : Request → Int
  | .appie _ => kAppieWpa
  | .dropUnencrypted v => v
  | .privacy v => v
  | _ => 0

/-- The fields of what `i_data` points to. -/
def fields (u : Unread) : Request → List Bytes
  | .ssid data => [data]
  | .bssid data => [data]
  | .mlme op macaddr ssidLen name =>
    [[op], [ssidLen], u.imReason.bytes, macaddr.bytes, name.bytes]
  | .appie data => [data]
  | .wpaKey keyix keylen macaddr keydata =>
    [u.ikType.bytes, Bytes.le 2 keyix.toNat, [keylen], [u.ikFlags], macaddr.bytes,
      u.ikCounters.bytes, keydata.bytes, u.ikMic.bytes]
  | .haikuJoinPsk target ssidLen name passphraseLen passphrase =>
    [target.bytes, [ssidLen], [u.jpPad], name.bytes, [passphraseLen], u.jpPad2.bytes,
      passphrase.bytes]
  | _ => []

def encode (u : Unread) (r : Request) : Bytes := (r.fields u).flatten

end Request

/-- The fields of `struct ieee80211req`. -/
def reqFields (u : Unread) (t : Ioc) (iVal : Int) (iLen iData : Nat) : List Bytes :=
  [u.iName.bytes, Bytes.le 2 t.code, Bytes.le 2 (toInt16 iVal), Bytes.le 2 iLen, u.iGap.bytes,
    Bytes.le 8 iData]

/-! ## Reading the structures -/

section

variable (u : Unread)

theorem mlmeRequest_encode (op : UInt8) (macaddr : Mac) (ssidLen : UInt8) (ssid : Buf 32) :
    mlmeRequest ((Request.mlme op macaddr ssidLen ssid).encode u) =
      .mlme op macaddr ssidLen ssid := by
  have hop : Bytes.at ((Request.mlme op macaddr ssidLen ssid).encode u) 0 = op :=
    Bytes.at_flatten (k := 0) rfl rfl
  have hlen : Bytes.at ((Request.mlme op macaddr ssidLen ssid).encode u) 1 = ssidLen :=
    Bytes.at_flatten (k := 1) rfl rfl
  have hmac : Bytes.slice ((Request.mlme op macaddr ssidLen ssid).encode u) 4 6 = macaddr.bytes :=
    Bytes.slice_flatten (k := 3) rfl (by simp [Request.fields]) macaddr.length_eq
  have hssid : Bytes.slice ((Request.mlme op macaddr ssidLen ssid).encode u) 10 32 = ssid.bytes :=
    Bytes.slice_flatten (k := 4) rfl (by simp [Request.fields]) ssid.length_eq
  rw [mlmeRequest, hop, hlen, hmac, hssid, Buf.ofBytes_bytes, Buf.ofBytes_bytes]

theorem keyRequest_encode (keyix : UInt16) (keylen : UInt8) (macaddr : Mac)
    (keydata : Crypto.Block) :
    keyRequest ((Request.wpaKey keyix keylen macaddr keydata).encode u) =
      .wpaKey keyix keylen macaddr keydata := by
  have hix : Bytes.slice ((Request.wpaKey keyix keylen macaddr keydata).encode u) 2 2 =
      Bytes.le 2 keyix.toNat :=
    Bytes.slice_flatten (k := 1) rfl (by simp [Request.fields]) (Bytes.length_le 2 _)
  have hlen : Bytes.at ((Request.wpaKey keyix keylen macaddr keydata).encode u) 4 = keylen :=
    Bytes.at_flatten (k := 2) rfl (by simp [Request.fields])
  have hmac : Bytes.slice ((Request.wpaKey keyix keylen macaddr keydata).encode u) 6 6 =
      macaddr.bytes :=
    Bytes.slice_flatten (k := 4) rfl (by simp [Request.fields]) macaddr.length_eq
  have hdata : Bytes.slice ((Request.wpaKey keyix keylen macaddr keydata).encode u) 32 16 =
      keydata.bytes :=
    Bytes.slice_flatten (k := 6) rfl (by simp [Request.fields]) keydata.length_eq
  have hsmall : keyix.toNat % 256 ^ 2 = keyix.toNat := Nat.mod_eq_of_lt keyix.toNat_lt
  rw [keyRequest, hix, hlen, hmac, hdata, Bytes.leNat_le, hsmall, UInt16.ofNat_toNat,
    Buf.ofBytes_bytes, Buf.ofBytes_bytes]

theorem joinRequest_encode (bssid : Mac) (ssidLen : UInt8) (ssid : Buf 32) (passphraseLen : UInt8)
    (passphrase : Buf 64) :
    joinRequest ((Request.haikuJoinPsk bssid ssidLen ssid passphraseLen passphrase).encode u) =
      .haikuJoinPsk bssid ssidLen ssid passphraseLen passphrase := by
  unfold joinRequest Request.encode
  have hbssid : Bytes.slice
      ((Request.haikuJoinPsk bssid ssidLen ssid passphraseLen passphrase).fields u).flatten 0 6 =
        bssid.bytes :=
    Bytes.slice_flatten (k := 0) rfl rfl bssid.length_eq
  have hlen : Bytes.at
      ((Request.haikuJoinPsk bssid ssidLen ssid passphraseLen passphrase).fields u).flatten 6 =
        ssidLen :=
    Bytes.at_flatten (k := 1) rfl (by simp [Request.fields])
  have hssid : Bytes.slice
      ((Request.haikuJoinPsk bssid ssidLen ssid passphraseLen passphrase).fields u).flatten 8 32 =
        ssid.bytes :=
    Bytes.slice_flatten (k := 3) rfl (by simp [Request.fields]) ssid.length_eq
  have hplen : Bytes.at
      ((Request.haikuJoinPsk bssid ssidLen ssid passphraseLen passphrase).fields u).flatten 40 =
        passphraseLen :=
    Bytes.at_flatten (k := 4) rfl (by simp [Request.fields])
  have hpass : Bytes.slice
      ((Request.haikuJoinPsk bssid ssidLen ssid passphraseLen passphrase).fields u).flatten 44 64 =
        passphrase.bytes :=
    Bytes.slice_flatten (k := 6) rfl (by simp [Request.fields]) passphrase.length_eq
  rw [hbssid, hlen, hssid, hplen, hpass, Buf.ofBytes_bytes, Buf.ofBytes_bytes, Buf.ofBytes_bytes]

end

section

variable {u : Unread} {t : Ioc} {iVal : Int} {iLen iData : Nat}

theorem length_reqFields : (reqFields u t iVal iLen iData).flatten.length = kReqSize := by
  simp [reqFields, kReqSize]

theorem code_lt (t : Ioc) : t.code < 0x10000 := by
  cases t <;> decide

theorem iType_reqFields : IReq.iType (reqFields u t iVal iLen iData).flatten = t.code := by
  have hfield : Bytes.slice (reqFields u t iVal iLen iData).flatten 32 2 = Bytes.le 2 t.code :=
    Bytes.slice_flatten (k := 1) rfl (by simp [reqFields]) (Bytes.length_le 2 _)
  rw [IReq.iType, hfield, Bytes.leNat_le]
  exact Nat.mod_eq_of_lt (code_lt t)

theorem iVal_reqFields (h : IsInt16 iVal) :
    IReq.iVal (reqFields u t iVal iLen iData).flatten = iVal := by
  have hfield : Bytes.slice (reqFields u t iVal iLen iData).flatten 34 2 =
      Bytes.le 2 (toInt16 iVal) :=
    Bytes.slice_flatten (k := 2) rfl (by simp [reqFields]) (Bytes.length_le 2 _)
  have hsmall : toInt16 iVal % 256 ^ 2 = toInt16 iVal := by
    unfold toInt16
    omega
  rw [IReq.iVal, hfield, Bytes.leNat_le, hsmall, int16_toInt16 h]

theorem iLen_reqFields (h : iLen < 0x10000) :
    IReq.iLen (reqFields u t iVal iLen iData).flatten = iLen := by
  have hfield : Bytes.slice (reqFields u t iVal iLen iData).flatten 36 2 = Bytes.le 2 iLen :=
    Bytes.slice_flatten (k := 3) rfl (by simp [reqFields]) (Bytes.length_le 2 _)
  rw [IReq.iLen, hfield, Bytes.leNat_le]
  exact Nat.mod_eq_of_lt h

theorem iData_reqFields (h : iData < 2 ^ 64) :
    IReq.iData (reqFields u t iVal iLen iData).flatten = iData := by
  have hfield : Bytes.slice (reqFields u t iVal iLen iData).flatten 40 8 = Bytes.le 8 iData :=
    Bytes.slice_flatten (k := 5) rfl (by simp [reqFields]) (Bytes.length_le 8 _)
  rw [IReq.iData, hfield, Bytes.leNat_le]
  exact Nat.mod_eq_of_lt h

end

/-! ## Carrying them out -/

/-- The request is in the caller's memory: the structure at `args`, and its data elsewhere. -/
structure Laid (m : UserMemory) (args iData : Nat) (u : Unread) (r : Request) (t : Ioc) : Prop where
  ioc : r.ioc = some t
  val : IsInt16 r.val
  size : (r.encode u).length < 0x10000
  address : 0 < iData ∧ iData < 2 ^ 64
  request : m.Holds args (reqFields u t r.val (r.encode u).length iData).flatten
  data : m.Holds iData (r.encode u)

namespace Console

open Dialogue UserIo UserMemory

section

variable {c : Console} {m m' : UserMemory} {iData : Nat} {data : Bytes} {env : Env} {r : CallReply}

theorem holds_front (h : m.Holds iData data) {n : Nat} (hn : n ≤ data.length) :
    m.Readable iData n ∧ m.bytesAt iData n = data.take n := by
  have hlen : (data.take n).length = n := by
    rw [List.length_take]
    omega
  have hfront : m.Holds iData (data.take n) := by
    intro i hi
    rw [hlen] at hi
    rw [h i (by omega)]
    simp only [Bytes.at, List.getD_eq_getElem?_getD, List.getElem?_take_of_lt hi]
  have hread := hfront.readable
  have hbytes := hfront.bytesAt_eq
  rw [hlen] at hread hbytes
  exact ⟨hread, hbytes⟩

/-- A structure that is there whole. -/
theorem runs_copyStruct {size : Nat} {f : Bytes → UserIo CallReply} (h : m.Holds iData data)
    (hsize : data.length = size) (haddr : 0 < iData) :
    Runs Serves (copyStruct size data.length iData >>= f) m r m' ↔ Runs Serves (f data) m r m' := by
  obtain ⟨hread, hbytes⟩ := holds_front h (Nat.le_refl _)
  subst hsize
  unfold copyStruct
  rw [Nat.min_self]
  split
  · show Runs Serves (copyIn iData data.length data.length >>= fun r =>
      f (r.1.pad data.length)) m r m' ↔ _
    rw [runs_copyIn hread]
    dsimp only
    rw [hbytes, List.take_length, Bytes.pad_of_le (Nat.le_refl _)]
  · rename_i hnone
    have hnil : data = [] := by
      rw [← List.length_eq_zero_iff]
      omega
    subst hnil
    exact Iff.rfl

theorem runs_setSsid (h : m.Holds iData data) :
    Runs Serves (c.setSsid data.length iData env) m r m' ↔
      r = c.handle (.ssid data) env ∧ m' = m := by
  obtain ⟨hread, hbytes⟩ := holds_front h (Nat.min_le_left data.length 32)
  have hsame :
      c.handle (.ssid (data.take (min data.length 32))) env = c.handle (.ssid data) env := by
    rw [Nat.min_comm, ← List.take_eq_take_min]
    unfold handle Device.set80211
    dsimp only
    rw [List.take_take, Nat.min_self]
    rfl
  unfold setSsid
  dsimp only
  split
  · rename_i hnone
    rw [hnone, List.take_zero] at hsame
    rw [← hsame]
    exact runs_done
  · rw [runs_copyIn hread]
    dsimp only
    rw [if_neg (by decide), hbytes, hsame]
    exact runs_done

theorem ofBytes_take {n : Nat} (h : n ≤ data.length) :
    Buf.ofBytes n (data.take n) = Buf.ofBytes n data := by
  have hlen : (data.take n).length = n := by
    rw [List.length_take]
    omega
  refine Buf.ext ?_
  unfold Buf.ofBytes
  dsimp only
  rw [Bytes.pad_of_le h, Bytes.pad_of_le (Nat.le_of_eq hlen.symm), List.take_take, Nat.min_self]

theorem runs_setBssid (h : m.Holds iData data) :
    Runs Serves (c.setBssid data.length iData env) m r m' ↔
      r = c.handle (.bssid data) env ∧ m' = m := by
  unfold setBssid
  split
  · rename_i hshort
    have hsame : c.handle (.bssid data) env = c.returns (.is .badValue) := by
      unfold handle Device.set80211
      dsimp only
      rw [if_pos hshort]
      rfl
    rw [hsame]
    exact runs_done
  · rename_i hlong
    obtain ⟨hread, hbytes⟩ := holds_front h (Nat.not_lt.mp hlong)
    have hlen : ¬ (data.take 6).length < 6 := by
      rw [List.length_take]
      omega
    have hsame : c.handle (.bssid (data.take 6)) env = c.handle (.bssid data) env := by
      unfold handle Device.set80211
      dsimp only
      rw [if_neg hlen, if_neg hlong, ofBytes_take (Nat.not_lt.mp hlong)]
      rfl
    rw [runs_copyIn hread]
    dsimp only
    rw [if_neg (by decide), hbytes, hsame]
    exact runs_done

theorem runs_setAppie (h : m.Holds iData data) :
    Runs Serves (c.setAppie kAppieWpa data.length iData env) m r m' ↔
      r = c.handle (.appie data) env ∧ m' = m := by
  unfold setAppie
  rw [if_neg (fun h => h rfl)]
  split
  · rename_i hnone
    rw [List.length_eq_zero_iff.mp hnone]
    exact runs_done
  split
  · rename_i hsome hlong
    have hsame : c.handle (.appie data) env = c.returns (.is .bufferOverflow) := by
      unfold handle Device.set80211 Device.appie
      dsimp only
      rw [if_neg hsome, if_pos hlong]
      rfl
    rw [hsame]
    exact runs_done
  · obtain ⟨hread, hbytes⟩ := holds_front h (Nat.le_refl data.length)
    rw [runs_copyIn hread]
    dsimp only
    rw [if_neg (by decide), hbytes, List.take_length]
    exact runs_done

theorem runs_setJoin (h : m.Holds iData data) (hsize : data.length = kJoinSize)
    (haddr : 0 < iData) :
    Runs Serves (c.setJoin data.length iData env) m r m' ↔
      r = c.handle (joinRequest data) env ∧ m' = m := by
  obtain ⟨hread, hbytes⟩ := holds_front h (Nat.le_refl data.length)
  unfold setJoin
  rw [if_pos ⟨hsize, Nat.pos_iff_ne_zero.mp haddr⟩, ← hsize, runs_copyIn hread]
  dsimp only
  rw [if_neg (by decide), hbytes, List.take_length]
  exact runs_done

/-- The parameters of a request are read as they were laid out. -/
theorem runs_setParameter {u : Unread} {request : Request} {t : Ioc} {e : CallEnv}
    (hioc : request.ioc = some t) (haddr : 0 < iData) (h : m.Holds iData (request.encode u)) :
    Runs Serves (c.setParameter (some t) request.val (request.encode u).length iData e) m r m' ↔
      r = c.handle request e.env ∧ m' = m := by
  cases request with
  | ssid data =>
    cases hioc
    rw [show (Request.ssid data).encode u = data from List.append_nil data] at h ⊢
    exact runs_setSsid h
  | bssid data =>
    cases hioc
    rw [show (Request.bssid data).encode u = data from List.append_nil data] at h ⊢
    exact runs_setBssid h
  | mlme op macaddr ssidLen ssid =>
    cases hioc
    refine (runs_copyStruct h (by simp [Request.encode, Request.fields, kMlmeSize]) haddr).trans ?_
    rw [mlmeRequest_encode]
    exact runs_done
  | appie data =>
    cases hioc
    rw [show (Request.appie data).encode u = data from List.append_nil data] at h ⊢
    exact runs_setAppie h
  | wpaKey keyix keylen macaddr keydata =>
    cases hioc
    refine (runs_copyStruct h (by simp [Request.encode, Request.fields, kKeySize]) haddr).trans ?_
    rw [keyRequest_encode]
    exact runs_done
  | dropUnencrypted v =>
    cases hioc
    exact runs_done
  | privacy v =>
    cases hioc
    exact runs_done
  | haikuJoinPsk bssid ssidLen ssid passphraseLen passphrase =>
    cases hioc
    refine (runs_setJoin h (by simp [Request.encode, Request.fields, kJoinSize]) haddr).trans ?_
    rw [joinRequest_encode]
  | haikuJoin =>
    cases hioc
    exact runs_done
  | other => cases hioc

/-- It is the step of the station for that request. -/
theorem step_handle (hremoved : c.device.fRemoved = false) (request : Request) (env : Env) :
    c.host.station.step (.control request) env =
      some (c.handle request env).console.host.station := by
  have hcontrol : c.device.control request env = c.device.set80211 request env :=
    if_neg (by rw [hremoved]; decide)
  show some (Station.mk (c.device.control request env).device _) = _
  rw [hcontrol]
  rfl

/-- A request that lies in the caller's memory is handled as that request, whatever stands in the
fields that are not looked at, and the memory is left alone. -/
theorem request_handled {u : Unread} {request : Request} {t : Ioc} {args length : Nat}
    (hremoved : c.device.fRemoved = false) (hlength : kReqSize ≤ length)
    (h : Laid m args iData u request t) (e : CallEnv) :
    (∀ r m', Runs Serves (c.control .siocS80211 args length e) m r m' ↔
      r = c.handle request e.env ∧ m' = m) ∧
    c.host.station.step (.control request) e.env =
      some (c.handle request e.env).console.host.station := by
  refine ⟨fun r m' => ?_, step_handle hremoved request e.env⟩
  have hlen : (reqFields u t request.val (request.encode u).length iData).flatten.length =
      kReqSize := length_reqFields
  have hread := h.request.readable
  have hbytes := h.request.bytesAt_eq
  rw [hlen] at hread hbytes
  unfold control set80211
  rw [if_neg (by rw [hremoved]; decide)]
  dsimp only
  rw [if_neg (Nat.not_lt.mpr hlength), runs_copyIn hread]
  dsimp only
  rw [if_neg (by decide), hbytes, iType_reqFields, iVal_reqFields h.val, iLen_reqFields h.size,
    iData_reqFields h.address.2, Ioc.ofCode_code]
  exact runs_setParameter h.ioc h.address.1 h.data

end

def sampleUnread : Unread where
  iName := Buf.zero 32
  iGap := Buf.zero 2
  imReason := Buf.zero 2
  ikType := Buf.zero 2
  ikFlags := 0
  ikCounters := Buf.zero 20
  ikMic := Buf.zero 8
  jpPad := 0
  jpPad2 := Buf.zero 3

/-- `IEEE80211_IOC_BSSID`, with its data behind it. -/
def sampleRequest : Bytes :=
  (reqFields sampleUnread .bssid 0 6 48).flatten ++ System.sampleBssid.bytes

theorem laid_bssid :
    Laid (sampleMemory sampleRequest) 0 48 sampleUnread (.bssid System.sampleBssid.bytes)
      .bssid where
  ioc := rfl
  val := ⟨by decide, by decide⟩
  size := by decide
  address := ⟨by decide, by decide⟩
  request := by
    show ∀ i < 48, (sampleMemory sampleRequest).byte (0 + i) = _
    decide
  data := by
    show ∀ i < 6, (sampleMemory sampleRequest).byte (48 + i) = _
    decide

theorem request_handled_bssid :
    (∀ r m', Runs Serves ((init System.sampleMac).control .siocS80211 0 48 sampleCall)
        (sampleMemory sampleRequest) r m' ↔
      r = (init System.sampleMac).handle (.bssid System.sampleBssid.bytes) System.sampleEnv ∧
        m' = sampleMemory sampleRequest) ∧
    (init System.sampleMac).host.station.step (.control (.bssid System.sampleBssid.bytes))
        System.sampleEnv =
      some ((init System.sampleMac).handle (.bssid System.sampleBssid.bytes)
        System.sampleEnv).console.host.station :=
  request_handled rfl (by decide) laid_bssid sampleCall

end Console
end Rtl8814au
