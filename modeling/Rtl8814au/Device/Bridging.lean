import Rtl8814au.Device.Decapsulation
import Rtl8814au.Device.Delivery
import Rtl8814au.Device.RxFifo

/-!
# Device.Bridging

A packet from `Write` on one station, through the access point, to `Read` on another.

* `Sends`: the two frames `Write` makes of a packet; `write_sends`.
* `receive_write`: the access point finds the packet in them.
* `rxDecap_forward`: the station finds it in the frame the access point makes of it.
* `ethernet_roundTrip`: the packet that `Read` delivers is the one written.
-/

namespace Rtl8814au
namespace Device

open Crypto
open Spec (AccessPoint DataHeader Msdu OnAir)

/-! ## Write -/

/-- Data to the distribution system. -/
def writeHeader (bssid : Mac) (m : Msdu) : DataHeader where
  toDs := true
  fromDs := false
  moreFragments := false
  retry := false
  powerManagement := false
  moreData := false
  isProtected := false
  duration := Buf.zero 2
  address1 := bssid
  address2 := m.source
  address3 := m.destination
  sequence := Buf.zero 2
  qosControl := none

theorem dataHeader_eq (bssid : Mac) (m : Msdu) :
    dataHeader bssid.bytes m.source.bytes m.destination.bytes = (writeHeader bssid m).encode := by
  have hflags : (writeHeader bssid m).flags = 0x01 := by
    simp only [DataHeader.flags, writeHeader]
    decide
  rw [DataHeader.encode, hflags]
  simp only [dataHeader, List.append_assoc]
  rfl

/-- The ethertype as the two bytes it was read from. -/
theorem etherType_bytes (x y : UInt8) :
    (((x.toUInt16 <<< 8) ||| y.toUInt16) >>> 8).toUInt8 = x ∧
      ((x.toUInt16 <<< 8) ||| y.toUInt16).toUInt8 = y := by
  have hx := x.toNat_lt
  have hy := y.toNat_lt
  have hnat : ((x.toUInt16 <<< 8) ||| y.toUInt16).toNat = x.toNat * 256 + y.toNat := by
    have hor := Nat.shiftLeft_add_eq_or_of_lt (i := 8) hy x.toNat
    simp only [UInt16.toNat_or, UInt16.toNat_shiftLeft, UInt8.toNat_toUInt16, UInt16.reduceToNat]
    have hhigh : x.toNat <<< 8 < 2 ^ 16 := by
      rw [Nat.shiftLeft_eq]
      omega
    rw [Nat.mod_eq_of_lt (show 8 < 16 by decide), Nat.mod_eq_of_lt hhigh, ← hor,
      Nat.shiftLeft_eq]
  constructor
  · apply UInt8.toNat_inj.mp
    rw [UInt16.toNat_toUInt8, UInt16.toNat_shiftRight, hnat, Nat.shiftRight_eq_div_pow]
    show (x.toNat * 256 + y.toNat) / 2 ^ 8 % 2 ^ 8 = x.toNat
    omega
  · apply UInt8.toNat_inj.mp
    rw [UInt16.toNat_toUInt8, hnat]
    omega

theorem llcSnap_eq {b : Bytes} (h : 14 ≤ b.length) :
    llcSnap (etherTypeAt b 12) ++ b.slice 14 (b.length - 14) = (Msdu.ofEthernet b).snap := by
  obtain ⟨hhigh, hlow⟩ := etherType_bytes (b.at 12) (b.at 13)
  have htype : (Msdu.ofEthernet b).etherType.bytes = [b.at 12, b.at 13] :=
    (Buf.bytes_ofBytes (Bytes.length_slice (by omega))).trans (Bytes.slice_two (by omega))
  have hpayload : b.slice 14 (b.length - 14) = (Msdu.ofEthernet b).payload :=
    List.take_of_length_le (by rw [List.length_drop])
  rw [hpayload, Msdu.snap, htype]
  unfold llcSnap etherTypeAt
  rw [hhigh, hlow]
  rfl

theorem payloadLen_write {b : Bytes} (hlen : b.length < 2 ^ 32) (h : 14 ≤ b.length) :
    (UInt32.ofNat b.length - 14).toNat = b.length - 14 := by
  rw [UInt32.toNat_sub, UInt32.toNat_ofNat']
  show (2 ^ 32 - 14 + b.length % 2 ^ 32) % 2 ^ 32 = _
  omega

/-- The frame of `Write` before it is encrypted. -/
theorem plainFrame_eq (bssid : Mac) {b : Bytes} (hlen : b.length < 2 ^ 32) (h : 14 ≤ b.length) :
    dataHeader bssid.bytes (b.slice 6 6) (b.slice 0 6) ++ llcSnap (etherTypeAt b 12) ++
        b.slice 14 (UInt32.ofNat b.length - 14).toNat =
      (writeHeader bssid (Msdu.ofEthernet b)).encode ++ (Msdu.ofEthernet b).snap := by
  have hsource : b.slice 6 6 = (Msdu.ofEthernet b).source.bytes :=
    (Buf.bytes_ofBytes (Bytes.length_slice (by omega))).symm
  have hdestination : b.slice 0 6 = (Msdu.ofEthernet b).destination.bytes :=
    (Buf.bytes_ofBytes (Bytes.length_slice (by omega))).symm
  rw [payloadLen_write hlen h, List.append_assoc, llcSnap_eq h, hsource, hdestination,
    dataHeader_eq]

/-- A frame of `Write` with packet `m`. The IV and the MIC take 16 bytes of the buffer. -/
inductive Sends (d : Device) (m : Msdu) : Bytes → Prop where
  | clear (hsize : m.payload.length ≤ 1600) :
      Sends d m ((writeHeader d.fJoinBssid m).encode ++ m.snap)
  | encrypted (h : d.fCcmpEnabled = true) (hsize : m.payload.length ≤ 1584) :
      Sends d m ((protectHeader (writeHeader d.fJoinBssid m)).encode ++
        Spec.ccmpEncap d.tk (protectHeader (writeHeader d.fJoinBssid m)) (pnOf d.fTxPnPairwise) 0
          m.snap)

theorem write_sends {d : Device} {buffer frame : Bytes} {etherType : UInt16} {env : Env}
    (hlen : buffer.length < 2 ^ 32)
    (h : .transmitData etherType frame ∈ (d.write buffer env).actions) :
    14 ≤ buffer.length ∧ etherType = etherTypeAt buffer 12 ∧
      Sends d (Msdu.ofEthernet buffer) frame := by
  unfold write at h
  split at h
  · cases h
  split at h
  · cases h
  split at h
  · cases h
  rename_i h14
  rw [Nat.not_lt] at h14
  split at h
  · cases h
  dsimp only at h
  rw [plainFrame_eq d.fJoinBssid hlen h14] at h
  have hn := payloadLen_write hlen h14
  have hpayload : (Msdu.ofEthernet buffer).payload.length = buffer.length - 14 := List.length_drop
  have hsealed := ccmpEncrypt_encode d.tk (writeHeader d.fJoinBssid (Msdu.ofEthernet buffer))
    (Msdu.ofEthernet buffer).snap d.fTxPnPairwise
  split at h
  · cases h
  rename_i hsize
  rw [gt_iff_lt, UInt32.lt_iff_toNat_lt, hn] at hsize
  have hsize : buffer.length - 14 ≤ 1600 := Nat.not_lt.mp hsize
  split at h
  · rename_i hccmp
    split at h
    · cases h
    rename_i hroom
    rw [gt_iff_lt, UInt32.lt_iff_toNat_lt, UInt32.toNat_add, UInt32.toNat_add, hn] at hroom
    simp only [UInt32.reduceToNat] at hroom
    split at h
    · cases h
    split at h
    · simp at h
    · simp only [List.mem_cons, reduceCtorEq, List.not_mem_nil, or_false, false_or,
        Action.transmitData.injEq] at h
      obtain ⟨rfl, rfl⟩ := h
      refine ⟨h14, rfl, ?_⟩
      have hlength : (writeHeader d.fJoinBssid (Msdu.ofEthernet buffer)).length = 24 := rfl
      rw [hlength] at hsealed
      rw [hsealed]
      exact .encrypted hccmp.1 (by omega)
  · simp only [List.mem_singleton, Action.transmitData.injEq] at h
    obtain ⟨rfl, rfl⟩ := h
    exact ⟨h14, rfl, .clear (by omega)⟩

/-! ## The access point -/

/-- The access point the station is associated with. -/
structure Serves (a : AccessPoint) (d : Device) (source : Mac) : Prop where
  bssid : a.bssid = d.fJoinBssid
  tk : d.fCcmpEnabled = true → a.tk source = d.tk

theorem receive_write {a : AccessPoint} {d : Device} {m : Msdu} {frame : Bytes}
    (ha : Serves a d m.source) (hs : d.Sends m frame) (t : OnAir) :
    a.receive (t.frame frame) = some m := by
  have hzero : (Buf.zero 2).bytes.at 0 &&& 0x0F = 0 := rfl
  cases hs with
  | clear hsize =>
    rw [t.frame_encode rfl]
    exact AccessPoint.receive_clear ⟨rfl, rfl, ha.bssid.symm, rfl, rfl⟩ rfl
  | encrypted hccmp hsize =>
    have hair := Spec.ccmpEncap_congr
      (t.aad_header (h := protectHeader (writeHeader d.fJoinBssid m)) hzero) rfl rfl d.tk
      (pnOf d.fTxPnPairwise) 0 m.snap
    rw [t.frame_encode rfl, ← hair, ← ha.tk hccmp]
    exact AccessPoint.receive_sealed ⟨rfl, rfl, ha.bssid.symm, rfl, rfl⟩ rfl _ _

/-! ## Reception -/

/-- Whatever the access point chooses. -/
theorem rxDecap_forward {a : AccessPoint} {d : Device} {m : Msdu} (c : AccessPoint.Forwarding)
    (hpayload : m.payload.length ≤ 1600) (hk : c.protection.isSome = true → HoldsKeys a m d) :
    ∃ r, d.rxDecap (a.forward c m) = some r ∧ Yields r m := by
  unfold AccessPoint.forward
  cases hc : c.protection with
  | none =>
    exact d.rxDecap_clear_yields hpayload (by rw [AccessPoint.header, hc]; rfl) rfl rfl
  | some protection =>
    obtain ⟨pn, keyId⟩ := protection
    rw [hc] at hk
    exact rxDecap_sealed_yields (hk rfl) hpayload (by rw [AccessPoint.header, hc]; rfl) rfl rfl pn
      keyId

/-! ## The ring -/

/-- The entry has the packet in it. -/
theorem ringEntry_yields {r : Decap} {m : Msdu} (h : Yields r m) (hpayload : m.payload.length ≤ 1600)
    (old : RxRingEntry) :
    (r.ringEntry old).length = m.ethernet.length ∧
      (r.ringEntry old).data.bytes.take (r.ringEntry old).length = m.ethernet := by
  have hlen : (r.ringEntry old).length = m.ethernet.length := h.ethLen.trans m.length_ethernet.symm
  have hbound : r.hdrLen.toNat + 6 + 2 ≤ r.frameData.length := by
    have htwo := congrArg List.length h.etherType
    rw [Bytes.slice, List.length_take, List.length_drop, Buf.length_eq] at htwo
    omega
  have htype : [r.frameData.at (r.hdrLen.toNat + 6), r.frameData.at (r.hdrLen.toNat + 7)] =
      m.etherType.bytes := (Bytes.slice_two hbound).symm.trans h.etherType
  have hdata : r.frameData.slice 4 6 ++ r.frameData.slice 16 6 ++
      [r.frameData.at (r.hdrLen.toNat + 6), r.frameData.at (r.hdrLen.toNat + 7)] ++ r.payload =
        m.ethernet := by
    rw [htype, h.destination, h.source, h.payload, Msdu.ethernet]
    simp only [List.append_assoc]
  refine ⟨hlen, ?_⟩
  have hfits : 0 + m.ethernet.length ≤ 2400 := by
    rw [m.length_ethernet]
    omega
  have htake := old.data.take_copyAt hfits
  rw [Nat.zero_add, List.take_zero, List.nil_append] at htake
  rw [hlen]
  show (old.data.copyAt 0 _).bytes.take m.ethernet.length = m.ethernet
  rw [hdata]
  exact htake

theorem ringEntryOf_forward {a : AccessPoint} {d : Device} {m : Msdu} (c : AccessPoint.Forwarding)
    (hpayload : m.payload.length ≤ 1600) (hk : c.protection.isSome = true → HoldsKeys a m d)
    (hring : ¬ (etherTypeAt m.etherType.bytes 0 = etherTypeEapol ∧ d.fPmkValid = true)) :
    ∃ entry, RxRing.ringEntryOf d (a.forward c m) = some entry ∧
      entry.length = m.ethernet.length ∧ entry.data.bytes.take entry.length = m.ethernet := by
  obtain ⟨r, hr, hy⟩ := rxDecap_forward c hpayload hk
  have hfits : ¬ r.ethLen > UInt32.ofNat kRxRingFrameMaxSize := by
    rw [gt_iff_lt, UInt32.lt_iff_toNat_lt, hy.ethLen]
    show ¬ 2400 < 14 + m.payload.length
    omega
  have hsink : d.rxSink r = .ring := by
    unfold rxSink
    rw [etherType_yields hy, if_neg hring, if_neg hfits]
  have hmax : 14 + r.payloadLen.toNat ≤ kRxRingFrameMaxSize := by
    rw [hy.payloadLen]
    show 14 + m.payload.length ≤ 2400
    omega
  obtain ⟨hlen, hdata⟩ := ringEntry_yields hy hpayload (d.fRxRing d.fRxRingHead)
  refine ⟨r.ringEntry (d.fRxRing d.fRxRingHead), ?_, hlen, hdata⟩
  unfold RxRing.ringEntryOf
  rw [hr]
  exact if_pos ⟨hsink, hmax⟩

/-! ## The way of a packet -/

theorem Sends.sizes {d : Device} {m : Msdu} {frame : Bytes} (h : d.Sends m frame) :
    m.payload.length ≤ 1600 ∧ (isProtected frame = true → m.payload.length ≤ 1584) := by
  cases h with
  | clear hsize =>
    refine ⟨hsize, fun hprot => ?_⟩
    rw [isProtected_encode] at hprot
    cases hprot
  | encrypted hccmp hsize => exact ⟨by omega, fun _ => hsize⟩

/-- The frame comes in at a station that is there, has the keys it needs and does not keep the
packet for its own handshake. -/
structure Hears (a : AccessPoint) (c : AccessPoint.Forwarding) (m : Msdu) (d : Device) : Prop where
  present : d.fRemoved = false
  keys : c.protection.isSome = true → HoldsKeys a m d
  notDiverted : ¬ (etherTypeAt m.etherType.bytes 0 = etherTypeEapol ∧ d.fPmkValid = true)

theorem delivers_forward {a : AccessPoint} {c : AccessPoint.Forwarding} {m : Msdu} {s : System}
    (horder : RxRing.InOrder s.device) (hpayload : m.payload.length ≤ 1600)
    (h : Hears a c m s.device) (env : Env) :
    ∃ s', System.next s (.rxFrame (a.forward c m) false, env) = some s' ∧
      RxRing.Delivers s'.device m.ethernet := by
  obtain ⟨entry, hentry, hlength, hdata⟩ := ringEntryOf_forward c hpayload h.keys h.notDiverted
  obtain ⟨hlong, hshort⟩ := a.length_forward c m
  have htype : frameType (a.forward c m) = 2 := frameType_encode _ _
  have h24 : ¬ UInt32.ofNat (a.forward c m).length < 24 := by
    rw [UInt32.lt_iff_toNat_lt, UInt32.toNat_ofNat', Nat.mod_eq_of_lt (by omega)]
    show ¬ (a.forward c m).length < 24
    omega
  have hstep : s.device.rxFrameReceived (a.forward c m) false env =
      some (s.device.enqueue entry, [.enqueue (a.forward c m) entry]) := by
    unfold rxFrameReceived
    rw [if_neg Bool.false_ne_true, if_neg h24, htype, if_neg (by decide), if_neg (not_not.mpr rfl)]
    exact RxRing.rxData_ringEntryOf hentry
  refine ⟨⟨s.device.enqueue entry, s.log ++ [.enqueue (a.forward c m) entry]⟩, ?_, ?_⟩
  · simp only [System.next, step, hstep, Option.map_some]
  · have hdelivers := RxRing.delivers_enqueue horder h.present (RxRing.length_ringEntryOf hentry)
    rw [hdata] at hdelivers
    exact hdelivers

/-- Every packet that `Write` sends comes out of `Read` as it was, by way of the access point, under
every choice the access point has and in every state of the receiving station. -/
theorem ethernet_roundTrip {d : Device} {buffer frame : Bytes} {etherType : UInt16} {env : Env}
    {a : AccessPoint} (hlen : buffer.length < 2 ^ 32)
    (hsent : .transmitData etherType frame ∈ (d.write buffer env).actions)
    (ha : Serves a d (Msdu.ofEthernet buffer).source) :
    (14 ≤ buffer.length ∧ buffer.length ≤ 1614 ∧
        (isProtected frame = true → buffer.length ≤ 1598)) ∧
      ∀ t : OnAir, ∃ m, a.receive (t.frame frame) = some m ∧ m.ethernet = buffer ∧
        ∀ (c : AccessPoint.Forwarding) (mac : Mac) (es : List (Event × Env)) (s : System)
          (env : Env), Lts.run System.next (.init mac) es = some s → Hears a c m s.device →
          ∃ s', System.next s (.rxFrame (a.forward c m) false, env) = some s' ∧
            RxRing.Delivers s'.device buffer := by
  obtain ⟨h14, -, hs⟩ := write_sends hlen hsent
  obtain ⟨hsize, hroom⟩ := hs.sizes
  have hpayload : (Msdu.ofEthernet buffer).payload.length = buffer.length - 14 := List.length_drop
  have hpacket := Msdu.ethernet_ofEthernet h14
  refine ⟨⟨h14, by omega, fun hprot => by have := hroom hprot; omega⟩, fun t => ?_⟩
  refine ⟨Msdu.ofEthernet buffer, receive_write ha hs t, hpacket, ?_⟩
  intro c mac es s env hr hhears
  obtain ⟨s', hnext, hdelivers⟩ :=
    delivers_forward (RxRing.inOrder_run hr) hsize hhears env
  rw [hpacket] at hdelivers
  exact ⟨s', hnext, hdelivers⟩

/-- An associated station with a pairwise key. -/
def keyedSender : Device :=
  { Device.init (Buf.ofBytes 6 [2, 0, 0, 0, 0, 3]) with
    fJoinState := .kJoinConnected, fJoinBssid := System.sampleBssid, fCcmpEnabled := true,
    fPtkValid := true }

def samplePacket : Bytes :=
  System.sampleMac.bytes ++ [2, 0, 0, 0, 0, 3] ++ [0x08, 0x00] ++ [1, 2, 3, 4]

def bridgingAp : AccessPoint where
  bssid := System.sampleBssid
  tk := fun station => if station = System.sampleMac then System.sampleTk else Buf.zero 16
  gtk := Buf.zero 16

/-- QoS data under CCMP, sent again. -/
def sealedForwarding : AccessPoint.Forwarding where
  retry := true
  powerManagement := false
  moreData := false
  duration := Buf.ofBytes 2 [0x3A]
  sequence := Buf.ofBytes 2 [0x10]
  qosControl := some (Buf.ofBytes 2 [6])
  protection := some (Buf.ofBytes 6 [0, 0, 0, 0, 0, 9], 0)

def sampleOnAir : OnAir where
  retry := false
  duration := Buf.ofBytes 2 [0x30]
  sequence := Buf.ofBytes 2 [0x50, 1]

/-- To a station that has its keys from a supplicant. -/
theorem ethernet_roundTrip_sealed : ∃ frame m s s',
    .transmitData 0x0800 frame ∈ (keyedSender.write samplePacket System.sampleEnv).actions ∧
      bridgingAp.receive (sampleOnAir.frame frame) = some m ∧
      Lts.run System.next (.init System.sampleMac) [System.samplePairwise, System.sampleGroup] =
        some s ∧
      System.next s (.rxFrame (bridgingAp.forward sealedForwarding m) false, System.sampleEnv) =
        some s' ∧ RxRing.Delivers s'.device samplePacket := by
  have hrun : (Lts.run System.next (.init System.sampleMac)
      [System.samplePairwise, System.sampleGroup]).map (fun s => (s.device.fRemoved,
        s.device.fCcmpEnabled, s.device.fPtkValid, s.device.tk, s.device.fPmkValid)) =
      some (false, true, true, System.sampleTk, false) := by decide +kernel
  obtain ⟨s, hr, hfields⟩ := Option.map_eq_some_iff.mp hrun
  simp only [Prod.mk.injEq] at hfields
  obtain ⟨hremoved, hccmp, hptk, htk, hpmk⟩ := hfields
  have hsent : ∃ frame, .transmitData 0x0800 frame ∈
      (keyedSender.write samplePacket System.sampleEnv).actions :=
    ⟨_, List.mem_cons_of_mem _ List.mem_cons_self⟩
  obtain ⟨frame, hsent⟩ := hsent
  have hserves : Serves bridgingAp keyedSender (Msdu.ofEthernet samplePacket).source :=
    ⟨rfl, fun _ => by decide⟩
  obtain ⟨-, hway⟩ := ethernet_roundTrip (by decide) hsent hserves
  obtain ⟨m, hreceive, -, hforward⟩ := hway sampleOnAir
  have hknown := receive_write hserves (write_sends (by decide) hsent).2.2 sampleOnAir
  rw [hknown] at hreceive
  obtain rfl := Option.some.inj hreceive
  have hhears : Hears bridgingAp sealedForwarding (Msdu.ofEthernet samplePacket) s.device := by
    refine ⟨hremoved, fun _ => ⟨hccmp, fun hg => absurd hg (by decide), fun _ => ⟨hptk, ?_⟩⟩, ?_⟩
    · rw [htk]
      decide
    · rw [hpmk]
      exact fun h => Bool.false_ne_true h.2
  obtain ⟨s', hnext, hdelivers⟩ := hforward sealedForwarding _ _ s System.sampleEnv hr hhears
  exact ⟨frame, _, s, s', hsent, hknown, hr, hnext, hdelivers⟩

end Device
end Rtl8814au
