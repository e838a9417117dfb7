import Rtl8814au.Device.ControlBounds
import Rtl8814au.Device.KeySafety

/-!
# Device.ControlRuns

Calls of `Control` among the other operations of the driver, in any order.

* `After`, `Leaves` — what one operation may leave different, and which settings it makes.
* `Steps`           — the runs, with the settings they have made.
* `calls_inside`, `setting_readback` — what the memory of a caller has to do with it.
-/

namespace Rtl8814au

/-- The parameters that are kept as they are set. -/
inductive Setting where
  | roaming
  | privacy
  | wpa
  | authMode
  | dropUnencrypted
deriving DecidableEq

def Setting.ioc : Setting → Ioc
  | roaming => .roaming
  | privacy => .privacy
  | wpa => .wpa
  | authMode => .authMode
  | dropUnencrypted => .dropUnencrypted

def Setting.ofIoc : Ioc → Option Setting
  | .roaming => some roaming
  | .privacy => some privacy
  | .wpa => some wpa
  | .authMode => some authMode
  | .dropUnencrypted => some dropUnencrypted
  | _ => none

/-- What the settings are after one of them has been given a value. -/
def Setting.put (a : Option (Setting × Int)) (values : Setting → Int) (s : Setting) : Int :=
  match a with
  | some (t, v) => if s = t then v else values s
  | none => values s

namespace Device

structure KeepsSettings (d d' : Device) : Prop where
  privacy : d'.fPrivacy = d.fPrivacy
  dropUnencrypted : d'.fDropUnencrypted = d.fDropUnencrypted

theorem KeepsSettings.refl (d : Device) : KeepsSettings d d := ⟨rfl, rfl⟩

theorem keepsSettings_doJoin (d : Device) (bssid : Mac) (ssid : Bytes) (ssidLen : Nat) (env : Env) :
    KeepsSettings d (d.doJoin bssid ssid ssidLen env).device := by
  rw [doJoin_eq]
  cases joinTarget bssid env with
  | none => exact ⟨rfl, rfl⟩
  | some target => exact ⟨rfl, rfl⟩

theorem keepsSettings_wpaKey (d : Device) (keyix : UInt16) (keylen : UInt8) (macaddr : Mac)
    (keydata : Crypto.Block) (env : Env) :
    KeepsSettings d (d.wpaKey keyix keylen macaddr keydata env).device := by
  have hheld : KeepsSettings d (d.holdKey keyix macaddr keydata) := by
    obtain ⟨tk, tkValid, bssid, gtk, gtkId, gtkValid, heq⟩ := d.holdKey_device keyix macaddr keydata
    rw [heq]
    exact ⟨rfl, rfl⟩
  unfold wpaKey
  split
  · exact .refl d
  dsimp only
  split
  · exact hheld
  split
  · exact hheld
  · exact ⟨hheld.privacy, hheld.dropUnencrypted⟩

theorem keepsSettings_haikuJoinPsk (d : Device) (bssid : Mac) (ssidLen : UInt8) (ssid : Buf 32)
    (passphraseLen : UInt8) (passphrase : Buf 64) (env : Env) :
    KeepsSettings d (d.haikuJoinPsk bssid ssidLen ssid passphraseLen passphrase env).device := by
  unfold haikuJoinPsk
  split
  · exact .refl d
  have hjoin := keepsSettings_doJoin (d.withPassphrase bssid ssidLen ssid passphraseLen passphrase)
    (d.withPassphrase bssid ssidLen ssid passphraseLen passphrase).fJoinBssid
    (d.withPassphrase bssid ssidLen ssid passphraseLen passphrase).fJoinSsid.bytes
    (d.withPassphrase bssid ssidLen ssid passphraseLen passphrase).fJoinSsidLength env
  obtain ⟨wpaIe, wpaIeLength, heq⟩ :=
    d.withPassphrase_device bssid ssidLen ssid passphraseLen passphrase
  have hset : KeepsSettings d (d.withPassphrase bssid ssidLen ssid passphraseLen passphrase) := by
    rw [heq]
    exact ⟨rfl, rfl⟩
  exact ⟨hjoin.privacy.trans hset.privacy, hjoin.dropUnencrypted.trans hset.dropUnencrypted⟩

/-- A request for something else. -/
theorem keepsSettings_set80211 {d : Device} {request : Request} (env : Env)
    (hprivacy : ∀ v, request ≠ .privacy v) (hdrop : ∀ v, request ≠ .dropUnencrypted v) :
    KeepsSettings d (d.set80211 request env).device := by
  unfold set80211
  cases request with
  | ssid data => exact ⟨rfl, rfl⟩
  | bssid data =>
    dsimp only
    split
    · exact .refl d
    · exact ⟨rfl, rfl⟩
  | mlme op macaddr ssidLen ssid =>
    dsimp only [mlme]
    split
    · exact d.keepsSettings_doJoin _ _ _ env
    split
    · unfold disconnectRequest
      split
      · exact .refl d
      · exact ⟨rfl, rfl⟩
    · exact .refl d
  | appie data =>
    dsimp only [appie]
    split
    · exact ⟨rfl, rfl⟩
    split
    · exact .refl d
    · exact ⟨rfl, rfl⟩
  | wpaKey keyix keylen macaddr keydata => exact d.keepsSettings_wpaKey _ _ _ _ env
  | dropUnencrypted val => exact absurd rfl (hdrop val)
  | privacy val => exact absurd rfl (hprivacy val)
  | haikuJoinPsk bssid ssidLen ssid passphraseLen passphrase =>
    exact d.keepsSettings_haikuJoinPsk _ _ _ _ _ env
  | haikuJoin =>
    dsimp only [haikuJoin]
    split
    · exact .refl d
    · exact d.keepsSettings_doJoin _ _ _ env
  | other => exact .refl d

/-- The other operations set nothing. -/
theorem keepsSettings_step {d : Device} {e : Event} {env : Env} {out : Device × List Action}
    (he : ∀ request, e ≠ .control request) (hstep : d.step e env = some out) :
    KeepsSettings d out.1 := by
  cases step_cases hstep with
  | dataPath => exact ⟨rfl, rfl⟩
  | rxFrame frame isC2H hc hrx =>
    cases hrx with
    | ring r hd hr hs =>
      obtain ⟨ring, head, tail, heq⟩ := d.enqueue_device (r.ringEntry (d.fRxRing d.fRxRingHead))
      rw [heq]
      exact ⟨rfl, rfl⟩
    | _ => exact ⟨rfl, rfl⟩
  | eapolWorker hworker =>
    obtain ⟨snonce, ptk, ptkValid, heq⟩ :=
      d.takeInbox.keyedM1_device d.inboxPayload d.fEapolInbox.senderMac env
    cases hworker with
    | unanswered hw hc hpmk actions =>
      rw [heq]
      exact ⟨rfl, rfl⟩
    | answered hw hc hpmk actions =>
      rw [heq]
      exact ⟨rfl, rfl⟩
    | _ => exact ⟨rfl, rfl⟩
  | control request hcontrol => exact absurd rfl (he request)

end Device

namespace Console

open Dialogue UserIo UserMemory

def setting (c : Console) : Setting → Int
  | .roaming => c.fRoaming
  | .privacy => c.device.fPrivacy
  | .wpa => c.fWpaMode
  | .authMode => c.fAuthMode
  | .dropUnencrypted => c.device.fDropUnencrypted

/-- The setting that a call makes, and its value. -/
def assigned (c : Console) (op : ControlOp) (args length : Nat) (m : UserMemory) :
    Option (Setting × Int) :=
  if c.device.fRemoved = false ∧ op = .siocS80211 ∧ kReqSize ≤ length ∧
      m.Readable args kReqSize then
    ((Ioc.ofCode (IReq.iType (m.bytesAt args kReqSize))).bind Setting.ofIoc).map fun s =>
      (s, IReq.iVal (m.bytesAt args kReqSize))
  else none

/-- What a call leaves behind, as far as its later answers depend on it. -/
structure After (c : Console) (a : Option (Setting × Int)) (c' : Console) : Prop where
  setting : c'.setting = Setting.put a c.setting
  ssidLength : c.device.fJoinSsidLength ≤ 32 → c'.device.fJoinSsidLength ≤ 32

theorem After.refl (c : Console) : After c none c := ⟨rfl, id⟩

theorem after_device {c c' : Console} (hown : c'.fRoaming = c.fRoaming ∧ c'.fWpaMode = c.fWpaMode ∧
    c'.fAuthMode = c.fAuthMode) (hkeeps : Device.KeepsSettings c.device c'.device)
    (hssid : c.device.fJoinSsidLength ≤ 32 → c'.device.fJoinSsidLength ≤ 32) :
    After c none c' := by
  refine ⟨funext fun s => ?_, hssid⟩
  cases s with
  | roaming => exact hown.1
  | privacy => exact hkeeps.privacy
  | wpa => exact hown.2.1
  | authMode => exact hown.2.2
  | dropUnencrypted => exact hkeeps.dropUnencrypted

theorem ssidLength_handle {c : Console} (hremoved : c.device.fRemoved = false) (request : Request)
    (env : Env) (h : c.device.fJoinSsidLength ≤ 32) :
    (c.handle request env).console.device.fJoinSsidLength ≤ 32 := by
  have hcontrol := Device.ssidLength_control request env h
  unfold Device.control at hcontrol
  rwa [if_neg (by rw [hremoved]; decide)] at hcontrol

/-- A request that makes no setting. -/
theorem after_handle {c : Console} (hremoved : c.device.fRemoved = false) {request : Request}
    (env : Env) (hprivacy : ∀ v, request ≠ .privacy v) (hdrop : ∀ v, request ≠ .dropUnencrypted v) :
    After c none (c.handle request env).console :=
  after_device ⟨rfl, rfl, rfl⟩ (Device.keepsSettings_set80211 env hprivacy hdrop)
    (ssidLength_handle hremoved request env)

theorem after_setting {c c' : Console} (s : Setting) (v : Int)
    (hsetting : c'.setting = Setting.put (some (s, v)) c.setting)
    (hssid : c'.device.fJoinSsidLength = c.device.fJoinSsidLength) : After c (some (s, v)) c' :=
  ⟨hsetting, fun h => by rwa [hssid]⟩

theorem after_scanRequest {c : Console} (hremoved : c.device.fRemoved = false) (o : ScanOutcome) :
    After c none (c.scanRequest o).console := by
  have hcases := c.host.scanRequest_cases o
  unfold ScanHost.scanRequest at hcases
  rw [if_neg (by rw [show c.host.station.device.fRemoved = false from hremoved]; decide)] at hcases
  have hdevice : (c.scanRequest o).console.device = c.device := by
    unfold scanRequest device
    generalize c.host.doScanRequest o = r at hcases
    cases hcases with
    | refused => rfl
    | unsent => rfl
    | sent => rfl
  refine after_device ⟨rfl, rfl, rfl⟩ ?_ ?_
  · rw [hdevice]
    exact .refl c.device
  · rw [hdevice]
    exact id

/-! ## One call -/

section

variable {c : Console} {m : UserMemory} {iLen iData : Nat} {iVal : Int} {e : CallEnv}

/-- Every end of the program leaves the console so. -/
abbrev Leaves (P : Console → Prop) (p : UserIo CallReply) (m : UserMemory) : Prop :=
  wp Serves (fun r _ => P r.console) p m

theorem leaves_setSsid (hremoved : c.device.fRemoved = false) (env : Env) :
    Leaves (After c none) (c.setSsid iLen iData env) m := by
  unfold setSsid
  dsimp only
  split
  · exact after_handle hremoved env nofun nofun
  refine wp_then fun r m' => ?_
  split
  · exact after_device ⟨rfl, rfl, rfl⟩ ⟨rfl, rfl⟩ id
  · exact after_handle hremoved env nofun nofun

theorem leaves_setBssid (hremoved : c.device.fRemoved = false) (env : Env) :
    Leaves (After c none) (c.setBssid iLen iData env) m := by
  unfold setBssid
  split
  · exact .refl c
  refine wp_then fun r m' => ?_
  split
  · exact .refl c
  · exact after_handle hremoved env nofun nofun

theorem leaves_setAppie (hremoved : c.device.fRemoved = false) (env : Env) :
    Leaves (After c none) (c.setAppie iVal iLen iData env) m := by
  unfold setAppie
  split
  · exact .refl c
  split
  · exact after_handle hremoved env nofun nofun
  split
  · exact .refl c
  refine wp_then fun r m' => ?_
  split
  · exact after_device ⟨rfl, rfl, rfl⟩ ⟨rfl, rfl⟩ id
  · exact after_handle hremoved env nofun nofun

theorem leaves_setJoin (hremoved : c.device.fRemoved = false) (env : Env) :
    Leaves (After c none) (c.setJoin iLen iData env) m := by
  unfold setJoin
  split
  · refine wp_then fun r m' => ?_
    split
    · exact .refl c
    · exact after_handle hremoved env nofun nofun
  · exact after_handle hremoved env nofun nofun

/-- Only a setting's own parameter sets it. -/
theorem leaves_setParameter (hremoved : c.device.fRemoved = false) (t : Option Ioc) :
    Leaves (After c ((t.bind Setting.ofIoc).map fun s => (s, iVal)))
      (c.setParameter t iVal iLen iData e) m := by
  cases t with
  | none => exact wp_then fun _ _ => After.refl c
  | some t =>
    cases t with
    | ssid => exact leaves_setSsid hremoved e.env
    | bssid => exact leaves_setBssid hremoved e.env
    | appie => exact leaves_setAppie hremoved e.env
    | haikuJoin => exact leaves_setJoin hremoved e.env
    | mlme | wpaKey => exact wp_then fun b _ => after_handle hremoved e.env nofun nofun
    | scanReq => exact after_scanRequest hremoved e.scan
    | roaming | authMode | wpa =>
      refine after_setting _ iVal (funext fun s => ?_) rfl
      cases s <;> rfl
    | privacy | dropUnencrypted =>
      refine after_setting _ iVal (funext fun s => ?_) rfl
      cases s <;> rfl
    | scanResults | staInfo | devCaps => exact wp_then fun _ _ => After.refl c
    | _ => exact After.refl c

theorem leaves_set80211 (hremoved : c.device.fRemoved = false) {args length : Nat} :
    Leaves (After c (c.assigned .siocS80211 args length m)) (c.set80211 args length e) m := by
  unfold set80211
  by_cases hlength : length < kReqSize
  · have hnone : c.assigned .siocS80211 args length m = none :=
      if_neg fun h => absurd h.2.2.1 (Nat.not_le.mpr hlength)
    rw [if_pos hlength, hnone]
    exact .refl c
  rw [if_neg hlength]
  refine wp_iff_runs.mpr fun r m' hr => ?_
  by_cases hreadable : m.Readable args kReqSize
  · have hset : c.assigned .siocS80211 args length m =
        ((Ioc.ofCode (IReq.iType (m.bytesAt args kReqSize))).bind Setting.ofIoc).map fun s =>
          (s, IReq.iVal (m.bytesAt args kReqSize)) :=
      if_pos ⟨hremoved, rfl, Nat.not_lt.mp hlength, hreadable⟩
    rw [hset]
    exact wp_iff_runs.mp (leaves_setParameter hremoved _) r m' ((runs_copyIn hreadable).mp hr)
  · have hnone : c.assigned .siocS80211 args length m = none :=
      if_neg fun h => hreadable h.2.2.2
    rw [hnone]
    obtain ⟨k, -, -, hbroken⟩ := (runs_brokenIn hreadable).mp hr
    obtain ⟨rfl, -⟩ := runs_done.mp hbroken
    exact .refl c

end

/-! ### Getting changes nothing -/

section

variable {c : Console} {m : UserMemory} {args : Nat} {request : IReq}

theorem leaves_putBack : Leaves (· = c) (c.putBack args request) m := wp_then fun _ _ => rfl

theorem leaves_putData {data : Bytes} : Leaves (· = c) (c.putData args request data) m := by
  refine wp_then fun whole m' => ?_
  split
  · rfl
  · exact leaves_putBack

theorem leaves_getParameter (t : Option Ioc) (e : CallEnv) :
    Leaves (· = c) (c.getParameter t args request e) m := by
  cases t with
  | none => exact rfl
  | some t =>
    cases t with
    | scanResults =>
      refine wp_then fun reply m' => ?_
      split
      · exact rfl
      split
      · exact leaves_putData
      · exact leaves_putBack
    | ssid =>
      show Leaves (· = c) (c.getSsid args request) m
      unfold getSsid
      dsimp only
      split
      · exact rfl
      split
      · exact rfl
      · exact wp_then fun _ _ => leaves_putData
    | bssid =>
      show Leaves (· = c) (c.getBssid request) m
      unfold getBssid
      split
      · exact rfl
      split
      · exact rfl
      · exact wp_then fun _ _ => rfl
    | devCaps =>
      show Leaves (· = c) (c.getDevCaps args request) m
      unfold getDevCaps
      split
      · exact rfl
      · exact leaves_putData
    | staInfo | roaming | privacy | wpa | authMode | dropUnencrypted => exact leaves_putBack
    | _ => exact rfl

theorem leaves_get80211 {length : Nat} (e : CallEnv) :
    Leaves (· = c) (c.get80211 args length e) m := by
  unfold get80211
  split
  · exact rfl
  refine wp_then fun r m' => ?_
  split
  · exact rfl
  · exact leaves_getParameter _ e

end

/-! ### Any call -/

/-- A call makes the setting that it is for, and no other. -/
theorem leaves_control (c : Console) (op : ControlOp) (args length : Nat) (e : CallEnv)
    (m : UserMemory) :
    Leaves (After c (c.assigned op args length m)) (c.control op args length e) m := by
  have hnone : op ≠ .siocS80211 → c.assigned op args length m = none := fun h =>
    if_neg fun hset => h hset.2.1
  unfold control
  split
  · rename_i hremoved
    have hnot : c.assigned op args length m = none :=
      if_neg fun hset => by rw [hremoved] at hset; exact Bool.noConfusion hset.1
    rw [hnot]
    exact .refl c
  rename_i hremoved
  rw [Bool.not_eq_true] at hremoved
  cases op with
  | siocS80211 => exact leaves_set80211 hremoved
  | siocG80211 =>
    rw [hnone (by decide)]
    exact wp_mono (leaves_get80211 e) fun r _ hc => by rw [hc]; exact .refl c
  | etherGetAddr | etherGetFrameSize | etherGetLinkState =>
    rw [hnone (by decide)]
    dsimp only
    split
    · exact .refl c
    · exact wp_then fun _ _ => After.refl c
  | etherSetLinkStateSem =>
    rw [hnone (by decide)]
    dsimp only
    split
    · exact .refl c
    · exact wp_then fun _ _ => after_device ⟨rfl, rfl, rfl⟩ (.refl c.device) id
  | etherSetPromisc =>
    rw [hnone (by decide)]
    exact wp_then fun _ _ => After.refl c
  | etherInit | etherNonBlock | siocSIfMedia | unknown =>
    rw [hnone (by decide)]
    exact .refl c

/-! ## Runs -/

/-- A call of `Control`, run to its end, with the setting that it makes; another operation of the
station; the end of the notifier; or what beacons make of the scan table. -/
inductive Step : Console → Option (Setting × Int) → Console → Prop
  | call {c : Console} {op : ControlOp} {args length : Nat} {e : CallEnv} {m m' : UserMemory}
    {r : CallReply} : Runs Serves (c.control op args length e) m r m' →
    Step c (c.assigned op args length m) r.console
  | operation {c : Console} {op : Station.Operation} {s : Station} :
    (∀ request env, op ≠ .call (.control request) env) → c.host.station.next op = some s →
    Step c none { c with host := { c.host with station := s } }
  | notified {c : Console} :
    Step c none { c with host := { c.host with fScanNotifierThread := false } }
  | beacons {c : Console} (t : BssTable) : Step c none { c with table := t }

/-- The runs from the start, with the settings made on the way. -/
inductive Steps (mac : Mac) : List (Setting × Int) → Console → Prop
  | init : Steps mac [] (.init mac)
  | step {log : List (Setting × Int)} {a : Option (Setting × Int)} {c c' : Console} :
    Steps mac log c → Step c a c' → Steps mac (log ++ a.toList) c'

/-- The last value of each setting. -/
def lastSet (log : List (Setting × Int)) : Setting → Int :=
  log.foldl (fun values a => Setting.put (some a) values) fun _ => 0

theorem lastSet_append (log : List (Setting × Int)) (a : Option (Setting × Int)) :
    lastSet (log ++ a.toList) = Setting.put a (lastSet log) := by
  unfold lastSet
  rw [List.foldl_append]
  cases a with
  | none => rfl
  | some a => rfl

theorem after_operation {c : Console} {op : Station.Operation} {s : Station}
    (hop : ∀ request env, op ≠ .call (.control request) env)
    (hs : c.host.station.next op = some s) :
    After c none { c with host := { c.host with station := s } } := by
  have hkept : s.device = c.device →
      After c none { c with host := { c.host with station := s } } := by
    intro hdevice
    refine after_device ⟨rfl, rfl, rfl⟩ ?_ ?_
    · show Device.KeepsSettings c.device s.device
      rw [hdevice]
      exact .refl c.device
    · show _ → s.device.fJoinSsidLength ≤ 32
      rw [hdevice]
      exact id
  cases op with
  | call e env =>
    obtain ⟨out, hout, rfl⟩ := Option.map_eq_some_iff.mp hs
    have he : ∀ request, e ≠ .control request := by
      rintro request rfl
      exact hop request env rfl
    exact after_device ⟨rfl, rfl, rfl⟩ (Device.keepsSettings_step he hout)
      fun h => Device.ssidLength_step h hout
  | interrupt eventID payload =>
    cases hs
    exact hkept rfl
  | scan now h2c spawned =>
    cases hs
    refine hkept ?_
    unfold Station.scan
    split
    · rfl
    · split
      · rfl
      · rfl
  | close =>
    cases hs
    exact hkept rfl
  | reopen =>
    cases hs
    exact hkept rfl

theorem Step.after {c c' : Console} {a : Option (Setting × Int)} (h : Step c a c') :
    After c a c' := by
  cases h with
  | call hr => exact wp_iff_runs.mp (c.leaves_control _ _ _ _ _) _ _ hr
  | operation hop hs => exact after_operation hop hs
  | notified => exact after_device ⟨rfl, rfl, rfl⟩ (.refl c.device) id
  | beacons t => exact after_device ⟨rfl, rfl, rfl⟩ (.refl c.device) id

/-- The settings have the values that they were given last, and the SSID fits its buffer. -/
theorem Steps.invariant {mac : Mac} {log : List (Setting × Int)} {c : Console}
    (h : Steps mac log c) : c.setting = lastSet log ∧ c.device.fJoinSsidLength ≤ 32 := by
  induction h with
  | init =>
    refine ⟨funext fun s => ?_, Nat.zero_le 32⟩
    cases s <;> rfl
  | step _ hstep ih =>
    obtain ⟨hsetting, hssid⟩ := hstep.after
    exact ⟨by rw [hsetting, ih.1, lastSet_append], hssid ih.2⟩

/-- Memory with the bytes at address 0, all of it writable. -/
def sampleMemory (b : Bytes) : UserMemory where
  byte x := if x < b.length then some (b.at x) else none
  writable _ := true

def sampleCall : CallEnv where
  env := System.sampleEnv
  scan := { now := 0, ext := .ok, command := .ok, spawned := true }
  hasMemory := true
  rcr := 0
  media _ := 0

theorem isInt16_iVal (r : IReq) : IsInt16 r.iVal := by
  have hlen : (Bytes.slice r 34 2).length ≤ 2 := List.length_take_le 2 _
  refine isInt16_int16 (Nat.lt_of_lt_of_le (Bytes.leNat_lt _) ?_)
  exact Nat.pow_le_pow_right (by decide) hlen

theorem iVal_setVal {r : IReq} (hlen : r.length = kReqSize) {v : Int} (hv : IsInt16 v) :
    (r.setVal v).iVal = v := by
  have htake : (List.take 34 r).length = 34 := by
    rw [List.length_take, hlen]
    decide
  have hfield : Bytes.slice (r.setVal v) 34 2 = Bytes.le 2 (toInt16 v) :=
    Bytes.slice_append_mid htake (Bytes.length_le _ _)
  have hsmall : toInt16 v % 256 ^ 2 = toInt16 v := by
    unfold toInt16
    omega
  rw [IReq.iVal, hfield, Bytes.leNat_le, hsmall, int16_toInt16 hv]

/-- Only the two bytes of `i_val` are other ones. -/
theorem at_setVal {r : IReq} (hlen : r.length = kReqSize) (v : Int) {i : Nat}
    (hi : i < 34 ∨ 36 ≤ i) : Bytes.at (r.setVal v) i = Bytes.at r i := by
  have htake : (List.take 34 r).length = 34 := by
    rw [List.length_take, hlen]
    decide
  unfold IReq.setVal
  rcases hi with hlt | hge
  · rw [Bytes.at_append_left (by rw [htake]; exact hlt)]
    simp only [Bytes.at, List.getD_eq_getElem?_getD, List.getElem?_take_of_lt hlt]
  · rw [Bytes.at_append_right (by omega), Bytes.at_append_right (by rw [Bytes.length_le]; omega),
      Bytes.length_le, htake]
    simp only [Bytes.at, List.getD_eq_getElem?_getD, List.getElem?_drop]
    congr 2
    omega

theorem Step.isInt16 {c c' : Console} {a : Option (Setting × Int)} (h : Step c a c') :
    ∀ p ∈ a, IsInt16 p.2 := by
  cases h with
  | call hr =>
    unfold assigned
    split
    · intro p hp
      obtain ⟨s, -, rfl⟩ := Option.map_eq_some_iff.mp hp
      exact isInt16_iVal _
    · exact nofun
  | _ => exact nofun

theorem isInt16_put {a : Option (Setting × Int)} {values : Setting → Int}
    (ha : ∀ p ∈ a, IsInt16 p.2) (hvalues : ∀ s, IsInt16 (values s)) (s : Setting) :
    IsInt16 (Setting.put a values s) := by
  cases a with
  | none => exact hvalues s
  | some p =>
    show IsInt16 (if s = p.1 then p.2 else values s)
    split
    · exact ha p rfl
    · exact hvalues s

theorem Steps.isInt16 {mac : Mac} {log : List (Setting × Int)} {c : Console}
    (h : Steps mac log c) (s : Setting) : IsInt16 (lastSet log s) := by
  induction h generalizing s with
  | init => exact ⟨by show (-0x8000 : Int) ≤ 0; decide, by show (0 : Int) < 0x8000; decide⟩
  | step _ hstep ih =>
    rw [lastSet_append]
    exact isInt16_put hstep.isInt16 ih s

/-- A request for a setting's parameter. -/
structure AsksFor (m : UserMemory) (args : Nat) (s : Setting) : Prop where
  readable : m.Readable args kReqSize
  writable : m.Writable args kReqSize
  iType : IReq.iType (m.bytesAt args kReqSize) = s.ioc.code

theorem getParameter_setting (c : Console) (s : Setting) (args : Nat) (request : IReq)
    (e : CallEnv) : c.getParameter (some s.ioc) args request e =
      c.putBack args (request.setVal (c.setting s)) := by
  cases s <;> rfl

/-- A setting is read back as it was set last, whatever has been called and happened since. The call
changes nothing, and of the memory only the two bytes for it. -/
theorem setting_readback {mac : Mac} {log : List (Setting × Int)} {c : Console}
    (h : Steps mac log c) (hremoved : c.device.fRemoved = false) {s : Setting} {args length : Nat}
    (hlength : kReqSize ≤ length) {m : UserMemory} (hask : AsksFor m args s) (e : CallEnv) :
    ∃ m', (∀ r m'', Runs Serves (c.control .siocG80211 args length e) m r m'' ↔
        r = c.returns (.is .ok) ∧ m'' = m') ∧
      IReq.iVal (m'.bytesAt args kReqSize) = lastSet log s ∧
      ∀ x, ¬ span (args + 34) 2 x → m'.byte x = m.byte x := by
  have hlen := m.length_bytesAt args kReqSize
  have hset := length_setVal hlen (c.setting s)
  refine ⟨m.write args (IReq.setVal (m.bytesAt args kReqSize) (c.setting s)), ?_, ?_, ?_⟩
  · intro r m''
    unfold control get80211
    rw [if_neg (by rw [hremoved]; decide)]
    dsimp only
    rw [if_neg (Nat.not_lt.mpr hlength), runs_copyIn hask.readable]
    dsimp only
    rw [if_neg (by decide), hask.iType, Ioc.ofCode_code, getParameter_setting]
    unfold putBack
    rw [runs_copyOut (by rw [hset]; exact hask.writable)]
    exact runs_done
  · have hheld :=
      (holds_write m args (IReq.setVal (m.bytesAt args kReqSize) (c.setting s))).bytesAt_eq
    rw [hset] at hheld
    rw [hheld, h.invariant.1, iVal_setVal hlen (h.isInt16 s)]
  · intro x hx
    by_cases hspan : span args kReqSize x
    · obtain ⟨i, rfl⟩ := Nat.exists_eq_add_of_le hspan.1
      have hi : i < kReqSize := by
        unfold span at hspan
        omega
      have hother : i < 34 ∨ 36 ≤ i := by
        unfold span at hx
        omega
      rw [byte_write (by rw [hset]; exact hi), at_setVal hlen (c.setting s) hother]
      exact (holds_bytesAt hask.readable i (by rw [hlen]; exact hi)).symm
    · exact byte_write_outside (by rw [hset]; exact hspan)

/-- `IEEE80211_IOC_PRIVACY` with a value. -/
def samplePrivacy (val : UInt8) : UserMemory :=
  sampleMemory (Bytes.zeros 32 ++ [17, 0, val, 0] ++ Bytes.zeros 12)

theorem runs_setPrivacy :
    Runs Serves ((init System.sampleMac).control .siocS80211 0 48 sampleCall) (samplePrivacy 7)
      ((init System.sampleMac).handle (.privacy 7) sampleCall.env) (samplePrivacy 7) := by
  have hreadable : (samplePrivacy 7).Readable 0 kReqSize := by decide
  have htype : Ioc.ofCode (IReq.iType ((samplePrivacy 7).bytesAt 0 kReqSize)) = some .privacy := by
    decide
  have hval : IReq.iVal ((samplePrivacy 7).bytesAt 0 kReqSize) = 7 := by decide
  unfold control set80211
  rw [if_neg (by decide)]
  dsimp only
  rw [if_neg (by decide), runs_copyIn hreadable]
  dsimp only
  rw [if_neg (by decide), htype, hval]
  exact .done

/-- The value 7 is set, and then asked for. -/
theorem setting_readback_privacy :
    ∃ c, Steps System.sampleMac [(.privacy, 7)] c ∧
      ∃ m', (∀ r m'', Runs Serves (c.control .siocG80211 0 48 sampleCall) (samplePrivacy 0) r m'' ↔
          r = c.returns (.is .ok) ∧ m'' = m') ∧
        IReq.iVal (m'.bytesAt 0 kReqSize) = 7 ∧
        ∀ x, ¬ span 34 2 x → m'.byte x = (samplePrivacy 0).byte x := by
  have hassigned : (init System.sampleMac).assigned .siocS80211 0 48 (samplePrivacy 7) =
      some (.privacy, 7) := by decide
  have hstep := Step.call runs_setPrivacy
  rw [hassigned] at hstep
  have hsteps : Steps System.sampleMac [(.privacy, 7)]
      ((init System.sampleMac).handle (.privacy 7) sampleCall.env).console := .step .init hstep
  have hask : AsksFor (samplePrivacy 0) 0 .privacy := ⟨by decide, fun _ _ => rfl, by decide⟩
  have hlength : kReqSize ≤ 48 := by decide
  exact ⟨_, hsteps, setting_readback hsteps rfl hlength hask sampleCall⟩

end Console
end Rtl8814au
