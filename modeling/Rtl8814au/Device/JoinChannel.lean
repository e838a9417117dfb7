import Rtl8814au.Device.KeySafety
import Rtl8814au.Device.Steps
import Rtl8814au.WiFi.BssList

/-!
# Device.JoinChannel

The channel on which `_DoJoin` parks. The BSSID may come from the caller; the channel always comes
from the first entry of the BSS table with the SSID.

* `doJoinOn`        — `_DoJoin` over a BSS table, with the channel it sets; `doJoinOn_reply` ties it
  to `doJoin`.
* `ParksRight`      — an authentication request to a BSS of the table goes out on the channel
  recorded for that BSS.
* `LookupsAgree`    — the entry found by SSID has that channel, and `SetChannel` succeeds.
* `join_parks`      — the one holds of a join exactly if the other does.
-/

namespace Rtl8814au
namespace Device

structure ChannelReply where
  reply : Reply
  channel : Option UInt8 -- What `SetChannel` has set ahead of the authentication request.

/-- The channel after `SetChannel`, which is not called for channel 0. Its status is only logged. -/
def park (setChannel : UInt8 → Status) (apChannel : UInt8) : Option UInt8 :=
  if apChannel ≠ 0 ∧ setChannel apChannel = .ok then some apChannel else none

def doJoinOn (t : BssList) (setChannel : UInt8 → Status) (d : Device) (bssid : Mac) (ssid : Bytes)
    (ssidLen : Nat) (env : Env) : ChannelReply :=
  let d := d.joinReset
  -- Looked up by SSID also where the caller supplies the BSSID.
  let apChannel :=
    match t.findBssBySsid ssid ssidLen with
    | some entry => entry.channel
    | none => 0
  if isWildcardBssid bssid then
    match t.findBssBySsid ssid ssidLen with
    | none => ⟨⟨d, [.joinRequest], .nameNotFound⟩, none⟩
    | some entry => ⟨d.startJoin entry.bssid ssid ssidLen env, park setChannel entry.channel⟩
  else ⟨d.startJoin bssid ssid ssidLen env, park setChannel apChannel⟩

/-- The scan result that `doJoin` asks for. -/
def withTable (env : Env) (t : BssList) (ssid : Bytes) (ssidLen : Nat) : Env :=
  { env with bss := (t.findBssBySsid ssid ssidLen).map BssEntry.bssid }

theorem doJoinOn_reply (t : BssList) (setChannel : UInt8 → Status) (d : Device) (bssid : Mac)
    (ssid : Bytes) (ssidLen : Nat) (env : Env) :
    (doJoinOn t setChannel d bssid ssid ssidLen env).reply =
      d.doJoin bssid ssid ssidLen (withTable env t ssid ssidLen) := by
  unfold doJoinOn doJoin withTable
  dsimp only
  by_cases hwild : isWildcardBssid bssid
  · rw [if_pos hwild, if_pos hwild]
    cases t.findBssBySsid ssid ssidLen with
    | none => rfl
    | some entry => rfl
  · rw [if_neg hwild, if_neg hwild]
    rfl

/-! ## The channel of the target -/

/-- An authentication request to a BSS that the table has with a channel goes out on that channel. -/
def ParksRight (t : BssList) (r : ChannelReply) : Prop :=
  ∀ frame, .transmitAuthRequest frame ∈ r.reply.actions →
    ∀ i, (t.fBssList i).valid = true → (t.fBssList i).bssid.bytes = frame.slice 4 6 →
      (t.fBssList i).channel ≠ 0 → r.channel = some (t.fBssList i).channel

/-- Where the caller supplies the BSSID, the first entry with the SSID is on the channel of the one
with the BSSID; and `SetChannel` sets it. -/
def LookupsAgree (t : BssList) (setChannel : UInt8 → Status) (bssid : Mac) (ssid : Bytes)
    (ssidLen : Nat) : Prop :=
  if isWildcardBssid bssid then
    ∀ found ∈ t.findBssBySsid ssid ssidLen, found.channel ≠ 0 → setChannel found.channel = .ok
  else
    ∀ i, (t.fBssList i).valid = true → (t.fBssList i).bssid = bssid → (t.fBssList i).channel ≠ 0 →
      setChannel (t.fBssList i).channel = .ok ∧
        ∃ found ∈ t.findBssBySsid ssid ssidLen, found.channel = (t.fBssList i).channel

theorem park_eq_some {setChannel : UInt8 → Status} {apChannel channel : UInt8} (h : channel ≠ 0) :
    park setChannel apChannel = some channel ↔
      apChannel = channel ∧ setChannel channel = .ok := by
  unfold park
  constructor
  · intro hpark
    split at hpark
    · rename_i hset
      cases hpark
      exact ⟨rfl, hset.2⟩
    · cases hpark
  · rintro ⟨rfl, hok⟩
    exact if_pos ⟨h, hok⟩

/-- The address a join sends its authentication request to. -/
theorem addr1_startJoin {d : Device} {target : Mac} {ssid : Bytes} {ssidLen : Nat} {env : Env}
    {frame : Bytes}
    (h : .transmitAuthRequest frame ∈ (d.startJoin target ssid ssidLen env).actions) :
    frame.slice 4 6 = target.bytes := by
  simp only [startJoin, sendAuthRequest, List.mem_cons, reduceCtorEq, List.not_mem_nil, or_false,
    false_or, Action.transmitAuthRequest.injEq] at h
  subst h
  simp only [managementHeader, List.append_assoc]
  exact Bytes.slice_append_mid rfl target.length_eq

theorem exists_authRequest (d : Device) (target : Mac) (ssid : Bytes) (ssidLen : Nat) (env : Env) :
    ∃ frame, .transmitAuthRequest frame ∈ (d.startJoin target ssid ssidLen env).actions :=
  ⟨_, List.mem_cons_of_mem _ List.mem_cons_self⟩

/-- A join that is started parks right when it parks on the channel of its target. -/
theorem parksRight_startJoin {t : BssList} {d : Device} {target : Mac} {ssid : Bytes}
    {ssidLen : Nat} {env : Env} {channel : Option UInt8} :
    ParksRight t ⟨d.startJoin target ssid ssidLen env, channel⟩ ↔
      ∀ i, (t.fBssList i).valid = true → (t.fBssList i).bssid = target →
        (t.fBssList i).channel ≠ 0 → channel = some (t.fBssList i).channel := by
  constructor
  · intro hparks i hvalid hbssid hchannel
    obtain ⟨frame, hframe⟩ := d.exists_authRequest target ssid ssidLen env
    refine hparks frame hframe i hvalid ?_ hchannel
    rw [hbssid, addr1_startJoin hframe]
  · intro h frame hframe i hvalid hbssid hchannel
    rw [addr1_startJoin hframe] at hbssid
    exact h i hvalid (Buf.ext hbssid) hchannel

/-- A join parks on the channel of the BSS it goes for exactly if the lookup by SSID leads to that
channel and it can be set. -/
theorem join_parks (t : BssList) (setChannel : UInt8 → Status) (d : Device) (bssid : Mac)
    (ssid : Bytes) (ssidLen : Nat) (env : Env) :
    ParksRight t (doJoinOn t setChannel d bssid ssid ssidLen env) ↔
      LookupsAgree t setChannel bssid ssid ssidLen := by
  unfold doJoinOn LookupsAgree
  dsimp only
  by_cases hwild : isWildcardBssid bssid
  · rw [if_pos hwild, if_pos hwild]
    cases hfound : t.findBssBySsid ssid ssidLen with
    | none =>
      constructor
      · intro _ found hnone
        cases hnone
      · intro _ frame hframe
        rcases List.mem_cons.mp hframe with h | h
        · cases h
        · cases h
    | some entry =>
      obtain ⟨k, hk, hvalid⟩ := BssList.findBssBySsid_some hfound
      dsimp only
      rw [parksRight_startJoin]
      constructor
      · rintro hparks _ ⟨⟩ hchannel
        subst hk
        exact ((park_eq_some hchannel).mp (hparks k hvalid rfl hchannel)).2
      · intro hset i hi hbssid hchannel
        have hentry := BssList.eq_of_bssid rfl hk hi hvalid hbssid
        rw [hentry] at hchannel ⊢
        exact (park_eq_some hchannel).mpr ⟨rfl, hset entry rfl hchannel⟩
  · rw [if_neg hwild, if_neg hwild, parksRight_startJoin]
    refine forall_congr' fun i => imp_congr_right fun hvalid => imp_congr_right fun hbssid =>
      imp_congr_right fun hchannel => ?_
    rw [park_eq_some hchannel]
    cases t.findBssBySsid ssid ssidLen with
    | none =>
      constructor
      · rintro ⟨hzero, -⟩
        exact absurd hzero.symm hchannel
      · rintro ⟨-, found, hnone, -⟩
        cases hnone
    | some entry =>
      constructor
      · rintro ⟨hsame, hok⟩
        exact ⟨hok, entry, rfl, hsame⟩
      · rintro ⟨hok, _, ⟨⟩, hsame⟩
        exact ⟨hsame, hok⟩

/-- One network on channel 1 and on channel 36, by two access points. -/
def sampleTable : BssList :=
  let ssid : Bytes := [0x6E, 0x65, 0x74]
  (BssList.empty.updateBssEntry System.sampleMac ssid 1 (-40) 1).updateBssEntry System.sampleBssid
    ssid 36 (-50) 2

/-- The second one is asked for, and the channel of the first is set. -/
theorem join_parks_sampleTable :
    ¬ ∀ t setChannel d bssid ssid ssidLen env,
      ParksRight t (doJoinOn t setChannel d bssid ssid ssidLen env) := by
  intro hclaim
  let ssid : Bytes := [0x6E, 0x65, 0x74, 0]
  have hparks := hclaim sampleTable (fun _ => .ok) (.init System.sampleMac) System.sampleBssid ssid 3
    System.sampleEnv
  have hchannel : (doJoinOn sampleTable (fun _ => .ok) (.init System.sampleMac) System.sampleBssid
      ssid 3 System.sampleEnv).channel = some 1 := by decide +kernel
  have hentry : (sampleTable.fBssList 1).valid = true ∧
      (sampleTable.fBssList 1).bssid = System.sampleBssid ∧
      (sampleTable.fBssList 1).channel = 36 := by decide +kernel
  obtain ⟨hvalid, hbssid, h36⟩ := hentry
  rw [ParksRight, hchannel] at hparks
  have hset := parksRight_startJoin.mp hparks 1 hvalid hbssid (by rw [h36]; decide)
  rw [h36] at hset
  exact absurd hset (by decide)

end Device
end Rtl8814au
