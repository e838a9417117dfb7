import Mathlib.Data.List.Nodup
import Rtl8814au.Device.Delivery
import Rtl8814au.Device.KeyState

/-!
# Device.Snonce

`_GenerateSnonce`, and the SNonces that the handshakes of a run take from it.

* `mix`, `snonceOf` — the block that is hashed, and the nonce that two hashes of it make.
* `draws`           — the step takes a new SNonce; no other changes it (`snonce_step`).
* `snonces_fresh`   — what is hashed has not been hashed before, whatever the clocks say.
-/

namespace Rtl8814au

open Crypto

/-- `system_time()` and `real_time_clock_usecs()`. -/
structure NonceClock where
  systemTime : UInt64
  realTime : UInt64

namespace Snonce

def mix (clock : NonceClock) (macAddress : Mac) (counter : UInt32) : Buf 64 :=
  (((((Buf.zero 64).copyAt 0 (Bytes.le 8 clock.systemTime.toNat)).copyAt 8
    (Bytes.le 8 clock.realTime.toNat)).copyAt 16 macAddress.bytes).copyAt 22
      (Bytes.le 4 counter.toNat)).copyAt 26 (List.replicate 38 0x5A)

/-- `mix[0] ^= 0xFF`. -/
def flip (mix : Buf 64) : Buf 64 := mix.set 0 (mix.bytes.at 0 ^^^ 0xFF)

def snonceOf (mix : Buf 64) : Buf 32 :=
  Buf.ofBytes 32 ((sha1 mix.bytes).bytes ++ (sha1 (flip mix).bytes).bytes.take 12)

/-- The nonce, where `sCounter` has the value that the call finds. -/
def generateSnonce (sCounter : UInt32) (clock : NonceClock) (macAddress : Mac) : Buf 32 :=
  snonceOf (mix clock macAddress (sCounter + 1))

/-! ## The block -/

/-- The counter of a block. -/
def counterOf (block : Buf 64) : Nat := Bytes.leNat (block.bytes.slice 22 4)

theorem counterOf_mix (clock : NonceClock) (macAddress : Mac) (counter : UInt32) :
    counterOf (mix clock macAddress counter) = counter.toNat := by
  have hlen : (Bytes.le 4 counter.toNat).length = 4 := Bytes.length_le 4 _
  have hslice : (mix clock macAddress counter).bytes.slice 22 4 = Bytes.le 4 counter.toNat := by
    unfold mix
    generalize ((((Buf.zero 64).copyAt 0 (Bytes.le 8 clock.systemTime.toNat)).copyAt 8
      (Bytes.le 8 clock.realTime.toNat)).copyAt 16 macAddress.bytes) = front
    generalize hblock : front.copyAt 22 (Bytes.le 4 counter.toNat) = block
    have hfront : (block.copyAt 26 (List.replicate 38 0x5A)).bytes.take 26 = block.bytes.take 26 :=
      block.take_copyAt_left (by decide)
    have hcounter : block.bytes.slice 22 (Bytes.le 4 counter.toNat).length =
        Bytes.le 4 counter.toNat := by
      rw [← hblock]
      exact front.slice_copyAt (by rw [hlen]; decide)
    -- The counter is in front of the filling.
    have hslices : ∀ b : Bytes, b.slice 22 4 = Bytes.slice (b.take 26) 22 4 := by
      intro b
      unfold Bytes.slice
      rw [List.drop_take, List.take_take]
      rfl
    rw [hlen] at hcounter
    rw [hslices, hfront, ← hslices, hcounter]
  rw [counterOf, hslice, Bytes.leNat_le]
  exact Nat.mod_eq_of_lt counter.toNat_lt

theorem counterOf_flip (block : Buf 64) : counterOf (flip block) = counterOf block := by
  unfold counterOf flip Buf.set Bytes.slice
  dsimp only
  rw [List.drop_set_of_lt (by decide)]

theorem flip_ne (block : Buf 64) : (flip block).bytes ≠ block.bytes := by
  intro h
  have hat : (flip block).bytes.at 0 = block.bytes.at 0 ^^^ 0xFF := by
    rw [flip, Buf.at_set block (by decide), if_pos rfl]
  rw [h] at hat
  have hne : ∀ b : UInt8, b ≠ b ^^^ 0xFF := Bytes.forall_byte (by decide +kernel)
  exact hne _ hat

/-- The first of the two hashes is the front of the nonce. -/
theorem take_snonceOf (block : Buf 64) :
    (snonceOf block).bytes.take 20 = (sha1 block.bytes).bytes := by
  have hlen : ((sha1 block.bytes).bytes ++
      (sha1 (flip block).bytes).bytes.take 12).length = 32 := by simp
  rw [snonceOf, Buf.bytes_ofBytes hlen, List.take_left' (Buf.length_eq _)]

end Snonce

namespace Device

/-- The step is that of a message 1 for which a new SNonce is taken. -/
def draws (d : Device) : Event → Bool
  | .eapolWorker => d.Wakes ∧ d.classify d.inboxPayload = some .m1 ∧ d.rederives d.inboxPayload
  | _ => false

theorem snonce_rxFrame {d : Device} {frame : Bytes} {env : Env} {out : Device × List Action}
    (h : RxStep d frame env out) : out.1.fSnonce = d.fSnonce := by
  cases h with
  | ring r hd hr hs =>
    obtain ⟨ring, head, tail, heq⟩ := d.enqueue_device (r.ringEntry (d.fRxRing d.fRxRingHead))
    rw [heq]
  | _ => rfl

theorem snonce_control {d : Device} {request : Request} {env : Env} {out : Device × List Action}
    (h : ControlStep d request env out) : out.1.fSnonce = d.fSnonce := by
  have hheld : ∀ keyix macaddr keydata, (d.holdKey keyix macaddr keydata).fSnonce = d.fSnonce := by
    intro keyix macaddr keydata
    obtain ⟨tk, tkValid, bssid, gtk, gtkId, gtkValid, heq⟩ := d.holdKey_device keyix macaddr keydata
    rw [heq]
  have hjoins : ∀ {d1 : Device} {bssid : Mac} {ssid : Bytes} {ssidLen : Nat},
      d.Joins request d1 bssid ssid ssidLen → d1.fSnonce = d.fSnonce := by
    intro d1 bssid ssid ssidLen hj
    cases hj with
    | mlme => rfl
    | again => rfl
    | passphrase bssid ssidLen ssid passphraseLen passphrase =>
      obtain ⟨wpaIe, wpaIeLength, heq⟩ :=
        d.withPassphrase_device bssid ssidLen ssid passphraseLen passphrase
      rw [heq]
      rfl
  cases h with
  | keyHeld keyix macaddr keydata => exact hheld keyix macaddr keydata
  | keysArmed keyix macaddr keydata => exact hheld keyix macaddr keydata
  | unresolved d1 bssid ssid ssidLen hr hj => exact (hjoins hj : d1.fSnonce = d.fSnonce)
  | joining d1 bssid target ssid ssidLen hr hj => exact (hjoins hj : d1.fSnonce = d.fSnonce)
  | _ => rfl

/-- The worker keeps the SNonce, or takes the one that it is given. -/
theorem snonce_eapolWorker {d : Device} {env : Env} {out : Device × List Action}
    (h : EapolStep d env out) :
    out.1.fSnonce = if d.draws .eapolWorker then env.snonce else d.fSnonce := by
  have hkept : ∀ hp : d.classify d.inboxPayload ≠ some .m1 ∨ d.fPmkValid = false ∨ ¬ d.Wakes,
      d.draws .eapolWorker = false := by
    rintro hp
    refine decide_eq_false ?_
    rintro ⟨hw, hc, hre⟩
    rcases hp with hp | hp | hp
    · exact hp hc
    · unfold rederives at hre
      rw [hp] at hre
      simp at hre
    · exact hp hw
  have hm3 : ∀ {gtk : GtkKde}, d.inboxM3 env = some gtk →
      d.classify d.inboxPayload ≠ some .m1 := by
    intro gtk hgtk hc
    unfold inboxM3 at hgtk
    rw [if_neg (by rw [hc]; decide)] at hgtk
    cases hgtk
  have hkeyed : d.Wakes → d.classify d.inboxPayload = some .m1 → d.fPmkValid = true →
      (d.takeInbox.keyedM1 d.inboxPayload d.fEapolInbox.senderMac env).fSnonce =
        if d.draws .eapolWorker then env.snonce else d.fSnonce := by
    intro hw hc hpmk
    unfold keyedM1
    cases hsame : d.sameAnonce d.inboxPayload with
    | true =>
      have hnot : d.draws .eapolWorker = false :=
        decide_eq_false fun h => by simp [rederives, hsame] at h
      rw [if_pos (show d.takeInbox.sameAnonce d.inboxPayload = true from hsame), hnot]
      rfl
    | false =>
      have hdraws : d.draws .eapolWorker = true :=
        decide_eq_true ⟨hw, hc, by simp [rederives, hsame, hpmk]⟩
      rw [if_neg (show ¬ d.takeInbox.sameAnonce d.inboxPayload = true by
        rw [show d.takeInbox.sameAnonce d.inboxPayload = false from hsame]
        decide), hdraws]
      rfl
  cases h with
  | idle hw =>
    rw [hkept (.inr (.inr hw))]
    rfl
  | ignored hw hc =>
    rw [hkept (.inl hc)]
    rfl
  | noted hw hc hpmk =>
    rw [hkept (.inr (.inl hpmk))]
    rfl
  | unanswered hw hc hpmk => exact hkeyed hw hc hpmk
  | answered hw hc hpmk => exact hkeyed hw hc hpmk
  | m4Lost gtk hw hgtk =>
    rw [hkept (.inl (hm3 hgtk))]
    rfl
  | installed gtk hw hgtk =>
    rw [hkept (.inl (hm3 hgtk))]
    rfl
  | installFailed gtk hw hgtk =>
    rw [hkept (.inl (hm3 hgtk))]
    rfl

theorem snonce_step {d : Device} {e : Event} {env : Env} {out : Device × List Action}
    (h : d.step e env = some out) :
    out.1.fSnonce = if d.draws e then env.snonce else d.fSnonce := by
  cases step_cases h with
  | dataPath =>
    cases e with
    | eapolWorker => contradiction
    | _ => rfl
  | rxFrame frame isC2H hc hrx => exact snonce_rxFrame hrx
  | eapolWorker hworker => exact snonce_eapolWorker hworker
  | control request hcontrol => exact snonce_control hcontrol

end Device

/-! ## The nonces of a run -/

namespace Snonce

/-- A call of `_GenerateSnonce`: the block it hashes, and the SNonce that the device has after. -/
structure Draw where
  block : Buf 64
  sNonce : Buf 32

/-- All that is hashed for it. -/
def Draw.hashed (p : Draw) : List Bytes := [p.block.bytes, (flip p.block).bytes]

structure Nonces where
  device : Device
  sCounter : UInt32
  draws : List Draw

def init (macAddress : Mac) : Nonces where
  device := .init macAddress
  sCounter := 0
  draws := []

/-- A step of the device, with what the clocks say when the nonce is made. -/
def next (s : Nonces) (e : Event × Env × NonceClock) : Option Nonces :=
  let sNonce := generateSnonce s.sCounter e.2.2 s.device.fMacAddress
  (s.device.step e.1 { e.2.1 with snonce := sNonce }).map fun r =>
    if s.device.draws e.1 then
      { device := r.1
        sCounter := s.sCounter + 1
        draws := s.draws ++
          [{ block := mix e.2.2 s.device.fMacAddress (s.sCounter + 1), sNonce := r.1.fSnonce }] }
    else { s with device := r.1 }

/-- The last nonce drawn, zero before the first. -/
def lastDrawn (draws : List Draw) : Buf 32 := (draws.getLast?.map Draw.sNonce).getD (Buf.zero 32)

/-- As long as the counter has room, the blocks have the numbers from 1 on. -/
def Counted (draws : List Draw) : Prop :=
  draws.length < 2 ^ 32 → draws.map (fun p => counterOf p.block) = List.range' 1 draws.length

theorem counted_append {draws : List Draw} {p : Draw} (h : Counted draws)
    (hp : counterOf p.block = (UInt32.ofNat draws.length + 1).toNat) : Counted (draws ++ [p]) := by
  intro hroom
  rw [List.length_append, List.length_singleton] at hroom ⊢
  have hnumber : (UInt32.ofNat draws.length + 1).toNat = 1 + draws.length := by
    rw [UInt32.toNat_add, UInt32.toNat_ofNat']
    simp only [UInt32.reduceToNat]
    omega
  rw [List.map_append, h (by omega), List.range'_1_concat, List.map_singleton, hp, hnumber]

structure Numbered (s : Nonces) : Prop where
  counter : s.sCounter = UInt32.ofNat s.draws.length
  made : ∀ p ∈ s.draws, p.sNonce = snonceOf p.block
  counted : Counted s.draws
  current : s.device.fSnonce = lastDrawn s.draws

theorem numbered_init (macAddress : Mac) : Numbered (init macAddress) :=
  ⟨rfl, nofun, fun _ => rfl, rfl⟩

theorem numbered_step {s s' : Nonces} {e : Event × Env × NonceClock} (h : Numbered s)
    (hn : next s e = some s') : Numbered s' := by
  obtain ⟨r, hr, rfl⟩ := Option.map_eq_some_iff.mp hn
  have hsnonce := Device.snonce_step hr
  cases hd : s.device.draws e.1 with
  | false =>
    rw [hd] at hsnonce
    exact ⟨h.counter, h.made, h.counted, hsnonce.trans h.current⟩
  | true =>
    rw [hd] at hsnonce
    have hsnonce : r.1.fSnonce =
        snonceOf (mix e.2.2 s.device.fMacAddress (s.sCounter + 1)) := hsnonce
    refine ⟨?_, ?_, ?_, ?_⟩
    · show s.sCounter + 1 = UInt32.ofNat (s.draws ++ [_]).length
      rw [List.length_append, h.counter]
      exact (UInt32.ofNat_add _ _).symm
    · intro p hp
      rcases List.mem_append.mp hp with hp | hp
      · exact h.made p hp
      · rw [List.mem_singleton.mp hp]
        exact hsnonce
    · refine counted_append h.counted ?_
      rw [counterOf_mix, h.counter]
    · show r.1.fSnonce = lastDrawn (s.draws ++ [_])
      unfold lastDrawn
      rw [List.getLast?_append_of_ne_nil _ (by simp)]
      rfl

theorem counterOf_hashed {p : Draw} {b : Bytes} (h : b ∈ p.hashed) :
    Bytes.leNat (b.slice 22 4) = counterOf p.block := by
  rcases List.mem_cons.mp h with rfl | h
  · rfl
  · rw [List.mem_singleton.mp h]
    exact counterOf_flip p.block

/-- Blocks with different numbers, and each with a second one of its own. -/
theorem nodup_hashed {draws : List Draw} (h : (draws.map fun p => counterOf p.block).Nodup) :
    (draws.flatMap Draw.hashed).Nodup := by
  refine List.nodup_flatMap.mpr ⟨fun p _ => ?_, ?_⟩
  · exact List.nodup_cons.mpr
      ⟨fun hmem => flip_ne p.block (List.mem_singleton.mp hmem).symm, List.nodup_singleton _⟩
  · refine (List.pairwise_map.mp h).imp ?_
    intro p q hne b hp hq
    exact hne ((counterOf_hashed hp).symm.trans (counterOf_hashed hq))

/-- Whatever the clocks say: as long as the counter has not come round, no two hashes for SNonces are
of the same block, so that two handshakes share an SNonce only where SHA-1 gives two different blocks
the same hash. The SNonce of the device is the last one drawn. -/
theorem snonces_fresh {macAddress : Mac} {es : List (Event × Env × NonceClock)} {s : Nonces}
    (hr : Lts.run next (init macAddress) es = some s) (hroom : s.draws.length < 2 ^ 32) :
    (s.draws.flatMap Draw.hashed).Nodup ∧
      s.draws.Pairwise (fun p q => p.sNonce = q.sNonce →
        p.block ≠ q.block ∧ sha1 p.block.bytes = sha1 q.block.bytes) ∧
      s.device.fSnonce = lastDrawn s.draws := by
  have hnumbered : Numbered s := Lts.run_invariant (C := fun _ _ => True)
    (fun h _ hn => numbered_step h hn) (numbered_init macAddress) (Lts.meets_true _ _) hr
  have hcounters : (s.draws.map fun p => counterOf p.block).Nodup := by
    rw [hnumbered.counted hroom]
    exact List.nodup_range'
  refine ⟨nodup_hashed hcounters, ?_, hnumbered.current⟩
  refine (List.pairwise_map.mp hcounters).imp_of_mem ?_
  intro p q hp hq hne hsame
  refine ⟨fun hblock => hne (by rw [hblock]), Buf.ext ?_⟩
  rw [← take_snonceOf, ← take_snonceOf, ← hnumbered.made p hp, ← hnumbered.made q hq, hsame]

/-! ### A handshake that is started anew -/

section

open Device Spec

/-- The same clocks for all the steps. -/
def withClock (clock : NonceClock) (es : List (Event × Env)) : List (Event × Env × NonceClock) :=
  es.map fun x => (x.1, x.2, clock)

theorem withClock_append (clock : NonceClock) (es fs : List (Event × Env)) :
    withClock clock (es ++ fs) = withClock clock es ++ withClock clock fs := List.map_append

/-- A message 1 with an ANonce that the PTK is not made from. -/
theorem run_draw {a : Authenticator} {s : Nonces} (c : M1Choice) {env : Env} (clock : NonceClock)
    (h : Associated a s.device) (hr : s.device.fRemoved = false)
    (hnew : ¬ (s.device.fPtkValid = true ∧ s.device.fAnonce = a.aNonce))
    (hlen : (a.m1 c).encode.length ≤ 300) (htransmit : env.transmit = .ok) :
    ∃ s' sNonce,
      Lts.run next s (withClock clock (System.deliver a.spa a.aa (a.m1 c).encode env)) = some s' ∧
      s'.draws.length = s.draws.length + 1 ∧ Awaits a s'.device sNonce ∧
      s'.device.fRemoved = false := by
  let env' : Env := { env with snonce := generateSnonce s.sCounter clock s.device.fMacAddress }
  let d := s.device.inInbox (a.m1 c).encode
  have hrx := rxFrameReceived_apFrame (d := s.device) env' h.pmkValid hlen
  rw [h.spa, h.aa] at hrx
  have hpayload : d.inboxPayload = (a.m1 c).encode := inboxPayload_inInbox _ hlen
  have hm1 : d.classify d.inboxPayload = some .m1 := by
    rw [hpayload]
    exact classify_m1 c hlen
  have hfresh : d.sameAnonce d.inboxPayload = false := by
    rw [sameAnonce, hpayload, keyNonce_m1, decide_eq_false_iff_not]
    exact hnew
  have hdraws : d.draws .eapolWorker = true := by
    refine decide_eq_true ⟨⟨hr, rfl⟩, hm1, decide_eq_true ⟨h.pmkValid, ?_⟩⟩
    rw [hfresh]
    exact Bool.false_ne_true
  have hworker : d.eapolWorker env' = d.takeInbox.handleEapolFrame (a.m1 c).encode a.aa env' := by
    have heq : d.eapolWorker env' =
        d.takeInbox.handleEapolFrame d.inboxPayload d.fEapolInbox.senderMac env' :=
      eapolWorker_eq hr rfl
    rw [hpayload] at heq
    exact heq.trans (congrArg (fun m => d.takeInbox.handleEapolFrame (a.m1 c).encode m env') h.aa)
  have hassoc : Associated a d.takeInbox := ⟨h.pmk, h.pmkValid, h.aa, h.spa, h.rsnIe, h.rsnIeLength⟩
  have htransmit' : env'.transmit = .ok := htransmit
  have hawaits := (awaits_firstM1 c hassoc hnew hlen htransmit').1
  have hkeeps := (eapolWorker_m1 env' hm1).1
  rw [← hworker] at hawaits
  have hfirst : next s (.rxFrame (apFrame a.spa a.aa (a.m1 c).encode) false, env, clock) =
      some { s with device := d } := by
    -- A received frame draws nothing.
    show (s.device.rxFrameReceived _ false env').map _ = _
    rw [hrx]
    rfl
  let s' : Nonces :=
    { device := (d.eapolWorker env').1
      sCounter := s.sCounter + 1
      draws := s.draws ++
        [⟨mix clock d.fMacAddress (s.sCounter + 1), (d.eapolWorker env').1.fSnonce⟩] }
  have hsecond : next { s with device := d } (.eapolWorker, env, clock) = some s' := by
    show some (if d.draws .eapolWorker then _ else _) = _
    rw [if_pos hdraws]
    rfl
  refine ⟨s', _, ?_, ?_, hawaits, hkeeps.trans hr⟩
  · show Lts.run next s [_, _] = _
    rw [Lts.run, hfirst]
    show Lts.run next _ [_] = _
    rw [Lts.run, hsecond]
    rfl
  · exact List.length_append

end

def sampleClock : NonceClock := ⟨0, 0⟩

/-- The access point starts the handshake anew. -/
def renewedAp : Spec.Authenticator := { System.sampleAp with aNonce := Buf.fill 32 9 }

/-- A passphrase join, its message 1 and a second one, with clocks that stand still. -/
def sampleDraws : List (Event × Env × NonceClock) :=
  withClock sampleClock (System.samplePskJoin ++
    System.deliver System.sampleMac System.sampleBssid
      (System.sampleAp.m1 System.sampleM1Choice).encode System.sampleEnv ++
    System.deliver System.sampleMac System.sampleBssid
      (renewedAp.m1 System.sampleM1Choice).encode System.sampleEnv)

theorem run_samplePskJoin :
    ∃ s, Lts.run next (init System.sampleMac) (withClock sampleClock System.samplePskJoin) = some s ∧
      s.draws.length = 0 ∧ Device.Associated System.sampleAp s.device ∧ s.device.fPtkValid = false ∧
        s.device.fRemoved = false := by
  have hpmk : (Lts.run next (init System.sampleMac) (withClock sampleClock System.samplePskJoin)).map
      (fun s => s.device.fPmk) = some System.samplePmk := rfl
  have hfields : (Lts.run next (init System.sampleMac)
      (withClock sampleClock System.samplePskJoin)).map (fun s =>
        ((s.device.fPmkValid, s.device.fJoinBssid, s.device.fMacAddress),
          (s.device.fWpaIe.bytes.take s.device.fWpaIeLength, s.device.fWpaIeLength),
          s.device.fPtkValid, s.device.fRemoved, s.draws.length)) =
      some ((true, System.sampleBssid, System.sampleMac), (Device.sRsnIeCcmpPsk, 22), false, false,
        0) := by
    decide +kernel
  obtain ⟨s, hs, hfields⟩ := Option.map_eq_some_iff.mp hfields
  rw [hs] at hpmk
  simp only [Prod.mk.injEq] at hfields
  obtain ⟨⟨hvalid, hbssid, hmac⟩, ⟨hie, hielen⟩, hptk, hremoved, hdraws⟩ := hfields
  exact ⟨s, hs, hdraws, ⟨Option.some.inj hpmk, hvalid, hbssid, hmac, hie, by rw [hielen]; decide⟩,
    hptk, hremoved⟩

/-- Two SNonces are drawn. -/
theorem snonces_fresh_sampleDraws :
    ∃ s, Lts.run next (init System.sampleMac) sampleDraws = some s ∧
      s.draws.length = 2 ∧ (s.draws.flatMap Draw.hashed).Nodup ∧
      s.draws.Pairwise (fun p q => p.sNonce = q.sNonce →
        p.block ≠ q.block ∧ sha1 p.block.bytes = sha1 q.block.bytes) ∧
      s.device.fSnonce = lastDrawn s.draws := by
  obtain ⟨s₀, hs₀, hdraws₀, hassoc, hptk, hremoved₀⟩ := run_samplePskJoin
  obtain ⟨s₁, sNonce, hs₁, hdraws₁, hawaits, hremoved₁⟩ := run_draw System.sampleM1Choice sampleClock
    hassoc hremoved₀ (fun h => Bool.false_ne_true (hptk.symm.trans h.1)) (by decide)
    (rfl : System.sampleEnv.transmit = .ok)
  have hrenewed : Device.Associated renewedAp s₁.device :=
    ⟨hawaits.pmk, hawaits.pmkValid, hawaits.aa, hawaits.spa, hawaits.rsnIe, hawaits.rsnIeLength⟩
  have hother : ¬ (s₁.device.fPtkValid = true ∧ s₁.device.fAnonce = renewedAp.aNonce) := by
    rw [hawaits.anonce]
    exact fun h => absurd h.2 (by decide)
  obtain ⟨s₂, -, hs₂, hdraws₂, -, -⟩ := run_draw System.sampleM1Choice sampleClock hrenewed hremoved₁
    hother (by decide) (rfl : System.sampleEnv.transmit = .ok)
  have hlen : s₂.draws.length = 2 := by rw [hdraws₂, hdraws₁, hdraws₀]
  have hrun : Lts.run next (init System.sampleMac) sampleDraws = some s₂ := by
    have hfirst : Lts.run next s₀ (withClock sampleClock (System.deliver System.sampleMac
        System.sampleBssid (System.sampleAp.m1 System.sampleM1Choice).encode System.sampleEnv)) =
        some s₁ := hs₁
    have hsecond : Lts.run next s₁ (withClock sampleClock (System.deliver System.sampleMac
        System.sampleBssid (renewedAp.m1 System.sampleM1Choice).encode System.sampleEnv)) =
        some s₂ := hs₂
    rw [sampleDraws, withClock_append, withClock_append, Lts.run_append, Lts.run_append, hs₀,
      Option.bind_some, hfirst, Option.bind_some, hsecond]
  exact ⟨s₂, hrun, hlen, snonces_fresh hrun (by rw [hlen]; decide)⟩

end Snonce
end Rtl8814au
