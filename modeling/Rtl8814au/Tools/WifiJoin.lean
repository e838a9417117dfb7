import Rtl8814au.Crypto.KeyDerivation
import Rtl8814au.Device.AssocRequest
import Rtl8814au.Device.ControlRequests
import Rtl8814au.Lib.Scanf

/-!
# Tools.WifiJoin

`wifi-join`, from its command line to what the driver makes of the request.

* `parseBssid`, `command` — the command line.
* `Asks`          — the two structures of the tool, in its memory.
* `command_joins` — the driver takes every request of the tool, and has its passphrase and SSID.
-/

namespace Rtl8814au

namespace WifiJoin

/-- An argument, up to its terminator. -/
structure Arg where
  bytes : Bytes
  noZero : 0 ∉ bytes

variable (wide : Bool → Nat → UInt32)

/-- `%x:%x:%x:%x:%x:%x`, and the range of each number. -/
def parseBssid (s : Bytes) : Option Mac :=
  let b := Scanf.scanAll wide 0x3A 6 s
  if b.length ≠ 6 then none
  else if b.any fun v => v > 0xFF then none
  else some (Buf.ofBytes 6 (b.map UInt32.toUInt8))

/-- The request of a `rtl_haiku_join_psk`. -/
def joinPsk (bssid : Mac) (ssid passphrase : Arg) : Request :=
  .haikuJoinPsk bssid (UInt8.ofNat ssid.bytes.length) ((Buf.zero 32).copyAt 0 ssid.bytes)
    (UInt8.ofNat passphrase.bytes.length) ((Buf.zero 64).copyAt 0 passphrase.bytes)

inductive Command where
  | usage
  | badSsid
  | badPassphrase
  | badBssid
  | join (dev : Arg) (request : Request)

/-- `main` up to the opening of the device. -/
def command : List Arg → Command
  | _ :: dev :: ssid :: passphrase :: rest =>
    if ssid.bytes.length < 1 ∨ ssid.bytes.length > 32 then .badSsid
    else if passphrase.bytes.length < 8 ∨ passphrase.bytes.length > 63 then .badPassphrase
    else
      match rest with
      | [] => .join dev (joinPsk (Buf.zero 6) ssid passphrase)
      | text :: _ =>
        match parseBssid wide text.bytes with
        | none => .badBssid
        | some bssid => .join dev (joinPsk bssid ssid passphrase)
  | _ => .usage

/-- What `memset` and `strncpy` leave in the fields that the driver does not look at. -/
def unread (dev : Arg) : Unread where
  iName := (Buf.zero 32).copyAt 0 (dev.bytes.take 31)
  iGap := Buf.zero 2
  imReason := Buf.zero 2
  ikType := Buf.zero 2
  ikFlags := 0
  ikCounters := Buf.zero 20
  ikMic := Buf.zero 8
  jpPad := 0
  jpPad2 := Buf.zero 3

/-- The structures of the call, `req` at `iData`. -/
structure Asks (m : UserMemory) (args iData : Nat) (dev : Arg) (request : Request) : Prop where
  address : 0 < iData ∧ iData < 2 ^ 64
  ireq : m.Holds args (reqFields (unread dev) .haikuJoin 0 kJoinSize iData).flatten
  req : m.Holds iData (request.encode (unread dev))

/-! ## The address -/

/-- Six numbers, each in one or more digits. -/
def SpellsMac (text : Bytes) (mac : Mac) : Prop :=
  ∃ texts, List.Forall₂ (fun t b => Scanf.Spells t b.toNat) texts mac.bytes ∧
    text = List.intercalate [0x3A] texts

variable {wide}

theorem parseBssid_spelled {text : Bytes} {mac : Mac} (h : SpellsMac text mac) :
    parseBssid wide text = some mac := by
  obtain ⟨texts, htexts, rfl⟩ := h
  have hlen : texts.length = 6 := htexts.length_eq.trans mac.length_eq
  have hspells : List.Forall₂ (fun t v => Scanf.Spells t v ∧ v < 0x100000000) texts
      (mac.bytes.map UInt8.toNat) := by
    refine List.forall₂_map_right_iff.mpr (htexts.imp fun t b hb => ⟨hb, ?_⟩)
    have hb := b.toNat_lt
    omega
  have hscan : Scanf.scanAll wide 0x3A texts.length (List.intercalate [0x3A] texts) =
      (mac.bytes.map UInt8.toNat).map UInt32.ofNat := Scanf.scanAll_spelled (by decide) hspells
  rw [hlen] at hscan
  have hbyte : ∀ b : UInt8, ¬ UInt32.ofNat b.toNat > 0xFF ∧ (UInt32.ofNat b.toNat).toUInt8 = b :=
    Bytes.forall_byte (by decide +kernel)
  have hrange : ((mac.bytes.map UInt8.toNat).map UInt32.ofNat).any (fun v => v > 0xFF) = false := by
    rw [List.map_map, List.any_map, List.any_eq_false]
    intro b _
    simpa using (hbyte b).1
  have hback : ((mac.bytes.map UInt8.toNat).map UInt32.ofNat).map UInt32.toUInt8 = mac.bytes := by
    rw [List.map_map, List.map_map]
    exact (List.map_congr_left fun b _ => (hbyte b).2).trans (List.map_id _)
  unfold parseBssid
  rw [hscan]
  dsimp only
  rw [if_neg (by simp [mac.length_eq]), if_neg (by rw [hrange]; decide), hback, Buf.ofBytes_bytes]

/-! ## The command -/

/-- What an accepted command line gives. -/
structure Given (wide : Bool → Nat → UInt32) (argv : List Arg) (dev : Arg) (bssid : Mac)
    (ssid passphrase : Arg) : Prop where
  devGiven : argv[1]? = some dev
  ssidGiven : argv[2]? = some ssid
  passphraseGiven : argv[3]? = some passphrase
  noBssid : argv[4]? = none → bssid = Buf.zero 6
  bssid : ∀ text, argv[4]? = some text → parseBssid wide text.bytes = some bssid
  ssidLength : 1 ≤ ssid.bytes.length ∧ ssid.bytes.length ≤ 32
  passphraseLength : 8 ≤ passphrase.bytes.length ∧ passphrase.bytes.length ≤ 63

theorem given_of_command {argv : List Arg} {dev : Arg} {request : Request}
    (h : command wide argv = .join dev request) :
    ∃ bssid ssid passphrase, Given wide argv dev bssid ssid passphrase ∧
      request = joinPsk bssid ssid passphrase := by
  unfold command at h
  split at h
  · rename_i name dev' ssid passphrase rest
    split at h
    · cases h
    rename_i hssid
    split at h
    · cases h
    rename_i hpassphrase
    have hlengths : (1 ≤ ssid.bytes.length ∧ ssid.bytes.length ≤ 32) ∧
        8 ≤ passphrase.bytes.length ∧ passphrase.bytes.length ≤ 63 := by omega
    split at h
    · cases h
      refine ⟨_, ssid, passphrase, ⟨rfl, rfl, rfl, fun _ => rfl, ?_, hlengths.1, hlengths.2⟩, rfl⟩
      intro text htext
      cases htext
    · rename_i text more
      split at h
      · cases h
      · rename_i bssid hbssid
        cases h
        refine ⟨bssid, ssid, passphrase, ⟨rfl, rfl, rfl, ?_, ?_, hlengths.1, hlengths.2⟩, rfl⟩
        · intro hnone
          cases hnone
        · intro text' htext
          cases htext
          exact hbssid
  · cases h

theorem laid_of_asks {m : UserMemory} {args iData : Nat} {dev : Arg} {bssid : Mac}
    {ssid passphrase : Arg} (h : Asks m args iData dev (joinPsk bssid ssid passphrase)) :
    Laid m args iData (unread dev) (joinPsk bssid ssid passphrase) .haikuJoin := by
  have hlen : ((joinPsk bssid ssid passphrase).encode (unread dev)).length = kJoinSize := by
    simp [joinPsk, Request.encode, Request.fields, kJoinSize]
  have hval : IsInt16 0 := ⟨by decide, by decide⟩
  refine ⟨rfl, hval, by rw [hlen]; decide, h.address, ?_, h.req⟩
  rw [hlen]
  exact h.ireq

/-! ## The driver -/

/-- It has the PMK of the network, and is after it unless there is no one to join. -/
structure Joined (ssid passphrase : Arg) (target : Option Mac) (env : Env) (r : CallReply) :
    Prop where
  pmkValid : r.console.device.fPmkValid = true
  pmk : Spec.KeyDerivation.pbkdf2 passphrase.bytes ssid.bytes 4096 32 =
    some r.console.device.fPmk.bytes
  unresolved : target = none → r.status = .is .nameNotFound
  started : ∀ b, target = some b → r.status = .is env.transmit ∧
    r.console.device.fJoinState = .kJoinAuthenticating ∧ r.console.device.fJoinBssid = b ∧
    r.console.device.fJoinSsidLength = ssid.bytes.length ∧
    r.console.device.fJoinSsid.bytes.take ssid.bytes.length = ssid.bytes

theorem toNat_length {s : Bytes} (h : s.length < 256) :
    (UInt8.ofNat s.length).toNat = s.length := by
  rw [UInt8.toNat_ofNat']
  exact Nat.mod_eq_of_lt h

/-- A string that was copied into a zeroed array, and the byte with its length. -/
theorem take_copied {n : Nat} {s : Bytes} (hn : s.length ≤ n) (hbyte : s.length < 256) :
    ((Buf.zero n).copyAt 0 s).bytes.take (UInt8.ofNat s.length).toNat = s := by
  have htake := (Buf.zero n).take_copyAt (show 0 + s.length ≤ n by omega)
  rw [Nat.zero_add, List.take_zero, List.nil_append] at htake
  rw [toNat_length hbyte, htake]

/-- The device with the arguments of the request, ahead of the join. -/
def takesArguments (d : Device) (bssid : Mac) (ssid passphrase : Arg) : Device :=
  d.withPassphrase bssid (UInt8.ofNat ssid.bytes.length) ((Buf.zero 32).copyAt 0 ssid.bytes)
    (UInt8.ofNat passphrase.bytes.length) ((Buf.zero 64).copyAt 0 passphrase.bytes)

section

variable {ssid passphrase : Arg} (hssid : 1 ≤ ssid.bytes.length ∧ ssid.bytes.length ≤ 32)
  (hpassphrase : 8 ≤ passphrase.bytes.length ∧ passphrase.bytes.length ≤ 63)

include hssid hpassphrase

/-- What the tool lets through is in the range that the driver checks. -/
theorem lengths_accepted :
    ¬ (UInt8.ofNat ssid.bytes.length = 0 ∨ UInt8.ofNat ssid.bytes.length > 32 ∨
      UInt8.ofNat passphrase.bytes.length = 0 ∨ UInt8.ofNat passphrase.bytes.length > 63) := by
  have hs := toNat_length (s := ssid.bytes) (by omega)
  have hp := toNat_length (s := passphrase.bytes) (by omega)
  rw [← UInt8.toNat_inj, ← UInt8.toNat_inj, gt_iff_lt, gt_iff_lt, UInt8.lt_iff_toNat_lt,
    UInt8.lt_iff_toNat_lt, hs, hp]
  simp only [UInt8.reduceToNat]
  omega

theorem takesArguments_device (d : Device) (bssid : Mac) :
    ∃ wpaIe wpaIeLength, takesArguments d bssid ssid passphrase =
      { (d.setPmk passphrase.bytes ssid.bytes).setSsid ssid.bytes with
        fJoinBssid := bssid, fWpaIe := wpaIe, fWpaIeLength := wpaIeLength } := by
  obtain ⟨wpaIe, wpaIeLength, hd⟩ := d.withPassphrase_device bssid
    (UInt8.ofNat ssid.bytes.length) ((Buf.zero 32).copyAt 0 ssid.bytes)
    (UInt8.ofNat passphrase.bytes.length) ((Buf.zero 64).copyAt 0 passphrase.bytes)
  have hssidTake := take_copied (n := 32) hssid.2 (by omega)
  have hpassphraseTake := take_copied (n := 64) (s := passphrase.bytes) (by omega) (by omega)
  rw [hssidTake, hpassphraseTake] at hd
  exact ⟨wpaIe, wpaIeLength, hd⟩

theorem take_takesArguments (d : Device) (bssid : Mac) :
    (takesArguments d bssid ssid passphrase).fJoinSsid.bytes.take ssid.bytes.length =
      ssid.bytes := by
  obtain ⟨wpaIe, wpaIeLength, hd⟩ := takesArguments_device hssid hpassphrase d bssid
  have hroom : 0 + (ssid.bytes ++ [0]).length ≤ 33 := by
    rw [List.length_append, List.length_singleton]
    omega
  rw [hd]
  show (d.fJoinSsid.copyAt 0 (ssid.bytes ++ [0])).bytes.take ssid.bytes.length = _
  rw [Buf.bytes_copyAt _ hroom, List.take_zero, List.nil_append, List.append_assoc,
    List.take_left' rfl]

theorem joined_handle (c : Console) (bssid : Mac) (env : Env) :
    Joined ssid passphrase (Device.joinTarget bssid env) env
      (c.handle (joinPsk bssid ssid passphrase) env) := by
  have hname := take_takesArguments hssid hpassphrase c.device bssid
  obtain ⟨wpaIe, wpaIeLength, hd⟩ := takesArguments_device hssid hpassphrase c.device bssid
  have hset : c.device.set80211 (joinPsk bssid ssid passphrase) env =
      (takesArguments c.device bssid ssid passphrase).doJoin
        (takesArguments c.device bssid ssid passphrase).fJoinBssid
        (takesArguments c.device bssid ssid passphrase).fJoinSsid.bytes
        (takesArguments c.device bssid ssid passphrase).fJoinSsidLength env :=
    if_neg (lengths_accepted hssid hpassphrase)
  generalize takesArguments c.device bssid ssid passphrase = d1 at hname hd hset
  have hbssid : d1.fJoinBssid = bssid := by rw [hd]
  have hlen : d1.fJoinSsidLength = ssid.bytes.length := by
    rw [hd]
    rfl
  have hvalid : d1.fPmkValid = true := by
    rw [hd]
    rfl
  have hpmk : Spec.KeyDerivation.pbkdf2 passphrase.bytes ssid.bytes 4096 32 =
      some d1.fPmk.bytes := by
    rw [hd]
    exact Crypto.pbkdf2HmacSha1_eq 4096 (by omega) (by decide)
  have hhandle : c.handle (joinPsk bssid ssid passphrase) env =
      ⟨{ c with host := { c.host with station :=
          ⟨(c.device.set80211 (joinPsk bssid ssid passphrase) env).device,
            c.host.station.managerStep (.control (joinPsk bssid ssid passphrase))⟩ } },
        (c.device.set80211 (joinPsk bssid ssid passphrase) env).actions, none,
        .is (c.device.set80211 (joinPsk bssid ssid passphrase) env).status⟩ := rfl
  rw [hhandle, hset, Device.doJoin_eq, hbssid]
  cases htarget : Device.joinTarget bssid env with
  | none =>
    refine ⟨hvalid, hpmk, fun _ => rfl, ?_⟩
    intro b hb
    cases hb
  | some target =>
    refine ⟨hvalid, hpmk, ?_, ?_⟩
    · intro hnone
      cases hnone
    · intro b hb
      cases hb
      refine ⟨rfl, rfl, rfl, hlen, ?_⟩
      -- The SSID field is copied onto itself.
      have hroom : ssid.bytes.length ≤ d1.joinReset.fJoinSsid.bytes.length := by
        rw [Buf.length_eq]
        omega
      have hself := (Device.ssidSurvives_iff hssid.2 hroom).mpr
        (Device.ssidSurvives_field d1.joinReset ssid.bytes.length)
      exact hself.trans hname

end

/-- Every command line that is accepted: the driver does not refuse its request, has the PMK of the
passphrase and the SSID, and goes after the BSSID, if one is given, in whatever digits it is
written. -/
theorem command_joins {argv : List Arg} {dev : Arg} {request : Request}
    (hcommand : command wide argv = .join dev request) {c : Console}
    (hremoved : c.device.fRemoved = false) {m : UserMemory} {args iData : Nat}
    (hasks : Asks m args iData dev request) (e : CallEnv) :
    ∃ bssid ssid passphrase, argv[2]? = some ssid ∧ argv[3]? = some passphrase ∧
      (argv[4]? = none → bssid = Buf.zero 6) ∧
      (∀ text mac, argv[4]? = some text → SpellsMac text.bytes mac → bssid = mac) ∧
      ∃ r, (∀ r' m', Dialogue.Runs UserMemory.Serves (c.control .siocS80211 args kReqSize e) m r' m' ↔
          r' = r ∧ m' = m) ∧
        Joined ssid passphrase (Device.joinTarget bssid e.env) e.env r := by
  obtain ⟨bssid, ssid, passphrase, hgiven, rfl⟩ := given_of_command hcommand
  refine ⟨bssid, ssid, passphrase, hgiven.ssidGiven, hgiven.passphraseGiven, hgiven.noBssid,
    ?_, ?_⟩
  · intro text mac htext hspells
    have hparsed := hgiven.bssid text htext
    rw [parseBssid_spelled hspells] at hparsed
    exact (Option.some.inj hparsed).symm
  · exact ⟨c.handle (joinPsk bssid ssid passphrase) e.env,
      (Console.request_handled hremoved (Nat.le_refl _) (laid_of_asks hasks) e).1,
      joined_handle hgiven.ssidLength hgiven.passphraseLength c bssid e.env⟩

def sampleDev : Arg := ⟨[0x30], by decide⟩

/-- `net`, `password` and `2:11:22:33:44:5f`. -/
def sampleSsid : Arg := ⟨[0x6E, 0x65, 0x74], by decide⟩

def samplePassphrase : Arg := ⟨[0x70, 0x61, 0x73, 0x73, 0x77, 0x6F, 0x72, 0x64], by decide⟩

def sampleDigits : List Bytes :=
  [[0x32], [0x31, 0x31], [0x32, 0x32], [0x33, 0x33], [0x34, 0x34], [0x35, 0x66]]

def sampleText : Arg := ⟨List.intercalate [0x3A] sampleDigits, by decide⟩

def sampleTarget : Mac := Buf.ofBytes 6 [0x02, 0x11, 0x22, 0x33, 0x44, 0x5F]

def sampleArgv : List Arg := [sampleDev, sampleDev, sampleSsid, samplePassphrase, sampleText]

/-- The two structures, one behind the other. -/
def sampleStack : Bytes :=
  (reqFields (unread sampleDev) .haikuJoin 0 kJoinSize 48).flatten ++
    (joinPsk sampleTarget sampleSsid samplePassphrase).encode (unread sampleDev)

theorem asks_sampleStack : Asks (Console.sampleMemory sampleStack) 0 48 sampleDev
    (joinPsk sampleTarget sampleSsid samplePassphrase) where
  address := ⟨by decide, by decide⟩
  ireq := by
    show ∀ i < 48, (Console.sampleMemory sampleStack).byte (0 + i) = _
    decide +kernel
  req := by
    show ∀ i < 108, (Console.sampleMemory sampleStack).byte (48 + i) = _
    decide +kernel

theorem command_joins_sampleArgv :
    ∃ r, (∀ r' m', Dialogue.Runs UserMemory.Serves
        ((Console.init System.sampleMac).control .siocS80211 0 kReqSize Console.sampleCall)
        (Console.sampleMemory sampleStack) r' m' ↔
          r' = r ∧ m' = Console.sampleMemory sampleStack) ∧
      Joined sampleSsid samplePassphrase (some sampleTarget) System.sampleEnv r := by
  have hcommand : command (fun _ _ => 0) sampleArgv =
      .join sampleDev (joinPsk sampleTarget sampleSsid samplePassphrase) := rfl
  obtain ⟨bssid, ssid, passphrase, hssid, hpassphrase, -, hbssid, r, hruns, hjoined⟩ :=
    command_joins hcommand (c := Console.init System.sampleMac) rfl asks_sampleStack
      Console.sampleCall
  have hspells : SpellsMac sampleText.bytes sampleTarget :=
    ⟨sampleDigits, by decide +kernel, rfl⟩
  cases hssid
  cases hpassphrase
  obtain rfl := hbssid sampleText sampleTarget rfl hspells
  exact ⟨r, hruns, hjoined⟩

end WifiJoin
end Rtl8814au
