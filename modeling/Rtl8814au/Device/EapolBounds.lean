import Rtl8814au.Device.KeySafety
import Rtl8814au.Device.Steps

/-!
# Device.EapolBounds

Three lengths of a received EAPOL frame: how much of it arrived, how long it says its body is, and
how long its body says the key data is.

* `eapolReads`       — what `_HandleEapolFrame` reads of the payload.
* `ActsOnM3`         — the key data of a message 3 is unwrapped: the MIC has been accepted.
* `LengthDiscipline` — reads inside the payload, only what the MIC covers acted upon, and no stale
  byte in the result, whatever the stack and the MIC buffer hold.
* `Overreaches`      — a message 3 whose key data runs past its body and whose MIC can be accepted.
* `eapol_lengths`    — the discipline is kept exactly for the frames that are not of that kind.
-/

namespace Rtl8814au
namespace Device

open Crypto

/-- The same step over other stale memory. -/
def withStale (env : Env) (stack : Bytes) (m3copy : Buf 300) : Env :=
  { env with stack := stack, m3copy := m3copy }

/-- The MIC check of a message 3. -/
def MicMatches (d : Device) (frame : Bytes) (bodyLen : Nat) (env : Env) : Prop :=
  (m3Copy frame (4 + bodyLen) env).2 =
    eapolMic d.kck ((m3Copy frame (4 + bodyLen) env).1.bytes.take (4 + bodyLen))

instance (d : Device) (frame : Bytes) (bodyLen : Nat) (env : Env) :
    Decidable (d.MicMatches frame bodyLen env) := inferInstanceAs (Decidable (_ = _))

/-- The size check of its key data. -/
def KeyDataSized (keyDataLen : Nat) : Prop :=
  ¬ (keyDataLen < 16 ∨ keyDataLen % 8 ≠ 0 ∨ keyDataLen - 8 > 256)

instance (keyDataLen : Nat) : Decidable (KeyDataSized keyDataLen) :=
  inferInstanceAs (Decidable (¬ _))

structure ActsOnM3 (d : Device) (payload : Bytes) (env : Env) : Prop where
  isM3 : d.classify payload = some .m3
  mic : d.MicMatches (payload ++ env.stack) (be16At payload 2) env
  sized : KeyDataSized (be16At payload 97)

instance (d : Device) (payload : Bytes) (env : Env) : Decidable (d.ActsOnM3 payload env) :=
  decidable_of_iff (d.classify payload = some .m3 ∧
      d.MicMatches (payload ++ env.stack) (be16At payload 2) env ∧ KeyDataSized (be16At payload 97))
    ⟨fun ⟨h1, h2, h3⟩ => ⟨h1, h2, h3⟩, fun ⟨h1, h2, h3⟩ => ⟨h1, h2, h3⟩⟩

/-- Offset and length of every read, in the order of the code. The nonce and the replay counter are
those of a message 1; a message 3 is copied up to the end of its body, its key data is unwrapped in
place, and message 4 echoes its replay counter. -/
def eapolReads (d : Device) (payload : Bytes) (env : Env) : List (Nat × Nat) :=
  if payload.length < 99 then []
  else if payload.at 1 ≠ 3 ∨ payload.length < 4 + be16At payload 2 then [(0, 4)]
  else
    [(0, 4), (4, 5), (97, 2)] ++
      match d.classify payload with
      | none => []
      | some .m1 => [(17, 32), (9, 8)]
      | some .m3 =>
        if 4 + be16At payload 2 > 300 then []
        else
          (0, 4 + be16At payload 2) ::
            if d.ActsOnM3 payload env then [(99, be16At payload 97), (9, 8)] else []

/-- Key information, replay counter and key data. -/
def m3Fields (payload : Bytes) : List (Nat × Nat) := [(5, 2), (9, 8), (99, be16At payload 97)]

structure LengthDiscipline (d : Device) (payload : Bytes) (senderMac : Mac) (env : Env) :
    Prop where
  inside : ∀ stack m3copy, ∀ r ∈ d.eapolReads payload (withStale env stack m3copy),
    r.1 + r.2 ≤ payload.length
  covered : ∀ stack m3copy, d.ActsOnM3 payload (withStale env stack m3copy) →
    ∀ r ∈ m3Fields payload, r.1 + r.2 ≤ 4 + be16At payload 2
  independent : ∀ stack m3copy stack' m3copy',
    d.handleEapolFrame payload senderMac (withStale env stack m3copy) =
      d.handleEapolFrame payload senderMac (withStale env stack' m3copy')

/-! ## The MIC check over stale memory -/

/-- A frame with its MIC field, as far as it has one, set to zero. -/
def micZeroed (b : Bytes) : Bytes :=
  b.take 81 ++ (Bytes.zeros (min (b.length - 81) 16) ++ b.drop 97)

/-- As much of the MIC field as the frame has. -/
def micField (b : Bytes) : Bytes := b.slice 81 16

theorem take_append_drop_take {body rest : Bytes} {n : Nat} :
    ((body ++ rest).drop n).take (body.length - n) = body.drop n := by
  have hlen : (body.drop n).length = body.length - n := List.length_drop
  rw [List.drop_append, List.take_append, hlen, Nat.sub_self, List.take_zero, List.append_nil,
    List.take_of_length_le (Nat.le_of_eq hlen)]

theorem bytes_m3copy {frame : Bytes} {hashLen : Nat} (m3copy : Buf 300)
    (hlen : hashLen ≤ frame.length) (h300 : hashLen ≤ 300) :
    (m3copy.copyAt 0 (frame.take hashLen)).bytes =
      frame.take hashLen ++ m3copy.bytes.drop hashLen := by
  have hframe : (frame.take hashLen).length = hashLen := List.length_take_of_le hlen
  rw [Buf.bytes_copyAt _ (by omega), hframe, Nat.zero_add, List.take_zero, List.nil_append]

/-- The frame that is hashed is the one received. -/
theorem m3Copy_hashed {frame : Bytes} {hashLen : Nat} (env : Env) (hlen : hashLen ≤ frame.length)
    (h300 : hashLen ≤ 300) :
    (m3Copy frame hashLen env).1.bytes.take hashLen = micZeroed (frame.take hashLen) := by
  have hframe : (frame.take hashLen).length = hashLen := List.length_take_of_le hlen
  have hall : (frame.take hashLen ++ env.m3copy.bytes.drop hashLen).length = 300 := by
    rw [List.length_append, hframe, List.length_drop, Buf.length_eq]
    omega
  simp only [m3Copy]
  rw [Buf.bytes_copyAt _ (by simp), bytes_m3copy _ hlen h300]
  generalize frame.take hashLen = body at hframe hall
  generalize env.m3copy.bytes.drop hashLen = rest at hall
  subst hframe
  have hhead : ((body ++ rest).take 81).length = 81 := List.length_take_of_le (by omega)
  have hbefore : ((body ++ rest).take 81).take body.length = body.take 81 := by
    rw [List.take_take, List.take_append_of_le_length (Nat.min_le_left _ _),
      List.take_eq_take_min (i := 81), Nat.min_comm]
  have hzeros : (Bytes.zeros 16).length = 16 := Bytes.length_zeros 16
  generalize (body ++ rest).take 81 = head at hhead hbefore ⊢
  rw [List.take_append, hhead, hbefore, List.take_append, hzeros, Nat.sub_sub,
    take_append_drop_take, Bytes.zeros, List.take_replicate]
  rfl

/-- The MIC compared is what the frame has of it, and then what the buffer held before. -/
theorem m3Copy_mic {frame : Bytes} {hashLen : Nat} (env : Env) (hlen : hashLen ≤ frame.length)
    (h300 : hashLen ≤ 300) :
    (m3Copy frame hashLen env).2 = micField (frame.take hashLen) ++
      env.m3copy.bytes.slice (81 + (micField (frame.take hashLen)).length)
        (16 - (micField (frame.take hashLen)).length) := by
  have hframe : (frame.take hashLen).length = hashLen := List.length_take_of_le hlen
  have hfield : (micField (frame.take hashLen)).length = min 16 (hashLen - 81) := by
    rw [micField, Bytes.slice, List.length_take, List.length_drop, hframe]
  simp only [m3Copy]
  rw [bytes_m3copy _ hlen h300, hfield]
  unfold micField Bytes.slice
  rw [List.drop_append, List.take_append, List.length_drop, hframe, List.drop_drop]
  congr 1
  by_cases hfull : hashLen ≤ 97
  · have hoff : hashLen + (81 - hashLen) = 81 + min 16 (hashLen - 81) := by omega
    have hrest : 16 - (hashLen - 81) = 16 - min 16 (hashLen - 81) := by omega
    rw [hoff, hrest]
  · have h0 : 16 - (hashLen - 81) = 0 := by omega
    have h0' : 16 - min 16 (hashLen - 81) = 0 := by omega
    rw [h0, h0', List.take_zero, List.take_zero]

/-- The MIC of the frame, computed with the KCK, begins with what the frame has of a MIC. -/
def MicAcceptable (d : Device) (payload : Bytes) : Prop :=
  micField (payload.take (4 + be16At payload 2)) <+:
    eapolMic d.kck (micZeroed (payload.take (4 + be16At payload 2)))

/-- Lengths of a frame that gets past the first checks. -/
structure Sized (payload : Bytes) : Prop where
  header : 99 ≤ payload.length
  body : 4 + be16At payload 2 ≤ payload.length
  buffer : payload.length ≤ 300

theorem micMatches_iff {d : Device} {payload : Bytes} (h : Sized payload) (env : Env) :
    d.MicMatches (payload ++ env.stack) (be16At payload 2) env ↔
      micField (payload.take (4 + be16At payload 2)) ++
          env.m3copy.bytes.slice (81 + (micField (payload.take (4 + be16At payload 2))).length)
            (16 - (micField (payload.take (4 + be16At payload 2))).length) =
        eapolMic d.kck (micZeroed (payload.take (4 + be16At payload 2))) := by
  have hlen : 4 + be16At payload 2 ≤ (payload ++ env.stack).length := by
    rw [List.length_append]
    exact Nat.le_trans h.body (Nat.le_add_right _ _)
  have h300 := Nat.le_trans h.body h.buffer
  have htake : (payload ++ env.stack).take (4 + be16At payload 2) =
      payload.take (4 + be16At payload 2) := List.take_append_of_le_length h.body
  unfold MicMatches
  rw [m3Copy_mic env hlen h300, m3Copy_hashed env hlen h300, htake]

theorem micAcceptable_of_matches {d : Device} {payload : Bytes} (h : Sized payload) {env : Env}
    (hm : d.MicMatches (payload ++ env.stack) (be16At payload 2) env) : d.MicAcceptable payload :=
  ⟨_, (micMatches_iff h env).mp hm⟩

/-- Some content of the buffer makes an acceptable MIC match. -/
theorem exists_matches {d : Device} {payload : Bytes} (h : Sized payload)
    (hacc : d.MicAcceptable payload) (env : Env) :
    ∃ m3copy, ∀ stack, d.MicMatches (payload ++ stack) (be16At payload 2)
      (withStale env stack m3copy) := by
  obtain ⟨rest, hrest⟩ := hacc
  have hmic := length_eapolMic d.kck (micZeroed (payload.take (4 + be16At payload 2)))
  rw [← hrest, List.length_append] at hmic
  refine ⟨(Buf.zero 300).copyAt (81 + (micField (payload.take (4 + be16At payload 2))).length) rest,
    fun stack => ?_⟩
  have hfits : 81 + (micField (payload.take (4 + be16At payload 2))).length + rest.length ≤ 300 := by
    omega
  have hslice := (Buf.zero 300).slice_copyAt hfits
  have hn : 16 - (micField (payload.take (4 + be16At payload 2))).length = rest.length := by omega
  refine (micMatches_iff h (withStale env stack _)).mpr ?_
  rw [← hrest, hn]
  exact congrArg _ hslice

/-- A MIC field inside the frame leaves the buffer no part in the check. -/
theorem matches_of_full {d : Device} {payload : Bytes} (h : Sized payload)
    (hfull : 97 ≤ 4 + be16At payload 2) (env env' : Env) :
    d.MicMatches (payload ++ env.stack) (be16At payload 2) env ↔
      d.MicMatches (payload ++ env'.stack) (be16At payload 2) env' := by
  have hframe : (payload.take (4 + be16At payload 2)).length = 4 + be16At payload 2 :=
    List.length_take_of_le h.body
  have hfield : (micField (payload.take (4 + be16At payload 2))).length = 16 :=
    Bytes.length_slice (by omega)
  have hnone : ∀ b : Bytes, b.slice (81 + 16) (16 - 16) = [] := fun b => List.take_zero
  rw [micMatches_iff h, micMatches_iff h, hfield, hnone, hnone]

/-! ## The frames that overreach -/

structure Overreaches (d : Device) (payload : Bytes) : Prop where
  isM3 : d.classify payload = some .m3
  sized : KeyDataSized (be16At payload 97)
  beyond : be16At payload 2 < 95 + be16At payload 97
  acceptable : d.MicAcceptable payload

theorem sized_of_classify {d : Device} {payload : Bytes} {message : EapolMessage}
    (h300 : payload.length ≤ 300) (h : d.classify payload = some message) : Sized payload := by
  unfold classify at h
  split at h
  · cases h
  split at h
  · cases h
  split at h
  · cases h
  · rename_i h99 htype hbody
    exact ⟨Nat.not_lt.mp h99, Nat.not_lt.mp hbody, h300⟩

/-- The group key in wrapped key data. -/
def gtkOf (d : Device) (wrapped : Bytes) : Option GtkKde :=
  match aesUnwrap d.kek wrapped with
  | (false, _) => none
  | (true, plaintext) =>
    let gtk := kdeWalk plaintext 0 { gtkKey := [], gtkKeyId := 0 }
    if gtk.gtkKey.length = 0 then none else some gtk

theorem verifyM3_eq (d : Device) (frame : Bytes) {bodyLen : Nat} (keyDataLen : Nat) (env : Env)
    (h300 : 4 + bodyLen ≤ 300) :
    d.verifyM3 frame bodyLen keyDataLen env =
      if d.MicMatches frame bodyLen env ∧ KeyDataSized keyDataLen then
        d.gtkOf (Bytes.pad keyDataLen (frame.slice 99 keyDataLen))
      else none := by
  unfold verifyM3 MicMatches KeyDataSized
  rw [if_neg (Nat.not_lt.mpr h300)]
  dsimp only
  split
  · rename_i hmic
    rw [if_neg fun h => hmic h.1]
  rename_i hmic
  rw [not_not] at hmic
  split
  · rename_i hsize
    rw [if_neg fun h => h.2 hsize]
  · rename_i hsize
    rw [if_pos ⟨hmic, hsize⟩]
    rfl

/-- The key data is inside the body when the frame does not overreach. -/
theorem within_of_acts {d : Device} {payload : Bytes} {env : Env} (h300 : payload.length ≤ 300)
    (hno : ¬ d.Overreaches payload) (h : d.ActsOnM3 payload env) :
    95 + be16At payload 97 ≤ be16At payload 2 := by
  by_contra hbeyond
  have hsized := sized_of_classify h300 h.isM3
  exact hno ⟨h.isM3, h.sized, Nat.not_le.mp hbeyond, micAcceptable_of_matches hsized h.mic⟩

theorem eapolReads_inside {d : Device} {payload : Bytes} {env : Env} (h300 : payload.length ≤ 300)
    (hno : ¬ d.Overreaches payload) :
    ∀ r ∈ d.eapolReads payload env, r.1 + r.2 ≤ payload.length := by
  unfold eapolReads
  split
  · exact nofun
  rename_i h99
  rw [Nat.not_lt] at h99
  split
  · simp only [List.mem_singleton, forall_eq]
    omega
  rename_i hok
  rw [not_or, Nat.not_lt] at hok
  intro r hr
  rcases List.mem_append.mp hr with hr | hr
  · simp only [List.mem_cons, List.not_mem_nil, or_false] at hr
    rcases hr with rfl | rfl | rfl
    · omega
    · omega
    · omega
  cases hc : d.classify payload with
  | none =>
    rw [hc] at hr
    cases hr
  | some message =>
    cases message with
    | m1 =>
      rw [hc] at hr
      simp only [List.mem_cons, List.not_mem_nil, or_false] at hr
      rcases hr with rfl | rfl
      · omega
      · omega
    | m3 =>
      rw [hc] at hr
      dsimp only at hr
      rw [if_neg (by omega)] at hr
      rcases List.mem_cons.mp hr with rfl | hr
      · omega
      split at hr
      · rename_i hacts
        have hwithin := within_of_acts h300 hno hacts
        simp only [List.mem_cons, List.not_mem_nil, or_false] at hr
        rcases hr with rfl | rfl
        · omega
        · omega
      · cases hr

/-- Stale memory has no part in what a message 3 is verified to. -/
theorem verifyM3_stale {d : Device} {payload : Bytes} (hsized : Sized payload)
    (hm3 : d.classify payload = some .m3) (hno : ¬ d.Overreaches payload) (env env' : Env) :
    d.verifyM3 (payload ++ env.stack) (be16At payload 2) (be16At payload 97) env =
      d.verifyM3 (payload ++ env'.stack) (be16At payload 2) (be16At payload 97) env' := by
  have h300 := Nat.le_trans hsized.body hsized.buffer
  rw [verifyM3_eq _ _ _ _ h300, verifyM3_eq _ _ _ _ h300]
  by_cases hkey : KeyDataSized (be16At payload 97)
  · by_cases hwithin : 95 + be16At payload 97 ≤ be16At payload 2
    · have hmin : 16 ≤ be16At payload 97 := by
        unfold KeyDataSized at hkey
        omega
      have hmic := matches_of_full (d := d) hsized (by omega) env env'
      have hslice : ∀ stack, (payload ++ stack).slice 99 (be16At payload 97) =
          payload.slice 99 (be16At payload 97) := fun stack =>
        Bytes.slice_append_left (Nat.le_trans (by omega) hsized.body)
      rw [hslice, hslice]
      by_cases hm : d.MicMatches (payload ++ env.stack) (be16At payload 2) env
      · rw [if_pos ⟨hm, hkey⟩, if_pos ⟨hmic.mp hm, hkey⟩]
      · rw [if_neg fun h => hm h.1, if_neg fun h => hm (hmic.mpr h.1)]
    · have hunmatched : ∀ env : Env,
          ¬ d.MicMatches (payload ++ env.stack) (be16At payload 2) env := fun env hm =>
        hno ⟨hm3, hkey, Nat.not_le.mp hwithin, micAcceptable_of_matches hsized hm⟩
      rw [if_neg fun h => hunmatched env h.1, if_neg fun h => hunmatched env' h.1]
  · rw [if_neg fun h => hkey h.2, if_neg fun h => hkey h.2]

theorem handleEapolFrame_stale {d : Device} {payload : Bytes} (h300 : payload.length ≤ 300)
    (hno : ¬ d.Overreaches payload) (senderMac : Mac) (env : Env) (stack stack' : Bytes)
    (m3copy m3copy' : Buf 300) :
    d.handleEapolFrame payload senderMac (withStale env stack m3copy) =
      d.handleEapolFrame payload senderMac (withStale env stack' m3copy') := by
  unfold handleEapolFrame
  cases hc : d.classify payload with
  | none => rfl
  | some message =>
    cases message with
    | m1 => rfl
    | m3 =>
      have hsized := sized_of_classify h300 hc
      have hverify := verifyM3_stale hsized hc hno (withStale env stack m3copy)
        (withStale env stack' m3copy')
      have hslice : ∀ stack, (payload ++ stack).slice 9 8 = payload.slice 9 8 := fun stack =>
        Bytes.slice_append_left (Nat.le_trans (by omega) hsized.header)
      dsimp only
      unfold handleM3
      rw [hverify]
      split
      · rfl
      · unfold finishM3
        rw [hslice, hslice]
        rfl

/-- A frame is handled within its lengths, whatever stale memory holds, exactly if it is not a
message 3 with key data past its body and a MIC that can be accepted. -/
theorem eapol_lengths {d : Device} {payload : Bytes} (senderMac : Mac) (env : Env)
    (h300 : payload.length ≤ 300) :
    d.LengthDiscipline payload senderMac env ↔ ¬ d.Overreaches payload := by
  constructor
  · intro h hover
    have hsized := sized_of_classify h300 hover.isM3
    obtain ⟨m3copy, hmatches⟩ := exists_matches hsized hover.acceptable env
    have hcovered := h.covered [] m3copy ⟨hover.isM3, hmatches [], hover.sized⟩
      (99, be16At payload 97) (by simp [m3Fields])
    have hbeyond := hover.beyond
    dsimp only at hcovered
    omega
  · intro hno
    refine ⟨fun stack m3copy => eapolReads_inside h300 hno, ?_, ?_⟩
    · intro stack m3copy hacts r hr
      have hwithin := within_of_acts h300 hno hacts
      have hkey := hacts.sized
      unfold KeyDataSized at hkey
      simp only [m3Fields, List.mem_cons, List.not_mem_nil, or_false] at hr
      rcases hr with rfl | rfl | rfl
      · omega
      · omega
      · omega
    · intro stack m3copy stack' m3copy'
      exact handleEapolFrame_stale h300 hno senderMac env stack stack' m3copy m3copy'

/-- In the middle of a handshake. -/
def awaitingM3 : Device :=
  { Device.init System.sampleMac with fEapolState := .kEapolWaitM3, fPtkValid := true }

theorem eapol_lengths_m1 :
    awaitingM3.LengthDiscipline (System.sampleM1.drop 32) System.sampleBssid System.sampleEnv :=
  (eapol_lengths System.sampleBssid System.sampleEnv (by decide)).mpr fun hover =>
    absurd hover.isM3 (by decide)

/-- A message 3 that declares an empty body and 24 bytes of key data. -/
def emptyBodyM3 : Bytes :=
  [0x02, 0x03, 0, 0, 0x02, 0x01, 0xCA] ++ Bytes.zeros 91 ++ [24]

/-- Nothing of its MIC is received, so that what the buffer held before can be accepted. -/
theorem eapol_lengths_emptyBody :
    ¬ ∀ (d : Device) (payload : Bytes) (senderMac : Mac) (env : Env), payload.length ≤ 300 →
      d.LengthDiscipline payload senderMac env := by
  intro hclaim
  have h := hclaim awaitingM3 emptyBodyM3 System.sampleBssid System.sampleEnv (by decide)
  have hm3 : awaitingM3.classify emptyBodyM3 = some .m3 := by decide
  have hsized := sized_of_classify (by decide) hm3
  have hacceptable : awaitingM3.MicAcceptable emptyBodyM3 := List.nil_prefix
  obtain ⟨m3copy, hmatches⟩ := exists_matches hsized hacceptable System.sampleEnv
  have hcovered := h.covered [] m3copy ⟨hm3, hmatches [], by decide⟩ (99, 24) (by decide)
  exact absurd hcovered (by decide)

end Device
end Rtl8814au
