import Rtl8814au.Crypto.Sha1Correct
import Rtl8814au.Crypto.UnwrapCorrect

/-!
# Spec.Authenticator

The authenticator's side of the 4-way handshake with AES-CCMP: what the AP sends, and what it checks
in the answers.

* `EapolKey`: an EAPOL-Key frame; `encode` and `decode` are its two directions.
* `Authenticator.ptk`: the pairwise key hierarchy for an SNonce.
* `m1`, `m3`: the messages to the station. Message 3 carries the GTK among other elements.
* `acceptM2`, `acceptM4`: key information, replay counter, key data and MIC of the answers.
-/

namespace Rtl8814au
namespace Spec

open Crypto (Block)

/-! ## EAPOL-Key frames -/

/-- With descriptor type 2, the one of RSN. -/
structure EapolKey where
  version : UInt8
  keyInfo : UInt16
  keyLength : UInt16
  replayCounter : Buf 8
  nonce : Buf 32
  iv : Buf 16
  rsc : Buf 8
  reserved : Buf 8
  mic : Buf 16
  keyData : Bytes

namespace EapolKey

def head (k : EapolKey) : Bytes :=
  [k.version, 0x03] ++ Bytes.be 2 (95 + k.keyData.length) ++ [0x02] ++ Bytes.be 2 k.keyInfo.toNat ++
    Bytes.be 2 k.keyLength.toNat ++ (k.replayCounter.bytes ++ (k.nonce.bytes ++
      (k.iv.bytes ++ (k.rsc.bytes ++ k.reserved.bytes))))

def tail (k : EapolKey) : Bytes := Bytes.be 2 k.keyData.length ++ k.keyData

def encode (k : EapolKey) : Bytes := k.head ++ (k.mic.bytes ++ k.tail)

def beAt (b : Bytes) (i : Nat) : Nat := Bytes.beNat (b.slice i 2)

def fieldAt (b : Bytes) (i n : Nat) : Buf n := Buf.ofBytes n (b.slice i n)

def decode (b : Bytes) : Option EapolKey :=
  if b.length < 99 ∨ b.at 1 ≠ 0x03 ∨ beAt b 2 + 4 ≠ b.length ∨ b.at 4 ≠ 0x02 ∨
      beAt b 97 + 99 ≠ b.length then none
  else some {
    version := b.at 0
    keyInfo := UInt16.ofNat (beAt b 5)
    keyLength := UInt16.ofNat (beAt b 7)
    replayCounter := fieldAt b 9 8
    nonce := fieldAt b 17 32
    iv := fieldAt b 49 16
    rsc := fieldAt b 65 8
    reserved := fieldAt b 73 8
    mic := fieldAt b 81 16
    keyData := b.drop 99 }

/-- HMAC-SHA1-128 over the frame with a zero MIC. -/
def micUnder (kck : Block) (k : EapolKey) : Bytes :=
  (hmacSha1 kck.bytes { k with mic := Buf.zero 16 }.encode).take 16

def sign (kck : Block) (k : EapolKey) : EapolKey :=
  { k with mic := Buf.ofBytes 16 (k.micUnder kck) }

/-! ### Fields of an encoded frame, whatever follows it in memory -/

theorem length_head (k : EapolKey) : k.head.length = 81 := by simp [head]

theorem length_encode (k : EapolKey) : k.encode.length = 99 + k.keyData.length := by
  rw [encode, List.length_append, List.length_append, length_head, Buf.length_eq, tail,
    List.length_append, Bytes.length_be]
  omega

def lead (k : EapolKey) : Bytes :=
  [k.version, 0x03] ++ Bytes.be 2 (95 + k.keyData.length) ++ [0x02] ++ Bytes.be 2 k.keyInfo.toNat ++
    Bytes.be 2 k.keyLength.toNat

theorem length_lead (k : EapolKey) : k.lead.length = 9 := by simp [lead]

/-- The frame with its fields nested to the right. -/
theorem encode_append (k : EapolKey) (x : Bytes) :
    k.encode ++ x = k.lead ++ (k.replayCounter.bytes ++ (k.nonce.bytes ++ (k.iv.bytes ++
      (k.rsc.bytes ++ (k.reserved.bytes ++ (k.mic.bytes ++ (Bytes.be 2 k.keyData.length ++
        (k.keyData ++ x)))))))) := by
  simp only [encode, head, tail, lead, List.append_assoc]

theorem slice_replayCounter (k : EapolKey) (x : Bytes) :
    (k.encode ++ x).slice 9 8 = k.replayCounter.bytes := by
  rw [encode_append]
  exact (Bytes.slice_skip 0 k.length_lead).trans (Bytes.slice_here k.replayCounter.length_eq)

/-- Past the replay counter. -/
theorem slice_encode (k : EapolKey) (x : Bytes) (off n : Nat) :
    (k.encode ++ x).slice (17 + off) n = (k.nonce.bytes ++ (k.iv.bytes ++ (k.rsc.bytes ++
      (k.reserved.bytes ++ (k.mic.bytes ++ (Bytes.be 2 k.keyData.length ++
        (k.keyData ++ x))))))).slice off n := by
  rw [encode_append, show 17 + off = 9 + (8 + off) by omega, Bytes.slice_skip _ k.length_lead,
    Bytes.slice_skip _ k.replayCounter.length_eq]

theorem slice_nonce (k : EapolKey) (x : Bytes) : (k.encode ++ x).slice 17 32 = k.nonce.bytes :=
  (k.slice_encode x 0 32).trans (Bytes.slice_here k.nonce.length_eq)

theorem slice_iv (k : EapolKey) (x : Bytes) : (k.encode ++ x).slice 49 16 = k.iv.bytes :=
  (k.slice_encode x 32 16).trans ((Bytes.slice_skip 0 k.nonce.length_eq).trans
    (Bytes.slice_here k.iv.length_eq))

/-- Past the IV. -/
theorem slice_encode_iv (k : EapolKey) (x : Bytes) (off n : Nat) :
    (k.encode ++ x).slice (65 + off) n = (k.rsc.bytes ++ (k.reserved.bytes ++ (k.mic.bytes ++
      (Bytes.be 2 k.keyData.length ++ (k.keyData ++ x))))).slice off n := by
  rw [show 65 + off = 17 + (32 + (16 + off)) by omega, slice_encode,
    Bytes.slice_skip _ k.nonce.length_eq, Bytes.slice_skip _ k.iv.length_eq]

theorem slice_rsc (k : EapolKey) (x : Bytes) : (k.encode ++ x).slice 65 8 = k.rsc.bytes :=
  (k.slice_encode_iv x 0 8).trans (Bytes.slice_here k.rsc.length_eq)

theorem slice_reserved (k : EapolKey) (x : Bytes) :
    (k.encode ++ x).slice 73 8 = k.reserved.bytes :=
  (k.slice_encode_iv x 8 8).trans ((Bytes.slice_skip 0 k.rsc.length_eq).trans
    (Bytes.slice_here k.reserved.length_eq))

/-- From the MIC on. -/
theorem slice_encode_mic (k : EapolKey) (x : Bytes) (off n : Nat) :
    (k.encode ++ x).slice (81 + off) n =
      (k.mic.bytes ++ (Bytes.be 2 k.keyData.length ++ (k.keyData ++ x))).slice off n := by
  rw [show 81 + off = 65 + (8 + (8 + off)) by omega, slice_encode_iv,
    Bytes.slice_skip _ k.rsc.length_eq, Bytes.slice_skip _ k.reserved.length_eq]

theorem slice_mic (k : EapolKey) (x : Bytes) : (k.encode ++ x).slice 81 16 = k.mic.bytes :=
  (k.slice_encode_mic x 0 16).trans (Bytes.slice_here k.mic.length_eq)

theorem slice_keyDataLength (k : EapolKey) (x : Bytes) :
    (k.encode ++ x).slice 97 2 = Bytes.be 2 k.keyData.length :=
  (k.slice_encode_mic x 16 2).trans ((Bytes.slice_skip 0 k.mic.length_eq).trans
    (Bytes.slice_here (Bytes.length_be 2 _)))

theorem slice_keyData (k : EapolKey) (x : Bytes) :
    (k.encode ++ x).slice 99 k.keyData.length = k.keyData :=
  (k.slice_encode_mic x 18 _).trans ((Bytes.slice_skip 2 k.mic.length_eq).trans
    ((Bytes.slice_skip 0 (Bytes.length_be 2 _)).trans (Bytes.slice_here rfl)))

theorem slice_length (k : EapolKey) (x : Bytes) :
    (k.encode ++ x).slice 2 2 = Bytes.be 2 (95 + k.keyData.length) := by
  rw [encode_append]
  rfl

theorem slice_keyInfo (k : EapolKey) (x : Bytes) :
    (k.encode ++ x).slice 5 2 = Bytes.be 2 k.keyInfo.toNat := by
  rw [encode_append]
  rfl

theorem slice_keyLength (k : EapolKey) (x : Bytes) :
    (k.encode ++ x).slice 7 2 = Bytes.be 2 k.keyLength.toNat := by
  rw [encode_append]
  rfl

theorem drop_keyData (k : EapolKey) : k.encode.drop 99 = k.keyData := by
  have h := k.slice_keyData []
  rw [List.append_nil] at h
  rw [← h, Bytes.slice, List.take_of_length_le]
  rw [List.length_drop, length_encode]
  omega

theorem ofNat_beNat_be (x : UInt16) : UInt16.ofNat (Bytes.beNat (Bytes.be 2 x.toNat)) = x := by
  have hlt := x.toNat_lt
  rw [Bytes.beNat_be, show 256 ^ 2 = 2 ^ 16 from rfl, Nat.mod_eq_of_lt hlt, UInt16.ofNat_toNat]

/-- The two directions agree, as long as the length fits its field. -/
theorem decode_encode (k : EapolKey) (h : k.keyData.length + 95 < 2 ^ 16) :
    decode k.encode = some k := by
  have hlen := k.length_encode
  have hbody : beAt k.encode 2 = 95 + k.keyData.length := by
    have hs := k.slice_length []
    rw [List.append_nil] at hs
    rw [beAt, hs, Bytes.beNat_be]
    omega
  have hdata : beAt k.encode 97 = k.keyData.length := by
    have hs := k.slice_keyDataLength []
    rw [List.append_nil] at hs
    rw [beAt, hs, Bytes.beNat_be]
    omega
  have h1 : k.encode.at 1 = 0x03 := rfl
  have h4 : k.encode.at 4 = 0x02 := rfl
  have h0 : k.encode.at 0 = k.version := rfl
  unfold decode
  rw [if_neg (by rw [hbody, hdata, h1, h4]; simp; omega)]
  have hf : ∀ i n, fieldAt k.encode i n = Buf.ofBytes n ((k.encode ++ []).slice i n) := by
    intro i n
    rw [List.append_nil]
    rfl
  have hb : ∀ i, beAt k.encode i = Bytes.beNat ((k.encode ++ []).slice i 2) := by
    intro i
    rw [List.append_nil]
    rfl
  simp only [hf, hb, h0, slice_keyInfo, slice_keyLength, slice_replayCounter, slice_nonce, slice_iv,
    slice_rsc, slice_reserved, slice_mic, drop_keyData, ofNat_beNat_be, Buf.ofBytes_bytes]

/-! ### The MIC -/

theorem length_micUnder (kck : Block) (k : EapolKey) : (k.micUnder kck).length = 16 := by
  rw [micUnder, ← Crypto.hmacSha1_eq, List.length_take, Buf.length_eq]
  rfl

/-- The MIC field does not enter the MIC. -/
theorem micUnder_sign (kck : Block) (k : EapolKey) :
    (k.sign kck).mic.bytes = (k.sign kck).micUnder kck :=
  Buf.bytes_ofBytes (k.length_micUnder kck)

end EapolKey

/-! ## Key data -/

structure Element where
  id : UInt8
  body : Bytes
  short : body.length ≤ 255

def Element.encode (e : Element) : Bytes := [e.id, UInt8.ofNat e.body.length] ++ e.body

/-- OUI 00-0F-AC, data type 1. -/
def gtkKdeType : Bytes := [0x00, 0x0F, 0xAC, 0x01]

def Element.IsGtkKde (e : Element) : Prop := e.id = 0xDD ∧ e.body.take 4 = gtkKdeType

/-- Key id, Tx bit, a reserved byte and the key. -/
def gtkKde (gtk : Block) (keyId : Fin 4) (tx : Bool) : Element where
  id := 0xDD
  body := gtkKdeType ++ [UInt8.ofNat keyId.val ||| (if tx then 0x04 else 0), 0] ++ gtk.bytes
  short := by simp [gtkKdeType]

def encodeElements (es : List Element) : Bytes := (es.map Element.encode).flatten

/-- Up to a multiple of 8 bytes. -/
def padKeyData (b : Bytes) : Bytes :=
  if b.length % 8 = 0 then b else b ++ ([0xDD] ++ Bytes.zeros (7 - b.length % 8))

/-! ## The authenticator -/

structure Ptk where
  kck : Block
  kek : Block
  tk : Block

structure Authenticator where
  pmk : Buf 32
  -- The addresses of the authenticator and of the station.
  aa : Buf 6
  spa : Buf 6
  aNonce : Buf 32
  gtk : Block
  gtkKeyId : Fin 4
  rsnIe : Bytes -- The RSN IE of the association request.

/-- The free choices of a message 1. -/
structure M1Choice where
  version : UInt8
  replayCounter : Buf 8
  keyData : Bytes

/-- The free choices of a message 3, with the elements before and after the GTK. -/
structure M3Choice where
  version : UInt8
  replayCounter : Buf 8
  iv : Buf 16
  rsc : Buf 8
  tx : Bool
  before : List Element
  after : List Element
  others : ∀ e ∈ before ++ after, ¬ e.IsGtkKde

def minBytes (a b : Bytes) : Bytes := if Bytes.beNat a ≤ Bytes.beNat b then a else b

def maxBytes (a b : Bytes) : Bytes := if Bytes.beNat a ≤ Bytes.beNat b then b else a

def pairwiseLabel : Bytes :=
  [0x50, 0x61, 0x69, 0x72, 0x77, 0x69, 0x73, 0x65, 0x20, 0x6B, 0x65, 0x79, 0x20, 0x65, 0x78, 0x70,
    0x61, 0x6E, 0x73, 0x69, 0x6F, 0x6E]

namespace Authenticator

def ptkBytes (a : Authenticator) (sNonce : Buf 32) : Bytes :=
  prf a.pmk.bytes pairwiseLabel
    (minBytes a.aa.bytes a.spa.bytes ++ maxBytes a.aa.bytes a.spa.bytes ++
      minBytes a.aNonce.bytes sNonce.bytes ++ maxBytes a.aNonce.bytes sNonce.bytes) 48

def ptk (a : Authenticator) (sNonce : Buf 32) : Ptk where
  kck := EapolKey.fieldAt (a.ptkBytes sNonce) 0 16
  kek := EapolKey.fieldAt (a.ptkBytes sNonce) 16 16
  tk := EapolKey.fieldAt (a.ptkBytes sNonce) 32 16

/-- Pairwise, ack. -/
def m1 (a : Authenticator) (c : M1Choice) : EapolKey where
  version := c.version
  keyInfo := 0x008A
  keyLength := 16
  replayCounter := c.replayCounter
  nonce := a.aNonce
  iv := Buf.zero 16
  rsc := Buf.zero 8
  reserved := Buf.zero 8
  mic := Buf.zero 16
  keyData := c.keyData

def elements (a : Authenticator) (c : M3Choice) : List Element :=
  c.before ++ gtkKde a.gtk a.gtkKeyId c.tx :: c.after

/-- Pairwise, install, ack, MIC, secure, encrypted key data. -/
def m3 (a : Authenticator) (sNonce : Buf 32) (c : M3Choice) : EapolKey :=
  EapolKey.sign (a.ptk sNonce).kck {
    version := c.version
    keyInfo := 0x13CA
    keyLength := 16
    replayCounter := c.replayCounter
    nonce := a.aNonce
    iv := c.iv
    rsc := c.rsc
    reserved := Buf.zero 8
    mic := Buf.zero 16
    keyData := Crypto.aesWrap (a.ptk sNonce).kek (padKeyData (encodeElements (a.elements c))) }

/-- The EAPOL packet in a data frame of the station to the AP. -/
def receive (a : Authenticator) (frame : Bytes) : Option Bytes :=
  if frame.slice 0 2 = [0x08, 0x01] ∧ frame.slice 4 6 = a.aa.bytes ∧ frame.slice 10 6 = a.spa.bytes ∧
      frame.slice 16 6 = a.aa.bytes ∧
      frame.slice 24 8 = [0xAA, 0xAA, 0x03, 0x00, 0x00, 0x00, 0x88, 0x8E] then
    some (frame.drop 32)
  else none

/-- The SNonce of a message 2 that checks. -/
def acceptM2 (a : Authenticator) (replayCounter : Buf 8) (frame : Bytes) : Option (Buf 32) :=
  match EapolKey.decode frame with
  | none => none
  | some k =>
    if k.keyInfo = 0x010A ∧ k.replayCounter = replayCounter ∧ k.keyData = a.rsnIe ∧
        k.mic.bytes = k.micUnder (a.ptk k.nonce).kck then some k.nonce
    else none

def acceptM4 (ptk : Ptk) (replayCounter : Buf 8) (frame : Bytes) : Bool :=
  match EapolKey.decode frame with
  | none => false
  | some k =>
    k.keyInfo = 0x030A ∧ k.replayCounter = replayCounter ∧ k.keyData = [] ∧
      k.mic.bytes = k.micUnder ptk.kck

end Authenticator
end Spec
end Rtl8814au
