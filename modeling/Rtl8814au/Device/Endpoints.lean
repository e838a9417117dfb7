import Mathlib.Data.Vector.Basic
import Rtl8814au.RegisterIO.Access
import Rtl8814au.TxPath.Slots

/-!
# Device.Endpoints

`_SetupEndpoints`: which endpoint of the interface becomes which pipe of the driver.

* `walk`      — the loop over the endpoints, with the number of bulk OUT pipes found so far.
* `bulkOuts`, `bulkIns`, `interruptIns` — the endpoints of a kind, in the order of the descriptors.
* `walk_spec` — the loop takes the first bulk OUT endpoints, and the last one of the other kinds.
* `endpoints_assigned` — with that, when the setup succeeds, and what each queue is sent to.
-/

namespace Rtl8814au
namespace Endpoints

open TxPath

def USB_ENDPOINT_ADDR_DIR_IN : UInt8 := 0x80
def USB_ENDPOINT_ATTR_MASK : UInt8 := 0x03
def USB_ENDPOINT_ATTR_BULK : UInt8 := 0x02
def USB_ENDPOINT_ATTR_INTERRUPT : UInt8 := 0x03

/-- A `usb_pipe` is a handle, and 0 is none. -/
abbrev UsbPipe : Type := UInt32

structure Descriptor where
  endpoint_address : UInt8
  attributes : UInt8

structure Endpoint where
  descr : Option Descriptor
  handle : UsbPipe

/-- The configuration, as far as it is looked at: the endpoints of the active setting of the first
interface, if there is one. -/
structure Configuration where
  interface_count : Nat
  active : Option (List Endpoint)

structure Pipes where
  fBulkOut : Vector UsbPipe kBulkOutEndpointCount
  fBulkIn : UsbPipe
  fInterruptIn : UsbPipe

def Pipes.none : Pipes := ⟨Vector.replicate kBulkOutEndpointCount 0, 0, 0⟩

def Descriptor.isIn (d : Descriptor) : Bool := d.endpoint_address &&& USB_ENDPOINT_ADDR_DIR_IN ≠ 0

def Descriptor.hasType (d : Descriptor) (attr : UInt8) : Bool :=
  d.attributes &&& USB_ENDPOINT_ATTR_MASK = attr

/-- One endpoint; `bulkOutIndex` goes along with the pipes. -/
def classify (p : Pipes × Nat) (e : Endpoint) : Pipes × Nat :=
  match e.descr with
  | none => p
  | some d =>
    if d.hasType USB_ENDPOINT_ATTR_BULK then
      if d.isIn then ({ p.1 with fBulkIn := e.handle }, p.2)
      else if h : p.2 < kBulkOutEndpointCount then
        ({ p.1 with fBulkOut := p.1.fBulkOut.set p.2 e.handle h }, p.2 + 1)
      else p
    else if d.hasType USB_ENDPOINT_ATTR_INTERRUPT && d.isIn then
      ({ p.1 with fInterruptIn := e.handle }, p.2)
    else p

def walk (endpoints : List Endpoint) (pipes : Pipes) : Pipes × Nat := endpoints.foldl classify (pipes, 0)

/-- The pipes from `bulkOutIndex` on are the last one that was found. -/
def fillBulkOut (pipes : Pipes) (bulkOutIndex : Nat) : Pipes :=
  { pipes with
    fBulkOut := Vector.ofFn fun i =>
      if i.val < bulkOutIndex then pipes.fBulkOut[i] else pipes.fBulkOut.toList.getD (bulkOutIndex - 1) 0 }

/-- `config` is what `get_nth_configuration` gives, and `selected` the status of
`set_configuration`. -/
def setupEndpoints (config : Option Configuration) (selected : StatusCode) (pipes : Pipes) :
    StatusCode × Pipes :=
  match config with
  | none => (.badValue, pipes)
  | some config =>
    if selected ≠ .ok then (selected, pipes)
    else if config.interface_count < 1 then (.badValue, pipes)
    else
      match config.active with
      | none => (.badValue, pipes)
      | some endpoints =>
        let (pipes, bulkOutIndex) := walk endpoints pipes
        if pipes.fBulkIn = 0 then (.badValue, pipes)
        else if bulkOutIndex = 0 then (.badValue, pipes)
        else (.ok, fillBulkOut pipes bulkOutIndex)

/-! ## The endpoints of a kind -/

def Endpoint.is (attr : UInt8) (isIn : Bool) (e : Endpoint) : Bool :=
  e.descr.any fun d => d.hasType attr && d.isIn == isIn

/-- The handles of the endpoints of a type and a direction. -/
def handles (attr : UInt8) (isIn : Bool) (endpoints : List Endpoint) : List UsbPipe :=
  (endpoints.filter (Endpoint.is attr isIn)).map Endpoint.handle

def bulkOuts : List Endpoint → List UsbPipe := handles USB_ENDPOINT_ATTR_BULK false
def bulkIns : List Endpoint → List UsbPipe := handles USB_ENDPOINT_ATTR_BULK true
def interruptIns : List Endpoint → List UsbPipe := handles USB_ENDPOINT_ATTR_INTERRUPT true

/-- The bulk OUT endpoints that get a pipe of their own. -/
def usedOuts (endpoints : List Endpoint) : List UsbPipe := (bulkOuts endpoints).take kBulkOutEndpointCount

theorem handles_snoc (attr : UInt8) (isIn : Bool) (es : List Endpoint) (e : Endpoint) :
    handles attr isIn (es ++ [e]) =
      handles attr isIn es ++ if e.is attr isIn then [e.handle] else [] := by
  rw [handles, List.filter_append, List.map_append, handles, List.filter_singleton]
  congr 1
  cases e.is attr isIn with
  | false => rfl
  | true => rfl

theorem usedOuts_snoc (es : List Endpoint) (e : Endpoint) :
    usedOuts (es ++ [e]) =
      if e.is USB_ENDPOINT_ATTR_BULK false && (usedOuts es).length < kBulkOutEndpointCount then
        usedOuts es ++ [e.handle]
      else usedOuts es := by
  rw [usedOuts, bulkOuts, handles_snoc, ← bulkOuts, List.take_append, ← usedOuts]
  have hlength : (usedOuts es).length = min kBulkOutEndpointCount (bulkOuts es).length := List.length_take
  cases e.is USB_ENDPOINT_ATTR_BULK false with
  | false => simp
  | true =>
    by_cases h : (usedOuts es).length < kBulkOutEndpointCount
    · have hroom : 1 ≤ kBulkOutEndpointCount - (bulkOuts es).length := by omega
      rw [if_pos rfl, if_pos (by simp [h]), List.take_of_length_le hroom]
    · have hroom : kBulkOutEndpointCount - (bulkOuts es).length = 0 := by omega
      rw [if_pos rfl, if_neg (by simp [h]), hroom, List.take_zero, List.append_nil]

/-- What the loop has made of the endpoints ahead. -/
structure Walked (endpoints : List Endpoint) (p : Pipes × Nat) : Prop where
  bulkIn : p.1.fBulkIn = (bulkIns endpoints).getLastD 0
  interruptIn : p.1.fInterruptIn = (interruptIns endpoints).getLastD 0
  index : p.2 = (usedOuts endpoints).length
  bulkOut : p.1.fBulkOut.toList.take p.2 = usedOuts endpoints

theorem set_take {n : Nat} (v : Vector UsbPipe kBulkOutEndpointCount) (x : UsbPipe)
    (h : n < kBulkOutEndpointCount) :
    (v.set n x h).toList.take (n + 1) = v.toList.take n ++ [x] := by
  have hlength : n < (v.toList.set n x).length := by
    rw [List.length_set, Vector.length_toList]
    exact h
  rw [Vector.toList_set, List.take_succ_eq_append_getElem hlength, List.getElem_set_self,
    List.take_set_of_le (Nat.le_refl n)]

/-- An endpoint of one of the kinds is none of the others. -/
theorem is_iff {e : Endpoint} {d : Descriptor} (hd : e.descr = some d) (attr : UInt8) (isIn : Bool) :
    e.is attr isIn = (d.hasType attr && d.isIn == isIn) := by
  rw [Endpoint.is, hd]
  rfl

theorem hasType_interrupt {d : Descriptor} (h : d.hasType USB_ENDPOINT_ATTR_BULK = true) :
    d.hasType USB_ENDPOINT_ATTR_INTERRUPT = false := by
  have h : d.attributes &&& USB_ENDPOINT_ATTR_MASK = USB_ENDPOINT_ATTR_BULK := of_decide_eq_true h
  refine decide_eq_false ?_
  rw [h]
  decide

section

variable {es : List Endpoint} {p : Pipes × Nat} {e : Endpoint}

/-- The kinds that an endpoint is not of stay as they are. -/
theorem handles_skip {attr : UInt8} {isIn : Bool} (h : e.is attr isIn = false) :
    handles attr isIn (es ++ [e]) = handles attr isIn es := by
  rw [handles_snoc, h]
  exact List.append_nil _

theorem handles_last {attr : UInt8} {isIn : Bool} (h : e.is attr isIn = true) :
    (handles attr isIn (es ++ [e])).getLastD 0 = e.handle := by
  rw [handles_snoc, h]
  exact List.getLastD_concat

theorem usedOuts_skip (h : e.is USB_ENDPOINT_ATTR_BULK false = false) :
    usedOuts (es ++ [e]) = usedOuts es := by
  rw [usedOuts_snoc, h]
  rfl

/-- An endpoint of none of the kinds. -/
theorem Walked.skip (h : Walked es p) (hin : e.is USB_ENDPOINT_ATTR_BULK true = false)
    (hout : e.is USB_ENDPOINT_ATTR_BULK false = false)
    (hint : e.is USB_ENDPOINT_ATTR_INTERRUPT true = false) : Walked (es ++ [e]) p where
  bulkIn := by rw [bulkIns, handles_skip hin]; exact h.bulkIn
  interruptIn := by rw [interruptIns, handles_skip hint]; exact h.interruptIn
  index := by rw [usedOuts_skip hout]; exact h.index
  bulkOut := by rw [usedOuts_skip hout]; exact h.bulkOut

theorem Walked.bulkInEndpoint (h : Walked es p) (hin : e.is USB_ENDPOINT_ATTR_BULK true = true)
    (hout : e.is USB_ENDPOINT_ATTR_BULK false = false)
    (hint : e.is USB_ENDPOINT_ATTR_INTERRUPT true = false) :
    Walked (es ++ [e]) ({ p.1 with fBulkIn := e.handle }, p.2) where
  bulkIn := (handles_last hin).symm
  interruptIn := by rw [interruptIns, handles_skip hint]; exact h.interruptIn
  index := by rw [usedOuts_skip hout]; exact h.index
  bulkOut := by rw [usedOuts_skip hout]; exact h.bulkOut

theorem Walked.interruptInEndpoint (h : Walked es p) (hin : e.is USB_ENDPOINT_ATTR_BULK true = false)
    (hout : e.is USB_ENDPOINT_ATTR_BULK false = false)
    (hint : e.is USB_ENDPOINT_ATTR_INTERRUPT true = true) :
    Walked (es ++ [e]) ({ p.1 with fInterruptIn := e.handle }, p.2) where
  bulkIn := by rw [bulkIns, handles_skip hin]; exact h.bulkIn
  interruptIn := (handles_last hint).symm
  index := by rw [usedOuts_skip hout]; exact h.index
  bulkOut := by rw [usedOuts_skip hout]; exact h.bulkOut

/-- A bulk OUT endpoint, for which there is a pipe or not. -/
theorem Walked.bulkOutEndpoint (h : Walked es p) (hin : e.is USB_ENDPOINT_ATTR_BULK true = false)
    (hout : e.is USB_ENDPOINT_ATTR_BULK false = true)
    (hint : e.is USB_ENDPOINT_ATTR_INTERRUPT true = false) :
    Walked (es ++ [e]) (if h : p.2 < kBulkOutEndpointCount then
      ({ p.1 with fBulkOut := p.1.fBulkOut.set p.2 e.handle h }, p.2 + 1) else p) := by
  have hins : bulkIns (es ++ [e]) = bulkIns es := handles_skip hin
  have hints : interruptIns (es ++ [e]) = interruptIns es := handles_skip hint
  have hused := usedOuts_snoc es e
  rw [hout, Bool.true_and, ← h.index] at hused
  split
  · rename_i hroom
    rw [if_pos (decide_eq_true hroom)] at hused
    refine ⟨?_, ?_, ?_, ?_⟩
    · rw [hins]
      exact h.bulkIn
    · rw [hints]
      exact h.interruptIn
    · rw [hused, List.length_append, ← h.index]
      rfl
    · rw [hused, ← h.bulkOut]
      exact set_take p.1.fBulkOut e.handle hroom
  · rename_i hfull
    rw [if_neg fun hd => hfull (of_decide_eq_true hd)] at hused
    refine ⟨?_, ?_, ?_, ?_⟩
    · rw [hins]
      exact h.bulkIn
    · rw [hints]
      exact h.interruptIn
    · rw [hused]
      exact h.index
    · rw [hused]
      exact h.bulkOut

theorem walked_classify (h : Walked es p) (e : Endpoint) : Walked (es ++ [e]) (classify p e) := by
  unfold classify
  cases hd : e.descr with
  | none =>
    have hno : ∀ attr isIn, e.is attr isIn = false := fun attr isIn => by rw [Endpoint.is, hd]; rfl
    exact h.skip (hno _ _) (hno _ _) (hno _ _)
  | some d =>
    have his := is_iff hd
    cases hbulk : d.hasType USB_ENDPOINT_ATTR_BULK with
    | true =>
      have hint : e.is USB_ENDPOINT_ATTR_INTERRUPT true = false := by
        rw [his, hasType_interrupt hbulk]
        rfl
      cases hin : d.isIn with
      | true => simpa [hbulk, hin] using
          h.bulkInEndpoint (by rw [his, hbulk, hin]; rfl) (by rw [his, hbulk, hin]; rfl) hint
      | false => simpa [hbulk, hin] using
          h.bulkOutEndpoint (by rw [his, hbulk, hin]; rfl) (by rw [his, hbulk, hin]; rfl) hint
    | false =>
      have hin : e.is USB_ENDPOINT_ATTR_BULK true = false := by rw [his, hbulk]; rfl
      have hout : e.is USB_ENDPOINT_ATTR_BULK false = false := by rw [his, hbulk]; rfl
      have hint : e.is USB_ENDPOINT_ATTR_INTERRUPT true =
          (d.hasType USB_ENDPOINT_ATTR_INTERRUPT && d.isIn) := by
        rw [his]
        cases d.isIn with
        | true => rfl
        | false => rfl
      cases hkind : d.hasType USB_ENDPOINT_ATTR_INTERRUPT && d.isIn with
      | true => simpa [hbulk, hkind] using h.interruptInEndpoint hin hout (hint.trans hkind)
      | false => simpa [hbulk, hkind] using h.skip hin hout (hint.trans hkind)

end

theorem walk_spec (endpoints : List Endpoint) : Walked endpoints (walk endpoints .none) := by
  have hrun : ∀ fs es p, Walked es p → Walked (es ++ fs) (fs.foldl classify p) := by
    intro fs
    induction fs with
    | nil =>
      intro es p h
      rw [List.append_nil]
      exact h
    | cons f fs ih =>
      intro es p h
      rw [List.append_cons]
      exact ih _ _ (walked_classify h f)
  exact hrun endpoints [] _ ⟨rfl, rfl, rfl, rfl⟩

/-! ## The pipes -/

/-- The endpoints that are walked, if it comes to that. -/
def walked (config : Option Configuration) (selected : StatusCode) : Option (List Endpoint) :=
  config.bind fun c => if selected = .ok ∧ 1 ≤ c.interface_count then c.active else none

/-- The interface has what the driver needs. -/
def Sufficient (endpoints : List Endpoint) : Prop :=
  (bulkIns endpoints).getLastD 0 ≠ 0 ∧ bulkOuts endpoints ≠ []

/-- What each pipe is: a bulk OUT endpoint is used again where there are fewer than pipes. -/
structure Assigned (endpoints : List Endpoint) (p : Pipes) : Prop where
  bulkIn : (bulkIns endpoints).getLast? = some p.fBulkIn
  interruptIn : p.fInterruptIn = (interruptIns endpoints).getLastD 0
  bulkOut : ∀ i : Fin kBulkOutEndpointCount, (usedOuts endpoints)[min i.val
    ((usedOuts endpoints).length - 1)]? = some p.fBulkOut[i]

theorem usedOuts_ne_nil {endpoints : List Endpoint} :
    usedOuts endpoints ≠ [] ↔ bulkOuts endpoints ≠ [] := by
  rw [usedOuts, Ne, List.take_eq_nil_iff]
  constructor
  · exact fun h hnil => h (.inr hnil)
  · rintro h (hzero | hnil)
    · cases hzero
    · exact h hnil

theorem getElem_take {v : Vector UsbPipe kBulkOutEndpointCount} {n i : Nat} {l : List UsbPipe}
    (h : v.toList.take n = l) (hi : i < n) : l[i]? = v.toList[i]? := by
  rw [← h, List.getElem?_take_of_lt hi]

theorem fill_assigned {endpoints : List Endpoint} {p : Pipes × Nat} (h : Walked endpoints p)
    (hin : p.1.fBulkIn ≠ 0) (hout : p.2 ≠ 0) : Assigned endpoints (fillBulkOut p.1 p.2) := by
  refine ⟨?_, h.interruptIn, fun i => ?_⟩
  · have hlast := h.bulkIn
    show _ = some p.1.fBulkIn
    rw [List.getLastD_eq_getLast?] at hlast
    cases hl : (bulkIns endpoints).getLast? with
    | none =>
      rw [hl] at hlast
      exact absurd hlast hin
    | some x =>
      rw [hl] at hlast
      exact congrArg some hlast.symm
  · have hlength : p.1.fBulkOut.toList.length = kBulkOutEndpointCount := p.1.fBulkOut.length_toList
    have hbound : p.2 ≤ kBulkOutEndpointCount := by
      rw [h.index, usedOuts, List.length_take]
      exact Nat.min_le_left _ _
    have hfill : (fillBulkOut p.1 p.2).fBulkOut[i] =
        if i.val < p.2 then p.1.fBulkOut[i] else p.1.fBulkOut.toList.getD (p.2 - 1) 0 :=
      Vector.getElem_ofFn i.isLt
    rw [hfill, ← h.index]
    split
    · rename_i hi
      have hmin : min i.val (p.2 - 1) = i.val := Nat.min_eq_left (by omega)
      rw [hmin, getElem_take h.bulkOut hi, List.getElem?_eq_getElem (by omega), Vector.getElem_toList]
      rfl
    · rename_i hi
      have hmin : min i.val (p.2 - 1) = p.2 - 1 := Nat.min_eq_right (by omega)
      have hlt : p.2 - 1 < p.1.fBulkOut.toList.length := by omega
      rw [hmin, getElem_take h.bulkOut (by omega), List.getElem?_eq_getElem hlt,
        List.getD_eq_getElem _ _ hlt]

/-- Every queue is sent to a bulk OUT endpoint of the interface. -/
theorem Assigned.queue {endpoints : List Endpoint} {p : Pipes} (h : Assigned endpoints p)
    (queue : TxQueueSelect) : p.fBulkOut[queueToPipeIndex queue] ∈ bulkOuts endpoints :=
  List.mem_of_mem_take (List.mem_of_getElem? (h.bulkOut (queueToPipeIndex queue)))

/-- The result of a setup. It succeeds exactly if it comes to a walk of endpoints with a bulk IN one and
a bulk OUT one; the pipes are then as they should be, and no queue is without one. -/
structure SetUp (config : Option Configuration) (selected : StatusCode) (r : StatusCode × Pipes) :
    Prop where
  ok : r.1 = .ok ↔ ∃ endpoints, walked config selected = some endpoints ∧ Sufficient endpoints
  pipes : r.1 = .ok → ∃ endpoints, walked config selected = some endpoints ∧
    Assigned endpoints r.2 ∧ ∀ queue, r.2.fBulkOut[queueToPipeIndex queue] ∈ bulkOuts endpoints

section

variable {config : Option Configuration} {selected : StatusCode}

/-- It does not come to a walk. -/
theorem SetUp.early {status : StatusCode} {p : Pipes} (h : walked config selected = none)
    (hstatus : status ≠ .ok) : SetUp config selected (status, p) where
  ok := by
    refine ⟨fun hok => absurd hok hstatus, ?_⟩
    rintro ⟨endpoints, hsome, -⟩
    rw [h] at hsome
    cases hsome
  pipes hok := absurd hok hstatus

/-- An endpoint is missing. -/
theorem SetUp.missing {endpoints : List Endpoint} {p : Pipes}
    (h : walked config selected = some endpoints) (hno : ¬ Sufficient endpoints) :
    SetUp config selected (.badValue, p) where
  ok := by
    refine ⟨nofun, ?_⟩
    rintro ⟨endpoints', hsome, hsufficient⟩
    rw [h] at hsome
    cases hsome
    exact absurd hsufficient hno
  pipes := nofun

theorem SetUp.done {endpoints : List Endpoint} {p : Pipes} (h : walked config selected = some endpoints)
    (hsufficient : Sufficient endpoints) (hassigned : Assigned endpoints p) :
    SetUp config selected (.ok, p) where
  ok := iff_of_true rfl ⟨endpoints, h, hsufficient⟩
  pipes _ := ⟨endpoints, h, hassigned, hassigned.queue⟩

end

/-- Every endpoint list is set up so: a bulk OUT endpoint for each queue, or a refusal. -/
theorem endpoints_assigned (config : Option Configuration) (selected : StatusCode) :
    SetUp config selected (setupEndpoints config selected .none) := by
  unfold setupEndpoints
  split
  · exact .early rfl nofun
  rename_i c
  split
  · rename_i hselected
    exact .early (if_neg fun h => hselected h.1) hselected
  rename_i hselected
  split
  · rename_i hcount
    exact .early (if_neg fun h => absurd h.2 (Nat.not_le.mpr hcount)) nofun
  rename_i hcount
  have hwalked : walked (some c) selected = c.active :=
    if_pos ⟨not_not.mp hselected, Nat.not_lt.mp hcount⟩
  split
  · rename_i hactive
    exact .early (hwalked.trans hactive) nofun
  rename_i endpoints hactive
  have hactive := hwalked.trans hactive
  have h := walk_spec endpoints
  have hempty : (walk endpoints .none).2 = 0 ↔ bulkOuts endpoints = [] := by
    rw [h.index, List.length_eq_zero_iff, ← not_iff_not]
    exact usedOuts_ne_nil
  show SetUp _ _ (if (walk endpoints .none).1.fBulkIn = 0 then _ else _)
  split
  · rename_i hin
    exact .missing hactive fun hs => hs.1 (h.bulkIn.symm.trans hin)
  rename_i hin
  split
  · rename_i hout
    exact .missing hactive fun hs => hs.2 (hempty.mp hout)
  rename_i hout
  refine .done hactive ⟨?_, fun hnil => hout (hempty.mpr hnil)⟩ (fill_assigned h hin hout)
  rw [← h.bulkIn]
  exact hin

end Endpoints
end Rtl8814au
