import Rtl8814au.Lib.Bytes
import Rtl8814au.Lib.Lts
import Rtl8814au.RegisterIO.Access

/-!
# WiFi.Interrupt

The listener for firmware events, on a device that has the interrupt endpoint: `Start`, `Stop` and the
completion callbacks, interleaved at every USB call and at every access to `fRunning`. All transfers
share one buffer. Where `fInterruptIn` is zero, `Start` and `Stop` queue and cancel nothing.

* `parse`       — the event in a completed transfer; `parse_encode` reads back what was sent.
* `next`        — one step, by the thread that starts and stops, by a callback or by the USB stack.
* `Listening`   — a listener that runs has one transfer, and one that was stopped has none.
* `Undisturbed` — the steps that keep it so.
* `listener_iff` — a run is listening throughout exactly if all its steps are undisturbed.
* `events_in_order` — the events are handled as they came, each once.
-/

namespace Rtl8814au
namespace Interrupt

open Lts

def kUsbInterruptBufferSize : Nat := 64

/-- What the USB stack calls back with; the data is in the shared buffer. -/
structure Completion where
  status : StatusCode
  data : Buf kUsbInterruptBufferSize
  actualLength : Nat
  fits : actualLength ≤ kUsbInterruptBufferSize

structure C2HEvent where
  eventID : UInt8
  payload : Bytes
deriving DecidableEq

/-- The number of the event, the length of its payload, and the payload. -/
def parse (c : Completion) : Option C2HEvent :=
  if c.status = .ok ∧ 2 ≤ c.actualLength then
    let payloadLen := c.data.bytes.at 1
    if payloadLen.toNat + 2 ≤ c.actualLength then
      some ⟨c.data.bytes.at 0, c.data.bytes.slice 2 payloadLen.toNat⟩
    else none
  else none

/-- The bytes that came in with a transfer. -/
def Completion.received (c : Completion) : Bytes := c.data.bytes.take c.actualLength

/-- An event is read exactly where one is all there. -/
theorem parse_eq_some {c : Completion} {e : C2HEvent} :
    parse c = some e ↔ c.status = .ok ∧ ∃ len rest,
      len.toNat = e.payload.length ∧ c.received = e.eventID :: len :: (e.payload ++ rest) := by
  obtain ⟨status, ⟨bytes, hbytes⟩, actualLength, hfits⟩ := c
  match bytes, hbytes with
  | x :: y :: tail, hbytes =>
    have htail : tail.length = 62 := by
      simp only [kUsbInterruptBufferSize, List.length_cons] at hbytes
      omega
    simp only [parse, Completion.received]
    constructor
    · intro h
      split at h
      · rename_i hok
        obtain ⟨n, rfl⟩ := Nat.exists_eq_add_of_le hok.2
        split at h
        · rename_i hlen
          obtain rfl := Option.some.inj h
          have hy : y.toNat ≤ n := by
            have : y.toNat + 2 ≤ 2 + n := hlen
            omega
          refine ⟨hok.1, y, (tail.take n).drop y.toNat, ?_, ?_⟩
          · show y.toNat = (tail.take y.toNat).length
            rw [List.length_take]
            simp only [kUsbInterruptBufferSize] at hfits
            omega
          · have hall := List.take_append_drop y.toNat (tail.take n)
            rw [List.take_take, Nat.min_eq_left hy] at hall
            show (x :: y :: tail).take (2 + n) = x :: y :: (tail.take y.toNat ++ (tail.take n).drop y.toNat)
            rw [hall, Nat.add_comm]
            rfl
        · cases h
      · cases h
    · rintro ⟨hok, len, rest, hlen, hreceived⟩
      match actualLength, hfits, hreceived with
      | n + 2, hfits, hreceived =>
        obtain ⟨rfl, rfl, htake⟩ : x = e.eventID ∧ y = len ∧ tail.take n = e.payload ++ rest := by
          simpa only [List.take_succ_cons, List.cons.injEq] using hreceived
        have hle : e.payload.length ≤ n := by
          have := congrArg List.length htake
          rw [List.length_take, List.length_append] at this
          omega
        have hpayload : tail.take y.toNat = e.payload := by
          have := congrArg (List.take e.payload.length) htake
          rw [List.take_take, Nat.min_eq_left hle, List.take_left] at this
          rw [hlen, this]
        have hfit : y.toNat + 2 ≤ n + 2 := by omega
        rw [if_pos ⟨hok, Nat.le_add_left 2 n⟩]
        refine (if_pos hfit).trans ?_
        show some (C2HEvent.mk e.eventID (tail.take y.toNat)) = some e
        rw [hpayload]

/-- The callback returns before it looks at `fRunning`. -/
def isFinal (status : StatusCode) : Bool := status = .canceled || status = .devNotReady

/-- Where a call of `_InterruptCallback` stands. -/
inductive CallbackPc
  | entered (c : Completion)
  | deciding -- the event has been handled; `fRunning` is not read yet
  | submitting -- `fRunning` was set; `queue_interrupt` is not called yet

/-- Where the thread stands that starts and stops the manager. -/
inductive Control
  | idle
  | starting -- in `Start`, before `queue_interrupt`
  | stopping -- in `Stop`, before `cancel_queued_transfers`
deriving DecidableEq

structure ListenState where
  fRunning : Bool
  control : Control
  queued : Nat -- transfers in the hands of the USB stack
  callbacks : List CallbackPc

def ListenState.init : ListenState := ⟨false, .idle, 0, []⟩

inductive Event
  | start
  | submit (accepted : Bool) -- the transfer of `Start`
  | stop
  | cancel -- the callbacks that are canceled return at once
  | complete (c : Completion)
  | callback (k : Nat) (accepted : Bool)

/-- A step of a callback, out of the pool. -/
def callbackStep (s : ListenState) (accepted : Bool) : CallbackPc → ListenState
  | .entered c => if isFinal c.status then s else { s with callbacks := .deciding :: s.callbacks }
  | .deciding => if s.fRunning then { s with callbacks := .submitting :: s.callbacks } else s
  | .submitting => if accepted then { s with queued := s.queued + 1 } else s

def next (s : ListenState) : Event → Option ListenState
  | .start =>
    if s.control = .idle then
      some (if s.fRunning then s else { s with fRunning := true, control := .starting })
    else none
  | .submit accepted =>
    if s.control = .starting then
      some (if accepted then { s with control := .idle, queued := s.queued + 1 }
        else { s with control := .idle, fRunning := false })
    else none
  | .stop =>
    if s.control = .idle then
      some (if s.fRunning then { s with fRunning := false, control := .stopping } else s)
    else none
  | .cancel =>
    if s.control = .stopping then some { s with control := .idle, queued := 0 } else none
  | .complete c =>
    if 0 < s.queued then
      some { s with queued := s.queued - 1, callbacks := .entered c :: s.callbacks }
    else none
  | .callback k accepted =>
    match pick s.callbacks k with
    | some (pc, rest) => some (callbackStep { s with callbacks := rest } accepted pc)
    | none => none

/-! ## The transfer -/

def CallbackPc.isSubmitting : CallbackPc → Bool
  | .submitting => true
  | _ => false

/-- The transfer that `Start` is about to queue. -/
def Control.owed : Control → Nat
  | .starting => 1
  | _ => 0

/-- Everything that has the buffer, or is about to give it to the USB stack. -/
def holders (s : ListenState) : Nat := s.queued + s.callbacks.length + s.control.owed

/-- The buffer has one holder at most, and none that `Stop` does not reach. With `alert`, a running
listener always has one. -/
structure Listening (alert : Prop) (s : ListenState) : Prop where
  running : alert → s.fRunning = true → holders s = 1
  single : holders s ≤ 1
  stopped : s.fRunning = false → s.control = .idle →
    s.queued = 0 ∧ s.callbacks.countP CallbackPc.isSubmitting = 0
  starting : s.control = .starting → s.fRunning = true
  stopping : s.control = .stopping → s.fRunning = false

/-- A start finds no callback that is still running, a cancel none that is about to queue its transfer
again. With `alert`, no transfer of a running listener comes back for good, and none is refused. -/
def Undisturbed (alert : Prop) (s : ListenState) : Event → Prop
  | .start => s.fRunning = false → s.callbacks = []
  | .cancel => s.callbacks.countP CallbackPc.isSubmitting = 0
  | .callback k accepted =>
    match pick s.callbacks k with
    | some (.entered c, _) => alert → s.fRunning = true → isFinal c.status = false
    | some (.submitting, _) => alert → s.fRunning = true → accepted = true
    | _ => True
  | _ => True

theorem listening_init (alert : Prop) : Listening alert .init where
  running _ h := nomatch h
  single := Nat.zero_le 1
  stopped _ _ := ⟨rfl, rfl⟩
  starting h := nomatch h
  stopping h := nomatch h

variable {alert : Prop} {s s' : ListenState}

/-- The same number of holders, and no more reason to fear a transfer behind the back of `Stop`. -/
theorem Listening.move {queued : Nat} {callbacks : List CallbackPc} (h : Listening alert s)
    (hholders : queued + callbacks.length = s.queued + s.callbacks.length)
    (hstopped : s.fRunning = false → s.control = .idle →
      queued = 0 ∧ callbacks.countP CallbackPc.isSubmitting = 0) :
    Listening alert { s with queued := queued, callbacks := callbacks } where
  running ha hr := by
    have := h.running ha hr
    simp only [holders] at this ⊢
    omega
  single := by
    have := h.single
    simp only [holders] at this ⊢
    omega
  stopped := hstopped
  starting := h.starting
  stopping := h.stopping

/-- A callback that returns: the listener is to be stopped. -/
theorem listening_leave {callbacks : List CallbackPc} (h : Listening alert s)
    (hlength : s.callbacks.length = callbacks.length + 1)
    (hcount : callbacks.countP CallbackPc.isSubmitting ≤ s.callbacks.countP CallbackPc.isSubmitting) :
    Listening alert { s with callbacks := callbacks } ↔ (alert → s.fRunning = false) := by
  have hsingle := h.single
  simp only [holders] at hsingle
  constructor
  · intro h' ha
    cases hr : s.fRunning with
    | false => rfl
    | true =>
      have h1 := h.running ha hr
      have h2 := h'.running ha hr
      simp only [holders] at h1 h2
      omega
  · intro hna
    refine ⟨fun ha hr => Bool.noConfusion ((hna ha).symm.trans hr), ?_, fun hr hc => ?_, h.starting,
      h.stopping⟩
    · simp only [holders]
      omega
    · obtain ⟨hq, hcount'⟩ := h.stopped hr hc
      exact ⟨hq, by simp only; omega⟩

theorem listening_callback {rest : List CallbackPc} {pc : CallbackPc} {k : Nat} {accepted : Bool}
    (h : Listening alert s) (hpick : pick s.callbacks k = some (pc, rest)) :
    Listening alert (callbackStep { s with callbacks := rest } accepted pc) ↔
      Undisturbed alert s (.callback k accepted) := by
  have hlength := pick_length hpick
  have hcount := pick_countP hpick CallbackPc.isSubmitting
  have hless : rest.countP CallbackPc.isSubmitting ≤ s.callbacks.countP CallbackPc.isSubmitting :=
    hcount ▸ Nat.le_add_right _ _
  simp only [Undisturbed, hpick]
  cases pc with
  | entered c =>
    simp only [callbackStep]
    cases hfinal : isFinal c.status with
    | true =>
      rw [if_pos rfl, listening_leave h hlength hless]
      cases s.fRunning <;> simp
    | false =>
      rw [if_neg Bool.false_ne_true]
      refine iff_of_true (h.move (by simp only [List.length_cons]; omega) fun hr hc => ?_) fun _ _ => rfl
      obtain ⟨hq, hnone⟩ := h.stopped hr hc
      refine ⟨hq, ?_⟩
      rw [List.countP_cons_of_neg (by simp [CallbackPc.isSubmitting])]
      exact Nat.le_zero.mp (hnone ▸ hless)
  | deciding =>
    simp only [callbackStep]
    refine iff_of_true ?_ trivial
    cases hr : s.fRunning with
    | true =>
      rw [if_pos rfl]
      rw [← hr]
      exact h.move (by simp only [List.length_cons]; omega) fun hr' => Bool.noConfusion (hr.symm.trans hr')
    | false =>
      rw [if_neg Bool.false_ne_true]
      rw [← hr]
      refine (listening_leave h ?_ hless).mpr fun _ => hr
      exact hlength
  | submitting =>
    simp only [callbackStep]
    have hbusy : ¬(s.fRunning = false ∧ s.control = .idle) := by
      rintro ⟨hr, hc⟩
      obtain ⟨-, hnone⟩ := h.stopped hr hc
      rw [hnone] at hcount
      exact absurd hcount (Nat.succ_ne_zero _).symm
    cases accepted with
    | true =>
      rw [if_pos rfl]
      exact iff_of_true (h.move (by omega) fun hr hc => absurd ⟨hr, hc⟩ hbusy) fun _ _ => rfl
    | false =>
      rw [if_neg Bool.false_ne_true, listening_leave h hlength hless]
      cases s.fRunning <;> simp

/-! ## Steps -/

theorem listening_start (h : Listening alert s) (hs : next s .start = some s') :
    Listening alert s' ↔ Undisturbed alert s .start := by
  have hsingle := h.single
  simp only [holders] at hsingle
  simp only [next] at hs
  split at hs
  · rename_i hidle
    obtain rfl := Option.some.inj hs
    cases hr : s.fRunning with
    | true =>
      rw [if_pos rfl]
      exact iff_of_true h fun hns => Bool.noConfusion (hr.symm.trans hns)
    | false =>
      rw [if_neg Bool.false_ne_true]
      obtain ⟨hq, hnone⟩ := h.stopped hr hidle
      constructor
      · intro h' _
        have := h'.single
        simp only [holders, Control.owed] at this
        exact List.eq_nil_of_length_eq_zero (by omega)
      · intro hu
        have hnil := hu hr
        have hone : holders { s with fRunning := true, control := .starting } = 1 := by
          simp only [holders, hq, hnil, Control.owed, List.length_nil]
        exact ⟨fun _ _ => hone, hone.le, by simp, fun _ => rfl, by simp⟩
  · cases hs

/-- While `Start` is about to queue its transfer, nothing else has the buffer. -/
theorem listening_submit {accepted : Bool} (h : Listening alert s)
    (hs : next s (.submit accepted) = some s') : Listening alert s' := by
  have hsingle := h.single
  simp only [holders] at hsingle
  simp only [next] at hs
  split at hs
  · rename_i hstarting
    obtain rfl := Option.some.inj hs
    have hr := h.starting hstarting
    simp only [hstarting, Control.owed] at hsingle
    have hnil : s.callbacks = [] := List.eq_nil_of_length_eq_zero (by omega)
    cases accepted with
    | true =>
      rw [if_pos rfl]
      have hone' : holders { s with control := .idle, queued := s.queued + 1 } = 1 := by
        simp only [holders, Control.owed]
        omega
      exact ⟨fun _ _ => hone', hone'.le, fun hns => Bool.noConfusion (hr.symm.trans hns), by simp,
        by simp⟩
    | false =>
      rw [if_neg Bool.false_ne_true]
      refine ⟨by simp, ?_, fun _ _ => ⟨?_, ?_⟩, by simp, by simp⟩
      · simp only [holders, Control.owed]
        omega
      · simp only
        omega
      · simp only [hnil, List.countP_nil]
  · cases hs

theorem listening_stop (h : Listening alert s) (hs : next s .stop = some s') :
    Listening alert s' := by
  have hsingle := h.single
  simp only [holders] at hsingle
  simp only [next] at hs
  split at hs
  · obtain rfl := Option.some.inj hs
    cases hr : s.fRunning with
    | true =>
      rw [if_pos rfl]
      refine ⟨by simp, ?_, by simp, by simp, fun _ => rfl⟩
      simp only [holders, Control.owed]
      omega
    | false =>
      rw [if_neg Bool.false_ne_true]
      exact h
  · cases hs

/-- A callback that is about to queue its transfer again is out of reach for `Stop`. -/
theorem listening_cancel (h : Listening alert s) (hs : next s .cancel = some s') :
    Listening alert s' ↔ Undisturbed alert s .cancel := by
  have hsingle := h.single
  simp only [holders] at hsingle
  simp only [next] at hs
  split at hs
  · rename_i hstopping
    obtain rfl := Option.some.inj hs
    have hr := h.stopping hstopping
    constructor
    · exact fun h' => (h'.stopped hr rfl).2
    · intro hu
      refine ⟨fun _ hr' => Bool.noConfusion (hr.symm.trans hr'), ?_, fun _ _ => ⟨rfl, hu⟩, by simp,
        by simp⟩
      simp only [holders, Control.owed]
      omega
  · cases hs

theorem listening_complete {c : Completion} (h : Listening alert s)
    (hs : next s (.complete c) = some s') : Listening alert s' := by
  simp only [next] at hs
  split at hs
  · obtain rfl := Option.some.inj hs
    refine h.move (by simp only [List.length_cons]; omega) fun hr hc => ?_
    have := (h.stopped hr hc).1
    omega
  · cases hs

theorem listening_step {e : Event} (h : Listening alert s) (hs : next s e = some s') :
    Listening alert s' ↔ Undisturbed alert s e := by
  cases e with
  | start => exact listening_start h hs
  | submit accepted => exact iff_of_true (listening_submit h hs) trivial
  | stop => exact iff_of_true (listening_stop h hs) trivial
  | cancel => exact listening_cancel h hs
  | complete c => exact iff_of_true (listening_complete h hs) trivial
  | callback k accepted =>
    simp only [next] at hs
    split at hs
    · rename_i pc rest hpick
      obtain rfl := Option.some.inj hs
      exact listening_callback h hpick
    · cases hs

/-! ## Runs -/

/-- The buffer never has two holders, and no transfer outlives a `Stop`, exactly if each start finds
the callbacks gone and no cancel finds one about to queue its transfer again. A running listener has
its transfer at all times exactly if, besides, none comes back for good and none is refused. -/
theorem listener_iff (alert : Prop) (es : List Event) (s : ListenState)
    (h : run next .init es = some s) :
    Always next (Listening alert) .init es ↔ Meets next (Undisturbed alert) .init es :=
  always_iff_meets listening_step (listening_init alert) h

/-- A scan event of three bytes. -/
def scanEvent : Completion := ⟨.ok, Buf.ofBytes kUsbInterruptBufferSize [0x07, 1, 0], 3, by decide⟩

/-- One event, and the end of the listener. -/
def listenRun : List Event :=
  [.start, .submit true, .complete scanEvent, .callback 0 true, .callback 0 true, .callback 0 true,
    .stop, .cancel]

theorem listener_iff_listenRun :
    run next .init listenRun = some .init ∧
      (Always next (Listening True) .init listenRun ↔ Meets next (Undisturbed True) .init listenRun) :=
  ⟨rfl, listener_iff True listenRun .init rfl⟩

/-! ## The order of the events -/

structure History where
  completed : List Completion -- in the order in which the chip filled the buffer
  handled : List C2HEvent -- in the order of the calls of `HandleC2HEvent`

def record (s : ListenState) (e : Event) (h : History) : History :=
  match e with
  | .complete c => { h with completed := h.completed ++ [c] }
  | .callback k _ =>
    match pick s.callbacks k with
    | some (.entered c, _) => { h with handled := h.handled ++ (parse c).toList }
    | _ => h
  | _ => h

/-- The completions whose callbacks have not got to their event yet. -/
def unread (s : ListenState) : List Completion :=
  s.callbacks.filterMap fun
    | .entered c => some c
    | _ => none

structure InOrder (p : ListenState × History) : Prop where
  order : p.2.handled ++ (unread p.1).filterMap parse = p.2.completed.filterMap parse
  wellFormed : ∀ e ∈ p.2.handled, ∃ c ∈ p.2.completed, c.status = .ok ∧ ∃ len rest,
    len.toNat = e.payload.length ∧ c.received = e.eventID :: len :: (e.payload ++ rest)

theorem order_step {p q : ListenState × History} {e : Event} (hl : Listening False p.1)
    (ho : p.2.handled ++ (unread p.1).filterMap parse = p.2.completed.filterMap parse)
    (hs : recorded next record p e = some q) :
    q.2.handled ++ (unread q.1).filterMap parse = q.2.completed.filterMap parse := by
  obtain ⟨s, h⟩ := p
  obtain ⟨hn, hh⟩ := recorded_eq_some.mp hs
  obtain ⟨s', h'⟩ := q
  simp only at hn hh ho hl ⊢
  subst hh
  have hsingle := hl.single
  simp only [holders] at hsingle
  cases e with
  | start | submit | stop | cancel =>
    simp only [next] at hn
    split at hn
    · obtain rfl := Option.some.inj hn
      first
        | exact ho
        | (split <;> exact ho)
    · cases hn
  | complete c =>
    simp only [next] at hn
    split at hn
    · obtain rfl := Option.some.inj hn
      have hnil : s.callbacks = [] := List.eq_nil_of_length_eq_zero (by omega)
      simp only [unread, hnil, List.filterMap_nil, List.append_nil] at ho
      simp only [record, unread, hnil, List.filterMap_cons, List.filterMap_nil, List.filterMap_append, ho]
    · cases hn
  | callback k accepted =>
    simp only [next] at hn
    split at hn
    · rename_i pc rest hpick
      obtain rfl := Option.some.inj hn
      have hlength := pick_length hpick
      have hnil : rest = [] := List.eq_nil_of_length_eq_zero (by omega)
      have hone : s.callbacks = [pc] := by
        have := pick_perm hpick
        rw [hnil] at this
        exact List.perm_singleton.mp this
      subst hnil
      simp only [unread, hone, List.filterMap_cons, List.filterMap_nil] at ho
      simp only [record, hpick, callbackStep]
      cases pc with
      | entered c =>
        have hread : [c].filterMap parse = (parse c).toList := by
          rw [List.filterMap_cons]
          cases parse c <;> rfl
        replace hread := (congrArg (h.handled ++ ·) hread.symm).trans ho
        simp only [hread]
        split <;> exact List.append_nil _
      | deciding =>
        simp only at ho ⊢
        split <;> exact ho
      | submitting =>
        simp only at ho ⊢
        split <;> exact ho
    · cases hn

theorem inOrder_of {p : ListenState × History}
    (ho : p.2.handled ++ (unread p.1).filterMap parse = p.2.completed.filterMap parse) : InOrder p where
  order := ho
  wellFormed := by
    intro e he
    have hmem : e ∈ p.2.completed.filterMap parse := ho ▸ List.mem_append_left _ he
    obtain ⟨c, hc, hparse⟩ := List.mem_filterMap.mp hmem
    exact ⟨c, hc, parse_eq_some.mp hparse⟩

/-- The guard of the listener, for a run with its history. -/
def Sole (p : ListenState × History) (e : Event) : Prop := Undisturbed False p.1 e

/-- With one holder of the buffer at a time, the events are handled in the order in which the chip
sent them, each once, and nothing but events that are all there. -/
theorem events_in_order (es : List Event)
    (h : Meets (recorded next record) Sole (.init, ⟨[], []⟩) es) :
    Always (recorded next record) InOrder (.init, ⟨[], []⟩) es := by
  have hinv : Always (recorded next record)
      (fun p => Listening False p.1 ∧
        p.2.handled ++ (unread p.1).filterMap parse = p.2.completed.filterMap parse)
      (.init, ⟨[], []⟩) es := by
    refine always_of_meets ?_ ⟨listening_init False, rfl⟩ h
    rintro p q e ⟨hl, ho⟩ hc hs
    exact ⟨(listening_step hl (recorded_eq_some.mp hs).1).mpr hc, order_step hl ho hs⟩
  exact always_mono (fun hi => inOrder_of hi.2) hinv

theorem events_in_order_listenRun :
    Meets (recorded next record) Sole (.init, ⟨[], []⟩) listenRun ∧
      Always (recorded next record) InOrder (.init, ⟨[], []⟩) listenRun := by
  have h : Meets (recorded next record) Sole (.init, ⟨[], []⟩) listenRun := by
    simp [listenRun, Meets, Sole, Undisturbed, recorded, next, ListenState.init, pick, callbackStep,
      isFinal, scanEvent]
  exact ⟨h, events_in_order listenRun h⟩

end Interrupt
end Rtl8814au
