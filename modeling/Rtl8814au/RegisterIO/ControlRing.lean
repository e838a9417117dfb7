import Rtl8814au.RegisterIO.Bounded

/-!
# RegisterIO.ControlRing

The four payload buffers of the bounded writes. An abandoned transfer keeps pointing at the one it
was given, and the ring comes round to it again.

* `Unreferenced` — a payload is not copied over one that the USB stack still refers to.
* `Timely`       — what the ring relies on: no transfer outlives the three copies after its own.
* `control_buffers_kept` — a run has the one property exactly if it has the other.
-/

namespace Rtl8814au
namespace RegisterIO

open Lts

def WritePc.isCopying (pc : WritePc) : Bool :=
  match pc with
  | .copying _ => true
  | _ => false

/-- The event is the copy of a payload. -/
def Copies (s : IoState) : IoEvent → Prop
  | .advance _ => ∃ r ∈ s.holder, r.pc.isCopying = true
  | _ => False

instance (s : IoState) : ∀ e, Decidable (Copies s e)
  | .advance _ => inferInstanceAs (Decidable (∃ r ∈ s.holder, _))
  | .writeBounded32 _ | .setDeviceRemoved | .lock _ | .complete _ _ | .store _ | .release =>
    isFalse id

def Unreferenced (s : IoState) (e : IoEvent) : Prop :=
  Copies s e → ∀ t ∈ s.queue, t.buffer ≠ s.fControlBufferIndex

def Timely (s : IoState) (e : IoEvent) : Prop :=
  Copies s e → ∀ t ∈ s.queue, s.copies < t.copy + kControlBuffers

instance (s : IoState) (e : IoEvent) : Decidable (Unreferenced s e) :=
  inferInstanceAs (Decidable (_ → _))

instance (s : IoState) (e : IoEvent) : Decidable (Timely s e) :=
  inferInstanceAs (Decidable (_ → _))

/-! ## The invariant -/

/-- The slot the ring gives to this copy. -/
def Transfer.inTurn (t : Transfer) : Prop := t.buffer.val = t.copy % kControlBuffers

structure RingInv (s : IoState) : Prop where
  index : s.fControlBufferIndex.val = s.copies % kControlBuffers
  carried : ∀ r ∈ s.holder, ∀ t ∈ r.pc.carried, t.inTurn ∧ t.copy + 1 = s.copies
  inTurn : ∀ t ∈ s.queue, t.inTurn
  recent : ∀ t ∈ s.queue, t.copy < s.copies ∧ s.copies ≤ t.copy + kControlBuffers

theorem ringInv_init (hasSemaphore : Bool) : RingInv (.init hasSemaphore) := by
  constructor <;> simp [IoState.init]

/-- A slot comes round again after four copies and not before. -/
theorem unreferenced_iff {s : IoState} {e : IoEvent} (h : RingInv s) :
    Unreferenced s e ↔ Timely s e := by
  unfold Unreferenced Timely
  refine imp_congr_right fun _ => forall₂_congr fun t ht => ?_
  have hindex := h.index
  have hturn : t.buffer.val = t.copy % kControlBuffers := h.inTurn t ht
  obtain ⟨hlt, hle⟩ := h.recent t ht
  rw [Ne, Fin.ext_iff, hindex, hturn]
  simp only [kControlBuffers] at hle ⊢
  omega

/-- A step that copies nothing and takes no new transfer on. -/
theorem RingInv.keep {s s' : IoState} (h : RingInv s)
    (hindex : s'.fControlBufferIndex = s.fControlBufferIndex) (hcopies : s'.copies = s.copies)
    (hcarried : ∀ r ∈ s'.holder, ∀ t ∈ r.pc.carried, ∃ r0 ∈ s.holder, t ∈ r0.pc.carried)
    (hqueue : ∀ t ∈ s'.queue, t ∈ s.queue) : RingInv s' where
  index := by rw [hindex, hcopies, h.index]
  carried := by
    intro r hr t ht
    obtain ⟨r0, hr0, ht0⟩ := hcarried r hr t ht
    rw [hcopies]
    exact h.carried r0 hr0 t ht0
  inTurn := fun t ht => h.inTurn t (hqueue t ht)
  recent := by
    intro t ht
    rw [hcopies]
    exact h.recent t (hqueue t ht)

theorem RingInv.goto {s : IoState} (h : RingInv s) (r : Running) {pc : WritePc}
    (hpc : pc.carried = none) : RingInv (s.goto r pc) :=
  h.keep rfl rfl (by rintro _ ⟨⟩ t ht; rw [hpc] at ht; cases ht) fun _ => id

theorem RingInv.returns {s : IoState} (h : RingInv s) (r : Running) (status : Status) :
    RingInv (s.returns r status) :=
  h.keep rfl rfl (by rintro _ ⟨⟩) fun _ => id

theorem ringInv_copy {s : IoState} {r : Running} {attempt : Nat} (h : RingInv s)
    (htimely : ∀ t ∈ s.queue, s.copies < t.copy + kControlBuffers) :
    RingInv ((s.copyPayload r.payload).goto r (.resetting attempt s.nextTransfer)) where
  index := by
    have hindex := h.index
    simp only [IoState.goto, IoState.copyPayload, Fin.val_add, kControlBuffers] at hindex ⊢
    omega
  carried := by
    rintro _ ⟨⟩ _ ⟨⟩
    exact ⟨h.index, rfl⟩
  inTurn := h.inTurn
  recent := by
    intro t ht
    have hlt := (h.recent t ht).1
    exact ⟨Nat.lt_succ_of_lt hlt, htimely t ht⟩

theorem ringInv_queue {s : IoState} {r : Running} {attempt : Nat} {t : Transfer} (h : RingInv s)
    (hr : s.holder = some r) (hpc : r.pc = .queueing attempt t) :
    RingInv ({ s with queue := t :: s.queue }.goto r (.waiting attempt)) := by
  obtain ⟨hturn, hcopy⟩ := h.carried r hr t (by rw [hpc]; rfl)
  refine ⟨h.index, by rintro _ ⟨⟩ _ ⟨⟩, ?_, ?_⟩
  · intro u hu
    rcases List.mem_cons.mp hu with rfl | hu
    · exact hturn
    · exact h.inTurn u hu
  · intro u hu
    rcases List.mem_cons.mp hu with rfl | hu
    · show u.copy < s.copies ∧ s.copies ≤ u.copy + 4
      omega
    · exact h.recent u hu

theorem ringInv_advance {s s' : IoState} {status : Status} {r : Running} (h : RingInv s)
    (hr : s.holder = some r) (ht : Timely s (.advance status))
    (hn : advance s status r = some s') : RingInv s' := by
  unfold advance at hn
  cases hpc : r.pc with
  | blocking tries =>
    simp only [hpc] at hn
    split at hn
    · cases hn
      exact h.returns _ _
    · split at hn
      · cases hn
        exact h.goto r rfl
      · cases hn
        exact h.returns _ _
  | draining attempt =>
    simp only [hpc] at hn
    split at hn
    · cases hn
      exact h.keep rfl rfl (fun r hr t ht => ⟨r, hr, ht⟩) fun _ => id
    · cases hn
      exact h.goto r rfl
  | copying attempt =>
    simp only [hpc] at hn
    cases hn
    exact ringInv_copy h (ht ⟨r, hr, by rw [hpc]; rfl⟩)
  | resetting attempt t =>
    simp only [hpc] at hn
    cases hn
    refine h.keep rfl rfl ?_ fun _ => id
    rintro _ ⟨⟩ u ⟨⟩
    exact ⟨r, hr, by rw [hpc]; rfl⟩
  | queueing attempt t =>
    simp only [hpc] at hn
    split at hn
    · cases hn
      exact ringInv_queue h hr hpc
    · cases hn
      exact h.returns _ _
  | waiting attempt =>
    simp only [hpc] at hn
    split at hn
    · split at hn
      · cases hn
        exact h.keep rfl rfl (by rintro _ ⟨⟩ _ ⟨⟩) fun _ => id
      · cases hn
    · split at hn
      · cases hn
      split at hn
      · cases hn
        exact h.goto r rfl
      · cases hn
        exact h.returns _ _
    · cases hn
      exact h.returns _ _
  | looking attempt =>
    simp only [hpc] at hn
    split at hn
    · cases hn
      exact h.returns _ _
    · split at hn
      · cases hn
        exact h.goto r rfl
      · cases hn
        exact h.goto r rfl
  | failing =>
    simp only [hpc] at hn
    cases hn
    exact h.returns _ _

theorem ringInv_step {s s' : IoState} {e : IoEvent} (h : RingInv s) (ht : Timely s e)
    (hn : next s e = some s') : RingInv s' := by
  have hsame : ∀ r ∈ s.holder, ∀ t ∈ r.pc.carried, ∃ r0 ∈ s.holder, t ∈ r0.pc.carried :=
    fun r hr t ht => ⟨r, hr, ht⟩
  cases e with
  | writeBounded32 value =>
    simp only [next] at hn
    split at hn
    · cases hn
      exact h.keep rfl rfl hsame fun _ => id
    · cases hn
      exact h.keep rfl rfl hsame fun _ => id
  | setDeviceRemoved =>
    cases hn
    exact h.keep rfl rfl hsame fun _ => id
  | lock k =>
    simp only [next] at hn
    split at hn
    · cases hn
    · obtain ⟨⟨payload, rest⟩, -, rfl⟩ := Option.map_eq_some_iff.mp hn
      refine h.keep rfl rfl ?_ fun _ => id
      rintro _ ⟨⟩ t ht
      dsimp only at ht
      split at ht
      · cases ht
      · cases ht
  | advance status =>
    obtain ⟨r, hr, hstep⟩ := Option.bind_eq_some_iff.mp hn
    exact ringInv_advance h hr ht hstep
  | complete k status =>
    obtain ⟨⟨t, rest⟩, hp, rfl⟩ := Option.map_eq_some_iff.mp hn
    refine h.keep rfl rfl ?_ fun u hu => pick_rest hp hu
    intro x hx u hu
    obtain ⟨r, hr, rfl⟩ := Option.map_eq_some_iff.mp hx
    rw [Running.note_pc] at hu
    exact ⟨r, hr, hu⟩
  | store k =>
    obtain ⟨⟨p, rest⟩, -, rfl⟩ := Option.map_eq_some_iff.mp hn
    exact h.keep rfl rfl hsame fun _ => id
  | release =>
    simp only [next] at hn
    split at hn
    · cases hn
      exact h.keep rfl rfl hsame fun _ => id
    · cases hn

/-! ## Runs -/

/-- In a run no payload is copied over one that is still referred to exactly if no copy finds a
transfer outstanding for which a payload was copied four or more copies before. -/
theorem control_buffers_kept (hasSemaphore : Bool) (es : List IoEvent) :
    Meets next Unreferenced (.init hasSemaphore) es ↔ Meets next Timely (.init hasSemaphore) es := by
  constructor
  · exact meets_of_invariant (I := RingInv)
      (fun h hu hn => ringInv_step h ((unreferenced_iff h).mp hu) hn)
      (fun h hu => (unreferenced_iff h).mp hu) (ringInv_init hasSemaphore)
  · exact meets_of_invariant (I := RingInv) ringInv_step
      (fun h ht => (unreferenced_iff h).mpr ht) (ringInv_init hasSemaphore)

/-- Five calls, each of which gives up on its transfer: the fifth finds the first one outstanding. -/
theorem control_buffers_kept_fiveTimeouts :
    ¬ ∀ hasSemaphore es, Meets next Unreferenced (.init hasSemaphore) es := by
  intro hclaim
  exact absurd (hclaim true (List.replicate 5 abandonRun).flatten) (by decide)

end RegisterIO
end Rtl8814au
