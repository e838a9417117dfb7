import Mathlib.Data.List.Perm.Basic

/-!
# Lib.Lts

Labelled transition systems given by an executable, partial step function `next`.

* `run next s es`     — the state after the steps `es`, when each of them is enabled.
* `Meets next C s es` — every step of that run meets the guard `C`, read on the state before it.
* `Always next I s es` — every state of the run, from first to last, satisfies `I`.
* `run_invariant`     — what every guarded step preserves holds after every guarded run.
* `Sometime next C s es` — some step of the run meets `C`; `run_sometime` carries an invariant that
  depends on whether one has.
* `always_iff_meets`  — when one step keeps `I` exactly if its guard holds, a run does too.
* `recorded next record` — the system with a history beside its state; `recorded_eq_some` takes one of
  its steps apart.
* `pick l k`          — one thread taken out of a pool of anonymous threads; `pick_perm` and
  `pick_countP` are all that a proof by counting needs to know about it.
-/

namespace Lts

section Run

variable {σ ε : Type}

def run (next : σ → ε → Option σ) : σ → List ε → Option σ
  | s, [] => some s
  | s, e :: es =>
    match next s e with
    | some s' => run next s' es
    | none => none

/-- Every step of the run meets `C`. A guard may look at the state before the step. -/
def Meets (next : σ → ε → Option σ) (C : σ → ε → Prop) : σ → List ε → Prop
  | _, [] => True
  | s, e :: es => C s e ∧ ∀ s' ∈ next s e, Meets next C s' es

variable {next : σ → ε → Option σ} {C : σ → ε → Prop}

instance decidableMeets [∀ s e, Decidable (C s e)] :
    ∀ (s : σ) (es : List ε), Decidable (Meets next C s es)
  | _, [] => isTrue trivial
  | s, e :: es =>
    have : ∀ s', Decidable (Meets next C s' es) := fun s' => decidableMeets s' es
    inferInstanceAs (Decidable (C s e ∧ ∀ s' ∈ next s e, Meets next C s' es))

theorem run_append {s : σ} {es fs : List ε} :
    run next s (es ++ fs) = (run next s es).bind fun s' => run next s' fs := by
  induction es generalizing s with
  | nil => rfl
  | cons e es ih =>
    simp only [List.cons_append, run]
    cases next s e with
    | none => rfl
    | some s' => exact ih

/-- A guarded run split at one of its steps. -/
theorem meets_append {s : σ} {es fs : List ε} :
    Meets next C s (es ++ fs) ↔
      Meets next C s es ∧ ∀ s', run next s es = some s' → Meets next C s' fs := by
  induction es generalizing s with
  | nil => simp [Meets, run]
  | cons e es ih =>
    simp only [List.cons_append, Meets, run, ih]
    constructor
    · rintro ⟨hc, h⟩
      refine ⟨⟨hc, fun s' hs => (h s' hs).1⟩, ?_⟩
      intro s' hr
      cases hs : next s e with
      | none => simp [hs] at hr
      | some t =>
        rw [hs] at hr
        exact (h t hs).2 s' hr
    · rintro ⟨⟨hc, h⟩, hr⟩
      refine ⟨hc, fun s' hs => ⟨h s' hs, ?_⟩⟩
      intro t ht
      exact hr t (by rw [hs]; exact ht)

theorem meets_and {D : σ → ε → Prop} {s : σ} {es : List ε} (hc : Meets next C s es)
    (hd : Meets next D s es) : Meets next (fun s e => C s e ∧ D s e) s es := by
  induction es generalizing s with
  | nil => trivial
  | cons e es ih => exact ⟨⟨hc.1, hd.1⟩, fun s' hs => ih (hc.2 s' hs) (hd.2 s' hs)⟩

/-- The induction rule: an invariant of the guarded steps holds after a guarded run. -/
theorem run_invariant {I : σ → Prop}
    (hstep : ∀ {s s' : σ} {e : ε}, I s → C s e → next s e = some s' → I s') :
    ∀ {es : List ε} {s s' : σ}, I s → Meets next C s es → run next s es = some s' → I s' := by
  intro es
  induction es with
  | nil =>
    intro s s' hi _ hr
    cases hr
    exact hi
  | cons e es ih =>
    intro s s' hi hm hr
    simp only [run] at hr
    cases hs : next s e with
    | none => rw [hs] at hr; cases hr
    | some t =>
      rw [hs] at hr
      exact ih (hstep hi hm.1 hs) (hm.2 t hs) hr

/-- What an invariant gives at every guarded step. -/
theorem meets_of_invariant {I : σ → Prop} {P : σ → ε → Prop}
    (hstep : ∀ {s s' : σ} {e : ε}, I s → C s e → next s e = some s' → I s')
    (hP : ∀ {s : σ} {e : ε}, I s → C s e → P s e) :
    ∀ {es : List ε} {s : σ}, I s → Meets next C s es → Meets next P s es := by
  intro es
  induction es with
  | nil => exact fun _ _ => trivial
  | cons e es ih =>
    intro s hi hm
    exact ⟨hP hi hm.1, fun s' hs => ih (hstep hi hm.1 hs) (hm.2 s' hs)⟩

/-- Every state of the run satisfies `I`. -/
def Always (next : σ → ε → Option σ) (I : σ → Prop) : σ → List ε → Prop
  | s, [] => I s
  | s, e :: es => I s ∧ ∀ s' ∈ next s e, Always next I s' es

instance decidableAlways {I : σ → Prop} [∀ s, Decidable (I s)] :
    ∀ (s : σ) (es : List ε), Decidable (Always next I s es)
  | s, [] => inferInstanceAs (Decidable (I s))
  | s, e :: es =>
    have : ∀ s', Decidable (Always next I s' es) := fun s' => decidableAlways s' es
    inferInstanceAs (Decidable (I s ∧ ∀ s' ∈ next s e, Always next I s' es))

theorem always_head {I : σ → Prop} {s : σ} {es : List ε} (h : Always next I s es) : I s := by
  cases es with
  | nil => exact h
  | cons e es => exact h.1

theorem meets_of_always {I : σ → Prop} {s : σ} {es : List ε} (h : Always next I s es) :
    Meets next (fun s _ => I s) s es := by
  induction es generalizing s with
  | nil => trivial
  | cons e es ih => exact ⟨h.1, fun s' hs => ih (h.2 s' hs)⟩

/-- In particular the last state does. -/
theorem always_last {I : σ → Prop} {s s' : σ} {es : List ε} (h : Always next I s es)
    (hr : run next s es = some s') : I s' := by
  induction es generalizing s with
  | nil =>
    cases hr
    exact h
  | cons e es ih =>
    simp only [run] at hr
    cases hs : next s e with
    | none => rw [hs] at hr; cases hr
    | some t =>
      rw [hs] at hr
      exact ih (h.2 t hs) hr

/-- What every guarded step preserves holds in every state of a guarded run. -/
theorem always_of_meets {I : σ → Prop}
    (hstep : ∀ {s s' : σ} {e : ε}, I s → C s e → next s e = some s' → I s') :
    ∀ {es : List ε} {s : σ}, I s → Meets next C s es → Always next I s es := by
  intro es
  induction es with
  | nil => exact fun hi _ => hi
  | cons e es ih => exact fun hi hm => ⟨hi, fun s' hs => ih (hstep hi hm.1 hs) (hm.2 s' hs)⟩

theorem always_of_step {I : σ → Prop}
    (hstep : ∀ {s s' : σ} {e : ε}, I s → next s e = some s' → I s') :
    ∀ {es : List ε} {s : σ}, I s → Always next I s es := by
  intro es
  induction es with
  | nil => exact id
  | cons e es ih => exact fun hi => ⟨hi, fun s' hs => ih (hstep hi hs)⟩

theorem always_mono {I J : σ → Prop} (hij : ∀ {s : σ}, I s → J s) :
    ∀ {es : List ε} {s : σ}, Always next I s es → Always next J s es := by
  intro es
  induction es with
  | nil => exact hij
  | cons e es ih => exact fun h => ⟨hij h.1, fun s' hs => ih (h.2 s' hs)⟩

theorem always_iff_meets {I : σ → Prop}
    (hstep : ∀ {s s' : σ} {e : ε}, I s → next s e = some s' → (I s' ↔ C s e)) :
    ∀ {es : List ε} {s s' : σ}, I s → run next s es = some s' →
      (Always next I s es ↔ Meets next C s es) := by
  intro es
  induction es with
  | nil => exact fun hi _ => ⟨fun _ => trivial, fun _ => hi⟩
  | cons e es ih =>
    intro s s' hi hr
    simp only [run] at hr
    cases hs : next s e with
    | none => rw [hs] at hr; cases hr
    | some t =>
      rw [hs] at hr
      simp only [Always, Meets, hs, Option.mem_def, Option.some.injEq, forall_eq']
      constructor
      · rintro ⟨-, hall⟩
        have ht := always_head hall
        exact ⟨(hstep hi hs).mp ht, (ih ht hr).mp hall⟩
      · rintro ⟨hc, hm⟩
        exact ⟨hi, (ih ((hstep hi hs).mpr hc) hr).mpr hm⟩

theorem meets_true (s : σ) (es : List ε) : Meets next (fun _ _ => True) s es := by
  induction es generalizing s with
  | nil => trivial
  | cons e es ih => exact ⟨trivial, fun s' _ => ih s'⟩

/-- Guards that an invariant makes equal are met by the same runs. -/
theorem meets_iff_of_invariant {I : σ → Prop} {P Q : σ → ε → Prop}
    (hstep : ∀ {s s' : σ} {e : ε}, I s → next s e = some s' → I s')
    (hPQ : ∀ {s : σ} {e : ε}, I s → (P s e ↔ Q s e)) {es : List ε} {s : σ} (hi : I s) :
    Meets next P s es ↔ Meets next Q s es := by
  constructor
  · intro hm
    exact meets_of_invariant (I := I) (fun h _ hs => hstep h hs) (fun h hp => (hPQ h).mp hp) hi hm
  · intro hm
    exact meets_of_invariant (I := I) (fun h _ hs => hstep h hs) (fun h hq => (hPQ h).mpr hq) hi hm

/-- A guard that every event of the list meets, in any state. -/
theorem meets_of_forall {s : σ} {es : List ε} (h : ∀ s, ∀ e ∈ es, C s e) : Meets next C s es := by
  induction es generalizing s with
  | nil => trivial
  | cons e es ih =>
    exact ⟨h s e List.mem_cons_self, fun _ _ => ih fun s e he => h s e (List.mem_cons_of_mem _ he)⟩

theorem meets_congr {P Q : σ → ε → Prop} (h : ∀ s e, P s e ↔ Q s e) {s : σ} {es : List ε} :
    Meets next P s es ↔ Meets next Q s es := by
  have hpq : P = Q := funext fun s => funext fun e => propext (h s e)
  rw [hpq]

/-- Some step of the run meets `C`. -/
def Sometime (next : σ → ε → Option σ) (C : σ → ε → Prop) : σ → List ε → Prop
  | _, [] => False
  | s, e :: es => C s e ∨ ∃ s' ∈ next s e, Sometime next C s' es

/-- The induction rule for an invariant `I s m`, where `m` says whether a step has met `C`. -/
theorem run_sometime {I : σ → Prop → Prop} {G : σ → ε → Prop}
    (hstep : ∀ {s s' : σ} {e : ε} {m : Prop}, I s m → G s e → next s e = some s' →
      I s' (m ∨ C s e)) :
    ∀ {es : List ε} {s s' : σ} {m : Prop}, I s m → Meets next G s es → run next s es = some s' →
      I s' (m ∨ Sometime next C s es) := by
  intro es
  induction es with
  | nil =>
    intro s s' m hi _ hr
    cases hr
    simpa only [Sometime, or_false] using hi
  | cons e es ih =>
    intro s s' m hi hm hr
    simp only [run] at hr
    cases hs : next s e with
    | none => rw [hs] at hr; cases hr
    | some t =>
      rw [hs] at hr
      have ht := ih (hstep hi hm.1 hs) (hm.2 t hs) hr
      have hsplit : ((m ∨ C s e) ∨ Sometime next C t es) ↔ (m ∨ Sometime next C s (e :: es)) := by
        simp only [Sometime, hs, Option.mem_def, Option.some.injEq, exists_eq_left', or_assoc]
      rw [← propext hsplit]
      exact ht

end Run

/-! ## Histories -/

section History

variable {σ ε η : Type}

/-- A step with what `record` makes of it: it reads the state before the step. -/
def recorded (next : σ → ε → Option σ) (record : σ → ε → η → η) (p : σ × η) (e : ε) :
    Option (σ × η) :=
  (next p.1 e).map fun s' => (s', record p.1 e p.2)

variable {next : σ → ε → Option σ} {record : σ → ε → η → η}

theorem recorded_eq_some {p q : σ × η} {e : ε} :
    recorded next record p e = some q ↔ next p.1 e = some q.1 ∧ q.2 = record p.1 e p.2 := by
  unfold recorded
  cases next p.1 e with
  | none => simp
  | some s' =>
    simp only [Option.map_some, Option.some.injEq]
    constructor
    · intro h
      subst h
      exact ⟨rfl, rfl⟩
    · rintro ⟨h1, h2⟩
      exact Prod.ext h1 h2.symm

end History

/-! ## Pools of threads -/

section Pool

variable {α : Type}

/-- Thread `k` of the pool and the pool without it. -/
def pick (l : List α) (k : Nat) : Option (α × List α) :=
  match l[k]? with
  | some x => some (x, l.eraseIdx k)
  | none => none

theorem pick_perm {l rest : List α} {k : Nat} {x : α} (h : pick l k = some (x, rest)) :
    l.Perm (x :: rest) := by
  simp only [pick] at h
  split at h
  · rename_i y hy
    simp only [Option.some.injEq, Prod.mk.injEq] at h
    obtain ⟨rfl, rfl⟩ := h
    obtain ⟨hk, hget⟩ := List.getElem?_eq_some_iff.mp hy
    subst hget
    exact (List.getElem_cons_eraseIdx_perm hk).symm
  · cases h

theorem pick_countP {l rest : List α} {k : Nat} {x : α} (h : pick l k = some (x, rest))
    (p : α → Bool) : l.countP p = rest.countP p + if p x then 1 else 0 := by
  rw [(pick_perm h).countP_eq, List.countP_cons]

theorem pick_mem {l rest : List α} {k : Nat} {x : α} (h : pick l k = some (x, rest)) :
    x ∈ l := (pick_perm h).mem_iff.mpr List.mem_cons_self

theorem pick_rest {l rest : List α} {k : Nat} {x y : α} (h : pick l k = some (x, rest))
    (hy : y ∈ rest) : y ∈ l := (pick_perm h).mem_iff.mpr (List.mem_cons_of_mem _ hy)

theorem pick_length {l rest : List α} {k : Nat} {x : α} (h : pick l k = some (x, rest)) :
    l.length = rest.length + 1 := by
  rw [(pick_perm h).length_eq, List.length_cons]

end Pool

end Lts
