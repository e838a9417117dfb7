import Mathlib.Data.List.Basic
import Rtl8814au.Lib.Lts

/-!
# Lib.Worker

A worker thread that sleeps on a counting semaphore. Any number of callers leave something in its
mailbox and release the semaphore, and one caller stops the worker and waits for it. Every atomic
operation of each of them is a step.

* `Design`     — the mailbox, and which failures of `acquire` the worker survives.
* `next`       — one step; `tracked` keeps a `History` beside the state.
* `Accounted`  — every release is spent on one visit to the mailbox, and nothing that was left in it
  is forgotten while the worker sleeps.
* `Reapable`   — once the stop is signalled the worker is never blocked; `exits` bounds its steps.
* `Slot`       — a mailbox for one item, which a later one replaces. `Slot.Ordered` is what its worker
  takes: the items in their order, each once, without those that were replaced.
-/

namespace Worker

open Lts

/-- What `acquire` comes to. -/
inductive Wake
  | ok
  | transient
  | gone -- there is no semaphore any more
deriving DecidableEq

structure Design (ι σ α : Type) where
  put : σ → ι → σ × Bool -- with whether the caller goes on to release the semaphore
  take : σ → Option α × σ
  full : σ → Bool -- something is in the mailbox that was not taken yet
  retries : Wake → Bool

/-- Where the worker stands. -/
inductive Pc (α : Type)
  | testing -- before the condition of the loop
  | waiting -- in `acquire`
  | woken (wake : Wake) -- the stop flag is not read yet
  | armed -- the removal flag is not read yet
  | taking -- before the section under the lock
  | working (job : α)
  | exited

/-- Where the caller stands that stops the worker. -/
inductive Shutdown
  | idle
  | flagged -- before the release
  | signalled -- waits for the thread
  | joined
deriving DecidableEq

def Pc.isExited {α : Type} : Pc α → Bool
  | .exited => true
  | _ => false

def Pc.isWaiting {α : Type} : Pc α → Bool
  | .waiting => true
  | _ => false

structure State (σ α : Type) where
  box : σ
  tokens : Nat -- the count of the semaphore
  owed : Nat -- callers between their section under the lock and the release
  stop : Bool
  removed : Bool
  shutdown : Shutdown
  pc : Pc α

def State.init {σ α : Type} (box : σ) : State σ α where
  box := box
  tokens := 0
  owed := 0
  stop := false
  removed := false
  shutdown := .idle
  pc := .testing

inductive Event (ι : Type)
  | put (i : ι)
  | release
  | work (wake : Wake) -- a step of the worker; `wake` counts where it waits
  | remove
  | shutdown

section Steps

variable {ι σ α : Type}

/-- A step of the worker. -/
def work (m : Design ι σ α) (s : State σ α) (wake : Wake) : Option (State σ α) :=
  match s.pc with
  | .testing => some { s with pc := if s.stop then .exited else .waiting }
  | .waiting =>
    if wake ≠ .ok then some { s with pc := .woken wake }
    else if 0 < s.tokens then some { s with tokens := s.tokens - 1, pc := .woken .ok }
    else none
  | .woken wake =>
    if s.stop then some { s with pc := .exited }
    else if wake = .ok then some { s with pc := .armed }
    else some { s with pc := if m.retries wake then .testing else .exited }
  | .armed => some { s with pc := if s.removed then .testing else .taking }
  | .taking =>
    some { s with
      box := (m.take s.box).2
      pc := match (m.take s.box).1 with
        | some job => .working job
        | none => .testing }
  | .working _ => some { s with pc := .testing }
  | .exited => none

def next (m : Design ι σ α) (s : State σ α) : Event ι → Option (State σ α)
  | .put i =>
    some { s with
      box := (m.put s.box i).1
      owed := s.owed + if (m.put s.box i).2 then 1 else 0 }
  | .release => if 0 < s.owed then some { s with owed := s.owed - 1, tokens := s.tokens + 1 } else none
  | .work wake => work m s wake
  | .remove => some { s with removed := true }
  | .shutdown =>
    match s.shutdown with
    | .idle => some { s with shutdown := .flagged, stop := true }
    | .flagged => some { s with shutdown := .signalled, tokens := s.tokens + 1 }
    | .signalled =>
      match s.pc with
      | .exited => some { s with shutdown := .joined }
      | _ => none
    | .joined => none

/-! ## Histories -/

structure History (ι α : Type) where
  puts : List ι
  signals : Nat -- puts that go on to a release
  overwrites : Nat -- puts into a mailbox that was full
  stale : Bool -- a put with a release has not been followed by a visit to the mailbox
  taken : List α
  visits : Nat
  spent : Nat -- tokens that no visit followed, since the worker was stopped or the device removed

def History.init : History ι α := ⟨[], 0, 0, false, [], 0, 0⟩

def record (m : Design ι σ α) (s : State σ α) (e : Event ι) (h : History ι α) : History ι α :=
  match e, s.pc with
  | .put i, _ =>
    { h with
      puts := h.puts ++ [i]
      signals := h.signals + if (m.put s.box i).2 then 1 else 0
      overwrites := h.overwrites + if m.full s.box then 1 else 0
      stale := h.stale || (m.put s.box i).2 }
  | .work _, .taking =>
    { h with stale := false, taken := h.taken ++ (m.take s.box).1.toList, visits := h.visits + 1 }
  | .work _, .woken .ok => { h with spent := h.spent + if s.stop then 1 else 0 }
  | .work _, .armed => { h with spent := h.spent + if s.removed then 1 else 0 }
  | _, _ => h

/-- The worker and its history. -/
abbrev tracked (m : Design ι σ α) := recorded (next m) (record m)

abbrev start (box : σ) : State σ α × History ι α := (.init box, .init)

/-- What a step of the worker can do. -/
inductive WorkStep (m : Design ι σ α) (s : State σ α) (h : History ι α) :
    Wake → State σ α → History ι α → Prop
  | test (wake : Wake) (hp : s.pc = .testing) (hs : s.stop = false) :
    WorkStep m s h wake { s with pc := .waiting } h
  | leave (wake : Wake) (hp : s.pc = .testing) (hs : s.stop = true) :
    WorkStep m s h wake { s with pc := .exited } h
  | fail (wake : Wake) (hp : s.pc = .waiting) (hw : wake ≠ .ok) :
    WorkStep m s h wake { s with pc := .woken wake } h
  | wake (hp : s.pc = .waiting) (ht : 0 < s.tokens) :
    WorkStep m s h .ok { s with tokens := s.tokens - 1, pc := .woken .ok } h
  | stopped (wake : Wake) (hp : s.pc = .woken .ok) (hs : s.stop = true) :
    WorkStep m s h wake { s with pc := .exited } { h with spent := h.spent + 1 }
  | arm (wake : Wake) (hp : s.pc = .woken .ok) (hs : s.stop = false) :
    WorkStep m s h wake { s with pc := .armed } h
  | retry (wake woken : Wake) (hp : s.pc = .woken woken) (hw : woken ≠ .ok) (hs : s.stop = false)
      (hr : m.retries woken = true) : WorkStep m s h wake { s with pc := .testing } h
  | die (wake woken : Wake) (hp : s.pc = .woken woken) (hw : woken ≠ .ok)
      (hs : s.stop = true ∨ m.retries woken = false) : WorkStep m s h wake { s with pc := .exited } h
  | skip (wake : Wake) (hp : s.pc = .armed) (hr : s.removed = true) :
    WorkStep m s h wake { s with pc := .testing } { h with spent := h.spent + 1 }
  | go (wake : Wake) (hp : s.pc = .armed) (hr : s.removed = false) :
    WorkStep m s h wake { s with pc := .taking } h
  | take (wake : Wake) (hp : s.pc = .taking) :
    WorkStep m s h wake
      { s with
        box := (m.take s.box).2
        pc := match (m.take s.box).1 with
          | some job => .working job
          | none => .testing }
      { h with stale := false, taken := h.taken ++ (m.take s.box).1.toList, visits := h.visits + 1 }
  | done (wake : Wake) (job : α) (hp : s.pc = .working job) :
    WorkStep m s h wake { s with pc := .testing } h

/-- What a step can do. -/
inductive Step (m : Design ι σ α) (s : State σ α) (h : History ι α) :
    Event ι → State σ α → History ι α → Prop
  | put (i : ι) :
    Step m s h (.put i)
      { s with
        box := (m.put s.box i).1
        owed := s.owed + if (m.put s.box i).2 then 1 else 0 }
      { h with
        puts := h.puts ++ [i]
        signals := h.signals + if (m.put s.box i).2 then 1 else 0
        overwrites := h.overwrites + if m.full s.box then 1 else 0
        stale := h.stale || (m.put s.box i).2 }
  | release (ho : 0 < s.owed) :
    Step m s h .release { s with owed := s.owed - 1, tokens := s.tokens + 1 } h
  | remove : Step m s h .remove { s with removed := true } h
  | flag (hd : s.shutdown = .idle) :
    Step m s h .shutdown { s with shutdown := .flagged, stop := true } h
  | signal (hd : s.shutdown = .flagged) :
    Step m s h .shutdown { s with shutdown := .signalled, tokens := s.tokens + 1 } h
  | join (hd : s.shutdown = .signalled) (hp : s.pc = .exited) :
    Step m s h .shutdown { s with shutdown := .joined } h
  | work {wake : Wake} {s' : State σ α} {h' : History ι α} (hw : WorkStep m s h wake s' h') :
    Step m s h (.work wake) s' h'

theorem step_work {m : Design ι σ α} {s s' : State σ α} {h : History ι α} {wake : Wake}
    (hs : work m s wake = some s') : WorkStep m s h wake s' (record m s (.work wake) h) := by
  unfold work at hs
  split at hs
  · rename_i hp
    obtain rfl := Option.some.inj hs
    simp only [record, hp]
    cases hstop : s.stop with
    | true => simpa [hstop] using WorkStep.leave (m := m) (h := h) wake hp hstop
    | false => simpa [hstop] using WorkStep.test (m := m) (h := h) wake hp hstop
  · rename_i hp
    simp only [record, hp]
    split at hs
    · rename_i hw
      obtain rfl := Option.some.inj hs
      exact .fail wake hp hw
    · split at hs
      · rename_i hok ht
        obtain rfl := Option.some.inj hs
        obtain rfl := not_not.mp hok
        exact .wake hp ht
      · cases hs
  · rename_i woke hp
    cases woke with
    | ok =>
      simp only [record, hp]
      split at hs
      · rename_i hstop
        obtain rfl := Option.some.inj hs
        rw [if_pos hstop]
        exact .stopped wake hp hstop
      · rename_i hstop
        obtain rfl := Option.some.inj hs
        rw [if_neg hstop]
        exact .arm wake hp (Bool.eq_false_iff.mpr hstop)
    | transient | gone =>
      simp only [record, hp]
      split at hs
      · rename_i hstop
        obtain rfl := Option.some.inj hs
        exact .die wake _ hp nofun (.inl hstop)
      · rename_i hstop
        rw [if_neg nofun] at hs
        obtain rfl := Option.some.inj hs
        split
        · rename_i hretry
          exact .retry wake _ hp nofun (Bool.eq_false_iff.mpr hstop) hretry
        · rename_i hretry
          exact .die wake _ hp nofun (.inr (Bool.eq_false_iff.mpr hretry))
  · rename_i hp
    obtain rfl := Option.some.inj hs
    simp only [record, hp]
    cases hr : s.removed with
    | true => simpa [hr] using WorkStep.skip wake hp hr
    | false => simpa [hr] using WorkStep.go (m := m) (h := h) wake hp hr
  · rename_i hp
    obtain rfl := Option.some.inj hs
    simpa only [record, hp] using WorkStep.take wake hp
  · rename_i job hp
    obtain rfl := Option.some.inj hs
    simpa only [record, hp] using WorkStep.done wake job hp
  · cases hs

theorem step_of_tracked {m : Design ι σ α} {p q : State σ α × History ι α} {e : Event ι}
    (hs : tracked m p e = some q) : Step m p.1 p.2 e q.1 q.2 := by
  obtain ⟨hn, hh⟩ := recorded_eq_some.mp hs
  obtain ⟨s, h⟩ := p
  obtain ⟨s', h'⟩ := q
  simp only at hn hh
  subst hh
  cases e with
  | put i =>
    obtain rfl := Option.some.inj hn
    exact .put i
  | release =>
    simp only [next] at hn
    split at hn
    · rename_i ho
      obtain rfl := Option.some.inj hn
      exact .release ho
    · cases hn
  | work wake => exact .work (step_work hn)
  | remove =>
    obtain rfl := Option.some.inj hn
    exact .remove
  | shutdown =>
    simp only [next] at hn
    split at hn
    · rename_i hd
      obtain rfl := Option.some.inj hn
      exact .flag hd
    · rename_i hd
      obtain rfl := Option.some.inj hn
      exact .signal hd
    · rename_i hd
      split at hn
      · rename_i hp
        obtain rfl := Option.some.inj hn
        exact .join hd hp
      · cases hn
    · cases hn

/-! ## Accounts -/

/-- A token that the worker has taken and not spent yet. -/
def Pc.token : Pc α → Nat
  | .woken .ok | .armed | .taking => 1
  | _ => 0

/-- The release of the shutdown. -/
def Shutdown.token : Shutdown → Nat
  | .signalled | .joined => 1
  | _ => 0

/-- Each release is spent on one visit. -/
structure Accounted (s : State σ α) (h : History ι α) : Prop where
  total : h.visits + h.spent + s.pc.token + s.tokens + s.owed = h.signals + s.shutdown.token
  unspent : s.stop = false → s.removed = false → h.spent = 0
  flagged : s.stop = false → s.shutdown = .idle
  kept : 0 < s.shutdown.token → 0 < h.spent + s.tokens ∨ s.pc = .woken .ok
  awake : h.stale = true → s.stop = false → s.removed = false → s.pc.isExited = false →
    0 < s.pc.token + s.tokens + s.owed

variable {m : Design ι σ α} {s s' : State σ α} {h h' : History ι α}

theorem accounted_init (box : σ) : Accounted (.init box : State σ α) (.init : History ι α) where
  total := rfl
  unspent _ _ := rfl
  flagged _ := rfl
  kept hd := nomatch hd
  awake hs := nomatch hs

theorem token_fail {wake : Wake} (hw : wake ≠ .ok) : (Pc.woken wake : Pc α).token = 0 := by
  cases wake with
  | ok => exact absurd rfl hw
  | transient | gone => rfl

theorem ne_true {b : Bool} (h : b = true) : b ≠ false := by
  rw [h]
  nofun

/-- The worker moves on with what it has. It may leave the token of the shutdown behind only where there
is none yet. -/
theorem Accounted.move {pc : Pc α} (ha : Accounted s h) (htoken : pc.token = s.pc.token)
    (halive : s.pc.isExited = false) (hwoken : s.pc ≠ .woken .ok ∨ s.stop = false) :
    Accounted { s with pc := pc } h where
  total := by
    have htotal := ha.total
    rw [← htoken] at htotal
    exact htotal
  unspent := ha.unspent
  flagged := ha.flagged
  kept hd := by
    rcases hwoken with hother | hns
    · exact .inl ((ha.kept hd).resolve_right hother)
    · have hd' : 0 < s.shutdown.token := hd
      rw [ha.flagged hns] at hd'
      cases hd'
  awake hst hns hr _ := by
    have hawake := ha.awake hst hns hr halive
    rw [← htoken] at hawake
    exact hawake

/-- The worker has no use for its token any more. -/
theorem Accounted.spend {pc : Pc α} (ha : Accounted s h) (hbefore : s.pc.token = 1)
    (hafter : pc.token = 0) (hover : s.stop = true ∨ s.removed = true) :
    Accounted { s with pc := pc } { h with spent := h.spent + 1 } where
  total := by
    have htotal := ha.total
    simp only [hafter]
    omega
  unspent hns hnr := hover.elim (fun hs => absurd hns (ne_true hs)) fun hr => absurd hnr (ne_true hr)
  flagged := ha.flagged
  kept _ := .inl (by simp only; omega)
  awake _ hns hnr := hover.elim (fun hs => absurd hns (ne_true hs)) fun hr => absurd hnr (ne_true hr)

theorem Accounted.work {wake : Wake} (ha : Accounted s h) (hs : WorkStep m s h wake s' h') :
    Accounted s' h' := by
  cases hs with
  | test _ hp _ | leave _ hp _ | done _ _ hp =>
    exact ha.move (by rw [hp]; rfl) (by rw [hp]; rfl) (.inl (by rw [hp]; nofun))
  | fail _ hp hw =>
    exact ha.move (by rw [hp, token_fail hw]; rfl) (by rw [hp]; rfl) (.inl (by rw [hp]; nofun))
  | arm _ hp hs => exact ha.move (by rw [hp]; rfl) (by rw [hp]; rfl) (.inr hs)
  | retry _ woken hp hw hs _ =>
    exact ha.move (by rw [hp, token_fail hw]; rfl) (by rw [hp]; rfl) (.inr hs)
  | die _ woken hp hw _ =>
    refine ha.move (by rw [hp, token_fail hw]; rfl) (by rw [hp]; rfl) (.inl ?_)
    rw [hp]
    exact fun heq => hw (Pc.woken.inj heq)
  | go _ hp _ => exact ha.move (by rw [hp]; rfl) (by rw [hp]; rfl) (.inl (by rw [hp]; nofun))
  | stopped _ hp hs => exact ha.spend (by rw [hp]; rfl) rfl (.inl hs)
  | skip _ hp hr => exact ha.spend (by rw [hp]; rfl) rfl (.inr hr)
  | wake hp ht =>
    have htotal := ha.total
    rw [hp] at htotal
    refine ⟨?_, ha.unspent, ha.flagged, fun _ => .inr rfl, fun _ _ _ _ => ?_⟩
    · simp only [Pc.token] at htotal ⊢
      omega
    · simp only [Pc.token]
      omega
  | take _ hp =>
    have htotal := ha.total
    have hkept := ha.kept
    rw [hp] at htotal hkept
    have htoken : (match (m.take s.box).1 with
        | some job => Pc.working job
        | none => .testing : Pc α).token = 0 := by
      split <;> rfl
    refine ⟨?_, ha.unspent, ha.flagged, fun hd => .inl ((hkept hd).resolve_right nofun),
      fun hst => (nomatch hst)⟩
    rw [htoken]
    simp only [Pc.token] at htotal
    simp only
    omega

/-- Once the worker is told to stop, the flag is up. -/
theorem Accounted.stopped (ha : Accounted s h) (hd : s.shutdown ≠ .idle) : s.stop ≠ false :=
  fun hns => hd (ha.flagged hns)

theorem Accounted.step {e : Event ι} (ha : Accounted s h) (hs : Step m s h e s' h') :
    Accounted s' h' := by
  have ⟨htotal, hunspent, hflagged, hkept, hawake⟩ := ha
  cases hs with
  | put i =>
    refine ⟨by simp only; omega, hunspent, hflagged, hkept, fun hst hstop hr hp => ?_⟩
    rcases Bool.or_eq_true_iff.mp hst with hst | hst
    · have := hawake hst hstop hr hp
      simp only
      omega
    · simp only [hst, if_true]
      omega
  | release ho =>
    refine ⟨by simp only; omega, hunspent, hflagged, fun hd => ?_, fun hst hstop hr hp => ?_⟩
    · rcases hkept hd with hk | hk
      · exact .inl (by simp only; omega)
      · exact .inr hk
    · have := hawake hst hstop hr hp
      simp only
      omega
  | remove => exact ⟨htotal, fun _ hr => (nomatch hr), hflagged, hkept, fun _ _ hr => (nomatch hr)⟩
  | flag hd =>
    rw [hd] at htotal
    exact ⟨htotal, fun hstop => (nomatch hstop), fun hstop => (nomatch hstop), fun hd => (nomatch hd),
      fun _ hstop => (nomatch hstop)⟩
  | signal hd =>
    have hstop := ha.stopped (by rw [hd]; nofun)
    rw [hd] at htotal
    refine ⟨?_, hunspent, fun hns => absurd hns hstop, fun _ => .inl (by simp only; omega),
      fun _ hns => absurd hns hstop⟩
    simp only [Shutdown.token] at htotal ⊢
    omega
  | join hd hp =>
    have hstop := ha.stopped (by rw [hd]; nofun)
    rw [hd] at htotal hkept
    exact ⟨htotal, hunspent, fun hns => absurd hns hstop, hkept, hawake⟩
  | work hw => exact ha.work hw

/-- The worker never visits the mailbox more often than a put asked for it. -/
theorem Accounted.visits_le (ha : Accounted s h) : h.visits ≤ h.signals := by
  have htotal := ha.total
  cases hd : s.shutdown with
  | idle | flagged =>
    rw [hd] at htotal
    simp only [Shutdown.token] at htotal
    omega
  | signalled | joined =>
    have hkept := ha.kept (by rw [hd]; exact Nat.one_pos)
    rw [hd] at htotal
    simp only [Shutdown.token] at htotal
    rcases hkept with hk | hk
    · omega
    · rw [hk] at htotal
      simp only [Pc.token] at htotal
      omega

/-! ## The end of the worker -/

/-- The shutdown finds the worker awake, or the token it has left for it. -/
structure Reapable (s : State σ α) : Prop where
  flagged : s.shutdown ≠ .idle → s.stop = true
  ready : 0 < s.shutdown.token → s.pc.isWaiting = true → 0 < s.tokens
  joined : s.shutdown = .joined → s.pc.isExited = true

theorem reapable_init (box : σ) : Reapable (.init box : State σ α) where
  flagged hd := absurd rfl hd
  ready hd := nomatch hd
  joined hd := nomatch hd

/-- A step of the worker keeps the flag and the shutdown, and leads to `acquire` only where the flag
was clear. -/
theorem Reapable.of_work {tokens : Nat} {pc : Pc α} {box : σ} (hr : Reapable s)
    (hlive : s.pc.isExited = false) (hwait : pc.isWaiting = true → s.stop = false) :
    Reapable { s with box := box, tokens := tokens, pc := pc } where
  flagged := hr.flagged
  ready hd hp := by
    have hstop := hr.flagged (by rintro hi; rw [show s.shutdown = .idle from hi] at hd; cases hd)
    rw [hwait hp] at hstop
    cases hstop
  joined hd := by
    have hexited := hr.joined hd
    rw [hlive] at hexited
    cases hexited

theorem Reapable.step {e : Event ι} (hr : Reapable s) (hs : Step m s h e s' h') :
    Reapable s' := by
  cases hs with
  | put i => exact ⟨hr.flagged, hr.ready, hr.joined⟩
  | release ho => exact ⟨hr.flagged, fun _ _ => Nat.succ_pos _, hr.joined⟩
  | remove => exact ⟨hr.flagged, hr.ready, hr.joined⟩
  | flag hd => exact ⟨fun _ => rfl, nofun, nofun⟩
  | signal hd =>
    exact ⟨fun _ => hr.flagged (by rw [hd]; nofun), fun _ _ => Nat.succ_pos _, nofun⟩
  | join hd hp =>
    refine ⟨fun _ => hr.flagged (by rw [hd]; nofun), fun _ hw => ?_, fun _ => ?_⟩
    · rw [show s.pc = .exited from hp] at hw
      cases hw
    · rw [show s.pc = .exited from hp]
      rfl
  | work hw =>
    cases hw with
    | test _ hp hs => exact hr.of_work (by rw [hp]; rfl) fun _ => hs
    | leave _ hp hs => exact hr.of_work (by rw [hp]; rfl) nofun
    | fail wake hp hw => exact hr.of_work (by rw [hp]; rfl) nofun
    | wake hp ht => exact hr.of_work (by rw [hp]; rfl) nofun
    | stopped _ hp hs => exact hr.of_work (by rw [hp]; rfl) nofun
    | arm _ hp hs => exact hr.of_work (by rw [hp]; rfl) nofun
    | retry _ woken hp hw hs hretry => exact hr.of_work (by rw [hp]; rfl) nofun
    | die _ woken hp hw hs => exact hr.of_work (by rw [hp]; rfl) nofun
    | skip _ hp hrem => exact hr.of_work (by rw [hp]; rfl) nofun
    | go _ hp hrem => exact hr.of_work (by rw [hp]; rfl) nofun
    | take _ hp =>
      refine hr.of_work (by rw [hp]; rfl) ?_
      split <;> nofun
    | done _ job hp => exact hr.of_work (by rw [hp]; rfl) nofun

theorem Reapable.next {e : Event ι} (hr : Reapable s) (hs : next m s e = some s') : Reapable s' :=
  hr.step (step_of_tracked (p := (s, .init)) (q := (s', record m s e .init))
    (recorded_eq_some.mpr ⟨hs, rfl⟩))

/-- Steps to the end, with the flag set. -/
def Pc.toExit : Pc α → Nat
  | .exited => 0
  | .testing | .woken _ => 1
  | .waiting | .working _ => 2
  | .taking => 3
  | .armed => 4

/-- A worker that waits for the shutdown is never blocked. -/
theorem Reapable.enabled (hr : Reapable s) (hd : 0 < s.shutdown.token)
    (hlive : s.pc.isExited = false) : (work m s .ok).isSome = true := by
  unfold work
  split
  · rfl
  · rename_i hp
    rw [if_neg fun h => h rfl, if_pos (hr.ready hd (by rw [hp]; rfl))]
    rfl
  · split
    · rfl
    · split <;> rfl
  · rfl
  · rfl
  · rfl
  · rename_i hp
    rw [hp] at hlive
    cases hlive

theorem toExit_work {wake : Wake} (hstop : s.stop = true) (hs : work m s wake = some s') :
    s'.stop = true ∧ s'.pc.toExit < s.pc.toExit := by
  unfold work at hs
  split at hs
  · rename_i hp
    obtain rfl := Option.some.inj hs
    simp only [hp, hstop, if_true]
    exact ⟨trivial, Nat.one_pos⟩
  · rename_i hp
    split at hs
    · obtain rfl := Option.some.inj hs
      rw [hp]
      exact ⟨hstop, Nat.lt_succ_self 1⟩
    · split at hs
      · obtain rfl := Option.some.inj hs
        rw [hp]
        exact ⟨hstop, Nat.lt_succ_self 1⟩
      · cases hs
  · rename_i hp
    rw [if_pos hstop] at hs
    obtain rfl := Option.some.inj hs
    rw [hp]
    exact ⟨hstop, Nat.one_pos⟩
  · rename_i hp
    obtain rfl := Option.some.inj hs
    rw [hp]
    refine ⟨hstop, ?_⟩
    simp only
    split <;> exact of_decide_eq_true rfl
  · rename_i hp
    obtain rfl := Option.some.inj hs
    rw [hp]
    refine ⟨hstop, ?_⟩
    simp only
    split <;> exact by simp [Pc.toExit]
  · rename_i job hp
    obtain rfl := Option.some.inj hs
    rw [hp]
    exact ⟨hstop, Nat.lt_succ_self 1⟩
  · cases hs

def Event.isWork : Event ι → Bool
  | .work _ => true
  | _ => false

theorem next_others {e : Event ι} (he : e.isWork = false) (hs : next m s e = some s') :
    s'.pc = s.pc ∧ (s.stop = true → s'.stop = true) := by
  cases e with
  | put i =>
    obtain rfl := Option.some.inj hs
    exact ⟨rfl, id⟩
  | release =>
    simp only [next] at hs
    split at hs
    · obtain rfl := Option.some.inj hs
      exact ⟨rfl, id⟩
    · cases hs
  | work wake => cases he
  | remove =>
    obtain rfl := Option.some.inj hs
    exact ⟨rfl, id⟩
  | shutdown =>
    simp only [next] at hs
    split at hs
    · obtain rfl := Option.some.inj hs
      exact ⟨rfl, fun _ => rfl⟩
    · obtain rfl := Option.some.inj hs
      exact ⟨rfl, id⟩
    · split at hs
      · obtain rfl := Option.some.inj hs
        exact ⟨rfl, id⟩
      · cases hs
    · cases hs

/-- The worker's own steps are its way to the end, whatever the others do in between. -/
theorem exits {es : List (Event ι)} (hstop : s.stop = true) (hr : run (next m) s es = some s') :
    s'.stop = true ∧ s'.pc.toExit + es.countP Event.isWork ≤ s.pc.toExit := by
  induction es generalizing s with
  | nil =>
    obtain rfl := Option.some.inj hr
    exact ⟨hstop, Nat.le_refl _⟩
  | cons e es ih =>
    simp only [run] at hr
    split at hr
    · rename_i t hs
      cases he : e.isWork with
      | true =>
        cases e with
        | work wake =>
          obtain ⟨ht, hlt⟩ := toExit_work hstop hs
          obtain ⟨hs', hle⟩ := ih ht hr
          rw [List.countP_cons_of_pos he]
          exact ⟨hs', by omega⟩
        | put | release | remove | shutdown => cases he
      | false =>
        obtain ⟨hpc, ht⟩ := next_others he hs
        rw [List.countP_cons_of_neg (by rw [he]; exact Bool.false_ne_true), ← hpc]
        exact ih (ht hstop) hr
    · cases hr

theorem exits_within {es : List (Event ι)} (hstop : s.stop = true)
    (hr : run (next m) s es = some s') : es.countP Event.isWork ≤ 4 := by
  obtain ⟨-, hle⟩ := exits hstop hr
  have hmax : s.pc.toExit ≤ 4 := by
    cases s.pc <;> exact of_decide_eq_true rfl
  omega

/-- The end of a worker that is told to: its steps are few, and none of them is blocked. -/
structure Reaped (m : Design ι σ α) (s : State σ α) : Prop where
  enabled : s.shutdown = .signalled → s.pc.isExited = false → (work m s .ok).isSome = true
  bounded : s.stop = true → ∀ es s', run (next m) s es = some s' → es.countP Event.isWork ≤ 4
  after : s.shutdown = .joined → s.pc.isExited = true

theorem reaped_always (box : σ) (es : List (Event ι)) : Always (next m) (Reaped m) (.init box) es := by
  refine always_mono (fun {s} hr => ?_)
    (always_of_step (fun hr hs => hr.next hs) (reapable_init box))
  exact ⟨fun hd => hr.enabled (by rw [hd]; exact Nat.one_pos),
    fun hstop es s' hrun => exits_within hstop hrun, hr.joined⟩

/-! ## A mailbox for one item -/

/-- What a put leaves in the mailbox takes the place of what was there. -/
structure Slot (m : Design ι σ α) (held : σ → Option α) (value : ι → α) : Prop where
  put : ∀ box i, held (m.put box i).1 = some (value i)
  signals : ∀ box i, (m.put box i).2 = true
  take : ∀ box, (m.take box).1 = held box
  clears : ∀ box, held (m.take box).2 = none
  full : ∀ box, m.full box = (held box).isSome

/-- What is left, behind what was taken. -/
structure Ordered (held : σ → Option α) (value : ι → α) (s : State σ α) (h : History ι α) :
    Prop where
  order : (h.taken ++ (held s.box).toList).Sublist (h.puts.map value)
  newest : (h.taken ++ (held s.box).toList).getLast? = (h.puts.map value).getLast?
  lost : h.taken.length + (held s.box).toList.length + h.overwrites = h.puts.length
  stale : (held s.box).isSome = true → h.stale = true

variable {held : σ → Option α} {value : ι → α}

theorem ordered_init {box : σ} (hbox : held box = none) :
    Ordered held value (.init box : State σ α) .init where
  order := by
    rw [show held (State.init (α := α) box).box = none from hbox]
    exact List.Sublist.refl _
  newest := by
    rw [show held (State.init (α := α) box).box = none from hbox]
    rfl
  lost := by
    rw [show held (State.init (α := α) box).box = none from hbox]
    rfl
  stale hs := by
    rw [show held (State.init (α := α) box).box = none from hbox] at hs
    cases hs

theorem Ordered.of_box (ho : Ordered held value s h) (hbox : s'.box = s.box)
    (hputs : h'.puts = h.puts) (hover : h'.overwrites = h.overwrites) (hstale : h'.stale = h.stale)
    (htaken : h'.taken = h.taken) : Ordered held value s' h' := by
  obtain ⟨horder, hnewest, hlost, hst⟩ := ho
  exact ⟨by rw [hbox, hputs, htaken]; exact horder, by rw [hbox, hputs, htaken]; exact hnewest,
    by rw [hbox, hputs, htaken, hover]; exact hlost, by rw [hbox, hstale]; exact hst⟩

theorem Ordered.step {e : Event ι} (hm : Slot m held value) (ho : Ordered held value s h)
    (hs : Step m s h e s' h') : Ordered held value s' h' := by
  cases hs with
  | put i =>
    obtain ⟨horder, hnewest, hlost, hst⟩ := ho
    constructor
    · simp only [hm.put, List.map_append, List.map_cons, List.map_nil, Option.toList_some]
      exact ((List.sublist_append_left _ _).trans horder).append (List.Sublist.refl _)
    · simp only [hm.put, List.map_append, List.map_cons, List.map_nil, Option.toList_some,
        List.getLast?_concat]
    · simp only [hm.put, hm.full, List.length_append, Option.toList_some, List.length_singleton]
      cases hheld : held s.box with
      | none =>
        rw [hheld] at hlost
        simp only [Option.toList_none, List.length_nil] at hlost
        simp only [Option.isSome_none, Bool.false_eq_true, if_false]
        omega
      | some x =>
        rw [hheld] at hlost
        simp only [Option.toList_some, List.length_singleton] at hlost
        simp only [Option.isSome_some, if_true]
        omega
    · intro _
      simp only [hm.signals, Bool.or_true]
  | work hw =>
    cases hw with
    | take _ hp =>
      obtain ⟨horder, hnewest, hlost, hst⟩ := ho
      constructor
      · simpa only [hm.take, hm.clears, Option.toList_none, List.append_nil] using horder
      · simpa only [hm.take, hm.clears, Option.toList_none, List.append_nil] using hnewest
      · simpa only [hm.take, hm.clears, Option.toList_none, List.length_nil, List.length_append,
          Nat.add_zero] using hlost
      · intro hsome
        simp [hm.clears] at hsome
    | _ => exact ho.of_box rfl rfl rfl rfl rfl
  | _ => exact ho.of_box rfl rfl rfl rfl rfl

end Steps

end Worker
