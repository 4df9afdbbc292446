import Mathlib.Data.List.Induction
import Mathlib.Tactic.Common

/-!
# Runs of a partial step function

A system is a step function `σ → ε → Option σ`: what an event does to a
state, `none` where the event cannot happen. A run is a list of events,
each of which could happen where it did. The module has the two rules every
result about runs is assembled from: an invariant kept by each step is kept by
a run (`run_invariant`), and two properties of single steps that agree wherever
an invariant holds agree over whole runs (`always_iff`).
-/

namespace Transition

/-- What an event does to a state; `none` where it cannot happen. -/
abbrev System (σ ε : Type*) := σ → ε → Option σ

variable {σ ε : Type*}

/-- The state a list of events leads to, `none` once one cannot happen. -/
def System.run (step : System σ ε) : σ → List ε → Option σ
  | s, [] => some s
  | s, e :: es => (step s e).bind fun s' => step.run s' es

/-- The states the events lead through, up to the first that cannot happen. -/
def System.states (step : System σ ε) : σ → List ε → List σ
  | _, [] => []
  | s, e :: es =>
      match step s e with
      | none => []
      | some s' => s' :: step.states s' es

/-- The check `c` of an event and the state it finds, all along the events. -/
def System.check (step : System σ ε) (c : σ → ε → Bool) : σ → List ε → Bool
  | _, [] => true
  | s, e :: es =>
      match step s e with
      | none => true
      | some s' => c s e && step.check c s' es

/-- Every step the events make from `s` has the property `P`. -/
def System.Always (step : System σ ε) (P : σ → ε → σ → Prop) : σ → List ε → Prop
  | _, [] => True
  | s, e :: es => ∀ s', step s e = some s' → P s e s' ∧ step.Always P s' es

/-- The states some run leads to from `init`. -/
def System.Reachable (step : System σ ε) (init s : σ) : Prop :=
  ∃ es, step.run init es = some s

/-- Every step of every run from `init` has the property `P`, which may speak of the
events before it. -/
def System.Throughout (step : System σ ε) (init : σ) (P : List ε → σ → ε → σ → Prop) : Prop :=
  ∀ past s e s', step.run init past = some s → step s e = some s' → P past s e s'

variable {step : System σ ε} {P Q : σ → ε → σ → Prop} {I : σ → Prop}

theorem run_cons (s : σ) (e : ε) (es : List ε) :
    step.run s (e :: es) = (step s e).bind fun s' => step.run s' es := rfl

theorem run_cons_some {s s' : σ} {e : ε} {es : List ε} :
    step.run s (e :: es) = some s' ↔
      ∃ m, step s e = some m ∧ step.run m es = some s' := by
  rw [run_cons, Option.bind_eq_some_iff]

theorem run_append (s : σ) (es fs : List ε) :
    step.run s (es ++ fs) = (step.run s es).bind fun s' => step.run s' fs := by
  induction es generalizing s with
  | nil => rfl
  | cons e es ih =>
    rw [List.cons_append, run_cons, run_cons]
    cases step s e with
    | none => rfl
    | some m => exact ih m

theorem run_append_some {s s' : σ} {es fs : List ε} :
    step.run s (es ++ fs) = some s' ↔
      ∃ m, step.run s es = some m ∧ step.run m fs = some s' := by
  rw [run_append, Option.bind_eq_some_iff]

/-- An invariant kept by every step is kept by a run. -/
theorem run_invariant (hstep : ∀ s e s', I s → step s e = some s' → I s')
    {s s' : σ} {es : List ε} (h : I s) (hr : step.run s es = some s') : I s' := by
  induction es generalizing s with
  | nil =>
    cases hr
    exact h
  | cons e es ih =>
    obtain ⟨m, hm, hr⟩ := run_cons_some.mp hr
    exact ih (hstep s e m h hm) hr

theorem reachable_invariant (hstep : ∀ s e s', I s → step s e = some s' → I s')
    {init s : σ} (h : I init) (hr : step.Reachable init s) : I s := by
  obtain ⟨es, hr⟩ := hr
  exact run_invariant hstep h hr

/-- An invariant that relates a state to the events that led to it. -/
theorem history_invariant {H : List ε → σ → Prop} {init : σ} (h₀ : H [] init)
    (hstep : ∀ past s e s', H past s → step.run init past = some s → step s e = some s' →
      H (past ++ [e]) s')
    {past : List ε} {s : σ} (hr : step.run init past = some s) : H past s := by
  -- from the end, so that the hypothesis speaks of the state before the last event
  induction past using List.reverseRecOn generalizing s with
  | nil =>
    cases hr
    exact h₀
  | append_singleton past e ih =>
    obtain ⟨m, hm, hr⟩ := run_append_some.mp hr
    obtain ⟨s', hs, hr⟩ := run_cons_some.mp hr
    cases hr
    exact hstep past m e s (ih hm) hm hs

/-- `Always` speaks about exactly the steps of the run: one for each way to
split the events around one that happens. -/
theorem always_iff_splits {s : σ} {es : List ε} :
    step.Always P s es ↔
      ∀ pre e post m m', es = pre ++ e :: post → step.run s pre = some m →
        step m e = some m' → P m e m' := by
  induction es generalizing s with
  | nil =>
    refine ⟨fun _ pre e post m m' h => ?_, fun _ => trivial⟩
    simp at h
  | cons e₀ es ih =>
    constructor
    · intro h pre e post m m' hsplit hr hs
      cases pre with
      | nil =>
        obtain ⟨rfl, rfl⟩ := List.cons.inj hsplit
        cases hr
        exact (h m' hs).1
      | cons p pre =>
        obtain ⟨rfl, hrest⟩ := List.cons.inj hsplit
        obtain ⟨t, ht, hr⟩ := run_cons_some.mp hr
        exact ih.mp (h t ht).2 pre e post m m' hrest hr hs
    · intro h s' hs
      refine ⟨h [] e₀ es s s' rfl rfl hs, ih.mpr ?_⟩
      intro pre e post m m' hsplit hr hs'
      exact h (e₀ :: pre) e post m m' (by rw [hsplit]; rfl)
        (run_cons_some.mpr ⟨s', hs, hr⟩) hs'

theorem always_mono (himp : ∀ s e s', P s e s' → Q s e s') {s : σ} {es : List ε}
    (h : step.Always P s es) : step.Always Q s es := by
  induction es generalizing s with
  | nil => trivial
  | cons e es ih =>
    intro s' hs
    exact ⟨himp s e s' (h s' hs).1, ih (h s' hs).2⟩

/-- A property every step has wherever an invariant holds is had by all steps
of a run. -/
theorem always_of_step (hstep : ∀ s e s', I s → step s e = some s' → I s' ∧ P s e s')
    {s : σ} (h : I s) (es : List ε) : step.Always P s es := by
  induction es generalizing s with
  | nil => trivial
  | cons e es ih =>
    intro s' hs
    exact ⟨(hstep s e s' h hs).2, ih (hstep s e s' h hs).1⟩

/-- The same where each step may assume a property of its own. -/
theorem always_of_always (hstep : ∀ s e s', I s → step s e = some s' → Q s e s' →
      I s' ∧ P s e s')
    {s : σ} (h : I s) {es : List ε} (hq : step.Always Q s es) : step.Always P s es := by
  induction es generalizing s with
  | nil => trivial
  | cons e es ih =>
    intro s' hs
    obtain ⟨hQ, hrest⟩ := hq s' hs
    obtain ⟨hI, hP⟩ := hstep s e s' h hs hQ
    exact ⟨hP, ih hI hrest⟩

/-- Two properties of single steps that agree wherever an invariant holds, and
one of which keeps the invariant, hold along the same runs of admitted events. -/
theorem always_iff_on {A : ε → Prop}
    (hiff : ∀ s e s', A e → I s → step s e = some s' → (P s e s' ↔ Q s e s'))
    (hinv : ∀ s e s', A e → I s → step s e = some s' → Q s e s' → I s')
    {s : σ} (h : I s) {es : List ε} (hA : ∀ e ∈ es, A e) :
    step.Always P s es ↔ step.Always Q s es := by
  induction es generalizing s with
  | nil => exact Iff.rfl
  | cons e es ih =>
    have he := hA e List.mem_cons_self
    have hrest : ∀ e' ∈ es, A e' := fun e' he' => hA e' (List.mem_cons_of_mem e he')
    constructor
    · intro hp s' hs
      have hq := (hiff s e s' he h hs).mp (hp s' hs).1
      exact ⟨hq, (ih (hinv s e s' he h hs hq) hrest).mp (hp s' hs).2⟩
    · intro hq s' hs
      refine ⟨(hiff s e s' he h hs).mpr (hq s' hs).1, ?_⟩
      exact (ih (hinv s e s' he h hs (hq s' hs).1) hrest).mpr (hq s' hs).2

/-- The same where every event is admitted. -/
theorem always_iff (hiff : ∀ s e s', I s → step s e = some s' → (P s e s' ↔ Q s e s'))
    (hinv : ∀ s e s', I s → step s e = some s' → Q s e s' → I s')
    {s : σ} (h : I s) (es : List ε) : step.Always P s es ↔ step.Always Q s es :=
  always_iff_on (A := fun _ => True) (fun s e s' _ => hiff s e s') (fun s e s' _ => hinv s e s') h
    fun _ _ => trivial

/-- A property of all the states a run leads through is left behind by each of its steps. -/
theorem always_of_states {R : σ → Prop} {s : σ} {es : List ε} (h : ∀ t ∈ step.states s es, R t) :
    step.Always (fun _ _ t => R t) s es := by
  induction es generalizing s with
  | nil => trivial
  | cons e es ih =>
    intro s' hs
    have hstates : step.states s (e :: es) = s' :: step.states s' es := by
      simp only [System.states, hs]
    rw [hstates] at h
    exact ⟨h s' List.mem_cons_self, ih fun t ht => h t (List.mem_cons_of_mem s' ht)⟩

theorem always_of_check {c : σ → ε → Bool} {s : σ} {es : List ε} (h : step.check c s es = true) :
    step.Always (fun s e _ => c s e = true) s es := by
  induction es generalizing s with
  | nil => trivial
  | cons e es ih =>
    intro s' hs
    simp only [System.check, hs, Bool.and_eq_true] at h
    exact ⟨h.1, ih h.2⟩

/-- The last step of a run has the property. -/
theorem always_last {s m m' : σ} {e : ε} {es : List ε} (h : step.Always P s (es ++ [e]))
    (hr : step.run s es = some m) (hs : step m e = some m') : P m e m' :=
  always_iff_splits.mp h es e [] m m' rfl hr hs

/-- What evaluating a run and one more step has shown of the two states of that step. -/
theorem last_step {α : Type*} {s : σ} {e : ε} {es : List ε} {view : σ → σ → α} {a : α}
    (h : ((step.run s es).bind fun m => (step m e).map (view m)) = some a) :
    ∃ m m', step.run s es = some m ∧ step m e = some m' ∧ view m m' = a := by
  obtain ⟨m, hm, h⟩ := Option.bind_eq_some_iff.mp h
  obtain ⟨m', hm', h⟩ := Option.map_eq_some_iff.mp h
  exact ⟨m, m', hm, hm', h⟩

/-- A property every step leaves behind holds at the end of a run that has a step. -/
theorem always_end {R : σ → Prop} {s s' : σ} {es : List ε}
    (h : step.Always (fun _ _ t => R t) s es) (hne : es ≠ [])
    (hr : step.run s es = some s') : R s' := by
  induction es generalizing s with
  | nil => exact absurd rfl hne
  | cons e es ih =>
    obtain ⟨m, hm, hr⟩ := run_cons_some.mp hr
    obtain ⟨hR, hrest⟩ := h m hm
    cases es with
    | nil =>
      cases hr
      exact hR
    | cons e' es => exact ih hrest (by simp) hr

/-! ## Endless sequences of events -/

/-- The state after the first `n` of the events. -/
def System.after (step : System σ ε) (s : σ) (events : Nat → ε) (n : Nat) : Option σ :=
  step.run s ((List.range n).map events)

theorem after_zero (s : σ) (events : Nat → ε) : step.after s events 0 = some s := rfl

theorem after_succ (s : σ) (events : Nat → ε) (n : Nat) :
    step.after s events (n + 1) =
      (step s (events 0)).bind fun s' => step.after s' (fun i => events (i + 1)) n := by
  unfold System.after
  rw [List.range_succ_eq_map, List.map_cons, run_cons, List.map_map]
  rfl

theorem after_succ_last (s : σ) (events : Nat → ε) (n : Nat) :
    step.after s events (n + 1) =
      (step.after s events n).bind fun s' => step s' (events n) := by
  unfold System.after
  rw [List.range_succ, List.map_append, run_append]
  refine congrArg _ (funext fun m => ?_)
  rw [List.map_singleton, run_cons]
  cases step m (events n) <;> rfl

/-- What is known after so many events, if each takes it to the next. -/
theorem after_counted {C : Nat → σ → Prop}
    (hstep : ∀ n s e, C n s → ∃ s', step s e = some s' ∧ C (n + 1) s') {s : σ} (h : C 0 s)
    (events : Nat → ε) (n : Nat) : ∃ s', step.after s events n = some s' ∧ C n s' := by
  induction n with
  | zero => exact ⟨s, after_zero s events, h⟩
  | succ n ih =>
    obtain ⟨m, hm, hC⟩ := ih
    obtain ⟨s', hs, hC'⟩ := hstep n m (events n) hC
    exact ⟨s', by rw [after_succ_last, hm]; exact hs, hC'⟩

/-- What every event keeps is kept for good. -/
theorem after_stays (hstay : ∀ s e, I s → ∃ s', step s e = some s' ∧ I s') {s : σ} (h : I s)
    (events : Nat → ε) (n : Nat) : ∃ s', step.after s events n = some s' ∧ I s' :=
  after_counted (C := fun _ => I) (fun _ => hstay) h events n

/-- Where each event either reaches a goal or lowers a variant, the goal is reached after as many
events as the variant counts at most, and kept. -/
theorem after_reaches {G : σ → Prop} (variant : σ → Nat)
    (hstep : ∀ s e, I s → ∃ s', step s e = some s' ∧ (G s' ∨ I s' ∧ variant s' < variant s))
    (hpos : ∀ s, I s → 0 < variant s)
    (hstay : ∀ s e, G s → ∃ s', step s e = some s' ∧ G s') {s : σ} (h : I s)
    (events : Nat → ε) :
    ∃ k ≤ variant s, ∀ n, k ≤ n → ∃ s', step.after s events n = some s' ∧ G s' := by
  induction hv : variant s using Nat.strongRecOn generalizing s events with
  | ind v ih =>
    subst hv
    obtain ⟨s', hs, hnext⟩ := hstep s (events 0) h
    have hone : ∀ n, step.after s events (n + 1) =
        step.after s' (fun i => events (i + 1)) n := by
      intro n
      rw [after_succ, hs]
      rfl
    rcases hnext with hG | ⟨hI, hlt⟩
    · refine ⟨1, hpos s h, fun n hn => ?_⟩
      obtain ⟨n, rfl⟩ := Nat.exists_eq_add_of_le' hn
      rw [hone]
      exact after_stays hstay hG _ n
    · obtain ⟨k, hk, hreach⟩ := ih (variant s') hlt hI (fun i => events (i + 1)) rfl
      refine ⟨k + 1, by omega, fun n hn => ?_⟩
      obtain ⟨n, rfl⟩ := Nat.exists_eq_add_of_le' (Nat.le_trans (Nat.le_add_left 1 k) hn)
      rw [hone]
      exact hreach n (by omega)

end Transition
