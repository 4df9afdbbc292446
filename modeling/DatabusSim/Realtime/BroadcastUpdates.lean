import DatabusSim.Realtime.Broadcast

/-!
# Which update the throttle drops

A deferred task sends the snapshot it was created with: a later call in its window
only marks the fleet dirty, and its own snapshot is never sent. The last update
arrives as long as a call that finds a live task brings the task's snapshot again.
-/

namespace DatabusSim.Throttle

open Transition

variable {S : Type}

/-- No deferred send is pending. -/
def Quiescent (s : Throttle S) : Prop :=
  ∀ (i : Nat) (d : Deferred S), s.tasks[i]? = some d → d.live = false

/-- The last snapshot handed to `_group_send`. -/
def lastSent (s : Throttle S) : Option S := s.sent.getLast?.map (·.snapshot)

/-- Once no deferred send is pending, the last snapshot sent is that of the last call. -/
def UpToDate (s : Throttle S) : Prop := s.Quiescent → s.lastSent = s.calls.getLast?

/-- The event is not a call in the window of a live task that holds another snapshot. -/
def Keeps (s : Throttle S) : Event S → Prop
  | .call now snapshot => now - s.lastFleetBroadcast < throttleS →
      ∀ (i : Nat) (d : Deferred S), s.tasks[i]? = some d → d.live = true → d.snapshot = snapshot
  | _ => True

/-- A call of `broadcast_fleet`. -/
def Event.isCall : Event S → Bool
  | .call _ _ => true
  | _ => false

/-- With no further call, whatever the deferred tasks do, the last update arrives. -/
def Delivers (s : Throttle S) : Prop :=
  ∀ fs s', (∀ e ∈ fs, Event.isCall e = false) → System.run step s fs = some s' → s'.UpToDate

/-! ## The invariant -/

/-- The last call's snapshot has been sent, or is that of the live task. -/
structure Current (s : Throttle S) : Prop where
  steady : s.Steady
  pending : ∀ (i : Nat) (d : Deferred S), s.tasks[i]? = some d → d.live = true →
    s.calls.getLast? = some d.snapshot
  arrived : s.throttleTask = none → s.lastSent = s.calls.getLast?

theorem current_init (clock : ℚ) : (init clock : Throttle S).Current where
  steady := steady_init clock
  pending := by simp [init]
  arrived := by simp [init, lastSent]

theorem Steady.quiescent_iff {s : Throttle S} (h : s.Steady) :
    s.Quiescent ↔ s.throttleTask = none := by
  constructor
  · intro hq
    cases ht : s.throttleTask with
    | none => rfl
    | some i =>
      obtain ⟨d, hd, hl⟩ := (h.owner i).mp ht
      rw [hq i d hd] at hl
      cases hl
  · intro hnone i d hd
    exact Bool.eq_false_iff.mpr (h.not_live hnone hd)

theorem Current.upToDate {s : Throttle S} (h : s.Current) : s.UpToDate :=
  fun hq => h.arrived (h.steady.quiescent_iff.mp hq)

theorem lastSent_publish (s : Throttle S) (call : Nat) (snapshot : S) :
    (s.publish call snapshot).lastSent = some snapshot := by
  unfold lastSent publish
  rw [List.getLast?_concat]
  rfl

/-- A send of the last call's snapshot with no live task behind it. -/
theorem current_publish {s : Throttle S} {call : Nat} {snapshot : S}
    (h : (s.publish call snapshot).Steady) (hnone : s.throttleTask = none)
    (hlast : s.calls.getLast? = some snapshot) : (s.publish call snapshot).Current where
  steady := h
  pending := fun i d hd hl => absurd hl (h.not_live hnone hd)
  arrived := by
    intro _
    rw [lastSent_publish]
    exact hlast.symm

theorem Current.call {s : Throttle S} (h : s.Current) {snapshot : S}
    (hkeep : s.clock - s.lastFleetBroadcast < throttleS →
      ∀ (i : Nat) (d : Deferred S), s.tasks[i]? = some d → d.live = true → d.snapshot = snapshot) :
    (s.broadcastFleet snapshot).Current := by
  have hsteady := h.steady.broadcastFleet snapshot
  have hlast : (s.calls ++ [snapshot]).getLast? = some snapshot := List.getLast?_concat
  rcases h.steady.broadcastFleet_cases snapshot with
    ⟨-, heq⟩ | ⟨-, hnone, heq⟩ | ⟨helapsed, hsome, heq⟩
  · obtain ⟨-, hnone, hcalls, -⟩ := (h.steady.call snapshot).overtaken
    rw [heq] at hsteady ⊢
    exact current_publish hsteady hnone (by rw [hcalls]; exact hlast)
  · rw [heq] at hsteady ⊢
    refine ⟨hsteady, fun i d hd hl => ?_, fun hn => (nomatch hn)⟩
    -- the live task is the one just created
    have hi := (hsteady.owner i).mpr ⟨d, hd, hl⟩
    cases hi
    rw [List.getElem?_concat_length] at hd
    cases hd
    exact hlast
  · rw [heq] at hsteady ⊢
    refine ⟨hsteady, fun i d hd hl => ?_, fun hn => absurd hn hsome⟩
    rw [hkeep helapsed i d hd hl]
    exact hlast

theorem current_step {s s' : Throttle S} {ev : Event S} (h : s.Current)
    (hs : s.step ev = some s') (hkeep : s.Keeps ev) : s'.Current := by
  have hsteady := steady_step h.steady hs
  rcases h.steady.step_cases hs with ⟨now, snapshot, rfl, hn, rfl⟩ |
    ⟨now, i, d, d', hn, hd, hl, hl', hcall, hsnap, hdue, rfl⟩ |
    ⟨now, i, d, hn, hd, hl, hover, rfl⟩ | ⟨i, d, d', hd, hl, hl', hcall, hsnap, rfl⟩
  · have hclock : ({ s with clock := now } : Throttle S).Current :=
      ⟨h.steady.at_clock hn, h.pending, h.arrived⟩
    exact hclock.call hkeep
  -- the handle is the moving task's, so it is the only live one
  · refine ⟨hsteady, fun j e he hle => ?_, fun hnone => ?_⟩
    · have hj := (h.steady.owner i).mpr ⟨d, hd, hl⟩
      have hi := (hsteady.owner j).mpr ⟨e, he, hle⟩
      change s.throttleTask = some j at hi
      rw [hj] at hi
      cases hi
      rw [getElem?_setTask (s := { s with clock := now }) hd, if_pos rfl] at he
      cases he
      rw [hsnap]
      exact h.pending i d hd hl
    · exact h.arrived hnone
  · rw [(h.steady.at_clock hn).deferredSection_eq hd hl] at hsteady ⊢
    exact current_publish hsteady rfl (h.pending i d hd hl)
  · refine ⟨hsteady, fun j e he hle => ?_, h.arrived⟩
    rcases task_of_setTask hd he with ⟨-, rfl⟩ | ⟨-, he⟩
    · rw [hl'] at hle
      cases hle
    · exact h.pending j e he hle

theorem keeps_of_not_call (s : Throttle S) {ev : Event S} (h : ev.isCall = false) : s.Keeps ev := by
  cases ev with
  | call => cases h
  | _ => trivial

theorem Current.delivers {s : Throttle S} (h : s.Current) : s.Delivers := by
  intro fs
  induction fs generalizing s with
  | nil =>
    intro s' _ hr
    cases hr
    exact h.upToDate
  | cons e fs ih =>
    intro s' hcalls hr
    obtain ⟨m, hm, hr⟩ := run_cons_some.mp hr
    have he := hcalls e List.mem_cons_self
    exact ih (current_step h hm (s.keeps_of_not_call he)) s'
      (fun f hf => hcalls f (List.mem_cons_of_mem _ hf)) hr

/-! ## A task with an outdated snapshot -/

/-- A live task whose snapshot is not the last call's. -/
def Stale (s : Throttle S) (i : Nat) (d : Deferred S) : Prop :=
  s.tasks[i]? = some d ∧ d.cancelled = false ∧ s.calls.getLast? ≠ some d.snapshot

theorem Stale.run_cons {s m : Throttle S} {ev : Event S} (hev : ev.isCall = false)
    (hs : s.step ev = some m) (hm : ¬ m.Delivers) : ¬ s.Delivers := by
  intro h
  refine hm fun fs s' hcalls hr => h (ev :: fs) s' ?_ (run_cons_some.mpr ⟨m, hs, hr⟩)
  exact List.forall_mem_cons.mpr ⟨hev, hcalls⟩

theorem Stale.of_woken {s : Throttle S} {i : Nat} {d : Deferred S} (h : s.Stale i d)
    (hsteady : s.Steady) (hp : d.phase = .woken) : ¬ s.Delivers := by
  obtain ⟨hd, hc, hstale⟩ := h
  have hl : d.live = true := Deferred.live_of_phase hc (by rw [hp]; simp)
  have hrun : s.runnable s.clock i = some d := runnable_some.mpr ⟨le_rfl, hd, hc⟩
  have hstep : s.step (.resume s.clock i) = some (s.deferredSection i d) := by
    simp only [step, hrun, hp, if_true]
  have hsteady' := steady_step hsteady hstep
  refine Stale.run_cons rfl hstep fun hdel => ?_
  have hup := hdel [] _ (by simp) rfl
  rw [hsteady.deferredSection_eq hd hl] at hsteady' hup
  have hq := hup (hsteady'.quiescent_iff.mpr rfl)
  rw [lastSent_publish] at hq
  exact hstale hq.symm

theorem Stale.setTask {s : Throttle S} {i : Nat} {d d' : Deferred S} (h : s.Stale i d) (now : ℚ)
    (hc : d'.cancelled = false) (hsnap : d'.snapshot = d.snapshot) :
    (({ s with clock := now } : Throttle S).setTask i d').Stale i d' := by
  obtain ⟨hd, -, hstale⟩ := h
  refine ⟨?_, hc, ?_⟩
  · rw [getElem?_setTask (s := { s with clock := now }) hd, if_pos rfl]
  · rw [hsnap]
    exact hstale

theorem Stale.of_sleeping {s : Throttle S} {i : Nat} {d : Deferred S} (h : s.Stale i d)
    (hsteady : s.Steady) {deadline : ℚ} (hp : d.phase = .sleeping deadline) : ¬ s.Delivers := by
  have ⟨hd, hc, _⟩ := h
  have hrun : s.runnable (max deadline s.clock) i = some d :=
    runnable_some.mpr ⟨le_max_right _ _, hd, hc⟩
  have hstep : s.step (.wake (max deadline s.clock) i) =
      some (({ s with clock := max deadline s.clock } : Throttle S).setTask i
        { d with phase := .woken }) := by
    simp only [step, hrun, hp, le_max_left, if_true]
  exact Stale.run_cons rfl hstep
    (Stale.of_woken (h.setTask _ hc rfl) (steady_step hsteady hstep) rfl)

theorem Stale.of_created {s : Throttle S} {i : Nat} {d : Deferred S} (h : s.Stale i d)
    (hsteady : s.Steady) (hp : d.phase = .created) : ¬ s.Delivers := by
  have ⟨hd, hc, _⟩ := h
  have hrun : s.runnable s.clock i = some d := runnable_some.mpr ⟨le_rfl, hd, hc⟩
  have hstep : s.step (.start s.clock i) =
      some (({ s with clock := s.clock } : Throttle S).setTask i
        { d with phase := .sleeping (s.clock + d.delay) }) := by
    simp only [step, hrun, hp, if_true]
  exact Stale.run_cons rfl hstep
    (Stale.of_sleeping (h.setTask _ hc rfl) (steady_step hsteady hstep) rfl)

/-- A live task that holds an outdated snapshot goes on to send it last. -/
theorem Stale.not_delivers {s : Throttle S} {i : Nat} {d : Deferred S} (h : s.Stale i d)
    (hsteady : s.Steady) (hl : d.live = true) : ¬ s.Delivers := by
  cases hp : d.phase with
  | created => exact h.of_created hsteady hp
  | sleeping deadline => exact h.of_sleeping hsteady hp
  | woken => exact h.of_woken hsteady hp
  | sending => simp [Deferred.live, hp] at hl
  | done => simp [Deferred.live, hp] at hl

/-- A call that finds a live task with another snapshot loses its own. -/
theorem not_delivers_of_not_keeps {s s' : Throttle S} {ev : Event S} (h : s.Steady)
    (hs : s.step ev = some s') (hno : ¬ s.Keeps ev) : ¬ s'.Delivers := by
  have hsteady := steady_step h hs
  cases ev with
  | call now snapshot =>
    obtain ⟨hn, rfl⟩ := step_call hs
    simp only [Keeps, not_forall] at hno
    obtain ⟨hwindow, i, d, hd, hl, hne⟩ := hno
    have hclock : ({ s with clock := now } : Throttle S).Steady := h.at_clock hn
    have howner : s.throttleTask = some i := (h.owner i).mpr ⟨d, hd, hl⟩
    rcases hclock.broadcastFleet_cases snapshot with ⟨hover, -⟩ | ⟨-, hnone, -⟩ | ⟨-, -, heq⟩
    · exact absurd hwindow (not_lt.mpr hover)
    · change s.throttleTask = none at hnone
      rw [howner] at hnone
      cases hnone
    · rw [heq] at hsteady ⊢
      have hc : d.cancelled = false := by
        cases hc : d.cancelled with
        | false => rfl
        | true =>
          rw [Deferred.live_cancelled hc] at hl
          cases hl
      refine Stale.not_delivers ⟨hd, hc, ?_⟩ hsteady hl
      show (s.calls ++ [snapshot]).getLast? ≠ some d.snapshot
      rw [List.getLast?_concat]
      exact fun he => hne (Option.some.inj he).symm
  | _ => exact absurd trivial hno

/-! ## Every run of the throttle -/

/-- Along a run in which no call brings another snapshot into the window of a live task the
last update is up to date in every state; and the runs of that kind are exactly those that
deliver the last update from each of their states, were no call to follow. -/
theorem last_update_delivered (clock : ℚ) (es : List (Event S)) :
    (System.Always step (fun s ev _ => s.Keeps ev) (init clock) es →
        System.Always step (fun _ _ s' => s'.UpToDate) (init clock) es) ∧
      (System.Always step (fun _ _ s' => s'.Delivers) (init clock) es ↔
        System.Always step (fun s ev _ => s.Keeps ev) (init clock) es) := by
  have hinv : ∀ s ev s', Current s → step s ev = some s' → s.Keeps ev → Current s' :=
    fun s ev s' h hs hkeep => current_step (S := S) h hs hkeep
  have hiff : System.Always step (fun _ _ s' => s'.Delivers) (init clock) es ↔
      System.Always step (fun s ev _ => s.Keeps ev) (init clock) es := by
    refine always_iff (I := Current) (fun s ev s' h hs => ⟨fun hdel => ?_, fun hkeep => ?_⟩) hinv
      (current_init clock) es
    · by_contra hno
      exact not_delivers_of_not_keeps h.steady hs hno hdel
    · exact (current_step h hs hkeep).delivers
  refine ⟨fun hkeep => always_mono ?_ (hiff.mpr hkeep), hiff⟩
  intro s ev s' hdel
  exact hdel [] s' (by simp) rfl

/-- Three calls within 100 ms of each other: the first is sent at once, the second leaves its
snapshot with a task, the third finds that task. -/
def burst : List (Event String) :=
  [.call 1 "A", .call (21 / 20) "B", .start (21 / 20) 0, .call (11 / 10) "C", .wake (6 / 5) 0,
    .resume (6 / 5) 0]

/-- The second snapshot is the last one sent, and nothing is pending. -/
theorem burst_drops_last :
    ¬ System.Always step (fun _ _ s' => s'.UpToDate) (init 0) burst := by
  intro h
  have hrun : (System.run step (init 0) burst).map
      (fun s => (s.throttleTask, s.lastSent, s.calls.getLast?)) =
        some (none, some "B", some "C") := by
    decide +kernel
  obtain ⟨s, hs, hstate⟩ := Option.map_eq_some_iff.mp hrun
  simp only [Prod.mk.injEq] at hstate
  obtain ⟨hnone, hsent, hcalls⟩ := hstate
  have hsteady : s.Steady :=
    run_invariant (fun _ _ _ h hs => steady_step h hs) (steady_init 0) hs
  have hup := always_end h (by simp [burst]) hs (hsteady.quiescent_iff.mpr hnone)
  rw [hsent, hcalls] at hup
  simp at hup

end DatabusSim.Throttle
