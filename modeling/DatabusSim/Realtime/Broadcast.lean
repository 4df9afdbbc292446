import Mathlib.Algebra.Order.Ring.Rat
import Mathlib.Tactic.Linarith
import DatabusSim.Lib.Transition

/-!
# The fleet throttle

`broadcast_fleet`, its `_deferred` task and the module-level throttle state. No
section under `_lock` awaits anything, so each is one step; between its creation and
its own section a deferred task sleeps, and may have woken without holding the lock
yet, and in that time calls come and may cancel it.
-/

namespace DatabusSim

/-- Where a deferred task is: not started, in its sleep up to a deadline, out of it and
before the lock, past its locked section and in `_group_send`, or ended. -/
inductive DeferredPhase where
  | created
  | sleeping (deadline : ℚ)
  | woken
  | sending
  | done
  deriving DecidableEq

/-- A deferred task: the call that created it with its snapshot, and the sleep it is
created for. -/
structure Deferred (S : Type) where
  call : Nat
  snapshot : S
  delay : ℚ
  phase : DeferredPhase := .created
  /-- `cancel()` has been called; the task ends where it next runs. -/
  cancelled : Bool := false

/-- A snapshot handed to `_group_send`, by the call it was passed to, and the time of
the decision to send it. -/
structure Sent (S : Type) where
  call : Nat
  snapshot : S
  time : ℚ

/-- The throttle state, every task ever created and the monotonic clock; `calls` and
`sent` are the history. -/
structure Throttle (S : Type) where
  lastFleetBroadcast : ℚ := 0
  fleetDirty : Bool := false
  throttleTask : Option Nat := none
  tasks : List (Deferred S) := []
  clock : ℚ
  calls : List S := []
  sent : List (Sent S) := []

/-- `THROTTLE_S`, 200 ms. -/
def throttleS : ℚ := 1 / 5

namespace Deferred

variable {S : Type}

/-- The task may still come to send: it has not been cancelled, nor reached the lock. -/
def live (d : Deferred S) : Bool :=
  !d.cancelled &&
    match d.phase with
    | .created | .sleeping _ | .woken => true
    | .sending | .done => false

/-- The earliest time at which the task can decide, by a clock that reads `clock`. -/
def earliest (d : Deferred S) (clock : ℚ) : ℚ :=
  match d.phase with
  | .created => clock + d.delay
  | .sleeping deadline => deadline
  | .woken | .sending | .done => clock

theorem earliest_mono (d : Deferred S) {c c' : ℚ} (h : c ≤ c') : d.earliest c ≤ d.earliest c' := by
  unfold earliest
  cases d.phase with
  | created => exact add_le_add_left h d.delay
  | sleeping deadline => exact le_rfl
  | _ => exact h

theorem live_of_phase {d : Deferred S} (hc : d.cancelled = false)
    (hp : d.phase ≠ .sending ∧ d.phase ≠ .done) : d.live = true := by
  obtain ⟨hs, hd⟩ := hp
  unfold live
  rw [hc]
  cases h : d.phase with
  | sending => exact absurd h hs
  | done => exact absurd h hd
  | _ => rfl

theorem live_cancelled {d : Deferred S} (hc : d.cancelled = true) : d.live = false := by
  simp [live, hc]

theorem live_done {d : Deferred S} (h : d.phase = .done) : d.live = false := by
  simp [live, h]

end Deferred

namespace Throttle

variable {S : Type}

/-! ## The two locked sections -/

/-- `_throttle_task is None or _throttle_task.done()`. -/
def taskDone (s : Throttle S) : Bool :=
  match s.throttleTask with
  | none => true
  | some i => (s.tasks[i]?).all fun d => d.phase = .done

def setTask (s : Throttle S) (i : Nat) (d : Deferred S) : Throttle S :=
  { s with tasks := s.tasks.set i d }

/-- `_throttle_task.cancel()`, and the handle is dropped. -/
def cancelTask (s : Throttle S) : Throttle S :=
  match s.throttleTask with
  | none => s
  | some i =>
      match s.tasks[i]? with
      | none => { s with throttleTask := none }
      | some d => { s.setTask i { d with cancelled := true } with throttleTask := none }

/-- A live task is cancelled before a call sends at once. -/
def overtaken (s : Throttle S) : Throttle S := if s.taskDone then s else s.cancelTask

/-- The fleet is clean, the window starts now and the snapshot goes to `_group_send`. -/
def publish (s : Throttle S) (call : Nat) (snapshot : S) : Throttle S :=
  { s with
    fleetDirty := false
    lastFleetBroadcast := s.clock
    sent := s.sent ++ [⟨call, snapshot, s.clock⟩] }

/-- `broadcast_fleet` up to its return or its `_group_send`. -/
def broadcastFleet (s : Throttle S) (snapshot : S) : Throttle S :=
  let call := s.calls.length
  let s := { s with calls := s.calls ++ [snapshot] }
  let elapsed := s.clock - s.lastFleetBroadcast
  if throttleS ≤ elapsed then s.overtaken.publish call snapshot
  else
    let s := { s with fleetDirty := true }
    if s.taskDone then
      { s with
        tasks := s.tasks ++ [{ call, snapshot, delay := throttleS - elapsed }]
        throttleTask := some s.tasks.length }
    else s

/-- `_deferred` from the lock to its return or its `_group_send`. -/
def deferredSection (s : Throttle S) (i : Nat) (d : Deferred S) : Throttle S :=
  let s := { s with throttleTask := none }
  if !s.fleetDirty then s.setTask i { d with phase := .done }
  else (s.publish d.call d.snapshot).setTask i { d with phase := .sending }

/-! ## The throttle as a system -/

/-- What can happen next, each time-dependent event with the clock it reads. -/
inductive Event (S : Type) where
  /-- The body of a call of `broadcast_fleet` runs. Calls that go through `ensure_future` may run in
  another order than their snapshots were taken in. -/
  | call (now : ℚ) (snapshot : S)
  /-- A deferred task runs up to its sleep. -/
  | start (now : ℚ) (i : Nat)
  /-- Its sleep is over. -/
  | wake (now : ℚ) (i : Nat)
  /-- It gets the lock. -/
  | resume (now : ℚ) (i : Nat)
  /-- Its `_group_send` is over. -/
  | finish (i : Nat)
  /-- `CancelledError` ends it. -/
  | unwind (i : Nat)

/-- The task, where it is not cancelled and the clock has not gone back. -/
def runnable (s : Throttle S) (now : ℚ) (i : Nat) : Option (Deferred S) :=
  if now < s.clock then none
  else s.tasks[i]?.filter fun d => !d.cancelled

def step (s : Throttle S) : Event S → Option (Throttle S)
  | .call now snapshot =>
      if now < s.clock then none else some ({ s with clock := now }.broadcastFleet snapshot)
  | .start now i =>
      match s.runnable now i with
      | some d =>
          if d.phase = .created then
            some ({ s with clock := now }.setTask i { d with phase := .sleeping (now + d.delay) })
          else none
      | none => none
  | .wake now i =>
      match s.runnable now i with
      | some d =>
          match d.phase with
          | .sleeping deadline =>
              if deadline ≤ now then
                some ({ s with clock := now }.setTask i { d with phase := .woken })
              else none
          | _ => none
      | none => none
  | .resume now i =>
      match s.runnable now i with
      | some d =>
          if d.phase = .woken then some ({ s with clock := now }.deferredSection i d) else none
      | none => none
  | .finish i =>
      match s.tasks[i]? with
      | some d => if d.phase = .sending then some (s.setTask i { d with phase := .done }) else none
      | none => none
  | .unwind i =>
      match s.tasks[i]? with
      | some d => if d.cancelled then some (s.setTask i { d with phase := .done }) else none
      | none => none

/-- The module as it is imported, at some reading of the clock. -/
def init (clock : ℚ) : Throttle S := { clock }

/-! ## What a step does -/

theorem runnable_some {s : Throttle S} {now : ℚ} {i : Nat} {d : Deferred S} :
    s.runnable now i = some d ↔ s.clock ≤ now ∧ s.tasks[i]? = some d ∧ d.cancelled = false := by
  unfold runnable
  by_cases h : now < s.clock
  · rw [if_pos h]
    exact ⟨fun he => (nomatch he), fun ⟨hc, _⟩ => absurd h (not_lt.mpr hc)⟩
  · rw [if_neg h, Option.filter_eq_some_iff, Bool.not_eq_true']
    exact ⟨fun he => ⟨not_lt.mp h, he⟩, fun he => he.2⟩

/-! ## The invariant -/

/-- The handle is the one live task, a live task stands for a dirty fleet and a sleep
that lasts to the end of the window, its call is younger than everything sent, and
what has been sent keeps its distance and its order. -/
structure Steady (s : Throttle S) : Prop where
  owner : ∀ i, s.throttleTask = some i ↔ ∃ d, s.tasks[i]? = some d ∧ d.live = true
  dirty : ∀ i, s.throttleTask = some i → s.fleetDirty = true
  due : ∀ (i : Nat) (d : Deferred S), s.tasks[i]? = some d → d.live = true →
    s.lastFleetBroadcast + throttleS ≤ d.earliest s.clock
  younger : ∀ (i : Nat) (d : Deferred S), s.tasks[i]? = some d → d.live = true →
    ∀ x ∈ s.sent, x.call < d.call
  source : ∀ (i : Nat) (d : Deferred S), s.tasks[i]? = some d → s.calls[d.call]? = some d.snapshot
  sentSource : ∀ x ∈ s.sent, s.calls[x.call]? = some x.snapshot
  decided : ∀ x ∈ s.sent, x.time ≤ s.lastFleetBroadcast
  spaced : s.sent.Pairwise fun x y => x.time + throttleS ≤ y.time
  inOrder : s.sent.Pairwise fun x y => x.call < y.call

theorem steady_init (clock : ℚ) : (init clock : Throttle S).Steady where
  owner := by simp [init]
  dirty := by simp [init]
  due := by simp [init]
  younger := by simp [init]
  source := by simp [init]
  sentSource := by simp [init]
  decided := by simp [init]
  spaced := List.Pairwise.nil
  inOrder := List.Pairwise.nil

/-- The handle of a steady throttle is empty or a live task's, never a finished one's. -/
theorem Steady.taskDone_iff {s : Throttle S} (h : s.Steady) :
    s.taskDone = true ↔ s.throttleTask = none := by
  unfold taskDone
  cases ht : s.throttleTask with
  | none => simp
  | some i =>
    obtain ⟨d, hd, hlive⟩ := (h.owner i).mp ht
    have hp : d.phase ≠ .done := by
      intro hp
      rw [Deferred.live_done hp] at hlive
      cases hlive
    simp [hd, hp]

theorem Steady.not_live {s : Throttle S} (h : s.Steady) (hnone : s.throttleTask = none) {i : Nat}
    {d : Deferred S} (hd : s.tasks[i]? = some d) : d.live ≠ true := by
  intro hl
  have := (h.owner i).mpr ⟨d, hd, hl⟩
  rw [hnone] at this
  cases this

theorem Steady.at_clock {s : Throttle S} (h : s.Steady) {now : ℚ} (hn : s.clock ≤ now) :
    ({ s with clock := now } : Throttle S).Steady :=
  { h with due := fun i d hd hl => (h.due i d hd hl).trans (d.earliest_mono hn) }

theorem Steady.call {s : Throttle S} (h : s.Steady) (snapshot : S) :
    ({ s with calls := s.calls ++ [snapshot] } : Throttle S).Steady := by
  have hkeep : ∀ (n : Nat) (x : S), s.calls[n]? = some x →
      (s.calls ++ [snapshot])[n]? = some x := by
    intro n x hx
    obtain ⟨hn, -⟩ := List.getElem?_eq_some_iff.mp hx
    rw [List.getElem?_append_left hn]
    exact hx
  exact { h with
    source := fun i d hd => hkeep _ _ (h.source i d hd)
    sentSource := fun x hx => hkeep _ _ (h.sentSource x hx) }

theorem getElem?_setTask {s : Throttle S} {i j : Nat} {d d' : Deferred S}
    (hd : s.tasks[i]? = some d) :
    (s.setTask i d').tasks[j]? = if i = j then some d' else s.tasks[j]? := by
  obtain ⟨hi, -⟩ := List.getElem?_eq_some_iff.mp hd
  unfold setTask
  rw [List.getElem?_set]
  by_cases hij : i = j
  · subst hij
    rw [if_pos rfl, if_pos rfl, if_pos hi]
  · rw [if_neg hij, if_neg hij]

/-- A task of the table that is written is the new one or another one as it was. -/
theorem task_of_setTask {s : Throttle S} {i j : Nat} {d d' e : Deferred S}
    (hd : s.tasks[i]? = some d) (he : (s.setTask i d').tasks[j]? = some e) :
    (i = j ∧ e = d') ∨ (i ≠ j ∧ s.tasks[j]? = some e) := by
  rw [getElem?_setTask hd] at he
  by_cases hij : i = j
  · rw [if_pos hij] at he
    exact .inl ⟨hij, (Option.some.inj he).symm⟩
  · rw [if_neg hij] at he
    exact .inr ⟨hij, he⟩

/-- The calls of the tasks stay theirs when one is written that keeps its own. -/
theorem Steady.source_setTask {s : Throttle S} (h : s.Steady) {i : Nat} {d d' : Deferred S}
    (hd : s.tasks[i]? = some d) (hcall : d'.call = d.call) (hsnap : d'.snapshot = d.snapshot)
    (j : Nat) (e : Deferred S) (he : (s.setTask i d').tasks[j]? = some e) :
    s.calls[e.call]? = some e.snapshot := by
  rcases task_of_setTask hd he with ⟨rfl, rfl⟩ | ⟨-, he⟩
  · rw [hcall, hsnap]
    exact h.source i d hd
  · exact h.source j e he

/-- A live task moves on and stays live. -/
theorem Steady.advance {s : Throttle S} (h : s.Steady) {i : Nat} {d d' : Deferred S}
    (hd : s.tasks[i]? = some d) (hl : d.live = true) (hl' : d'.live = true)
    (hcall : d'.call = d.call) (hsnap : d'.snapshot = d.snapshot)
    (hdue : s.lastFleetBroadcast + throttleS ≤ d'.earliest s.clock) : (s.setTask i d').Steady where
  owner j := by
    rw [getElem?_setTask hd]
    by_cases hij : i = j
    · subst hij
      rw [if_pos rfl]
      exact ⟨fun _ => ⟨d', rfl, hl'⟩, fun _ => (h.owner i).mpr ⟨d, hd, hl⟩⟩
    · rw [if_neg hij]
      exact h.owner j
  dirty := h.dirty
  due j e he hle := by
    rcases task_of_setTask hd he with ⟨rfl, rfl⟩ | ⟨-, he⟩
    · exact hdue
    · exact h.due j e he hle
  younger j e he hle := by
    rcases task_of_setTask hd he with ⟨rfl, rfl⟩ | ⟨-, he⟩
    · rw [hcall]
      exact h.younger i d hd hl
    · exact h.younger j e he hle
  source := h.source_setTask hd hcall hsnap
  sentSource := h.sentSource
  decided := h.decided
  spaced := h.spaced
  inOrder := h.inOrder

/-- A task is live no more: if it was, the handle is dropped with it. -/
theorem Steady.retire {s : Throttle S} (h : s.Steady) {i : Nat} {d d' : Deferred S}
    (hd : s.tasks[i]? = some d) (hl' : d'.live = false) (hcall : d'.call = d.call)
    (hsnap : d'.snapshot = d.snapshot) {handle : Option Nat}
    (hh : handle = if d.live = true then none else s.throttleTask) :
    ({ s.setTask i d' with throttleTask := handle } : Throttle S).Steady := by
  -- a live task of the new table is another one, as it was
  have hlive : ∀ {j : Nat} {e : Deferred S}, (s.setTask i d').tasks[j]? = some e →
      e.live = true → i ≠ j ∧ s.tasks[j]? = some e := by
    intro j e he hle
    rcases task_of_setTask hd he with ⟨-, rfl⟩ | hother
    · rw [hl'] at hle
      cases hle
    · exact hother
  have howner : ∀ {j : Nat}, i ≠ j → (handle = some j ↔ s.throttleTask = some j) := by
    intro j hij
    by_cases hl : d.live = true
    · rw [hh, if_pos hl, (h.owner i).mpr ⟨d, hd, hl⟩]
      simp [hij]
    · rw [hh, if_neg hl]
  have hself : handle ≠ some i := by
    intro hi
    by_cases hl : d.live = true
    · rw [hh, if_pos hl] at hi
      cases hi
    · rw [hh, if_neg hl] at hi
      obtain ⟨e, he, hle⟩ := (h.owner i).mp hi
      rw [hd] at he
      cases he
      exact hl hle
  exact
    { owner := by
        intro j
        constructor
        · intro hj
          have hij : i ≠ j := fun hij => hself (hij ▸ hj)
          obtain ⟨e, he, hle⟩ := (h.owner j).mp ((howner hij).mp hj)
          exact ⟨e, by rw [← he]; exact (getElem?_setTask hd).trans (if_neg hij), hle⟩
        · rintro ⟨e, he, hle⟩
          obtain ⟨hij, he⟩ := hlive he hle
          exact (howner hij).mpr ((h.owner j).mpr ⟨e, he, hle⟩)
      dirty := by
        intro j hj
        have hij : i ≠ j := fun hij => hself (hij ▸ hj)
        exact h.dirty j ((howner hij).mp hj)
      due := fun j e he hle => h.due j e (hlive he hle).2 hle
      younger := fun j e he hle => h.younger j e (hlive he hle).2 hle
      source := h.source_setTask hd hcall hsnap
      sentSource := h.sentSource
      decided := h.decided
      spaced := h.spaced
      inOrder := h.inOrder }

/-- A send with no live task behind it, the window being over. -/
theorem Steady.send {s : Throttle S} (h : s.Steady) (hnone : s.throttleTask = none) {call : Nat}
    {snapshot : S} (hsource : s.calls[call]? = some snapshot)
    (hover : s.lastFleetBroadcast + throttleS ≤ s.clock) (hyoung : ∀ x ∈ s.sent, x.call < call) :
    (s.publish call snapshot).Steady := by
  -- nothing was decided after the last broadcast, and its window is over
  have hsent : ∀ x ∈ s.sent, x.time + throttleS ≤ s.clock := fun x hx =>
    (add_le_add_left (h.decided x hx) throttleS).trans hover
  have hpos : (0 : ℚ) ≤ throttleS := by norm_num [throttleS]
  exact
    { owner := h.owner
      dirty := by
        intro i hi
        change s.throttleTask = some i at hi
        rw [hnone] at hi
        cases hi
      due := fun i d hd hl => absurd hl (h.not_live hnone hd)
      younger := fun i d hd hl => absurd hl (h.not_live hnone hd)
      source := h.source
      sentSource := by
        intro x hx
        rcases List.mem_append.mp hx with hx | hx
        · exact h.sentSource x hx
        · rw [List.mem_singleton.mp hx]
          exact hsource
      decided := by
        intro x hx
        rcases List.mem_append.mp hx with hx | hx
        · have := hsent x hx
          show x.time ≤ s.clock
          linarith
        · rw [List.mem_singleton.mp hx]
          exact le_rfl
      spaced := by
        refine List.pairwise_append.mpr ⟨h.spaced, List.pairwise_singleton _ _, fun x hx y hy => ?_⟩
        rw [List.mem_singleton.mp hy]
        exact hsent x hx
      inOrder := by
        refine List.pairwise_append.mpr
          ⟨h.inOrder, List.pairwise_singleton _ _, fun x hx y hy => ?_⟩
        rw [List.mem_singleton.mp hy]
        exact hyoung x hx }

/-- A new deferred task, where there is no live one. -/
theorem Steady.defer {s : Throttle S} (h : s.Steady) (hnone : s.throttleTask = none) {call : Nat}
    {snapshot : S} (hsource : s.calls[call]? = some snapshot)
    (hyoung : ∀ x ∈ s.sent, x.call < call) {delay : ℚ}
    (hdelay : s.lastFleetBroadcast + throttleS ≤ s.clock + delay) :
    ({ s with
      fleetDirty := true
      tasks := s.tasks ++ [{ call, snapshot, delay }]
      throttleTask := some s.tasks.length } : Throttle S).Steady := by
  -- a task of the longer table is an old one, which is not live, or the new one
  have hcases : ∀ (i : Nat) (d : Deferred S),
      (s.tasks ++ [({ call, snapshot, delay } : Deferred S)])[i]? = some d →
        s.tasks[i]? = some d ∨ i = s.tasks.length ∧ d = { call, snapshot, delay } := by
    intro i d hd
    rcases lt_or_ge i s.tasks.length with hi | hi
    · rw [List.getElem?_append_left hi] at hd
      exact .inl hd
    · rw [List.getElem?_append_right hi] at hd
      obtain ⟨hlt, hd⟩ := List.getElem?_eq_some_iff.mp hd
      have hi' : i - s.tasks.length = 0 := by simpa using hlt
      refine .inr ⟨by omega, ?_⟩
      simpa [hi'] using hd.symm
  exact
    { owner := by
        intro i
        constructor
        · intro hi
          cases hi
          exact ⟨_, List.getElem?_concat_length, rfl⟩
        · rintro ⟨d, hd, hl⟩
          rcases hcases i d hd with hd | ⟨rfl, -⟩
          · exact absurd hl (h.not_live hnone hd)
          · rfl
      dirty := fun _ _ => rfl
      due := by
        intro i d hd hl
        rcases hcases i d hd with hd | ⟨-, rfl⟩
        · exact absurd hl (h.not_live hnone hd)
        · exact hdelay
      younger := by
        intro i d hd hl
        rcases hcases i d hd with hd | ⟨-, rfl⟩
        · exact absurd hl (h.not_live hnone hd)
        · exact hyoung
      source := by
        intro i d hd
        rcases hcases i d hd with hd | ⟨-, rfl⟩
        · exact h.source i d hd
        · exact hsource
      sentSource := h.sentSource
      decided := h.decided
      spaced := h.spaced
      inOrder := h.inOrder }

/-! ## What a step does -/

/-- Cancelling the live task leaves none, and nothing else changes. -/
theorem Steady.cancelTask {s : Throttle S} (h : s.Steady) (hsome : s.throttleTask ≠ none) :
    s.cancelTask.Steady ∧ s.cancelTask.throttleTask = none ∧ s.cancelTask.calls = s.calls ∧
      s.cancelTask.sent = s.sent ∧ s.cancelTask.clock = s.clock ∧
      s.cancelTask.lastFleetBroadcast = s.lastFleetBroadcast := by
  obtain ⟨i, hi⟩ := Option.ne_none_iff_exists'.mp hsome
  obtain ⟨d, hd, hl⟩ := (h.owner i).mp hi
  have heq : s.cancelTask =
      { s.setTask i { d with cancelled := true } with throttleTask := none } := by
    simp only [Throttle.cancelTask, hi, hd]
  have hdead : ({ d with cancelled := true } : Deferred S).live = false :=
    Deferred.live_cancelled rfl
  rw [heq]
  exact ⟨h.retire hd hdead rfl rfl
    (if_pos hl).symm, rfl, rfl, rfl, rfl, rfl⟩

theorem Steady.overtaken {s : Throttle S} (h : s.Steady) :
    s.overtaken.Steady ∧ s.overtaken.throttleTask = none ∧ s.overtaken.calls = s.calls ∧
      s.overtaken.sent = s.sent ∧ s.overtaken.clock = s.clock ∧
      s.overtaken.lastFleetBroadcast = s.lastFleetBroadcast := by
  unfold Throttle.overtaken
  by_cases hdone : s.taskDone = true
  · rw [if_pos hdone]
    exact ⟨h, h.taskDone_iff.mp hdone, rfl, rfl, rfl, rfl⟩
  · rw [if_neg hdone]
    exact h.cancelTask fun hnone => hdone (h.taskDone_iff.mpr hnone)

/-- A call sends at once, leaves its snapshot with a new task, or finds one waiting. -/
theorem Steady.broadcastFleet_cases {s : Throttle S} (h : s.Steady) (snapshot : S) :
    (throttleS ≤ s.clock - s.lastFleetBroadcast ∧
        s.broadcastFleet snapshot =
          ({ s with calls := s.calls ++ [snapshot] } : Throttle S).overtaken.publish
            s.calls.length snapshot) ∨
      (s.clock - s.lastFleetBroadcast < throttleS ∧ s.throttleTask = none ∧
        s.broadcastFleet snapshot =
          { s with
            calls := s.calls ++ [snapshot]
            fleetDirty := true
            tasks := s.tasks ++ [{
              call := s.calls.length
              snapshot
              delay := throttleS - (s.clock - s.lastFleetBroadcast) }]
            throttleTask := some s.tasks.length }) ∨
      (s.clock - s.lastFleetBroadcast < throttleS ∧ s.throttleTask ≠ none ∧
        s.broadcastFleet snapshot =
          { s with calls := s.calls ++ [snapshot], fleetDirty := true }) := by
  unfold broadcastFleet
  by_cases helapsed : throttleS ≤ s.clock - s.lastFleetBroadcast
  · refine .inl ⟨helapsed, ?_⟩
    simp only [helapsed, if_true]
  · have hdone : ({ s with calls := s.calls ++ [snapshot], fleetDirty := true } :
        Throttle S).taskDone = true ↔ s.throttleTask = none := h.taskDone_iff
    simp only [helapsed, if_false]
    by_cases hnone : s.throttleTask = none
    · rw [if_pos (hdone.mpr hnone)]
      exact .inr (.inl ⟨not_le.mp helapsed, hnone, rfl⟩)
    · rw [if_neg (mt hdone.mp hnone)]
      exact .inr (.inr ⟨not_le.mp helapsed, hnone, rfl⟩)

/-- A live task that gets the lock finds the fleet dirty, so it sends. -/
theorem Steady.deferredSection_eq {s : Throttle S} (h : s.Steady) {i : Nat} {d : Deferred S}
    (hd : s.tasks[i]? = some d) (hl : d.live = true) :
    s.deferredSection i d =
      ({ s.setTask i { d with phase := .sending } with throttleTask := none } :
        Throttle S).publish d.call d.snapshot := by
  have hdirty := h.dirty i ((h.owner i).mpr ⟨d, hd, hl⟩)
  unfold deferredSection
  simp only [hdirty, Bool.not_true, Bool.false_eq_true, if_false]
  rfl

/-! ### The events one by one -/

section Events

variable {s s' : Throttle S} {now : ℚ} {i : Nat}

theorem step_call {snapshot : S} (hs : s.step (.call now snapshot) = some s') :
    s.clock ≤ now ∧ s' = ({ s with clock := now } : Throttle S).broadcastFleet snapshot := by
  by_cases hn : now < s.clock
  · simp [step, hn] at hs
  · simp only [step, hn, if_false, Option.some.injEq] at hs
    exact ⟨not_lt.mp hn, hs.symm⟩

theorem step_start (hs : s.step (.start now i) = some s') :
    ∃ d, s.runnable now i = some d ∧ d.phase = .created ∧
      s' = ({ s with clock := now } : Throttle S).setTask i
        { d with phase := .sleeping (now + d.delay) } := by
  cases hr : s.runnable now i with
  | none => simp [step, hr] at hs
  | some d =>
    by_cases hp : d.phase = .created
    · simp only [step, hr, hp, if_true, Option.some.injEq] at hs
      exact ⟨d, rfl, hp, hs.symm⟩
    · simp [step, hr, hp] at hs

theorem step_wake (hs : s.step (.wake now i) = some s') :
    ∃ d deadline, s.runnable now i = some d ∧ d.phase = .sleeping deadline ∧ deadline ≤ now ∧
      s' = ({ s with clock := now } : Throttle S).setTask i { d with phase := .woken } := by
  cases hr : s.runnable now i with
  | none => simp [step, hr] at hs
  | some d =>
    cases hp : d.phase with
    | sleeping deadline =>
      by_cases hdl : deadline ≤ now
      · simp only [step, hr, hp, hdl, if_true, Option.some.injEq] at hs
        exact ⟨d, deadline, rfl, hp, hdl, hs.symm⟩
      · simp [step, hr, hp, hdl] at hs
    | _ => simp [step, hr, hp] at hs

theorem step_resume (hs : s.step (.resume now i) = some s') :
    ∃ d, s.runnable now i = some d ∧ d.phase = .woken ∧
      s' = ({ s with clock := now } : Throttle S).deferredSection i d := by
  cases hr : s.runnable now i with
  | none => simp [step, hr] at hs
  | some d =>
    by_cases hp : d.phase = .woken
    · simp only [step, hr, hp, if_true, Option.some.injEq] at hs
      exact ⟨d, rfl, hp, hs.symm⟩
    · simp [step, hr, hp] at hs

theorem step_finish (hs : s.step (.finish i) = some s') :
    ∃ d, s.tasks[i]? = some d ∧ d.phase = .sending ∧
      s' = s.setTask i { d with phase := .done } := by
  cases hd : s.tasks[i]? with
  | none => simp [step, hd] at hs
  | some d =>
    by_cases hp : d.phase = .sending
    · simp only [step, hd, hp, if_true, Option.some.injEq] at hs
      exact ⟨d, rfl, hp, hs.symm⟩
    · simp [step, hd, hp] at hs

theorem step_unwind (hs : s.step (.unwind i) = some s') :
    ∃ d, s.tasks[i]? = some d ∧ d.cancelled = true ∧
      s' = s.setTask i { d with phase := .done } := by
  cases hd : s.tasks[i]? with
  | none => simp [step, hd] at hs
  | some d =>
    by_cases hc : d.cancelled = true
    · rw [step, hd] at hs
      simp only [hc, if_true, Option.some.injEq] at hs
      exact ⟨d, rfl, hc, by rw [← hs, hc]⟩
    · simp [step, hd, hc] at hs

end Events

/-- The steps of a steady throttle: a call, a live task that comes nearer to the lock, one
that gets it, and one that is live no more and ends. -/
theorem Steady.step_cases {s s' : Throttle S} {ev : Event S} (h : s.Steady)
    (hs : s.step ev = some s') :
    (∃ now snapshot, ev = .call now snapshot ∧ s.clock ≤ now ∧
        s' = ({ s with clock := now } : Throttle S).broadcastFleet snapshot) ∨
      (∃ now i d d', s.clock ≤ now ∧ s.tasks[i]? = some d ∧ d.live = true ∧ d'.live = true ∧
        d'.call = d.call ∧ d'.snapshot = d.snapshot ∧
        s.lastFleetBroadcast + throttleS ≤ d'.earliest now ∧
        s' = ({ s with clock := now } : Throttle S).setTask i d') ∨
      (∃ now i d, s.clock ≤ now ∧ s.tasks[i]? = some d ∧ d.live = true ∧
        s.lastFleetBroadcast + throttleS ≤ now ∧
        s' = ({ s with clock := now } : Throttle S).deferredSection i d) ∨
      ∃ i d d', s.tasks[i]? = some d ∧ d.live = false ∧ d'.live = false ∧ d'.call = d.call ∧
        d'.snapshot = d.snapshot ∧ s' = s.setTask i d' := by
  cases ev with
  | call now snapshot =>
    obtain ⟨hn, rfl⟩ := step_call hs
    exact .inl ⟨now, snapshot, rfl, hn, rfl⟩
  | start now i =>
    obtain ⟨d, hr, hp, rfl⟩ := step_start hs
    obtain ⟨hn, hd, hc⟩ := runnable_some.mp hr
    have hl := Deferred.live_of_phase hc (by rw [hp]; simp)
    have hdue := (h.due i d hd hl).trans (d.earliest_mono hn)
    rw [Deferred.earliest, hp] at hdue
    exact .inr (.inl ⟨now, i, d, { d with phase := .sleeping (now + d.delay) }, hn, hd, hl,
      Deferred.live_of_phase hc (by simp), rfl, rfl, hdue, rfl⟩)
  | wake now i =>
    obtain ⟨d, deadline, hr, hp, hdl, rfl⟩ := step_wake hs
    obtain ⟨hn, hd, hc⟩ := runnable_some.mp hr
    have hl := Deferred.live_of_phase hc (by rw [hp]; simp)
    have hdue := h.due i d hd hl
    rw [Deferred.earliest, hp] at hdue
    exact .inr (.inl ⟨now, i, d, { d with phase := .woken }, hn, hd, hl,
      Deferred.live_of_phase hc (by simp), rfl, rfl, hdue.trans hdl, rfl⟩)
  | resume now i =>
    obtain ⟨d, hr, hp, rfl⟩ := step_resume hs
    obtain ⟨hn, hd, hc⟩ := runnable_some.mp hr
    have hl := Deferred.live_of_phase hc (by rw [hp]; simp)
    have hdue := h.due i d hd hl
    rw [Deferred.earliest, hp] at hdue
    exact .inr (.inr (.inl ⟨now, i, d, hn, hd, hl, hdue.trans hn, rfl⟩))
  | finish i =>
    obtain ⟨d, hd, hp, rfl⟩ := step_finish hs
    have hl : d.live = false := by simp [Deferred.live, hp]
    exact .inr (.inr (.inr ⟨i, d, { d with phase := .done }, hd, hl, Deferred.live_done rfl,
      rfl, rfl, rfl⟩))
  | unwind i =>
    obtain ⟨d, hd, hc, rfl⟩ := step_unwind hs
    exact .inr (.inr (.inr ⟨i, d, { d with phase := .done }, hd, Deferred.live_cancelled hc,
      Deferred.live_done rfl, rfl, rfl, rfl⟩))

/-! ## Every step keeps the throttle steady -/

theorem Steady.younger_calls {s : Throttle S} (h : s.Steady) :
    ∀ x ∈ s.sent, x.call < s.calls.length := by
  intro x hx
  exact (List.getElem?_eq_some_iff.mp (h.sentSource x hx)).1

theorem Steady.broadcastFleet {s : Throttle S} (h : s.Steady) (snapshot : S) :
    (s.broadcastFleet snapshot).Steady := by
  have h₁ := h.call snapshot
  have hsource : (s.calls ++ [snapshot])[s.calls.length]? = some snapshot :=
    List.getElem?_concat_length
  rcases h.broadcastFleet_cases snapshot with
    ⟨helapsed, heq⟩ | ⟨helapsed, hnone, heq⟩ | ⟨-, -, heq⟩
  -- a task that has woken but not got the lock is cancelled by the call that sends
  · obtain ⟨h₂, hnone, hcalls, hsent, hclock, hlast⟩ := h₁.overtaken
    rw [heq]
    refine h₂.send hnone ?_ ?_ ?_
    · rw [hcalls]
      exact hsource
    · rw [hlast, hclock]
      show s.lastFleetBroadcast + throttleS ≤ s.clock
      linarith
    · rw [hsent]
      exact h.younger_calls
  · rw [heq]
    refine h₁.defer hnone hsource h.younger_calls ?_
    show s.lastFleetBroadcast + throttleS ≤
      s.clock + (throttleS - (s.clock - s.lastFleetBroadcast))
    linarith
  · rw [heq]
    exact { h₁ with dirty := fun _ _ => rfl }

theorem Steady.deferredSection {s : Throttle S} (h : s.Steady) {i : Nat} {d : Deferred S}
    (hd : s.tasks[i]? = some d) (hl : d.live = true)
    (hover : s.lastFleetBroadcast + throttleS ≤ s.clock) : (s.deferredSection i d).Steady := by
  have hdead : ({ d with phase := .sending } : Deferred S).live = false := by simp [Deferred.live]
  have hretire := h.retire hd hdead rfl rfl (if_pos hl).symm
  rw [h.deferredSection_eq hd hl]
  exact hretire.send rfl (h.source i d hd) hover (h.younger i d hd hl)

theorem steady_step {s s' : Throttle S} {ev : Event S} (h : s.Steady)
    (hs : s.step ev = some s') : s'.Steady := by
  rcases h.step_cases hs with ⟨now, snapshot, -, hn, rfl⟩ |
    ⟨now, i, d, d', hn, hd, hl, hl', hcall, hsnap, hdue, rfl⟩ |
    ⟨now, i, d, hn, hd, hl, hover, rfl⟩ | ⟨i, d, d', hd, hl, hl', hcall, hsnap, rfl⟩
  · exact (h.at_clock hn).broadcastFleet snapshot
  · exact (h.at_clock hn).advance hd hl hl' hcall hsnap hdue
  · exact (h.at_clock hn).deferredSection hd hl hover
  · have hretire : ({ s.setTask i d' with throttleTask := s.throttleTask } : Throttle S).Steady :=
      h.retire hd hl' hcall hsnap (by rw [hl]; rfl)
    exact hretire

/-! ## The rate bound -/

/-- Any two sends are decided a window apart, no two tasks are live, and snapshots are
sent in the order of their calls, each with the call it was passed to. -/
structure RateBound (s : Throttle S) : Prop where
  spaced : s.sent.Pairwise fun x y => x.time + throttleS ≤ y.time
  oneLive : ∀ (i j : Nat) (d e : Deferred S), s.tasks[i]? = some d → s.tasks[j]? = some e →
    d.live = true → e.live = true → i = j
  inOrder : s.sent.Pairwise fun x y => x.call < y.call
  source : ∀ x ∈ s.sent, s.calls[x.call]? = some x.snapshot

theorem Steady.rateBound {s : Throttle S} (h : s.Steady) : s.RateBound where
  spaced := h.spaced
  oneLive := by
    intro i j d e hd he hl hle
    have hi := (h.owner i).mpr ⟨d, hd, hl⟩
    rw [(h.owner j).mpr ⟨e, he, hle⟩] at hi
    exact (Option.some.inj hi).symm
  inOrder := h.inOrder
  source := h.sentSource

/-- The throttle keeps its rate along every run: calls at any times, deferred tasks that
start, wake, get the lock, are overtaken and end in any order. -/
theorem throttle_rate_bound (clock : ℚ) (es : List (Event S)) :
    Transition.System.Always step (fun _ _ s' => s'.RateBound) (init clock) es := by
  refine Transition.always_of_step (I := Steady) ?_ (steady_init clock) es
  intro s ev s' h hs
  have h' := steady_step h hs
  exact ⟨h', h'.rateBound⟩

end Throttle

end DatabusSim
