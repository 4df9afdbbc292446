import DatabusSim.Runtime
import DatabusSim.Services.RunBinderSteps

/-!
# The chain of auto-start callbacks

A dispatch of an entry with an auto-start delay puts a new closure over its run, vehicle
and delay around whatever `on_state_change` was. The chain is followed call by call here;
the binder keeps it as the list of its wrappers.
-/

namespace DatabusSim

/-- What `on_state_change` can be: nothing, the callback that was installed before the first
dispatch, or an `_on_confirmed` over the one it replaced. -/
inductive Callback where
  | none
  | installed
  | onConfirmed (runId vehicleId : String) (delay : PyVal) (orig : Callback)

/-- The attribute, the calls that have reached the installed callback, and the start tasks
created. -/
structure CallbackChain where
  onStateChange : Callback
  calls : List StateChange := []
  startTasks : List AutoStart := []

namespace CallbackChain

/-- A call of a callback. `_on_confirmed` creates its task, then calls the one it replaced. -/
def call (c : StateChange) : Callback → CallbackChain → CallbackChain
  | .none, s => s
  | .installed, s => { s with calls := s.calls ++ [c] }
  | .onConfirmed runId vehicleId delay orig, s =>
      call c orig
        (if c.new = .confirmed ∧ c.runId = runId then
          { s with startTasks := s.startTasks ++ [⟨runId, vehicleId, delay⟩] }
        else s)

inductive Event where
  /-- A dispatch is completed: the run has been handed to `binder.track`. -/
  | dispatch (tr : Tracked)
  /-- `poll_loop` notifies of a state change. -/
  | notify (c : StateChange)

/-- The end of `_dispatch_entry`. -/
def dispatch (s : CallbackChain) (tr : Tracked) : CallbackChain :=
  match tr.autoStart with
  | some delay =>
      { s with onStateChange := .onConfirmed tr.runId tr.vehicleId delay s.onStateChange }
  | none => s

def step (s : CallbackChain) : Event → CallbackChain
  | .dispatch tr => s.dispatch tr
  | .notify c => call c s.onStateChange s

def run (s : CallbackChain) (events : List Event) : CallbackChain := events.foldl step s

/-- Before the first dispatch. -/
def start (hasCallback : Bool) : CallbackChain where
  onStateChange := if hasCallback then .installed else .none

def Event.tracked? : Event → Option Tracked
  | .dispatch tr => some tr
  | .notify _ => none

def Event.change? : Event → Option StateChange
  | .dispatch _ => none
  | .notify c => some c

/-- The notifications, in order. -/
def notifications (events : List Event) : List StateChange := events.filterMap Event.change?

/-- The runs dispatched, in order. -/
def dispatched (events : List Event) : List Tracked := events.filterMap Event.tracked?

/-- How often the run is notified to be confirmed. -/
def confirmations (runId : String) (events : List Event) : Nat :=
  (notifications events).countP fun c => c.new = .confirmed ∧ c.runId = runId

end CallbackChain

namespace Callback

/-- The wrappers of a chain, from the outermost to the innermost. -/
def wrappers : Callback → List AutoStart
  | .none => []
  | .installed => []
  | .onConfirmed runId vehicleId delay orig => ⟨runId, vehicleId, delay⟩ :: orig.wrappers

/-- There is a callback at the end of the chain. -/
def hasInstalled : Callback → Bool
  | .none => false
  | .installed => true
  | .onConfirmed _ _ _ orig => orig.hasInstalled

end Callback

namespace CallbackChain

/-! ## What a call does -/

theorem call_calls (c : StateChange) (cb : Callback) (s : CallbackChain) :
    (call c cb s).calls = s.calls ++ if cb.hasInstalled then [c] else [] := by
  induction cb generalizing s with
  | none => simp [call, Callback.hasInstalled]
  | installed => simp [call, Callback.hasInstalled]
  | onConfirmed runId vehicleId delay orig ih =>
    rw [call, ih]
    split <;> rfl

/-- Each wrapper that waits for this run creates its task, the outermost first. -/
theorem call_startTasks (c : StateChange) (cb : Callback) (s : CallbackChain) :
    (call c cb s).startTasks = s.startTasks ++
      cb.wrappers.filter fun a => c.new = .confirmed ∧ c.runId = a.runId := by
  induction cb generalizing s with
  | none => simp [call, Callback.wrappers]
  | installed => simp [call, Callback.wrappers]
  | onConfirmed runId vehicleId delay orig ih =>
    rw [call, ih, Callback.wrappers, List.filter_cons]
    by_cases h : c.new = .confirmed ∧ c.runId = runId
    · rw [if_pos h, if_pos (by simpa using h), List.append_assoc]
      rfl
    · rw [if_neg h, if_neg (by simpa using h)]

theorem call_onStateChange (c : StateChange) (cb : Callback) (s : CallbackChain) :
    (call c cb s).onStateChange = s.onStateChange := by
  induction cb generalizing s with
  | none => rfl
  | installed => rfl
  | onConfirmed runId vehicleId delay orig ih =>
    rw [call, ih]
    split <;> rfl

/-! ## Along a run -/

variable (s : CallbackChain)

theorem run_cons (ev : Event) (events : List Event) :
    s.run (ev :: events) = (s.step ev).run events := rfl

theorem run_append (first rest : List Event) :
    s.run (first ++ rest) = (s.run first).run rest :=
  List.foldl_append

theorem step_hasInstalled (ev : Event) :
    (s.step ev).onStateChange.hasInstalled = s.onStateChange.hasInstalled := by
  cases ev with
  | dispatch tr =>
    rw [step, dispatch]
    split <;> rfl
  | notify c => rw [step, call_onStateChange]

/-- Every notification reaches the installed callback, once and in order. -/
theorem run_calls (events : List Event) :
    (s.run events).calls = s.calls ++
      if s.onStateChange.hasInstalled then notifications events else [] := by
  induction events generalizing s with
  | nil => simp [run, notifications]
  | cons ev events ih =>
    rw [run_cons, ih, step_hasInstalled]
    cases ev with
    | dispatch tr =>
      have hcalls : (s.step (.dispatch tr)).calls = s.calls := by
        rw [step, dispatch]
        split <;> rfl
      rw [hcalls]
      rfl
    | notify c =>
      rw [step, call_calls, List.append_assoc]
      cases s.onStateChange.hasInstalled <;> rfl

/-- The wrapper a dispatch adds, if its entry has a delay. -/
def wrapperOf (tr : Tracked) : Option AutoStart :=
  tr.autoStart.map fun delay => ⟨tr.runId, tr.vehicleId, delay⟩

theorem dispatch_wrappers (tr : Tracked) :
    (s.dispatch tr).onStateChange.wrappers = (wrapperOf tr).toList ++ s.onStateChange.wrappers := by
  unfold dispatch wrapperOf
  cases tr.autoStart <;> rfl

theorem dispatch_startTasks (tr : Tracked) : (s.dispatch tr).startTasks = s.startTasks := by
  unfold dispatch
  split <;> rfl

/-- The start tasks created for a run, in order. -/
def tasksOf (runId : String) : List AutoStart := s.startTasks.filter (·.runId = runId)

/-- The wrappers that wait for a run. -/
def wrappersOf (runId : String) : List AutoStart :=
  s.onStateChange.wrappers.filter (·.runId = runId)

theorem tasksOf_notify (c : StateChange) (runId : String) :
    (s.step (.notify c)).tasksOf runId =
      s.tasksOf runId ++
        if c.new = .confirmed ∧ c.runId = runId then s.wrappersOf runId else [] := by
  rw [tasksOf, step, call_startTasks, List.filter_append, List.filter_filter]
  congr 1
  by_cases h : c.new = .confirmed ∧ c.runId = runId
  · rw [if_pos h, wrappersOf]
    apply List.filter_congr
    intro a _
    simp only [h.1, h.2, true_and]
    by_cases ha : a.runId = runId <;> simp [ha]
  · rw [if_neg h, List.filter_eq_nil_iff]
    intro a _ ha
    simp only [Bool.and_eq_true, decide_eq_true_eq] at ha
    obtain ⟨harun, hnew, hrun⟩ := ha
    exact h ⟨hnew, hrun.trans harun⟩

theorem wrappersOf_notify (c : StateChange) (runId : String) :
    (s.step (.notify c)).wrappersOf runId = s.wrappersOf runId := by
  rw [wrappersOf, step, call_onStateChange]
  rfl

theorem wrappersOf_dispatch_ne {tr : Tracked} {runId : String} (h : tr.runId ≠ runId) :
    (s.dispatch tr).wrappersOf runId = s.wrappersOf runId := by
  rw [wrappersOf, dispatch_wrappers, List.filter_append]
  cases hdelay : tr.autoStart with
  | none => simp [wrapperOf, hdelay, wrappersOf]
  | some delay => simp [wrapperOf, hdelay, wrappersOf, h]

theorem confirmations_notify (c : StateChange) (events : List Event) (runId : String) :
    confirmations runId (.notify c :: events) =
      confirmations runId events + if c.new = .confirmed ∧ c.runId = runId then 1 else 0 := by
  simp only [confirmations, notifications, List.filterMap_cons, Event.change?, List.countP_cons,
    decide_eq_true_eq]

/-- While no dispatch is for the run, each confirmation sets off the wrappers that wait for
it, and these stay. -/
theorem run_tasksOf {runId : String} {events : List Event}
    (h : ∀ tr ∈ dispatched events, tr.runId ≠ runId) :
    (s.run events).tasksOf runId =
        s.tasksOf runId ++
          (List.replicate (confirmations runId events) (s.wrappersOf runId)).flatten ∧
      (s.run events).wrappersOf runId = s.wrappersOf runId := by
  induction events generalizing s with
  | nil => simp [run, confirmations, notifications]
  | cons ev events ih =>
    cases ev with
    | dispatch tr =>
      obtain ⟨htr, hrest⟩ := List.forall_mem_cons.mp h
      obtain ⟨htasks, hwrappers⟩ := ih (s.dispatch tr) hrest
      rw [run_cons]
      rw [wrappersOf_dispatch_ne s htr] at htasks hwrappers
      refine ⟨?_, hwrappers⟩
      show ((s.dispatch tr).run events).tasksOf runId = _
      rw [htasks, tasksOf, dispatch_startTasks]
      rfl
    | notify c =>
      obtain ⟨htasks, hwrappers⟩ := ih (s.step (.notify c)) h
      rw [wrappersOf_notify] at htasks hwrappers
      rw [run_cons]
      refine ⟨?_, hwrappers⟩
      rw [htasks, tasksOf_notify, confirmations_notify]
      by_cases hc : c.new = .confirmed ∧ c.runId = runId
      · rw [if_pos hc, if_pos hc, List.replicate_succ, List.flatten_cons, List.append_assoc]
      · rw [if_neg hc, if_neg hc, List.append_nil, Nat.add_zero]

/-- Every start task comes from a wrapper, and every wrapper from a dispatch. -/
theorem mem_run_startTasks {events : List Event} {a : AutoStart}
    (h : a ∈ (s.run events).startTasks) :
    a ∈ s.startTasks ∨ a ∈ s.onStateChange.wrappers ∨
      ∃ tr ∈ dispatched events, wrapperOf tr = some a := by
  induction events generalizing s with
  | nil => exact .inl h
  | cons ev events ih =>
    cases ev with
    | dispatch tr =>
      rcases ih (s.dispatch tr) h with htask | hwrapper | ⟨tr', htr', ha⟩
      · rw [dispatch_startTasks] at htask
        exact .inl htask
      · rw [dispatch_wrappers] at hwrapper
        rcases List.mem_append.mp hwrapper with hnew | hold
        · exact .inr (.inr ⟨tr, List.mem_cons_self, Option.mem_toList.mp hnew⟩)
        · exact .inr (.inl hold)
      · exact .inr (.inr ⟨tr', List.mem_cons_of_mem _ htr', ha⟩)
    | notify c =>
      rcases ih (s.step (.notify c)) h with htask | hwrapper | hdispatch
      · rw [step, call_startTasks] at htask
        rcases List.mem_append.mp htask with hold | hnew
        · exact .inl hold
        · exact .inr (.inl (List.mem_of_mem_filter hnew))
      · rw [step, call_onStateChange] at hwrapper
        exact .inr (.inl hwrapper)
      · exact .inr (.inr hdispatch)

/-- The tasks a dispatched run gets: one for each confirmation since, with the vehicle and the
delay of its own entry. -/
def startsFor (tr : Tracked) (confirmed : Nat) : List AutoStart :=
  match tr.autoStart with
  | some delay => List.replicate confirmed ⟨tr.runId, tr.vehicleId, delay⟩
  | none => []

theorem start_wrappers (hasCallback : Bool) : (start hasCallback).onStateChange.wrappers = [] := by
  cases hasCallback <;> rfl

theorem dispatched_append (first rest : List Event) :
    dispatched (first ++ rest) = dispatched first ++ dispatched rest :=
  List.filterMap_append

theorem startsFor_eq (tr : Tracked) (n : Nat) :
    (List.replicate n (wrapperOf tr).toList).flatten = startsFor tr n := by
  unfold wrapperOf startsFor
  cases tr.autoStart with
  | none => simp
  | some delay => simp

theorem tasksOf_dispatched {hasCallback : Bool} {events : List Event}
    (hids : ((dispatched events).map Tracked.runId).Nodup) {i : Nat} {tr : Tracked}
    (hi : events[i]? = some (.dispatch tr)) :
    ((start hasCallback).run events).tasksOf tr.runId =
      startsFor tr (confirmations tr.runId (events.drop (i + 1))) := by
  obtain ⟨hlt, hget⟩ := List.getElem?_eq_some_iff.mp hi
  have hsplit : events = events.take i ++ .dispatch tr :: events.drop (i + 1) := by
    rw [← hget, ← List.drop_eq_getElem_cons hlt, List.take_append_drop]
  have hruns : dispatched events =
      dispatched (events.take i) ++ tr :: dispatched (events.drop (i + 1)) := by
    conv_lhs => rw [hsplit, dispatched_append]
    rfl
  rw [hruns, List.map_append, List.map_cons, List.nodup_middle, List.nodup_cons, List.mem_append,
    not_or, List.mem_map, List.mem_map] at hids
  obtain ⟨⟨hbefore, hafter⟩, -⟩ := hids
  -- before its dispatch nothing waits for the run, after it only the entry's own wrapper
  have hearlier : ∀ tr' ∈ dispatched (events.take i), tr'.runId ≠ tr.runId :=
    fun tr' htr' heq => hbefore ⟨tr', htr', heq⟩
  obtain ⟨htasks₁, hwrappers₁⟩ := run_tasksOf (start hasCallback) hearlier
  have hnone : (start hasCallback).wrappersOf tr.runId = [] := by
    rw [wrappersOf, start_wrappers]
    rfl
  generalize hs₁ : (start hasCallback).run (events.take i) = s₁ at htasks₁ hwrappers₁
  have htasks : s₁.tasksOf tr.runId = [] := by
    rw [htasks₁, hnone]
    simp [tasksOf, start]
  have hwrappers : (s₁.dispatch tr).wrappersOf tr.runId = (wrapperOf tr).toList := by
    have hold : s₁.onStateChange.wrappers.filter (fun a => a.runId = tr.runId) = [] := by
      rw [← hnone, ← hwrappers₁, wrappersOf]
    rw [wrappersOf, dispatch_wrappers, List.filter_append, hold, List.append_nil, wrapperOf]
    cases tr.autoStart <;> simp
  have hlater : ∀ tr' ∈ dispatched (events.drop (i + 1)), tr'.runId ≠ tr.runId :=
    fun tr' htr' heq => hafter ⟨tr', htr', heq⟩
  obtain ⟨htasks₂, -⟩ := run_tasksOf (s₁.dispatch tr) hlater
  have hrun : (start hasCallback).run events = (s₁.dispatch tr).run (events.drop (i + 1)) := by
    conv_lhs => rw [hsplit, run_append, hs₁]
    rfl
  rw [hrun, htasks₂, hwrappers, startsFor_eq, tasksOf, dispatch_startTasks]
  show s₁.tasksOf tr.runId ++ _ = _
  rw [htasks, List.nil_append]

theorem callbacks_compose (hasCallback : Bool) (events : List Event)
    (hids : ((dispatched events).map Tracked.runId).Nodup) :
    ((start hasCallback).run events).calls =
        (if hasCallback then notifications events else []) ∧
      (∀ i tr, events[i]? = some (.dispatch tr) →
        ((start hasCallback).run events).tasksOf tr.runId =
          startsFor tr (confirmations tr.runId (events.drop (i + 1)))) ∧
      ∀ a ∈ ((start hasCallback).run events).startTasks,
        ∃ tr ∈ dispatched events, wrapperOf tr = some a := by
  refine ⟨?_, fun i tr hi => tasksOf_dispatched hids hi, ?_⟩
  · have hinstalled : (start hasCallback).onStateChange.hasInstalled = hasCallback := by
      cases hasCallback <;> rfl
    rw [run_calls, hinstalled]
    rfl
  · intro a ha
    rcases mem_run_startTasks (start hasCallback) ha with htask | hwrapper | hdispatch
    · cases htask
    · rw [start_wrappers] at hwrapper
      cases hwrapper
    · exact hdispatch

def trackedAs (runId vehicleId : String) (delay : Int) : Tracked where
  entryId := .str vehicleId
  runId := runId
  vehicleId := vehicleId
  tripId := "trip"
  shapeId := "hacia_artes"
  terminalStopId := none
  autoStart := some (.int delay)

/-- Two dispatches, then the confirmation of the first. -/
def firstConfirmed : List Event :=
  [.dispatch (trackedAs "run-1" "unit-01" 5), .dispatch (trackedAs "run-2" "unit-02" 8),
    .notify ⟨"run-1", none, .confirmed⟩]

theorem callbacks_compose_firstConfirmed :
    ((start true).run firstConfirmed).calls = [⟨"run-1", none, .confirmed⟩] ∧
      ((start true).run firstConfirmed).tasksOf "run-1" = [⟨"run-1", "unit-01", .int 5⟩] ∧
      ((start true).run firstConfirmed).tasksOf "run-2" = [] := by
  obtain ⟨hcalls, htasks, -⟩ := callbacks_compose true firstConfirmed (by decide)
  exact ⟨hcalls, htasks 0 _ rfl, htasks 1 _ rfl⟩

/-! ## The binder's wrappers -/

/-- The chain that the binder's list of wrappers stands for, the last one outermost. -/
def chainOf (b : RunBinder) : Callback :=
  b.autoStarts.foldl (fun orig a => .onConfirmed a.runId a.vehicleId a.delay orig)
    (if b.hasCallback then .installed else .none)

theorem wrappers_foldl (as : List AutoStart) (cb : Callback) :
    (as.foldl (fun orig a => Callback.onConfirmed a.runId a.vehicleId a.delay orig) cb).wrappers =
      as.reverse ++ cb.wrappers := by
  induction as generalizing cb with
  | nil => rfl
  | cons a as ih =>
    rw [List.foldl_cons, ih, List.reverse_cons, List.append_assoc]
    rfl

theorem wrappers_chainOf (b : RunBinder) : (chainOf b).wrappers = b.autoStarts.reverse := by
  rw [chainOf, wrappers_foldl]
  cases b.hasCallback <;> exact List.append_nil _

/-- The chain of `s` is the one the binder's list stands for, and as many tasks of each kind
have been created. -/
structure Follows (s : CallbackChain) (b : RunBinder) : Prop where
  chain : s.onStateChange = chainOf b
  tasks : s.startTasks.Perm b.startTasks

/-- A hand-over is a dispatch of the chain. -/
theorem Follows.handOver {s : CallbackChain} {b : RunBinder} (h : Follows s b) (now : ℚ)
    (tr : Tracked) : Follows (s.dispatch tr) (Runtime.handOver b now tr) := by
  unfold dispatch Runtime.handOver
  cases tr.autoStart with
  | none => exact ⟨h.chain, h.tasks⟩
  | some delay =>
    refine ⟨?_, h.tasks⟩
    simp only [chainOf, List.foldl_append, List.foldl_cons, List.foldl_nil]
    rw [h.chain]
    rfl

/-- A notification creates the same tasks. -/
theorem Follows.onStateChange {s : CallbackChain} {b : RunBinder} (h : Follows s b)
    (c : StateChange) : Follows (s.step (.notify c)) (b.onStateChange c) := by
  constructor
  · rw [step, call_onStateChange, h.chain, RunBinder.onStateChange]
    by_cases hcb : b.hasCallback = true ∨ b.autoStarts ≠ []
    · rw [if_pos hcb]
      rfl
    · rw [if_neg hcb]
  · rw [RunBinder.startTasks_onStateChange, step, call_startTasks, h.chain, wrappers_chainOf]
    apply h.tasks.append
    have hsame : (fun a : AutoStart => decide (c.new = .confirmed ∧ c.runId = a.runId)) =
        fun a => decide (c.new = .confirmed ∧ a.runId = c.runId) := by
      funext a
      simp only [eq_comm]
    rw [hsame]
    exact (List.reverse_perm _).filter _

/-- The binder's part in the same events. -/
def binderStep (now : ℚ) (b : RunBinder) : Event → RunBinder
  | .dispatch tr => Runtime.handOver b now tr
  | .notify c => b.onStateChange c

/-- The binder follows its chain through any interleaving. -/
theorem Follows.run {s : CallbackChain} {b : RunBinder} (h : Follows s b) (now : ℚ)
    (events : List Event) : Follows (s.run events) (events.foldl (binderStep now) b) := by
  induction events generalizing s b with
  | nil => exact h
  | cons ev events ih =>
    rw [run_cons, List.foldl_cons]
    apply ih
    cases ev with
    | dispatch tr => exact h.handOver now tr
    | notify c => exact h.onStateChange c

end CallbackChain

end DatabusSim
