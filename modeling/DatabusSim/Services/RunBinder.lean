import Mathlib.Logic.Function.Basic
import DatabusSim.Services.DatabusClient

/-!
# The run binder

`RunBinder`: the tracked runs, `poll_loop` and what it does to the fleet.

The loop suspends in two places only, `asyncio.sleep` and the GET of a run's
state, so it is modelled by where it is suspended (`PollLoop`) and by what it
does from one suspension to the next. A `BoundRun` is an object: the loop keeps
its reference across the GET while `track` may put another one in its place.
-/

namespace DatabusSim

/-- The identity of a `BoundRun` object. -/
abbrev Ref := Nat

structure BoundRun where
  runId : String
  vehicleId : String
  tripId : String
  shapeId : String
  terminalStopId : Option String := none
  lifecycleState : Option LifecycleState := none
  lastPolledAt : Option ℚ := none
  trackedSince : ℚ
  deriving Inhabited

/-- One `_on_confirmed` wrapper a dispatch puts around `on_state_change`. -/
structure AutoStart where
  runId : String
  vehicleId : String
  delay : PyVal

/-- A call `on_state_change(run_id, old, new)`. -/
structure StateChange where
  runId : String
  old : Option LifecycleState
  new : LifecycleState
  deriving DecidableEq

/-- How the loop passed a run id of its round: it polled databus for it, or left
it out because the run is no longer tracked or already terminal. -/
inductive Visit where
  | polled (runId : String)
  | gone (runId : String)
  | finished (runId : String)
  deriving DecidableEq

def Visit.runId : Visit → String
  | .polled r => r
  | .gone r => r
  | .finished r => r

/-- One turn of the `while`: the run ids copied at its start and those passed. -/
structure Round where
  ids : List String
  visits : List Visit

/-- Where `poll_loop` is: asleep after a round, waiting for the state of a run, or
ended by an exception. -/
inductive PollLoop where
  | sleeping (last : Round)
  | awaiting (round : Round) (rest : List String) (runId : String) (ref : Ref)
  | dead (exc : PyExc)

/-- The binder. `stateChanges`, `lost` and `sampled` are its history: the calls of
`on_state_change`, the runs logged as lost, and the states polls answered. -/
structure RunBinder where
  bindings : Dict String Ref := Dict.empty
  heap : Ref → BoundRun
  fresh : Ref := 0
  loop : PollLoop := .sleeping ⟨[], []⟩
  /-- Whether a callback was installed before the scheduler wrapped it. -/
  hasCallback : Bool := false
  /-- The wrappers, the first one installed first. -/
  autoStarts : List AutoStart := []
  /-- The `untrack` calls that `call_later` still holds. -/
  untrackTimers : List String := []
  /-- The `_start` tasks that still sleep. -/
  startTasks : List AutoStart := []
  stateChanges : List StateChange := []
  lost : List String := []
  sampled : List (Ref × LifecycleState) := []

/-- The fleet and the binder: all that `poll_loop` reads and writes. -/
structure BinderState where
  fleet : FleetState
  binder : RunBinder

namespace RunBinder

/-- `_RUN_LOST_GRACE_S`. -/
def runLostGraceS : ℚ := 30

/-- `grace_elapsed`. -/
def graceElapsed (now : ℚ) (b : BoundRun) : Bool := runLostGraceS < now - b.trackedSince

def track (b : RunBinder) (now : ℚ) (runId vehicleId tripId shapeId : String)
    (terminalStopId : Option String) : RunBinder :=
  { b with
    heap := Function.update b.heap b.fresh
      { runId, vehicleId, tripId, shapeId, terminalStopId, trackedSince := now }
    bindings := b.bindings.set runId b.fresh
    fresh := b.fresh + 1 }

def untrack (b : RunBinder) (runId : String) : RunBinder :=
  { b with bindings := b.bindings.erase runId }

/-- `self.on_state_change(...)`, where one is installed: each wrapper that waits for
this run's `Confirmed` creates its start task. -/
def onStateChange (b : RunBinder) (c : StateChange) : RunBinder :=
  if b.hasCallback ∨ b.autoStarts ≠ [] then
    { b with
      stateChanges := b.stateChanges ++ [c]
      startTasks := b.startTasks ++
        b.autoStarts.filter fun a => c.new = .confirmed ∧ a.runId = c.runId }
  else b

/-- `_apply_state` on `Confirmed`: bind, stop at the start of the shape, transmit. -/
def applyConfirmed (f : FleetState) (now : ℚ) (b : BoundRun) : Except PyExc FleetState := do
  let f ← f.bindRun now b.vehicleId b.runId b.tripId b.shapeId b.terminalStopId
  let f ← f.setMoving now b.vehicleId false
  let f := match f.get b.vehicleId with
    | some v => f.put b.vehicleId { v with progressM := 0 }
    | none => f
  f.setTransmitting now b.vehicleId true

/-- `_apply_state` on a terminal state. -/
def applyTerminal (f : FleetState) (now : ℚ) (b : BoundRun) : Except PyExc FleetState := do
  let f ← f.setTransmitting now b.vehicleId false
  f.unbindRun now b.vehicleId

/-- The branches of `_apply_state`. The membership test in `TERMINAL_STATES` hashes the
state, so it raises `TypeError` on a list or an object. -/
def applyBranch (f : FleetState) (now : ℚ) (b : BoundRun) (newState : LifecycleState) :
    Except (Raised FleetState) FleetState :=
  match newState with
  | .confirmed => raisingAt f (applyConfirmed f now b)
  | .tracking | .inProgress | .noSignal => .ok f
  | .unhashable => .error ⟨.typeError "unhashable type", f⟩
  | _ => if newState.isTerminal then raisingAt f (applyTerminal f now b) else .ok f

/-- `_apply_state`. -/
def applyState (f : FleetState) (now : ℚ) (b : BoundRun) (newState : LifecycleState) :
    Except (Raised FleetState) FleetState := do
  let f ← raisingAt f (f.setLifecycleState now b.vehicleId (some newState))
  applyBranch f now b newState

/-- `_force_unbind`, after the warning that the run is lost. -/
def forceUnbind (s : BinderState) (now : ℚ) (b : BoundRun) :
    Except (Raised BinderState) BinderState :=
  let binder := { s.binder with lost := s.binder.lost ++ [b.runId] }
  match s.fleet.unbindRun now b.vehicleId with
  | .error e => .error ⟨e, { s with binder }⟩
  | .ok fleet => .ok { fleet, binder := binder.untrack b.runId }

/-- A poll has answered a state: `last_polled_at` is set. -/
def noteSample (b : RunBinder) (now : ℚ) (ref : Ref) (st : LifecycleState) : RunBinder :=
  { b with
    sampled := b.sampled ++ [(ref, st)]
    heap := Function.update b.heap ref { b.heap ref with lastPolledAt := some now } }

/-- `binding.lifecycle_state = new_state`. -/
def storeState (b : RunBinder) (ref : Ref) (st : LifecycleState) : RunBinder :=
  { b with heap := Function.update b.heap ref { b.heap ref with lifecycleState := some st } }

/-- The callback, and the `untrack` timer of a terminal state. -/
def announce (b : RunBinder) (c : StateChange) : RunBinder :=
  let b := b.onStateChange c
  if c.new.isTerminal then { b with untrackTimers := b.untrackTimers ++ [c.runId] } else b

/-- The run counts as lost when databus does not find it: it has been seen before, or its
grace is over. -/
def losesRun (now : ℚ) (b : BoundRun) : Bool := b.lifecycleState.isSome ∨ graceElapsed now b

/-- The part of `poll_loop` after the GET of one run. -/
def processPoll (s : BinderState) (now : ℚ) (runId : String) (ref : Ref)
    (out : Except PyExc (Option LifecycleState)) : Except (Raised BinderState) BinderState :=
  match out with
  -- the poll error is logged
  | .error _ => .ok s
  | .ok none =>
      if losesRun now (s.binder.heap ref) then forceUnbind s now (s.binder.heap ref) else .ok s
  | .ok (some newState) =>
      let oldState := (s.binder.heap ref).lifecycleState
      let binder := s.binder.noteSample now ref newState
      if oldState = some newState then .ok { s with binder }
      else
        let binder := binder.storeState ref newState
        match applyState s.fleet now (binder.heap ref) newState with
        | .error r => .error ⟨r.exc, { fleet := r.state, binder }⟩
        | .ok fleet => .ok { fleet, binder := binder.announce ⟨runId, oldState, newState⟩ }

/-- The `for` loop up to the next GET: the runs that are gone or terminal are passed
at once. -/
def advance (b : RunBinder) (ids : List String) : List String → List Visit → PollLoop
  | [], visits => .sleeping ⟨ids, visits⟩
  | runId :: rest, visits =>
      match b.bindings.get? runId with
      | none => advance b ids rest (visits ++ [.gone runId])
      | some ref =>
          match (b.heap ref).lifecycleState with
          -- the membership test stands outside the `try`
          | some .unhashable => .dead (.typeError "unhashable type")
          | some st =>
              if st.isTerminal then advance b ids rest (visits ++ [.finished runId])
              else .awaiting ⟨ids, visits ++ [.polled runId]⟩ rest runId ref
          | none => .awaiting ⟨ids, visits ++ [.polled runId]⟩ rest runId ref

/-- The loop wakes from its sleep and copies the run ids. -/
def wake (b : RunBinder) : RunBinder :=
  { b with loop := b.advance b.bindings.keys b.bindings.keys [] }

/-- The GET of the run the loop waits for has come to `out`. -/
def resume (s : BinderState) (now : ℚ) (round : Round) (rest : List String) (runId : String)
    (ref : Ref) (out : Except PyExc (Option LifecycleState)) : BinderState :=
  match processPoll s now runId ref out with
  | .error r => { r.state with binder := { r.state.binder with loop := .dead r.exc } }
  | .ok s => { s with binder := { s.binder with
      loop := s.binder.advance round.ids rest round.visits } }

end RunBinder

end DatabusSim
