import DatabusSim.Lib.Transition
import DatabusSim.Domain.Control
import DatabusSim.Services.RunBinder
import DatabusSim.Services.Scheduler
import DatabusSim.Runtime.TickLoop

/-!
# The runtime

The live objects of the simulator and everything that runs over them: the three
background loops, the timers and tasks they leave behind, and the requests of the
REST API. They share one event loop, so a run of the runtime is an interleaving of
the stretches between two suspensions.
-/

namespace DatabusSim

/-- The settings and the two library functions the runtime is built over. -/
structure Settings where
  ticks : TickSettings
  fromisoformat : String → Except PyExc DateTime

structure Runtime where
  fleet : FleetState
  binder : RunBinder
  scheduler : Scheduler
  tables : GeometryTables
  tick : TickLoop

namespace Runtime

/-- What can happen between two suspensions. -/
inductive Event where
  /-- The scheduler's loop, calls and file; `now` is the clock `track` reads. -/
  | scheduler (now : ℚ) (ev : Scheduler.Event)
  /-- The `binder.track` of `POST /sim/runs/track`. -/
  | trackRun (now : ℚ) (runId vehicleId tripId shapeId : String) (terminalStopId : Option String)
  /-- The sleep of `poll_loop` ends. -/
  | pollWake
  /-- The GET of the run's state has come to an end. -/
  | pollReply (now : ℚ) (http : Http)
  /-- A `call_later(…, untrack, run_id)` fires. -/
  | untrackTimer (i : Nat)
  /-- An auto-start task has slept. -/
  | autoStart (now : ℚ) (i : Nat)
  /-- `POST /sim/control/<vehicle_id>/<knob>`; `file` is what reading the shapes gives. -/
  | control (now : ℚ) (file : Except PyExc ShapesFile) (d : Draws) (vehicleId knob : String)
      (payload : Control.Payload)
  /-- `POST /sim/control/global/start_run`. -/
  | startRun (now : ℚ) (payload : Control.Payload)
  /-- The tick loop. -/
  | tick (ev : TickLoop.Event)

/-- `_dispatch_entry` hands its run over: `binder.track`, and the wrapper around
`on_state_change` for an entry with an auto-start delay. -/
def handOver (b : RunBinder) (now : ℚ) (tr : Tracked) : RunBinder :=
  let b := b.track now tr.runId tr.vehicleId tr.tripId tr.shapeId tr.terminalStopId
  match tr.autoStart with
  | some delay => { b with autoStarts := b.autoStarts ++ [⟨tr.runId, tr.vehicleId, delay⟩] }
  | none => b

/-- The part of the runtime `poll_loop` works on. -/
def binderState (s : Runtime) : BinderState := ⟨s.fleet, s.binder⟩

def withBinder (s : Runtime) (b : BinderState) : Runtime :=
  { s with fleet := b.fleet, binder := b.binder }

def step (cfg : Settings) (s : Runtime) : Event → Option Runtime
  | .scheduler now ev =>
      (Scheduler.step cfg.fromisoformat s.scheduler ev).map fun scheduler =>
        { s with
          scheduler
          binder := (scheduler.tracks.drop s.scheduler.tracks.length).foldl
            (fun b tr => handOver b now tr) s.binder }
  | .trackRun now runId vehicleId tripId shapeId terminalStopId =>
      if (s.fleet.get vehicleId).isNone then none
      else
        some { s with
          binder := s.binder.track now runId vehicleId tripId shapeId terminalStopId }
  | .pollWake =>
      match s.binder.loop with
      | .sleeping _ => some { s with binder := s.binder.wake }
      | _ => none
  | .pollReply now http =>
      match s.binder.loop with
      | .awaiting round rest runId ref =>
          some (s.withBinder (RunBinder.resume s.binderState now round rest runId ref
            (DatabusClient.getRunState http)))
      | _ => none
  | .untrackTimer i =>
      (s.binder.untrackTimers[i]?).map fun runId =>
        { s with binder :=
          { s.binder.untrack runId with untrackTimers := s.binder.untrackTimers.eraseIdx i } }
  | .autoStart now i =>
      -- the `KeyError` of a vehicle that is not on the roster ends the task alone
      (s.binder.startTasks[i]?).map fun a =>
        { s with
          fleet := settle (raisingAt s.fleet (s.fleet.setMoving now a.vehicleId true))
          binder := { s.binder with startTasks := s.binder.startTasks.eraseIdx i } }
  | .control now file draws vehicleId knob payload =>
      some { s with fleet :=
        Control.applyControl ⟨cfg.ticks.geo, now, file, draws⟩ s.fleet vehicleId knob payload }
  | .startRun now payload =>
      some { s with fleet := Control.globalStartRun now s.fleet payload }
  | .tick ev =>
      (TickLoop.step cfg.ticks s.tables ⟨s.fleet, s.tick⟩ ev).map fun t =>
        { s with fleet := t.fleet, tick := t.loop }

/-- `_init_kin` for every vehicle of the roster. -/
def startFleet (draws : String → Draws) : FleetState :=
  FleetState.ofVehicles (FleetState.makeFleet.map fun v =>
    { v with kin := some (Kinematics.initKin (draws v.vehicleId) v) })

/-- A vehicle of the roster as it starts. -/
theorem startFleet_get {draws : String → Draws} {w : String} {v : Vehicle}
    (h : (startFleet draws).get w = some v) :
    ∃ routeId shapeId vehicleId, v =
      { vehicleId, routeId, defaultShapeId := shapeId
        kin := some { speed := (draws vehicleId).initSpeed
                      occupancyPct := (draws vehicleId).initOccupancy } } := by
  have hmem := Dict.mem_of_get?_ofList h
  simp only [FleetState.makeFleet, List.map_cons, List.map_nil, List.mem_cons, List.not_mem_nil,
    or_false, Prod.mk.injEq] at hmem
  rcases hmem with ⟨-, rfl⟩ | ⟨-, rfl⟩ | ⟨-, rfl⟩ | ⟨-, rfl⟩ | ⟨-, rfl⟩ | ⟨-, rfl⟩ <;>
    exact ⟨_, _, _, rfl⟩

/-- `start_runtime`: a shapes file that cannot be loaded leaves an empty table, a
schedule that cannot be loaded an empty schedule. -/
def start (cfg : Settings) (draws : String → Draws) (shapes : Except PyExc ShapesFile)
    (progressionGeom : Dict String (List ShapeStop)) (schedule : Except PyExc PyVal) : Runtime where
  fleet := startFleet draws
  binder := { heap := fun _ => default }
  scheduler := settle ((Scheduler.start schedule).load cfg.fromisoformat)
  tables :=
    match shapes with
    | .ok file => ⟨some file.shapes, file.stops, progressionGeom⟩
    | .error _ => ⟨some Dict.empty, [], progressionGeom⟩
  tick := {}

/-! ## A concrete runtime -/

/-- Distances along the axes, one second a tick, and no timestamps in strings. -/
def plainSettings : Settings where
  ticks :=
    { geo := { haversineM := fun lat1 lon1 lat2 lon2 => |lat2 - lat1| + |lon2 - lon1|
               bearingDeg := fun _ _ _ _ => 0 }
      tickInterval := 1 }
  fromisoformat := Scheduler.noTimestamp

/-- Every random value in the middle of its range. -/
def steadyDraws : Draws where
  initSpeed := 6
  initSpeed_mem := by norm_num
  initOccupancy := 45
  initOccupancy_mem := by norm_num
  drift := 0
  drift_mem := by norm_num
  occupancyDrift := 0
  occupancyDrift_mem := by norm_num
  drop := 50
  drop_mem := by norm_num

/-- The runtime over a shapes file and a schedule file. -/
def plainStart (shapes : Except PyExc ShapesFile) (schedule : Except PyExc PyVal) : Runtime :=
  start plainSettings (fun _ => steadyDraws) shapes Dict.empty schedule

/-- A shapes file that is not there. -/
def noFile {α : Type} : Except PyExc α := .error (.runtimeError "No such file or directory")

/-- Databus answers a run's state. -/
def stateReply (state : String) : Http :=
  .response 200 (some (.dict [(.str "run_lifecycle_state", .str state)]))

end Runtime

end DatabusSim
