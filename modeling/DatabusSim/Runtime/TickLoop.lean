import DatabusSim.Domain.Kinematics

/-!
# The tick loop

`tick_loop`: one iteration takes the vehicles of the fleet in turn. Between two
vehicles, at the telemetry it awaits and at the fleet push the event loop may run
something else, so an iteration is a sequence of steps: its start, a turn for each
vehicle with the progression after it, and the push.
-/

namespace DatabusSim

open Kinematics

/-- The settings `tick_loop` reads; an empty `onlyVehicles` selects all. -/
structure TickSettings where
  geo : Geo
  tickInterval : ℚ
  postRunIdleS : ℚ := 30
  onlyVehicles : List String := []
  randomDropRate : Int := 0
  stopAllAfter : Nat := 0

/-- What `start_runtime` has loaded: the shapes table (`none` before it ran), the
stops list and the ordered stops of each shape. -/
structure GeometryTables where
  shapes : Option (Dict String Shape)
  stops : List Stop
  progressionGeom : Dict String (List ShapeStop)

/-- What an iteration did for a vehicle: it left it out or stepped it. -/
inductive Turn where
  | skipped (vehicleId : String)
  | stepped (vehicleId : String)
  deriving DecidableEq

def Turn.vehicleId : Turn → String
  | .skipped v => v
  | .stepped v => v

/-- Where `tick_loop` is: asleep after an iteration (`none` where it took no vehicle),
before the turn of the next vehicle, before the progression of a vehicle whose telemetry
is out, before the fleet push, or ended by an exception. -/
inductive TickPhase where
  | sleeping (last : Option (List Turn))
  | stepping (turns : List Turn) (vehicleId : String) (rest : List String)
  | progressing (turns : List Turn) (vehicleId : String) (payloads : Payloads)
      (rest : List String)
  | pushing (turns : List Turn)
  | dead (exc : PyExc)

/-- The loop; `telemetry` and `progression` are what it has broadcast. -/
structure TickLoop where
  cycle : Nat := 0
  phase : TickPhase := .sleeping none
  telemetry : List (String × Payloads) := []
  progression : List (String × StopStatus) := []

/-- The fleet and the loop: all that `tick_loop` writes. -/
structure TickState where
  fleet : FleetState
  loop : TickLoop

namespace TickLoop

/-- The `for` loop goes on to its next vehicle, or to the push. -/
def next (turns : List Turn) : List String → TickPhase
  | [] => .pushing turns
  | vehicleId :: rest => .stepping turns vehicleId rest

/-- The loop wakes from its sleep: without shapes, or past `SIM_STOP_ALL_AFTER`, it goes
back to sleep at once. -/
def wake (cfg : TickSettings) (tables : GeometryTables) (s : TickState) : TickState :=
  let cycle := s.loop.cycle + 1
  if tables.shapes.isNone ∨ (cfg.stopAllAfter ≠ 0 ∧ cfg.stopAllAfter < cycle) then
    { s with loop := { s.loop with cycle, phase := .sleeping none } }
  else { s with loop := { s.loop with cycle, phase := next [] s.fleet.ids } }

/-- `SIM_ONLY_VEHICLES` and the random drop let the vehicle through. -/
def selected (cfg : TickSettings) (d : Draws) (vehicleId : String) : Bool :=
  (cfg.onlyVehicles.isEmpty ∨ vehicleId ∈ cfg.onlyVehicles) ∧
    ¬(cfg.randomDropRate ≠ 0 ∧ d.drop ≤ cfg.randomDropRate)

/-- `_get_shape`, `step_vehicle` and `build_vehicle_payloads` for one vehicle. -/
def stepAndBuild (cfg : TickSettings) (stops : List Stop) (shapes : Dict String Shape) (d : Draws)
    (now : ℚ) (v : Vehicle) : Except (Raised Vehicle) (Vehicle × Option Payloads) :=
  match getShape v shapes with
  | .error e => .error ⟨e, v⟩
  | .ok shape => do
      let v ← stepVehicle cfg.geo cfg.postRunIdleS d v cfg.tickInterval shape stops
      buildVehiclePayloads cfg.geo d now v shape

/-- The turn of a vehicle up to its telemetry. -/
def turn (cfg : TickSettings) (tables : GeometryTables) (s : TickState) (d : Draws) (now : ℚ)
    (turns : List Turn) (vehicleId : String) (rest : List String) : TickState :=
  match s.fleet.get vehicleId, tables.shapes with
  | some v, some shapes =>
      if !selected cfg d vehicleId then
        { s with loop := { s.loop with phase := next (turns ++ [.skipped vehicleId]) rest } }
      else
        match stepAndBuild cfg tables.stops shapes d now v with
        | .error r =>
            { fleet := s.fleet.put vehicleId r.state
              loop := { s.loop with phase := .dead r.exc } }
        | .ok (v, none) =>
            { fleet := s.fleet.put vehicleId v
              loop := { s.loop with phase := next (turns ++ [.stepped vehicleId]) rest } }
        | .ok (v, some payloads) =>
            { fleet := s.fleet.put vehicleId v
              loop := { s.loop with
                telemetry := s.loop.telemetry ++ [(vehicleId, payloads)]
                phase := .progressing (turns ++ [.stepped vehicleId]) vehicleId payloads rest } }
  -- the list holds vehicles of the fleet, and an iteration starts with a shapes table only
  | _, _ => { s with loop := { s.loop with phase := next (turns ++ [.skipped vehicleId]) rest } }

/-- The progression payload of a vehicle: from its progress by now, its published
position and the last payload. -/
def progressionOf (cfg : TickSettings) (tables : GeometryTables) (v : Vehicle)
    (payloads : Payloads) : StopStatus :=
  Compute.computeStopStatus cfg.geo v.progressM payloads.position.latitude
    payloads.position.longitude (tables.progressionGeom.getD (shapeIdOf v) [])
    payloads.position.speed (v.kin.bind (·.progressionPrev))

/-- The progression of a vehicle once its telemetry is out. -/
def progress (cfg : TickSettings) (tables : GeometryTables) (s : TickState) (turns : List Turn)
    (vehicleId : String) (payloads : Payloads) (rest : List String) : TickState :=
  match s.fleet.get vehicleId with
  | some v =>
      let prog := progressionOf cfg tables v payloads
      { fleet := s.fleet.put vehicleId
          { v with kin := v.kin.map fun kin => { kin with progressionPrev := some prog } }
        loop := { s.loop with
          progression := s.loop.progression ++ [(vehicleId, prog)]
          phase := next turns rest } }
  | none => { s with loop := { s.loop with phase := next turns rest } }

/-- What can happen to the loop. -/
inductive Event where
  | wake
  | turn (d : Draws) (now : ℚ)
  | progress
  | push

def step (cfg : TickSettings) (tables : GeometryTables) (s : TickState) :
    Event → Option TickState
  | .wake =>
      match s.loop.phase with
      | .sleeping _ => some (wake cfg tables s)
      | _ => none
  | .turn d now =>
      match s.loop.phase with
      | .stepping turns vehicleId rest => some (turn cfg tables s d now turns vehicleId rest)
      | _ => none
  | .progress =>
      match s.loop.phase with
      | .progressing turns vehicleId payloads rest =>
          some (progress cfg tables s turns vehicleId payloads rest)
      | _ => none
  | .push =>
      match s.loop.phase with
      | .pushing turns => some { s with loop := { s.loop with phase := .sleeping (some turns) } }
      | _ => none

end TickLoop

end DatabusSim
