import DatabusSim.Domain.Kinematics

/-!
# Control dispatch

`apply_control` and `apply_global_control` over the raw JSON payload. A handler
that rejects its payload changes nothing; what a handler raises is logged by the
dispatch, so every handler says which fleet it leaves behind.
-/

namespace DatabusSim

/-- `_VALID_FAULT_KINDS`. -/
def FaultKind.ofValue : String → Option FaultKind
  | "stale_ts" => some .staleTs
  | "out_of_bounds" => some .outOfBounds
  | "malformed" => some .malformed
  | _ => none

/-- The two of `load_shapes`' tables that the handlers use. -/
structure ShapesFile where
  shapes : Dict String Shape
  stops : List Stop

namespace Control

/-- The items of the JSON object. -/
abbrev Payload := List (Key × PyVal)

/-- `payload.get(key)`. -/
def field (payload : Payload) (key : String) : PyVal := (PyVal.getItem? payload key).getD .null

/-- `isinstance(value, int)`, which takes booleans. -/
def asInt : PyVal → Option Int
  | .bool b => some (if b then 1 else 0)
  | .int i => some i
  | _ => none

/-! ## Per-vehicle handlers -/

/-- The two switches: a payload whose `on` is no bool is rejected. -/
def handleSwitch (set : FleetState → Bool → Except PyExc FleetState) (f : FleetState)
    (payload : Payload) : Except (Raised FleetState) FleetState :=
  match field payload "on" with
  | .bool on => raisingAt f (set f on)
  | _ => .ok f

def handleTransmit (now : ℚ) (f : FleetState) (vehicleId : String) (payload : Payload) :
    Except (Raised FleetState) FleetState :=
  handleSwitch (fun f on => f.setTransmitting now vehicleId on) f payload

def handleMoving (now : ℚ) (f : FleetState) (vehicleId : String) (payload : Payload) :
    Except (Raised FleetState) FleetState :=
  handleSwitch (fun f on => f.setMoving now vehicleId on) f payload

def handleSpeed (f : FleetState) (vehicleId : String) (payload : Payload) :
    Except (Raised FleetState) FleetState :=
  match field payload "value" with
  | .null => raisingAt f (f.setSpeedOverride vehicleId none)
  | .float q => raisingAt f (f.setSpeedOverride vehicleId (some q))
  | value =>
      match asInt value with
      | none => .ok f
      | some i =>
          match floatOfInt i with
          | .error e => .error ⟨e, f⟩
          | .ok q => raisingAt f (f.setSpeedOverride vehicleId (some q))

def handleOccupancy (f : FleetState) (vehicleId : String) (payload : Payload) :
    Except (Raised FleetState) FleetState :=
  match field payload "value" with
  | .null => raisingAt f (f.setOccupancyOverride vehicleId none)
  | value =>
      match asInt value with
      | none => .ok f
      | some i =>
          if 0 ≤ i ∧ i ≤ 100 then raisingAt f (f.setOccupancyOverride vehicleId (some i))
          else .ok f

def handleDwell (f : FleetState) (vehicleId : String) (payload : Payload) :
    Except (Raised FleetState) FleetState :=
  match asInt ((PyVal.getItem? payload "ticks").getD (.int 0)) with
  | none => .ok f
  | some ticks =>
      if ticks < 0 then .ok f
      else raisingAt f (f.setDwellOverride vehicleId (field payload "stop_id") ticks)

/-- Any exception on the way is logged by the handler itself. -/
def handleJumpToTerminal (file : Except PyExc ShapesFile) (f : FleetState) (vehicleId : String) :
    Except (Raised FleetState) FleetState :=
  match f.get vehicleId with
  | none => .ok f
  | some v =>
      match file with
      | .error _ => .ok f
      | .ok file =>
          match Kinematics.getShape v file.shapes with
          | .error _ => .ok f
          | .ok shape =>
              match Kinematics.totalDistM shape with
              | .error _ => .ok f
              | .ok total =>
                  .ok (f.put vehicleId
                    { v with progressM := max 0 (total - 1), moving := true }).notify

/-- The walk of `set_progress` over the shape points: the distance of the first of
those nearest to the stop, `0.0` on a shape without points. -/
def nearestProgressM (geo : Geo) (points : List ShapePoint) (stop : Stop) : ℚ :=
  (points.foldl (fun best p =>
    let d := geo.haversineM p.lat p.lon stop.lat stop.lon
    match best with
    | some (bestD, _) => if d < bestD then some (d, p.distKm * 1000) else best
    | none => some (d, p.distKm * 1000)) none).elim 0 Prod.snd

def handleSetProgress (geo : Geo) (file : Except PyExc ShapesFile) (f : FleetState)
    (vehicleId : String) (payload : Payload) : Except (Raised FleetState) FleetState :=
  match field payload "stop_id" with
  | .str stopId =>
      match f.get vehicleId with
      | none => .ok f
      | some v =>
          match file with
          | .error _ => .ok f
          | .ok file =>
              match Kinematics.getShape v file.shapes with
              | .error _ => .ok f
              | .ok shape =>
                  match file.stops.find? fun s => s.stopId = stopId with
                  | none => .ok f
                  | some stop =>
                      .ok (f.put vehicleId
                        { v with progressM := nearestProgressM geo shape.points stop }).notify
  | _ => .ok f

/-- The membership test hashes the kind. The fault is written without a notification. -/
def handleInjectFault (d : Draws) (f : FleetState) (vehicleId : String) (payload : Payload) :
    Except (Raised FleetState) FleetState :=
  match (field payload "kind").key? with
  | none => .error ⟨.typeError "unhashable type", f⟩
  | some (.str name) =>
      match FaultKind.ofValue name with
      | none => .ok f
      | some kind =>
          match asInt ((PyVal.getItem? payload "duration_ticks").getD (.int 0)) with
          | none => .ok f
          | some ticks =>
              if ticks ≤ 0 then .ok f
              else
                match f.get vehicleId with
                | none => .ok f
                | some v =>
                    .ok (f.put vehicleId { v with
                      kin := some { Kinematics.initKin d v with
                        fault := some kind
                        faultTicks := ticks } })
  | some _ => .ok f

/-! ## Dispatch -/

/-- What the handlers read besides the fleet: the clock, the shapes file, the random
values of `_init_kin`. -/
structure Env where
  geo : Geo
  now : ℚ
  file : Except PyExc ShapesFile
  draws : Draws

/-- `_PER_VEHICLE_DISPATCH[knob]`, `none` for an unknown knob. -/
def handler? (env : Env) :
    String → Option (FleetState → String → Payload → Except (Raised FleetState) FleetState)
  | "transmit" => some (handleTransmit env.now)
  | "moving" => some (handleMoving env.now)
  | "speed" => some handleSpeed
  | "occupancy" => some handleOccupancy
  | "dwell" => some handleDwell
  | "jump_to_terminal" => some fun f vehicleId _ => handleJumpToTerminal env.file f vehicleId
  | "set_progress" => some (handleSetProgress env.geo env.file)
  | "inject_fault" => some (handleInjectFault env.draws)
  | _ => none

/-- `apply_control`: what a handler raises is logged. -/
def applyControl (env : Env) (f : FleetState) (vehicleId knob : String) (payload : Payload) :
    FleetState :=
  if (f.get vehicleId).isNone then f
  else
    match handler? env knob with
    | none => f
    | some handler => settle (handler f vehicleId payload)

/-- The `start_run` of `apply_global_control`; `reload_schedule` is the scheduler's. -/
def globalStartRun (now : ℚ) (f : FleetState) (payload : Payload) : FleetState :=
  match field payload "vehicle_id" with
  | .str vehicleId =>
      if (f.get vehicleId).isNone then f
      else settle (raisingAt f (f.setMoving now vehicleId true))
  | _ => f

/-! ## No handler touches a run -/

open FleetState

variable {f : FleetState} {vehicleId : String} {payload : Payload}

theorem handleSwitch_keepsRuns {set : FleetState → Bool → Except PyExc FleetState}
    (hset : ∀ on, KeepsRuns f (settle (raisingAt f (set f on)))) :
    KeepsRuns f (settle (handleSwitch set f payload)) := by
  unfold handleSwitch
  split
  · exact hset _
  · exact KeepsRuns.refl f

theorem handleSpeed_keepsRuns : KeepsRuns f (settle (handleSpeed f vehicleId payload)) := by
  unfold handleSpeed
  split
  · exact mutate_keepsRuns f vehicleId fun _ => rfl
  · exact mutate_keepsRuns f vehicleId fun _ => rfl
  · split
    · exact KeepsRuns.refl f
    · split
      · exact KeepsRuns.refl f
      · exact mutate_keepsRuns f vehicleId fun _ => rfl

theorem handleOccupancy_keepsRuns :
    KeepsRuns f (settle (handleOccupancy f vehicleId payload)) := by
  unfold handleOccupancy
  split
  · exact mutate_keepsRuns f vehicleId fun _ => rfl
  · split
    · exact KeepsRuns.refl f
    · split
      · exact mutate_keepsRuns f vehicleId fun _ => rfl
      · exact KeepsRuns.refl f

theorem handleDwell_keepsRuns : KeepsRuns f (settle (handleDwell f vehicleId payload)) := by
  unfold handleDwell
  split
  · exact KeepsRuns.refl f
  · split
    · exact KeepsRuns.refl f
    · exact mutate_keepsRuns f vehicleId fun _ => rfl

theorem handleJumpToTerminal_keepsRuns (file : Except PyExc ShapesFile) :
    KeepsRuns f (settle (handleJumpToTerminal file f vehicleId)) := by
  unfold handleJumpToTerminal
  split
  · exact KeepsRuns.refl f
  · rename_i v hv
    split
    · exact KeepsRuns.refl f
    · split
      · exact KeepsRuns.refl f
      · split
        · exact KeepsRuns.refl f
        · exact notify_keepsRuns hv rfl

theorem handleSetProgress_keepsRuns (geo : Geo) (file : Except PyExc ShapesFile) :
    KeepsRuns f (settle (handleSetProgress geo file f vehicleId payload)) := by
  unfold handleSetProgress
  split
  · split
    · exact KeepsRuns.refl f
    · rename_i v hv
      split
      · exact KeepsRuns.refl f
      · split
        · exact KeepsRuns.refl f
        · split
          · exact KeepsRuns.refl f
          · exact notify_keepsRuns hv rfl
  · exact KeepsRuns.refl f

theorem handleInjectFault_keepsRuns (d : Draws) :
    KeepsRuns f (settle (handleInjectFault d f vehicleId payload)) := by
  unfold handleInjectFault
  split
  · exact KeepsRuns.refl f
  · split
    · exact KeepsRuns.refl f
    · split
      · exact KeepsRuns.refl f
      · split
        · exact KeepsRuns.refl f
        · split
          · exact KeepsRuns.refl f
          · rename_i v hv
            exact put_keepsRuns hv rfl
  · exact KeepsRuns.refl f

/-- No control binds, unbinds or rebinds a vehicle, nor writes its lifecycle state. -/
theorem applyControl_keepsRuns (env : Env) (f : FleetState) (vehicleId knob : String)
    (payload : Payload) : KeepsRuns f (applyControl env f vehicleId knob payload) := by
  unfold applyControl
  split
  · exact KeepsRuns.refl f
  · unfold handler?
    split
    · exact KeepsRuns.refl f
    · rename_i handler hh
      split at hh <;> cases hh
      · exact handleSwitch_keepsRuns fun on => mutate_keepsRuns f vehicleId fun _ => rfl
      · exact handleSwitch_keepsRuns fun on => mutate_keepsRuns f vehicleId fun _ => rfl
      · exact handleSpeed_keepsRuns
      · exact handleOccupancy_keepsRuns
      · exact handleDwell_keepsRuns
      · exact handleJumpToTerminal_keepsRuns env.file
      · exact handleSetProgress_keepsRuns env.geo env.file
      · exact handleInjectFault_keepsRuns env.draws

theorem globalStartRun_keepsRuns (now : ℚ) (f : FleetState) (payload : Payload) :
    KeepsRuns f (globalStartRun now f payload) := by
  unfold globalStartRun
  split
  · split
    · exact KeepsRuns.refl f
    · exact mutate_keepsRuns f _ fun _ => rfl
  · exact KeepsRuns.refl f

end Control

end DatabusSim
