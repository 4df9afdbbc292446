import DatabusSim.Python
import DatabusSim.Domain.Compute

/-!
# The fleet

`Vehicle`, the kinematic scratch space `_kin`, and `FleetState`: the vehicles
of the roster by id. Every mutator requires its vehicle first, so on the
`KeyError` of `_require` nothing has changed.
-/

namespace DatabusSim

/-- The faults `inject_fault` accepts. -/
inductive FaultKind where
  | staleTs
  | outOfBounds
  | malformed
  deriving DecidableEq, Repr

/-- A run-lifecycle state as databus names it (`RunLifecycleStates.*.value`). -/
inductive LifecycleState where
  | initialized
  | requested
  | validated
  | confirmed
  | tracking
  | inProgress
  | noSignal
  | completed
  | cancelled
  | interrupted
  | shortTurned
  /-- Any other string or JSON scalar. -/
  | other (value : Key)
  /-- A JSON list or object in the place of the state. -/
  | unhashable
  deriving DecidableEq

/-- The state a string names, verbatim (note the spaces). -/
def LifecycleState.ofValue : String → LifecycleState
  | "Initialized" => .initialized
  | "Requested" => .requested
  | "Validated" => .validated
  | "Confirmed" => .confirmed
  | "Tracking" => .tracking
  | "In Progress" => .inProgress
  | "No Signal" => .noSignal
  | "Completed" => .completed
  | "Cancelled" => .cancelled
  | "Interrupted" => .interrupted
  | "Short Turned" => .shortTurned
  | name => .other (.str name)

/-- `state in RunBinder.TERMINAL_STATES`. -/
def LifecycleState.isTerminal : LifecycleState → Bool
  | .completed => true
  | .cancelled => true
  | .interrupted => true
  | .shortTurned => true
  | _ => false

/-- The scratch space `_kin` once `_init_kin` has filled it: its eight keys, and
the progression payload of the last tick when there was one. -/
structure Kin where
  speed : ℚ
  occupancyPct : Int
  dwellRemaining : Int := 0
  stopSequence : Int := 1
  lastStopId : PyVal := .str ""
  postRunIdleRemainingS : ℚ := 0
  fault : Option FaultKind := none
  faultTicks : Int := 0
  progressionPrev : Option StopStatus := none

/-- `dwell_override`: the body of the last `dwell` control. -/
structure DwellOverride where
  stopId : PyVal
  ticks : Int

/-- Per-vehicle simulator state. `kin` is `none` while `_kin` is empty. -/
structure Vehicle where
  vehicleId : String
  routeId : String
  defaultShapeId : String
  transmitting : Bool := false
  moving : Bool := false
  speedOverride : Option ℚ := none
  occupancyOverride : Option Int := none
  dwellOverride : Option DwellOverride := none
  boundRunId : Option String := none
  boundTripId : Option String := none
  boundShapeId : Option String := none
  terminalStopId : Option String := none
  lifecycleState : Option LifecycleState := none
  progressM : ℚ := 0
  lastStateChangeAt : Option ℚ := none
  kin : Option Kin := none

/-- What a vehicle shows of its run: the fields only the run binder writes. -/
structure RunView where
  run : Option String
  trip : Option String
  shape : Option String
  terminalStop : Option String
  lifecycle : Option LifecycleState
  deriving DecidableEq

def Vehicle.runView (v : Vehicle) : RunView where
  run := v.boundRunId
  trip := v.boundTripId
  shape := v.boundShapeId
  terminalStop := v.terminalStopId
  lifecycle := v.lifecycleState

/-- The vehicles by id, and how often the `on_change` subscribers were called. -/
structure FleetState where
  byId : Dict String Vehicle
  notified : Nat := 0

namespace FleetState

/-- `FleetState(vehicles)`. -/
def ofVehicles (vehicles : List Vehicle) : FleetState where
  byId := Dict.ofList (vehicles.map fun v => (v.vehicleId, v))

/-- The fixed roster (`_make_fleet`). -/
def makeFleet : List Vehicle :=
  [ { vehicleId := "unit-01", routeId := "bUCR_L1", defaultShapeId := "hacia_artes" },
    { vehicleId := "unit-02", routeId := "bUCR_L1", defaultShapeId := "hacia_educacion" },
    { vehicleId := "unit-03", routeId := "bUCR_L1", defaultShapeId := "desde_artes_sin_milla" },
    { vehicleId := "unit-04", routeId := "bUCR_L2", defaultShapeId := "desde_artes_con_milla" },
    { vehicleId := "unit-05", routeId := "bUCR_L2", defaultShapeId := "desde_educacion_con_milla" },
    { vehicleId := "unit-06", routeId := "bUCR_L2", defaultShapeId := "desde_artes_con_milla" } ]

def get (f : FleetState) (vehicleId : String) : Option Vehicle := f.byId.get? vehicleId

/-- The vehicle ids of `all()`, in roster order. -/
def ids (f : FleetState) : List String := f.byId.keys

/-- An assignment to a vehicle's attributes, with no notification. -/
def put (f : FleetState) (vehicleId : String) (v : Vehicle) : FleetState :=
  { f with byId := f.byId.set vehicleId v }

/-- `_notify`: every subscriber is called once. -/
def notify (f : FleetState) : FleetState := { f with notified := f.notified + 1 }

/-- The `KeyError` of an id that is not on the roster. -/
def unknownVehicle (vehicleId : String) : PyExc :=
  .keyError "Unknown vehicle: " (some (.str vehicleId))

/-- `_require`. -/
def require (f : FleetState) (vehicleId : String) : Except PyExc Vehicle :=
  match f.get vehicleId with
  | some v => .ok v
  | none => .error (unknownVehicle vehicleId)

/-- The shape of every mutator: require the vehicle, assign, notify. -/
def mutate (f : FleetState) (vehicleId : String) (change : Vehicle → Vehicle) :
    Except PyExc FleetState := do
  let v ← f.require vehicleId
  pure (f.put vehicleId (change v)).notify

/-! ## Controller-facing mutators -/

def setTransmitting (f : FleetState) (now : ℚ) (vehicleId : String) (on : Bool) :
    Except PyExc FleetState :=
  f.mutate vehicleId fun v => { v with transmitting := on, lastStateChangeAt := some now }

def setMoving (f : FleetState) (now : ℚ) (vehicleId : String) (on : Bool) :
    Except PyExc FleetState :=
  f.mutate vehicleId fun v => { v with moving := on, lastStateChangeAt := some now }

def setSpeedOverride (f : FleetState) (vehicleId : String) (value : Option ℚ) :
    Except PyExc FleetState :=
  f.mutate vehicleId fun v => { v with speedOverride := value }

def setOccupancyOverride (f : FleetState) (vehicleId : String) (value : Option Int) :
    Except PyExc FleetState :=
  f.mutate vehicleId fun v => { v with occupancyOverride := value }

/-- A dwell reaches the scratch space only where it is filled, and keeps the last
stop when it names none. -/
def setDwellOverride (f : FleetState) (vehicleId : String) (stopId : PyVal) (ticks : Int) :
    Except PyExc FleetState :=
  f.mutate vehicleId fun v =>
    { v with
      dwellOverride := some { stopId, ticks }
      kin := v.kin.map fun kin =>
        { kin with
          dwellRemaining := ticks
          lastStopId := if stopId.truthy then stopId else kin.lastStopId } }

/-! ## Binder-facing mutators -/

def bindRun (f : FleetState) (now : ℚ) (vehicleId runId tripId shapeId : String)
    (terminalStopId : Option String) : Except PyExc FleetState :=
  f.mutate vehicleId fun v =>
    { v with
      boundRunId := some runId
      boundTripId := some tripId
      boundShapeId := some shapeId
      terminalStopId := terminalStopId
      lastStateChangeAt := some now }

def unbindRun (f : FleetState) (now : ℚ) (vehicleId : String) : Except PyExc FleetState :=
  f.mutate vehicleId fun v =>
    { v with
      boundRunId := none
      boundTripId := none
      boundShapeId := none
      terminalStopId := none
      lifecycleState := none
      progressM := 0
      transmitting := false
      moving := false
      lastStateChangeAt := some now }

def setLifecycleState (f : FleetState) (now : ℚ) (vehicleId : String)
    (state : Option LifecycleState) : Except PyExc FleetState :=
  f.mutate vehicleId fun v => { v with lifecycleState := state, lastStateChangeAt := some now }

/-! ## Lookup after an assignment -/

@[simp] theorem get_put_self (f : FleetState) (vid : String) (v : Vehicle) :
    (f.put vid v).get vid = some v :=
  Dict.get?_set_self f.byId vid v

theorem get_put_ne (f : FleetState) {vid w : String} (v : Vehicle) (h : w ≠ vid) :
    (f.put vid v).get w = f.get w :=
  Dict.get?_set_ne f.byId v h

@[simp] theorem get_notify (f : FleetState) (vid : String) : f.notify.get vid = f.get vid := rfl

/-- What a mutator does: on the roster its vehicle is changed and the subscribers
are called; off the roster `_require` raises. -/
theorem mutate_eq (f : FleetState) (vid : String) (change : Vehicle → Vehicle) :
    f.mutate vid change =
      match f.get vid with
      | some v => .ok (f.put vid (change v)).notify
      | none => .error (unknownVehicle vid) := by
  unfold mutate require
  cases f.get vid <;> rfl

/-! ## The roster -/

/-- A vehicle of the roster that is assigned to keeps its place. -/
theorem ids_put {f : FleetState} {vid : String} (v : Vehicle) (h : (f.get vid).isSome) :
    (f.put vid v).ids = f.ids :=
  Dict.keys_set_of_mem f.byId v h

@[simp] theorem ids_notify (f : FleetState) : f.notify.ids = f.ids := rfl

theorem mem_ids_iff (f : FleetState) (vid : String) : vid ∈ f.ids ↔ (f.get vid).isSome :=
  Dict.mem_keys_iff f.byId vid

theorem get_of_mem_ids {f : FleetState} {vid : String} (h : vid ∈ f.ids) :
    ∃ v, f.get vid = some v :=
  Option.isSome_iff_exists.mp ((f.mem_ids_iff vid).mp h)

/-! ## The runs of the vehicles -/

/-- The same roster, and its vehicles show the same runs. -/
structure KeepsRuns (f f' : FleetState) : Prop where
  ids : f'.ids = f.ids
  runs : ∀ w, (f'.get w).map Vehicle.runView = (f.get w).map Vehicle.runView

theorem KeepsRuns.refl (f : FleetState) : KeepsRuns f f := ⟨rfl, fun _ => rfl⟩

theorem KeepsRuns.trans {f g h : FleetState} (h₁ : KeepsRuns f g) (h₂ : KeepsRuns g h) :
    KeepsRuns f h :=
  ⟨h₂.ids.trans h₁.ids, fun w => (h₂.runs w).trans (h₁.runs w)⟩

theorem put_keepsRuns {f : FleetState} {vid : String} {v v' : Vehicle}
    (hv : f.get vid = some v) (h : v'.runView = v.runView) : KeepsRuns f (f.put vid v') := by
  refine ⟨ids_put v' (by rw [hv]; rfl), fun w => ?_⟩
  by_cases hw : w = vid
  · rw [hw, get_put_self, hv, Option.map_some, Option.map_some, h]
  · rw [get_put_ne f v' hw]

theorem notify_keepsRuns {f : FleetState} {vid : String} {v v' : Vehicle}
    (hv : f.get vid = some v) (h : v'.runView = v.runView) :
    KeepsRuns f (f.put vid v').notify :=
  (put_keepsRuns hv h).trans ⟨rfl, fun _ => rfl⟩

theorem mutate_keepsRuns (f : FleetState) (vid : String) {change : Vehicle → Vehicle}
    (h : ∀ v, (change v).runView = v.runView) :
    KeepsRuns f (settle (raisingAt f (f.mutate vid change))) := by
  rw [mutate_eq]
  cases hv : f.get vid with
  | none => exact KeepsRuns.refl f
  | some v => exact notify_keepsRuns hv (h v)

end FleetState

end DatabusSim
