import DatabusSim.Domain.Fleet

/-!
# Vehicle kinematics

Shapes and their interpolation, `step_vehicle` and `build_vehicle_payloads`.
Both raise `IndexError` on a shape with fewer than two points, after they have
assigned some fields; a raise therefore comes with the vehicle as it was left.
-/

namespace DatabusSim

/-- A shape point: its coordinates and its cumulative distance in kilometres, three numbers. A
`null` among them, which `load_shapes` would keep, is left out. -/
structure ShapePoint where
  lat : ℚ
  lon : ℚ
  distKm : ℚ

structure Shape where
  shapeId : String
  points : List ShapePoint

/-- An entry of the global stops list, with its coordinates. -/
structure Stop where
  stopId : String
  name : String
  lat : ℚ
  lon : ℚ

/-- The random values one vehicle may draw in one tick, each in the range its
call asks for. -/
structure Draws where
  /-- `random.uniform(MIN_SPEED, MAX_SPEED)` of `_init_kin`. -/
  initSpeed : ℚ
  initSpeed_mem : 3 ≤ initSpeed ∧ initSpeed ≤ 12
  /-- `random.randint(20, 70)` of `_init_kin`. -/
  initOccupancy : Int
  initOccupancy_mem : 20 ≤ initOccupancy ∧ initOccupancy ≤ 70
  /-- `random.uniform(-1.0, 1.0)`. -/
  drift : ℚ
  drift_mem : -1 ≤ drift ∧ drift ≤ 1
  /-- `random.randint(-4, 4)`. -/
  occupancyDrift : Int
  occupancyDrift_mem : -4 ≤ occupancyDrift ∧ occupancyDrift ≤ 4
  /-- `random.randint(1, 100)` of the drop-rate check. -/
  drop : Int
  drop_mem : 1 ≤ drop ∧ drop ≤ 100

namespace Kinematics

def minSpeed : ℚ := 3
def maxSpeed : ℚ := 12
def stopDwellTicks : Int := 3
def stopRadiusM : ℚ := 20

/-- `pts[i]`. -/
def pointAt (points : List ShapePoint) (i : Nat) : Except PyExc ShapePoint :=
  match points[i]? with
  | some p => .ok p
  | none => .error (.indexError "list index out of range")

/-- `pts[-1]`. -/
def lastPoint (points : List ShapePoint) : Except PyExc ShapePoint :=
  match points.getLast? with
  | some p => .ok p
  | none => .error (.indexError "list index out of range")

/-- `Shape.total_dist_m`. -/
def totalDistM (shape : Shape) : Except PyExc ℚ := do
  let p ← lastPoint shape.points
  pure (p.distKm * 1000)

/-- The `while lo < hi` loop of `interpolate`; each turn shrinks `hi - lo`, so the
number of points is fuel enough. -/
def bisect (points : List ShapePoint) (progressKm : ℚ) : Nat → Nat → Nat → Except PyExc Nat
  | 0, lo, _ => .ok lo
  | fuel + 1, lo, hi =>
      if lo < hi then do
        let mid := (lo + hi) / 2
        let p ← pointAt points mid
        if p.distKm < progressKm then bisect points progressKm fuel (mid + 1) hi
        else bisect points progressKm fuel lo mid
      else .ok lo

/-- `interpolate`: latitude, longitude and bearing at a progress. -/
def interpolate (geo : Geo) (shape : Shape) (progressM : ℚ) : Except PyExc (ℚ × ℚ × ℚ) := do
  let pts := shape.points
  let last ← lastPoint pts
  let progressKm := max 0 (min (progressM / 1000) last.distKm)
  let lo ← bisect pts progressKm pts.length 0 (pts.length - 1)
  let i := max 1 lo
  let p1 ← pointAt pts (i - 1)
  let p2 ← pointAt pts i
  let span := max (p2.distKm - p1.distKm) (1 / 10 ^ 9)
  let t := (progressKm - p1.distKm) / span
  pure (p1.lat + (p2.lat - p1.lat) * t, p1.lon + (p2.lon - p1.lon) * t,
    geo.bearingDeg p1.lat p1.lon p2.lat p2.lon)

/-- `_nearest_stop`: the first of the stops at the least distance. -/
def nearestStop (geo : Geo) (stops : List Stop) (lat lon : ℚ) : Option (Stop × ℚ) :=
  stops.foldl (fun best s =>
    let d := geo.haversineM lat lon s.lat s.lon
    match best with
    | some (_, bestD) => if d < bestD then some (s, d) else best
    | none => some (s, d)) none

/-- The scratch space `_init_kin` leaves: a filled one is kept. -/
def initKin (d : Draws) (v : Vehicle) : Kin :=
  v.kin.getD { speed := d.initSpeed, occupancyPct := d.initOccupancy }

/-- `_get_shape`: the bound shape, or the default one when none is bound. -/
def shapeIdOf (v : Vehicle) : String :=
  match v.boundShapeId with
  | some s => if s = "" then v.defaultShapeId else s
  | none => v.defaultShapeId

def getShape (v : Vehicle) (shapes : Dict String Shape) : Except PyExc Shape :=
  match shapes.get? (shapeIdOf v) with
  | some shape => .ok shape
  | none => .error (.keyError "" (some (.str (shapeIdOf v))))

/-- The speed of an advancing vehicle: the override, or the drifted speed within
its bounds. -/
def nextSpeed (d : Draws) (v : Vehicle) (kin : Kin) : ℚ :=
  match v.speedOverride with
  | some s => s
  | none => max minSpeed (min maxSpeed (kin.speed + d.drift))

/-- Rules 3 to 5 of `step_vehicle`, for a moving vehicle that does not dwell. -/
def advance (geo : Geo) (postRunIdleS : ℚ) (d : Draws) (v : Vehicle) (kin : Kin) (dt : ℚ)
    (shape : Shape) (stops : List Stop) : Except (Raised Vehicle) Vehicle :=
  -- 3. advance
  let kin := { kin with speed := nextSpeed d v kin }
  let v := { v with progressM := v.progressM + kin.speed * dt, kin := some kin }
  match totalDistM shape with
  | .error e => .error ⟨e, v⟩
  | .ok total =>
      -- 4. the terminal: stop there and start the idle countdown
      if total ≤ v.progressM then
        .ok { v with
          progressM := total
          moving := false
          kin := some { kin with postRunIdleRemainingS := postRunIdleS } }
      -- 5. drift the occupancy, and dwell on entering a stop's zone
      else
        let kin := { kin with
          occupancyPct := max 0 (min 100 (kin.occupancyPct + d.occupancyDrift)) }
        match interpolate geo shape v.progressM with
        | .error e => .error ⟨e, { v with kin := some kin }⟩
        | .ok (lat, lon, _) =>
            match nearestStop geo stops lat lon with
            | some (ns, dist) =>
                if dist < stopRadiusM ∧ !kin.lastStopId.isStr ns.stopId then
                  .ok { v with kin := some { kin with
                    lastStopId := .str ns.stopId
                    stopSequence := kin.stopSequence + 1
                    dwellRemaining := stopDwellTicks } }
                else .ok { v with kin := some kin }
            | none => .ok { v with kin := some kin }

/-- `step_vehicle`. -/
def stepVehicle (geo : Geo) (postRunIdleS : ℚ) (d : Draws) (v : Vehicle) (dt : ℚ)
    (shape : Shape) (stops : List Stop) : Except (Raised Vehicle) Vehicle :=
  let kin := initKin d v
  -- 1. dwelling: count down and stand
  if 0 < kin.dwellRemaining then
    .ok { v with kin := some { kin with dwellRemaining := kin.dwellRemaining - 1 } }
  -- 2. not moving: the idle countdown, if one is running
  else if !v.moving then
    if 0 < kin.postRunIdleRemainingS then
      let remaining := max 0 (kin.postRunIdleRemainingS - dt)
      .ok { v with
        kin := some { kin with postRunIdleRemainingS := remaining }
        transmitting := if remaining = 0 then false else v.transmitting }
    else .ok { v with kin := some kin }
  else advance geo postRunIdleS d v kin dt shape stops

/-! ## Payloads -/

/-- The position payload; `malformed` removes its speed. -/
structure Position where
  timestamp : Int
  latitude : ℚ
  longitude : ℚ
  bearing : ℚ
  speed : Option ℚ
  odometer : ℚ

structure Occupancy where
  timestamp : Int
  occupancyPercentage : Int

structure Payloads where
  position : Position
  occupancy : Occupancy

/-- `bool(fault and fault_ticks > 0)`. -/
def Kin.activeFault (kin : Kin) : Option FaultKind :=
  if 0 < kin.faultTicks then kin.fault else none

/-- The scratch space after a payload pair: an active fault has one tick less, and
is cleared with its last one. -/
def Kin.consumeFault (kin : Kin) : Kin :=
  match Kin.activeFault kin with
  | none => kin
  | some _ =>
      { kin with
        faultTicks := kin.faultTicks - 1
        fault := if kin.faultTicks - 1 ≤ 0 then none else kin.fault }

/-- `build_vehicle_payloads`: nothing for a vehicle that does not transmit. -/
def buildVehiclePayloads (geo : Geo) (d : Draws) (now : ℚ) (v : Vehicle) (shape : Shape) :
    Except (Raised Vehicle) (Vehicle × Option Payloads) :=
  if !v.transmitting then .ok (v, none)
  else
    let kin := initKin d v
    match interpolate geo shape v.progressM with
    | .error e => .error ⟨e, { v with kin := some kin }⟩
    | .ok (lat, lon, brg) =>
        let fault := Kin.activeFault kin
        let ts := if fault = some .staleTs then truncate now - 120 else truncate now
        let (lat, lon) := if fault = some .outOfBounds then (0, 0) else (lat, lon)
        let stopped := !v.moving ∨ 0 < kin.dwellRemaining
        let speed := if stopped then 0 else pyRound kin.speed 2
        .ok ({ v with kin := some (Kin.consumeFault kin) },
          some
            { position :=
                { timestamp := ts
                  latitude := pyRound lat 6
                  longitude := pyRound lon 6
                  bearing := pyRound brg 1
                  speed := if fault = some .malformed then none else some speed
                  odometer := pyRound v.progressM 1 }
              occupancy :=
                { timestamp := ts
                  occupancyPercentage := v.occupancyOverride.getD kin.occupancyPct } })

end Kinematics

end DatabusSim
