import DatabusSim.Domain.Terminal

/-!
# The way to the terminal, in floats

`step_vehicle` with a rounding `rnd` that every arithmetic result passes through. Without one it is
the `stepVehicle` of exact arithmetic. With that of floats the sum of the steps falls behind what
it is exactly, and a vehicle can need one advance more than the distance asks for.
-/

namespace DatabusSim.Kinematics.Rounded

open Transition

/-- The binary exponent of a positive number. -/
def exponent (q : ℚ) : Int :=
  let e := (Nat.log2 q.num.natAbs : Int) - Nat.log2 q.den
  if (2 : ℚ) ^ (e.toNat) ≤ q * 2 ^ ((-e).toNat) then e else e - 1

/-- The nearest float, a tie going to the even significand; 53 bits, with an exponent that is far
from the ends of its range. -/
def float64 (q : ℚ) : ℚ :=
  if q = 0 then 0
  else
    let e := exponent |q| - 52
    let scaled := q * 2 ^ ((-e).toNat) / 2 ^ e.toNat
    roundHalfEven scaled * 2 ^ e.toNat / 2 ^ ((-e).toNat)

/-- A third of 1, and three times the float of a tenth. -/
example : float64 (1 / 3) = 6004799503160661 / 2 ^ 54 ∧
    float64 (3 * float64 (1 / 10)) = 5404319552844596 / 2 ^ 54 := by
  decide +kernel

/-! ## The step -/

section Step

variable (rnd : ℚ → ℚ)

/-- `Shape.total_dist_m`. -/
def totalDistM (shape : Shape) : Except PyExc ℚ := do
  let p ← lastPoint shape.points
  pure (rnd (p.distKm * 1000))

/-- `interpolate`. -/
def interpolate (geo : Geo) (shape : Shape) (progressM : ℚ) : Except PyExc (ℚ × ℚ × ℚ) := do
  let pts := shape.points
  let last ← lastPoint pts
  let progressKm := max 0 (min (rnd (progressM / 1000)) last.distKm)
  let lo ← bisect pts progressKm pts.length 0 (pts.length - 1)
  let i := max 1 lo
  let p1 ← pointAt pts (i - 1)
  let p2 ← pointAt pts i
  let span := max (rnd (p2.distKm - p1.distKm)) (rnd (1 / 10 ^ 9))
  let t := rnd (rnd (progressKm - p1.distKm) / span)
  pure (rnd (p1.lat + rnd (rnd (p2.lat - p1.lat) * t)),
    rnd (p1.lon + rnd (rnd (p2.lon - p1.lon) * t)), geo.bearingDeg p1.lat p1.lon p2.lat p2.lon)

/-- The speed of an advancing vehicle. -/
def nextSpeed (d : Draws) (v : Vehicle) (kin : Kin) : ℚ :=
  match v.speedOverride with
  | some s => s
  | none => max minSpeed (min maxSpeed (rnd (kin.speed + d.drift)))

/-- Rules 3 to 5 of `step_vehicle`. -/
def advance (geo : Geo) (postRunIdleS : ℚ) (d : Draws) (v : Vehicle) (kin : Kin) (dt : ℚ)
    (shape : Shape) (stops : List Stop) : Except (Raised Vehicle) Vehicle :=
  let kin := { kin with speed := nextSpeed rnd d v kin }
  let v := { v with progressM := rnd (v.progressM + rnd (kin.speed * dt)), kin := some kin }
  match totalDistM rnd shape with
  | .error e => .error ⟨e, v⟩
  | .ok total =>
      if total ≤ v.progressM then
        .ok { v with
          progressM := total
          moving := false
          kin := some { kin with postRunIdleRemainingS := postRunIdleS } }
      else
        let kin := { kin with
          occupancyPct := max 0 (min 100 (kin.occupancyPct + d.occupancyDrift)) }
        match interpolate rnd geo shape v.progressM with
        | .error e => .error ⟨e, { v with kin := some kin }⟩
        | .ok (lat, lon, _) =>
            match nearestStop geo stops lat lon with
            | some (ns, dist) =>
                if dist < stopRadiusM ∧ !kin.lastStopId.isStr ns.stopId then
                  .ok { v with kin := some { kin with
                    lastStopId := .str ns.stopId
                    stopSequence := kin.stopSequence + 1
                    dwellRemaining := stopDwellTicks } }
                else .ok { v with kin := some kin }
            | none => .ok { v with kin := some kin }

/-- `step_vehicle`. -/
def stepVehicle (geo : Geo) (postRunIdleS : ℚ) (d : Draws) (v : Vehicle) (dt : ℚ)
    (shape : Shape) (stops : List Stop) : Except (Raised Vehicle) Vehicle :=
  let kin := initKin d v
  if 0 < kin.dwellRemaining then
    .ok { v with kin := some { kin with dwellRemaining := kin.dwellRemaining - 1 } }
  else if !v.moving then
    if 0 < kin.postRunIdleRemainingS then
      let remaining := max 0 (rnd (kin.postRunIdleRemainingS - dt))
      .ok { v with
        kin := some { kin with postRunIdleRemainingS := remaining }
        transmitting := if remaining = 0 then false else v.transmitting }
    else .ok { v with kin := some kin }
  else advance rnd geo postRunIdleS d v kin dt shape stops

/-- Calls of `step_vehicle`, one for the draws of each tick. -/
def drive (geo : Geo) (postRunIdleS dt : ℚ) (shape : Shape) (stops : List Stop) :
    System Vehicle Draws :=
  fun v d => (stepVehicle rnd geo postRunIdleS d v dt shape stops).toOption

end Step

/-- Where nothing is rounded, this is the step of exact arithmetic. -/
theorem stepVehicle_exact (geo : Geo) (postRunIdleS : ℚ) (d : Draws) (v : Vehicle) (dt : ℚ)
    (shape : Shape) (stops : List Stop) :
    stepVehicle id geo postRunIdleS d v dt shape stops =
      Kinematics.stepVehicle geo postRunIdleS d v dt shape stops := rfl

theorem drive_exact (geo : Geo) (postRunIdleS dt : ℚ) (shape : Shape) (stops : List Stop) :
    drive id geo postRunIdleS dt shape stops =
      Kinematics.drive geo postRunIdleS dt shape stops := rfl

/-! ## One advance too many -/

/-- Eleven metres along a meridian. -/
def elevenMetres : Shape :=
  ⟨"eleven", [⟨float64 9.935, float64 (-84.053), 0⟩,
    ⟨float64 9.9351, float64 (-84.053), float64 0.0111⟩]⟩

/-- A stop every two metres of it. -/
def twoMetreStops : List Stop :=
  [⟨"s1", "", float64 9.93502, float64 (-84.053)⟩, ⟨"s2", "", float64 9.93504, float64 (-84.053)⟩,
    ⟨"s3", "", float64 9.93506, float64 (-84.053)⟩, ⟨"s4", "", float64 9.93508, float64 (-84.053)⟩,
    ⟨"s5", "", float64 9.9351, float64 (-84.053)⟩]

/-- The steps of a vehicle on it, each 0.74 s long. -/
def elevenDrive : System Vehicle Draws :=
  drive float64 meridianGeo 30 (float64 0.74) elevenMetres twoMetreStops

/-- After twenty calls, five of which have moved it, the vehicle has still a step to go. -/
theorem elevenDrive_underWay :
    (elevenDrive.after departing (fun _ => lowestDraws) 20).map Vehicle.moving = some true := by
  decide +kernel

/-- Five steps at the lowest speed make up the distance. -/
theorem elevenMetres_advances :
    ⌈(float64 11.1 - departing.progressM) / (minSpeed * float64 0.74)⌉₊ ≤ 5 :=
  Nat.ceil_le.mpr (by decide +kernel)

/-- In floats a vehicle under way need not arrive within the calls that are enough where nothing is
rounded. -/
theorem float_drive_late :
    2 ≤ elevenMetres.points.length ∧ totalDistM float64 elevenMetres = .ok (float64 11.1) ∧
      departing.moving = true ∧ departing.speedOverride = none ∧
      ¬ ∃ k ≤ (dwellOf departing).toNat +
          4 * max 1 ⌈(float64 11.1 - departing.progressM) / (minSpeed * float64 0.74)⌉₊,
        ∀ n, k ≤ n → ∃ v', elevenDrive.after departing (fun _ => lowestDraws) n = some v' ∧
          v'.moving = false ∧ v'.progressM = float64 11.1 := by
  have htotal : float64 (float64 0.0111 * 1000) = float64 11.1 := by decide +kernel
  refine ⟨le_rfl, congrArg Except.ok htotal, rfl, rfl, ?_⟩
  rintro ⟨k, hk, harrived⟩
  have hadvances := elevenMetres_advances
  have hdwell : (dwellOf departing).toNat = 0 := rfl
  obtain ⟨v', hv', hstill, -⟩ := harrived 20 (by omega)
  have hmoving := elevenDrive_underWay
  rw [hv', Option.map_some, hstill] at hmoving
  cases hmoving

end DatabusSim.Kinematics.Rounded
