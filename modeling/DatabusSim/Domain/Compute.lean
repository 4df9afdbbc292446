import Mathlib.Algebra.Order.Field.Rat
import DatabusSim.Domain.Geo

/-!
# The progression oracle

`compute_stop_status`: the stop status of a vehicle from its true along-track
progress, its observed position and the ordered stops of its shape.
-/

namespace DatabusSim

/-- `current_status`. -/
inductive CurrentStatus where
  | stoppedAt
  | incomingAt
  | inTransitTo
  deriving DecidableEq, Repr

/-- The progression payload; the two optional keys are absent or present together
with their value. -/
structure StopStatus where
  currentStatus : CurrentStatus
  currentStopSequence : Option Int := none
  stopId : Option String := none
  deriving DecidableEq

/-- A stop of a shape's progression geometry. -/
structure ShapeStop where
  stopId : String
  stopSequence : Int
  lat : ℚ
  lon : ℚ
  progressM : ℚ

namespace Compute

/-- Within this radius a vehicle is at a stop (`STOP_RADIUS_M`). -/
def stopRadiusM : ℚ := 20

/-- Within this radius a vehicle is approaching a stop (`INCOMING_AT_RADIUS_M`). -/
def incomingAtRadiusM : ℚ := 50

/-- Speeds up to this one count as standing (`STATIONARY_SPEED_MPS`). -/
def stationarySpeedMps : ℚ := 1 / 2

/-- `_fallback`: in transit, with the stop of the previous payload. -/
def fallback (prevState : Option StopStatus) : StopStatus where
  currentStatus := .inTransitTo
  currentStopSequence := prevState.bind (·.currentStopSequence)
  stopId := prevState.bind (·.stopId)

/-- `_pick_upcoming_stop`: the first stop at or ahead of the vehicle, else the
last one. -/
def pickUpcomingStop (stops : List ShapeStop) (progressM : ℚ) : Option ShapeStop :=
  match stops.find? fun s => decide (progressM ≤ s.progressM) with
  | some s => some s
  | none => stops.getLast?

/-- The radius rules of `_compute_core`. -/
def radiusStatus (progressM distM : ℚ) (candidate : ShapeStop) (speed : Option ℚ) :
    CurrentStatus :=
  if distM ≤ stopRadiusM ∧ (speed.all fun v => decide (v ≤ stationarySpeedMps)) then .stoppedAt
  else if distM ≤ incomingAtRadiusM ∧ progressM < candidate.progressM then .incomingAt
  else .inTransitTo

/-- The monotonic guard of `_compute_core`: never a sequence below the last one. -/
def guardSequence (candidate : ShapeStop) (prevState : Option StopStatus) : Int × String :=
  match prevState with
  | some { currentStopSequence := some prevSeq, stopId := prevStop, .. } =>
      if candidate.stopSequence < prevSeq then (prevSeq, prevStop.getD candidate.stopId)
      else (candidate.stopSequence, candidate.stopId)
  | _ => (candidate.stopSequence, candidate.stopId)

/-- `compute_stop_status`. On records with all their fields nothing in
`_compute_core` raises, so the `except` clause is not taken. -/
def computeStopStatus (geo : Geo) (progressM observedLat observedLon : ℚ)
    (shapeStops : List ShapeStop) (speed : Option ℚ) (prevState : Option StopStatus) :
    StopStatus :=
  match pickUpcomingStop shapeStops progressM with
  | none => fallback prevState
  | some candidate =>
      let distM := geo.haversineM observedLat observedLon candidate.lat candidate.lon
      let chosen := guardSequence candidate prevState
      { currentStatus := radiusStatus progressM distM candidate speed
        currentStopSequence := some chosen.1
        stopId := some chosen.2 }

end Compute

end DatabusSim
