import DatabusSim.Static.RunHighlight
import DatabusSim.Static.Store

/-!
# The vehicles on the map

The callbacks of `static/app.js` put the vehicles that transmit on the map: one for each payload of
the fleet goes through all of them, one for each position moves a single marker. In whatever order
the two come, the markers are those of the latest fleet, each at its latest position, and no
marker is anywhere but at a position that was sent for its vehicle (`map_current`).
-/

namespace DatabusSim

open Transition History WsClient

/-- A marker of `_vehicleMarkers`, with the color and the angle of its icon. -/
structure VehicleMarker where
  latitude : ℚ
  longitude : ℚ
  color : Option String
  deg : Js

/-- The page: its store and its map. -/
structure MapPage where
  store : Store := {}
  markers : Dict String VehicleMarker := Dict.empty

namespace MapPage

section Handle

-- `Number(v)`, `none` where that is `NaN`
variable (number : Js → Option ℚ)

/-- The angle of `makeArrowIcon`. -/
def arrowDeg (bearing : Js) : Js :=
  if !bearing.isNullish && (number bearing).isSome then bearing else .num 0

/-- `updateMapVehicle` goes on to the marker. -/
def located (position : Js) : Bool :=
  position.truthy && !(position.prop "latitude").isNullish && !(position.prop "longitude").isNullish

/-- The marker of a position; Leaflet throws where a coordinate is no number. -/
def markerAt (vehicleId : String) (position : Js) : Option VehicleMarker := do
  let latitude ← number (position.prop "latitude")
  let longitude ← number (position.prop "longitude")
  pure ⟨latitude, longitude, RunHighlight.runColor vehicleId,
    arrowDeg number (position.prop "bearing")⟩

/-- `updateMapVehicle`, `none` where it throws. -/
def updateMapVehicle (markers : Dict String VehicleMarker) (vehicleId : String)
    (transmitting : Bool) (position : Js) : Option (Dict String VehicleMarker) :=
  if !transmitting then some (markers.erase vehicleId)
  else if located position then
    (markerAt number vehicleId position).map fun marker => markers.set vehicleId marker
  else some markers

/-- The vehicles of a fleet that its loops reach: to read a property of `null` throws. -/
def vehiclesOf (fleet : Js) : List Js :=
  match fleet.prop "vehicles" with
  | .arr vehicles => vehicles.takeWhile fun v => !v.isNullish
  | _ => []

/-- `v.vehicle_id`, where that is a text. -/
def vehicleId? (v : Js) : Option String :=
  match v.prop "vehicle_id" with
  | .str vehicleId => some vehicleId
  | _ => none

/-- `v.transmitting`, as a condition. -/
def transmits (v : Js) : Bool := (v.prop "transmitting").truthy

/-- `_state.telemetry[vehicleId]?.position`. -/
def positionOf (s : Store) (vehicleId : String) : Js :=
  (s.telemetryOf vehicleId "position").getD .undefined

/-- The loop of the fleet callback. It ends at the first vehicle for which it throws. -/
def placeVehicles (s : Store) : List Js → Dict String VehicleMarker → Dict String VehicleMarker
  | [], markers => markers
  | v :: rest, markers =>
      match vehicleId? v with
      | none => placeVehicles s rest markers
      | some vehicleId =>
          match updateMapVehicle number markers vehicleId (transmits v)
              (positionOf s vehicleId) with
          | none => markers
          | some markers => placeVehicles s rest markers

/-- The marker of one vehicle after a payload of its position. -/
def moveVehicle (s : Store) (vehicleId : String) (position : Js)
    (markers : Dict String VehicleMarker) : Dict String VehicleMarker :=
  match (vehiclesOf s.fleet).find? fun v => vehicleId? v = some vehicleId with
  | none => markers
  | some v => (updateMapVehicle number markers vehicleId (transmits v) position).getD markers

/-- What a callback does to the page. -/
def handle (p : MapPage) (topic : String) (payload : Js) (h : Handler) : MapPage where
  store := p.store.handle topic payload h
  markers :=
    match h with
    | .fleet =>
        if payload.isObject then placeVehicles number p.store (vehiclesOf payload) p.markers
        else p.markers
    | .telemetry =>
        match levels topic with
        | _ :: _ :: vehicleId :: leaf :: _ =>
            if String.ofList leaf = "position" then
              moveVehicle number p.store (String.ofList vehicleId) payload p.markers
            else p.markers
        | _ => p.markers
    | .navsat => p.markers
    | .schedule => p.markers

end Handle

/-! ## One vehicle -/

section Vehicle

variable {number : Js → Option ℚ}

/-- No callback throws for the position. -/
def Placeable (number : Js → Option ℚ) (position : Js) : Prop :=
  located position = true → ∀ vehicleId, (markerAt number vehicleId position).isSome

/-- The marker of a vehicle after `updateMapVehicle`, from the one before. -/
def shown (number : Js → Option ℚ) (vehicleId : String) (transmitting : Bool) (position : Js)
    (marker : Option VehicleMarker) : Option VehicleMarker :=
  if !transmitting then none
  else if located position then markerAt number vehicleId position
  else marker

theorem shown_shown (vehicleId : String) (transmitting : Bool) (position : Js)
    (marker : Option VehicleMarker) :
    shown number vehicleId transmitting position (shown number vehicleId transmitting position marker)
      = shown number vehicleId transmitting position marker := by
  unfold shown
  split
  · rfl
  · split <;> rfl

theorem updateMapVehicle_placeable (markers : Dict String VehicleMarker) (vehicleId : String)
    (transmitting : Bool) {position : Js} (h : Placeable number position) :
    ∃ markers', updateMapVehicle number markers vehicleId transmitting position = some markers' ∧
      ∀ j, markers'.get? j =
        if j = vehicleId then shown number vehicleId transmitting position (markers.get? j)
        else markers.get? j := by
  unfold updateMapVehicle shown
  cases transmitting with
  | false => exact ⟨_, rfl, fun j => Dict.get?_erase markers vehicleId j⟩
  | true =>
    cases hloc : located position with
    | false =>
      refine ⟨markers, rfl, fun j => ?_⟩
      simp
    | true =>
      obtain ⟨marker, hmarker⟩ := Option.isSome_iff_exists.mp (h hloc vehicleId)
      refine ⟨markers.set vehicleId marker, by simp [hmarker], fun j => ?_⟩
      rw [Dict.get?_set]
      simp [hmarker]

/-- The ids of the vehicles, those that have one. -/
def idsOf (vehicles : List Js) : List String := vehicles.filterMap vehicleId?

theorem find?_eq_none {vehicles : List Js} {vehicleId : String} (h : vehicleId ∉ idsOf vehicles) :
    vehicles.find? (fun v => vehicleId? v = some vehicleId) = none := by
  rw [List.find?_eq_none]
  intro v hv hid
  exact h (List.mem_filterMap.mpr ⟨v, hv, by simpa using hid⟩)

/-- The loop updates each vehicle of the fleet once. -/
theorem get?_placeVehicles {s : Store} (hplace : ∀ vehicleId, Placeable number (positionOf s vehicleId))
    {vehicles : List Js} (hids : (idsOf vehicles).Nodup) (markers : Dict String VehicleMarker)
    (j : String) :
    (placeVehicles number s vehicles markers).get? j =
      match vehicles.find? fun v => vehicleId? v = some j with
      | none => markers.get? j
      | some v => shown number j (transmits v) (positionOf s j) (markers.get? j) := by
  induction vehicles generalizing markers with
  | nil => rfl
  | cons v rest ih =>
    cases hid : vehicleId? v with
    | none =>
      have hrest : (idsOf rest).Nodup := by
        simpa [idsOf, hid] using hids
      have hfind : (v :: rest).find? (fun v => vehicleId? v = some j) =
          rest.find? fun v => vehicleId? v = some j := by
        rw [List.find?_cons]
        simp [hid]
      rw [placeVehicles, hid, hfind]
      exact ih hrest markers
    | some vehicleId =>
      have hcons : idsOf (v :: rest) = vehicleId :: idsOf rest := by
        simp [idsOf, hid]
      rw [hcons, List.nodup_cons] at hids
      obtain ⟨markers', hupdate, hget⟩ :=
        updateMapVehicle_placeable markers vehicleId (transmits v) (hplace vehicleId)
      simp only [placeVehicles, hid, hupdate]
      rw [ih hids.2 markers', hget, List.find?_cons]
      by_cases hj : j = vehicleId
      · subst hj
        rw [find?_eq_none hids.1]
        simp [hid]
      · have hne : ¬ vehicleId = j := fun h => hj h.symm
        simp [hid, hj, hne]

theorem get?_moveVehicle (s : Store) (vehicleId : String) {position : Js}
    (h : Placeable number position) (markers : Dict String VehicleMarker) (j : String) :
    (moveVehicle number s vehicleId position markers).get? j =
      match (vehiclesOf s.fleet).find? fun v => vehicleId? v = some vehicleId with
      | none => markers.get? j
      | some v =>
          if j = vehicleId then shown number vehicleId (transmits v) position (markers.get? j)
          else markers.get? j := by
  unfold moveVehicle
  cases (vehiclesOf s.fleet).find? fun v => vehicleId? v = some vehicleId with
  | none => rfl
  | some v =>
    obtain ⟨markers', hupdate, hget⟩ :=
      updateMapVehicle_placeable markers vehicleId (transmits v) h
    simp only [hupdate, Option.getD_some]
    exact hget j

/-- A marker is as it was, or it is the one that the position gives. -/
theorem updateMapVehicle_sourced {markers markers' : Dict String VehicleMarker}
    {vehicleId : String} {transmitting : Bool} {position : Js}
    (h : updateMapVehicle number markers vehicleId transmitting position = some markers')
    {j : String} {marker : VehicleMarker} (hj : markers'.get? j = some marker) :
    markers.get? j = some marker ∨
      j = vehicleId ∧ located position = true ∧
        markerAt number vehicleId position = some marker := by
  unfold updateMapVehicle at h
  split_ifs at h with hoff hloc
  · cases h
    rw [Dict.get?_erase] at hj
    split_ifs at hj
    exact .inl hj
  · obtain ⟨placed, hplaced, rfl⟩ := Option.map_eq_some_iff.mp h
    rw [Dict.get?_set] at hj
    split_ifs at hj with hid
    · cases hj
      exact .inr ⟨hid, hloc, hplaced⟩
    · exact .inl hj
  · cases h
    exact .inl hj

theorem placeVehicles_sourced {s : Store} {vehicles : List Js}
    {markers : Dict String VehicleMarker} {j : String} {marker : VehicleMarker}
    (h : (placeVehicles number s vehicles markers).get? j = some marker) :
    markers.get? j = some marker ∨
      located (positionOf s j) = true ∧ markerAt number j (positionOf s j) = some marker := by
  induction vehicles generalizing markers with
  | nil => exact .inl h
  | cons v rest ih =>
    unfold placeVehicles at h
    split at h
    · exact ih h
    · split at h
      · exact .inl h
      · rename_i vehicleId _ _ markers' hupdate
        rcases ih h with h | h
        · rcases updateMapVehicle_sourced hupdate h with h | ⟨rfl, hloc, hmarker⟩
          · exact .inl h
          · exact .inr ⟨hloc, hmarker⟩
        · exact .inr h

theorem moveVehicle_sourced {s : Store} {vehicleId : String} {position : Js}
    {markers : Dict String VehicleMarker} {j : String} {marker : VehicleMarker}
    (h : (moveVehicle number s vehicleId position markers).get? j = some marker) :
    markers.get? j = some marker ∨
      j = vehicleId ∧ located position = true ∧
        markerAt number vehicleId position = some marker := by
  unfold moveVehicle at h
  split at h
  · exact .inl h
  · rename_i v _
    cases hupdate : updateMapVehicle number markers vehicleId (transmits v) position with
    | none =>
      rw [hupdate] at h
      exact .inl h
    | some markers' =>
      rw [hupdate] at h
      exact updateMapVehicle_sourced hupdate h

end Vehicle

/-! ## The map over a run -/

section Run

variable (number : Js → Option ℚ) (text : Key → String) (display : Js → String)

/-- The page gets a group message. -/
def step : System MapPage GroupEvent := feedStep text display (handle number)

/-- The page once it is connected. -/
def greeted (now : String) (fleet : Option PyVal) (scheduler : Option Scheduler)
    (navsat : List PyVal) : Except PyExc MapPage :=
  feedGreeting text display (handle number) {} now fleet scheduler navsat

/-- The ids of a fleet are distinct, and no callback throws for a position. -/
def Plain : GroupEvent → Prop
  | .fleet payload => (idsOf (vehiclesOf (parsed text payload))).Nodup
  | .telemetry _ leaf payload => leaf = "position" → Placeable number (parsed text payload)
  | _ => True

/-- Every marker of the fleet is where another update would leave it. -/
structure Placed (p : MapPage) : Prop where
  placeable (vehicleId) : Placeable number (positionOf p.store vehicleId)
  ids : (idsOf (vehiclesOf p.store.fleet)).Nodup
  settled (vehicleId v) :
    (vehiclesOf p.store.fleet).find? (fun v => vehicleId? v = some vehicleId) = some v →
      shown number vehicleId (transmits v) (positionOf p.store vehicleId)
        (p.markers.get? vehicleId) = p.markers.get? vehicleId

variable {number text display}

theorem placed_start : Placed number {} where
  placeable vehicleId h := by cases h
  ids := List.nodup_nil
  settled vehicleId v h := by cases h

theorem store_effect (p : MapPage) (ev : GroupEvent) :
    (effect text (handle number) p ev).store = effect text Store.handle p.store ev := by
  cases ev with
  | telemetry vehicleId leaf payload =>
    simp only [effect]
    split <;> rfl
  | _ => rfl

/-- What is neither a fleet nor a position leaves the map as it is. -/
theorem Placed.same {p p' : MapPage} (h : Placed number p) (hfleet : p'.store.fleet = p.store.fleet)
    (hposition : ∀ vehicleId, positionOf p'.store vehicleId = positionOf p.store vehicleId)
    (hmarkers : p'.markers = p.markers) : Placed number p' where
  placeable vehicleId := by
    rw [hposition]
    exact h.placeable vehicleId
  ids := by
    rw [hfleet]
    exact h.ids
  settled vehicleId v hv := by
    rw [hfleet] at hv
    rw [hposition, hmarkers]
    exact h.settled vehicleId v hv

theorem placed_fleet {p : MapPage} (h : Placed number p) {payload : Js}
    (hids : (idsOf (vehiclesOf payload)).Nodup) (topic : String) :
    Placed number (p.handle number topic payload .fleet) := by
  cases hobj : payload.isObject with
  | false =>
    have hstore : p.store.handle topic payload .fleet = p.store := by
      simp [Store.handle, hobj]
    apply h.same
    · simp [handle, hstore]
    · intro vehicleId
      simp [handle, hstore]
    · simp [handle, hobj]
  | true =>
    have hstore : p.store.handle topic payload .fleet = { p.store with fleet := payload } := by
      simp [Store.handle, hobj]
    have hmarkers : (p.handle number topic payload .fleet).markers =
        placeVehicles number p.store (vehiclesOf payload) p.markers := by
      simp [handle, hobj]
    have hpage : (p.handle number topic payload .fleet).store = { p.store with fleet := payload } :=
      hstore
    refine ⟨fun vehicleId => ?_, ?_, fun vehicleId v hv => ?_⟩
    · rw [hpage]
      exact h.placeable vehicleId
    · rw [hpage]
      exact hids
    · rw [hpage] at hv
      rw [hmarkers, get?_placeVehicles h.placeable hids, hv, hpage]
      exact shown_shown vehicleId (transmits v) (positionOf p.store vehicleId) _

/-- A telemetry leaf moves the marker of its vehicle if it is a position. -/
theorem telemetry_page (p : MapPage) {vehicleId leaf : String} (hv : '/' ∉ vehicleId.toList)
    (hl : '/' ∉ leaf.toList) (payload : Js) :
    (∀ j, positionOf (p.handle number (vehicleTopic vehicleId leaf) payload .telemetry).store j =
        if j = vehicleId ∧ leaf = "position" then payload else positionOf p.store j) ∧
      (p.handle number (vehicleTopic vehicleId leaf) payload .telemetry).markers =
        if leaf = "position" then moveVehicle number p.store vehicleId payload p.markers
        else p.markers := by
  have hstore : (p.handle number (vehicleTopic vehicleId leaf) payload .telemetry).store =
      p.store.setTelemetry vehicleId leaf payload := Store.handle_telemetry p.store payload hv hl
  have hlevels := levels_vehicleTopic vehicleId leaf
  rw [levels_named hv, levels_named hl] at hlevels
  refine ⟨fun j => ?_, by simp [handle, hlevels]⟩
  rw [hstore]
  unfold positionOf
  rw [Store.telemetryOf_setTelemetry]
  by_cases hj : vehicleId = j ∧ leaf = "position"
  · rw [if_pos hj, if_pos ⟨hj.1.symm, hj.2⟩]
    rfl
  · rw [if_neg hj, if_neg fun h => hj ⟨h.1.symm, h.2⟩]

theorem placed_telemetry {p : MapPage} (h : Placed number p) {vehicleId leaf : String}
    (hv : '/' ∉ vehicleId.toList) (hl : '/' ∉ leaf.toList) {payload : Js}
    (hplace : leaf = "position" → Placeable number payload) :
    Placed number (p.handle number (vehicleTopic vehicleId leaf) payload .telemetry) := by
  obtain ⟨hposition, hmarkers⟩ := @telemetry_page number p vehicleId leaf hv hl payload
  have hfleet : (p.handle number (vehicleTopic vehicleId leaf) payload .telemetry).store.fleet =
      p.store.fleet := by
    have hstore := Store.handle_telemetry p.store payload hv hl
    exact (congrArg Store.fleet hstore).trans rfl
  by_cases hleaf : leaf = "position"
  · refine ⟨fun j => ?_, ?_, fun j v hfind => ?_⟩
    · rw [hposition]
      split
      · exact hplace hleaf
      · exact h.placeable j
    · rw [hfleet]
      exact h.ids
    · rw [hfleet] at hfind
      rw [hmarkers, if_pos hleaf, get?_moveVehicle p.store vehicleId (hplace hleaf), hposition]
      by_cases hj : j = vehicleId
      · subst hj
        have hfind' : (vehiclesOf p.store.fleet).find? (fun v => vehicleId? v = some j) = some v :=
          hfind
        rw [if_pos ⟨rfl, hleaf⟩, hfind']
        simp only [if_true]
        exact shown_shown j (transmits v) payload _
      · rw [if_neg fun h => hj h.1]
        have hsettled := h.settled j v hfind
        cases (vehiclesOf p.store.fleet).find? fun v => vehicleId? v = some vehicleId with
        | none => exact hsettled
        | some w =>
          simp only [if_neg hj]
          exact hsettled
  · apply h.same
    · exact hfleet
    · intro j
      rw [hposition, if_neg fun h => hleaf h.2]
    · rw [hmarkers, if_neg hleaf]

theorem placed_effect {p : MapPage} {ev : GroupEvent} (h : Placed number p)
    (hev : Plain number text ev) : Placed number (effect text (handle number) p ev) := by
  cases ev with
  | unknown kind => exact h
  | schedule payload => exact ⟨h.placeable, h.ids, h.settled⟩
  | navsat payload =>
    have hstore : (effect text (handle number) p (.navsat payload)).store =
        if (parsed text payload).isArray then { p.store with navsat := parsed text payload }
        else p.store := rfl
    apply h.same
    · rw [hstore]
      split <;> rfl
    · intro vehicleId
      rw [hstore]
      split <;> rfl
    · rfl
  | fleet payload => exact placed_fleet h hev "sim/state/fleet"
  | telemetry vehicleId leaf payload =>
    by_cases hnamed : Named vehicleId ∧ Named leaf
    · rw [effect, if_pos hnamed]
      exact placed_telemetry h hnamed.1.2 hnamed.2.2 hev
    · rw [effect, if_neg hnamed]
      exact h

/-- The page goes through the messages as its store alone does, and keeps its map placed. -/
theorem run_placed {events : List GroupEvent} {p p' : MapPage}
    (hrun : (step number text display).run p events = some p') (h : Placed number p)
    (hplain : ∀ ev ∈ events, Plain number text ev) :
    (feedStep text display Store.handle).run p.store events = some p'.store ∧ Placed number p' := by
  induction events generalizing p with
  | nil =>
    cases hrun
    exact ⟨rfl, h⟩
  | cons ev events ih =>
    obtain ⟨m, hm, hrun⟩ := run_cons_some.mp hrun
    have heq : m = effect text (handle number) p ev := feedStep_some text display _ hm
    have hstore : feedStep text display Store.handle p.store ev = some m.store := by
      have hm' := hm
      unfold step at hm'
      rw [feedStep_eq] at hm' ⊢
      cases hframe : (fleetUpdate ev).toOption with
      | none =>
        rw [hframe] at hm'
        cases hm'
      | some frame =>
        rw [heq, store_effect]
        rfl
    have hm : Placed number m := by
      rw [heq]
      exact placed_effect h (hplain ev List.mem_cons_self)
    obtain ⟨hrest, hplaced⟩ := ih hrun hm fun ev hev => hplain ev (List.mem_cons_of_mem _ hev)
    exact ⟨run_cons_some.mpr ⟨m.store, hstore, hrest⟩, hplaced⟩

/-! ### Where the markers come from -/

/-- The position was sent for the vehicle. -/
def Sent (text : Key → String) (events : List GroupEvent) (vehicleId : String) (position : Js) :
    Prop :=
  ∃ payload, .telemetry vehicleId "position" payload ∈ events ∧ parsed text payload = position

theorem Sent.snoc {events : List GroupEvent} {vehicleId : String} {position : Js}
    (h : Sent text events vehicleId position) (ev : GroupEvent) :
    Sent text (events ++ [ev]) vehicleId position := by
  obtain ⟨payload, hmem, hposition⟩ := h
  exact ⟨payload, List.mem_append_left _ hmem, hposition⟩

/-- The positions in the store were sent, and every marker is that of a position that was. -/
structure Sourced (number : Js → Option ℚ) (text : Key → String) (events : List GroupEvent)
    (p : MapPage) : Prop where
  position (vehicleId) : located (positionOf p.store vehicleId) = true →
    Sent text events vehicleId (positionOf p.store vehicleId)
  marker (vehicleId marker) : p.markers.get? vehicleId = some marker →
    ∃ position, Sent text events vehicleId position ∧ located position = true ∧
      markerAt number vehicleId position = some marker

theorem sourced_start : Sourced number text [] {} where
  position vehicleId h := by cases h
  marker vehicleId marker h := by cases h

/-- What is no position leaves the sources as they are. -/
theorem Sourced.same {events : List GroupEvent} {p p' : MapPage} (h : Sourced number text events p)
    (ev : GroupEvent)
    (hposition : ∀ vehicleId, positionOf p'.store vehicleId = positionOf p.store vehicleId)
    (hmarkers : ∀ vehicleId marker, p'.markers.get? vehicleId = some marker →
      p.markers.get? vehicleId = some marker ∨ located (positionOf p.store vehicleId) = true ∧
        markerAt number vehicleId (positionOf p.store vehicleId) = some marker) :
    Sourced number text (events ++ [ev]) p' where
  position vehicleId hloc := by
    rw [hposition] at hloc ⊢
    exact (h.position vehicleId hloc).snoc ev
  marker vehicleId marker hmarker := by
    rcases hmarkers vehicleId marker hmarker with hmarker | ⟨hloc, hmarker⟩
    · obtain ⟨position, hsent, hshown⟩ := h.marker vehicleId marker hmarker
      exact ⟨position, hsent.snoc ev, hshown⟩
    · exact ⟨_, (h.position vehicleId hloc).snoc ev, hloc, hmarker⟩

theorem sourced_telemetry {events : List GroupEvent} {p : MapPage}
    (h : Sourced number text events p) {vehicleId leaf : String} (hv : '/' ∉ vehicleId.toList)
    (hl : '/' ∉ leaf.toList) (payload : PyVal) :
    Sourced number text (events ++ [.telemetry vehicleId leaf payload])
      (p.handle number (vehicleTopic vehicleId leaf) (parsed text payload) .telemetry) := by
  obtain ⟨hposition, hmarkers⟩ := telemetry_page p hv hl (parsed text payload)
  by_cases hleaf : leaf = "position"
  · subst hleaf
    have hsent : Sent text (events ++ [.telemetry vehicleId "position" payload]) vehicleId
        (parsed text payload) := ⟨payload, List.mem_append_right _ List.mem_cons_self, rfl⟩
    constructor
    · intro j hloc
      rw [hposition] at hloc ⊢
      split_ifs at hloc ⊢ with hj
      · exact hj.1 ▸ hsent
      · exact (h.position j hloc).snoc _
    · intro j marker hmarker
      rw [hmarkers, if_pos rfl] at hmarker
      rcases moveVehicle_sourced hmarker with hmarker | ⟨rfl, hshown⟩
      · obtain ⟨position, hold, hshown⟩ := h.marker j marker hmarker
        exact ⟨position, hold.snoc _, hshown⟩
      · exact ⟨_, hsent, hshown⟩
  · refine h.same _ (fun j => ?_) fun j marker hmarker => .inl ?_
    · rw [hposition, if_neg fun h => hleaf h.2]
    · rwa [hmarkers, if_neg hleaf] at hmarker

theorem sourced_effect {events : List GroupEvent} {p : MapPage}
    (h : Sourced number text events p) (ev : GroupEvent) :
    Sourced number text (events ++ [ev]) (effect text (handle number) p ev) := by
  cases ev with
  | unknown kind => exact h.same _ (fun _ => rfl) fun _ _ => .inl
  | schedule payload => exact h.same _ (fun _ => rfl) fun _ _ => .inl
  | navsat payload =>
    refine h.same _ (fun vehicleId => ?_) fun _ _ => .inl
    show positionOf (if (parsed text payload).isArray then
      { p.store with navsat := parsed text payload } else p.store) vehicleId = _
    split <;> rfl
  | fleet payload =>
    refine h.same _ (fun vehicleId => ?_) fun j marker hmarker => ?_
    · show positionOf (if (parsed text payload).isObject then
        { p.store with fleet := parsed text payload } else p.store) vehicleId = _
      split <;> rfl
    · simp only [effect, handle] at hmarker
      split at hmarker
      · exact placeVehicles_sourced hmarker
      · exact .inl hmarker
  | telemetry vehicleId leaf payload =>
    by_cases hnamed : Named vehicleId ∧ Named leaf
    · rw [effect, if_pos hnamed]
      exact sourced_telemetry h hnamed.1.2 hnamed.2.2 payload
    · rw [effect, if_neg hnamed]
      exact h.same _ (fun _ => rfl) fun _ _ => .inl

theorem run_sourced {events : List GroupEvent} {p : MapPage}
    (hrun : (step number text display).run {} events = some p) : Sourced number text events p := by
  refine history_invariant sourced_start (fun past m ev m' hm _ hs => ?_) hrun
  rw [feedStep_some text display _ hs]
  exact sourced_effect hm ev

theorem find?_of_mem {vehicles : List Js} {v : Js} {vehicleId : String}
    (hids : (idsOf vehicles).Nodup) (hv : v ∈ vehicles) (hid : vehicleId? v = some vehicleId) :
    vehicles.find? (fun v => vehicleId? v = some vehicleId) = some v := by
  induction vehicles with
  | nil => cases hv
  | cons w rest ih =>
    rw [List.find?_cons]
    rcases List.mem_cons.mp hv with rfl | hv
    · simp [hid]
    · have hmem : vehicleId ∈ idsOf rest := List.mem_filterMap.mpr ⟨v, hv, hid⟩
      cases hw : vehicleId? w with
      | none =>
        have hrest : (idsOf rest).Nodup := by simpa [idsOf, hw] using hids
        simpa using ih hrest hv
      | some j =>
        have hcons : idsOf (w :: rest) = j :: idsOf rest := by simp [idsOf, hw]
        rw [hcons, List.nodup_cons] at hids
        have hne : ¬ j = vehicleId := fun h => hids.1 (h ▸ hmem)
        simpa [hne] using ih hids.2 hv

/-- After any messages the store mirrors them, and of the vehicles of the latest fleet those that
transmit are on the map, at the latest position if it can be shown, and the others are not. A
marker is always that of a position that was sent for its vehicle and could be shown. -/
theorem map_current {now : String} {fleet : Option PyVal} {scheduler : Option Scheduler}
    {navsat : List PyVal} {events : List GroupEvent} {p₀ p : MapPage}
    (hgreeted : greeted number text display now fleet scheduler navsat = .ok p₀)
    (hrun : (step number text display).run p₀ events = some p)
    (hplain : ∀ ev ∈ Store.greeting now fleet scheduler navsat ++ events, Plain number text ev) :
    Store.Mirrors text (Store.greeting now fleet scheduler navsat ++ events) p.store ∧
      (∀ v ∈ vehiclesOf p.store.fleet, ∀ vehicleId, vehicleId? v = some vehicleId →
        (transmits v = false → p.markers.get? vehicleId = none) ∧
        (transmits v = true → located (positionOf p.store vehicleId) = true →
          ∃ marker, markerAt number vehicleId (positionOf p.store vehicleId) = some marker ∧
            p.markers.get? vehicleId = some marker)) ∧
      ∀ vehicleId marker, p.markers.get? vehicleId = some marker →
        ∃ position, Sent text (Store.greeting now fleet scheduler navsat ++ events) vehicleId
            position ∧
          located position = true ∧ markerAt number vehicleId position = some marker := by
  have hall := run_append_some.mpr
    ⟨p₀, greeted_run text display (handle number) hgreeted, hrun⟩
  obtain ⟨hstore, hplaced⟩ := run_placed hall placed_start hplain
  refine ⟨Store.feed_mirrors hstore, fun v hv vehicleId hid => ?_, (run_sourced hall).marker⟩
  have hsettled := hplaced.settled vehicleId v (find?_of_mem hplaced.ids hv hid)
  constructor
  · intro hoff
    rw [← hsettled]
    simp [shown, hoff]
  · intro hon hloc
    obtain ⟨marker, hmarker⟩ :=
      Option.isSome_iff_exists.mp (hplaced.placeable vehicleId hloc vehicleId)
    refine ⟨marker, hmarker, ?_⟩
    rw [← hsettled]
    simp [shown, hon, hloc, hmarker]

/-- `Number` where no text or truth value is a coordinate. -/
def onlyNumbers : Js → Option ℚ
  | .num q => some q
  | _ => none

/-- A position before the fleet is there, then a fleet of two, then another position. -/
def twoUnits : List GroupEvent :=
  let position := fun lat => PyVal.dict [(.str "latitude", .int lat), (.str "longitude", .int 3)]
  let unit := fun id on =>
    PyVal.dict [(.str "vehicle_id", .str id), (.str "transmitting", .bool on)]
  [.telemetry "unit-01" "position" (position 1),
    .fleet (.dict [(.str "vehicles", .list [unit "unit-01" true, unit "unit-02" false])]),
    .telemetry "unit-01" "position" (position 2)]

/-- The one that transmits is shown at its second position. -/
theorem two_units_shown : ∃ p : MapPage,
    (step onlyNumbers (fun _ => "") fun _ => "").run {} twoUnits = some p ∧
      Store.Mirrors (fun _ => "") (Store.greeting "" none none [] ++ twoUnits) p.store ∧
      (p.markers.get? "unit-01").map (fun m => (m.latitude, m.longitude)) = some (2, 3) ∧
      p.markers.get? "unit-02" = none := by
  have hrun : ∃ p : MapPage,
      (step onlyNumbers (fun _ => "") fun _ => "").run {} twoUnits = some p := by
    simp only [twoUnits, step, System.run, feedStep_eq]
    exact ⟨_, rfl⟩
  obtain ⟨p, hp⟩ := hrun
  have hplain : ∀ ev ∈ Store.greeting "" none none [] ++ twoUnits,
      Plain onlyNumbers (fun _ => "") ev := by
    intro ev hev
    rcases List.mem_cons.mp hev with rfl | hev
    · exact fun _ _ _ => rfl
    rcases List.mem_cons.mp hev with rfl | hev
    · show ["unit-01", "unit-02"].Nodup
      decide
    rw [List.mem_singleton.mp hev]
    exact fun _ _ _ => rfl
  have hgreeted : greeted onlyNumbers (fun _ => "") (fun _ => "") "" none none [] = .ok {} := rfl
  obtain ⟨hmirrors, hshown, -⟩ := map_current hgreeted hp hplain
  have hfleet : p.store.fleet = .obj [("vehicles", .arr [
      .obj [("vehicle_id", .str "unit-01"), ("transmitting", .bool true)],
      .obj [("vehicle_id", .str "unit-02"), ("transmitting", .bool false)]])] :=
    hmirrors.fleet.trans rfl
  have hposition : positionOf p.store "unit-01" =
      .obj [("latitude", .num 2), ("longitude", .num 3)] := by
    rw [positionOf, hmirrors.telemetry "unit-01" "position"]
    rfl
  rw [hfleet] at hshown
  obtain ⟨-, hon⟩ := hshown _ (List.mem_cons_self) "unit-01" rfl
  obtain ⟨hoff, -⟩ := hshown _ (List.mem_cons_of_mem _ List.mem_cons_self) "unit-02" rfl
  rw [hposition] at hon
  obtain ⟨marker, hmarker, hget⟩ := hon rfl rfl
  refine ⟨p, hp, hmirrors, ?_, hoff rfl⟩
  rw [hget, Option.map_some]
  cases hmarker
  rfl

end Run

end MapPage

end DatabusSim
