import DatabusSim.Services.DatabusClient
import DatabusSim.Static.EntryForm
import DatabusSim.Static.FleetTab

/-!
# The form of a run request

`static/modals/run_request.js`: the form of a run that is requested by hand. Its trips are those of
the vehicle's route, its shape and direction those of the trip. Whatever is entered, the form gives
a request for a vehicle and one of the trips of its route, and it can be made to give each of
these (`requested_iff`).
-/

namespace DatabusSim.RunRequest

open Transition EntryForm FleetTab

/-! ## What is offered -/

/-- A row of the fleet. -/
structure VehicleRow where
  vehicleId : String
  routeId : String

/-- A trip of databus. -/
structure Trip where
  tripId : String
  routeId : Option String
  shapeId : Option String
  directionId : Option Int

def Trip.texts (t : Trip) : List String := t.tripId :: t.routeId.toList ++ t.shapeId.toList

/-- What the form is opened with. The texts get into its markup as they are. -/
structure Offer where
  vehicles : List VehicleRow
  trips : List Trip
  plain : (vehicles.flatMap (fun v => [v.vehicleId, v.routeId]) ++
    trips.flatMap Trip.texts).all plainText = true

/-- An option for a trip, with its data attributes. -/
structure TripOption where
  value : String
  shape : Option String
  direction : Option String

/-- The key of a trip in `tripsByRoute`. -/
def Trip.route (t : Trip) : String := t.routeId.getD "unknown"

def Trip.option (t : Trip) : TripOption where
  value := t.tripId
  shape := some (t.shapeId.getD "")
  direction := some (numberText (t.directionId.getD 0))

/-- `tripOptions`. Where the route has no trips the only option says so. -/
def tripOptions (trips : List Trip) (routeId : String) : List TripOption :=
  match trips.filter fun t => t.route = routeId with
  | [] => [⟨"", none, none⟩]
  | list => list.map Trip.option

/-! ## The form -/

/-- The values of the controls. The selects hold the number of the selected option. -/
structure Form where
  vehicle : Nat
  route : String
  options : List TripOption
  trip : Nat
  shape : String
  direction : String
  relationship : {s : String // s ∈ ["SCHEDULED", "ADDED", "UNSCHEDULED"]}
  operator : String

/-- `syncFromTrip`. -/
def Form.sync (f : Form) : Form :=
  let option := f.options[f.trip]?
  { f with
    shape := inputText ((option.bind TripOption.shape).getD "")
    direction := inputText ((option.bind TripOption.direction).getD "") }

/-- The route that the form is opened with. -/
def defaultRoute (o : Offer) : String :=
  let vehicleId := (o.vehicles[0]?.map VehicleRow.vehicleId).getD "unit-01"
  (vehicleRoute vehicleId).getD "bUCR_L1"

/-- `open`, once the trips are there. -/
def opened (o : Offer) : Form :=
  Form.sync {
    vehicle := 0
    route := inputText (defaultRoute o)
    options := tripOptions o.trips (defaultRoute o)
    trip := 0
    shape := ""
    direction := ""
    relationship := ⟨"SCHEDULED", ScheduleTab.scheduled_mem⟩
    operator := "op-001" }

/-- A change of a control. -/
inductive Input where
  | vehicle (i : Nat)
  | trip (i : Nat)
  | relationship (r : {s : String // s ∈ ["SCHEDULED", "ADDED", "UNSCHEDULED"]})
  | operator (text : String)

/-- What a change makes of the form. To select what is selected is no change. -/
def Form.input (o : Offer) (f : Form) : Input → Option Form
  | .vehicle i =>
      if i = f.vehicle then none
      else
        -- `syncFromVehicle`
        o.vehicles[i]?.map fun v =>
          Form.sync
            { f with
              vehicle := i
              route := inputText v.routeId
              options := tripOptions o.trips v.routeId
              trip := 0 }
  | .trip i =>
      if i = f.trip ∨ f.options.length ≤ i then none else some (Form.sync { f with trip := i })
  | .relationship r => some { f with relationship := r }
  | .operator text => some { f with operator := inputText text }

/-- `onSubmit`. -/
def Form.submit (o : Offer) (f : Form) : Option CreateRunRequest :=
  let vehicleId := (o.vehicles[f.vehicle]?.map VehicleRow.vehicleId).getD ""
  let routeId := trim f.route
  let tripId := trim ((f.options[f.trip]?.map TripOption.value).getD "")
  let shapeId := trim f.shape
  let operatorId := trim f.operator
  if "" ∈ [vehicleId, tripId, shapeId, operatorId, routeId] then none
  else
    (parseInt f.direction).map fun directionId =>
      { vehicleId, operatorId, routeId, tripId, directionId, shapeId
        scheduleRelationship := f.relationship }

/-! ## What can be requested -/

/-- The vehicles have the routes of the form's own table. -/
def Offer.Routed (o : Offer) : Prop :=
  ∀ v ∈ o.vehicles, vehicleRoute v.vehicleId = some v.routeId

/-- A request for a vehicle and a trip of its route. -/
structure Requests (v : VehicleRow) (t : Trip) (p : CreateRunRequest) : Prop where
  route : t.route = v.routeId
  vehicleId : p.vehicleId = v.vehicleId
  routeId : p.routeId = v.routeId
  tripId : p.tripId = trim t.tripId ∧ p.tripId ≠ ""
  shapeId : p.shapeId = trim (inputText (t.shapeId.getD "")) ∧ p.shapeId ≠ ""
  directionId : p.directionId = t.directionId.getD 0
  relationship : p.scheduleRelationship ∈ ["SCHEDULED", "ADDED", "UNSCHEDULED"]
  operatorId : Entered p.operatorId ∧ p.operatorId ≠ ""

/-- What holds of the form whatever is entered. -/
structure Offered (o : Offer) (f : Form) : Prop where
  vehicle (v) : o.vehicles[f.vehicle]? = some v →
    f.route = inputText v.routeId ∧ f.options = tripOptions o.trips v.routeId
  shape : f.shape = inputText ((f.options[f.trip]?.bind TripOption.shape).getD "")
  direction : f.direction = inputText ((f.options[f.trip]?.bind TripOption.direction).getD "")
  operator : inputText f.operator = f.operator

variable {o : Offer}

theorem defaultRoute_first (h : o.Routed) {v : VehicleRow} (hv : o.vehicles[0]? = some v) :
    defaultRoute o = v.routeId := by
  have hroute := h v (List.mem_of_getElem? hv)
  simp only [defaultRoute, hv, Option.map_some, Option.getD_some, hroute]

theorem offered_opened (h : o.Routed) : Offered o (opened o) where
  vehicle v hv := by
    have hroute := defaultRoute_first h hv
    show inputText (defaultRoute o) = _ ∧ tripOptions o.trips (defaultRoute o) = _
    rw [hroute]
    exact ⟨rfl, rfl⟩
  shape := rfl
  direction := rfl
  operator := by
    show inputText "op-001" = "op-001"
    decide

theorem offered_input {f f' : Form} {i : Input} (h : Offered o f) (hs : f.input o i = some f') :
    Offered o f' := by
  cases i with
  | vehicle i =>
    simp only [Form.input] at hs
    split at hs
    · cases hs
    · obtain ⟨v, hv, rfl⟩ := Option.map_eq_some_iff.mp hs
      refine ⟨fun w hw => ?_, rfl, rfl, h.operator⟩
      rw [show o.vehicles[i]? = some w from hw] at hv
      cases hv
      exact ⟨rfl, rfl⟩
  | trip i =>
    simp only [Form.input] at hs
    split at hs
    · cases hs
    · cases hs
      exact ⟨h.vehicle, rfl, rfl, h.operator⟩
  | relationship r =>
    cases hs
    exact ⟨h.vehicle, h.shape, h.direction, h.operator⟩
  | operator text =>
    cases hs
    exact ⟨h.vehicle, h.shape, h.direction, inputText_inputText text⟩

/-- An option with a value is one of the trips. -/
theorem option_trip {trips : List Trip} {routeId : String} {i : Nat} {option : TripOption}
    (h : (tripOptions trips routeId)[i]? = some option) (hne : option.value ≠ "") :
    ∃ t ∈ trips, t.route = routeId ∧ option = t.option := by
  unfold tripOptions at h
  cases hlist : trips.filter fun t => t.route = routeId with
  | nil =>
    rw [hlist] at h
    have hoption := List.mem_of_getElem? h
    rw [List.mem_singleton.mp hoption] at hne
    exact absurd rfl hne
  | cons first rest =>
    rw [hlist] at h
    obtain ⟨t, ht, rfl⟩ := List.mem_map.mp (List.mem_of_getElem? h)
    rw [← hlist, List.mem_filter] at ht
    exact ⟨t, ht.1, by simpa using ht.2, rfl⟩

theorem trip_option {trips : List Trip} {t : Trip} (ht : t ∈ trips) :
    ∃ i : Nat, (tripOptions trips t.route)[i]? = some t.option := by
  have hmem : t ∈ trips.filter fun t' => t'.route = t.route :=
    List.mem_filter.mpr ⟨ht, by simp⟩
  unfold tripOptions
  cases hlist : trips.filter fun t' => t'.route = t.route with
  | nil =>
    rw [hlist] at hmem
    cases hmem
  | cons first rest =>
    rw [hlist] at hmem
    exact List.mem_iff_getElem?.mp (List.mem_map_of_mem hmem)

theorem trim_empty : trim "" = "" := by decide

theorem inputText_numberText (i : Int) : inputText (numberText i) = numberText i := by
  rw [inputText_eq_self]
  intro c hc
  have hnewline : ∀ c : Char, c.isDigit = true → c ≠ '\n' ∧ c ≠ '\r' := by
    intro c hdigit
    constructor
    · rintro rfl
      cases hdigit
    · rintro rfl
      cases hdigit
  cases i with
  | ofNat n => exact hnewline c (digits_toString n c hc)
  | negSucc n =>
    rw [numberText, String.toList_append, List.mem_append] at hc
    rcases hc with hc | hc
    · have hc : c = '-' := by simpa using hc
      rw [hc]
      decide
    · exact hnewline c (digits_toString (n + 1) c hc)

/-- The routes of the table are two texts that can be entered. -/
theorem entered_vehicleRoute {vehicleId routeId : String}
    (h : vehicleRoute vehicleId = some routeId) :
    Entered routeId ∧ routeId ≠ "" ∧ vehicleId ≠ "" := by
  have hmem : (vehicleId, routeId) ∈ vehicles :=
    (Dict.lookupEntry_eq_some_iff (by decide)).mp h
  have hall : vehicles.all (fun p => decide (Entered p.2 ∧ p.2 ≠ "" ∧ p.1 ≠ "")) = true := by
    decide
  simpa using List.all_eq_true.mp hall (vehicleId, routeId) hmem

/-- What the form gives is a request for the selected vehicle and trip. -/
theorem submit_requests (h : o.Routed) {f : Form} (hf : Offered o f) {p : CreateRunRequest}
    (hp : f.submit o = some p) : ∃ v ∈ o.vehicles, ∃ t ∈ o.trips, Requests v t p := by
  unfold Form.submit at hp
  dsimp only at hp
  split at hp
  · cases hp
  rename_i hfilled
  obtain ⟨directionId, hdirection, rfl⟩ := Option.map_eq_some_iff.mp hp
  simp only [List.mem_cons, List.not_mem_nil, or_false, not_or] at hfilled
  obtain ⟨hvehicle, htrip, hshape, hoperator, hroute⟩ := hfilled
  cases hv : o.vehicles[f.vehicle]? with
  | none =>
    rw [hv] at hvehicle
    exact absurd rfl hvehicle
  | some v =>
    have hvmem := List.mem_of_getElem? hv
    obtain ⟨hfroute, hoptions⟩ := hf.vehicle v hv
    cases hopt : f.options[f.trip]? with
    | none =>
      rw [hopt] at htrip
      exact absurd trim_empty.symm htrip
    | some option =>
      rw [hopt] at htrip
      have hvalue : option.value ≠ "" := by
        intro hempty
        rw [Option.map_some, Option.getD_some, hempty] at htrip
        exact htrip trim_empty.symm
      rw [hoptions] at hopt
      obtain ⟨t, ht, htroute, rfl⟩ := option_trip hopt hvalue
      have hfshape := hf.shape
      have hfdirection := hf.direction
      rw [hoptions, hopt] at hfshape hfdirection
      have hread : parseInt f.direction = some (t.directionId.getD 0) := by
        rw [hfdirection]
        show parseInt (inputText (numberText (t.directionId.getD 0))) = _
        rw [inputText_numberText, parseInt_numberText]
      rw [hread] at hdirection
      cases hdirection
      refine ⟨v, hvmem, t, ht, ?_⟩
      constructor
      · exact htroute
      · rfl
      · show trim f.route = v.routeId
        rw [hfroute]
        exact (entered_vehicleRoute (h v hvmem)).1
      · exact ⟨rfl, Ne.symm htrip⟩
      · show trim f.shape = _ ∧ trim f.shape ≠ ""
        exact ⟨congrArg trim hfshape, Ne.symm hshape⟩
      · rfl
      · exact f.relationship.2
      · exact ⟨entered_trim hf.operator, Ne.symm hoperator⟩

/-- The vehicle and the trip can be selected. -/
theorem select_run (h : o.Routed) {v : VehicleRow} (hv : v ∈ o.vehicles) {i : Nat}
    {option : TripOption} (hi : (tripOptions o.trips v.routeId)[i]? = some option) :
    ∃ inputs f, System.run (Form.input o) (opened o) inputs = some f ∧
      o.vehicles[f.vehicle]? = some v ∧ f.options[f.trip]? = some option := by
  have hvehicle : ∃ inputs f, System.run (Form.input o) (opened o) inputs = some f ∧
      o.vehicles[f.vehicle]? = some v ∧ f.options = tripOptions o.trips v.routeId ∧ f.trip = 0 := by
    obtain ⟨k, hk⟩ := List.mem_iff_getElem?.mp hv
    by_cases hzero : k = 0
    · subst hzero
      refine ⟨[], opened o, rfl, hk, ?_, rfl⟩
      show tripOptions o.trips (defaultRoute o) = _
      rw [defaultRoute_first h hk]
    · refine ⟨[.vehicle k], Form.sync
        { opened o with
          vehicle := k
          route := inputText v.routeId
          options := tripOptions o.trips v.routeId
          trip := 0 }, ?_, hk, rfl, rfl⟩
      have hne : ¬ k = (opened o).vehicle := hzero
      simp only [System.run, Form.input, if_neg hne, hk, Option.map_some, Option.bind_some]
  obtain ⟨inputs, f, hrun, hfv, hoptions, htrip⟩ := hvehicle
  by_cases hzero : i = 0
  · subst hzero
    exact ⟨inputs, f, hrun, hfv, by rw [hoptions, htrip, hi]⟩
  · refine ⟨inputs ++ [.trip i], Form.sync { f with trip := i }, ?_, hfv, hoptions ▸ hi⟩
    refine run_append_some.mpr ⟨f, hrun, ?_⟩
    have hlt : i < f.options.length := by
      rw [hoptions]
      exact (List.getElem?_eq_some_iff.mp hi).1
    have hcond : ¬ (i = f.trip ∨ f.options.length ≤ i) := by omega
    simp only [System.run, Form.input, if_neg hcond, Option.bind_some]

/-- The requests that the form can give are those for a vehicle and a trip of its route, with the
shape and the direction of the trip, where none of the texts is empty. -/
theorem requested_iff (h : o.Routed) (p : CreateRunRequest) :
    (∃ inputs f, System.run (Form.input o) (opened o) inputs = some f ∧ f.submit o = some p) ↔
      ∃ v ∈ o.vehicles, ∃ t ∈ o.trips, Requests v t p := by
  constructor
  · rintro ⟨inputs, f, hrun, hp⟩
    have hoffered : Offered o f :=
      run_invariant (I := Offered o) (fun _ _ _ h hs => offered_input h hs) (offered_opened h) hrun
    exact submit_requests h hoffered hp
  · rintro ⟨v, hv, t, ht, hreq⟩
    obtain ⟨i, hi⟩ := trip_option ht
    rw [hreq.route] at hi
    obtain ⟨inputs, f, hrun, hfv, hopt⟩ := select_run h hv hi
    have hoffered : Offered o f :=
      run_invariant (I := Offered o) (fun _ _ _ h hs => offered_input h hs) (offered_opened h) hrun
    obtain ⟨hroute, -⟩ := hoffered.vehicle v hfv
    have hshape := hoffered.shape
    have hdirection := hoffered.direction
    rw [hopt] at hshape hdirection
    have hrest : System.run (Form.input o) f
        [.relationship ⟨p.scheduleRelationship, hreq.relationship⟩, .operator p.operatorId] =
        some { f with
          relationship := ⟨p.scheduleRelationship, hreq.relationship⟩
          operator := inputText p.operatorId } := rfl
    refine ⟨_, _, run_append_some.mpr ⟨f, hrun, hrest⟩, ?_⟩
    obtain ⟨hentered, hrouteNe, hvehicleNe⟩ := entered_vehicleRoute (h v hv)
    have hread : parseInt f.direction = some p.directionId := by
      rw [hdirection, hreq.directionId]
      show parseInt (inputText (numberText (t.directionId.getD 0))) = _
      rw [inputText_numberText, parseInt_numberText]
    have htexts : (o.vehicles[f.vehicle]?.map VehicleRow.vehicleId).getD "" = p.vehicleId ∧
        trim f.route = p.routeId ∧
        trim ((f.options[f.trip]?.map TripOption.value).getD "") = p.tripId ∧
        trim f.shape = p.shapeId ∧ trim (inputText p.operatorId) = p.operatorId := by
      refine ⟨?_, ?_, ?_, ?_, hreq.operatorId.1⟩
      · rw [hfv, hreq.vehicleId]
        rfl
      · rw [hroute, hreq.routeId]
        exact hentered
      · rw [hopt, hreq.tripId.1]
        rfl
      · rw [hshape, hreq.shapeId.1]
        rfl
    obtain ⟨hvehicle, hroute, htrip, hshape, hoperator⟩ := htexts
    have hfilled : ¬ "" ∈ [p.vehicleId, p.tripId, p.shapeId, p.operatorId, p.routeId] := by
      simp only [List.mem_cons, List.not_mem_nil, or_false, not_or]
      refine ⟨?_, Ne.symm hreq.tripId.2, Ne.symm hreq.shapeId.2, Ne.symm hreq.operatorId.2, ?_⟩
      · rw [hreq.vehicleId]
        exact Ne.symm hvehicleNe
      · rw [hreq.routeId]
        exact Ne.symm hrouteNe
    simp only [Form.submit, hvehicle, hroute, htrip, hshape, hoperator, if_neg hfilled, hread,
      Option.map_some]

/-- The rows of the fixed roster. -/
def rosterRows : List VehicleRow := FleetState.makeFleet.map fun v => ⟨v.vehicleId, v.routeId⟩

def tripSeven : Trip := ⟨"trip-7", some "bUCR_L2", some "desde_artes_con_milla", some 1⟩

theorem roster_plain : (rosterRows.flatMap (fun v => [v.vehicleId, v.routeId]) ++
    [tripSeven].flatMap Trip.texts).all plainText = true := by
  decide

def rosterOffer : Offer := ⟨rosterRows, [tripSeven], roster_plain⟩

/-- The trip of the second route can be requested for `unit-05`, and not for `unit-01`. -/
theorem trip_seven_requested :
    (∃ inputs f, System.run (Form.input rosterOffer) (opened rosterOffer) inputs = some f ∧
      f.submit rosterOffer = some ⟨"unit-05", "op-001", "bUCR_L2", "trip-7", 1,
        "desde_artes_con_milla", "ADDED"⟩) ∧
      ¬ ∃ inputs f, System.run (Form.input rosterOffer) (opened rosterOffer) inputs = some f ∧
        f.submit rosterOffer = some ⟨"unit-01", "op-001", "bUCR_L1", "trip-7", 1,
          "desde_artes_con_milla", "ADDED"⟩ := by
  have hrouted : rosterOffer.Routed := by
    show ∀ v ∈ rosterRows, vehicleRoute v.vehicleId = some v.routeId
    intro v hv
    obtain ⟨u, hu, rfl⟩ := List.mem_map.mp hv
    have hall : FleetState.makeFleet.all
        (fun u => decide (vehicleRoute u.vehicleId = some u.routeId)) = true := by
      decide
    simpa using List.all_eq_true.mp hall u hu
  constructor
  · rw [requested_iff hrouted]
    refine ⟨⟨"unit-05", "bUCR_L2"⟩, ?_, tripSeven, List.mem_cons_self, ?_⟩
    · show _ ∈ rosterRows
      simp [rosterRows, FleetState.makeFleet]
    · exact ⟨rfl, rfl, rfl, by decide, by decide, rfl, by decide, by decide⟩
  · rw [requested_iff hrouted]
    rintro ⟨v, -, t, ht, hreq⟩
    rw [List.mem_singleton.mp ht] at hreq
    have hroute := hreq.route.trans hreq.routeId.symm
    revert hroute
    decide

end DatabusSim.RunRequest
