import Mathlib.Algebra.Order.Field.Rat
import DatabusSim.Api.GeometryView
import DatabusSim.Lib.Latest

/-!
# The highlighted trip

`static/lib/run_highlight.js` draws the shape that the selected vehicle is bound to. The geometry
is fetched once, the list of runs is refreshed with every store update, and a trip that has not
changed is not drawn again. Whatever comes first, what is on the map is the trip of the selection
(`trip_shown`), with the stops that the progression of its run goes by (`shown_stops`).
-/

namespace DatabusSim

open Transition History

/-- A vehicle of `store.get().fleet.vehicles`. -/
structure VehicleRow where
  vehicleId : String
  boundShapeId : Option String
  lifecycleState : Option String

/-- An entry of `_shapeIndex`. -/
structure TripGeometry (α : Type) where
  latlngs : List (α × α)
  stops : List (ShapeStopEntry α)

/-- A layer of `_tripGroup`; a color is `none` where it is `undefined`. -/
inductive TripLayer (α : Type) where
  | polyline (latlngs : List (α × α)) (color : Option String)
  | stop (lat lon : α) (color : Option String) (tooltip : String)

/-- `lastRender` is `none` where its three fields are `null`. -/
structure RunHighlight (α : Type) where
  fleet : List VehicleRow := []
  shapeIndex : Dict String (TripGeometry α) := Dict.empty
  geometryLoaded : Bool := false
  fetched : Bool := false
  options : List String := [""]
  select : String := ""
  tripGroup : List (TripLayer α) := []
  lastRender : Option (String × Option String × Option String) := none

namespace RunHighlight

/-! ## `run_palette.js` -/

def runPalette : List String :=
  ["#e6194B", "#4363d8", "#f58231", "#911eb4", "#008080", "#9A6324"]

/-- What `/^unit-(\d+)$/` finds, parsed. The number is exact; `parseInt` rounds one beyond
`2 ^ 53` to a double. -/
def unitNumber? (s : List Char) : Option Nat :=
  let digits := s.drop 5
  if "unit-".toList <+: s ∧ digits ≠ [] ∧ digits.all Char.isDigit then
    some (digits.foldl (fun n c => 10 * n + (c.toNat - '0'.toNat)) 0)
  else none

/-- `charCodeAt` at the places of a character. -/
def charCodes (c : Char) : List Nat :=
  if c.toNat < 0x10000 then [c.toNat]
  else [0xD800 + (c.toNat - 0x10000) / 0x400, 0xDC00 + (c.toNat - 0x10000) % 0x400]

/-- `runColor`; the index of `unit-00` is `-1`. -/
def runColor (vehicleId : String) : Option String :=
  match unitNumber? vehicleId.toList with
  | some 0 => none
  | some (n + 1) => runPalette[n % 6]?
  | none =>
      let hash := (vehicleId.toList.flatMap charCodes).foldl
        (fun hash code => (hash * 31 + code) % 0x100000000) 0
      runPalette[hash % 6]?

/-! ## The control -/

/-- `ACTIVE_LIFECYCLE`. -/
def activeLifecycle : List String := ["Confirmed", "Tracking", "In Progress", "No Signal"]

/-- The shape of the vehicle, where it is truthy. -/
def shape? (v : VehicleRow) : Option String := v.boundShapeId.filter (· ≠ "")

def isActive (v : VehicleRow) : Bool :=
  (shape? v).isSome && v.lifecycleState.any fun state => decide (state ∈ activeLifecycle)

/-- The vehicles of `_activeRuns`. -/
def activeRuns (fleet : List VehicleRow) : List String :=
  (fleet.filter isActive).map VehicleRow.vehicleId

variable {α : Type}

/-- `_applyTripLayers`, on the group that it has cleared. -/
def applyTripLayers (geometry : TripGeometry α) (color : Option String) : List (TripLayer α) :=
  (if geometry.latlngs = [] then [] else [.polyline geometry.latlngs color]) ++
    geometry.stops.map fun stop => .stop stop.lat stop.lon color
      (stop.stopId ++ " — " ++ stop.name ++ " · seq " ++ toString stop.stopSequence)

/-- `_clearTripLayers` and `_resetLastRender`. -/
def clear (s : RunHighlight α) : RunHighlight α := { s with tripGroup := [], lastRender := none }

/-- `_drawTrip`. -/
def drawTrip (s : RunHighlight α) (vehicleId : String) (force : Bool) : RunHighlight α :=
  match s.fleet.find? fun v => v.vehicleId = vehicleId with
  | none => s.clear
  | some v =>
      let render := (vehicleId, v.boundShapeId, v.lifecycleState)
      if force = false ∧ s.lastRender = some render then s
      else
        match shape? v with
        | none => s.clear
        | some shapeId =>
            if s.geometryLoaded then
              match s.shapeIndex.get? shapeId with
              | none => s.clear
              | some geometry =>
                  { s with
                    lastRender := some render
                    tripGroup := applyTripLayers geometry (runColor vehicleId) }
            else s

/-- `_onSelectionChange`. -/
def onSelectionChange (s : RunHighlight α) (vehicleId : String) : RunHighlight α :=
  if vehicleId = "" then s.clear else s.drawTrip vehicleId true

/-- `_refreshDropdown`: a selection that is not active any more is reset. -/
def refreshDropdown (s : RunHighlight α) : RunHighlight α :=
  let s := { s with options := "" :: activeRuns s.fleet }
  if s.select ≠ "" ∧ s.select ∉ activeRuns s.fleet then { s.clear with select := "" } else s

/-- `_onStoreUpdate`. -/
def onStoreUpdate (s : RunHighlight α) : RunHighlight α :=
  let s := s.refreshDropdown
  if s.select = "" then s else s.drawTrip s.select false

/-- The loop of `_fetchGeometry`: of two shapes with one id the later one counts. -/
def shapeIndexOf (routes : List (RouteGeometry α)) : Dict String (TripGeometry α) :=
  (routes.flatMap RouteGeometry.shapes).foldl (fun index s =>
    if s.shapeId = "" then index else index.set s.shapeId ⟨s.latlngs, s.stops⟩) Dict.empty

/-- `_fetchGeometry` once its answer is there: `none` where it has failed. -/
def onGeometry (s : RunHighlight α) : Option (List (RouteGeometry α)) → RunHighlight α
  | none => s
  | some [] => s
  | some (route :: routes) =>
      let s := { s with shapeIndex := shapeIndexOf (route :: routes), geometryLoaded := true }
      if s.select = "" then s else s.onSelectionChange s.select

inductive Event (α : Type) where
  /-- The store notifies of an update. -/
  | notify (fleet : List VehicleRow)
  /-- The user selects an option. -/
  | change (value : String)
  /-- The fetch of the geometry comes to an end. -/
  | geometry (routes : Option (List (RouteGeometry α)))

def step : System (RunHighlight α) (Event α)
  | s, .notify fleet => some (onStoreUpdate { s with fleet })
  | s, .change value =>
      if value ∈ s.options then some (onSelectionChange { s with select := value } value) else none
  | s, .geometry routes =>
      if s.fetched then none else some (onGeometry { s with fetched := true } routes)

/-! ## What is on the map -/

/-- What a trip is drawn from, and its layers. -/
abbrev Trip (α : Type) := (String × Option String × Option String) × List (TripLayer α)

/-- The trip of the selection, once the geometry is there. -/
def trip (s : RunHighlight α) : Option (Trip α) :=
  if s.select = "" ∨ s.geometryLoaded = false then none
  else
    (s.fleet.find? fun v => v.vehicleId = s.select).bind fun v =>
      (shape? v).bind fun shapeId =>
        (s.shapeIndex.get? shapeId).map fun geometry =>
          ((s.select, v.boundShapeId, v.lifecycleState),
            applyTripLayers geometry (runColor s.select))

/-- The map has the trip of the selection. -/
structure Shows (s : RunHighlight α) : Prop where
  layers : s.tripGroup = (s.trip.map Prod.snd).getD []
  render : s.lastRender = s.trip.map Prod.fst

/-- The map has the trip that `_lastRender` tells of. -/
structure Drawn (s : RunHighlight α) : Prop where
  cleared : s.lastRender = none → s.tripGroup = []
  drawn : ∀ vehicleId boundShapeId state, s.lastRender = some (vehicleId, boundShapeId, state) →
    s.geometryLoaded = true ∧ ∃ shapeId geometry, boundShapeId = some shapeId ∧ shapeId ≠ "" ∧
      s.shapeIndex.get? shapeId = some geometry ∧
      s.tripGroup = applyTripLayers geometry (runColor vehicleId)

theorem shape?_eq_some {v : VehicleRow} {shapeId : String} :
    shape? v = some shapeId ↔ v.boundShapeId = some shapeId ∧ shapeId ≠ "" := by
  unfold shape?
  rw [Option.filter_eq_some_iff]
  simp

/-- A trip is that of the first vehicle with the selected id. -/
theorem trip_eq_some {s : RunHighlight α} {t : Trip α} :
    s.trip = some t ↔ s.select ≠ "" ∧ s.geometryLoaded = true ∧ ∃ v shapeId geometry,
      (s.fleet.find? fun v => v.vehicleId = s.select) = some v ∧ v.boundShapeId = some shapeId ∧
      shapeId ≠ "" ∧ s.shapeIndex.get? shapeId = some geometry ∧
      t = ((s.select, v.boundShapeId, v.lifecycleState),
        applyTripLayers geometry (runColor s.select)) := by
  unfold trip
  constructor
  · intro h
    split at h
    · cases h
    · rename_i hcond
      rw [not_or, Bool.not_eq_false] at hcond
      obtain ⟨v, hv, h⟩ := Option.bind_eq_some_iff.mp h
      obtain ⟨shapeId, hshape, h⟩ := Option.bind_eq_some_iff.mp h
      obtain ⟨geometry, hgeometry, ht⟩ := Option.map_eq_some_iff.mp h
      obtain ⟨hbound, hne⟩ := shape?_eq_some.mp hshape
      exact ⟨hcond.1, hcond.2, v, shapeId, geometry, hv, hbound, hne, hgeometry, ht.symm⟩
  · rintro ⟨hselect, hloaded, v, shapeId, geometry, hv, hbound, hne, hgeometry, rfl⟩
    rw [if_neg (by simp [hselect, hloaded]), hv, Option.bind_some,
      shape?_eq_some.mpr ⟨hbound, hne⟩, Option.bind_some, hgeometry, Option.map_some]

theorem Shows.isDrawn {s : RunHighlight α} (h : Shows s) : Drawn s := by
  cases htrip : s.trip with
  | none =>
    constructor
    · intro _
      rw [h.layers, htrip]
      rfl
    · intro vehicleId boundShapeId state hrender
      rw [h.render, htrip] at hrender
      cases hrender
  | some t =>
    obtain ⟨-, hloaded, v, shapeId, geometry, -, hbound, hne, hgeometry, rfl⟩ :=
      trip_eq_some.mp htrip
    constructor
    · intro hrender
      rw [h.render, htrip] at hrender
      cases hrender
    · intro vehicleId boundShapeId state hrender
      rw [h.render, htrip] at hrender
      cases hrender
      refine ⟨hloaded, shapeId, geometry, hbound, hne, hgeometry, ?_⟩
      rw [h.layers, htrip]
      rfl

/-- Without a selection or a geometry there is nothing to show. -/
theorem shows_of_none {s : RunHighlight α} (htrip : s.trip = none) (hlayers : s.tripGroup = [])
    (hrender : s.lastRender = none) : Shows s := by
  constructor
  · rw [hlayers, htrip]
    rfl
  · rw [hrender, htrip]
    rfl

theorem shows_of_some {s : RunHighlight α} {t : Trip α} (htrip : s.trip = some t)
    (hlayers : s.tripGroup = t.2) (hrender : s.lastRender = some t.1) : Shows s := by
  constructor
  · rw [hlayers, htrip]
    rfl
  · rw [hrender, htrip]
    rfl

/-- What `_drawTrip` leaves is the trip of the selection, whether it skips the drawing or not. -/
theorem drawTrip_shows {s : RunHighlight α} (h : Drawn s) (hne : s.select ≠ "") (force : Bool) :
    Shows (s.drawTrip s.select force) := by
  have hnone : ∀ {r : RunHighlight α}, (∀ t, r.trip ≠ some t) → r.trip = none :=
    fun hr => Option.eq_none_iff_forall_ne_some.mpr hr
  unfold drawTrip
  cases hv : s.fleet.find? fun v => v.vehicleId = s.select with
  | none =>
    refine shows_of_none (hnone fun t ht => ?_) rfl rfl
    obtain ⟨-, -, v, -, -, hv', -⟩ := trip_eq_some.mp ht
    cases hv.symm.trans hv'
  | some v =>
    dsimp only
    split
    · -- the guard: the map has this trip already
      rename_i hguard
      obtain ⟨hloaded, shapeId, geometry, hbound, hshape, hgeometry, hlayers⟩ :=
        h.drawn _ _ _ hguard.2
      exact shows_of_some (trip_eq_some.mpr
        ⟨hne, hloaded, v, shapeId, geometry, hv, hbound, hshape, hgeometry, rfl⟩) hlayers hguard.2
    · cases hshape : shape? v with
      | none =>
        refine shows_of_none (hnone fun t ht => ?_) rfl rfl
        obtain ⟨-, -, v', shapeId, -, hv', hbound, hne', -⟩ := trip_eq_some.mp ht
        cases hv.symm.trans hv'
        rw [shape?_eq_some.mpr ⟨hbound, hne'⟩] at hshape
        cases hshape
      | some shapeId =>
        obtain ⟨hbound, hne'⟩ := shape?_eq_some.mp hshape
        dsimp only
        split
        · rename_i hloaded
          cases hgeometry : s.shapeIndex.get? shapeId with
          | none =>
            refine shows_of_none (hnone fun t ht => ?_) rfl rfl
            obtain ⟨-, -, v', shapeId', geometry, hv', hbound', -, hgeometry', -⟩ :=
              trip_eq_some.mp ht
            cases hv.symm.trans hv'
            cases hbound.symm.trans hbound'
            cases hgeometry.symm.trans hgeometry'
          | some geometry =>
            exact shows_of_some (trip_eq_some.mpr
              ⟨hne, hloaded, v, shapeId, geometry, hv, hbound, hne', hgeometry, rfl⟩) rfl rfl
        · -- without a geometry nothing has been drawn
          rename_i hloaded
          have hrender : s.lastRender = none := by
            cases hlast : s.lastRender with
            | none => rfl
            | some render => exact absurd (h.drawn _ _ _ hlast).1 hloaded
          refine shows_of_none (hnone fun t ht => ?_) (h.cleared hrender) hrender
          exact hloaded (trip_eq_some.mp ht).2.1

/-! ## Runs of the control -/

/-- What `_drawTrip` does not touch. -/
structure SameControl (s s' : RunHighlight α) : Prop where
  fleet : s'.fleet = s.fleet
  select : s'.select = s.select
  options : s'.options = s.options
  shapeIndex : s'.shapeIndex = s.shapeIndex
  geometryLoaded : s'.geometryLoaded = s.geometryLoaded
  fetched : s'.fetched = s.fetched

theorem drawTrip_same (s : RunHighlight α) (vehicleId : String) (force : Bool) :
    SameControl s (s.drawTrip vehicleId force) := by
  have hrefl : SameControl s s := ⟨rfl, rfl, rfl, rfl, rfl, rfl⟩
  have hclear : SameControl s s.clear := ⟨rfl, rfl, rfl, rfl, rfl, rfl⟩
  unfold drawTrip
  cases s.fleet.find? fun v => v.vehicleId = vehicleId with
  | none => exact hclear
  | some v =>
    dsimp only
    split
    · exact hrefl
    · cases shape? v with
      | none => exact hclear
      | some shapeId =>
        dsimp only
        split
        · cases s.shapeIndex.get? shapeId with
          | none => exact hclear
          | some geometry => exact ⟨rfl, rfl, rfl, rfl, rfl, rfl⟩
        · exact hrefl

theorem onSelectionChange_same (s : RunHighlight α) (vehicleId : String) :
    SameControl s (s.onSelectionChange vehicleId) := by
  unfold onSelectionChange
  split
  · exact ⟨rfl, rfl, rfl, rfl, rfl, rfl⟩
  · exact drawTrip_same s vehicleId true

theorem onSelectionChange_shows {s : RunHighlight α} (h : Drawn s) :
    Shows (s.onSelectionChange s.select) := by
  unfold onSelectionChange
  split
  · rename_i hselect
    have htrip : s.clear.trip = none := if_pos (.inl hselect)
    exact shows_of_none htrip rfl rfl
  · rename_i hselect
    exact drawTrip_shows h hselect true

/-- What holds between the events. -/
structure Follows (s : RunHighlight α) : Prop where
  shows : Shows s
  options : s.options = "" :: activeRuns s.fleet ∨ s.options = [""]
  selected : s.select = "" ∨ s.select ∈ activeRuns s.fleet
  fetched : s.geometryLoaded = true → s.fetched = true

theorem onStoreUpdate_follows {s : RunHighlight α} (h : Drawn s)
    (hshows : s.select = "" → s.tripGroup = [] ∧ s.lastRender = none)
    (hfetched : s.geometryLoaded = true → s.fetched = true) : Follows s.onStoreUpdate := by
  unfold onStoreUpdate refreshDropdown
  dsimp only
  by_cases hgone : s.select ≠ "" ∧ s.select ∉ activeRuns s.fleet
  · -- the selected run has ended
    rw [if_pos hgone, if_pos rfl]
    exact ⟨shows_of_none (if_pos (.inl rfl)) rfl rfl, .inl rfl, .inl rfl, hfetched⟩
  · rw [if_neg hgone]
    dsimp only
    split
    · rename_i hselect
      obtain ⟨hlayers, hrender⟩ := hshows hselect
      exact ⟨shows_of_none (if_pos (.inl hselect)) hlayers hrender, .inl rfl, .inl hselect, hfetched⟩
    · rename_i hselect
      have hactive : s.select ∈ activeRuns s.fleet := by
        by_contra hactive
        exact hgone ⟨hselect, hactive⟩
      let r : RunHighlight α := { s with options := "" :: activeRuns s.fleet }
      have hdrawn : Drawn r := ⟨h.cleared, h.drawn⟩
      have hsame := drawTrip_same r s.select false
      refine ⟨drawTrip_shows hdrawn hselect false, .inl ?_, .inr ?_, ?_⟩
      · rw [hsame.options, hsame.fleet]
      · rw [hsame.select, hsame.fleet]
        exact hactive
      · rw [hsame.geometryLoaded, hsame.fetched]
        exact hfetched

theorem follows_step {s s' : RunHighlight α} {ev : Event α} (h : Follows s)
    (hs : step s ev = some s') : Follows s' := by
  have hdrawn := h.shows.isDrawn
  have hnone : s.select = "" → s.tripGroup = [] ∧ s.lastRender = none := by
    intro hselect
    have htrip : s.trip = none := if_pos (.inl hselect)
    refine ⟨?_, ?_⟩
    · rw [h.shows.layers, htrip]
      rfl
    · rw [h.shows.render, htrip]
      rfl
  cases ev with
  | notify fleet =>
    cases hs
    exact onStoreUpdate_follows ⟨hdrawn.cleared, hdrawn.drawn⟩ hnone h.fetched
  | change value =>
    simp only [step] at hs
    split at hs
    · rename_i hvalue
      cases hs
      let r : RunHighlight α := { s with select := value }
      have hr : Drawn r := ⟨hdrawn.cleared, hdrawn.drawn⟩
      have hsame := onSelectionChange_same r value
      refine ⟨onSelectionChange_shows hr, ?_, ?_, ?_⟩
      · rw [hsame.options, hsame.fleet]
        exact h.options
      · rw [hsame.select, hsame.fleet]
        rcases h.options with hoptions | hoptions
        · rw [hoptions] at hvalue
          exact List.mem_cons.mp hvalue
        · rw [hoptions] at hvalue
          exact .inl (List.mem_singleton.mp hvalue)
      · rw [hsame.geometryLoaded, hsame.fetched]
        exact h.fetched
    · cases hs
  | geometry routes =>
    simp only [step] at hs
    split at hs
    · cases hs
    · rename_i hfetched
      cases hs
      have hloaded : s.geometryLoaded = false := by
        by_contra hloaded
        exact hfetched (h.fetched (by simpa using hloaded))
      have hrender : s.lastRender = none := by
        cases hlast : s.lastRender with
        | none => rfl
        | some render =>
          have hgeometry := (hdrawn.drawn _ _ _ hlast).1
          rw [hloaded] at hgeometry
          cases hgeometry
      have hlayers : s.tripGroup = [] := hdrawn.cleared hrender
      have hsame : Follows { s with fetched := true } :=
        ⟨⟨h.shows.layers, h.shows.render⟩, h.options, h.selected, fun _ => rfl⟩
      cases routes with
      | none => exact hsame
      | some routes =>
        cases routes with
        | nil => exact hsame
        | cons route routes =>
          simp only [onGeometry]
          split
          · rename_i hselect
            exact ⟨shows_of_none (if_pos (.inl hselect)) hlayers hrender, h.options,
              .inl hselect, fun _ => rfl⟩
          · let r : RunHighlight α := { s with
              fetched := true
              shapeIndex := shapeIndexOf (route :: routes)
              geometryLoaded := true }
            have hnever : ∀ vehicleId boundShapeId state,
                r.lastRender ≠ some (vehicleId, boundShapeId, state) := by
              intro vehicleId boundShapeId state hr
              cases hrender.symm.trans hr
            have hr : Drawn r :=
              ⟨fun _ => hlayers, fun _ _ _ hlast => absurd hlast (hnever _ _ _)⟩
            have hsame := onSelectionChange_same r r.select
            refine ⟨onSelectionChange_shows hr, ?_, ?_, ?_⟩
            · rw [hsame.options, hsame.fleet]
              exact h.options
            · rw [hsame.select, hsame.fleet]
              exact h.selected
            · intro _
              exact hsame.fetched

theorem follows_start : Follows ({} : RunHighlight α) :=
  ⟨shows_of_none (if_pos (.inl rfl)) rfl rfl, .inr rfl, .inl rfl, fun h => by cases h⟩

/-! ## The trip of the latest events -/

def fleetOf : Event α → Option (List VehicleRow)
  | .notify fleet => some fleet
  | _ => none

/-- What an event says about the selection of a vehicle. -/
def choice (vehicleId : String) : Event α → Option Bool
  | .notify fleet => if vehicleId ∈ activeRuns fleet then none else some false
  | .change value => some (decide (value = vehicleId))
  | .geometry _ => none

/-- The shapes that an event brings. -/
def shapesOf : Event α → Option (Dict String (TripGeometry α))
  | .geometry (some (route :: routes)) => some (shapeIndexOf (route :: routes))
  | _ => none

theorem select_onStoreUpdate (s : RunHighlight α) :
    s.onStoreUpdate.select =
      if s.select ≠ "" ∧ s.select ∉ activeRuns s.fleet then "" else s.select := by
  unfold onStoreUpdate refreshDropdown
  dsimp only
  by_cases hgone : s.select ≠ "" ∧ s.select ∉ activeRuns s.fleet
  · rw [if_pos hgone, if_pos hgone, if_pos rfl]
  · rw [if_neg hgone, if_neg hgone]
    split
    · rfl
    · exact (drawTrip_same _ _ _).select

theorem fleet_onStoreUpdate (s : RunHighlight α) :
    s.onStoreUpdate.fleet = s.fleet ∧ s.onStoreUpdate.shapeIndex = s.shapeIndex ∧
      s.onStoreUpdate.geometryLoaded = s.geometryLoaded := by
  unfold onStoreUpdate refreshDropdown
  dsimp only
  by_cases hgone : s.select ≠ "" ∧ s.select ∉ activeRuns s.fleet
  · rw [if_pos hgone, if_pos rfl]
    exact ⟨rfl, rfl, rfl⟩
  · rw [if_neg hgone]
    split
    · exact ⟨rfl, rfl, rfl⟩
    · have hsame := drawTrip_same { s with options := "" :: activeRuns s.fleet } s.select false
      exact ⟨hsame.fleet, hsame.shapeIndex, hsame.geometryLoaded⟩

theorem onGeometry_same (s : RunHighlight α) (routes : Option (List (RouteGeometry α))) :
    (s.onGeometry routes).fleet = s.fleet ∧ (s.onGeometry routes).select = s.select := by
  unfold onGeometry
  split
  · exact ⟨rfl, rfl⟩
  · exact ⟨rfl, rfl⟩
  · dsimp only
    split
    · exact ⟨rfl, rfl⟩
    · exact ⟨(onSelectionChange_same _ _).fleet, (onSelectionChange_same _ _).select⟩

/-- A vehicle is selected by the user, until another choice or an update without its run. -/
theorem select_iff {events : List (Event α)} {s : RunHighlight α}
    (hr : System.run step {} events = some s) {vehicleId : String} (hne : vehicleId ≠ "") :
    s.select = vehicleId ↔ latest (choice vehicleId) events = some true := by
  have hview : ∀ (s : RunHighlight α) ev s', step s ev = some s' →
      decide (s'.select = vehicleId) =
        (choice vehicleId ev).getD (decide (s.select = vehicleId)) := by
    intro s ev s' hs
    cases ev with
    | notify fleet =>
      cases hs
      rw [select_onStoreUpdate]
      dsimp only [choice]
      by_cases hselect : s.select = vehicleId
      · rw [hselect]
        by_cases hactive : vehicleId ∈ activeRuns fleet
        · rw [if_neg fun h => h.2 hactive, if_pos hactive]
          rfl
        · rw [if_pos ⟨hne, hactive⟩, if_neg hactive]
          exact decide_eq_false hne.symm
      · have hother : ∀ value, value = "" ∨ value = s.select → decide (value = vehicleId) = false := by
          rintro value (rfl | rfl)
          · exact decide_eq_false hne.symm
          · exact decide_eq_false hselect
        rw [hother _ (by split <;> simp), hother _ (.inr rfl)]
        split <;> rfl
    | change value =>
      simp only [step] at hs
      split at hs
      · cases hs
        rw [(onSelectionChange_same _ _).select]
        rfl
      · cases hs
    | geometry routes =>
      simp only [step] at hs
      split at hs
      · cases hs
      · cases hs
        rw [(onGeometry_same _ _).2]
        rfl
  have hlatest : decide (s.select = vehicleId) =
      (latest (choice vehicleId) events).getD
        (decide (({} : RunHighlight α).select = vehicleId)) := run_latest hr hview
  refine (decide_eq_true_iff (p := s.select = vehicleId)).symm.trans ?_
  rw [hlatest]
  cases latest (choice vehicleId) events with
  | none => simpa using hne.symm
  | some b => simp

theorem fleet_eq {events : List (Event α)} {s : RunHighlight α}
    (hr : System.run step {} events = some s) : s.fleet = (latest fleetOf events).getD [] := by
  refine run_latest hr ?_
  intro s ev s' hs
  cases ev with
  | notify fleet =>
    cases hs
    exact (fleet_onStoreUpdate _).1
  | change value =>
    simp only [step] at hs
    split at hs
    · cases hs
      exact (onSelectionChange_same _ _).fleet
    · cases hs
  | geometry routes =>
    simp only [step] at hs
    split at hs
    · cases hs
    · cases hs
      exact (onGeometry_same _ _).1

/-- `_shapeIndex`, once `_geometryLoaded` is set. -/
def shapes? (s : RunHighlight α) : Option (Dict String (TripGeometry α)) :=
  if s.geometryLoaded then some s.shapeIndex else none

/-- The geometry of the page is that of the answer that had routes. -/
theorem shapes?_eq {events : List (Event α)} {s : RunHighlight α}
    (hr : System.run step {} events = some s) : s.shapes? = latest shapesOf events := by
  have hsame : ∀ {s s' : RunHighlight α}, s'.shapeIndex = s.shapeIndex →
      s'.geometryLoaded = s.geometryLoaded → s'.shapes? = s.shapes? := by
    intro s s' hindex hloaded
    unfold shapes?
    rw [hindex, hloaded]
  have hview : ∀ (s : RunHighlight α) ev s', step s ev = some s' →
      s'.shapes? = (shapesOf ev).or s.shapes? := by
    intro s ev s' hs
    cases ev with
    | notify fleet =>
      cases hs
      have hupdate := fleet_onStoreUpdate { s with fleet }
      exact hsame hupdate.2.1 hupdate.2.2
    | change value =>
      simp only [step] at hs
      split at hs
      · cases hs
        have hchange := onSelectionChange_same { s with select := value } value
        exact hsame hchange.shapeIndex hchange.geometryLoaded
      · cases hs
    | geometry routes =>
      simp only [step] at hs
      split at hs
      · cases hs
      · cases hs
        cases routes with
        | none => rfl
        | some routes =>
          cases routes with
          | nil => rfl
          | cons route routes =>
            simp only [onGeometry]
            split
            · rfl
            · exact hsame (onSelectionChange_same _ _).shapeIndex
                (onSelectionChange_same _ _).geometryLoaded
  rw [run_latest_or hr hview]
  exact Option.or_none

/-- Whatever the store, the user and the fetch do, and in whatever order: the map has the layers of
the trip of the selection, which is the latest choice of the user as long as its run is active, in
the latest fleet and the geometry that was fetched. -/
theorem trip_shown {events : List (Event α)} {s : RunHighlight α}
    (hr : System.run step {} events = some s) :
    s.tripGroup = (s.trip.map Prod.snd).getD [] ∧
      s.fleet = (latest fleetOf events).getD [] ∧
      s.shapes? = latest shapesOf events ∧
      (s.select = "" ∨ s.select ∈ activeRuns s.fleet) ∧
      ∀ vehicleId, vehicleId ≠ "" →
        (s.select = vehicleId ↔ latest (choice vehicleId) events = some true) := by
  have hfollows : Follows s :=
    run_invariant (fun _ _ _ h hs => follows_step h hs) follows_start hr
  exact ⟨hfollows.shows.layers, fleet_eq hr, shapes?_eq hr, hfollows.selected,
    fun _ hne => select_iff hr hne⟩

/-! ## A concrete page -/

/-- One shape of two points and no stops. -/
def northRoute : RouteGeometry ℚ where
  routeId := "bUCR_L1"
  shortName := "L1"
  color := "3b82f6"
  textColor := "ffffff"
  shapes := [{ shapeId := "north", latlngs := [(0, 0), (1, 0)], stops := [] }]
  stops := []

/-- `unit-01` on this shape. -/
def onNorth (state : String) : VehicleRow := ⟨"unit-01", some "north", some state⟩

/-- It is selected before the geometry is there. -/
def tripEvents : List (Event ℚ) :=
  [.notify [onNorth "Tracking"], .change "unit-01", .geometry (some [northRoute]),
    .notify [onNorth "In Progress"]]

/-- The polyline of its trip is on the map. -/
theorem north_shown : ∃ s : RunHighlight ℚ, System.run step {} tripEvents = some s ∧
    s.tripGroup.length = 1 ∧ s.tripGroup = (s.trip.map Prod.snd).getD [] := by
  have hrun : (System.run step ({} : RunHighlight ℚ) tripEvents).map
      (fun s => s.tripGroup.length) = some 1 := by decide +kernel
  obtain ⟨s, hs, hlength⟩ := Option.map_eq_some_iff.mp hrun
  exact ⟨s, hs, hlength, (trip_shown hs).1⟩

/-! ## The stops of the trip -/

section Stops

/-- The page and the progression have the same stops for a shape. -/
theorem get?_shapeIndexOf (routes : List (RouteGeometry α)) {shapeId : String} (hne : shapeId ≠ "") :
    ((routes.flatMap RouteGeometry.shapes).foldl (fun geom s => geom.set s.shapeId s.stops)
      Dict.empty).get? shapeId =
      ((shapeIndexOf routes).get? shapeId).map TripGeometry.stops := by
  have hfold : ∀ (shapes : List (ShapeGeometry α)) (geom : Dict String (List (ShapeStopEntry α)))
      (index : Dict String (TripGeometry α)),
      geom.get? shapeId = (index.get? shapeId).map TripGeometry.stops →
      (shapes.foldl (fun geom s => geom.set s.shapeId s.stops) geom).get? shapeId =
        ((shapes.foldl (fun index s =>
          if s.shapeId = "" then index else index.set s.shapeId ⟨s.latlngs, s.stops⟩)
          index).get? shapeId).map TripGeometry.stops := by
    intro shapes
    induction shapes with
    | nil => exact fun _ _ h => h
    | cons s shapes ih =>
      intro geom index h
      rw [List.foldl_cons, List.foldl_cons]
      apply ih
      rw [Dict.get?_set]
      by_cases hs : shapeId = s.shapeId
      · rw [if_pos hs, if_neg (hs ▸ hne), hs, Dict.get?_set_self]
        rfl
      · rw [if_neg hs, h]
        split
        · rfl
        · rw [Dict.get?_set_ne _ _ hs]
  exact hfold _ _ _ rfl

variable [Field α] [LinearOrder α] {m : MathFns α}

open GeometryView

/-- An answer with routes is the geometry of the first file that had one. -/
theorem answer_routes {before after : List (Option (GeometryFile α))}
    {file : Option (GeometryFile α)} {result : List (RouteGeometry α)}
    (hbefore : ∀ g ∈ before, built m g = none) (hfile : built m file = some result)
    {route : RouteGeometry α} {routes : List (RouteGeometry α)}
    (h : .routes (route :: routes) ∈ answers m none (before ++ file :: after)) :
    route :: routes = result := by
  rw [answers_eq m hbefore hfile, List.mem_append] at h
  rcases h with h | h
  · obtain ⟨g, -, hg⟩ := List.mem_map.mp h
    unfold withoutGeometry at hg
    split at hg <;> cases hg
  · exact GeometryResponse.routes.inj (List.eq_of_mem_replicate h)

/-- The stops that a page shows for a run are those that the progression of its shape goes by,
when the first geometry that was built is that of the file of `start_runtime`. -/
theorem shown_stops {before after : List (Option (GeometryFile α))}
    {file : Option (GeometryFile α)} {result : List (RouteGeometry α)}
    (hbefore : ∀ g ∈ before, built m g = none) (hfile : built m file = some result)
    {events : List (Event α)} {s : RunHighlight α} (hr : System.run step {} events = some s)
    (hanswers : ∀ routes, .geometry (some routes) ∈ events →
      .routes routes ∈ answers m none (before ++ file :: after)) {t : Trip α}
    (ht : s.trip = some t) :
    ∃ v shapeId latlngs stops, v ∈ s.fleet ∧ v.vehicleId = s.select ∧
      v.boundShapeId = some shapeId ∧ (progressionGeom m file).get? shapeId = some stops ∧
      s.tripGroup = applyTripLayers ⟨latlngs, stops⟩ (runColor s.select) := by
  obtain ⟨-, hloaded, v, shapeId, geometry, hv, hbound, hne, hgeometry, rfl⟩ := trip_eq_some.mp ht
  obtain ⟨hlayers, -, hshapes, -, -⟩ := trip_shown hr
  have hindex : latest shapesOf events = some s.shapeIndex := by
    rw [← hshapes, shapes?, if_pos hloaded]
  obtain ⟨pre, ev, post, hsplit, hev, -⟩ := latest_eq_some.mp hindex
  have hresult : shapeIndexOf result = s.shapeIndex := by
    have hmem : ev ∈ events := by
      rw [hsplit]
      exact List.mem_append_right _ List.mem_cons_self
    unfold shapesOf at hev
    split at hev
    · rw [← answer_routes hbefore hfile (hanswers _ hmem)]
      exact Option.some.inj hev
    · cases hev
  have hprogression : (progressionGeom m file).get? shapeId = some geometry.stops := by
    obtain ⟨file, rfl, hbuilt⟩ := Option.bind_eq_some_iff.mp hfile
    cases hgeo : routesGeo m file with
    | error exc =>
      rw [hgeo] at hbuilt
      cases hbuilt
    | ok routes =>
      rw [hgeo] at hbuilt
      cases hbuilt
      unfold progressionGeom
      rw [Option.map_some, hgeo]
      dsimp only
      rw [get?_shapeIndexOf _ hne, hresult, hgeometry, Option.map_some]
  refine ⟨v, shapeId, geometry.latlngs, geometry.stops, List.mem_of_find?_eq_some hv, ?_, hbound,
    hprogression, ?_⟩
  · simpa using List.find?_some hv
  · rw [hlayers, ht]
    rfl

end Stops

open Progression

/-- Near the equator the earth is flat: the functions of `math` to first order, with roots that are
right on squares. -/
def flatMath : MathFns ℚ where
  radians x := x / 57
  sin x := x
  cos _ := 1
  asin x := x
  sqrt q := Nat.sqrt q.num.natAbs / Nat.sqrt q.den

/-- A file with one shape and a stop half way along it. -/
def oneStop : GeometryFile ℚ where
  routes := [⟨"bUCR_L1", none, none, none, some ["north"]⟩]
  shapes := Dict.ofList [("north", [⟨0, 0, some 0⟩, ⟨1, 0, some 111⟩])]
  stops := [⟨"s1", some "First", 1 / 2, 0⟩]

/-- The page asks for the geometry `result` once `unit-01` is chosen. -/
def asksFor (result : List (RouteGeometry ℚ)) : List (Event ℚ) :=
  [.notify [onNorth "Tracking"], .change "unit-01", .geometry (some result)]

/-- The page asks after a request that could not read the file yet; it shows the polyline of the
shape and the stop. -/
theorem north_stops : ∃ result s v shapeId latlngs stops,
    GeometryView.built flatMath (some oneStop) = some result ∧
    System.run step {} (asksFor result) = some s ∧ s.tripGroup.length = 2 ∧
    v ∈ s.fleet ∧ v.vehicleId = s.select ∧ v.boundShapeId = some shapeId ∧
    (GeometryView.progressionGeom flatMath (some oneStop)).get? shapeId = some stops ∧
    s.tripGroup = applyTripLayers ⟨latlngs, stops⟩ (runColor s.select) := by
  have hpage : ((GeometryView.built flatMath (some oneStop)).bind fun result =>
      (System.run step {} (asksFor result)).bind fun s =>
        s.trip.map fun _ => s.tripGroup.length) = some 2 := by decide +kernel
  obtain ⟨result, hbuilt, hpage⟩ := Option.bind_eq_some_iff.mp hpage
  obtain ⟨s, hs, hpage⟩ := Option.bind_eq_some_iff.mp hpage
  obtain ⟨t, ht, hlength⟩ := Option.map_eq_some_iff.mp hpage
  have hanswers : ∀ routes, Event.geometry (some routes) ∈ asksFor result →
      .routes routes ∈ GeometryView.answers flatMath none ([none] ++ some oneStop :: []) := by
    intro routes hroutes
    simp only [asksFor, List.mem_cons, Event.geometry.injEq, Option.some.injEq, List.not_mem_nil,
      or_false, reduceCtorEq, false_or] at hroutes
    rw [hroutes, GeometryView.answers_eq flatMath (by simp [GeometryView.built]) hbuilt]
    simp
  obtain ⟨v, shapeId, latlngs, stops, h⟩ :=
    shown_stops (by simp [GeometryView.built]) hbuilt hs hanswers ht
  exact ⟨result, s, v, shapeId, latlngs, stops, hbuilt, hs, hlength, h⟩

end RunHighlight

end DatabusSim
