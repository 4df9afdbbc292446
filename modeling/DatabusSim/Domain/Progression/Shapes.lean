import Mathlib.Data.List.MinMax
import DatabusSim.Lib.Dict
import DatabusSim.Domain.Progression.Geo

/-!
# Shape polylines and their stops

`build_polyline`, the assignment of stops to segments and `build_route_geometry`,
from the points, stops and routes of `shapes.json`.
-/

namespace DatabusSim

/-- A shape point as the file gives it; its kilometres may be `None`. -/
structure RawPoint (α : Type) where
  lat : α
  lon : α
  km : Option α

/-- An entry of the file's stops list. -/
structure StopEntry (α : Type) where
  stopId : String
  name : Option String
  lat : α
  lon : α

/-- An entry of the file's routes list. -/
structure RouteEntry where
  routeId : String
  shortName : Option String
  color : Option String
  textColor : Option String
  shapeIds : Option (List String)

/-- A stop of a shape with its place in the sequence. -/
structure StopRow (α : Type) where
  stopId : String
  stopSequence : Nat
  lat : α
  lon : α

/-- What `build_stops` returns for a stop. -/
structure BuiltStop (α : Type) extends StopRow α where
  progressM : α
  crossTrackM : WithTop α

/-- A stop in the geometry of a shape. -/
structure ShapeStopEntry (α : Type) extends StopRow α where
  name : String
  progressM : α

/-- The geometry of a shape. -/
structure ShapeGeometry (α : Type) where
  shapeId : String
  latlngs : List (α × α)
  stops : List (ShapeStopEntry α)

/-- A stop in the merged list of a route. -/
structure MergedStop (α : Type) where
  stopId : String
  name : String
  lat : α
  lon : α

/-- What `build_route_geometry` returns. -/
structure RouteGeometry (α : Type) where
  routeId : String
  shortName : String
  color : String
  textColor : String
  shapes : List (ShapeGeometry α)
  stops : List (MergedStop α)

namespace Progression

variable {α : Type} [Field α] [LinearOrder α]

/-! ## Polylines -/

/-- `hav_cum`: the cumulative distances from `p` on, `acc` being that of `p`. -/
def havCumFrom (hav : α → α → α → α → α) : α → RawPoint α → List (RawPoint α) → List α
  | acc, _, [] => [acc]
  | acc, p, q :: rest => acc :: havCumFrom hav (acc + hav p.lat p.lon q.lat q.lon) q rest

def havCum (hav : α → α → α → α → α) : List (RawPoint α) → List α
  | [] => [0]
  | p :: rest => havCumFrom hav 0 p rest

/-- The third check of `_validate_dists_m`: no distance is below the one before. -/
def nonDecreasing : List α → Bool
  | d :: e :: rest => if e < d then false else nonDecreasing (e :: rest)
  | _ => true

/-- `_validate_dists_m`. -/
def validateDistsM (distsM : List α) (nPoints : Nat) (haversineTotalM : α) : Bool :=
  -- 1. and 2.: no entry can be missing here
  if distsM.length ≠ nPoints then false
  -- 3. non-decreasing
  else if !nonDecreasing distsM then false
  -- 4. the band, over the whole shape only
  else
    let total := distsM.getLastD 0 - distsM.headD 0
    if 0 < haversineTotalM then
      let ratio := total / haversineTotalM
      decide (0.5 ≤ ratio ∧ ratio ≤ 2.0)
    else true

/-- A distance of the file's column in metres. -/
abbrev metres (km : α) : α := km * 1000

/-- `provided_dists_m`: the file's own column in metres, when it is usable. -/
def providedDistsM (hav : α → α → α → α → α) (points : List (RawPoint α)) : Option (List α) :=
  match points.mapM (·.km) with
  | none => none
  | some rawKms =>
      let distsM := rawKms.map metres
      if validateDistsM distsM points.length ((havCum hav points).getLastD 0) then some distsM
      else none

/-- The polyline through `points` with the cumulative distances `dists`. -/
def withDists (points : List (RawPoint α)) (dists : List α) : List (PolyPoint α) :=
  List.zipWith (fun p d => ⟨p.lat, p.lon, d⟩) points dists

/-- `build_polyline`. -/
def buildPolyline (hav : α → α → α → α → α) (points : List (RawPoint α)) :
    List (PolyPoint α) :=
  if points.isEmpty then []
  else
    match providedDistsM hav points with
    | some distsM => withDists points (distsM.map (· - distsM.headD 0))
    | none => withDists points (havCum hav points)

/-! ## The assignment of stops to segments -/

/-- One row of the table from the row `prev` above it: `dp[k][j]` and `back[k][j]`
for each segment from `j` on. -/
def fillRow : List (WithTop α) → List α → Nat → WithTop α → Nat → List (WithTop α × Nat)
  | d :: prev, c :: cost, j, prefixMin, prefixArg =>
      if d < prefixMin then ((c : WithTop α) + d, j) :: fillRow prev cost (j + 1) d j
      else ((c : WithTop α) + prefixMin, prefixArg) ::
        fillRow prev cost (j + 1) prefixMin prefixArg
  | _, _, _, _, _ => []

/-- The rows `k = 1 .. K - 1`, from the row `dp` of `k - 1`. -/
def fillRows : List (WithTop α) → List (List α) → List (List (WithTop α × Nat))
  | _, [] => []
  | dp, c :: cost =>
      let row := fillRow dp c 0 ⊤ 0
      row :: fillRows (row.map Prod.fst) cost

/-- `dp[K - 1]`, `dp` being the row of the first stop. -/
def lastRow (dp : List (WithTop α)) (rows : List (List (WithTop α × Nat))) :
    List (WithTop α) :=
  match rows.getLast? with
  | none => dp
  | some row => row.map Prod.fst

/-- `min(range(M), key=lambda j: dp[K - 1][j])`. -/
def bestSegment (numSegs : Nat) (dp : List (WithTop α)) : Nat :=
  ((List.range numSegs).argmin fun j => dp.getD j 0).getD 0

/-- The backtracking: `segments[k] = back[k + 1][segments[k + 1]]`, from the last
stop to the first. -/
def backtrack (rows : List (List (WithTop α × Nat))) (bestJ : Nat) : List Nat :=
  rows.foldr (fun row segs => ((row.map Prod.snd).getD (segs.headD 0) 0) :: segs) [bestJ]

/-- The segments of the stops, from their cost matrix. -/
def chooseSegments (numSegs : Nat) : List (List α) → List Nat
  | [] => []
  | c :: cost =>
      let dp := c.map WithTop.some
      let rows := fillRows dp cost
      backtrack rows (bestSegment numSegs (lastRow dp rows))

/-- The final clamp, `prev` being the progress of the stop before. -/
def clampFrom : α → List α → List α
  | _, [] => []
  | prev, p :: progress =>
      if p < prev then prev :: clampFrom prev progress else p :: clampFrom p progress

def clamp : List α → List α
  | [] => []
  | p :: progress => p :: clampFrom p progress

/-- `pos[k][segments[k]]` for each stop. -/
def readOff (pos : List (List α)) (segs : List Nat) : List α :=
  List.zipWith (fun row j => row.getD j 0) pos segs

/-- `assign_stops_monotonic` once its two matrices are there. -/
def assignFromMatrices (numSegs : Nat) (cost pos : List (List α)) : List α :=
  clamp (readOff pos (chooseSegments numSegs cost))

variable (m : MathFns α)

/-- The rows of the two matrices: the projection of each stop onto each segment. -/
def projectAll (stopRows : List (StopRow α)) (segs : List (PolyPoint α × PolyPoint α)) :
    Except GeoExc (List (List (α × α))) :=
  stopRows.mapM fun row =>
    segs.mapM fun s => projectPointToSegment m row.lat row.lon s.1 s.2

/-- `assign_stops_monotonic`. -/
def assignStopsMonotonic (stopRows : List (StopRow α)) (polyline : List (PolyPoint α)) :
    Except GeoExc (List α) :=
  if stopRows.isEmpty then .ok []
  else
    let numSegs := polyline.length - 1
    -- no segments: every stop snaps to the single (or absent) point
    if numSegs = 0 then
      .ok (List.replicate stopRows.length ((polyline.head?.map (·.cumDistM)).getD 0))
    else do
      let table ← projectAll m stopRows (segments polyline)
      pure (assignFromMatrices numSegs (table.map (List.map Prod.snd))
        (table.map (List.map Prod.fst)))

/-- `build_stops`. -/
def buildStops (stopRows : List (StopRow α)) (polyline : List (PolyPoint α)) :
    Except GeoExc (List (BuiltStop α)) := do
  let progress ← assignStopsMonotonic m stopRows polyline
  (stopRows.zip progress).mapM fun (row, pm) => do
    let proj ← projectPointToPolyline m row.lat row.lon polyline
    pure { row with progressM := pm, crossTrackM := proj.crossTrackM }

/-! ## Route geometry -/

/-- The stops within the threshold, with their progress. -/
def candidates (threshold : α) (polyline : List (PolyPoint α)) :
    List (StopEntry α) → Except GeoExc (List (α × StopEntry α))
  | [] => .ok []
  | stop :: stops => do
      let proj ← projectPointToPolyline m stop.lat stop.lon polyline
      let rest ← candidates threshold polyline stops
      pure (if proj.crossTrackM ≤ (threshold : WithTop α) then
        (proj.progressM, stop) :: rest else rest)

/-- `stop_rows`: the candidates by their progress, numbered from 1. -/
def stopRowsOf (found : List (α × StopEntry α)) : List (StopRow α) :=
  ((found.mergeSort fun a b => decide (a.1 ≤ b.1)).zipIdx 1).map fun ((_, s), idx) =>
    { stopId := s.stopId, stopSequence := idx, lat := s.lat, lon := s.lon }

/-- `stop_name_map`. -/
def stopNameMap (stops : List (StopEntry α)) : Dict String String :=
  stops.foldl (fun names s => names.set s.stopId (s.name.getD "")) Dict.empty

/-- The body of the loop over the shapes, for a shape that is in the file. -/
def buildShapeGeometry (threshold : α) (stops : List (StopEntry α)) (shapeId : String)
    (rawPoints : List (RawPoint α)) : Except GeoExc (ShapeGeometry α) := do
  let polyline := buildPolyline (haversineM m) rawPoints
  let found ← candidates m threshold polyline stops
  let built ← buildStops m (stopRowsOf found) polyline
  let names := stopNameMap stops
  pure
    { shapeId := shapeId
      latlngs := polyline.map fun p => (p.lat, p.lon)
      stops := built.map fun bs =>
        { bs.toStopRow with name := names.getD bs.stopId "", progressM := bs.progressM } }

/-- The stops of one more shape are merged; an id that is there keeps its entry. -/
def mergeStops (merged : Dict String (MergedStop α)) (entries : List (ShapeStopEntry α)) :
    Dict String (MergedStop α) :=
  entries.foldl (fun merged e =>
    if merged.contains e.stopId then merged
    else merged.set e.stopId ⟨e.stopId, e.name, e.lat, e.lon⟩) merged

/-- The loop over the shapes of the route; an id the file does not have is
skipped. -/
def buildShapes (threshold : α) (shapes : Dict String (List (RawPoint α)))
    (stops : List (StopEntry α)) : List String → Except GeoExc (List (ShapeGeometry α))
  | [] => .ok []
  | shapeId :: shapeIds =>
      match shapes.get? shapeId with
      | none => buildShapes threshold shapes stops shapeIds
      | some rawPoints => do
          let entry ← buildShapeGeometry m threshold stops shapeId rawPoints
          let rest ← buildShapes threshold shapes stops shapeIds
          pure (entry :: rest)

/-- `build_route_geometry`. -/
def buildRouteGeometry (threshold : α) (route : RouteEntry)
    (shapes : Dict String (List (RawPoint α))) (stops : List (StopEntry α)) :
    Except GeoExc (RouteGeometry α) := do
  let entries ← buildShapes m threshold shapes stops (route.shapeIds.getD [])
  let merged := entries.foldl (fun merged e => mergeStops merged e.stops) Dict.empty
  pure
    { routeId := route.routeId
      shortName := route.shortName.getD ""
      color := route.color.getD ""
      textColor := route.textColor.getD ""
      shapes := entries
      stops := merged.values }

end Progression

end DatabusSim
