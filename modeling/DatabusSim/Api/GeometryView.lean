import DatabusSim.Domain.Progression.Shapes

/-!
# The geometry view

`geometry_view` keeps the first geometry it could build, and `start_runtime` builds the same for
the progression. Whatever becomes of the shapes file, every page is sent the same shapes
(`answers_eq`).
-/

namespace DatabusSim

/-- What the two read of the shapes file. -/
structure GeometryFile (α : Type) where
  routes : List RouteEntry
  shapes : Dict String (List (RawPoint α))
  stops : List (StopEntry α)

inductive GeometryResponse (α : Type) where
  /-- `{"routes": routes}` -/
  | routes (routes : List (RouteGeometry α))
  /-- What `build_route_geometry` raises is not caught. -/
  | raised (exc : GeoExc)

namespace GeometryView

variable {α : Type} [Field α] [LinearOrder α] (m : MathFns α)

/-- `routes_geo`. -/
def routesGeo (file : GeometryFile α) : Except GeoExc (List (RouteGeometry α)) :=
  file.routes.mapM fun route =>
    Progression.buildRouteGeometry m 50 route file.shapes file.stops

/-- `geometry_view`, over `_geometry_cache`; a file is `none` where it cannot be read or parsed. -/
def geometryView (cache : Option (List (RouteGeometry α))) (file : Option (GeometryFile α)) :
    GeometryResponse α × Option (List (RouteGeometry α)) :=
  match cache with
  | some data => (.routes data, some data)
  | none =>
      match file with
      | none => (.routes [], none)
      | some file =>
          match routesGeo m file with
          | .error exc => (.raised exc, none)
          | .ok result => (.routes result, some result)

/-- The answers to requests, each with what the file is at that moment. -/
def answers (cache : Option (List (RouteGeometry α))) :
    List (Option (GeometryFile α)) → List (GeometryResponse α)
  | [] => []
  | file :: files =>
      (geometryView m cache file).1 :: answers (geometryView m cache file).2 files

/-- The geometry of a file, where there is one. -/
def built (file : Option (GeometryFile α)) : Option (List (RouteGeometry α)) :=
  file.bind fun file => (routesGeo m file).toOption

/-- The answer where no geometry can be built. -/
def withoutGeometry (file : Option (GeometryFile α)) : GeometryResponse α :=
  match file.map (routesGeo m) with
  | some (.error exc) => .raised exc
  | _ => .routes []

theorem geometryView_built {file : Option (GeometryFile α)} {result : List (RouteGeometry α)}
    (h : built m file = some result) :
    geometryView m none file = (.routes result, some result) := by
  obtain ⟨file, rfl, hresult⟩ := Option.bind_eq_some_iff.mp h
  unfold geometryView
  dsimp only
  cases hgeo : routesGeo m file with
  | error exc =>
    rw [hgeo] at hresult
    cases hresult
  | ok routes =>
    rw [hgeo] at hresult
    cases hresult
    rfl

theorem geometryView_failed {file : Option (GeometryFile α)} (h : built m file = none) :
    geometryView m none file = (withoutGeometry m file, none) := by
  unfold geometryView withoutGeometry
  cases file with
  | none => rfl
  | some file =>
    dsimp only [Option.map_some]
    cases hgeo : routesGeo m file with
    | error exc => dsimp only
    | ok routes =>
      have hbuilt : built m (some file) = some routes := by
        unfold built
        rw [Option.bind_some, hgeo]
        rfl
      rw [hbuilt] at h
      cases h

/-- Once there is a geometry it is the answer, whatever the file is. -/
theorem answers_cached (data : List (RouteGeometry α)) (files : List (Option (GeometryFile α))) :
    answers m (some data) files = List.replicate files.length (.routes data) := by
  induction files with
  | nil => rfl
  | cons file files ih =>
    rw [List.length_cons, List.replicate_succ, ← ih]
    rfl

/-- The first file whose geometry can be built decides every answer from then on; before it there
are no routes, or the request fails. -/
theorem answers_eq {before after : List (Option (GeometryFile α))}
    {file : Option (GeometryFile α)} {result : List (RouteGeometry α)}
    (hbefore : ∀ g ∈ before, built m g = none) (hfile : built m file = some result) :
    answers m none (before ++ file :: after) =
      before.map (withoutGeometry m) ++ List.replicate (after.length + 1) (.routes result) := by
  induction before with
  | nil =>
    rw [List.nil_append, answers, geometryView_built m hfile, answers_cached]
    rfl
  | cons g before ih =>
    rw [List.forall_mem_cons] at hbefore
    rw [List.cons_append, answers, geometryView_failed m hbefore.1, ih hbefore.2]
    rfl

/-! ## The geometry of the progression -/

/-- `_progression_geom` after `start_runtime`: of two shapes with one id the later one counts. -/
def progressionGeom (file : Option (GeometryFile α)) : Dict String (List (ShapeStopEntry α)) :=
  match file.map (routesGeo m) with
  | some (.ok result) =>
      (result.flatMap RouteGeometry.shapes).foldl (fun geom s => geom.set s.shapeId s.stops)
        Dict.empty
  | _ => Dict.empty

end GeometryView

end DatabusSim
