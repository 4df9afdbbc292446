import DatabusSim.Domain.Progression.CrossTracks

/-!
# The stops of a route's geometry

`build_route_geometry` keeps for each shape the global stops near it, sorts and renumbers
them, pairs them with their progress and merges the shapes. None is lost or doubled on the
way, unless a projection divides by zero and there is no geometry at all.
-/

namespace DatabusSim

/-- What the geometry keeps of a stop besides its name. -/
def StopEntry.place {α : Type} (s : StopEntry α) : String × α × α := (s.stopId, s.lat, s.lon)

def StopRow.place {α : Type} (r : StopRow α) : String × α × α := (r.stopId, r.lat, r.lon)

/-- The entry of a shape's stop in the merged list. -/
def ShapeStopEntry.merged {α : Type} (e : ShapeStopEntry α) : MergedStop α :=
  ⟨e.stopId, e.name, e.lat, e.lon⟩

namespace Progression

/-- A list whose entries map to those of another one, place by place. -/
theorem map_eq_of_entries {β γ : Type} {f : β → γ} {xs : List β} {ys : List γ}
    (hlen : xs.length = ys.length)
    (h : ∀ (k : Nat) (x : β), xs[k]? = some x → ys[k]? = some (f x)) : xs.map f = ys := by
  refine List.ext_getElem (by rw [List.length_map, hlen]) fun k hk hk' => ?_
  rw [List.length_map] at hk
  have hy := h k _ (List.getElem?_eq_getElem hk)
  rw [List.getElem?_eq_getElem hk'] at hy
  rw [List.getElem_map]
  exact (Option.some.inj hy).symm

/-! ## The members of a shape -/

section Members

variable {α : Type} [Field α] [LinearOrder α] (m : MathFns α) (threshold : α)

/-- The cross-track distance of the stop onto its nearest segment is within the threshold. -/
def Near (polyline : List (PolyPoint α)) (stop : StopEntry α) : Prop :=
  ∃ c, IsLeast (crossTracks m stop.lat stop.lon polyline) c ∧ c ≤ threshold

open Classical in
/-- The global stops near the polyline. -/
noncomputable def members (polyline : List (PolyPoint α)) (stops : List (StopEntry α)) :
    List (StopEntry α) :=
  stops.filter fun stop => decide (Near m threshold polyline stop)

variable {m threshold} {polyline : List (PolyPoint α)}

/-- The candidates are the members, in the order of the global list. -/
theorem candidates_members (hne : polyline ≠ []) {stops : List (StopEntry α)}
    {found : List (α × StopEntry α)} (h : candidates m threshold polyline stops = .ok found) :
    found.map Prod.snd = members m threshold polyline stops := by
  induction stops generalizing found with
  | nil =>
    cases h
    rfl
  | cons stop stops ih =>
    obtain ⟨proj, hproj, h⟩ := bind_ok.mp h
    obtain ⟨rest, hrest, h⟩ := bind_ok.mp h
    obtain ⟨c, hc, hleast⟩ := projectPointToPolyline_least m _ _ hne hproj
    have hnear : Near m threshold polyline stop ↔ proj.crossTrackM ≤ (threshold : WithTop α) := by
      rw [hc, WithTop.coe_le_coe]
      constructor
      · rintro ⟨c', hleast', hle⟩
        rwa [hleast.unique hleast']
      · exact fun hle => ⟨c, hleast, hle⟩
    cases h
    unfold members
    by_cases hin : Near m threshold polyline stop
    · rw [if_pos (hnear.mp hin), List.filter_cons_of_pos (by simpa using hin), List.map_cons,
        ih hrest]
      rfl
    · rw [if_neg (mt hnear.mpr hin), List.filter_cons_of_neg (by simpa using hin), ih hrest]
      rfl

omit [Field α] in
/-- Sorted and numbered, the candidates are the same stops. -/
theorem stopRowsOf_perm (found : List (α × StopEntry α)) :
    ((stopRowsOf found).map StopRow.place).Perm (found.map fun p => p.2.place) := by
  have hplaces : (stopRowsOf found).map StopRow.place =
      (((found.mergeSort fun a b => decide (a.1 ≤ b.1)).zipIdx 1).map Prod.fst).map
        fun p => p.2.place := by
    unfold stopRowsOf
    rw [List.map_map, List.map_map]
    rfl
  rw [hplaces, List.zipIdx_map_fst]
  exact (List.mergeSort_perm _ _).map _

omit [Field α] in
theorem stopRowsOf_sequence (found : List (α × StopEntry α)) :
    (stopRowsOf found).map (·.stopSequence) = List.range' 1 found.length := by
  have hnumbers : (stopRowsOf found).map (·.stopSequence) =
      ((found.mergeSort fun a b => decide (a.1 ≤ b.1)).zipIdx 1).map Prod.snd := by
    unfold stopRowsOf
    rw [List.map_map]
    rfl
  rw [hnumbers, List.zipIdx_map_snd, List.length_mergeSort]

end Members

/-! ## The stops of a shape -/

section Shape

variable {α : Type} [Field α] [LinearOrder α] [IsOrderedAddMonoid α] {m : MathFns α}
  {threshold : α} {stops : List (StopEntry α)}

/-- `build_stops` returns each of its rows once, in their order, with a progress that does not
decrease. -/
theorem buildStops_rows {stopRows : List (StopRow α)} {polyline : List (PolyPoint α)}
    {built : List (BuiltStop α)} (h : buildStops m stopRows polyline = .ok built) :
    built.map (·.toStopRow) = stopRows ∧ (built.map (·.progressM)).Pairwise (· ≤ ·) := by
  obtain ⟨progress, hprogress, hlen, hrows⟩ := buildStops_entry h
  obtain ⟨hcount, hsorted⟩ := assignStopsMonotonic_nondecreasing m hprogress
  have hstops : built.map (·.toStopRow) = stopRows := by
    refine map_eq_of_entries hlen fun k b hb => ?_
    obtain ⟨row, pm, proj, hrow, -, -, rfl⟩ := (hrows k b).mp hb
    exact hrow
  have hpms : built.map (·.progressM) = progress := by
    refine map_eq_of_entries (hlen.trans hcount.symm) fun k b hb => ?_
    obtain ⟨row, pm, proj, -, hpm, -, rfl⟩ := (hrows k b).mp hb
    exact hpm
  rw [hpms]
  exact ⟨hstops, hsorted⟩

/-- What the geometry of a shape with these points has to be. -/
structure ShapeFaithful (m : MathFns α) (threshold : α) (stops : List (StopEntry α))
    (points : List (RawPoint α)) (shape : ShapeGeometry α) : Prop where
  members : points ≠ [] → (shape.stops.map fun e => e.toStopRow.place).Perm
    ((Progression.members m threshold (buildPolyline (haversineM m) points) stops).map
      StopEntry.place)
  numbered : shape.stops.map (·.stopSequence) = List.range' 1 shape.stops.length
  nondecreasing : (shape.stops.map (·.progressM)).Pairwise (· ≤ ·)

theorem buildShapeGeometry_faithful {shapeId : String} {points : List (RawPoint α)}
    {shape : ShapeGeometry α}
    (h : buildShapeGeometry m threshold stops shapeId points = .ok shape) :
    shape.shapeId = shapeId ∧ ShapeFaithful m threshold stops points shape := by
  obtain ⟨found, hfound, h⟩ := bind_ok.mp h
  obtain ⟨built, hbuilt, h⟩ := bind_ok.mp h
  cases h
  obtain ⟨hrows, hsorted⟩ := buildStops_rows hbuilt
  have hcount : built.length = found.length := by
    have hlen := congrArg List.length hrows
    simpa [stopRowsOf] using hlen
  refine ⟨rfl, fun hne => ?_, ?_, ?_⟩
  · have hplaces := stopRowsOf_perm found
    rw [← hrows, List.map_map] at hplaces
    rw [← candidates_members (buildPolyline_ne_nil hne) hfound, List.map_map, List.map_map]
    exact hplaces
  · have hnumbers := stopRowsOf_sequence found
    rw [← hrows, List.map_map, ← hcount] at hnumbers
    rw [List.map_map, List.length_map]
    exact hnumbers
  · rw [List.map_map]
    exact hsorted

/-! ## The stops of a route -/

/-- What the geometry of a route has to be. -/
structure RouteFaithful (m : MathFns α) (threshold : α) (route : RouteEntry)
    (shapes : Dict String (List (RawPoint α))) (stops : List (StopEntry α))
    (geometry : RouteGeometry α) : Prop where
  order : geometry.shapes.map (·.shapeId) =
    (route.shapeIds.getD []).filter fun shapeId => shapes.contains shapeId
  shapes : ∀ shape ∈ geometry.shapes, ∃ points, shapes.get? shape.shapeId = some points ∧
    ShapeFaithful m threshold stops points shape
  merged : geometry.stops = Dict.firstBy (·.stopId)
    (geometry.shapes.flatMap fun shape => shape.stops.map ShapeStopEntry.merged)

theorem buildShapes_faithful {shapes : Dict String (List (RawPoint α))} {shapeIds : List String}
    {entries : List (ShapeGeometry α)}
    (h : buildShapes m threshold shapes stops shapeIds = .ok entries) :
    entries.map (·.shapeId) = shapeIds.filter (fun shapeId => shapes.contains shapeId) ∧
      ∀ shape ∈ entries, ∃ points, shapes.get? shape.shapeId = some points ∧
        ShapeFaithful m threshold stops points shape := by
  induction shapeIds generalizing entries with
  | nil =>
    cases h
    exact ⟨rfl, fun shape hshape => (nomatch hshape)⟩
  | cons shapeId shapeIds ih =>
    rw [buildShapes] at h
    cases hget : shapes.get? shapeId with
    | none =>
      rw [hget] at h
      rw [List.filter_cons_of_neg (by simp [Dict.contains, hget])]
      exact ih h
    | some points =>
      rw [hget] at h
      obtain ⟨entry, hentry, h⟩ := bind_ok.mp h
      obtain ⟨rest, hrest, h⟩ := bind_ok.mp h
      cases h
      obtain ⟨horder, hrest⟩ := ih hrest
      obtain ⟨rfl, hfaithful⟩ := buildShapeGeometry_faithful hentry
      rw [List.filter_cons_of_pos (by simp [Dict.contains, hget]), List.map_cons, horder]
      exact ⟨rfl, List.forall_mem_cons.mpr ⟨⟨points, hget, hfaithful⟩, hrest⟩⟩

omit [Field α] [LinearOrder α] [IsOrderedAddMonoid α] in
/-- The merge of the shapes keeps the first occurrence of each id. -/
theorem mergeStops_firstBy (entries : List (ShapeGeometry α)) :
    (entries.foldl (fun merged e => mergeStops merged e.stops) Dict.empty).values =
      Dict.firstBy (·.stopId) (entries.flatMap fun e => e.stops.map ShapeStopEntry.merged) := by
  have hfold : ∀ (l : List (ShapeStopEntry α)) (merged : Dict String (MergedStop α)),
      mergeStops merged l =
        (l.map ShapeStopEntry.merged).foldl (fun d e => d.setAbsent e.stopId e) merged := by
    intro l merged
    rw [List.foldl_map]
    rfl
  simp only [hfold]
  rw [← List.foldl_flatMap, Dict.values_foldl_setAbsent]
  simp [Dict.values, Dict.contains, Dict.empty, Dict.get?, Dict.lookupEntry]

/-- A geometry that is built loses and doubles no stop. -/
theorem buildRouteGeometry_faithful {route : RouteEntry}
    {shapes : Dict String (List (RawPoint α))} {geometry : RouteGeometry α}
    (h : buildRouteGeometry m threshold route shapes stops = .ok geometry) :
    RouteFaithful m threshold route shapes stops geometry := by
  obtain ⟨entries, hentries, h⟩ := bind_ok.mp h
  cases h
  obtain ⟨horder, hshapes⟩ := buildShapes_faithful hentries
  exact ⟨horder, hshapes, mergeStops_firstBy entries⟩

end Shape

/-! ## Over the reals -/

/-- A faithful geometry is built if and only if there is no stop to project or no shape of the
route has, in a kept column, a distance between two neighbours at the same place; in the exact
arithmetic of the reals (on floats the cosine at a pole is not zero). -/
theorem route_stops_iff (threshold : ℝ) (route : RouteEntry)
    (shapes : Dict String (List (RawPoint ℝ))) (stops : List (StopEntry ℝ)) :
    (∃ geometry, buildRouteGeometry realMath threshold route shapes stops = .ok geometry ∧
        RouteFaithful realMath threshold route shapes stops geometry) ↔
      (stops = [] ∨ ∀ shapeId ∈ route.shapeIds.getD [], ∀ points,
        shapes.get? shapeId = some points → RepeatsShort points) := by
  rw [← buildRouteGeometry_short_iff threshold route shapes stops]
  constructor
  · exact fun ⟨geometry, h, _⟩ => ⟨geometry, h⟩
  · exact fun ⟨geometry, h⟩ => ⟨geometry, h, buildRouteGeometry_faithful h⟩

/-- The route of one shape, a point given twice, has no geometry once there is a stop. -/
theorem repeated_loses_stops : ¬∀ (threshold : ℝ) (route : RouteEntry)
    (shapes : Dict String (List (RawPoint ℝ))) (stops : List (StopEntry ℝ)),
    ∃ geometry, buildRouteGeometry realMath threshold route shapes stops = .ok geometry ∧
      RouteFaithful realMath threshold route shapes stops geometry := by
  intro h
  obtain ⟨geometry, hgeometry, -⟩ := h 50 ⟨"r1", none, none, none, some ["s1"]⟩
    (Dict.ofList [("s1", repeated)]) [⟨"a", none, 0, 0⟩]
  rcases (buildRouteGeometry_short_iff _ _ _ _).mp ⟨geometry, hgeometry⟩ with hnone | hshort
  · cases hnone
  · exact repeated_not_short (hshort "s1" (List.mem_singleton_self _) repeated rfl)

end Progression

end DatabusSim
