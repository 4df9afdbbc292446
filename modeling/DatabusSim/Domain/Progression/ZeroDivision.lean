import DatabusSim.Domain.Progression.Polylines
import DatabusSim.Domain.Progression.RealGeo

/-!
# Projections that divide by zero

Over the reals, a segment divides by zero when it joins two points at the same
place and is not degenerate. The haversine fallback gives such a segment the length
0; a kept column may give it any.
-/

namespace DatabusSim

namespace Progression

/-! ## The functions over the projections -/

section Loops

variable {α : Type} [Field α] [LinearOrder α]

/-- No segment of the polyline divides by zero. -/
def Projectable (m : MathFns α) (polyline : List (PolyPoint α)) : Prop :=
  ∀ s ∈ segments polyline, ¬ DividesByZero m s.1 s.2

variable {m : MathFns α} {polyline : List (PolyPoint α)}

theorem projectAll_ok_iff {stopRows : List (StopRow α)} (hne : stopRows ≠ []) :
    (∃ table, projectAll m stopRows (segments polyline) = .ok table) ↔
      Projectable m polyline := by
  unfold projectAll
  simp only [mapM_ok_iff, projectPointToSegment_ok_iff]
  obtain ⟨row, hrow⟩ := List.exists_mem_of_ne_nil stopRows hne
  exact ⟨fun h => h row hrow, fun h _ _ => h⟩

theorem assignStopsMonotonic_ok_iff (stopRows : List (StopRow α)) :
    (∃ progress, assignStopsMonotonic m stopRows polyline = .ok progress) ↔
      (stopRows = [] ∨ Projectable m polyline) := by
  unfold assignStopsMonotonic
  by_cases hempty : stopRows = []
  · simp [hempty]
  by_cases hsegs : polyline.length - 1 = 0
  · have hnil : segments polyline = [] :=
      List.length_eq_zero_iff.mp (by rw [segments_length, hsegs])
    simp [hempty, hsegs, Projectable, hnil]
  · simp only [List.isEmpty_iff, hempty, hsegs, if_false, false_or]
    rw [← projectAll_ok_iff hempty]
    exact bind_pure_exists_ok

theorem buildStops_ok_iff (stopRows : List (StopRow α)) :
    (∃ built, buildStops m stopRows polyline = .ok built) ↔
      (stopRows = [] ∨ Projectable m polyline) := by
  rw [← assignStopsMonotonic_ok_iff]
  constructor
  · rintro ⟨built, h⟩
    obtain ⟨progress, hprogress, -⟩ := bind_ok.mp h
    exact ⟨progress, hprogress⟩
  · rintro ⟨progress, hprogress⟩
    refine bind_exists_ok.mpr ⟨progress, hprogress, (mapM_ok_iff _ _).mpr fun r hr => ?_⟩
    -- the projections of the second loop are among those of the first
    have hproj : Projectable m polyline := by
      rcases (assignStopsMonotonic_ok_iff stopRows).mp ⟨progress, hprogress⟩ with rfl | h
      · cases hr
      · exact h
    obtain ⟨proj, hproj⟩ :=
      (projectPointToPolyline_ok_iff m r.1.lat r.1.lon polyline).mpr hproj
    exact ⟨_, bind_ok.mpr ⟨proj, hproj, rfl⟩⟩

theorem candidates_ok_iff (threshold : α) (stops : List (StopEntry α)) :
    (∃ found, candidates m threshold polyline stops = .ok found) ↔
      (stops = [] ∨ Projectable m polyline) := by
  induction stops with
  | nil => simp [candidates]
  | cons stop stops ih =>
    simp only [reduceCtorEq, false_or]
    constructor
    · rintro ⟨found, h⟩
      obtain ⟨proj, hproj, -⟩ := bind_ok.mp h
      exact (projectPointToPolyline_ok_iff m stop.lat stop.lon polyline).mp ⟨proj, hproj⟩
    · intro hsafe
      obtain ⟨proj, hproj⟩ :=
        (projectPointToPolyline_ok_iff m stop.lat stop.lon polyline).mpr hsafe
      obtain ⟨rest, hrest⟩ := ih.mpr (.inr hsafe)
      exact ⟨_, bind_ok.mpr ⟨proj, hproj, bind_ok.mpr ⟨rest, hrest, rfl⟩⟩⟩

theorem buildShapeGeometry_ok_iff (threshold : α) (stops : List (StopEntry α))
    (shapeId : String) (points : List (RawPoint α)) :
    (∃ entry, buildShapeGeometry m threshold stops shapeId points = .ok entry) ↔
      (stops = [] ∨ Projectable m (buildPolyline (haversineM m) points)) := by
  rw [← candidates_ok_iff threshold]
  constructor
  · rintro ⟨entry, h⟩
    obtain ⟨found, hfound, -⟩ := bind_ok.mp h
    exact ⟨found, hfound⟩
  · rintro ⟨found, hfound⟩
    have hbuilt : ∃ built, buildStops m (stopRowsOf found)
        (buildPolyline (haversineM m) points) = .ok built := by
      rw [buildStops_ok_iff]
      rcases (candidates_ok_iff threshold stops).mp ⟨found, hfound⟩ with rfl | hsafe
      · cases hfound
        exact .inl (by simp [stopRowsOf])
      · exact .inr hsafe
    obtain ⟨built, hbuilt⟩ := hbuilt
    exact ⟨_, bind_ok.mpr ⟨found, hfound, bind_ok.mpr ⟨built, hbuilt, rfl⟩⟩⟩

theorem buildShapes_ok_iff (threshold : α) (shapes : Dict String (List (RawPoint α)))
    (stops : List (StopEntry α)) (shapeIds : List String) :
    (∃ entries, buildShapes m threshold shapes stops shapeIds = .ok entries) ↔
      (stops = [] ∨ ∀ shapeId ∈ shapeIds, ∀ points, shapes.get? shapeId = some points →
        Projectable m (buildPolyline (haversineM m) points)) := by
  induction shapeIds with
  | nil => simp [buildShapes]
  | cons shapeId shapeIds ih =>
    rw [buildShapes, List.forall_mem_cons, or_and_left, ← ih]
    cases hget : shapes.get? shapeId with
    | none => simp
    | some points =>
      have hentry := buildShapeGeometry_ok_iff (m := m) threshold stops shapeId points
      simp only [Option.some.injEq, forall_eq']
      rw [← hentry]
      constructor
      · rintro ⟨entries, h⟩
        obtain ⟨entry, hentry, h⟩ := bind_ok.mp h
        obtain ⟨rest, hrest, -⟩ := bind_ok.mp h
        exact ⟨⟨entry, hentry⟩, rest, hrest⟩
      · rintro ⟨⟨entry, hentry⟩, rest, hrest⟩
        exact ⟨_, bind_ok.mpr ⟨entry, hentry, bind_ok.mpr ⟨rest, hrest, rfl⟩⟩⟩

theorem buildRouteGeometry_ok_iff (threshold : α) (route : RouteEntry)
    (shapes : Dict String (List (RawPoint α))) (stops : List (StopEntry α)) :
    (∃ geometry, buildRouteGeometry m threshold route shapes stops = .ok geometry) ↔
      (stops = [] ∨ ∀ shapeId ∈ route.shapeIds.getD [], ∀ points,
        shapes.get? shapeId = some points →
          Projectable m (buildPolyline (haversineM m) points)) := by
  rw [← buildShapes_ok_iff threshold]
  exact bind_pure_exists_ok

end Loops

/-! ## Over the reals -/

/-- If the file's column is kept, it has less than 1e-9 m between two neighbours at the
same place. -/
def RepeatsShort (points : List (RawPoint ℝ)) : Prop :=
  (providedDistsM (haversineM realMath) points).isSome →
    ∀ p q, (p, q) ∈ points.zip points.tail → SamePlace p.lat p.lon q.lat q.lon →
      metres (q.km.getD 0 - p.km.getD 0) < 1e-9

theorem dividesByZero_iff (p q : RawPoint ℝ) (d len : ℝ) :
    DividesByZero realMath ⟨p.lat, p.lon, d⟩ ⟨q.lat, q.lon, d + len⟩ ↔
      1e-9 ≤ len ∧ SamePlace p.lat p.lon q.lat q.lon := by
  rw [DividesByZero, segLenSq_eq_zero, Degenerate, add_sub_cancel_left, not_lt]

theorem projectable_iff (points : List (RawPoint ℝ)) :
    Projectable realMath (polylineOf points) ↔ RepeatsShort points := by
  constructor
  · intro hsafe hkept p q hpq hsame
    obtain ⟨d, hseg⟩ := exists_segment (haversineM realMath) hpq
    have hdiv := hsafe _ hseg
    rw [dividesByZero_iff, givenLenM, if_pos hkept] at hdiv
    exact not_le.mp fun hlong => hdiv ⟨hlong, hsame⟩
  · rintro hshort ⟨v, w⟩ hseg hdiv
    obtain ⟨p, q, d, hpq, rfl, rfl⟩ := of_mem_segments hseg
    obtain ⟨hlong, hsame⟩ := (dividesByZero_iff p q d _).mp hdiv
    unfold givenLenM at hlong
    split_ifs at hlong with hkept
    · exact hlong.not_gt (hshort hkept p q hpq hsame)
    · -- the fallback gives them the length 0
      rw [haversineM_samePlace hsame] at hlong
      norm_num at hlong

/-- The geometry of a route is built when there is no stop to project, or every shape it lists
can be projected onto. -/
theorem buildRouteGeometry_short_iff (threshold : ℝ) (route : RouteEntry)
    (shapes : Dict String (List (RawPoint ℝ))) (stops : List (StopEntry ℝ)) :
    (∃ geometry, buildRouteGeometry realMath threshold route shapes stops = .ok geometry) ↔
      (stops = [] ∨ ∀ shapeId ∈ route.shapeIds.getD [], ∀ points,
        shapes.get? shapeId = some points → RepeatsShort points) := by
  rw [buildRouteGeometry_ok_iff]
  simp only [← projectable_iff]
  rfl

/-- No projection onto the polyline of the points divides by zero, for any position
and any stops. -/
def NeverDividesByZero (points : List (RawPoint ℝ)) : Prop :=
  (∀ lat lon, ∀ s ∈ segments (polylineOf points),
    ∃ r, projectPointToSegment realMath lat lon s.1 s.2 = .ok r) ∧
  (∀ lat lon, ∃ r, projectPointToPolyline realMath lat lon (polylineOf points) = .ok r) ∧
  ∀ stopRows, ∃ built, buildStops realMath stopRows (polylineOf points) = .ok built

/-- The projections onto a built polyline divide by zero exactly when the kept column
puts a distance between two neighbours at the same place; the geometry of a route
does when one of its shapes is such and there is a stop to project. This is the exact arithmetic
of the reals: for floats the cosine at a pole is not zero, and the squares of differences below
`1e-162` degrees are. -/
theorem never_divides_iff (points : List (RawPoint ℝ)) (threshold : ℝ) (route : RouteEntry)
    (shapes : Dict String (List (RawPoint ℝ))) (stops : List (StopEntry ℝ)) :
    (NeverDividesByZero points ↔ RepeatsShort points) ∧
      ((∃ geometry, buildRouteGeometry realMath threshold route shapes stops = .ok geometry) ↔
        (stops = [] ∨ ∀ shapeId ∈ route.shapeIds.getD [], ∀ points,
          shapes.get? shapeId = some points → RepeatsShort points)) := by
  constructor
  · rw [← projectable_iff]
    constructor
    · rintro ⟨-, hpolyline, -⟩
      exact (projectPointToPolyline_ok_iff realMath 0 0 _).mp (hpolyline 0 0)
    · intro hsafe
      refine ⟨fun lat lon s hs => ?_, fun lat lon => ?_, fun stopRows => ?_⟩
      · exact (projectPointToSegment_ok_iff realMath lat lon s.1 s.2).mpr (hsafe s hs)
      · exact (projectPointToPolyline_ok_iff realMath lat lon _).mpr hsafe
      · exact (buildStops_ok_iff stopRows).mpr (.inr hsafe)
  · exact buildRouteGeometry_short_iff threshold route shapes stops

/-- One point twice in the file, a kilometre apart in its column: the haversine
length of the shape is 0, so the band is not checked. -/
def repeated : List (RawPoint ℝ) := [⟨0, 0, some 0⟩, ⟨0, 0, some 1⟩]

theorem repeated_not_short : ¬ RepeatsShort repeated := by
  intro hshort
  have hsame : SamePlace 0 0 0 0 := ⟨rfl, .inl rfl⟩
  have htotal : havCum (haversineM realMath) repeated = [0, 0] := by
    simp [havCum, havCumFrom, repeated, haversineM_samePlace hsame]
  have hkept : (providedDistsM (haversineM realMath) repeated).isSome := by
    unfold providedDistsM
    rw [htotal]
    simp [repeated, validateDistsM, nonDecreasing]
  have hlen := hshort hkept ⟨0, 0, some 0⟩ ⟨0, 0, some 1⟩ (by simp [repeated]) hsame
  norm_num at hlen

theorem repeated_divides_by_zero : ¬ NeverDividesByZero repeated := by
  rintro ⟨-, hpolyline, -⟩
  have hsafe := (projectPointToPolyline_ok_iff realMath 0 0 _).mp (hpolyline 0 0)
  exact repeated_not_short ((projectable_iff repeated).mp hsafe)

end Progression

end DatabusSim
