import DatabusSim.Domain.Kinematics
import DatabusSim.Domain.Progression.Polylines

/-!
# The along-track coordinates of vehicles and stops

`step_vehicle` and `interpolate` measure along the file's kilometres as they
are; the stops are projected onto `build_polyline`, which shifts the column to
start at 0 and drops one that is not within a factor of two of the haversine
length. The two scales are the same exactly when neither happens.
-/

namespace DatabusSim

/-- The point as `build_polyline` reads it. -/
def ShapePoint.raw (p : ShapePoint) : RawPoint ℚ := ⟨p.lat, p.lon, some p.distKm⟩

namespace Progression

section Validation

variable {α : Type}

theorem nonDecreasing_iff [LinearOrder α] (dists : List α) :
    nonDecreasing dists = true ↔ dists.Pairwise (· ≤ ·) := by
  induction dists with
  | nil => simp [nonDecreasing]
  | cons d rest ih =>
    cases rest with
    | nil => simp [nonDecreasing]
    | cons e rest =>
      by_cases hlt : e < d
      · -- the first pair is out of order
        have hbad : ¬ (d :: e :: rest).Pairwise (· ≤ ·) := fun h =>
          hlt.not_ge (List.rel_of_pairwise_cons h List.mem_cons_self)
        simp [nonDecreasing, hlt, hbad]
      · have hle : d ≤ e := not_lt.mp hlt
        rw [nonDecreasing, if_neg hlt, ih]
        refine ⟨fun h => List.pairwise_cons.mpr ⟨fun x hx => ?_, h⟩, List.Pairwise.of_cons⟩
        rcases List.mem_cons.mp hx with rfl | hx
        · exact hle
        · exact hle.trans (List.rel_of_pairwise_cons h hx)

/-- A non-decreasing column of the right length passes when it is within the band. -/
theorem validateDistsM_iff [Field α] [LinearOrder α] [CharZero α] {dists : List α} {nPoints : Nat}
    {total : α} (hlen : dists.length = nPoints) (hsorted : dists.Pairwise (· ≤ ·)) :
    validateDistsM dists nPoints total = true ↔
      (0 < total → 1 / 2 ≤ (dists.getLastD 0 - dists.headD 0) / total ∧
        (dists.getLastD 0 - dists.headD 0) / total ≤ 2) := by
  have hmono := (nonDecreasing_iff dists).mpr hsorted
  have hlow : (0.5 : α) = 1 / 2 := by norm_num
  have hhigh : (2.0 : α) = 2 := by norm_num
  by_cases htotal : 0 < total
  · simp [validateDistsM, hlen, hmono, htotal, hlow, hhigh]
  · simp [validateDistsM, hlen, hmono, htotal]

end Validation

variable (geo : Geo) (points : List ShapePoint)

/-- The haversine length of the shape. -/
def haversineTotalM : ℚ := (havCum geo.haversineM (points.map ShapePoint.raw)).getLastD 0

/-- The file's column starts at 0 and is within the band of `_validate_dists_m`. -/
def FromZeroInBand : Prop :=
  ∀ first last, points.head? = some first → points.getLast? = some last →
    first.distKm = 0 ∧ (0 < haversineTotalM geo points →
      1 / 2 ≤ last.distKm * 1000 / haversineTotalM geo points ∧
        last.distKm * 1000 / haversineTotalM geo points ≤ 2)

/-- The column is kept or dropped as a whole. -/
theorem providedDistsM_numeric :
    providedDistsM geo.haversineM (points.map ShapePoint.raw) =
      if validateDistsM (points.map fun p => p.distKm * 1000) points.length
        (haversineTotalM geo points) then some (points.map fun p => p.distKm * 1000)
      else none := by
  have hkms : (points.map ShapePoint.raw).mapM (·.km) = some (points.map ShapePoint.distKm) := by
    induction points with
    | nil => rfl
    | cons p points ih => simp [List.mapM_cons, ih, ShapePoint.raw]
  unfold providedDistsM
  simp only [hkms, List.map_map, List.length_map]
  rfl

variable {points} {first last : ShapePoint}

theorem validate_column (hsorted : points.Pairwise fun p q => p.distKm ≤ q.distKm)
    (hfirst : points.head? = some first) (hlast : points.getLast? = some last) :
    validateDistsM (points.map fun p => p.distKm * 1000) points.length
        (haversineTotalM geo points) = true ↔
      (0 < haversineTotalM geo points →
        1 / 2 ≤ (last.distKm * 1000 - first.distKm * 1000) / haversineTotalM geo points ∧
          (last.distKm * 1000 - first.distKm * 1000) / haversineTotalM geo points ≤ 2) := by
  have hmetres : (points.map fun p => p.distKm * 1000).Pairwise (· ≤ ·) := by
    refine List.pairwise_map.mpr (hsorted.imp fun hle => ?_)
    linarith
  have hhead : (points.map fun p => p.distKm * 1000).headD 0 = first.distKm * 1000 := by
    simp [List.headD_eq_head?_getD, hfirst]
  have hend : (points.map fun p => p.distKm * 1000).getLastD 0 = last.distKm * 1000 := by
    simp [List.getLastD_eq_getLast?, hlast]
  rw [validateDistsM_iff (by simp) hmetres, hhead, hend]

/-- The haversine column, from 0 to the haversine length. -/
theorem havCum_ends (hfirst : points.head? = some first) :
    (havCum geo.haversineM (points.map ShapePoint.raw)).headD 0 = 0 := by
  cases points with
  | nil => cases hfirst
  | cons p rest =>
    have hhead := havCumFrom_head geo.haversineM 0 p.raw (rest.map ShapePoint.raw)
    simpa [havCum, List.headD_eq_head?_getD, List.head?_eq_getElem?] using congrArg (·.getD 0) hhead

/-- A kept column is shifted to start at 0. -/
theorem kept_cumDistM (hfirst : points.head? = some first)
    (hvalid : validateDistsM (points.map fun p => p.distKm * 1000) points.length
      (haversineTotalM geo points) = true) :
    (buildPolyline geo.haversineM (points.map ShapePoint.raw)).map (·.cumDistM) =
      points.map fun p => p.distKm * 1000 - first.distKm * 1000 := by
  have hdists := providedDistsM_numeric geo points
  rw [if_pos hvalid] at hdists
  have hhead : (points.map fun p => p.distKm * 1000).headD 0 = first.distKm * 1000 := by
    simp [List.headD_eq_head?_getD, hfirst]
  rw [buildPolyline_kept hdists, withDists_cumDistM (by simp), hhead, List.map_map]
  rfl

/-- A dropped one is replaced by the haversine column. -/
theorem dropped_cumDistM (hfirst : points.head? = some first)
    (hvalid : validateDistsM (points.map fun p => p.distKm * 1000) points.length
      (haversineTotalM geo points) ≠ true) :
    (buildPolyline geo.haversineM (points.map ShapePoint.raw)).map (·.cumDistM) =
      havCum geo.haversineM (points.map ShapePoint.raw) := by
  have hdists := providedDistsM_numeric geo points
  rw [if_neg hvalid] at hdists
  have hne : points.map ShapePoint.raw ≠ [] := fun h => by
    simp [List.map_eq_nil_iff.mp h] at hfirst
  rw [buildPolyline_fallback hdists, withDists_cumDistM (havCum_column _ hne).length_eq]

/-- One along-track coordinate for vehicles and stops: `build_polyline` gives every
vertex the metres that `kinematics` measures there when the shape is empty, or its
column starts at 0 and is within the band; and in no other case. -/
theorem one_coordinate_iff (hsorted : points.Pairwise fun p q => p.distKm ≤ q.distKm) :
    (buildPolyline geo.haversineM (points.map ShapePoint.raw)).map (·.cumDistM) =
        points.map (fun p => p.distKm * 1000) ↔ FromZeroInBand geo points := by
  cases hfirst : points.head? with
  | none =>
    obtain rfl : points = [] := List.head?_eq_none_iff.mp hfirst
    exact ⟨fun _ _ _ h => (nomatch h), fun _ => rfl⟩
  | some first =>
    have hne : points ≠ [] := fun h => by simp [h] at hfirst
    obtain ⟨last, hlast⟩ : ∃ last, points.getLast? = some last :=
      ⟨_, List.getLast?_eq_some_getLast hne⟩
    have hcond : FromZeroInBand geo points ↔ first.distKm = 0 ∧
        (0 < haversineTotalM geo points →
          1 / 2 ≤ last.distKm * 1000 / haversineTotalM geo points ∧
            last.distKm * 1000 / haversineTotalM geo points ≤ 2) := by
      simp [FromZeroInBand, hfirst, hlast]
    have hvalid := validate_column geo hsorted hfirst hlast
    rw [hcond]
    by_cases hkept : validateDistsM (points.map fun p => p.distKm * 1000) points.length
        (haversineTotalM geo points) = true
    · rw [kept_cumDistM geo hfirst hkept]
      constructor
      · intro heq
        have hhead := congrArg List.head? heq
        simp only [List.head?_map, hfirst, Option.map_some, Option.some.injEq] at hhead
        have hzero : first.distKm = 0 := by linarith
        refine ⟨hzero, ?_⟩
        simpa [hzero] using hvalid.mp hkept
      · rintro ⟨hzero, -⟩
        simp [hzero]
    · rw [dropped_cumDistM geo hfirst hkept]
      constructor
      · -- equal columns have equal lengths, so the column was within the band
        intro heq
        have hzero : first.distKm = 0 := by
          have hhead := havCum_ends geo hfirst
          simp [heq, List.headD_eq_head?_getD, hfirst] at hhead
          exact hhead
        have htotal : haversineTotalM geo points = last.distKm * 1000 := by
          simp [haversineTotalM, heq, List.getLastD_eq_getLast?, hlast]
        refine absurd (hvalid.mpr fun hpos => ?_) hkept
        rw [htotal] at hpos
        rw [htotal, hzero, zero_mul, sub_zero, div_self hpos.ne']
        norm_num
      · rintro ⟨hzero, hband⟩
        exact absurd (hvalid.mpr (by simpa [hzero] using hband)) hkept

/-- The haversine distances along the equator, to the metre. -/
def equatorGeo : Geo where
  haversineM _ lon1 _ lon2 := 111195 * |lon2 - lon1|
  bearingDeg _ _ _ _ := 90

theorem one_coordinate_iff_equator :
    FromZeroInBand equatorGeo [⟨0, 0, 0⟩, ⟨0, 1, 111⟩, ⟨0, 2, 223⟩] :=
  (one_coordinate_iff equatorGeo (by decide +kernel)).mp (by decide +kernel)

/-- A column that starts at kilometre 1: the vehicle stands at 1000 on the first vertex,
a stop there at 0. -/
theorem late_column_shifted : ¬ ∀ (geo : Geo) (points : List ShapePoint),
    points.Pairwise (fun p q => p.distKm ≤ q.distKm) →
      (buildPolyline geo.haversineM (points.map ShapePoint.raw)).map (·.cumDistM) =
        points.map fun p => p.distKm * 1000 := by
  intro h
  have hcum := h equatorGeo [⟨0, 0, 1⟩, ⟨0, 1, 112⟩] (by decide +kernel)
  revert hcum
  decide +kernel

end Progression

end DatabusSim
