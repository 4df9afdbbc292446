import Mathlib.Analysis.Real.Pi.Bounds
import DatabusSim.Domain.Progression.Polylines
import DatabusSim.Domain.Progression.RealGeo

/-!
# The progress of a projection and its foot

`project_point_to_segment` measures the cross-track distance to a foot in the local
plane and adds the planar length up to there to the segment's cumulative distance.
Interpolating at that progress leads back to the foot when the segment's two lengths,
planar and cumulative, are the same, or the foot is the segment's start.
-/

namespace DatabusSim

namespace Progression

variable (lat lon : ℝ) (v w : PolyPoint ℝ)

/-- The clamped parameter `t` of the projection. -/
noncomputable def clampedT : ℝ :=
  max 0 (min 1 (segDot realMath lat lon v w / segLenSq realMath v w))

/-- `(fx, fy)`, the foot in the plane of the segment's start; of a degenerate segment
the start itself. -/
noncomputable def foot : ℝ × ℝ :=
  if Degenerate v w then (0, 0)
  else
    ((toPlane realMath v w.lat w.lon).1 * clampedT lat lon v w,
      (toPlane realMath v w.lat w.lon).2 * clampedT lat lon v w)

/-- The place at a progress, interpolated linearly in cumulative distance. -/
noncomputable def placeAt (progressM : ℝ) : ℝ × ℝ :=
  let t := (progressM - v.cumDistM) / (w.cumDistM - v.cumDistM)
  (v.lat + (w.lat - v.lat) * t, v.lon + (w.lon - v.lon) * t)

/-- The progress that the projection returns is on the segment, and the place there
is the foot. -/
def FootAtProgress : Prop :=
  ∃ progressM crossM, projectPointToSegment realMath lat lon v w = .ok (progressM, crossM) ∧
    v.cumDistM ≤ progressM ∧ progressM ≤ w.cumDistM ∧
    toPlane realMath v (placeAt v w progressM).1 (placeAt v w progressM).2 = foot lat lon v w

theorem clampedT_mem : 0 ≤ clampedT lat lon v w ∧ clampedT lat lon v w ≤ 1 :=
  ⟨le_max_left _ _, max_le zero_le_one (min_le_left _ _)⟩

variable {lat lon v w}

theorem clampedT_eq_zero (hlen : 0 < segLenSq realMath v w) :
    clampedT lat lon v w = 0 ↔ segDot realMath lat lon v w ≤ 0 := by
  have hquot : segDot realMath lat lon v w / segLenSq realMath v w ≤ 0 ↔
      segDot realMath lat lon v w ≤ 0 := by
    rw [div_le_iff₀ hlen, zero_mul]
  rw [clampedT, max_eq_left_iff, min_le_iff, hquot]
  simp

/-- What the projection onto a segment returns: the planar length up to the foot is
added, and the cross-track distance is measured to the foot. -/
theorem project_nondegenerate (hdeg : ¬ Degenerate v w) (hlen : 0 < segLenSq realMath v w) :
    projectPointToSegment realMath lat lon v w =
      .ok (v.cumDistM + clampedT lat lon v w * √(segLenSq realMath v w),
        √(((toPlane realMath v lat lon).1 - (foot lat lon v w).1) ^ 2 +
          ((toPlane realMath v lat lon).2 - (foot lat lon v w).2) ^ 2)) := by
  unfold projectPointToSegment foot
  rw [if_neg hdeg, if_neg hdeg, pyDiv, if_neg hlen.ne']
  rfl

theorem project_degenerate (hdeg : Degenerate v w) :
    projectPointToSegment realMath lat lon v w =
      .ok (v.cumDistM, haversineM realMath lat lon v.lat v.lon) := by
  rw [projectPointToSegment, if_pos hdeg]

/-- The plane is linear in the place. -/
theorem toPlane_placeAt (progressM : ℝ) :
    toPlane realMath v (placeAt v w progressM).1 (placeAt v w progressM).2 =
      ((toPlane realMath v w.lat w.lon).1 *
          ((progressM - v.cumDistM) / (w.cumDistM - v.cumDistM)),
        (toPlane realMath v w.lat w.lon).2 *
          ((progressM - v.cumDistM) / (w.cumDistM - v.cumDistM))) := by
  simp only [toPlane, placeAt, realMath, Prod.mk.injEq]
  constructor <;> ring

/-- Scaling a segment that has a length tells the factors apart. -/
theorem scaled_eq_iff (hlen : 0 < segLenSq realMath v w) (s t : ℝ) :
    ((toPlane realMath v w.lat w.lon).1 * s, (toPlane realMath v w.lat w.lon).2 * s) =
        ((toPlane realMath v w.lat w.lon).1 * t, (toPlane realMath v w.lat w.lon).2 * t) ↔
      s = t := by
  refine ⟨fun h => ?_, fun h => by rw [h]⟩
  obtain ⟨hx, hy⟩ := Prod.mk.inj h
  by_contra hne
  have hzero : segLenSq realMath v w = 0 := by
    have hx0 : (toPlane realMath v w.lat w.lon).1 = 0 := by
      rcases mul_eq_mul_left_iff.mp hx with h | h
      · exact absurd h hne
      · exact h
    have hy0 : (toPlane realMath v w.lat w.lon).2 = 0 := by
      rcases mul_eq_mul_left_iff.mp hy with h | h
      · exact absurd h hne
      · exact h
    simp [segLenSq, hx0, hy0]
  exact hlen.ne' hzero

theorem footAtProgress_degenerate (hdeg : Degenerate v w) (hcum : v.cumDistM < w.cumDistM) :
    FootAtProgress lat lon v w := by
  refine ⟨_, _, project_degenerate hdeg, le_rfl, hcum.le, ?_⟩
  rw [toPlane_placeAt, foot, if_pos hdeg]
  simp

/-- Of a segment that is divided by, the two lengths must agree. -/
theorem footAtProgress_nondegenerate (hdeg : ¬ Degenerate v w)
    (hlen : 0 < segLenSq realMath v w) (hcum : v.cumDistM < w.cumDistM) :
    FootAtProgress lat lon v w ↔ (segDot realMath lat lon v w ≤ 0 ∨
      √(segLenSq realMath v w) = w.cumDistM - v.cumDistM) := by
  have hD : 0 < w.cumDistM - v.cumDistM := sub_pos.mpr hcum
  obtain ⟨ht0, ht1⟩ := clampedT_mem lat lon v w
  rw [← clampedT_eq_zero hlen]
  have hplace : toPlane realMath v
        (placeAt v w (v.cumDistM + clampedT lat lon v w * √(segLenSq realMath v w))).1
        (placeAt v w (v.cumDistM + clampedT lat lon v w * √(segLenSq realMath v w))).2 =
      foot lat lon v w ↔ (clampedT lat lon v w = 0 ∨
        √(segLenSq realMath v w) = w.cumDistM - v.cumDistM) := by
    rw [toPlane_placeAt, foot, if_neg hdeg, scaled_eq_iff hlen, add_sub_cancel_left,
      div_eq_iff hD.ne', mul_eq_mul_left_iff, or_comm]
  constructor
  · rintro ⟨progressM, crossM, hproj, -, -, hfoot⟩
    rw [project_nondegenerate hdeg hlen] at hproj
    cases hproj
    exact hplace.mp hfoot
  · intro hcond
    refine ⟨_, _, project_nondegenerate hdeg hlen, ?_, ?_, hplace.mpr hcond⟩
    · have hnonneg := mul_nonneg ht0 (Real.sqrt_nonneg (segLenSq realMath v w))
      linarith
    · rcases hcond with hzero | heq
      · rw [hzero, zero_mul, add_zero]
        exact hcum.le
      · rw [heq]
        have hle := mul_le_of_le_one_left hD.le ht1
        linarith

/-- Projection and interpolation agree on a segment exactly when it is degenerate, the
point projects onto its start, or its planar length is its cumulative one. -/
theorem foot_at_progress_iff (hcum : v.cumDistM < w.cumDistM)
    (hlen : 0 < segLenSq realMath v w) :
    FootAtProgress lat lon v w ↔ (Degenerate v w ∨ segDot realMath lat lon v w ≤ 0 ∨
      √(segLenSq realMath v w) = w.cumDistM - v.cumDistM) := by
  by_cases hdeg : Degenerate v w
  · exact ⟨fun _ => .inl hdeg, fun _ => footAtProgress_degenerate hdeg hcum⟩
  · rw [footAtProgress_nondegenerate hdeg hlen hcum]
    exact ⟨.inr, fun h => h.resolve_left hdeg⟩

/-! ## A column that is shorter than the ground -/

/-- One degree of the equator, 111.2 km of ground, with 100 km in the column. -/
def shortColumn : List (RawPoint ℝ) := [⟨0, 0, some 0⟩, ⟨0, 1, some 100⟩]

theorem haversineM_degree :
    haversineM realMath 0 0 0 1 = 6371000 * (Real.pi / 180) := by
  have hpos : 0 < Real.pi / 180 / 2 := by positivity
  have hle : Real.pi / 180 / 2 ≤ Real.pi / 2 := by linarith [Real.pi_pos]
  have hsin : √(Real.sin (Real.pi / 180 / 2) ^ 2) = Real.sin (Real.pi / 180 / 2) :=
    Real.sqrt_sq (Real.sin_nonneg_of_nonneg_of_le_pi hpos.le (by linarith [Real.pi_pos]))
  have hasin : Real.arcsin (Real.sin (Real.pi / 180 / 2)) = Real.pi / 180 / 2 :=
    Real.arcsin_sin (by linarith) hle
  simp [haversineM, realMath, earthRadiusM, hsin, hasin]
  ring

/-- The column is within the band, so the polyline has it. -/
theorem polylineOf_shortColumn : polylineOf shortColumn = [⟨0, 0, 0⟩, ⟨0, 1, 100000⟩] := by
  have htotal : (havCum (haversineM realMath) shortColumn).getLastD 0 =
      6371000 * (Real.pi / 180) := by
    simp [havCum, havCumFrom, shortColumn, haversineM_degree]
  have hpos : (0 : ℝ) < 6371000 * (Real.pi / 180) := by positivity
  have hband : 1 / 2 ≤ (100000 : ℝ) / (6371000 * (Real.pi / 180)) ∧
      (100000 : ℝ) / (6371000 * (Real.pi / 180)) ≤ 2 := by
    rw [le_div_iff₀ hpos, div_le_iff₀ hpos]
    constructor <;> linarith [Real.pi_gt_three, Real.pi_le_four]
  have hkept : providedDistsM (haversineM realMath) shortColumn = some [0, 100000] := by
    unfold providedDistsM
    rw [htotal]
    norm_num [shortColumn, validateDistsM, nonDecreasing, hpos, hband]
  rw [polylineOf, buildPolyline_kept hkept]
  simp [withDists, shortColumn]

theorem segLenSq_degree (d e : ℝ) :
    segLenSq realMath ⟨0, 0, d⟩ ⟨0, 1, e⟩ = (6371000 * (Real.pi / 180)) ^ 2 := by
  simp [segLenSq, toPlane, realMath, earthRadiusM]

theorem foot_at_progress_iff_behind : FootAtProgress 0 (-1) ⟨0, 0, 0⟩ ⟨0, 1, 100000⟩ := by
  refine (foot_at_progress_iff (by norm_num) ?_).mpr (.inr (.inl ?_))
  · rw [segLenSq_degree]
    positivity
  · -- the point is west of the start
    simp only [segDot, toPlane, realMath, earthRadiusM]
    norm_num
    positivity

/-- A point at the end of that degree is projected 11 km beyond the end. -/
theorem short_column_overshoots : ¬ ∀ points v w, (v, w) ∈ segments (polylineOf points) →
    v.cumDistM < w.cumDistM → 0 < segLenSq realMath v w →
      ∀ lat lon, FootAtProgress lat lon v w := by
  intro h
  have hmem : ((⟨0, 0, 0⟩, ⟨0, 1, 100000⟩) : PolyPoint ℝ × PolyPoint ℝ) ∈
      segments (polylineOf shortColumn) := by
    rw [polylineOf_shortColumn]
    simp [segments]
  have hlen : 0 < segLenSq realMath ⟨0, 0, 0⟩ ⟨0, 1, 100000⟩ := by
    rw [segLenSq_degree]
    positivity
  have hdeg : ¬ Degenerate (⟨0, 0, 0⟩ : PolyPoint ℝ) ⟨0, 1, 100000⟩ := by
    norm_num [Degenerate]
  have hfoot := h shortColumn _ _ hmem (by norm_num) hlen 0 1
  rcases (footAtProgress_nondegenerate hdeg hlen (by norm_num)).mp hfoot with hdot | heq
  · have hpos : 0 < segDot realMath 0 1 ⟨0, 0, 0⟩ ⟨0, 1, 100000⟩ := by
      simp only [segDot, toPlane, realMath, earthRadiusM]
      norm_num
    linarith
  · rw [segLenSq_degree, Real.sqrt_sq (by positivity)] at heq
    linarith [Real.pi_gt_three]

end Progression

end DatabusSim
