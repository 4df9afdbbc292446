import Mathlib.Analysis.SpecialFunctions.Trigonometric.Inverse
import DatabusSim.Domain.Progression.Shapes

/-!
# The geometry over the reals

The exact functions behind `math`, the places that the local plane does not tell apart
and the polylines with exact haversine lengths.
-/

namespace DatabusSim

namespace Progression

/-- The exact functions that Python's `math` approximates. -/
noncomputable def realMath : MathFns ℝ where
  radians x := x * (Real.pi / 180)
  sin := Real.sin
  cos := Real.cos
  asin := Real.arcsin
  sqrt := Real.sqrt

theorem radians_eq_zero {x : ℝ} : realMath.radians x = 0 ↔ x = 0 := by
  simp [realMath, Real.pi_ne_zero]

/-- Two points of one latitude with one longitude, or at a pole. -/
def SamePlace (lat0 lon0 lat1 lon1 : ℝ) : Prop :=
  lat1 = lat0 ∧ (lon1 = lon0 ∨ realMath.cos (realMath.radians lat0) = 0)

/-- The divisor is zero between two points at the same place. -/
theorem segLenSq_eq_zero (v w : PolyPoint ℝ) :
    segLenSq realMath v w = 0 ↔ SamePlace v.lat v.lon w.lat w.lon := by
  have hradius : (earthRadiusM : ℝ) ≠ 0 := by norm_num [earthRadiusM]
  simp only [segLenSq, toPlane]
  rw [add_eq_zero_iff_of_nonneg (sq_nonneg _) (sq_nonneg _), sq_eq_zero_iff, sq_eq_zero_iff,
    mul_eq_zero, mul_eq_zero, mul_eq_zero, radians_eq_zero, radians_eq_zero, sub_eq_zero,
    sub_eq_zero]
  simp only [hradius, false_or, SamePlace]
  tauto

/-- So is their haversine distance. -/
theorem haversineM_samePlace {lat0 lon0 lat1 lon1 : ℝ} (h : SamePlace lat0 lon0 lat1 lon1) :
    haversineM realMath lat0 lon0 lat1 lon1 = 0 := by
  obtain ⟨rfl, hlon⟩ := h
  have hlat : realMath.sin (realMath.radians (lat1 - lat1) / 2) = 0 := by simp [realMath]
  have hchord : realMath.cos (realMath.radians lat1) * realMath.cos (realMath.radians lat1) *
      realMath.sin (realMath.radians (lon1 - lon0) / 2) ^ 2 = 0 := by
    rcases hlon with rfl | hpole
    · simp [realMath]
    · simp [hpole]
  simp only [haversineM, hlat, hchord]
  simp [realMath]

/-- `build_polyline` over the reals. -/
noncomputable def polylineOf (points : List (RawPoint ℝ)) : List (PolyPoint ℝ) :=
  buildPolyline (haversineM realMath) points

end Progression

end DatabusSim
