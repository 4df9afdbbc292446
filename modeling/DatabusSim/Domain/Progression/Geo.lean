import Mathlib.Algebra.Order.Field.Basic
import Mathlib.Algebra.Order.Ring.Unbundled.Rat
import Mathlib.Algebra.Order.Monoid.WithTop

/-!
# The map-matching geometry

`haversine_m` and the projections of a point onto a segment and onto a polyline.
The arithmetic is that of an ordered field `α` and the trigonometry is that of
`MathFns`; a division by zero raises, as it does on Python's floats.
-/

namespace DatabusSim

/-- The functions of Python's `math` that the geometry calls. -/
structure MathFns (α : Type) where
  radians : α → α
  sin : α → α
  cos : α → α
  asin : α → α
  sqrt : α → α

/-- A point of a polyline: its coordinates and its cumulative distance in metres. -/
structure PolyPoint (α : Type) where
  lat : α
  lon : α
  cumDistM : α
  deriving DecidableEq

/-- What the geometry can raise: `ZeroDivisionError`. -/
inductive GeoExc where
  | zeroDivision
  deriving DecidableEq, Repr

/-- The dictionary `project_point_to_polyline` returns. -/
structure Projection (α : Type) where
  progressM : α
  /-- `⊤` is `float("inf")`. -/
  crossTrackM : WithTop α
  segmentIdx : Nat

namespace Progression

variable {α : Type} [Field α] [LinearOrder α]

/-- `_R`, the radius of the earth in metres. -/
def earthRadiusM : α := 6371000

/-- `a / b` on floats. -/
def pyDiv (a b : α) : Except GeoExc α :=
  if b = 0 then .error .zeroDivision else .ok (a / b)

/-- `haversine_m`. -/
def haversineM (m : MathFns α) (lat1 lon1 lat2 lon2 : α) : α :=
  let p1 := m.radians lat1
  let p2 := m.radians lat2
  let dp := m.radians (lat2 - lat1)
  let dl := m.radians (lon2 - lon1)
  let a := m.sin (dp / 2) ^ 2 + m.cos p1 * m.cos p2 * m.sin (dl / 2) ^ 2
  2 * earthRadiusM * m.asin (m.sqrt a)

/-- The coordinates of a place in the local equirectangular plane centred on
`origin`: `(dx_seg, dy_seg)` for the segment's end, `(dx_pt, dy_pt)` for the
projected point. -/
def toPlane (m : MathFns α) (origin : PolyPoint α) (lat lon : α) : α × α :=
  (earthRadiusM * m.cos (m.radians origin.lat) * m.radians (lon - origin.lon),
    earthRadiusM * m.radians (lat - origin.lat))

/-- `seg_len_sq`, the divisor. -/
def segLenSq (m : MathFns α) (segStart segEnd : PolyPoint α) : α :=
  let d := toPlane m segStart segEnd.lat segEnd.lon
  d.1 ^ 2 + d.2 ^ 2

/-- `dx_pt * dx_seg + dy_pt * dy_seg`, the dividend. -/
def segDot (m : MathFns α) (lat lon : α) (segStart segEnd : PolyPoint α) : α :=
  let d := toPlane m segStart segEnd.lat segEnd.lon
  let pt := toPlane m segStart lat lon
  pt.1 * d.1 + pt.2 * d.2

/-- `seg_len_m < 1e-9`: the guard that keeps a segment from being divided by. -/
def Degenerate (segStart segEnd : PolyPoint α) : Prop :=
  segEnd.cumDistM - segStart.cumDistM < 1e-9

instance (p q : PolyPoint α) : Decidable (Degenerate p q) :=
  inferInstanceAs (Decidable (_ < _))

/-- `project_point_to_segment`: the progress and the cross-track distance. -/
def projectPointToSegment (m : MathFns α) (lat lon : α) (segStart segEnd : PolyPoint α) :
    Except GeoExc (α × α) :=
  if Degenerate segStart segEnd then
    .ok (segStart.cumDistM, haversineM m lat lon segStart.lat segStart.lon)
  else
    let d := toPlane m segStart segEnd.lat segEnd.lon
    let pt := toPlane m segStart lat lon
    match pyDiv (segDot m lat lon segStart segEnd) (segLenSq m segStart segEnd) with
    | .error e => .error e
    | .ok t =>
        let t := max 0 (min 1 t)
        let fx := d.1 * t
        let fy := d.2 * t
        let crossM := m.sqrt ((pt.1 - fx) ^ 2 + (pt.2 - fy) ^ 2)
        let alongM := t * m.sqrt (segLenSq m segStart segEnd)
        .ok (segStart.cumDistM + alongM, crossM)

/-- The segments of a polyline, `(polyline[i], polyline[i + 1])` for each `i`. -/
def segments (polyline : List (PolyPoint α)) : List (PolyPoint α × PolyPoint α) :=
  polyline.zip polyline.tail

theorem segments_length {β : Type} (polyline : List (PolyPoint β)) :
    (segments polyline).length = polyline.length - 1 := by
  simp [segments]

/-- The loop of `project_point_to_polyline`, at segment `i`. -/
def scanSegments (m : MathFns α) (lat lon : α) :
    List (PolyPoint α × PolyPoint α) → Nat → Projection α → Except GeoExc (Projection α)
  | [], _, best => .ok best
  | (p, q) :: rest, i, best =>
      match projectPointToSegment m lat lon p q with
      | .error e => .error e
      | .ok (progressM, crossM) =>
          if (crossM : WithTop α) < best.crossTrackM then
            scanSegments m lat lon rest (i + 1) ⟨progressM, crossM, i⟩
          else scanSegments m lat lon rest (i + 1) best

/-- `project_point_to_polyline`. -/
def projectPointToPolyline (m : MathFns α) (lat lon : α) (polyline : List (PolyPoint α)) :
    Except GeoExc (Projection α) :=
  match polyline with
  | [] => .ok ⟨0, (0 : α), 0⟩
  | [only] => .ok ⟨only.cumDistM, (haversineM m lat lon only.lat only.lon : α), 0⟩
  | first :: _ => scanSegments m lat lon (segments polyline) 0 ⟨first.cumDistM, ⊤, 0⟩

/-! ## When a projection divides by zero -/

/-- The division of this segment is by zero. -/
def DividesByZero (m : MathFns α) (segStart segEnd : PolyPoint α) : Prop :=
  ¬ Degenerate segStart segEnd ∧ segLenSq m segStart segEnd = 0

variable (m : MathFns α) (lat lon : α)

/-- Whether the projection onto a segment divides by zero does not depend on the
point that is projected. -/
theorem projectPointToSegment_ok_iff (p q : PolyPoint α) :
    (∃ r, projectPointToSegment m lat lon p q = .ok r) ↔ ¬ DividesByZero m p q := by
  unfold projectPointToSegment DividesByZero
  by_cases hdeg : Degenerate p q
  · rw [if_pos hdeg]
    exact ⟨fun _ h => h.1 hdeg, fun _ => ⟨_, rfl⟩⟩
  · rw [if_neg hdeg]
    by_cases hzero : segLenSq m p q = 0
    · simp [pyDiv, hzero, hdeg]
    · simp [pyDiv, hzero]

theorem scanSegments_ok_iff (segs : List (PolyPoint α × PolyPoint α)) (i : Nat)
    (best : Projection α) :
    (∃ r, scanSegments m lat lon segs i best = .ok r) ↔
      ∀ s ∈ segs, ¬ DividesByZero m s.1 s.2 := by
  induction segs generalizing i best with
  | nil => simp [scanSegments]
  | cons s rest ih =>
    obtain ⟨p, q⟩ := s
    rw [List.forall_mem_cons, ← projectPointToSegment_ok_iff m lat lon p q]
    cases hproj : projectPointToSegment m lat lon p q with
    | error e => simp [scanSegments, hproj]
    | ok r =>
      simp only [scanSegments, hproj]
      split_ifs <;> simp [ih]

theorem projectPointToPolyline_ok_iff (polyline : List (PolyPoint α)) :
    (∃ r, projectPointToPolyline m lat lon polyline = .ok r) ↔
      ∀ s ∈ segments polyline, ¬ DividesByZero m s.1 s.2 := by
  match polyline with
  | [] => simp [projectPointToPolyline, segments]
  | [only] => simp [projectPointToPolyline, segments]
  | first :: second :: rest =>
    exact scanSegments_ok_iff m lat lon (segments (first :: second :: rest)) 0
      ⟨first.cumDistM, ⊤, 0⟩

end Progression

end DatabusSim
