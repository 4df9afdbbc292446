import Mathlib.Tactic.FieldSimp
import Mathlib.Tactic.Positivity
import DatabusSim.Lib.LowerBound
import DatabusSim.Domain.KinematicsSteps

/-!
# Interpolation along a shape

`interpolate` searches the segment of a progress by halving. On a shape in the order of its
distances it is the segment a scan from the left finds, and the place it returns lies on it.
-/

namespace DatabusSim.Kinematics

/-- The distance of the point `i` is below the progress. -/
def belowKm (points : List ShapePoint) (progressKm : ℚ) (i : Nat) : Bool :=
  points[i]?.any fun p => decide (p.distKm < progressKm)

/-- The progress in kilometres, kept within the shape. -/
def clampedKm (progressM lastKm : ℚ) : ℚ := max 0 (min (progressM / 1000) lastKm)

/-- The scan from the left: the first point after the start that is not below the progress. -/
def scanSegment (points : List ShapePoint) (progressKm : ℚ) : Option Nat :=
  (points.tail.findIdx? fun p => decide (progressKm ≤ p.distKm)).map (· + 1)

/-- The place a fraction `t` of the way from a point to the next. -/
def placeAt (geo : Geo) (p₁ p₂ : ShapePoint) (t : ℚ) : ℚ × ℚ × ℚ :=
  (p₁.lat + (p₂.lat - p₁.lat) * t, p₁.lon + (p₂.lon - p₁.lon) * t,
    geo.bearingDeg p₁.lat p₁.lon p₂.lat p₂.lon)

section Search

variable {points : List ShapePoint} {progressKm : ℚ}

theorem pointAt_eq_ok_iff {i : Nat} {p : ShapePoint} :
    pointAt points i = .ok p ↔ points[i]? = some p := by
  unfold pointAt
  cases points[i]? <;> simp

theorem lastPoint_eq_ok_iff {p : ShapePoint} :
    lastPoint points = .ok p ↔ points.getLast? = some p := by
  unfold lastPoint
  cases points.getLast? <;> simp

theorem belowKm_iff {i : Nat} {p : ShapePoint} (h : points[i]? = some p) :
    belowKm points progressKm i = true ↔ p.distKm < progressKm := by
  simp [belowKm, h]

/-- The loop of `interpolate` is a lower-bound search. -/
theorem bisect_eq_search (fuel : Nat) :
    ∀ {lo hi : Nat}, hi < points.length →
      bisect points progressKm fuel lo hi =
        .ok (LowerBound.search (belowKm points progressKm) fuel lo hi) := by
  induction fuel with
  | zero => exact fun _ => rfl
  | succ fuel ih =>
    intro lo hi hhi
    unfold bisect LowerBound.search
    by_cases hlt : lo < hi
    · have hmid : (lo + hi) / 2 < points.length := by omega
      have hpoint : points[(lo + hi) / 2]? = some points[(lo + hi) / 2] :=
        List.getElem?_eq_getElem hmid
      rw [if_pos hlt, if_pos hlt]
      simp only [pointAt_eq_ok_iff.mpr hpoint]
      by_cases hbelow : points[(lo + hi) / 2].distKm < progressKm
      · rw [if_pos ((belowKm_iff hpoint).mpr hbelow), ← ih hhi]
        simp [bind, Except.bind, hbelow]
      · rw [if_neg (mt (belowKm_iff hpoint).mp hbelow), ← ih hmid]
        simp [bind, Except.bind, hbelow]
    · rw [if_neg hlt, if_neg hlt]

end Search

/-! ## The segment of a progress -/

section Segment

variable {points : List ShapePoint} {progressKm : ℚ}

theorem distKm_le (hsorted : points.Pairwise (·.distKm ≤ ·.distKm)) {i j : Nat}
    {p q : ShapePoint} (hle : i ≤ j) (hi : points[i]? = some p) (hj : points[j]? = some q) :
    p.distKm ≤ q.distKm := by
  obtain ⟨hi', rfl⟩ := List.getElem?_eq_some_iff.mp hi
  obtain ⟨hj', rfl⟩ := List.getElem?_eq_some_iff.mp hj
  rcases Nat.eq_or_lt_of_le hle with rfl | hlt
  · exact le_rfl
  · exact List.pairwise_iff_getElem.mp hsorted i j hi' hj' hlt

theorem belowKm_mono (hsorted : points.Pairwise (·.distKm ≤ ·.distKm)) (i j : Nat) (hle : i ≤ j)
    (h : belowKm points progressKm j = true) : belowKm points progressKm i = true := by
  cases hj : points[j]? with
  | none => simp [belowKm, hj] at h
  | some q =>
    have hlen : j < points.length := (List.getElem?_eq_some_iff.mp hj).1
    have hi : points[i]? = some points[i] := List.getElem?_eq_getElem (by omega)
    have hbelow : q.distKm < progressKm := (belowKm_iff hj).mp h
    exact (belowKm_iff hi).mpr ((distKm_le hsorted hle hi hj).trans_lt hbelow)

theorem scanSegment_iff {i : Nat} :
    scanSegment points progressKm = some i ↔
      1 ≤ i ∧ (∃ p, points[i]? = some p ∧ progressKm ≤ p.distKm) ∧
        ∀ j q, 1 ≤ j → j < i → points[j]? = some q → q.distKm < progressKm := by
  have hplace : ∀ j : Nat, points.tail[j]? = points[j + 1]? := fun j => List.getElem?_tail
  unfold scanSegment
  rw [Option.map_eq_some_iff]
  constructor
  · rintro ⟨k, hk, rfl⟩
    obtain ⟨hlen, hat, hbefore⟩ := List.findIdx?_eq_some_iff_getElem.mp hk
    refine ⟨by omega, ⟨points.tail[k], ?_, of_decide_eq_true hat⟩, fun j q hj hlt hq => ?_⟩
    · rw [← hplace]
      exact List.getElem?_eq_getElem hlen
    · obtain ⟨m, rfl⟩ := Nat.exists_eq_add_of_le' hj
      have hm : m < k := by omega
      have hq' : points.tail[m] = q := by
        rw [← hplace] at hq
        exact (List.getElem?_eq_some_iff.mp hq).2
      have hnot := hbefore m hm
      rw [hq'] at hnot
      simpa using hnot
  · rintro ⟨hpos, ⟨p, hp, hle⟩, hbefore⟩
    obtain ⟨k, rfl⟩ := Nat.exists_eq_add_of_le' hpos
    rw [← hplace] at hp
    obtain ⟨hlen, rfl⟩ := List.getElem?_eq_some_iff.mp hp
    refine ⟨k, List.findIdx?_eq_some_iff_getElem.mpr ⟨hlen, by simpa using hle, ?_⟩, rfl⟩
    intro m hm
    have hq : points[m + 1]? = some points.tail[m] := by
      rw [← hplace]
      exact List.getElem?_eq_getElem (by omega)
    have hlt := hbefore (m + 1) _ (by omega) (by omega) hq
    simpa using hlt

/-- The segment of a progress: the scan ends at its second point. -/
structure SegmentOf (points : List ShapePoint) (progressKm : ℚ) (i : Nat) (p₁ p₂ : ShapePoint) :
    Prop where
  scan : scanSegment points progressKm = some i
  first : points[i - 1]? = some p₁
  second : points[i]? = some p₂
  first_le : p₁.distKm ≤ progressKm
  le_second : progressKm ≤ p₂.distKm

/-- The place the search ends at is a segment's second point, or the start, whose segment is the
first. -/
theorem segmentOf_ends (hlen : 2 ≤ points.length)
    (hhead : ∀ p, points[0]? = some p → p.distKm ≤ progressKm)
    (hlast : ∀ p, points[points.length - 1]? = some p → progressKm ≤ p.distKm) {lo : Nat}
    (h : LowerBound.Ends (belowKm points progressKm) 0 (points.length - 1) lo) :
    ∃ p₁ p₂, SegmentOf points progressKm (max 1 lo) p₁ p₂ := by
  have hlo := h.le_hi
  have hsecond : points[max 1 lo]? = some points[max 1 lo] :=
    List.getElem?_eq_getElem (by omega)
  have hfirst : points[max 1 lo - 1]? = some points[max 1 lo - 1] :=
    List.getElem?_eq_getElem (by omega)
  have hle : progressKm ≤ points[max 1 lo].distKm := by
    rcases Nat.lt_or_ge (max 1 lo) (points.length - 1) with hlt | hge
    · have hnot := h.after (max 1 lo) (le_max_right 1 lo) hlt
      exact not_lt.mp fun hbelow => by simp [(belowKm_iff hsecond).mpr hbelow] at hnot
    · refine hlast _ ?_
      rw [← hsecond]
      exact congrArg (points[·]?) (by omega)
  have hbefore : ∀ j q, 1 ≤ j → j < max 1 lo → points[j]? = some q → q.distKm < progressKm := by
    intro j q hj hlt hq
    exact (belowKm_iff hq).mp (h.before j (Nat.zero_le j) (by omega))
  refine ⟨_, _, scanSegment_iff.mpr ⟨le_max_left 1 lo, ⟨_, hsecond, hle⟩, hbefore⟩, hfirst,
    hsecond, ?_, hle⟩
  rcases Nat.lt_or_ge 1 lo with hgt | hle
  · exact (hbefore (max 1 lo - 1) _ (by omega) (by omega) hfirst).le
  · refine hhead _ ?_
    rw [← hfirst]
    exact congrArg (points[·]?) (by omega)

end Segment

/-! ## The place -/

section Place

variable {geo : Geo} {shape : Shape} {first last p₁ p₂ : ShapePoint}

/-- The span of a segment, which is never nil. -/
def spanKm (p₁ p₂ : ShapePoint) : ℚ := max (p₂.distKm - p₁.distKm) (1 / 10 ^ 9)

theorem spanKm_pos (p₁ p₂ : ShapePoint) : 0 < spanKm p₁ p₂ :=
  lt_of_lt_of_le (by norm_num) (le_max_right _ _)

theorem interpolate_eq {progressM : ℚ} {lo : Nat} (hlast : shape.points.getLast? = some last)
    (hlo : bisect shape.points (clampedKm progressM last.distKm) shape.points.length 0
      (shape.points.length - 1) = .ok lo)
    (h₁ : shape.points[max 1 lo - 1]? = some p₁) (h₂ : shape.points[max 1 lo]? = some p₂) :
    interpolate geo shape progressM = .ok (placeAt geo p₁ p₂
      ((clampedKm progressM last.distKm - p₁.distKm) / spanKm p₁ p₂)) := by
  unfold interpolate
  exact bind_ok.mpr ⟨last, lastPoint_eq_ok_iff.mpr hlast, bind_ok.mpr ⟨lo, hlo,
    bind_ok.mpr ⟨p₁, pointAt_eq_ok_iff.mpr h₁, bind_ok.mpr ⟨p₂, pointAt_eq_ok_iff.mpr h₂, rfl⟩⟩⟩⟩

/-- The fraction of its segment a progress has made. -/
theorem fraction_mem {points : List ShapePoint} {progressKm : ℚ} {i : Nat}
    (h : SegmentOf points progressKm i p₁ p₂) :
    0 ≤ (progressKm - p₁.distKm) / spanKm p₁ p₂ ∧
      (progressKm - p₁.distKm) / spanKm p₁ p₂ ≤ 1 := by
  constructor
  · exact div_nonneg (sub_nonneg.mpr h.first_le) (spanKm_pos p₁ p₂).le
  · rw [div_le_one (spanKm_pos p₁ p₂)]
    exact (sub_le_sub_right h.le_second _).trans (le_max_left _ _)

/-- The first and the last point of a shape in the order of its distances. -/
structure Measured (shape : Shape) (first last : ShapePoint) : Prop where
  two : 2 ≤ shape.points.length
  head : shape.points.head? = some first
  tail : shape.points.getLast? = some last
  nonneg : ∀ p ∈ shape.points, 0 ≤ p.distKm
  sorted : shape.points.Pairwise (·.distKm ≤ ·.distKm)

theorem Measured.head_at (h : Measured shape first last) : shape.points[0]? = some first := by
  rw [← List.head?_eq_getElem?]
  exact h.head

theorem Measured.last_at (h : Measured shape first last) :
    shape.points[shape.points.length - 1]? = some last := by
  rw [← List.getLast?_eq_getElem?]
  exact h.tail

theorem Measured.le_last (h : Measured shape first last) {i : Nat} {p : ShapePoint}
    (hp : shape.points[i]? = some p) : p.distKm ≤ last.distKm := by
  have hi : i < shape.points.length := (List.getElem?_eq_some_iff.mp hp).1
  exact distKm_le h.sorted (by omega) hp h.last_at

theorem Measured.first_le (h : Measured shape first last) {i : Nat} {p : ShapePoint}
    (hp : shape.points[i]? = some p) : first.distKm ≤ p.distKm :=
  distKm_le h.sorted (Nat.zero_le i) h.head_at hp

theorem Measured.last_nonneg (h : Measured shape first last) : 0 ≤ last.distKm :=
  h.nonneg last (List.mem_of_getElem? h.last_at)

/-- A progress of the shape is not clamped. -/
theorem Measured.clampedKm_eq (h : Measured shape first last) {i : Nat} {p : ShapePoint}
    (hp : shape.points[i]? = some p) : clampedKm (p.distKm * 1000) last.distKm = p.distKm := by
  unfold clampedKm
  rw [mul_div_cancel_right₀ _ (by norm_num : (1000 : ℚ) ≠ 0), min_eq_left (h.le_last hp),
    max_eq_right (h.nonneg p (List.mem_of_getElem? hp))]

/-- A progress beyond the shape is clamped to its end. -/
theorem Measured.clampedKm_beyond (h : Measured shape first last) {progressM : ℚ}
    (hbeyond : last.distKm ≤ progressM / 1000) :
    clampedKm progressM last.distKm = last.distKm := by
  unfold clampedKm
  rw [min_eq_right hbeyond, max_eq_right h.last_nonneg]

theorem Measured.clampedKm_bounds (h : Measured shape first last) {progressM : ℚ}
    (hfirst : first.distKm ≤ progressM / 1000) :
    first.distKm ≤ clampedKm progressM last.distKm ∧
      clampedKm progressM last.distKm ≤ last.distKm := by
  constructor
  · exact (le_min hfirst (h.le_last h.head_at)).trans (le_max_right _ _)
  · exact max_le h.last_nonneg (min_le_right _ _)

/-- The search of a progress from the first distance on, with turns to spare or not. -/
theorem Measured.search (h : Measured shape first last) {progressM : ℚ}
    (hfirst : first.distKm ≤ progressM / 1000) :
    ∃ lo p₁ p₂, SegmentOf shape.points (clampedKm progressM last.distKm) (max 1 lo) p₁ p₂ ∧
      ∀ fuel, shape.points.length ≤ fuel →
        bisect shape.points (clampedKm progressM last.distKm) fuel 0 (shape.points.length - 1) =
          .ok lo := by
  obtain ⟨hlow, hhigh⟩ := h.clampedKm_bounds hfirst
  have hlen := h.two
  have hends : ∀ fuel, shape.points.length ≤ fuel →
      LowerBound.Ends (belowKm shape.points (clampedKm progressM last.distKm)) 0
        (shape.points.length - 1) (LowerBound.search
          (belowKm shape.points (clampedKm progressM last.distKm)) fuel 0
          (shape.points.length - 1)) := fun fuel hfuel =>
    LowerBound.search_ends (belowKm_mono h.sorted) fuel (Nat.zero_le _) (by omega)
  obtain ⟨p₁, p₂, hsegment⟩ := segmentOf_ends hlen
    (fun p hp => by rw [h.head_at] at hp; cases hp; exact hlow)
    (fun p hp => by rw [h.last_at] at hp; cases hp; exact hhigh)
    (hends shape.points.length le_rfl)
  refine ⟨_, p₁, p₂, hsegment, fun fuel hfuel => ?_⟩
  rw [bisect_eq_search fuel (by omega), (hends fuel hfuel).unique (hends _ le_rfl)]

/-- The place of a progress from the first distance on. -/
theorem Measured.interpolate (geo : Geo) (h : Measured shape first last) {progressM : ℚ}
    (hfirst : first.distKm ≤ progressM / 1000) :
    ∃ i p₁ p₂, SegmentOf shape.points (clampedKm progressM last.distKm) i p₁ p₂ ∧
      Kinematics.interpolate geo shape progressM = .ok (placeAt geo p₁ p₂
        ((clampedKm progressM last.distKm - p₁.distKm) / spanKm p₁ p₂)) := by
  obtain ⟨lo, p₁, p₂, hsegment, hsearch⟩ := h.search hfirst
  exact ⟨max 1 lo, p₁, p₂, hsegment,
    interpolate_eq h.tail (hsearch _ le_rfl) hsegment.first hsegment.second⟩

/-- Distinct neighbouring distances are no closer than the least span. -/
def Spaced (points : List ShapePoint) : Prop :=
  ∀ i p q, points[i]? = some p → points[i + 1]? = some q → p.distKm ≠ q.distKm →
    1 / 10 ^ 9 ≤ q.distKm - p.distKm

/-- The place of a vertex's own distance is the first vertex that has it. -/
theorem Measured.interpolate_vertex (h : Measured shape first last) (hspaced : Spaced shape.points)
    {k : Nat} {p : ShapePoint} (hp : shape.points[k]? = some p)
    (hnew : ∀ j q, j < k → shape.points[j]? = some q → q.distKm ≠ p.distKm) :
    ∃ brg, Kinematics.interpolate geo shape (p.distKm * 1000) = .ok (p.lat, p.lon, brg) := by
  have hkm : p.distKm * 1000 / 1000 = p.distKm :=
    mul_div_cancel_right₀ _ (by norm_num : (1000 : ℚ) ≠ 0)
  have hstart : first.distKm ≤ p.distKm * 1000 / 1000 := by
    rw [hkm]
    exact h.first_le hp
  obtain ⟨i, p₁, p₂, hsegment, hplace⟩ := h.interpolate geo hstart
  rw [h.clampedKm_eq hp] at hsegment hplace
  obtain ⟨hpos, -, hbefore⟩ := scanSegment_iff.mp hsegment.scan
  rw [hplace]
  rcases Nat.eq_zero_or_pos k with rfl | hk
  · -- the start: its segment is the first, of which it has made nothing
    have hone : i = 1 := by
      by_contra hne
      have hlen := h.two
      have hlt := hbefore 1 _ le_rfl (by omega) (List.getElem?_eq_getElem (by omega))
      exact absurd hlt (not_lt.mpr (distKm_le h.sorted (Nat.zero_le 1) hp
        (List.getElem?_eq_getElem (by omega))))
    have hsame : p₁ = p := by
      have hfirst := hsegment.first
      rw [hone, hp] at hfirst
      exact (Option.some.inj hfirst).symm
    exact ⟨_, by simp only [placeAt, hsame, sub_self, zero_div, mul_zero, add_zero]; rfl⟩
  · -- any other: it ends its segment, of which it has made all
    have hlt : ∀ j q, j < k → shape.points[j]? = some q → q.distKm < p.distKm := fun j q hj hq =>
      lt_of_le_of_ne (distKm_le h.sorted hj.le hq hp) (hnew j q hj hq)
    have hscan : scanSegment shape.points p.distKm = some k :=
      scanSegment_iff.mpr ⟨hk, ⟨p, hp, le_rfl⟩, fun j q _ hj hq => hlt j q hj hq⟩
    obtain rfl : i = k := Option.some.inj (hsegment.scan.symm.trans hscan)
    obtain rfl : p₂ = p := Option.some.inj (hsegment.second.symm.trans hp)
    have hless : p₁.distKm < p₂.distKm := hlt (i - 1) p₁ (by omega) hsegment.first
    have hspan : spanKm p₁ p₂ = p₂.distKm - p₁.distKm := by
      refine max_eq_left (hspaced (i - 1) p₁ p₂ hsegment.first ?_ hless.ne)
      rw [Nat.sub_add_cancel hk]
      exact hp
    have hwhole : (p₂.distKm - p₁.distKm) / spanKm p₁ p₂ = 1 := by
      rw [hspan]
      exact div_self (sub_pos.mpr hless).ne'
    exact ⟨_, by simp only [placeAt, hwhole, mul_one, add_sub_cancel]; rfl⟩

/-- On a shape in the order of its distances, `interpolate` selects the segment a scan from the
left finds and returns a place on it; beyond the shape it is the place of its end, and on a vertex
the first vertex of that distance. -/
theorem interpolate_eq_scan (geo : Geo) (shape : Shape) (hlen : 2 ≤ shape.points.length)
    (hnonneg : ∀ p ∈ shape.points, 0 ≤ p.distKm)
    (hsorted : shape.points.Pairwise (·.distKm ≤ ·.distKm)) :
    ∃ first last, shape.points.head? = some first ∧ shape.points.getLast? = some last ∧
      (∀ progressM, first.distKm ≤ progressM / 1000 →
        ∃ i p₁ p₂ t, scanSegment shape.points (clampedKm progressM last.distKm) = some i ∧
          (∀ fuel, shape.points.length ≤ fuel → ∃ lo,
            bisect shape.points (clampedKm progressM last.distKm) fuel 0
              (shape.points.length - 1) = .ok lo ∧ max 1 lo = i) ∧
          shape.points[i - 1]? = some p₁ ∧ shape.points[i]? = some p₂ ∧ 0 ≤ t ∧ t ≤ 1 ∧
          interpolate geo shape progressM = .ok (placeAt geo p₁ p₂ t)) ∧
      (∀ progressM, last.distKm ≤ progressM / 1000 →
        interpolate geo shape progressM = interpolate geo shape (last.distKm * 1000)) ∧
      (Spaced shape.points → ∀ (k : Nat) p, shape.points[k]? = some p →
        (∀ j q, j < k → shape.points[j]? = some q → q.distKm ≠ p.distKm) →
        ∃ brg, interpolate geo shape (p.distKm * 1000) = .ok (p.lat, p.lon, brg)) := by
  have hne : shape.points ≠ [] := List.ne_nil_of_length_pos (by omega)
  have hfirst : shape.points.head? = some (shape.points.head hne) :=
    List.head?_eq_some_head hne
  have hlast : shape.points.getLast? = some (shape.points.getLast hne) :=
    List.getLast?_eq_some_getLast hne
  have h : Measured shape (shape.points.head hne) (shape.points.getLast hne) :=
    ⟨hlen, hfirst, hlast, hnonneg, hsorted⟩
  refine ⟨_, _, hfirst, hlast, fun progressM hstart => ?_, fun progressM hbeyond => ?_,
    fun hspaced k p hp hnew => h.interpolate_vertex hspaced hp hnew⟩
  · obtain ⟨lo, p₁, p₂, hsegment, hsearch⟩ := h.search hstart
    obtain ⟨hnonneg, hle⟩ := fraction_mem hsegment
    exact ⟨max 1 lo, p₁, p₂, _, hsegment.scan, fun fuel hfuel => ⟨lo, hsearch fuel hfuel, rfl⟩,
      hsegment.first, hsegment.second, hnonneg, hle,
      interpolate_eq h.tail (hsearch _ le_rfl) hsegment.first hsegment.second⟩
  · have hclamped : clampedKm progressM (shape.points.getLast hne).distKm =
        clampedKm ((shape.points.getLast hne).distKm * 1000) (shape.points.getLast hne).distKm := by
      rw [h.clampedKm_beyond hbeyond, h.clampedKm_eq h.last_at]
    unfold clampedKm at hclamped
    simp only [interpolate, lastPoint_eq_ok_iff.mpr hlast, bind, Except.bind, hclamped]

/-- A shape that goes north, with its second vertex twice. -/
def northboundShape : Shape where
  shapeId := "northbound"
  points := [⟨9.935, -84.053, 0⟩, ⟨9.935 + 30 / 111195, -84.053, 0.03⟩,
    ⟨9.935 + 30 / 111195, -84.053, 0.03⟩, ⟨9.935 + 60 / 111195, -84.053, 0.06⟩]

theorem interpolate_eq_scan_northbound :
    ∃ brg, interpolate meridianGeo northboundShape (0.03 * 1000) =
      .ok (9.935 + 30 / 111195, -84.053, brg) := by
  obtain ⟨-, -, -, -, -, -, hvertex⟩ :=
    interpolate_eq_scan meridianGeo northboundShape (by decide) (by decide +kernel)
      (by decide +kernel)
  have hspaced : Spaced northboundShape.points := by
    intro i p q hp hq hne
    have hlen : i + 1 < 4 := (List.getElem?_eq_some_iff.mp hq).1
    obtain rfl | rfl | rfl : i = 0 ∨ i = 1 ∨ i = 2 := by omega
    all_goals
      cases hp
      cases hq
      revert hne
      decide +kernel
  refine hvertex hspaced 1 ⟨9.935 + 30 / 111195, -84.053, 0.03⟩ rfl fun j q hj hq => ?_
  obtain rfl : j = 0 := by omega
  cases hq
  decide +kernel

end Place

end DatabusSim.Kinematics
