import Mathlib.Order.Bounds.Basic
import DatabusSim.Domain.Progression.StopAssignment
import DatabusSim.Domain.Progression.SegmentFoot
import DatabusSim.Domain.Progression.ZeroDivision

/-!
# The cross-track distances of built stops

The projection onto a polyline finds the least of the cross-track distances onto its
segments. `build_stops` returns that one for each stop, whatever segment the assignment has
chosen for it; the two agree exactly when the stops can be taken in their order along nearest
segments.
-/

namespace DatabusSim

namespace Progression

open ForwardPath

/-! ## The projection onto a polyline -/

section Nearest

variable {α : Type} [Field α] [LinearOrder α] (m : MathFns α) (lat lon : α)

/-- The cross-track distances of a place: onto each segment of the polyline, or to its only
point. -/
def crossTracks (polyline : List (PolyPoint α)) : Set α :=
  {c | (∃ only, polyline = [only] ∧ c = haversineM m lat lon only.lat only.lon) ∨
    ∃ s ∈ segments polyline, ∃ pm, projectPointToSegment m lat lon s.1 s.2 = .ok (pm, c)}

/-- By induction on the segments still to be scanned: the scan returns the least of their
cross-track distances and the one it has been given. -/
theorem scanSegments_least {segs : List (PolyPoint α × PolyPoint α)} {i : Nat}
    {best proj : Projection α} (h : scanSegments m lat lon segs i best = .ok proj) :
    proj.crossTrackM ≤ best.crossTrackM ∧
      (∀ s ∈ segs, ∀ pm c, projectPointToSegment m lat lon s.1 s.2 = .ok (pm, c) →
        proj.crossTrackM ≤ c) ∧
      (proj.crossTrackM = best.crossTrackM ∨ ∃ s ∈ segs, ∃ pm c,
        projectPointToSegment m lat lon s.1 s.2 = .ok (pm, c) ∧ proj.crossTrackM = c) := by
  induction segs generalizing i best with
  | nil =>
    cases h
    exact ⟨le_rfl, fun s hs => (nomatch hs), .inl rfl⟩
  | cons s segs ih =>
    obtain ⟨p, q⟩ := s
    simp only [scanSegments] at h
    cases hproj : projectPointToSegment m lat lon p q with
    | error e =>
      rw [hproj] at h
      cases h
    | ok r =>
      obtain ⟨pm, c⟩ := r
      simp only [hproj] at h
      split at h
      · rename_i hlt
        obtain ⟨hle, hleast, hfrom⟩ := ih h
        refine ⟨hle.trans hlt.le, fun s hs pm' c' hc' => ?_, .inr ?_⟩
        · rcases List.mem_cons.mp hs with rfl | hs
          · rw [hproj] at hc'
            cases hc'
            exact hle
          · exact hleast s hs pm' c' hc'
        · rcases hfrom with heq | ⟨s, hs, hrest⟩
          · exact ⟨(p, q), List.mem_cons_self, pm, c, hproj, heq⟩
          · exact ⟨s, List.mem_cons_of_mem _ hs, hrest⟩
      · rename_i hge
        obtain ⟨hle, hleast, hfrom⟩ := ih h
        refine ⟨hle, fun s hs pm' c' hc' => ?_, hfrom.imp_right ?_⟩
        · rcases List.mem_cons.mp hs with rfl | hs
          · rw [hproj] at hc'
            cases hc'
            exact hle.trans (not_lt.mp hge)
          · exact hleast s hs pm' c' hc'
        · rintro ⟨s, hs, hrest⟩
          exact ⟨s, List.mem_cons_of_mem _ hs, hrest⟩

/-- `project_point_to_polyline` returns the least cross-track distance. -/
theorem projectPointToPolyline_least {polyline : List (PolyPoint α)} (hne : polyline ≠ [])
    {proj : Projection α} (h : projectPointToPolyline m lat lon polyline = .ok proj) :
    ∃ c : α, proj.crossTrackM = c ∧ IsLeast (crossTracks m lat lon polyline) c := by
  match polyline, hne, h with
  | [only], _, h =>
    cases h
    refine ⟨_, rfl, .inl ⟨only, rfl, rfl⟩, ?_⟩
    rintro c (⟨only', honly, rfl⟩ | ⟨s, hs, -⟩)
    · cases honly
      exact le_rfl
    · cases hs
  | first :: second :: rest, _, h =>
    have hok := (projectPointToPolyline_ok_iff m lat lon (first :: second :: rest)).mp ⟨proj, h⟩
    obtain ⟨-, hleast, hfrom⟩ := scanSegments_least m lat lon h
    have hfirst : (first, second) ∈ segments (first :: second :: rest) := List.mem_cons_self
    obtain ⟨⟨pm₀, c₀⟩, h₀⟩ := (projectPointToSegment_ok_iff m lat lon first second).mpr
      (hok _ hfirst)
    have hfinite : proj.crossTrackM < ⊤ :=
      (hleast _ hfirst pm₀ c₀ h₀).trans_lt (WithTop.coe_lt_top c₀)
    rcases hfrom with heq | ⟨s, hs, pm, c, hc, heq⟩
    · exact absurd (heq ▸ hfinite) (lt_irrefl _)
    · refine ⟨c, heq, .inr ⟨s, hs, pm, hc⟩, ?_⟩
      rintro c' (⟨only, honly, -⟩ | ⟨s', hs', pm', hc'⟩)
      · cases honly
      · have hle := hleast s' hs' pm' c' hc'
        rw [heq] at hle
        exact WithTop.coe_le_coe.mp hle

/-- The segment `j` is a nearest one. -/
def NearestSegment (polyline : List (PolyPoint α)) (j : Nat) : Prop :=
  ∃ s pm c, (segments polyline)[j]? = some s ∧
    projectPointToSegment m lat lon s.1 s.2 = .ok (pm, c) ∧
    IsLeast (crossTracks m lat lon polyline) c

variable {m lat lon} {polyline : List (PolyPoint α)} {row : List (α × α)}

/-- With the row of a place's projections, its cross-track distances are those in the row. -/
theorem mem_crossTracks_iff (hlen : 2 ≤ polyline.length)
    (hrow : (segments polyline).mapM (fun s => projectPointToSegment m lat lon s.1 s.2) =
      .ok row) {c : α} :
    c ∈ crossTracks m lat lon polyline ↔
      ∃ (j : Nat) (r : α × α), row[j]? = some r ∧ r.2 = c := by
  constructor
  · rintro (⟨only, rfl, -⟩ | ⟨s, hs, pm, hc⟩)
    · simp at hlen
    · obtain ⟨j, hj⟩ := List.mem_iff_getElem?.mp hs
      exact ⟨j, (pm, c), (mapM_entry hrow j _).mpr ⟨s, hj, hc⟩, rfl⟩
  · rintro ⟨j, ⟨pm, c'⟩, hr, rfl⟩
    obtain ⟨s, hs, hc⟩ := (mapM_entry hrow j _).mp hr
    exact .inr ⟨s, List.mem_of_getElem? hs, pm, hc⟩

/-- A nearest segment is one with the least entry in the row. -/
theorem nearestSegment_iff
    (hrow : (segments polyline).mapM (fun s => projectPointToSegment m lat lon s.1 s.2) =
      .ok row) {j : Nat} {r : α × α} (hr : row[j]? = some r) :
    NearestSegment m lat lon polyline j ↔ IsLeast (crossTracks m lat lon polyline) r.2 := by
  obtain ⟨s, hs, hproj⟩ := (mapM_entry hrow j r).mp hr
  constructor
  · rintro ⟨s', pm, c, hs', hproj', hleast⟩
    rw [hs] at hs'
    cases hs'
    rw [hproj] at hproj'
    cases hproj'
    exact hleast
  · exact fun hleast => ⟨s, r.1, r.2, hs, hproj, hleast⟩

theorem least_entry_iff (hlen : 2 ≤ polyline.length)
    (hrow : (segments polyline).mapM (fun s => projectPointToSegment m lat lon s.1 s.2) =
      .ok row) {j : Nat} (hj : j < polyline.length - 1) :
    (∀ i < polyline.length - 1, (row.map Prod.snd).getD j 0 ≤ (row.map Prod.snd).getD i 0) ↔
      NearestSegment m lat lon polyline j := by
  have hwidth : row.length = polyline.length - 1 := by
    rw [← segments_length, (mapM_ok hrow).length_eq]
  have hget : ∀ {i}, (hi : i < row.length) → (row.map Prod.snd).getD i 0 = row[i].2 := by
    intro i hi
    simp [List.getD_eq_getElem?_getD, hi]
  have hj' : j < row.length := by omega
  have hentry : row[j]? = some row[j] := List.getElem?_eq_getElem hj'
  rw [nearestSegment_iff hrow hentry, hget hj']
  constructor
  · intro hle
    refine ⟨(mem_crossTracks_iff hlen hrow).mpr ⟨j, row[j], hentry, rfl⟩, fun c hc => ?_⟩
    obtain ⟨i, r, hi, rfl⟩ := (mem_crossTracks_iff hlen hrow).mp hc
    obtain ⟨hi', rfl⟩ := List.getElem?_eq_some_iff.mp hi
    rw [← hget hi']
    exact hle i (by omega)
  · intro hleast i hi
    have hi' : i < row.length := by omega
    rw [hget hi']
    exact hleast.2 ((mem_crossTracks_iff hlen hrow).mpr
      ⟨i, row[i], List.getElem?_eq_getElem hi', rfl⟩)

end Nearest

/-! ## The rows of `build_stops` -/

section Rows

variable {α : Type} [Field α] [LinearOrder α] [IsOrderedAddMonoid α] {m : MathFns α}
  {stopRows : List (StopRow α)} {polyline : List (PolyPoint α)} {built : List (BuiltStop α)}

/-- A built row is its stop's, with a progress and the cross-track distance of its own
projection. -/
theorem buildStops_entry (h : buildStops m stopRows polyline = .ok built) :
    ∃ progress, assignStopsMonotonic m stopRows polyline = .ok progress ∧
      built.length = stopRows.length ∧
      ∀ (k : Nat) (b : BuiltStop α), built[k]? = some b ↔
        ∃ row pm proj, stopRows[k]? = some row ∧ progress[k]? = some pm ∧
          projectPointToPolyline m row.lat row.lon polyline = .ok proj ∧
          b = { row with progressM := pm, crossTrackM := proj.crossTrackM } := by
  obtain ⟨progress, hprogress, h⟩ := bind_ok.mp h
  have hlen : progress.length = stopRows.length :=
    (assignStopsMonotonic_nondecreasing m hprogress).1
  refine ⟨progress, hprogress, ?_, fun k b => ?_⟩
  · rw [← (mapM_ok h).length_eq, List.length_zip, hlen, Nat.min_self]
  · rw [mapM_entry h]
    constructor
    · rintro ⟨⟨row, pm⟩, hk, hb⟩
      obtain ⟨hrow, hpm⟩ := List.getElem?_zip_eq_some.mp hk
      obtain ⟨proj, hproj, hb⟩ := bind_ok.mp hb
      cases hb
      exact ⟨row, pm, proj, hrow, hpm, hproj, rfl⟩
    · rintro ⟨row, pm, proj, hrow, hpm, hproj, rfl⟩
      exact ⟨(row, pm), List.getElem?_zip_eq_some.mpr ⟨hrow, hpm⟩,
        bind_ok.mpr ⟨proj, hproj, rfl⟩⟩

/-- Each built row has the cross-track distance onto the segment the assignment has chosen for
its stop: `r` is the entry of the table there, its progress and its distance. -/
def CrossTracksMatch (m : MathFns α) (stopRows : List (StopRow α)) (polyline : List (PolyPoint α))
    (built : List (BuiltStop α)) : Prop :=
  ∃ table, projectAll m stopRows (segments polyline) = .ok table ∧
    ∀ (k : Nat) (b : BuiltStop α) (row : List (α × α)) (j : Nat),
      built[k]? = some b → table[k]? = some row →
      (chooseSegments (polyline.length - 1) (table.map (List.map Prod.snd)))[k]? = some j →
      ∃ r, row[j]? = some r ∧ b.crossTrackM = r.2

/-- The stops can be taken in their order along segments that never go back, each of them a
nearest segment of its stop. -/
def NearestInOrder (m : MathFns α) (stopRows : List (StopRow α)) (polyline : List (PolyPoint α)) :
    Prop :=
  ∃ path, Forward stopRows.length (polyline.length - 1) path ∧
    ∀ (k : Nat) (row : StopRow α) (j : Nat), stopRows[k]? = some row → path[k]? = some j →
      NearestSegment m row.lat row.lon polyline j

omit [IsOrderedAddMonoid α] in
/-- A path picks the least costs exactly when it goes along nearest segments. -/
theorem leastEach_iff_nearest (hlen : 2 ≤ polyline.length) {table : List (List (α × α))}
    (htable : projectAll m stopRows (segments polyline) = .ok table) {path : List Nat}
    (hpath : ∀ j ∈ path, j < polyline.length - 1) :
    LeastEach (polyline.length - 1) (table.map (List.map Prod.snd)) path ↔
      ∀ (k : Nat) (row : StopRow α) (j : Nat), stopRows[k]? = some row → path[k]? = some j →
        NearestSegment m row.lat row.lon polyline j := by
  have hentry := mapM_entry htable
  constructor
  · intro hleast k row j hrow hj
    have hk : k < table.length := by
      rw [(projectAll_shape m htable).1]
      exact (List.getElem?_eq_some_iff.mp hrow).1
    have hat : table[k]? = some table[k] := List.getElem?_eq_getElem hk
    obtain ⟨row', hrow', hproj⟩ := (hentry k _).mp hat
    obtain rfl : row = row' := Option.some.inj (hrow.symm.trans hrow')
    refine (least_entry_iff hlen hproj (hpath j (List.mem_of_getElem? hj))).mp ?_
    exact hleast k _ j (by simp [hat]) hj
  · intro hnearest k layer j hlayer hj
    rw [List.getElem?_map] at hlayer
    obtain ⟨entries, hat, rfl⟩ := Option.map_eq_some_iff.mp hlayer
    obtain ⟨row, hrow, hproj⟩ := (hentry k _).mp hat
    exact (least_entry_iff hlen hproj (hpath j (List.mem_of_getElem? hj))).mpr
      (hnearest k row j hrow hj)

/-- The rows match exactly when the chosen path goes along nearest segments. -/
theorem crossTracksMatch_iff_nearest (hlen : 2 ≤ polyline.length)
    (h : buildStops m stopRows polyline = .ok built) {table : List (List (α × α))}
    (htable : projectAll m stopRows (segments polyline) = .ok table) {path : List Nat}
    (hforward : Forward stopRows.length (polyline.length - 1) path) :
    (∀ (k : Nat) (b : BuiltStop α) (row : List (α × α)) (j : Nat),
      built[k]? = some b → table[k]? = some row → path[k]? = some j →
      ∃ r, row[j]? = some r ∧ b.crossTrackM = r.2) ↔
      ∀ (k : Nat) (row : StopRow α) (j : Nat), stopRows[k]? = some row → path[k]? = some j →
        NearestSegment m row.lat row.lon polyline j := by
  have hentry := mapM_entry htable
  have hpoints : polyline ≠ [] := List.ne_nil_of_length_pos (by omega)
  obtain ⟨progress, -, hbuilt, hrows⟩ := buildStops_entry h
  constructor
  · intro hmatch k row j hrow hj
    have hk : k < stopRows.length := (List.getElem?_eq_some_iff.mp hrow).1
    have hk' : k < table.length := by rwa [(projectAll_shape m htable).1]
    have hb : built[k]? = some built[k] := List.getElem?_eq_getElem (by omega)
    have hat : table[k]? = some table[k] := List.getElem?_eq_getElem hk'
    obtain ⟨r, hr, hcross⟩ := hmatch k _ _ j hb hat hj
    obtain ⟨row', hrow', hproj⟩ := (hentry k _).mp hat
    obtain rfl : row = row' := Option.some.inj (hrow.symm.trans hrow')
    obtain ⟨row', pm, proj, hrow', -, hpoly, hb'⟩ := (hrows k _).mp hb
    obtain rfl : row = row' := Option.some.inj (hrow.symm.trans hrow')
    obtain ⟨c, hc, hleast⟩ := projectPointToPolyline_least m _ _ hpoints hpoly
    rw [hb', hc, WithTop.coe_inj] at hcross
    rw [nearestSegment_iff hproj hr, ← hcross]
    exact hleast
  · intro hnearest k b row j hb hat hj
    obtain ⟨stop, hstop, hproj⟩ := (hentry k _).mp hat
    obtain ⟨stop', pm, proj, hstop', -, hpoly, rfl⟩ := (hrows k _).mp hb
    obtain rfl : stop = stop' := Option.some.inj (hstop.symm.trans hstop')
    obtain ⟨c, hc, hleast⟩ := projectPointToPolyline_least m _ _ hpoints hpoly
    have hwidth : row.length = polyline.length - 1 :=
      ((projectAll_shape m htable).2 row (List.mem_of_getElem? hat)).trans (segments_length _)
    have hj' : j < row.length := by
      rw [hwidth]
      exact hforward.lt_width j (List.mem_of_getElem? hj)
    have hr : row[j]? = some row[j] := List.getElem?_eq_getElem hj'
    have hchosen := (nearestSegment_iff hproj hr).mp (hnearest k stop j hstop hj)
    exact ⟨_, hr, by rw [hc, hleast.unique hchosen]⟩

/-- The chosen path is a cheapest one through the costs of the table. -/
theorem chosen_cheapest (hlen : 2 ≤ polyline.length) (hne : stopRows ≠ [])
    {table : List (List (α × α))}
    (htable : projectAll m stopRows (segments polyline) = .ok table) :
    Cheapest (polyline.length - 1) (table.map (List.map Prod.snd))
      (chooseSegments (polyline.length - 1) (table.map (List.map Prod.snd))) := by
  obtain ⟨hrows, hwidth⟩ := projectAll_shape m htable
  rw [segments_length] at hwidth
  have hfilled : table.map (List.map Prod.snd) ≠ [] := by
    simpa [← List.length_eq_zero_iff, hrows] using hne
  have hcost : ∀ c ∈ table.map (List.map Prod.snd), c.length = polyline.length - 1 := by
    simpa using hwidth
  have hsegs : 0 < polyline.length - 1 := by omega
  exact chooseSegments_cheapest hsegs hfilled hcost

theorem chosen_forward (hlen : 2 ≤ polyline.length) {table : List (List (α × α))}
    (htable : projectAll m stopRows (segments polyline) = .ok table) :
    Forward stopRows.length (polyline.length - 1)
      (chooseSegments (polyline.length - 1) (table.map (List.map Prod.snd))) := by
  by_cases hempty : stopRows = []
  · subst hempty
    cases htable
    exact ⟨rfl, fun j hj => (nomatch hj), .nil⟩
  · have hforward := (chosen_cheapest hlen hempty htable).forward
    rwa [List.length_map, (projectAll_shape m htable).1] at hforward

theorem CrossTracksMatch.nearestInOrder (hlen : 2 ≤ polyline.length)
    (hbuilt : buildStops m stopRows polyline = .ok built)
    (h : CrossTracksMatch m stopRows polyline built) : NearestInOrder m stopRows polyline := by
  obtain ⟨table, htable, hmatch⟩ := h
  have hforward := chosen_forward hlen htable
  exact ⟨_, hforward, (crossTracksMatch_iff_nearest hlen hbuilt htable hforward).mp hmatch⟩

theorem NearestInOrder.crossTracksMatch (hlen : 2 ≤ polyline.length)
    (hbuilt : buildStops m stopRows polyline = .ok built)
    (h : NearestInOrder m stopRows polyline) : CrossTracksMatch m stopRows polyline built := by
  obtain ⟨path, hpath, hnearest⟩ := h
  by_cases hempty : stopRows = []
  · subst hempty
    cases hbuilt
    exact ⟨[], rfl, fun k b row j hb => by simp at hb⟩
  · have hsafe := ((buildStops_ok_iff stopRows).mp ⟨built, hbuilt⟩).resolve_left hempty
    obtain ⟨table, htable⟩ := (projectAll_ok_iff hempty).mpr hsafe
    have hforward := chosen_forward hlen htable
    have hleast := (leastEach_iff_nearest hlen htable hpath.lt_width).mpr hnearest
    -- a path of least costs is there, so the cheapest one is such
    have hchosen : LeastEach (polyline.length - 1) (table.map (List.map Prod.snd))
        (chooseSegments (polyline.length - 1) (table.map (List.map Prod.snd))) := by
      refine (chosen_cheapest hlen hempty htable).leastEach_iff.mpr ⟨path, ?_, hleast⟩
      rwa [List.length_map, (projectAll_shape m htable).1]
    refine ⟨table, htable, (crossTracksMatch_iff_nearest hlen hbuilt htable hforward).mpr ?_⟩
    exact (leastEach_iff_nearest hlen htable hforward.lt_width).mp hchosen

/-- The built rows have the cross-track distances of their chosen segments if and only if the
stops can be taken in their order along nearest segments. -/
theorem crossTracks_match_iff (m : MathFns α) (stopRows : List (StopRow α))
    (polyline : List (PolyPoint α)) (hlen : 2 ≤ polyline.length) (built : List (BuiltStop α))
    (hbuilt : buildStops m stopRows polyline = .ok built) :
    CrossTracksMatch m stopRows polyline built ↔ NearestInOrder m stopRows polyline :=
  ⟨fun h => h.nearestInOrder hlen hbuilt, fun h => h.crossTracksMatch hlen hbuilt⟩

end Rows

/-! ## A shape that turns back -/

/-- On a meridian the cross-track distance is the latitude left to the foot. -/
theorem project_meridian {lat a b d e : ℝ} (hne : a ≠ b) (hfar : 1e-9 ≤ e - d) :
    ∃ pm, projectPointToSegment realMath lat 0 ⟨a, 0, d⟩ ⟨b, 0, e⟩ =
      .ok (pm, 6371000 * (Real.pi / 180) *
        |lat - a - (b - a) * max 0 (min 1 ((lat - a) / (b - a)))|) := by
  have hdeg : ¬Degenerate (⟨a, 0, d⟩ : PolyPoint ℝ) ⟨b, 0, e⟩ := not_lt.mpr hfar
  have hscale : (0 : ℝ) < 6371000 * (Real.pi / 180) := by positivity
  have hba : b - a ≠ 0 := sub_ne_zero.mpr hne.symm
  have hlen : segLenSq realMath ⟨a, 0, d⟩ ⟨b, 0, e⟩ =
      (6371000 * (Real.pi / 180) * (b - a)) ^ 2 := by
    simp only [segLenSq, toPlane, realMath, earthRadiusM]
    ring
  have hdot : segDot realMath lat 0 ⟨a, 0, d⟩ ⟨b, 0, e⟩ =
      (6371000 * (Real.pi / 180)) ^ 2 * ((lat - a) * (b - a)) := by
    simp only [segDot, toPlane, realMath, earthRadiusM]
    ring
  have hpos : 0 < segLenSq realMath ⟨a, 0, d⟩ ⟨b, 0, e⟩ := by
    rw [hlen]
    positivity
  have ht : clampedT lat 0 ⟨a, 0, d⟩ ⟨b, 0, e⟩ = max 0 (min 1 ((lat - a) / (b - a))) := by
    rw [clampedT, hdot, hlen]
    congr 2
    field_simp
  have hsq : ∀ t : ℝ,
      ((toPlane realMath ⟨a, 0, d⟩ lat 0).1 - (toPlane realMath ⟨a, 0, d⟩ b 0).1 * t) ^ 2 +
        ((toPlane realMath ⟨a, 0, d⟩ lat 0).2 - (toPlane realMath ⟨a, 0, d⟩ b 0).2 * t) ^ 2 =
      (6371000 * (Real.pi / 180) * (lat - a - (b - a) * t)) ^ 2 := by
    intro t
    simp only [toPlane, realMath, earthRadiusM]
    ring
  rw [project_nondegenerate hdeg hpos, foot, if_neg hdeg, ht, hsq, Real.sqrt_sq_eq_abs, abs_mul,
    abs_of_pos hscale]
  exact ⟨_, rfl⟩

/-- The foot on a segment of the meridian is the place itself. -/
def OnFoot (lat : ℝ) (v w : PolyPoint ℝ) : Prop :=
  lat - v.lat - (w.lat - v.lat) * max 0 (min 1 ((lat - v.lat) / (w.lat - v.lat))) = 0

/-- A place on some segment of a meridian is on each of its nearest ones. -/
theorem onFoot_of_nearest {polyline : List (PolyPoint ℝ)} {lat : ℝ}
    (hmeridian : ∀ s ∈ segments polyline, s.1.lon = 0 ∧ s.2.lon = 0 ∧ s.1.lat ≠ s.2.lat ∧
      1e-9 ≤ s.2.cumDistM - s.1.cumDistM)
    {i j : Nat} {s s' : PolyPoint ℝ × PolyPoint ℝ} (hs : (segments polyline)[i]? = some s)
    (hon : OnFoot lat s.1 s.2) (hs' : (segments polyline)[j]? = some s')
    (h : NearestSegment realMath lat 0 polyline j) : OnFoot lat s'.1 s'.2 := by
  have hscale : (0 : ℝ) < 6371000 * (Real.pi / 180) := by positivity
  have hproject : ∀ s ∈ segments polyline, ∃ pm, projectPointToSegment realMath lat 0 s.1 s.2 =
      .ok (pm, 6371000 * (Real.pi / 180) * |lat - s.1.lat - (s.2.lat - s.1.lat) *
        max 0 (min 1 ((lat - s.1.lat) / (s.2.lat - s.1.lat)))|) := by
    rintro ⟨⟨a, _, d⟩, ⟨b, _, e⟩⟩ hmem
    obtain ⟨rfl, rfl, hne, hfar⟩ := hmeridian _ hmem
    exact project_meridian hne hfar
  have hzero : (0 : ℝ) ∈ crossTracks realMath lat 0 polyline := by
    obtain ⟨pm, hpm⟩ := hproject s (List.mem_of_getElem? hs)
    unfold OnFoot at hon
    rw [hon, abs_zero, mul_zero] at hpm
    exact .inr ⟨s, List.mem_of_getElem? hs, pm, hpm⟩
  obtain ⟨t, pm, c, ht, hc, hleast⟩ := h
  obtain rfl : s' = t := Option.some.inj (hs'.symm.trans ht)
  obtain ⟨pm', hpm'⟩ := hproject s' (List.mem_of_getElem? hs')
  rw [hc] at hpm'
  cases hpm'
  have hle := hleast.2 hzero
  unfold OnFoot
  rw [← abs_eq_zero]
  exact le_antisymm (nonpos_of_mul_nonpos_right hle hscale) (abs_nonneg _)

/-- Two hundred metres to the south and a little more than half of the way back. -/
def hairpin : List (PolyPoint ℝ) :=
  [⟨0.002, 0, 0⟩, ⟨0.001, 0, 111⟩, ⟨0, 0, 222⟩, ⟨0.00105, 0, 338⟩]

/-- A stop on the second hundred metres, and the terminal, five metres beyond the end. -/
def hairpinRows : List (StopRow ℝ) := [⟨"s1", 1, 0.0005, 0⟩, ⟨"s2", 2, 0.0011, 0⟩]

theorem hairpin_segments : segments hairpin =
    [(⟨0.002, 0, 0⟩, ⟨0.001, 0, 111⟩), (⟨0.001, 0, 111⟩, ⟨0, 0, 222⟩),
      (⟨0, 0, 222⟩, ⟨0.00105, 0, 338⟩)] := rfl

theorem hairpin_meridian : ∀ s ∈ segments hairpin, s.1.lon = 0 ∧ s.2.lon = 0 ∧
    s.1.lat ≠ s.2.lat ∧ 1e-9 ≤ s.2.cumDistM - s.1.cumDistM := by
  simp only [hairpin_segments, List.forall_mem_cons]
  norm_num

theorem hairpin_built : ∃ built, buildStops realMath hairpinRows hairpin = .ok built := by
  refine (buildStops_ok_iff hairpinRows).mpr (.inr fun s hs hdiv => ?_)
  exact (hairpin_meridian s hs).2.2.1 ((segLenSq_eq_zero s.1 s.2).mp hdiv.2).1.symm

/-- The terminal is nearest to the way out, which is behind the first stop. -/
theorem hairpin_not_in_order : ¬NearestInOrder realMath hairpinRows hairpin := by
  rintro ⟨path, hforward, hnearest⟩
  match path, hforward.length_eq with
  | [i, j], _ =>
    obtain ⟨-, hij, -⟩ := forward_cons.mp hforward
    have hle : i ≤ j := hij j (List.mem_singleton_self j)
    have hj : j < (segments hairpin).length := hforward.lt_width j (by simp)
    have hi : i < (segments hairpin).length := hle.trans_lt hj
    have hout : (segments hairpin)[0]? = some (⟨0.002, 0, 0⟩, ⟨0.001, 0, 111⟩) := by
      rw [hairpin_segments]
      rfl
    have hon : (segments hairpin)[1]? = some (⟨0.001, 0, 111⟩, ⟨0, 0, 222⟩) := by
      rw [hairpin_segments]
      rfl
    have hstop : NearestSegment realMath 0.0005 0 hairpin i :=
      hnearest 0 ⟨"s1", 1, 0.0005, 0⟩ i rfl rfl
    have hterminal : NearestSegment realMath 0.0011 0 hairpin j :=
      hnearest 1 ⟨"s2", 2, 0.0011, 0⟩ j rfl rfl
    have hfirst := onFoot_of_nearest hairpin_meridian hon
      (by norm_num [OnFoot, min_def, max_def]) (List.getElem?_eq_getElem hi) hstop
    have hlast := onFoot_of_nearest hairpin_meridian hout
      (by norm_num [OnFoot, min_def, max_def]) (List.getElem?_eq_getElem hj) hterminal
    have hcount : (segments hairpin).length = 3 := rfl
    obtain rfl | rfl | rfl : j = 0 ∨ j = 1 ∨ j = 2 := by omega
    · obtain rfl : i = 0 := by omega
      norm_num [OnFoot, hairpin_segments, min_def, max_def] at hfirst
    · norm_num [OnFoot, hairpin_segments, min_def, max_def] at hlast
    · norm_num [OnFoot, hairpin_segments, min_def, max_def] at hlast

/-- The terminal is built with the distance 0, that onto the way out, which is not the segment
that the assignment takes it to. -/
theorem hairpin_mismatch : ¬∀ (stopRows : List (StopRow ℝ)) (polyline : List (PolyPoint ℝ)),
    2 ≤ polyline.length → ∀ built, buildStops realMath stopRows polyline = .ok built →
      CrossTracksMatch realMath stopRows polyline built := by
  intro h
  obtain ⟨built, hbuilt⟩ := hairpin_built
  have hlen : 2 ≤ hairpin.length := by simp [hairpin]
  have hmatch := h hairpinRows hairpin hlen built hbuilt
  exact hairpin_not_in_order (hmatch.nearestInOrder hlen hbuilt)

theorem crossTracks_match_iff_hairpin :
    ∃ built, buildStops realMath hairpinRows hairpin = .ok built ∧
      (CrossTracksMatch realMath hairpinRows hairpin built ↔
        NearestInOrder realMath hairpinRows hairpin) := by
  obtain ⟨built, hbuilt⟩ := hairpin_built
  have hlen : 2 ≤ hairpin.length := by simp [hairpin]
  exact ⟨built, hbuilt, crossTracks_match_iff realMath hairpinRows hairpin hlen built hbuilt⟩

end Progression

end DatabusSim
