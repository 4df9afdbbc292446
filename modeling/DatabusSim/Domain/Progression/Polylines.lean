import DatabusSim.Python
import DatabusSim.Domain.Progression.Shapes

/-!
# What a built polyline measures

Each vertex of a polyline has the coordinates of its shape point. Between two
vertices it measures what the file's column does when the column is kept
(`kept_entry`), else their haversine distance (`fallback_entry`, `havCum_step`).
-/

namespace DatabusSim

namespace Progression

/-- The neighbours of a list. -/
theorem mem_zip_tail {β : Type} {l : List β} {a b : β} :
    (a, b) ∈ l.zip l.tail ↔ ∃ i : Nat, l[i]? = some a ∧ l[i + 1]? = some b := by
  rw [List.mem_iff_getElem?]
  refine exists_congr fun i => ?_
  rw [List.getElem?_zip_eq_some, List.getElem?_tail]

section Vertices

variable {α : Type} {points : List (RawPoint α)} {dists : List α} {i : Nat}

theorem withDists_entry {v : PolyPoint α} : (withDists points dists)[i]? = some v ↔
    ∃ p d, points[i]? = some p ∧ dists[i]? = some d ∧ v = ⟨p.lat, p.lon, d⟩ := by
  unfold withDists
  rw [List.getElem?_zipWith_eq_some]
  constructor
  · rintro ⟨p, d, hp, hd, rfl⟩
    exact ⟨p, d, hp, hd, rfl⟩
  · rintro ⟨p, d, hp, hd, rfl⟩
    exact ⟨p, d, hp, hd, rfl⟩

theorem withDists_cumDistM (h : dists.length = points.length) :
    (withDists points dists).map (·.cumDistM) = dists := by
  induction points generalizing dists with
  | nil => simp [withDists, List.eq_nil_of_length_eq_zero h]
  | cons p points ih =>
    match dists, h with
    | d :: dists, h =>
      have htail := ih (Nat.succ.inj h)
      simp only [withDists] at htail
      simp [withDists, htail]

theorem withDists_coordinates (h : dists.length = points.length) :
    ((withDists points dists).map fun v => (v.lat, v.lon)) = points.map fun p => (p.lat, p.lon) := by
  induction points generalizing dists with
  | nil => simp [withDists]
  | cons p points ih =>
    match dists, h with
    | d :: dists, h =>
      have htail := ih (Nat.succ.inj h)
      simp only [withDists] at htail
      simp [withDists, htail]

/-- The column is there when every point has its kilometres. -/
theorem mapM_km {kms : List α} (h : points.mapM (·.km) = some kms) :
    kms.map some = points.map (·.km) := by
  induction points generalizing kms with
  | nil =>
    obtain rfl : [] = kms := by simpa using h
    rfl
  | cons p points ih =>
    rw [List.mapM_cons] at h
    cases hp : p.km with
    | none => simp [hp] at h
    | some km =>
      cases hrest : points.mapM (·.km) with
      | none => simp [hp, hrest] at h
      | some rest =>
        obtain rfl : km :: rest = kms := by simpa [hp, hrest] using h
        simp [hp, ih hrest]

end Vertices

/-! ## The haversine column -/

section HavCum

variable {α : Type} [Field α] (hav : α → α → α → α → α)

theorem havCumFrom_length (acc : α) (p : RawPoint α) (rest : List (RawPoint α)) :
    (havCumFrom hav acc p rest).length = rest.length + 1 := by
  induction rest generalizing acc p with
  | nil => rfl
  | cons q rest ih => simp [havCumFrom, ih]

theorem havCumFrom_head (acc : α) (p : RawPoint α) (rest : List (RawPoint α)) :
    (havCumFrom hav acc p rest)[0]? = some acc := by
  cases rest <;> rfl

/-- By induction on the points: from each one to the next the column grows by their
distance. -/
theorem havCumFrom_step (acc : α) (p : RawPoint α) (rest : List (RawPoint α)) {i : Nat}
    {a b : RawPoint α} {d : α} (ha : (p :: rest)[i]? = some a)
    (hb : (p :: rest)[i + 1]? = some b) (hd : (havCumFrom hav acc p rest)[i]? = some d) :
    (havCumFrom hav acc p rest)[i + 1]? = some (d + hav a.lat a.lon b.lat b.lon) := by
  induction rest generalizing acc p i with
  | nil => simp at hb
  | cons q rest ih =>
    cases i with
    | zero =>
      cases ha
      cases hb
      cases hd
      exact havCumFrom_head hav _ _ rest
    | succ i => exact ih _ q ha hb hd

theorem havCum_head (points : List (RawPoint α)) : (havCum hav points).head? = some 0 := by
  cases points with
  | nil => rfl
  | cons p rest =>
    rw [List.head?_eq_getElem?]
    exact havCumFrom_head hav 0 p rest

end HavCum

/-! ## Columns of distances -/

section Columns

variable {α : Type} [Field α]

/-- The distances `dists` of the points grow by `len` from each one to the next. -/
structure Column (points : List (RawPoint α)) (dists : List α)
    (len : RawPoint α → RawPoint α → α) : Prop where
  length_eq : dists.length = points.length
  step : ∀ {i : Nat} {p q : RawPoint α} {d : α}, points[i]? = some p →
    points[i + 1]? = some q → dists[i]? = some d → dists[i + 1]? = some (d + len p q)

variable {points : List (RawPoint α)}

section Column

variable {dists : List α} {len : RawPoint α → RawPoint α → α} (hcol : Column points dists len)
include hcol

/-- A segment joins two neighbours among the points. -/
theorem Column.of_mem_segments {v w : PolyPoint α}
    (h : (v, w) ∈ segments (withDists points dists)) :
    ∃ p q d, (p, q) ∈ points.zip points.tail ∧ v = ⟨p.lat, p.lon, d⟩ ∧
      w = ⟨q.lat, q.lon, d + len p q⟩ := by
  obtain ⟨i, hv, hw⟩ := mem_zip_tail.mp h
  obtain ⟨p, d, hp, hd, rfl⟩ := withDists_entry.mp hv
  obtain ⟨q, e, hq, he, rfl⟩ := withDists_entry.mp hw
  obtain rfl : d + len p q = e := Option.some.inj ((hcol.step hp hq hd).symm.trans he)
  exact ⟨p, q, d, mem_zip_tail.mpr ⟨i, hp, hq⟩, rfl, rfl⟩

/-- Two neighbours among the points are joined by a segment. -/
theorem Column.exists_segment {p q : RawPoint α} (h : (p, q) ∈ points.zip points.tail) :
    ∃ d, (⟨p.lat, p.lon, d⟩, ⟨q.lat, q.lon, d + len p q⟩) ∈
      segments (withDists points dists) := by
  obtain ⟨i, hp, hq⟩ := mem_zip_tail.mp h
  have hi : i < dists.length := by
    rw [hcol.length_eq]
    exact (List.getElem?_eq_some_iff.mp hp).1
  have hd : dists[i]? = some dists[i] := List.getElem?_eq_getElem hi
  refine ⟨dists[i], mem_zip_tail.mpr ⟨i, ?_, ?_⟩⟩
  · exact withDists_entry.mpr ⟨p, _, hp, hd, rfl⟩
  · exact withDists_entry.mpr ⟨q, _, hq, hcol.step hp hq hd, rfl⟩

end Column

theorem havCum_column (hav : α → α → α → α → α) (hne : points ≠ []) :
    Column points (havCum hav points) (fun p q => hav p.lat p.lon q.lat q.lon) := by
  match points, hne with
  | p :: rest, _ =>
    exact ⟨havCumFrom_length hav 0 p rest, fun hp hq hd => havCumFrom_step hav 0 p rest hp hq hd⟩

/-- A shift does not change what a column of kilometres measures. -/
theorem km_column {kms : List α} (hkms : points.mapM (·.km) = some kms) (offset : α) :
    Column points ((kms.map metres).map (· - offset))
      (fun p q => metres (q.km.getD 0 - p.km.getD 0)) := by
  have hmap := mapM_km hkms
  have hkm : ∀ {i : Nat} {p : RawPoint α}, points[i]? = some p →
      kms[i]? = some (p.km.getD 0) := by
    intro i p hp
    have hentry := congrArg (·[i]?) hmap
    simp only [List.getElem?_map, hp, Option.map_some] at hentry
    obtain ⟨km, hkm, hsome⟩ := Option.map_eq_some_iff.mp hentry
    rw [hkm, ← hsome]
    rfl
  constructor
  · simpa using congrArg List.length hmap
  · intro i p q d hp hq hd
    simp only [List.getElem?_map, hkm hp, hkm hq, Option.map_some] at hd ⊢
    rw [← Option.some.inj hd]
    congr 1
    ring

end Columns

/-! ## The polyline -/

variable {α : Type} [Field α] [LinearOrder α] {hav : α → α → α → α → α}
  {points : List (RawPoint α)}

/-- How far the polyline says it is from one shape point to the next. -/
def givenLenM (hav : α → α → α → α → α) (points : List (RawPoint α)) (p q : RawPoint α) : α :=
  if (providedDistsM hav points).isSome then metres (q.km.getD 0 - p.km.getD 0)
  else hav p.lat p.lon q.lat q.lon

/-- What a kept column says: every point has its kilometres, and they pass. -/
theorem providedDistsM_some {distsM : List α} (h : providedDistsM hav points = some distsM) :
    ∃ kms, points.mapM (·.km) = some kms ∧ distsM = kms.map metres ∧
      validateDistsM distsM points.length ((havCum hav points).getLastD 0) := by
  unfold providedDistsM at h
  cases hkms : points.mapM (·.km) with
  | none => simp [hkms] at h
  | some kms =>
    simp only [hkms] at h
    by_cases hvalid : validateDistsM (kms.map metres) points.length
        ((havCum hav points).getLastD 0)
    · rw [if_pos hvalid] at h
      cases h
      exact ⟨kms, rfl, rfl, hvalid⟩
    · rw [if_neg hvalid] at h
      cases h

theorem buildPolyline_kept {distsM : List α} (h : providedDistsM hav points = some distsM) :
    buildPolyline hav points = withDists points (distsM.map (· - distsM.headD 0)) := by
  cases points with
  | nil => rfl
  | cons p rest => simp [buildPolyline, h]

theorem buildPolyline_fallback (h : providedDistsM hav points = none) :
    buildPolyline hav points = withDists points (havCum hav points) := by
  cases points with
  | nil => rfl
  | cons p rest => simp [buildPolyline, h]

/-- The polyline of a shape: its points, with distances that grow by what the polyline
says it is from each one to the next. -/
theorem buildPolyline_column (hav : α → α → α → α → α) (hne : points ≠ []) : ∃ dists,
    buildPolyline hav points = withDists points dists ∧
      Column points dists (givenLenM hav points) := by
  cases hdists : providedDistsM hav points with
  | none =>
    refine ⟨_, buildPolyline_fallback hdists, ?_⟩
    have hlen : givenLenM hav points = fun p q => hav p.lat p.lon q.lat q.lon := by
      funext p q
      simp [givenLenM, hdists]
    rw [hlen]
    exact havCum_column hav hne
  | some distsM =>
    obtain ⟨kms, hkms, rfl, -⟩ := providedDistsM_some hdists
    refine ⟨_, buildPolyline_kept hdists, ?_⟩
    have hlen : givenLenM hav points = fun p q => metres (q.km.getD 0 - p.km.getD 0) := by
      funext p q
      simp [givenLenM, hdists]
    rw [hlen]
    exact km_column hkms _

theorem buildPolyline_ne_nil (hne : points ≠ []) : buildPolyline hav points ≠ [] := by
  obtain ⟨dists, hdists, hcol⟩ := buildPolyline_column hav hne
  intro hnil
  have hlen := withDists_coordinates hcol.length_eq
  rw [← hdists, hnil] at hlen
  exact hne (List.map_eq_nil_iff.mp hlen.symm)

theorem of_mem_segments {v w : PolyPoint α}
    (h : (v, w) ∈ segments (buildPolyline hav points)) :
    ∃ p q d, (p, q) ∈ points.zip points.tail ∧ v = ⟨p.lat, p.lon, d⟩ ∧
      w = ⟨q.lat, q.lon, d + givenLenM hav points p q⟩ := by
  by_cases hne : points = []
  · subst hne
    cases h
  · obtain ⟨dists, hdists, hcol⟩ := buildPolyline_column hav hne
    rw [hdists] at h
    exact hcol.of_mem_segments h

theorem exists_segment (hav : α → α → α → α → α) {p q : RawPoint α}
    (h : (p, q) ∈ points.zip points.tail) :
    ∃ d, (⟨p.lat, p.lon, d⟩, ⟨q.lat, q.lon, d + givenLenM hav points p q⟩) ∈
      segments (buildPolyline hav points) := by
  by_cases hne : points = []
  · subst hne
    cases h
  · obtain ⟨dists, hdists, hcol⟩ := buildPolyline_column hav hne
    rw [hdists]
    exact hcol.exists_segment h

end Progression

end DatabusSim
