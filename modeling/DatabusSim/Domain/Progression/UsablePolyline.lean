import DatabusSim.Domain.Progression.AlongTrack

/-!
# What every built polyline has

Whether the file's column is kept or the haversine distances are taken, the polyline of a
shape has its points in their order, starts at 0, does not go back, and is between half and
twice as long as the haversine distances add up to.
-/

namespace DatabusSim

namespace Progression

/-! ## The haversine column -/

section HavCum

variable {α : Type} [Field α] [LinearOrder α] [IsStrictOrderedRing α]
  {hav : α → α → α → α → α} (hnonneg : ∀ lat1 lon1 lat2 lon2, 0 ≤ hav lat1 lon1 lat2 lon2)
include hnonneg

theorem havCumFrom_ge (acc : α) (p : RawPoint α) (rest : List (RawPoint α)) :
    ∀ d ∈ havCumFrom hav acc p rest, acc ≤ d := by
  induction rest generalizing acc p with
  | nil => simp [havCumFrom]
  | cons q rest ih =>
    intro d hd
    rcases List.mem_cons.mp hd with rfl | hd
    · exact le_rfl
    · exact (le_add_of_nonneg_right (hnonneg _ _ _ _)).trans (ih _ q d hd)

theorem havCumFrom_nondecreasing (acc : α) (p : RawPoint α) (rest : List (RawPoint α)) :
    (havCumFrom hav acc p rest).Pairwise (· ≤ ·) := by
  induction rest generalizing acc p with
  | nil => exact List.pairwise_singleton _ _
  | cons q rest ih =>
    refine List.pairwise_cons.mpr ⟨fun d hd => ?_, ih _ q⟩
    exact (le_add_of_nonneg_right (hnonneg _ _ _ _)).trans (havCumFrom_ge hnonneg _ q rest d hd)

theorem havCum_nondecreasing (points : List (RawPoint α)) :
    (havCum hav points).Pairwise (· ≤ ·) := by
  cases points with
  | nil => exact List.pairwise_singleton _ _
  | cons p rest => exact havCumFrom_nondecreasing hnonneg 0 p rest

end HavCum

/-! ## A kept column -/

section Shifted

variable {α : Type} [Field α]

/-- A column shifted to start at 0. -/
theorem shifted_head {d : α} {rest : List α} :
    ((d :: rest).map (· - (d :: rest).headD 0)).head? = some 0 := by
  simp

theorem shifted_last {dists : List α} (hne : dists ≠ []) (offset : α) :
    (dists.map (· - offset)).getLastD 0 = dists.getLastD 0 - offset := by
  simp [List.getLastD_eq_getLast?, List.getLast?_map, List.getLast?_eq_some_getLast hne]

end Shifted

variable {α : Type} [Field α] [LinearOrder α] [IsStrictOrderedRing α]
  {hav : α → α → α → α → α} {points : List (RawPoint α)} {dists : List α}

/-- What the validation has checked of a column. -/
theorem validateDistsM_checked {nPoints : Nat} {total : α}
    (h : validateDistsM dists nPoints total = true) :
    dists.Pairwise (· ≤ ·) ∧ (0 < total →
      total / 2 ≤ dists.getLastD 0 - dists.headD 0 ∧
        dists.getLastD 0 - dists.headD 0 ≤ 2 * total) := by
  have hlen : dists.length = nPoints := by
    by_contra hne
    simp [validateDistsM, hne] at h
  have hsorted : dists.Pairwise (· ≤ ·) := by
    rw [← nonDecreasing_iff]
    by_contra hne
    simp [validateDistsM, hlen, hne] at h
  refine ⟨hsorted, fun hpos => ?_⟩
  obtain ⟨hlow, hhigh⟩ := (validateDistsM_iff hlen hsorted).mp h hpos
  rw [le_div_iff₀ hpos] at hlow
  rw [div_le_iff₀ hpos] at hhigh
  exact ⟨by linarith, hhigh⟩

theorem shifted_nondecreasing (h : dists.Pairwise (· ≤ ·)) (offset : α) :
    (dists.map (· - offset)).Pairwise (· ≤ ·) :=
  List.pairwise_map.mpr (h.imp fun hle => sub_le_sub_right hle offset)

/-! ## The polyline -/

/-- The polyline has the points in their order, starts at 0, does not go back and is between half
and twice as long as the haversine distances add up to. -/
structure Usable (hav : α → α → α → α → α) (points : List (RawPoint α))
    (polyline : List (PolyPoint α)) : Prop where
  coordinates : (polyline.map fun v => (v.lat, v.lon)) = points.map fun p => (p.lat, p.lon)
  start : (polyline.map (·.cumDistM)).head? = some 0
  nondecreasing : (polyline.map (·.cumDistM)).Pairwise (· ≤ ·)
  total : 0 < (havCum hav points).getLastD 0 →
    (havCum hav points).getLastD 0 / 2 ≤ (polyline.map (·.cumDistM)).getLastD 0 ∧
      (polyline.map (·.cumDistM)).getLastD 0 ≤ 2 * (havCum hav points).getLastD 0

/-- Whichever of the two columns is taken, the polyline is usable. -/
theorem buildPolyline_usable
    (hnonneg : ∀ lat1 lon1 lat2 lon2, 0 ≤ hav lat1 lon1 lat2 lon2) (hne : points ≠ []) :
    Usable hav points (buildPolyline hav points) := by
  cases hdists : providedDistsM hav points with
  | none =>
    have hlen : (havCum hav points).length = points.length := (havCum_column hav hne).length_eq
    rw [buildPolyline_fallback hdists]
    refine ⟨withDists_coordinates hlen, ?_, ?_, ?_⟩
    · rw [withDists_cumDistM hlen]
      exact havCum_head hav points
    · rw [withDists_cumDistM hlen]
      exact havCum_nondecreasing hnonneg points
    · rw [withDists_cumDistM hlen]
      exact fun hpos => ⟨by linarith, by linarith⟩
  | some distsM =>
    obtain ⟨kms, hkms, rfl, hvalid⟩ := providedDistsM_some hdists
    obtain ⟨hsorted, hband⟩ := validateDistsM_checked hvalid
    have hcol := km_column hkms ((kms.map metres).headD 0)
    have hfilled : kms.map metres ≠ [] := by
      intro hnil
      have hlen := hcol.length_eq
      rw [hnil] at hlen
      exact hne (List.eq_nil_of_length_eq_zero hlen.symm)
    rw [buildPolyline_kept hdists]
    refine ⟨withDists_coordinates hcol.length_eq, ?_, ?_, ?_⟩
    · rw [withDists_cumDistM hcol.length_eq]
      obtain ⟨d, rest, hcons⟩ := List.exists_cons_of_ne_nil hfilled
      rw [hcons]
      exact shifted_head
    · rw [withDists_cumDistM hcol.length_eq]
      exact shifted_nondecreasing hsorted _
    · rw [withDists_cumDistM hcol.length_eq, shifted_last hfilled]
      exact hband

/-- A column with a gap in it, so the haversine distances are taken. -/
theorem buildPolyline_usable_meridian :
    Usable meridianGeo.haversineM [⟨9, -84, some 0⟩, ⟨10, -84, none⟩]
      (buildPolyline meridianGeo.haversineM [⟨9, -84, some 0⟩, ⟨10, -84, none⟩]) :=
  buildPolyline_usable (fun _ _ _ _ => mul_nonneg (by norm_num) (abs_nonneg _))
    (List.cons_ne_nil _ _)

end Progression

end DatabusSim
