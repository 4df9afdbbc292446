import DatabusSim.Domain.Kinematics

/-!
# What the kinematics can raise

`interpolate` indexes the point before and the point at its place, so it needs two
points and nothing else. `step_vehicle` interpolates for a moving vehicle only, and
`build_vehicle_payloads` for a transmitting one only. Neither writes a run.
-/

namespace DatabusSim.Kinematics

/-! ## Points -/

variable {points : List ShapePoint}

theorem pointAt_ok {i : Nat} (h : i < points.length) : ∃ p, pointAt points i = .ok p := by
  unfold pointAt
  rw [List.getElem?_eq_getElem h]
  exact ⟨_, rfl⟩

theorem pointAt_out {i : Nat} (h : points.length ≤ i) :
    pointAt points i = .error (.indexError "list index out of range") := by
  unfold pointAt
  rw [List.getElem?_eq_none h]

theorem lastPoint_ok (h : points ≠ []) : ∃ p, lastPoint points = .ok p := by
  unfold lastPoint
  rw [List.getLast?_eq_getLast_of_ne_nil h]
  exact ⟨_, rfl⟩

/-- The search stays within its bounds. -/
theorem bisect_ok (progressKm : ℚ) :
    ∀ fuel {lo hi : Nat}, lo ≤ hi → hi < points.length →
      ∃ i, bisect points progressKm fuel lo hi = .ok i ∧ i ≤ hi := by
  intro fuel
  induction fuel with
  | zero => exact fun hlo _ => ⟨_, rfl, hlo⟩
  | succ fuel ih =>
    intro lo hi hlo hhi
    unfold bisect
    by_cases hlt : lo < hi
    · have hmid : (lo + hi) / 2 < points.length := by omega
      obtain ⟨p, hp⟩ := pointAt_ok hmid
      simp only [if_pos hlt, hp]
      by_cases hd : p.distKm < progressKm
      · have hup : (lo + hi) / 2 + 1 ≤ hi := by omega
        obtain ⟨i, hi', hle⟩ := ih hup hhi
        exact ⟨i, by simpa [bind, Except.bind, hd] using hi', hle⟩
      · have hdown : lo ≤ (lo + hi) / 2 := by omega
        obtain ⟨i, hi', hle⟩ := ih hdown hmid
        exact ⟨i, by simpa [bind, Except.bind, hd] using hi', by omega⟩
    · rw [if_neg hlt]
      exact ⟨lo, rfl, hlo⟩

theorem interpolate_ok_iff {geo : Geo} {shape : Shape} {progressM : ℚ} :
    (∃ r, interpolate geo shape progressM = .ok r) ↔ 2 ≤ shape.points.length := by
  constructor
  · rintro ⟨r, h⟩
    by_contra hlen
    unfold interpolate at h
    obtain ⟨last, -, h⟩ := bind_ok.mp h
    obtain ⟨lo, -, h⟩ := bind_ok.mp h
    obtain ⟨p₁, -, h⟩ := bind_ok.mp h
    obtain ⟨p₂, h₂, -⟩ := bind_ok.mp h
    rw [pointAt_out (by omega)] at h₂
    cases h₂
  · intro hlen
    obtain ⟨last, hlast⟩ :=
      lastPoint_ok (List.ne_nil_of_length_pos (by omega : 0 < shape.points.length))
    obtain ⟨lo, hlo, hle⟩ := bisect_ok (max 0 (min (progressM / 1000) last.distKm))
      shape.points.length (Nat.zero_le _) (by omega : shape.points.length - 1 < shape.points.length)
    obtain ⟨p₁, h₁⟩ := pointAt_ok (by omega : max 1 lo - 1 < shape.points.length)
    obtain ⟨p₂, h₂⟩ := pointAt_ok (by omega : max 1 lo < shape.points.length)
    exact ⟨_, bind_ok.mpr ⟨last, hlast, bind_ok.mpr ⟨lo, hlo, bind_ok.mpr ⟨p₁, h₁,
      bind_ok.mpr ⟨p₂, h₂, rfl⟩⟩⟩⟩⟩

/-! ## One step of a vehicle -/

section Step

variable {geo : Geo} {postRunIdleS : ℚ} {d : Draws} {v : Vehicle} {dt : ℚ} {shape : Shape}
  {stops : List Stop}

theorem totalDistM_nil (h : shape.points = []) :
    totalDistM shape = .error (.indexError "list index out of range") := by
  unfold totalDistM lastPoint
  rw [h]
  rfl

theorem totalDistM_ok (h : shape.points ≠ []) : ∃ total, totalDistM shape = .ok total := by
  obtain ⟨p, hp⟩ := lastPoint_ok h
  exact ⟨_, bind_ok.mpr ⟨p, hp, rfl⟩⟩

theorem totalDistM_singleton {p : ShapePoint} (h : shape.points = [p]) :
    totalDistM shape = .ok (p.distKm * 1000) := by
  unfold totalDistM lastPoint
  rw [h]
  rfl

/-- What `advance` leaves of a vehicle, whether it returns or raises. -/
theorem advance_keeps {kin : Kin} :
    (settle (advance geo postRunIdleS d v kin dt shape stops)).runView = v.runView ∧
      (settle (advance geo postRunIdleS d v kin dt shape stops)).transmitting =
        v.transmitting := by
  unfold advance
  cases totalDistM shape with
  | error e => exact ⟨rfl, rfl⟩
  | ok total =>
    simp only
    split
    · exact ⟨rfl, rfl⟩
    · split
      · exact ⟨rfl, rfl⟩
      · split
        · split <;> exact ⟨rfl, rfl⟩
        · exact ⟨rfl, rfl⟩

/-- A moving vehicle on a shape with fewer than two points can reach the end of its one
point at most. -/
theorem advance_ok_iff {kin : Kin} :
    (∃ v', advance geo postRunIdleS d v kin dt shape stops = .ok v') ↔
      2 ≤ shape.points.length ∨ ∃ p, shape.points = [p] ∧
        p.distKm * 1000 ≤ v.progressM + nextSpeed d v kin * dt := by
  unfold advance
  by_cases hlen : 2 ≤ shape.points.length
  · refine iff_of_true ?_ (.inl hlen)
    obtain ⟨total, htotal⟩ :=
      totalDistM_ok (List.ne_nil_of_length_pos (by omega : 0 < shape.points.length))
    obtain ⟨r, hr⟩ : ∃ r, interpolate geo shape (v.progressM + nextSpeed d v kin * dt) = .ok r :=
      interpolate_ok_iff.mpr hlen
    simp only [htotal, hr]
    split
    · exact ⟨_, rfl⟩
    · split
      · split <;> exact ⟨_, rfl⟩
      · exact ⟨_, rfl⟩
  · have hraise : ∀ m, ¬ ∃ r, interpolate geo shape m = .ok r :=
      fun m h => hlen (interpolate_ok_iff.mp h)
    -- without points the total raises; with one only the clamp at its end returns
    rw [or_iff_right hlen]
    rcases hpts : shape.points with _ | ⟨p, rest⟩
    · rw [totalDistM_nil hpts]
      simp
    · obtain rfl : rest = [] := by
        rcases rest with _ | ⟨q, rest⟩
        · rfl
        · rw [hpts] at hlen
          simp at hlen
      rw [totalDistM_singleton hpts]
      simp only
      by_cases hend : p.distKm * 1000 ≤ v.progressM + nextSpeed d v kin * dt
      · rw [if_pos hend]
        exact iff_of_true ⟨_, rfl⟩ ⟨p, rfl, hend⟩
      · rw [if_neg hend]
        cases hi : interpolate geo shape (v.progressM + nextSpeed d v kin * dt) with
        | ok r => exact absurd ⟨r, hi⟩ (hraise _)
        | error e =>
          refine iff_of_false (fun ⟨_, h⟩ => nomatch h) ?_
          rintro ⟨q, hq, hend'⟩
          cases hq
          exact hend hend'

/-- The vehicle has no progress to make: it dwells or does not move. -/
def Standing (d : Draws) (v : Vehicle) : Prop :=
  0 < (initKin d v).dwellRemaining ∨ v.moving = false

/-- `step_vehicle` keeps the run of its vehicle, whether it returns or raises. -/
theorem stepVehicle_runView :
    (settle (stepVehicle geo postRunIdleS d v dt shape stops)).runView = v.runView := by
  unfold stepVehicle
  simp only
  split
  · rfl
  · split
    · split <;> rfl
    · exact advance_keeps.1

theorem stepVehicle_ok_iff :
    (∃ v', stepVehicle geo postRunIdleS d v dt shape stops = .ok v') ↔
      2 ≤ shape.points.length ∨ Standing d v ∨ ∃ p, shape.points = [p] ∧
        p.distKm * 1000 ≤ v.progressM + nextSpeed d v (initKin d v) * dt := by
  unfold stepVehicle Standing
  simp only
  by_cases hdwell : 0 < (initKin d v).dwellRemaining
  · rw [if_pos hdwell]
    exact iff_of_true ⟨_, rfl⟩ (.inr (.inl (.inl hdwell)))
  · rw [if_neg hdwell]
    cases hmoving : v.moving with
    | false =>
      refine iff_of_true ?_ (.inr (.inl (.inr rfl)))
      rw [Bool.not_false, if_pos rfl]
      split <;> exact ⟨_, rfl⟩
    | true =>
      rw [Bool.not_true, if_neg Bool.false_ne_true, advance_ok_iff]
      simp [hdwell]

end Step

/-! ## The payloads -/

section Payloads

variable {geo : Geo} {d : Draws} {now : ℚ} {v : Vehicle} {shape : Shape}

theorem buildVehiclePayloads_runView {r : Vehicle × Option Payloads}
    (h : buildVehiclePayloads geo d now v shape = .ok r) : r.1.runView = v.runView := by
  unfold buildVehiclePayloads at h
  split at h
  · cases h
    rfl
  · simp only at h
    split at h
    · cases h
    · cases h
      rfl

theorem buildVehiclePayloads_raises {r : Raised Vehicle}
    (h : buildVehiclePayloads geo d now v shape = .error r) : r.state.runView = v.runView := by
  unfold buildVehiclePayloads at h
  split at h
  · cases h
  · simp only at h
    split at h
    · cases h
      rfl
    · cases h

end Payloads

end DatabusSim.Kinematics
