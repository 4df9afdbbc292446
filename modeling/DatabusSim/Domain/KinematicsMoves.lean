import DatabusSim.Domain.KinematicsSteps

/-!
# What one step makes of a vehicle

`step_vehicle` case by case: the vehicle dwells, counts its idle time down, stands,
arrives at the end of its shape or goes on along it. What it raises it raises after
these assignments, so the cases hold whether it returns or raises.
`build_vehicle_payloads` only wears off a fault.
-/

namespace DatabusSim.Kinematics

/-- The two scratch spaces differ in their fault at most. -/
def Kin.UpToFault (kin kin' : Kin) : Prop :=
  kin' = { kin with fault := kin'.fault, faultTicks := kin'.faultTicks }

/-- The scratch space and the place of a vehicle that goes on along its shape. -/
structure Advanced (d : Draws) (v : Vehicle) (dt : ℚ) (shape : Shape) (kin : Kin) : Prop where
  speed : kin.speed = nextSpeed d v (initKin d v)
  idle : kin.postRunIdleRemainingS = (initKin d v).postRunIdleRemainingS
  prev : kin.progressionPrev = (initKin d v).progressionPrev
  short : ∀ total, totalDistM shape = .ok total → v.progressM + kin.speed * dt < total

/-- The ticks a vehicle still has to dwell. -/
def dwellOf (v : Vehicle) : Int := v.kin.elim 0 Kin.dwellRemaining

/-- An entry of the scratch space a step works on: the vehicle's own, or the initial one. -/
theorem initKin_entry {α : Type} (entry : Kin → α) (d : Draws) (v : Vehicle) {initial : α}
    (h : entry { speed := d.initSpeed, occupancyPct := d.initOccupancy } = initial) :
    entry (initKin d v) = v.kin.elim initial entry := by
  unfold initKin
  cases v.kin with
  | none => exact h
  | some kin => rfl

theorem initKin_dwell (d : Draws) (v : Vehicle) : (initKin d v).dwellRemaining = dwellOf v :=
  initKin_entry Kin.dwellRemaining d v rfl

/-- Without an override a vehicle does not drive below the lowest speed. -/
theorem minSpeed_le_nextSpeed {d : Draws} {v : Vehicle} (hfree : v.speedOverride = none)
    (kin : Kin) : minSpeed ≤ nextSpeed d v kin := by
  unfold nextSpeed
  rw [hfree]
  exact le_max_left _ _

/-- What a step makes of the vehicle `v` on `shape`. -/
inductive Stepped (postRunIdleS : ℚ) (d : Draws) (v : Vehicle) (dt : ℚ) (shape : Shape) :
    Vehicle → Prop where
  | dwelled : 0 < (initKin d v).dwellRemaining →
      Stepped postRunIdleS d v dt shape
        { v with kin := some { initKin d v with
            dwellRemaining := (initKin d v).dwellRemaining - 1 } }
  | counted : (initKin d v).dwellRemaining ≤ 0 → v.moving = false →
      0 < (initKin d v).postRunIdleRemainingS →
      Stepped postRunIdleS d v dt shape
        { v with
          kin := some { initKin d v with
            postRunIdleRemainingS := max 0 ((initKin d v).postRunIdleRemainingS - dt) }
          transmitting :=
            if max 0 ((initKin d v).postRunIdleRemainingS - dt) = 0 then false
            else v.transmitting }
  | stood : (initKin d v).dwellRemaining ≤ 0 → v.moving = false →
      (initKin d v).postRunIdleRemainingS ≤ 0 →
      Stepped postRunIdleS d v dt shape { v with kin := some (initKin d v) }
  | arrived (total : ℚ) : (initKin d v).dwellRemaining ≤ 0 → v.moving = true →
      totalDistM shape = .ok total →
      total ≤ v.progressM + nextSpeed d v (initKin d v) * dt →
      Stepped postRunIdleS d v dt shape
        { v with
          progressM := total
          moving := false
          kin := some { initKin d v with
            speed := nextSpeed d v (initKin d v)
            postRunIdleRemainingS := postRunIdleS } }
  | advanced (kin : Kin) : (initKin d v).dwellRemaining ≤ 0 → v.moving = true →
      Advanced d v dt shape kin →
      Stepped postRunIdleS d v dt shape
        { v with progressM := v.progressM + kin.speed * dt, kin := some kin }

section Step

variable {geo : Geo} {postRunIdleS : ℚ} {d : Draws} {v : Vehicle} {dt : ℚ} {shape : Shape}
  {stops : List Stop}

theorem stepped_onward {kin : Kin} (hdwell : (initKin d v).dwellRemaining ≤ 0)
    (hmoving : v.moving = true) (h : Advanced d v dt shape kin) :
    Stepped postRunIdleS d v dt shape
      { v with
        progressM := v.progressM + nextSpeed d v (initKin d v) * dt
        kin := some kin } := by
  rw [← h.speed]
  exact .advanced kin hdwell hmoving h

theorem advance_stepped (hdwell : (initKin d v).dwellRemaining ≤ 0) (hmoving : v.moving = true) :
    Stepped postRunIdleS d v dt shape
      (settle (advance geo postRunIdleS d v (initKin d v) dt shape stops)) := by
  unfold advance
  cases htotal : totalDistM shape with
  | error e =>
    refine stepped_onward hdwell hmoving ⟨rfl, rfl, rfl, fun total h => ?_⟩
    rw [htotal] at h
    cases h
  | ok total =>
    simp only
    by_cases hend : total ≤ v.progressM + nextSpeed d v (initKin d v) * dt
    · rw [if_pos hend]
      exact .arrived total hdwell hmoving htotal hend
    · have hshort : ∀ total, totalDistM shape = .ok total →
          v.progressM + nextSpeed d v (initKin d v) * dt < total := by
        intro total' h
        rw [htotal] at h
        cases h
        exact not_le.mp hend
      rw [if_neg hend]
      -- a raise of `interpolate` comes after the occupancy has drifted
      cases interpolate geo shape (v.progressM + nextSpeed d v (initKin d v) * dt) with
      | error e =>
        exact stepped_onward hdwell hmoving ⟨rfl, rfl, rfl, hshort⟩
      | ok place =>
        simp only
        split
        · split
          · exact stepped_onward hdwell hmoving ⟨rfl, rfl, rfl, hshort⟩
          · exact stepped_onward hdwell hmoving ⟨rfl, rfl, rfl, hshort⟩
        · exact stepped_onward hdwell hmoving ⟨rfl, rfl, rfl, hshort⟩

/-- What `step_vehicle` leaves of its vehicle, whether it returns or raises. -/
theorem stepVehicle_stepped : Stepped postRunIdleS d v dt shape
    (settle (stepVehicle geo postRunIdleS d v dt shape stops)) := by
  unfold stepVehicle
  simp only
  by_cases hdwell : 0 < (initKin d v).dwellRemaining
  · rw [if_pos hdwell]
    exact .dwelled hdwell
  · have hdwell' := not_lt.mp hdwell
    rw [if_neg hdwell]
    by_cases hmoving : v.moving = true
    · rw [if_neg (by simp [hmoving])]
      exact advance_stepped hdwell' hmoving
    · have hstill := Bool.eq_false_of_not_eq_true hmoving
      rw [if_pos (by simp [hstill])]
      by_cases hidle : 0 < (initKin d v).postRunIdleRemainingS
      · rw [if_pos hidle]
        exact .counted hdwell' hstill hidle
      · rw [if_neg hidle]
        exact .stood hdwell' hstill (not_lt.mp hidle)

theorem stepped_of_ok {v' : Vehicle}
    (h : stepVehicle geo postRunIdleS d v dt shape stops = .ok v') :
    Stepped postRunIdleS d v dt shape v' := by
  have hstepped : Stepped postRunIdleS d v dt shape
      (settle (stepVehicle geo postRunIdleS d v dt shape stops)) := stepVehicle_stepped
  rwa [h] at hstepped

/-- A stepped vehicle has a scratch space. -/
theorem Stepped.kin {v' : Vehicle} (h : Stepped postRunIdleS d v dt shape v') :
    ∃ kin, v'.kin = some kin := by
  cases h <;> exact ⟨_, rfl⟩

/-- A step starts neither the motion nor the transmission of its vehicle. -/
theorem Stepped.calms {v' : Vehicle} (h : Stepped postRunIdleS d v dt shape v') :
    (v'.moving = true → v.moving = true) ∧ (v'.transmitting = true → v.transmitting = true) := by
  cases h with
  | counted =>
    refine ⟨id, fun ht => ?_⟩
    simp only at ht
    split at ht
    · cases ht
    · exact ht
  | arrived => exact ⟨fun hm => (nomatch hm), id⟩
  | _ => exact ⟨id, id⟩

/-- Nor does it bind the vehicle to a run. -/
theorem Stepped.runView {v' : Vehicle} (h : Stepped postRunIdleS d v dt shape v') :
    v'.runView = v.runView := by
  cases h <;> rfl

end Step

/-! ## The payloads -/

/-- What `build_vehicle_payloads` may change of its vehicle. -/
def Reported (d : Draws) (v v' : Vehicle) : Prop :=
  v' = v ∨ ∃ kin, Kin.UpToFault (initKin d v) kin ∧ v' = { v with kin := some kin }

/-- The vehicle that `build_vehicle_payloads` leaves. -/
def vehicleOf {α : Type} : Except (Raised Vehicle) (Vehicle × α) → Vehicle
  | .ok r => r.1
  | .error r => r.state

variable {geo : Geo} {d : Draws} {now : ℚ} {v : Vehicle} {shape : Shape}

theorem consumeFault_upToFault (kin : Kin) : Kin.UpToFault kin (Kin.consumeFault kin) := by
  unfold Kin.UpToFault Kin.consumeFault
  split <;> rfl

theorem buildVehiclePayloads_reported :
    Reported d v (vehicleOf (buildVehiclePayloads geo d now v shape)) := by
  unfold buildVehiclePayloads
  split
  · exact .inl rfl
  · simp only
    split
    · exact .inr ⟨initKin d v, rfl, rfl⟩
    · exact .inr ⟨_, consumeFault_upToFault _, rfl⟩

/-- The numbers of a payload pair: the progress, and no speed but zero and the vehicle's own. -/
theorem buildVehiclePayloads_numbers {v' : Vehicle} {p : Payloads}
    (h : buildVehiclePayloads geo d now v shape = .ok (v', some p)) :
    p.position.odometer = pyRound v.progressM 1 ∧
      ∀ s, p.position.speed = some s → s = 0 ∨ s = pyRound (initKin d v).speed 2 := by
  unfold buildVehiclePayloads at h
  split at h
  · cases h
  · simp only at h
    split at h
    · cases h
    · cases h
      refine ⟨rfl, fun s hs => ?_⟩
      simp only at hs
      split at hs
      · cases hs
      · have hs' := Option.some.inj hs
        split at hs'
        · exact .inl hs'.symm
        · exact .inr hs'.symm

end DatabusSim.Kinematics
