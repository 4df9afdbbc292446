import DatabusSim.Domain.ControlMoves
import DatabusSim.Domain.KinematicsMoves

/-!
# What an injected fault changes

The fault of a vehicle is read in one place, where its payloads are built. Everything else
does the same to a vehicle with a fault as to one without, and the payloads of the two differ
in the fields of the fault's kind.
-/

namespace DatabusSim.Kinematics

/-- The scratch space with another fault. -/
def Kin.withFault (fault : Option FaultKind) (ticks : Int) (kin : Kin) : Kin :=
  { kin with fault := fault, faultTicks := ticks }

/-- The vehicle with another fault, where it has a scratch space. -/
def withFault (fault : Option FaultKind) (ticks : Int) (v : Vehicle) : Vehicle :=
  { v with kin := v.kin.map (Kin.withFault fault ticks) }

/-- The scratch space is filled, and there is no fault in it. -/
def FaultFree (v : Vehicle) : Prop := ∃ kin, v.kin = some kin ∧ Kin.withFault none 0 kin = kin

theorem FaultFree.filled {v : Vehicle} (h : FaultFree v) : v.kin.isSome := by
  obtain ⟨kin, hkin, -⟩ := h
  rw [hkin]
  rfl

theorem faultFree_iff {v : Vehicle} : FaultFree v ↔ v.kin.isSome ∧ withFault none 0 v = v := by
  obtain ⟨vid, route, dshape, tx, mv, so, oo, dw, br, bt, bs, term, ls, pm, lc, kin⟩ := v
  cases kin with
  | none => simp [FaultFree]
  | some kin => simp [FaultFree, withFault]

/-- The vehicle with `n` ticks of a fault left. -/
def faulty (kind : FaultKind) : Nat → Vehicle → Vehicle
  | 0, v => v
  | n + 1, v => withFault (some kind) (n + 1) v

/-- A change of the vehicle that the fault has no part in. -/
structure Blind (change : Vehicle → Vehicle) : Prop where
  commutes (fault ticks v) (filled : v.kin.isSome) :
    change (withFault fault ticks v) = withFault fault ticks (change v)
  fills (v) (filled : v.kin.isSome) : (change v).kin.isSome

theorem Blind.faulty {change : Vehicle → Vehicle} (h : Blind change) (kind : FaultKind) (n : Nat)
    {v : Vehicle} (filled : v.kin.isSome) :
    change (faulty kind n v) = Kinematics.faulty kind n (change v) := by
  cases n with
  | zero => rfl
  | succ n => exact h.commutes _ _ v filled

theorem Blind.faultFree {change : Vehicle → Vehicle} (h : Blind change) {v : Vehicle}
    (hv : FaultFree v) : FaultFree (change v) := by
  obtain ⟨hfilled, heq⟩ := faultFree_iff.mp hv
  refine faultFree_iff.mpr ⟨h.fills v hfilled, ?_⟩
  rw [← h.commutes _ _ v hfilled, heq]

section Step

variable {geo : Geo} {postRunIdleS : ℚ} {d : Draws} {dt : ℚ} {shape : Shape} {stops : List Stop}

/-- The outcome of a step, for a vehicle that has been changed. -/
def onVehicle (change : Vehicle → Vehicle) :
    Except (Raised Vehicle) Vehicle → Except (Raised Vehicle) Vehicle
  | .ok v => .ok (change v)
  | .error r => .error ⟨r.exc, change r.state⟩

theorem initKin_withFault (d : Draws) (fault : Option FaultKind) (ticks : Int) {v : Vehicle}
    (filled : v.kin.isSome) :
    initKin d (withFault fault ticks v) = Kin.withFault fault ticks (initKin d v) := by
  obtain ⟨kin, hkin⟩ := Option.isSome_iff_exists.mp filled
  simp [initKin, withFault, hkin]

theorem advance_withFault (fault : Option FaultKind) (ticks : Int) (v : Vehicle) (kin : Kin) :
    advance geo postRunIdleS d (withFault fault ticks v) (Kin.withFault fault ticks kin) dt shape
        stops =
      onVehicle (withFault fault ticks) (advance geo postRunIdleS d v kin dt shape stops) := by
  unfold advance
  cases htotal : totalDistM shape with
  | error e => rfl
  | ok total =>
    have hend : total ≤ (withFault fault ticks v).progressM +
          nextSpeed d (withFault fault ticks v) (Kin.withFault fault ticks kin) * dt ↔
        total ≤ v.progressM + nextSpeed d v kin * dt := Iff.rfl
    have hplace : interpolate geo shape ((withFault fault ticks v).progressM +
          nextSpeed d (withFault fault ticks v) (Kin.withFault fault ticks kin) * dt) =
        interpolate geo shape (v.progressM + nextSpeed d v kin * dt) := rfl
    simp only [hend, hplace]
    split_ifs
    · rfl
    · cases interpolate geo shape (v.progressM + nextSpeed d v kin * dt) with
      | error e => rfl
      | ok place =>
        simp only
        cases nearestStop geo stops place.1 place.2.1 with
        | none => rfl
        | some near =>
          obtain ⟨ns, dist⟩ := near
          have hsame : (dist < stopRadiusM ∧
                (!(Kin.withFault fault ticks kin).lastStopId.isStr ns.stopId) = true) ↔
              dist < stopRadiusM ∧ (!kin.lastStopId.isStr ns.stopId) = true := Iff.rfl
          by_cases hnear : dist < stopRadiusM ∧ (!kin.lastStopId.isStr ns.stopId) = true
          · simp only [if_pos hnear, if_pos (hsame.mpr hnear)]
            rfl
          · simp only [if_neg hnear, if_neg (mt hsame.mp hnear)]
            rfl

theorem stepVehicle_withFault (fault : Option FaultKind) (ticks : Int) {v : Vehicle}
    (filled : v.kin.isSome) :
    stepVehicle geo postRunIdleS d (withFault fault ticks v) dt shape stops =
      onVehicle (withFault fault ticks) (stepVehicle geo postRunIdleS d v dt shape stops) := by
  unfold stepVehicle
  rw [initKin_withFault d fault ticks filled]
  simp only
  -- the branches ask what the fault is no part of, so both sides take the same one
  have hdwell : 0 < (Kin.withFault fault ticks (initKin d v)).dwellRemaining ↔
    0 < (initKin d v).dwellRemaining := Iff.rfl
  have hidle : 0 < (Kin.withFault fault ticks (initKin d v)).postRunIdleRemainingS ↔
    0 < (initKin d v).postRunIdleRemainingS := Iff.rfl
  by_cases h₁ : 0 < (initKin d v).dwellRemaining
  · rw [if_pos h₁, if_pos (hdwell.mpr h₁)]
    rfl
  · rw [if_neg h₁, if_neg (mt hdwell.mp h₁)]
    by_cases h₂ : (!v.moving) = true
    · have h₂' : (!(withFault fault ticks v).moving) = true := h₂
      rw [if_pos h₂, if_pos h₂']
      by_cases h₃ : 0 < (initKin d v).postRunIdleRemainingS
      · rw [if_pos h₃, if_pos (hidle.mpr h₃)]
        rfl
      · rw [if_neg h₃, if_neg (mt hidle.mp h₃)]
        rfl
    · have h₂' : ¬ (!(withFault fault ticks v).moving) = true := h₂
      rw [if_neg h₂, if_neg h₂']
      exact advance_withFault fault ticks v (initKin d v)

theorem onVehicle_id (r : Except (Raised Vehicle) Vehicle) : onVehicle id r = r := by
  cases r <;> rfl

theorem stepVehicle_faulty (kind : FaultKind) (n : Nat) {v : Vehicle} (filled : v.kin.isSome) :
    stepVehicle geo postRunIdleS d (faulty kind n v) dt shape stops =
      onVehicle (faulty kind n) (stepVehicle geo postRunIdleS d v dt shape stops) := by
  cases n with
  | zero => exact (onVehicle_id _).symm
  | succ n => exact stepVehicle_withFault _ _ filled

theorem settle_onVehicle (change : Vehicle → Vehicle) (r : Except (Raised Vehicle) Vehicle) :
    settle (onVehicle change r) = change (settle r) := by
  cases r <;> rfl

theorem stepVehicle_faultFree {v : Vehicle} (hv : FaultFree v) :
    FaultFree (settle (stepVehicle geo postRunIdleS d v dt shape stops)) := by
  obtain ⟨hfilled, heq⟩ := faultFree_iff.mp hv
  have hstepped : Stepped postRunIdleS d v dt shape
      (settle (stepVehicle geo postRunIdleS d v dt shape stops)) := stepVehicle_stepped
  obtain ⟨kin, hkin⟩ := hstepped.kin
  refine faultFree_iff.mpr ⟨by rw [hkin]; rfl, ?_⟩
  rw [← settle_onVehicle (withFault none 0), ← stepVehicle_withFault none 0 hfilled, heq]

end Step

/-! ## The payloads of the two -/

/-- What a fault makes of a payload pair. -/
def corrupt (kind : FaultKind) (p : Payloads) : Payloads :=
  match kind with
  | .staleTs =>
      { position := { p.position with timestamp := p.position.timestamp - 120 }
        occupancy := { p.occupancy with timestamp := p.occupancy.timestamp - 120 } }
  | .outOfBounds => { p with position := { p.position with latitude := 0, longitude := 0 } }
  | .malformed => { p with position := { p.position with speed := none } }

/-- The pair of a vehicle with `n` ticks of a fault left. -/
def marked (kind : FaultKind) (n : Nat) (p : Payloads) : Payloads :=
  if n = 0 then p else corrupt kind p

/-- How building the payloads of a vehicle `v` ends without a fault and with `n` ticks of one
left: only a pair that is emitted wears a tick off. -/
inductive Twins (kind : FaultKind) (n : Nat) (v : Vehicle) :
    Except (Raised Vehicle) (Vehicle × Option Payloads) →
      Except (Raised Vehicle) (Vehicle × Option Payloads) → Prop where
  | raised (exc) : Twins kind n v (.error ⟨exc, v⟩) (.error ⟨exc, faulty kind n v⟩)
  | silent : Twins kind n v (.ok (v, none)) (.ok (faulty kind n v, none))
  | emitted (p) :
      Twins kind n v (.ok (v, some p)) (.ok (faulty kind (n - 1) v, some (marked kind n p)))

section Build

variable {geo : Geo} {d : Draws} {now : ℚ} {shape : Shape}

/-- The pair of a vehicle at a place, by its active fault. -/
def pairAt (now : ℚ) (v : Vehicle) (kin : Kin) (place : ℚ × ℚ × ℚ) (fault : Option FaultKind) :
    Payloads where
  position :=
    { timestamp := if fault = some .staleTs then truncate now - 120 else truncate now
      latitude := pyRound (if fault = some .outOfBounds then (0, 0) else (place.1, place.2.1)).1 6
      longitude := pyRound (if fault = some .outOfBounds then (0, 0) else (place.1, place.2.1)).2 6
      bearing := pyRound place.2.2 1
      speed :=
        if fault = some .malformed then none
        else some (if !v.moving ∨ 0 < kin.dwellRemaining then 0 else pyRound kin.speed 2)
      odometer := pyRound v.progressM 1 }
  occupancy :=
    { timestamp := if fault = some .staleTs then truncate now - 120 else truncate now
      occupancyPercentage := v.occupancyOverride.getD kin.occupancyPct }

theorem buildVehiclePayloads_eq {v : Vehicle} {kin : Kin} (hkin : v.kin = some kin) :
    buildVehiclePayloads geo d now v shape =
      if !v.transmitting then .ok (v, none)
      else
        match interpolate geo shape v.progressM with
        | .error e => .error ⟨e, v⟩
        | .ok place =>
            .ok ({ v with kin := some (Kin.consumeFault kin) },
              some (pairAt now v kin place (Kin.activeFault kin))) := by
  have hinit : initKin d v = kin := by rw [initKin, hkin]; rfl
  unfold buildVehiclePayloads
  rw [hinit]
  split
  · rfl
  · cases interpolate geo shape v.progressM with
    | error e =>
      show Except.error _ = Except.error _
      rw [← hkin]
    | ok place => rfl

theorem pairAt_fault (now : ℚ) (v : Vehicle) (kin : Kin) (place : ℚ × ℚ × ℚ) (kind : FaultKind) :
    pairAt now v kin place (some kind) = corrupt kind (pairAt now v kin place none) := by
  cases kind <;> simp [pairAt, corrupt, pyRound_zero]

theorem consumeFault_free {kin : Kin} (h : Kin.withFault none 0 kin = kin) :
    Kin.activeFault kin = none ∧ Kin.consumeFault kin = kin := by
  rw [← h]
  exact ⟨rfl, rfl⟩

theorem activeFault_succ (kind : FaultKind) (n : Nat) (kin : Kin) :
    Kin.activeFault (Kin.withFault (some kind) (n + 1) kin) = some kind := by
  have hpos : 0 < (n : Int) + 1 := by omega
  exact if_pos hpos

/-- A pair wears one tick of the fault off, and the fault goes with the last one. -/
theorem consumeFault_succ (kind : FaultKind) (n : Nat) (kin : Kin) :
    Kin.consumeFault (Kin.withFault (some kind) (n + 1) kin) =
      Kin.withFault (if n = 0 then none else some kind) n kin := by
  unfold Kin.consumeFault
  rw [activeFault_succ]
  simp only [Kin.withFault, Int.add_sub_cancel]
  cases n with
  | zero => rfl
  | succ n =>
    have hmore : ¬ ((n + 1 : Nat) : Int) ≤ 0 := by omega
    rw [if_neg hmore, if_neg (Nat.succ_ne_zero n)]

theorem buildVehiclePayloads_twins (kind : FaultKind) (n : Nat) {v : Vehicle} (hv : FaultFree v) :
    Twins kind n v (buildVehiclePayloads geo d now v shape)
      (buildVehiclePayloads geo d now (faulty kind n v) shape) := by
  obtain ⟨kin, hkin, hfree⟩ := hv
  obtain ⟨hnone, hconsumed⟩ := consumeFault_free hfree
  have hself : { v with kin := some kin } = v := by rw [← hkin]
  rw [buildVehiclePayloads_eq hkin, hnone, hconsumed, hself]
  cases n with
  | zero =>
    show Twins kind 0 v _ (buildVehiclePayloads geo d now v shape)
    rw [buildVehiclePayloads_eq hkin, hnone, hconsumed, hself]
    split
    · exact .silent
    · split
      · exact .raised _
      · exact .emitted _
  | succ n =>
    have hkin' : (faulty kind (n + 1) v).kin =
        some (Kin.withFault (some kind) (n + 1) kin) := by
      simp [faulty, withFault, hkin]
    have hstate : { faulty kind (n + 1) v with
        kin := some (Kin.consumeFault (Kin.withFault (some kind) (n + 1) kin)) } =
          faulty kind n v := by
      rw [consumeFault_succ]
      cases n with
      | zero =>
        rw [if_pos rfl, Int.natCast_zero, hfree]
        exact hself
      | succ n =>
        rw [if_neg (Nat.succ_ne_zero n)]
        show _ = withFault (some kind) (n + 1) v
        rw [withFault, hkin]
        rfl
    have hpair : ∀ place, pairAt now (faulty kind (n + 1) v)
        (Kin.withFault (some kind) (n + 1) kin) place (some kind) =
          corrupt kind (pairAt now v kin place none) := fun place =>
      pairAt_fault now v kin place kind
    rw [buildVehiclePayloads_eq hkin', activeFault_succ]
    show Twins kind (n + 1) v _ (if !v.transmitting then .ok (faulty kind (n + 1) v, none)
      else match interpolate geo shape v.progressM with
        | .error e => .error ⟨e, faulty kind (n + 1) v⟩
        | .ok place => .ok (_, some (pairAt now _ _ place (some kind))))
    split
    · exact .silent
    · split
      · exact .raised _
      · rename_i place _
        rw [hpair, hstate]
        exact .emitted _

end Build

/-! ## The controls of the two -/

section Controls

open Control

variable {env : Env} {payload : Payload} {knob : String} {v v' : Vehicle}

/-- A control that injects no fault does the same to a vehicle with another fault. -/
theorem accepted_withFault (h : Accepted env payload knob v v') (hknob : knob ≠ "inject_fault")
    (fault : Option FaultKind) (ticks : Int) (filled : v.kin.isSome) :
    Accepted env payload knob (withFault fault ticks v) (withFault fault ticks v') ∧
      v'.kin.isSome := by
  unfold Accepted at h
  split at h
  · obtain ⟨on, hon, rfl⟩ := h
    exact ⟨⟨on, hon, rfl⟩, filled⟩
  · obtain ⟨on, hon, rfl⟩ := h
    exact ⟨⟨on, hon, rfl⟩, filled⟩
  · obtain ⟨value, hvalue, rfl⟩ := h
    exact ⟨⟨value, hvalue, rfl⟩, filled⟩
  · obtain ⟨value, hvalue, rfl⟩ := h
    exact ⟨⟨value, hvalue, rfl⟩, filled⟩
  · obtain ⟨ticks, hticks, hnonneg, rfl⟩ := h
    obtain ⟨kin, hkin⟩ := Option.isSome_iff_exists.mp filled
    refine ⟨⟨ticks, hticks, hnonneg, ?_⟩, ?_⟩
    · simp only [withFault, hkin]
      rfl
    · simp [hkin]
  · obtain ⟨file, shape, total, hfile, hshape, htotal, rfl⟩ := h
    exact ⟨⟨file, shape, total, hfile, hshape, htotal, rfl⟩, filled⟩
  · obtain ⟨stopId, file, shape, stop, hstopId, hfile, hshape, hstop, rfl⟩ := h
    exact ⟨⟨stopId, file, shape, stop, hstopId, hfile, hshape, hstop, rfl⟩, filled⟩
  · exact absurd rfl hknob
  · exact h.elim

end Controls

end DatabusSim.Kinematics
