import DatabusSim.Domain.Control

/-!
# Controls are atomic

For each knob, which payloads its handler accepts and the one assignment it then makes. A
handler that does not get there, because it rejects the payload or because something it
calls raises, leaves the fleet as it was.
-/

namespace DatabusSim.Control

open Kinematics FleetState

/-- The value of a `speed` control: `null`, or a number that is a finite float. -/
inductive SpeedValue : PyVal → Option ℚ → Prop where
  | null : SpeedValue .null none
  | float (q : ℚ) : SpeedValue (.float q) (some q)
  | int {value i q} (reads : asInt value = some i) (fits : floatOfInt i = .ok q) :
      SpeedValue value (some q)

/-- The value of an `occupancy` control: `null`, or a percentage. -/
inductive OccupancyValue : PyVal → Option Int → Prop where
  | null : OccupancyValue .null none
  | int {value i} (reads : asInt value = some i) (nonneg : 0 ≤ i) (le : i ≤ 100) :
      OccupancyValue value (some i)

theorem SpeedValue.isInt {value : PyVal} {r : Option ℚ} (h : SpeedValue value r)
    (hnull : value ≠ .null) (hfloat : ∀ q, value ≠ .float q) :
    ∃ i q, asInt value = some i ∧ floatOfInt i = .ok q := by
  cases h with
  | null => exact absurd rfl hnull
  | float q => exact absurd rfl (hfloat q)
  | int reads fits => exact ⟨_, _, reads, fits⟩

theorem SpeedValue.unique {value : PyVal} {r r' : Option ℚ} (h : SpeedValue value r)
    (h' : SpeedValue value r') : r = r' := by
  cases h with
  | null =>
    cases h' with
    | null => rfl
    | int reads => cases reads
  | float q =>
    cases h' with
    | float => rfl
    | int reads => cases reads
  | int reads fits =>
    cases h' with
    | null => cases reads
    | float => cases reads
    | int reads' fits' =>
      cases reads.symm.trans reads'
      cases fits.symm.trans fits'
      rfl

theorem OccupancyValue.isInt {value : PyVal} {r : Option Int} (h : OccupancyValue value r)
    (hnull : value ≠ .null) : ∃ i, asInt value = some i ∧ 0 ≤ i ∧ i ≤ 100 := by
  cases h with
  | null => exact absurd rfl hnull
  | int reads nonneg le => exact ⟨_, reads, nonneg, le⟩

theorem OccupancyValue.range {value : PyVal} {r : Option Int} (h : OccupancyValue value r) :
    ∀ pct ∈ r, 0 ≤ pct ∧ pct ≤ 100 := by
  intro pct hpct
  cases h with
  | null => cases hpct
  | int reads nonneg le =>
    cases hpct
    exact ⟨nonneg, le⟩

theorem OccupancyValue.unique {value : PyVal} {r r' : Option Int} (h : OccupancyValue value r)
    (h' : OccupancyValue value r') : r = r' := by
  cases h with
  | null =>
    cases h' with
    | null => rfl
    | int reads => cases reads
  | int reads =>
    cases h' with
    | null => cases reads
    | int reads' => exact reads.symm.trans reads'

/-- The handler of a knob accepts the payload for the vehicle `v` and makes `v'` of it. -/
def Accepted (env : Env) (payload : Payload) : String → Vehicle → Vehicle → Prop
  | "transmit", v, v' =>
      ∃ on, field payload "on" = .bool on ∧
        v' = { v with transmitting := on, lastStateChangeAt := some env.now }
  | "moving", v, v' =>
      ∃ on, field payload "on" = .bool on ∧
        v' = { v with moving := on, lastStateChangeAt := some env.now }
  | "speed", v, v' =>
      ∃ value, SpeedValue (field payload "value") value ∧ v' = { v with speedOverride := value }
  | "occupancy", v, v' =>
      ∃ value, OccupancyValue (field payload "value") value ∧
        v' = { v with occupancyOverride := value }
  | "dwell", v, v' =>
      ∃ ticks, asInt ((PyVal.getItem? payload "ticks").getD (.int 0)) = some ticks ∧ 0 ≤ ticks ∧
        v' = { v with
          dwellOverride := some { stopId := field payload "stop_id", ticks }
          kin := v.kin.map fun kin =>
            { kin with
              dwellRemaining := ticks
              lastStopId :=
                if (field payload "stop_id").truthy then field payload "stop_id"
                else kin.lastStopId } }
  | "jump_to_terminal", v, v' =>
      ∃ file shape total, env.file = .ok file ∧ getShape v file.shapes = .ok shape ∧
        totalDistM shape = .ok total ∧
        v' = { v with progressM := max 0 (total - 1), moving := true }
  | "set_progress", v, v' =>
      ∃ stopId file shape stop, field payload "stop_id" = .str stopId ∧ env.file = .ok file ∧
        getShape v file.shapes = .ok shape ∧
        (file.stops.find? fun s => s.stopId = stopId) = some stop ∧
        v' = { v with progressM := nearestProgressM env.geo shape.points stop }
  | "inject_fault", v, v' =>
      ∃ name kind ticks, field payload "kind" = .str name ∧ FaultKind.ofValue name = some kind ∧
        asInt ((PyVal.getItem? payload "duration_ticks").getD (.int 0)) = some ticks ∧
        0 < ticks ∧
        v' = { v with kin := some { initKin env.draws v with
          fault := some kind
          faultTicks := ticks } }
  | _, _, _ => False

variable {env : Env} {f : FleetState} {vid : String} {v : Vehicle} {payload : Payload}

/-- A payload is accepted in one way only. -/
theorem Accepted.unique {knob : String} {v' v'' : Vehicle} (h : Accepted env payload knob v v')
    (h' : Accepted env payload knob v v'') : v' = v'' := by
  unfold Accepted at h
  split at h
  · obtain ⟨on, hon, rfl⟩ := h
    obtain ⟨on', hon', rfl⟩ := h'
    cases hon.symm.trans hon'
    rfl
  · obtain ⟨on, hon, rfl⟩ := h
    obtain ⟨on', hon', rfl⟩ := h'
    cases hon.symm.trans hon'
    rfl
  · obtain ⟨value, hvalue, rfl⟩ := h
    obtain ⟨value', hvalue', rfl⟩ := h'
    rw [hvalue.unique hvalue']
  · obtain ⟨value, hvalue, rfl⟩ := h
    obtain ⟨value', hvalue', rfl⟩ := h'
    rw [hvalue.unique hvalue']
  · obtain ⟨ticks, hticks, -, rfl⟩ := h
    obtain ⟨ticks', hticks', -, rfl⟩ := h'
    cases hticks.symm.trans hticks'
    rfl
  · obtain ⟨file, shape, total, hfile, hshape, htotal, rfl⟩ := h
    obtain ⟨file', shape', total', hfile', hshape', htotal', rfl⟩ := h'
    cases hfile.symm.trans hfile'
    cases hshape.symm.trans hshape'
    cases htotal.symm.trans htotal'
    rfl
  · obtain ⟨stopId, file, shape, stop, hstopId, hfile, hshape, hstop, rfl⟩ := h
    obtain ⟨stopId', file', shape', stop', hstopId', hfile', hshape', hstop', rfl⟩ := h'
    cases hstopId.symm.trans hstopId'
    cases hfile.symm.trans hfile'
    cases hshape.symm.trans hshape'
    cases hstop.symm.trans hstop'
    rfl
  · obtain ⟨name, kind, ticks, hname, hkind, hticks, -, rfl⟩ := h
    obtain ⟨name', kind', ticks', hname', hkind', hticks', -, rfl⟩ := h'
    cases hname.symm.trans hname'
    cases hkind.symm.trans hkind'
    cases hticks.symm.trans hticks'
    rfl
  · exact h.elim

/-- How a handler ends for a vehicle `v` of the fleet: it makes its assignment, and notifies or
not; or it has assigned nothing, and returns or raises. -/
inductive Handled (f : FleetState) (vid : String) (v : Vehicle) (A : Vehicle → Vehicle → Prop) :
    Except (Raised FleetState) FleetState → Prop where
  | notified {v'} (accepted : A v v') : Handled f vid v A (.ok (f.put vid v').notify)
  | quiet {v'} (accepted : A v v') : Handled f vid v A (.ok (f.put vid v'))
  | refused (rejected : ∀ v', ¬ A v v') : Handled f vid v A (.ok f)
  | raised (exc) (rejected : ∀ v', ¬ A v v') : Handled f vid v A (.error ⟨exc, f⟩)

theorem mutate_handled {A : Vehicle → Vehicle → Prop} {change : Vehicle → Vehicle}
    (hv : f.get vid = some v) (h : A v (change v)) :
    Handled f vid v A (raisingAt f (f.mutate vid change)) := by
  rw [mutate_eq, hv]
  exact .notified h

theorem handleSwitch_handled {set : FleetState → Bool → Except PyExc FleetState}
    {change : Bool → Vehicle → Vehicle} (hset : ∀ on, set f on = f.mutate vid (change on))
    (hv : f.get vid = some v) :
    Handled f vid v (fun v v' => ∃ on, field payload "on" = .bool on ∧ v' = change on v)
      (handleSwitch set f payload) := by
  unfold handleSwitch
  split
  · rename_i on hon
    rw [hset]
    exact mutate_handled hv ⟨on, hon, rfl⟩
  · rename_i hon
    apply Handled.refused
    intro v' h
    obtain ⟨on, hon', -⟩ := h
    exact hon on hon'

theorem handleTransmit_handled (hv : f.get vid = some v) :
    Handled f vid v (Accepted env payload "transmit") (handleTransmit env.now f vid payload) :=
  handleSwitch_handled (fun _ => rfl) hv

theorem handleMoving_handled (hv : f.get vid = some v) :
    Handled f vid v (Accepted env payload "moving") (handleMoving env.now f vid payload) :=
  handleSwitch_handled (fun _ => rfl) hv

theorem handleSpeed_handled (hv : f.get vid = some v) :
    Handled f vid v (Accepted env payload "speed") (handleSpeed f vid payload) := by
  unfold handleSpeed
  split
  · rename_i hvalue
    exact mutate_handled hv ⟨none, hvalue ▸ .null, rfl⟩
  · rename_i q hvalue
    exact mutate_handled hv ⟨some q, hvalue ▸ .float q, rfl⟩
  · rename_i hnull hfloat
    split
    · rename_i hint
      apply Handled.refused
      intro v' h
      obtain ⟨value, hvalue, -⟩ := h
      obtain ⟨i, q, hi, -⟩ := hvalue.isInt hnull hfloat
      rw [hint] at hi
      cases hi
    · rename_i i hint
      split
      · rename_i exc hfits
        apply Handled.raised
        intro v' h
        obtain ⟨value, hvalue, -⟩ := h
        obtain ⟨j, q, hj, hq⟩ := hvalue.isInt hnull hfloat
        rw [hint] at hj
        cases hj
        rw [hfits] at hq
        cases hq
      · rename_i q hfits
        exact mutate_handled hv ⟨some q, .int hint hfits, rfl⟩

theorem handleOccupancy_handled (hv : f.get vid = some v) :
    Handled f vid v (Accepted env payload "occupancy") (handleOccupancy f vid payload) := by
  unfold handleOccupancy
  split
  · rename_i hvalue
    exact mutate_handled hv ⟨none, hvalue ▸ .null, rfl⟩
  · rename_i hnull
    split
    · rename_i hint
      apply Handled.refused
      intro v' h
      obtain ⟨value, hvalue, -⟩ := h
      obtain ⟨i, hi, -⟩ := hvalue.isInt hnull
      rw [hint] at hi
      cases hi
    · rename_i i hint
      split
      · rename_i hrange
        exact mutate_handled hv ⟨some i, .int hint hrange.1 hrange.2, rfl⟩
      · rename_i hrange
        apply Handled.refused
        intro v' h
        obtain ⟨value, hvalue, -⟩ := h
        obtain ⟨j, hj, hrange'⟩ := hvalue.isInt hnull
        rw [hint] at hj
        cases hj
        exact hrange hrange'

theorem handleDwell_handled (hv : f.get vid = some v) :
    Handled f vid v (Accepted env payload "dwell") (handleDwell f vid payload) := by
  unfold handleDwell
  split
  · rename_i hticks
    apply Handled.refused
    intro v' h
    obtain ⟨ticks, hticks', -⟩ := h
    rw [hticks] at hticks'
    cases hticks'
  · rename_i ticks hticks
    split
    · rename_i hneg
      apply Handled.refused
      intro v' h
      obtain ⟨ticks', hticks', hnonneg, -⟩ := h
      rw [hticks] at hticks'
      cases hticks'
      omega
    · rename_i hneg
      exact mutate_handled hv ⟨ticks, hticks, by omega, rfl⟩

theorem handleJumpToTerminal_handled (hv : f.get vid = some v) :
    Handled f vid v (Accepted env payload "jump_to_terminal")
      (handleJumpToTerminal env.file f vid) := by
  unfold handleJumpToTerminal
  rw [hv]
  simp only
  split
  · rename_i hfile
    apply Handled.refused
    intro v' h
    obtain ⟨file, shape, total, hfile', -⟩ := h
    rw [hfile] at hfile'
    cases hfile'
  · rename_i file hfile
    split
    · rename_i hshape
      apply Handled.refused
      intro v' h
      obtain ⟨file', shape, total, hfile', hshape', -⟩ := h
      cases hfile.symm.trans hfile'
      cases hshape.symm.trans hshape'
    · rename_i shape hshape
      split
      · rename_i htotal
        apply Handled.refused
        intro v' h
        obtain ⟨file', shape', total, hfile', hshape', htotal', -⟩ := h
        cases hfile.symm.trans hfile'
        cases hshape.symm.trans hshape'
        cases htotal.symm.trans htotal'
      · rename_i total htotal
        exact .notified ⟨file, shape, total, hfile, hshape, htotal, rfl⟩

theorem handleSetProgress_handled (hv : f.get vid = some v) :
    Handled f vid v (Accepted env payload "set_progress")
      (handleSetProgress env.geo env.file f vid payload) := by
  unfold handleSetProgress
  split
  · rename_i stopId hstopId
    rw [hv]
    simp only
    split
    · rename_i hfile
      apply Handled.refused
      intro v' h
      obtain ⟨stopId', file, shape, stop, -, hfile', -⟩ := h
      cases hfile.symm.trans hfile'
    · rename_i file hfile
      split
      · rename_i hshape
        apply Handled.refused
        intro v' h
        obtain ⟨stopId', file', shape, stop, -, hfile', hshape', -⟩ := h
        cases hfile.symm.trans hfile'
        cases hshape.symm.trans hshape'
      · rename_i shape hshape
        split
        · rename_i hstop
          apply Handled.refused
          intro v' h
          obtain ⟨stopId', file', shape', stop, hstopId', hfile', -, hstop', -⟩ := h
          cases hstopId.symm.trans hstopId'
          cases hfile.symm.trans hfile'
          cases hstop.symm.trans hstop'
        · rename_i stop hstop
          exact .notified ⟨stopId, file, shape, stop, hstopId, hfile, hshape, hstop, rfl⟩
  · rename_i hstopId
    apply Handled.refused
    intro v' h
    obtain ⟨stopId, file, shape, stop, hstopId', -⟩ := h
    exact hstopId stopId hstopId'

theorem key?_str {value : PyVal} {name : String} :
    value.key? = some (.str name) ↔ value = .str name := by
  cases value with
  | datetime dt => cases hdt : dt.timestamp? <;> simp [PyVal.key?, hdt]
  | _ => simp [PyVal.key?]

theorem handleInjectFault_handled (hv : f.get vid = some v) :
    Handled f vid v (Accepted env payload "inject_fault")
      (handleInjectFault env.draws f vid payload) := by
  unfold handleInjectFault
  split
  · rename_i hkind
    apply Handled.raised
    intro v' h
    obtain ⟨name, kind, ticks, hname, -⟩ := h
    rw [hname] at hkind
    cases hkind
  · rename_i name hname
    have hname : field payload "kind" = .str name := key?_str.mp hname
    split
    · rename_i hkind
      apply Handled.refused
      intro v' h
      obtain ⟨name', kind, ticks, hname', hkind', -⟩ := h
      cases hname.symm.trans hname'
      cases hkind.symm.trans hkind'
    · rename_i kind hkind
      split
      · rename_i hticks
        apply Handled.refused
        intro v' h
        obtain ⟨name', kind', ticks, -, -, hticks', -⟩ := h
        cases hticks.symm.trans hticks'
      · rename_i ticks hticks
        split
        · rename_i hpos
          apply Handled.refused
          intro v' h
          obtain ⟨name', kind', ticks', -, -, hticks', hpos', -⟩ := h
          cases hticks.symm.trans hticks'
          omega
        · rename_i hpos
          rw [hv]
          exact .quiet ⟨name, kind, ticks, hname, hkind, hticks, by omega, rfl⟩
  · rename_i key hname hkey
    apply Handled.refused
    intro v' h
    obtain ⟨name, kind, ticks, hname', -⟩ := h
    rw [hname'] at hkey
    cases hkey
    exact hname name rfl

/-- Every handler makes the assignment of an accepted payload or leaves the fleet alone. -/
theorem handler?_handled {knob : String}
    {handler : FleetState → String → Payload → Except (Raised FleetState) FleetState}
    (hh : handler? env knob = some handler) (hv : f.get vid = some v) :
    Handled f vid v (Accepted env payload knob) (handler f vid payload) := by
  unfold handler? at hh
  split at hh <;> cases hh
  · exact handleTransmit_handled hv
  · exact handleMoving_handled hv
  · exact handleSpeed_handled hv
  · exact handleOccupancy_handled hv
  · exact handleDwell_handled hv
  · exact handleJumpToTerminal_handled hv
  · exact handleSetProgress_handled hv
  · exact handleInjectFault_handled hv

theorem not_accepted_of_unknown {knob : String} (h : handler? env knob = none) {v' : Vehicle} :
    ¬ Accepted env payload knob v v' := by
  intro hacc
  unfold Accepted at hacc
  split at hacc
  all_goals first | exact hacc | simp [handler?] at h

/-- What `apply_control` makes of the fleet: the one assignment of an accepted payload, or
nothing. -/
inductive Applied (env : Env) (f : FleetState) (vid knob : String) (payload : Payload) :
    FleetState → Prop where
  | accepted {v v' f'} (named : f.get vid = some v) (accepted : Accepted env payload knob v v')
      (written : f' = f.put vid v' ∨ f' = (f.put vid v').notify) :
      Applied env f vid knob payload f'
  | unchanged (rejected : ∀ v v', f.get vid = some v → ¬ Accepted env payload knob v v') :
      Applied env f vid knob payload f

theorem applied (env : Env) (f : FleetState) (vid knob : String) (payload : Payload) :
    Applied env f vid knob payload (applyControl env f vid knob payload) := by
  unfold applyControl
  cases hv : f.get vid with
  | none =>
    apply Applied.unchanged
    intro v v' hv'
    rw [hv] at hv'
    cases hv'
  | some v =>
    simp only [Option.isNone_some, Bool.false_eq_true, if_false]
    cases hh : handler? env knob with
    | none => exact .unchanged fun _ _ _ => not_accepted_of_unknown hh
    | some handler =>
      have hrejected : (∀ v', ¬ Accepted env payload knob v v') →
          ∀ u v', f.get vid = some u → ¬ Accepted env payload knob u v' := by
        intro h u v' hu
        cases hv.symm.trans hu
        exact h v'
      show Applied env f vid knob payload (settle (handler f vid payload))
      have hhandled : Handled f vid v (Accepted env payload knob) (handler f vid payload) :=
        handler?_handled hh hv
      generalize handler f vid payload = out at hhandled ⊢
      cases hhandled with
      | notified h => exact .accepted hv h (.inr rfl)
      | quiet h => exact .accepted hv h (.inl rfl)
      | refused h => exact .unchanged (hrejected h)
      | raised exc h => exact .unchanged (hrejected h)

theorem Applied.others {knob : String} {f' : FleetState} (h : Applied env f vid knob payload f')
    {w : String} (hw : w ≠ vid) : f'.get w = f.get w := by
  cases h with
  | accepted named acc written =>
    rcases written with rfl | rfl
    · exact get_put_ne f _ hw
    · exact get_put_ne f _ hw
  | unchanged => rfl

/-- A handler that raises has not touched the fleet. -/
theorem applyControl_raised {knob : String}
    {handler : FleetState → String → Payload → Except (Raised FleetState) FleetState}
    (hh : handler? env knob = some handler) {r : Raised FleetState}
    (hr : handler f vid payload = .error r) : applyControl env f vid knob payload = f := by
  unfold applyControl
  cases hv : f.get vid with
  | none => rfl
  | some v =>
    simp only [Option.isNone_some, Bool.false_eq_true, if_false, hh]
    have hhandled : Handled f vid v (Accepted env payload knob) (handler f vid payload) :=
      handler?_handled hh hv
    rw [hr] at hhandled ⊢
    cases hhandled
    rfl

/-- Every occupancy override is a percentage. -/
def OccupancyInRange (f : FleetState) : Prop :=
  ∀ w v, f.get w = some v → ∀ pct ∈ v.occupancyOverride, 0 ≤ pct ∧ pct ≤ 100

theorem Accepted.occupancy {knob : String} {v v' : Vehicle} (h : Accepted env payload knob v v') :
    v'.occupancyOverride = v.occupancyOverride ∨
      ∀ pct ∈ v'.occupancyOverride, 0 ≤ pct ∧ pct ≤ 100 := by
  unfold Accepted at h
  split at h
  · obtain ⟨on, -, rfl⟩ := h
    exact .inl rfl
  · obtain ⟨on, -, rfl⟩ := h
    exact .inl rfl
  · obtain ⟨value, -, rfl⟩ := h
    exact .inl rfl
  · obtain ⟨value, hvalue, rfl⟩ := h
    exact .inr hvalue.range
  · obtain ⟨ticks, -, -, rfl⟩ := h
    exact .inl rfl
  · obtain ⟨file, shape, total, -, -, -, rfl⟩ := h
    exact .inl rfl
  · obtain ⟨stopId, file, shape, stop, -, -, -, -, rfl⟩ := h
    exact .inl rfl
  · obtain ⟨name, kind, ticks, -, -, -, -, rfl⟩ := h
    exact .inl rfl
  · exact h.elim

theorem Applied.occupancyInRange {knob : String} {f' : FleetState}
    (h : Applied env f vid knob payload f') (hf : OccupancyInRange f) : OccupancyInRange f' := by
  intro w u hu
  by_cases hw : w = vid
  · subst hw
    cases h with
    | @accepted v v' _ named acc written =>
      have hu' : v' = u := by
        rcases written with rfl | rfl
        · simpa using hu
        · simpa using hu
      subst hu'
      rcases acc.occupancy with hkept | hrange
      · rw [hkept]
        exact hf w v named
      · exact hrange
    | unchanged => exact hf w u hu
  · rw [h.others hw] at hu
    exact hf w u hu

theorem applyControl_atomic (env : Env) (f : FleetState) (vid knob : String) (payload : Payload) :
    Applied env f vid knob payload (applyControl env f vid knob payload) ∧
      (∀ w, w ≠ vid → (applyControl env f vid knob payload).get w = f.get w) ∧
      (∀ handler r, handler? env knob = some handler → handler f vid payload = .error r →
        applyControl env f vid knob payload = f) ∧
      (OccupancyInRange f → OccupancyInRange (applyControl env f vid knob payload)) :=
  ⟨applied env f vid knob payload, fun _ hw => (applied env f vid knob payload).others hw,
    fun _ _ hh hr => applyControl_raised hh hr,
    fun hf => (applied env f vid knob payload).occupancyInRange hf⟩

end DatabusSim.Control
