import DatabusSim.Domain.ControlFrame

/-!
# What a control makes of a vehicle

Every handler of `apply_control` writes the vehicle it names or nothing, and what it
may write is one of nine assignments.
-/

namespace DatabusSim

/-- `f'` is `f` but for the vehicle `vid`, which has changed by `R`. -/
structure FleetState.Writes (R : Vehicle → Vehicle → Prop) (vid : String) (f f' : FleetState) :
    Prop where
  self : ∀ v', f'.get vid = some v' → ∃ v, f.get vid = some v ∧ R v v'
  other : ∀ w, w ≠ vid → f'.get w = f.get w

namespace FleetState

variable {R Q : Vehicle → Vehicle → Prop} {vid : String} {f f' : FleetState}

theorem Writes.refl (h : ∀ v, R v v) : Writes R vid f f :=
  ⟨fun v' hv => ⟨v', hv, h v'⟩, fun _ _ => rfl⟩

theorem Writes.mono (himp : ∀ v v', R v v' → Q v v') (h : Writes R vid f f') :
    Writes Q vid f f' := by
  refine ⟨fun v' hv => ?_, h.other⟩
  obtain ⟨v, hv, hr⟩ := h.self v' hv
  exact ⟨v, hv, himp v v' hr⟩

theorem writes_offRoster (h : f.get vid = none) : Writes R vid f f := by
  refine ⟨fun v' hv => ?_, fun _ _ => rfl⟩
  rw [h] at hv
  cases hv

theorem put_writes {v v' : Vehicle} (hv : f.get vid = some v) (h : R v v') :
    Writes R vid f (f.put vid v') := by
  refine ⟨fun u hu => ⟨v, hv, ?_⟩, fun w hw => get_put_ne f v' hw⟩
  rw [get_put_self] at hu
  cases hu
  exact h

theorem notify_writes {v v' : Vehicle} (hv : f.get vid = some v) (h : R v v') :
    Writes R vid f (f.put vid v').notify :=
  ⟨(put_writes hv h).self, (put_writes hv h).other⟩

theorem mutate_writes {change : Vehicle → Vehicle} (h : ∀ v, R v (change v)) :
    Writes R vid f (settle (raisingAt f (f.mutate vid change))) := by
  rw [mutate_eq]
  cases hv : f.get vid with
  | some v => exact notify_writes hv (h v)
  | none => exact writes_offRoster hv

end FleetState

namespace Control

open Kinematics

/-- What an accepted control makes of the vehicle `v`. -/
inductive Controlled (env : Env) (v : Vehicle) : Vehicle → Prop where
  | kept : Controlled env v v
  | transmit (on : Bool) :
      Controlled env v { v with transmitting := on, lastStateChangeAt := some env.now }
  | moving (on : Bool) : Controlled env v { v with moving := on, lastStateChangeAt := some env.now }
  | speed (value : Option ℚ) : Controlled env v { v with speedOverride := value }
  | occupancy (value : Option Int) : Controlled env v { v with occupancyOverride := value }
  | dwell (stopId : PyVal) (ticks : Int) :
      Controlled env v
        { v with
          dwellOverride := some { stopId, ticks }
          kin := v.kin.map fun kin =>
            { kin with
              dwellRemaining := ticks
              lastStopId := if stopId.truthy then stopId else kin.lastStopId } }
  | jumpToTerminal (file : ShapesFile) (shape : Shape) (total : ℚ) : env.file = .ok file →
      getShape v file.shapes = .ok shape → totalDistM shape = .ok total →
      Controlled env v { v with progressM := max 0 (total - 1), moving := true }
  | setProgress (file : ShapesFile) (shape : Shape) (stop : Stop) : env.file = .ok file →
      getShape v file.shapes = .ok shape →
      Controlled env v { v with progressM := nearestProgressM env.geo shape.points stop }
  | injectFault (kind : FaultKind) (ticks : Int) :
      Controlled env v { v with kin := some { initKin env.draws v with
        fault := some kind
        faultTicks := ticks } }

open FleetState

/-- The assignment of an accepted control is one of these. -/
theorem Accepted.controlled {env : Env} {payload : Payload} {knob : String} {v v' : Vehicle}
    (h : Accepted env payload knob v v') : Controlled env v v' := by
  unfold Accepted at h
  split at h
  · obtain ⟨on, -, rfl⟩ := h
    exact .transmit on
  · obtain ⟨on, -, rfl⟩ := h
    exact .moving on
  · obtain ⟨value, -, rfl⟩ := h
    exact .speed value
  · obtain ⟨value, -, rfl⟩ := h
    exact .occupancy value
  · obtain ⟨ticks, -, -, rfl⟩ := h
    exact .dwell (field payload "stop_id") ticks
  · obtain ⟨file, shape, total, hfile, hshape, htotal, rfl⟩ := h
    exact .jumpToTerminal file shape total hfile hshape htotal
  · obtain ⟨stopId, file, shape, stop, -, hfile, hshape, -, rfl⟩ := h
    exact .setProgress file shape stop hfile hshape
  · obtain ⟨name, kind, ticks, -, -, -, -, rfl⟩ := h
    exact .injectFault kind ticks
  · exact h.elim

/-- `apply_control` writes the vehicle it is for. -/
theorem applyControl_writes (env : Env) (f : FleetState) (vid knob : String) (payload : Payload) :
    Writes (Controlled env) vid f (applyControl env f vid knob payload) := by
  have happlied := applied env f vid knob payload
  generalize applyControl env f vid knob payload = f' at happlied ⊢
  cases happlied with
  | accepted named acc written =>
    rcases written with rfl | rfl
    · exact put_writes named acc.controlled
    · exact notify_writes named acc.controlled
  | unchanged => exact .refl fun _ => .kept

end Control

end DatabusSim
