import DatabusSim.Domain.KinematicsSteps
import DatabusSim.Runtime.TickLoop

/-!
# What the steps of the tick loop do

No step of the loop touches a run or the roster. A turn raises when the shape of its
vehicle is not loaded, and when it has too few points for what the vehicle does.
-/

namespace DatabusSim.TickLoop

open Kinematics FleetState

section Turn

variable {cfg : TickSettings} {stops : List Stop} {shapes : Dict String Shape} {d : Draws}
  {now : ℚ} {v : Vehicle}

theorem getShape_ok_iff {shape : Shape} :
    getShape v shapes = .ok shape ↔ shapes.get? (shapeIdOf v) = some shape := by
  unfold getShape
  cases shapes.get? (shapeIdOf v) <;> simp

/-- A turn returns what the payload builder makes of the stepped vehicle. -/
theorem stepAndBuild_eq_ok {r : Vehicle × Option Payloads} :
    stepAndBuild cfg stops shapes d now v = .ok r ↔
      ∃ shape v', getShape v shapes = .ok shape ∧
        stepVehicle cfg.geo cfg.postRunIdleS d v cfg.tickInterval shape stops = .ok v' ∧
        buildVehiclePayloads cfg.geo d now v' shape = .ok r := by
  unfold stepAndBuild
  cases getShape v shapes with
  | error e => simp
  | ok shape =>
    simp only [Except.ok.injEq, exists_and_left, exists_eq_left']
    exact bind_ok

theorem stepAndBuild_runView {r : Vehicle × Option Payloads}
    (h : stepAndBuild cfg stops shapes d now v = .ok r) : r.1.runView = v.runView := by
  obtain ⟨shape, v', -, hv', hr⟩ := stepAndBuild_eq_ok.mp h
  have hstep : (settle (stepVehicle cfg.geo cfg.postRunIdleS d v cfg.tickInterval shape
      stops)).runView = v.runView := stepVehicle_runView
  rw [hv'] at hstep
  exact (buildVehiclePayloads_runView hr).trans hstep

theorem stepAndBuild_raises {r : Raised Vehicle}
    (h : stepAndBuild cfg stops shapes d now v = .error r) : r.state.runView = v.runView := by
  unfold stepAndBuild at h
  split at h
  · cases h
    rfl
  · rename_i shape _
    have hstep : (settle (stepVehicle cfg.geo cfg.postRunIdleS d v cfg.tickInterval shape
        stops)).runView = v.runView := stepVehicle_runView
    rcases bind_error h with herr | ⟨v', hv', herr⟩
    · rw [herr] at hstep
      exact hstep
    · rw [hv'] at hstep
      exact (buildVehiclePayloads_raises herr).trans hstep

end Turn

variable {cfg : TickSettings} {tables : GeometryTables} {s s' : TickState}

theorem turn_keepsRuns (d : Draws) (now : ℚ) (turns : List Turn) (vehicleId : String)
    (rest : List String) :
    KeepsRuns s.fleet (turn cfg tables s d now turns vehicleId rest).fleet := by
  unfold turn
  split
  · rename_i v shapes hv _
    split
    · exact KeepsRuns.refl _
    · split
      · rename_i h
        exact put_keepsRuns hv (stepAndBuild_raises h)
      · rename_i h
        exact put_keepsRuns hv (stepAndBuild_runView h)
      · rename_i h
        exact put_keepsRuns hv (stepAndBuild_runView h)
  · exact KeepsRuns.refl _

theorem progress_keepsRuns (turns : List Turn) (vehicleId : String) (payloads : Payloads)
    (rest : List String) :
    KeepsRuns s.fleet (progress cfg tables s turns vehicleId payloads rest).fleet := by
  unfold progress
  split
  · rename_i v hv
    exact put_keepsRuns hv rfl
  · exact KeepsRuns.refl _

/-- The steps of the loop, by where they find it: a wake, the turn of a vehicle, its
progression and the push. -/
theorem step_cases {ev : Event} (h : step cfg tables s ev = some s') :
    (ev = .wake ∧ ∃ last, s.loop.phase = .sleeping last ∧ s' = wake cfg tables s) ∨
      (∃ d now turns vehicleId rest, ev = .turn d now ∧
        s.loop.phase = .stepping turns vehicleId rest ∧
        s' = turn cfg tables s d now turns vehicleId rest) ∨
      (ev = .progress ∧ ∃ turns vehicleId payloads rest,
        s.loop.phase = .progressing turns vehicleId payloads rest ∧
        s' = progress cfg tables s turns vehicleId payloads rest) ∨
      (ev = .push ∧ ∃ turns, s.loop.phase = .pushing turns ∧
        s' = { s with loop := { s.loop with phase := .sleeping (some turns) } }) := by
  cases ev with
  | wake =>
    cases hp : s.loop.phase <;> simp only [step, hp, Option.some.injEq, reduceCtorEq] at h
    exact .inl ⟨rfl, _, rfl, h.symm⟩
  | turn d now =>
    cases hp : s.loop.phase <;> simp only [step, hp, Option.some.injEq, reduceCtorEq] at h
    exact .inr (.inl ⟨d, now, _, _, _, rfl, rfl, h.symm⟩)
  | progress =>
    cases hp : s.loop.phase <;> simp only [step, hp, Option.some.injEq, reduceCtorEq] at h
    exact .inr (.inr (.inl ⟨rfl, _, _, _, _, rfl, h.symm⟩))
  | push =>
    cases hp : s.loop.phase <;> simp only [step, hp, Option.some.injEq, reduceCtorEq] at h
    exact .inr (.inr (.inr ⟨rfl, _, rfl, h.symm⟩))

theorem wake_fleet : (wake cfg tables s).fleet = s.fleet := by
  unfold wake
  simp only
  split <;> rfl

/-- No step of the tick loop binds or unbinds a vehicle. -/
theorem step_keepsRuns {ev : Event} (h : step cfg tables s ev = some s') :
    KeepsRuns s.fleet s'.fleet := by
  rcases step_cases h with ⟨-, last, -, rfl⟩ | ⟨d, now, turns, vehicleId, rest, -, -, rfl⟩ |
    ⟨-, turns, vehicleId, payloads, rest, -, rfl⟩ | ⟨-, turns, -, rfl⟩
  · rw [wake_fleet]
    exact KeepsRuns.refl _
  · exact turn_keepsRuns ..
  · exact progress_keepsRuns ..
  · exact KeepsRuns.refl _

end DatabusSim.TickLoop
