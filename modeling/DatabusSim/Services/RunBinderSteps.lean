import DatabusSim.Services.RunBinder

/-!
# What the steps of the run binder do

`_apply_state` and `_force_unbind` come to one assignment to one vehicle, the one the
binding names; off the roster they raise before they change anything. The outcomes of
one poll follow case by case.
-/

namespace DatabusSim

/-- `f'` is `f` with the vehicle `vid` become `v`. -/
structure AppliedTo (f f' : FleetState) (vid : String) (v : Vehicle) : Prop where
  ids : f'.ids = f.ids
  self : f'.get vid = some v
  other : ∀ w, w ≠ vid → f'.get w = f.get w

theorem AppliedTo.trans {f g h : FleetState} {vid : String} {v v' : Vehicle}
    (h₁ : AppliedTo f g vid v) (h₂ : AppliedTo g h vid v') : AppliedTo f h vid v' :=
  ⟨h₂.ids.trans h₁.ids, h₂.self, fun w hw => (h₂.other w hw).trans (h₁.other w hw)⟩

namespace RunBinder

/-! ## One vehicle -/

/-- A vehicle whose run is seen in a state. -/
def observed (now : ℚ) (st : LifecycleState) (v : Vehicle) : Vehicle :=
  { v with lifecycleState := some st, lastStateChangeAt := some now }

/-- A vehicle that is bound to a run and stands at the start of its shape, transmitting. -/
def armed (now : ℚ) (b : BoundRun) (v : Vehicle) : Vehicle :=
  { v with
    boundRunId := some b.runId
    boundTripId := some b.tripId
    boundShapeId := some b.shapeId
    terminalStopId := b.terminalStopId
    moving := false
    progressM := 0
    transmitting := true
    lastStateChangeAt := some now }

/-- A vehicle without a run. -/
def released (now : ℚ) (v : Vehicle) : Vehicle :=
  { v with
    boundRunId := none
    boundTripId := none
    boundShapeId := none
    terminalStopId := none
    lifecycleState := none
    progressM := 0
    transmitting := false
    moving := false
    lastStateChangeAt := some now }

/-- What a change of its run's state makes of a vehicle. -/
def vehicleAfter (now : ℚ) (b : BoundRun) (st : LifecycleState) (v : Vehicle) : Vehicle :=
  match st with
  | .confirmed => armed now b (observed now .confirmed v)
  | st => if st.isTerminal then released now v else observed now st v

theorem vehicleAfter_terminal {now : ℚ} {b : BoundRun} {st : LifecycleState} {v : Vehicle}
    (h : st.isTerminal = true) : vehicleAfter now b st v = released now v := by
  cases st <;> first | rfl | cases h

theorem vehicleAfter_observed {now : ℚ} {b : BoundRun} {st : LifecycleState} {v : Vehicle}
    (h : st.isTerminal = false) (hc : st ≠ .confirmed) :
    vehicleAfter now b st v = observed now st v := by
  cases st <;> first | rfl | exact absurd rfl hc | cases h

/-! ## `_apply_state` and `_force_unbind` -/

theorem appliedTo_mutate {f : FleetState} {vid : String} {v : Vehicle}
    (hv : f.get vid = some v) (change : Vehicle → Vehicle) :
    ∃ f', f.mutate vid change = .ok f' ∧ AppliedTo f f' vid (change v) := by
  refine ⟨(f.put vid (change v)).notify, ?_, ?_, ?_, fun w hw => ?_⟩
  · rw [FleetState.mutate_eq, hv]
  · rw [FleetState.ids_notify, FleetState.ids_put _ (by rw [hv]; rfl)]
  · rw [FleetState.get_notify, FleetState.get_put_self]
  · rw [FleetState.get_notify, FleetState.get_put_ne _ _ hw]

theorem mutate_offRoster {f : FleetState} {vid : String} (hv : f.get vid = none)
    (change : Vehicle → Vehicle) :
    f.mutate vid change = .error (FleetState.unknownVehicle vid) := by
  rw [FleetState.mutate_eq, hv]

theorem appliedTo_put {f : FleetState} {vid : String} (v : Vehicle) (h : (f.get vid).isSome) :
    AppliedTo f (f.put vid v) vid v :=
  ⟨FleetState.ids_put v h, FleetState.get_put_self f vid v,
    fun _ hw => FleetState.get_put_ne f v hw⟩

theorem applyConfirmed_onRoster {f : FleetState} (now : ℚ) {b : BoundRun} {v : Vehicle}
    (hv : f.get b.vehicleId = some v) :
    ∃ f', applyConfirmed f now b = .ok f' ∧ AppliedTo f f' b.vehicleId (armed now b v) := by
  -- bind, stop, go back to the start of the shape, transmit: one vehicle throughout
  obtain ⟨f₁, h₁, ha₁⟩ := appliedTo_mutate hv fun v =>
    { v with
      boundRunId := some b.runId
      boundTripId := some b.tripId
      boundShapeId := some b.shapeId
      terminalStopId := b.terminalStopId
      lastStateChangeAt := some now }
  obtain ⟨f₂, h₂, ha₂⟩ := appliedTo_mutate ha₁.self fun v =>
    { v with moving := false, lastStateChangeAt := some now }
  have ha₃ := appliedTo_put { (armed now b v) with transmitting := v.transmitting }
    (by rw [ha₂.self]; rfl)
  obtain ⟨f₄, h₄, ha₄⟩ := appliedTo_mutate ha₃.self fun v =>
    { v with transmitting := true, lastStateChangeAt := some now }
  refine ⟨f₄, ?_, ((ha₁.trans ha₂).trans ha₃).trans ha₄⟩
  unfold applyConfirmed FleetState.bindRun FleetState.setMoving FleetState.setTransmitting
  refine bind_ok.mpr ⟨f₁, h₁, bind_ok.mpr ⟨f₂, h₂, ?_⟩⟩
  rw [ha₂.self]
  exact h₄

theorem applyTerminal_onRoster {f : FleetState} (now : ℚ) {b : BoundRun} {v : Vehicle}
    (hv : f.get b.vehicleId = some v) :
    ∃ f', applyTerminal f now b = .ok f' ∧ AppliedTo f f' b.vehicleId (released now v) := by
  obtain ⟨f₁, h₁, ha₁⟩ := appliedTo_mutate hv fun v =>
    { v with transmitting := false, lastStateChangeAt := some now }
  obtain ⟨f₂, h₂, ha₂⟩ := appliedTo_mutate ha₁.self (released now)
  exact ⟨f₂, bind_ok.mpr ⟨f₁, h₁, h₂⟩, ha₁.trans ha₂⟩

/-- `_apply_state` for a vehicle on the roster changes that vehicle; on a list or an object in
the place of the state it raises once it has stored it. -/
theorem applyState_onRoster {f : FleetState} (now : ℚ) {b : BoundRun} {v : Vehicle}
    (hv : f.get b.vehicleId = some v) (st : LifecycleState) :
    ∃ f', AppliedTo f f' b.vehicleId (vehicleAfter now b st v) ∧
      applyState f now b st =
        if st = .unhashable then .error ⟨.typeError "unhashable type", f'⟩ else .ok f' := by
  obtain ⟨f₁, h₁, ha₁⟩ := appliedTo_mutate hv (observed now st)
  have hset : f.setLifecycleState now b.vehicleId (some st) = .ok f₁ := h₁
  have hunfold : applyState f now b st = applyBranch f₁ now b st := by
    unfold applyState
    rw [hset]
    rfl
  obtain ⟨f₂, h₂, ha₂⟩ := applyConfirmed_onRoster now (b := b) ha₁.self
  obtain ⟨f₃, h₃, ha₃⟩ := applyTerminal_onRoster now (b := b) ha₁.self
  have hterminal : raisingAt f₁ (applyTerminal f₁ now b) = .ok f₃ := by rw [h₃]; rfl
  rw [hunfold]
  cases st with
  | confirmed =>
    refine ⟨f₂, ha₁.trans ha₂, ?_⟩
    show raisingAt f₁ (applyConfirmed f₁ now b) = .ok f₂
    rw [h₂]
    rfl
  | completed => exact ⟨f₃, ha₁.trans ha₃, hterminal⟩
  | cancelled => exact ⟨f₃, ha₁.trans ha₃, hterminal⟩
  | interrupted => exact ⟨f₃, ha₁.trans ha₃, hterminal⟩
  | shortTurned => exact ⟨f₃, ha₁.trans ha₃, hterminal⟩
  | _ => exact ⟨f₁, ha₁, rfl⟩

/-- Off the roster it raises before anything has changed. -/
theorem applyState_offRoster {f : FleetState} (now : ℚ) {b : BoundRun}
    (hv : f.get b.vehicleId = none) (st : LifecycleState) :
    applyState f now b st = .error ⟨FleetState.unknownVehicle b.vehicleId, f⟩ := by
  unfold applyState FleetState.setLifecycleState
  rw [mutate_offRoster hv]
  rfl

theorem forceUnbind_onRoster {s : BinderState} {now : ℚ} {b : BoundRun} {v : Vehicle}
    (hv : s.fleet.get b.vehicleId = some v) :
    ∃ f', AppliedTo s.fleet f' b.vehicleId (released now v) ∧
      forceUnbind s now b =
        .ok ⟨f', ({ s.binder with lost := s.binder.lost ++ [b.runId] }).untrack b.runId⟩ := by
  obtain ⟨f', h, ha⟩ := appliedTo_mutate hv (released now)
  refine ⟨f', ha, ?_⟩
  have hunbind : s.fleet.unbindRun now b.vehicleId = .ok f' := h
  unfold forceUnbind
  rw [hunbind]

theorem forceUnbind_offRoster {s : BinderState} {now : ℚ} {b : BoundRun}
    (hv : s.fleet.get b.vehicleId = none) :
    forceUnbind s now b =
      .error ⟨FleetState.unknownVehicle b.vehicleId,
        { s with binder := { s.binder with lost := s.binder.lost ++ [b.runId] } }⟩ := by
  unfold forceUnbind FleetState.unbindRun
  rw [mutate_offRoster hv]

/-! ## One poll -/

theorem losesRun_false {now : ℚ} {b : BoundRun} :
    losesRun now b = false ↔ b.lifecycleState = none ∧ now - b.trackedSince ≤ runLostGraceS := by
  simp [losesRun, graceElapsed]

theorem heap_noteSample_self (b : RunBinder) (now : ℚ) (ref : Ref) (st : LifecycleState) :
    (b.noteSample now ref st).heap ref = { b.heap ref with lastPolledAt := some now } := by
  simp [noteSample]

theorem heap_noteSample_ne (b : RunBinder) (now : ℚ) {ref ref' : Ref} (st : LifecycleState)
    (h : ref' ≠ ref) : (b.noteSample now ref st).heap ref' = b.heap ref' := by
  simp [noteSample, Function.update_of_ne h]

/-- The binder once the binding has the new state. -/
def stored (b : RunBinder) (now : ℚ) (ref : Ref) (st : LifecycleState) : RunBinder :=
  (b.noteSample now ref st).storeState ref st

/-- The binding object then. -/
theorem heap_stored_self (b : RunBinder) (now : ℚ) (ref : Ref) (st : LifecycleState) :
    (b.stored now ref st).heap ref =
      { b.heap ref with lastPolledAt := some now, lifecycleState := some st } := by
  simp [stored, storeState, noteSample]

theorem heap_stored_ne (b : RunBinder) (now : ℚ) {ref ref' : Ref} (st : LifecycleState)
    (h : ref' ≠ ref) : (b.stored now ref st).heap ref' = b.heap ref' := by
  simp [stored, storeState, noteSample, Function.update_of_ne h]

section Poll

variable {s : BinderState} {now : ℚ} {runId : String} {ref : Ref} {st : LifecycleState}

theorem processPoll_same (h : (s.binder.heap ref).lifecycleState = some st) :
    processPoll s now runId ref (.ok (some st)) =
      .ok { s with binder := s.binder.noteSample now ref st } := by
  simp only [processPoll, h, if_true]

theorem processPoll_kept (h : losesRun now (s.binder.heap ref) = false) :
    processPoll s now runId ref (.ok none) = .ok s := by
  simp only [processPoll, h, Bool.false_eq_true, if_false]

theorem processPoll_lost (h : losesRun now (s.binder.heap ref) = true) :
    processPoll s now runId ref (.ok none) = forceUnbind s now (s.binder.heap ref) := by
  simp only [processPoll, h, if_true]

/-- A changed state of a run whose vehicle is on the roster. -/
theorem processPoll_changed {v : Vehicle} (h : (s.binder.heap ref).lifecycleState ≠ some st)
    (hv : s.fleet.get (s.binder.heap ref).vehicleId = some v) :
    ∃ f', AppliedTo s.fleet f' (s.binder.heap ref).vehicleId
        (vehicleAfter now (s.binder.heap ref) st v) ∧
      processPoll s now runId ref (.ok (some st)) =
        if st = .unhashable then
          .error ⟨.typeError "unhashable type", ⟨f', s.binder.stored now ref st⟩⟩
        else .ok ⟨f', (s.binder.stored now ref st).announce
          ⟨runId, (s.binder.heap ref).lifecycleState, st⟩⟩ := by
  have hheap := s.binder.heap_stored_self now ref st
  obtain ⟨f', ha, hf⟩ := applyState_onRoster now (b := (s.binder.stored now ref st).heap ref)
    (v := v) (by rw [hheap]; exact hv) st
  have hafter : vehicleAfter now ((s.binder.stored now ref st).heap ref) st v =
      vehicleAfter now (s.binder.heap ref) st v := by
    rw [hheap]
    cases st <;> rfl
  rw [hafter, hheap] at ha
  refine ⟨f', ha, ?_⟩
  unfold stored at hf
  simp only [processPoll, h, if_false, hf]
  by_cases hst : st = .unhashable
  · simp only [if_pos hst]
    rfl
  · simp only [if_neg hst]
    rfl

/-- A changed state of a run whose vehicle is not. -/
theorem processPoll_offRoster (h : (s.binder.heap ref).lifecycleState ≠ some st)
    (hv : s.fleet.get (s.binder.heap ref).vehicleId = none) :
    processPoll s now runId ref (.ok (some st)) =
      .error ⟨FleetState.unknownVehicle (s.binder.heap ref).vehicleId,
        ⟨s.fleet, s.binder.stored now ref st⟩⟩ := by
  have hheap := s.binder.heap_stored_self now ref st
  have hf := applyState_offRoster now (b := (s.binder.stored now ref st).heap ref)
    (f := s.fleet) (by rw [hheap]; exact hv) st
  rw [hheap] at hf
  unfold stored at hheap ⊢
  simp only [processPoll, h, if_false, hheap, hf]

/-- The binder once the warning that a run is lost is logged. -/
def loggedLost (b : RunBinder) (runId : String) : RunBinder := { b with lost := b.lost ++ [runId] }

/-- The outcomes of one poll, by what the GET came to and where the vehicle is. -/
inductive Polled (s : BinderState) (now : ℚ) (runId : String) (ref : Ref) :
    Except PyExc (Option LifecycleState) → Except (Raised BinderState) BinderState → Prop where
  | failed (exc : PyExc) : Polled s now runId ref (.error exc) (.ok s)
  | kept : losesRun now (s.binder.heap ref) = false → Polled s now runId ref (.ok none) (.ok s)
  | lost (v : Vehicle) (f' : FleetState) : losesRun now (s.binder.heap ref) = true →
      s.fleet.get (s.binder.heap ref).vehicleId = some v →
      AppliedTo s.fleet f' (s.binder.heap ref).vehicleId (released now v) →
      Polled s now runId ref (.ok none)
        (.ok ⟨f', (s.binder.loggedLost (s.binder.heap ref).runId).untrack
          (s.binder.heap ref).runId⟩)
  | lostOffRoster : losesRun now (s.binder.heap ref) = true →
      s.fleet.get (s.binder.heap ref).vehicleId = none →
      Polled s now runId ref (.ok none)
        (.error ⟨FleetState.unknownVehicle (s.binder.heap ref).vehicleId,
          ⟨s.fleet, s.binder.loggedLost (s.binder.heap ref).runId⟩⟩)
  | same (st : LifecycleState) : (s.binder.heap ref).lifecycleState = some st →
      Polled s now runId ref (.ok (some st)) (.ok ⟨s.fleet, s.binder.noteSample now ref st⟩)
  | changed (st : LifecycleState) (v : Vehicle) (f' : FleetState) :
      (s.binder.heap ref).lifecycleState ≠ some st → st ≠ .unhashable →
      s.fleet.get (s.binder.heap ref).vehicleId = some v →
      AppliedTo s.fleet f' (s.binder.heap ref).vehicleId
        (vehicleAfter now (s.binder.heap ref) st v) →
      Polled s now runId ref (.ok (some st))
        (.ok ⟨f', (s.binder.stored now ref st).announce
          ⟨runId, (s.binder.heap ref).lifecycleState, st⟩⟩)
  | unhashable (v : Vehicle) (f' : FleetState) :
      (s.binder.heap ref).lifecycleState ≠ some .unhashable →
      s.fleet.get (s.binder.heap ref).vehicleId = some v →
      AppliedTo s.fleet f' (s.binder.heap ref).vehicleId
        (vehicleAfter now (s.binder.heap ref) .unhashable v) →
      Polled s now runId ref (.ok (some .unhashable))
        (.error ⟨.typeError "unhashable type", ⟨f', s.binder.stored now ref .unhashable⟩⟩)
  | changedOffRoster (st : LifecycleState) : (s.binder.heap ref).lifecycleState ≠ some st →
      s.fleet.get (s.binder.heap ref).vehicleId = none →
      Polled s now runId ref (.ok (some st))
        (.error ⟨FleetState.unknownVehicle (s.binder.heap ref).vehicleId,
          ⟨s.fleet, s.binder.stored now ref st⟩⟩)

theorem processPoll_polled (s : BinderState) (now : ℚ) (runId : String) (ref : Ref)
    (out : Except PyExc (Option LifecycleState)) :
    Polled s now runId ref out (processPoll s now runId ref out) := by
  cases out with
  | error exc => exact .failed exc
  | ok found =>
    cases hv : s.fleet.get (s.binder.heap ref).vehicleId with
    | none =>
      cases found with
      | none =>
        cases hl : losesRun now (s.binder.heap ref) with
        | false =>
          rw [processPoll_kept hl]
          exact .kept hl
        | true =>
          rw [processPoll_lost hl, forceUnbind_offRoster hv]
          exact .lostOffRoster hl hv
      | some st =>
        by_cases hst : (s.binder.heap ref).lifecycleState = some st
        · rw [processPoll_same hst]
          exact .same st hst
        · rw [processPoll_offRoster hst hv]
          exact .changedOffRoster st hst hv
    | some v =>
      cases found with
      | none =>
        cases hl : losesRun now (s.binder.heap ref) with
        | false =>
          rw [processPoll_kept hl]
          exact .kept hl
        | true =>
          obtain ⟨f', ha, hf⟩ := forceUnbind_onRoster (s := s) (b := s.binder.heap ref) hv
          rw [processPoll_lost hl, hf]
          exact .lost v f' hl hv ha
      | some st =>
        by_cases hst : (s.binder.heap ref).lifecycleState = some st
        · rw [processPoll_same hst]
          exact .same st hst
        · obtain ⟨f', ha, hf⟩ := processPoll_changed hst hv
          by_cases hu : st = .unhashable
          · subst hu
            rw [hf, if_pos rfl]
            exact .unhashable v f' hst hv ha
          · rw [hf, if_neg hu]
            exact .changed st v f' hst hu hv ha

end Poll

/-- The wrappers that wait for the run create their tasks. -/
theorem startTasks_onStateChange (b : RunBinder) (c : StateChange) :
    (b.onStateChange c).startTasks = b.startTasks ++
      b.autoStarts.filter fun a => c.new = .confirmed ∧ a.runId = c.runId := by
  unfold onStateChange
  by_cases h : b.hasCallback = true ∨ b.autoStarts ≠ []
  · rw [if_pos h]
  · rw [not_or, not_not] at h
    rw [if_neg (by simp [h]), h.2, List.filter_nil, List.append_nil]

/-- The calls of the callback a state change makes. -/
theorem stateChanges_announce {b : RunBinder} (c : StateChange)
    (h : b.hasCallback ∨ b.autoStarts ≠ []) :
    (b.announce c).stateChanges = b.stateChanges ++ [c] := by
  simp only [announce, onStateChange, if_pos h]
  split <;> rfl

/-! ## From one suspension to the next -/

/-- The loop's place aside, a resumed loop leaves what the poll has left. -/
theorem resume_eq (s : BinderState) (now : ℚ) (round : Round) (rest : List String)
    (runId : String) (ref : Ref) (out : Except PyExc (Option LifecycleState)) :
    ∃ loop, resume s now round rest runId ref out =
      ⟨(settle (processPoll s now runId ref out)).fleet,
        { (settle (processPoll s now runId ref out)).binder with loop }⟩ := by
  unfold resume
  cases processPoll s now runId ref out with
  | ok s' => exact ⟨_, rfl⟩
  | error r => exact ⟨_, rfl⟩

theorem resume_fleet (s : BinderState) (now : ℚ) (round : Round) (rest : List String)
    (runId : String) (ref : Ref) (out : Except PyExc (Option LifecycleState)) :
    (resume s now round rest runId ref out).fleet =
      (settle (processPoll s now runId ref out)).fleet := by
  obtain ⟨loop, h⟩ := resume_eq s now round rest runId ref out
  rw [h]

end RunBinder

end DatabusSim
