import DatabusSim.Runtime.Polls

/-!
# Runs that share a vehicle

Every branch of `_apply_state` and `_force_unbind` acts on the vehicle the binding
names, whichever run that vehicle is bound to. A poll of one run leaves the vehicle
to the other exactly when it changes nothing at all.
-/

namespace DatabusSim.Runtime

open Transition RunBinder

/-- The eight fields a run gives its vehicle. -/
structure SameBinding (v v' : Vehicle) : Prop where
  run : v'.boundRunId = v.boundRunId
  trip : v'.boundTripId = v.boundTripId
  shape : v'.boundShapeId = v.boundShapeId
  terminalStop : v'.terminalStopId = v.terminalStopId
  lifecycle : v'.lifecycleState = v.lifecycleState
  progress : v'.progressM = v.progressM
  transmitting : v'.transmitting = v.transmitting
  moving : v'.moving = v.moving

theorem SameBinding.refl (v : Vehicle) : SameBinding v v := ⟨rfl, rfl, rfl, rfl, rfl, rfl, rfl, rfl⟩

/-- The poll that the loop waits for is one of a run other than that its vehicle `v` is
bound to, and does not confirm it. -/
structure ForeignPoll (s : Runtime) (ref : Ref) (http : Http) (v : Vehicle) : Prop where
  vehicle : s.fleet.get (s.binder.heap ref).vehicleId = some v
  foreign : ∃ r, v.boundRunId = some r ∧ r ≠ (s.binder.heap ref).runId
  unconfirmed : DatabusClient.getRunState http ≠ .ok (some .confirmed)

/-- The step leaves a vehicle that is bound to another run than the polled one as it was. -/
def Isolates (s : Runtime) (ev : Event) (s' : Runtime) : Prop :=
  AtPoll (fun _ http _ ref => ∀ v, ForeignPoll s ref http v →
    ∃ v', s'.fleet.get (s.binder.heap ref).vehicleId = some v' ∧ SameBinding v v') s ev

/-- The outcome of a foreign poll has nothing to change: the poll failed; or the run was not
found, has never been seen and is within its grace; or its state is the one it had, or one
that leaves a vehicle bound and that the vehicle happens to be in. -/
def NothingToChange (b : BoundRun) (now : ℚ) (v : Vehicle) :
    Except PyExc (Option LifecycleState) → Prop
  | .error _ => True
  | .ok none => b.lifecycleState = none ∧ now - b.trackedSince ≤ runLostGraceS
  | .ok (some st) =>
      b.lifecycleState = some st ∨ (st.isTerminal = false ∧ v.lifecycleState = some st)

/-- The condition on one step. -/
def ForeignPollsIdle (s : Runtime) (ev : Event) : Prop :=
  AtPoll (fun now http _ ref => ∀ v, ForeignPoll s ref http v →
    NothingToChange (s.binder.heap ref) now v (DatabusClient.getRunState http)) s ev

/-- A vehicle with a run is never as a release leaves it. -/
theorem not_sameBinding_released {v : Vehicle} (hbound : v.boundRunId ≠ none) (now : ℚ) :
    ¬ SameBinding v (released now v) :=
  fun h => hbound h.run.symm

/-- A changed state that does not confirm leaves a bound vehicle as it was only if it keeps
the vehicle bound and is the state the vehicle shows. -/
theorem sameBinding_vehicleAfter {v : Vehicle} (hbound : v.boundRunId ≠ none) (now : ℚ)
    (b : BoundRun) {st : LifecycleState} (hst : st ≠ .confirmed) :
    SameBinding v (vehicleAfter now b st v) ↔
      st.isTerminal = false ∧ v.lifecycleState = some st := by
  cases hterminal : st.isTerminal with
  | true =>
    rw [vehicleAfter_terminal hterminal]
    exact iff_of_false (not_sameBinding_released hbound now) (by simp)
  | false =>
    rw [vehicleAfter_observed hterminal hst]
    refine ⟨fun h => ⟨rfl, h.lifecycle.symm⟩, fun ⟨_, h⟩ => ?_⟩
    exact ⟨rfl, rfl, rfl, rfl, h.symm, rfl, rfl, rfl⟩

/-- What one poll leaves of a vehicle bound to another run. -/
theorem processPoll_foreign {s : BinderState} {now : ℚ} {runId : String} {ref : Ref}
    {out : Except PyExc (Option LifecycleState)} {v : Vehicle}
    (hv : s.fleet.get (s.binder.heap ref).vehicleId = some v) (hbound : v.boundRunId ≠ none)
    (hout : out ≠ .ok (some .confirmed)) :
    (∃ v', (settle (processPoll s now runId ref out)).fleet.get
        (s.binder.heap ref).vehicleId = some v' ∧ SameBinding v v') ↔
      NothingToChange (s.binder.heap ref) now v out := by
  have hunchanged : ∃ v', s.fleet.get (s.binder.heap ref).vehicleId = some v' ∧ SameBinding v v' :=
    ⟨v, hv, SameBinding.refl v⟩
  have hp := processPoll_polled s now runId ref out
  generalize processPoll s now runId ref out = res at hp ⊢
  cases hp with
  | failed exc => exact iff_of_true hunchanged trivial
  | kept hl => exact iff_of_true hunchanged (losesRun_false.mp hl)
  | lost w f' hl hw ha =>
    obtain rfl : v = w := Option.some.inj (hv.symm.trans hw)
    -- `_force_unbind` releases the vehicle, whichever run it is bound to
    refine iff_of_false ?_ fun h => ?_
    · rintro ⟨v', hv', hsame⟩
      rw [settle, ha.self] at hv'
      cases hv'
      exact not_sameBinding_released hbound now hsame
    · rw [losesRun_false.mpr h] at hl
      cases hl
  | lostOffRoster _ hw =>
    rw [hv] at hw
    cases hw
  | same st hst => exact iff_of_true hunchanged (.inl hst)
  | changed st w f' hst _ hw ha =>
    obtain rfl : v = w := Option.some.inj (hv.symm.trans hw)
    have hconfirmed : st ≠ .confirmed := fun h => hout (by rw [h])
    rw [settle, ha.self]
    simp only [Option.some.injEq, exists_eq_left', NothingToChange, hst, false_or]
    exact sameBinding_vehicleAfter hbound now _ hconfirmed
  | unhashable w f' hst hw ha =>
    obtain rfl : v = w := Option.some.inj (hv.symm.trans hw)
    rw [settle, ha.self]
    simp only [Option.some.injEq, exists_eq_left', NothingToChange, hst, false_or]
    exact sameBinding_vehicleAfter hbound now _ (by simp)
  | changedOffRoster _ _ hw =>
    rw [hv] at hw
    cases hw

/-- Along every run of the runtime: runs that share a vehicle are isolated from each other if
and only if every poll of the one that does not hold the vehicle has nothing to change. -/
theorem isolation_iff (cfg : Settings) (draws : String → Draws) (shapes : Except PyExc ShapesFile)
    (progressionGeom : Dict String (List ShapeStop)) (schedule : Except PyExc PyVal)
    (es : List Event) :
    System.Always (step cfg) Isolates (start cfg draws shapes progressionGeom schedule) es ↔
      System.Always (step cfg) (fun s ev _ => ForeignPollsIdle s ev)
        (start cfg draws shapes progressionGeom schedule) es := by
  refine always_iff (I := fun _ => True) ?_ (fun _ _ _ _ _ _ => trivial) trivial es
  intro s ev s' _ hs
  refine atPoll_congr ?_
  rintro now http round rest runId ref rfl hl
  rw [step_pollReply hl hs]
  refine forall_congr' fun v => imp_congr_right fun hpoll => ?_
  obtain ⟨r, hr, -⟩ := hpoll.foreign
  have hbound : v.boundRunId ≠ none := by rw [hr]; simp
  show (∃ v', (RunBinder.resume s.binderState now round rest runId ref
    (DatabusClient.getRunState http)).fleet.get (s.binder.heap ref).vehicleId = some v' ∧
      SameBinding v v') ↔ _
  rw [resume_fleet]
  exact processPoll_foreign (s := s.binderState) hpoll.vehicle hbound hpoll.unconfirmed

/-! ## Two runs of one vehicle -/

/-- Two runs are tracked on one vehicle, and the first is confirmed. -/
def sharedVehicle : List Event :=
  [.trackRun 0 "r1" "unit-01" "t1" "hacia_artes" none,
    .trackRun 0 "r2" "unit-01" "t2" "hacia_artes" none, .pollWake,
    .pollReply 1 (stateReply "Confirmed")]

/-- The first poll of the second run, which is only initialized, overwrites the lifecycle state
of the vehicle that drives the first. -/
theorem initialized_overwrites :
    ¬ System.Always (step plainSettings) Isolates (plainStart noFile noFile)
      (sharedVehicle ++ [.pollReply 2 (stateReply "Initialized")]) := by
  intro h
  have hrun : ((System.run (step plainSettings) (plainStart noFile noFile) sharedVehicle).bind
      fun s => (step plainSettings s (.pollReply 2 (stateReply "Initialized"))).map fun s' =>
        (s.polled, ((s.binder.heap 1).runId, (s.binder.heap 1).vehicleId),
          (s.fleet.get "unit-01").map Vehicle.runView,
          (s'.fleet.get "unit-01").map Vehicle.runView)) =
      some (some 1, ("r2", "unit-01"),
        some ⟨some "r1", some "t1", some "hacia_artes", none, some .confirmed⟩,
        some ⟨some "r1", some "t1", some "hacia_artes", none, some .initialized⟩) := by
    decide +kernel
  obtain ⟨s, s', hs, hs', hview⟩ := last_step hrun
  simp only [Prod.mk.injEq, Option.map_eq_some_iff] at hview
  obtain ⟨hpolled, ⟨hrunId, hvid⟩, ⟨v, hv, hshown⟩, w, hw, hshown'⟩ := hview
  obtain ⟨runId, hstep⟩ := (always_last h hs hs').of_polled hpolled
  have hpoll : ForeignPoll s 1 (stateReply "Initialized") v := by
    refine ⟨by rw [hvid]; exact hv, ⟨"r1", congrArg RunView.run hshown, by rw [hrunId]; simp⟩, ?_⟩
    have hstate : DatabusClient.getRunState (stateReply "Initialized") =
        .ok (some .initialized) := rfl
    rw [hstate]
    simp
  obtain ⟨v', hv', hsame⟩ := hstep v hpoll
  rw [hvid, hw] at hv'
  cases hv'
  have hlife : v.lifecycleState = some .confirmed := congrArg RunView.lifecycle hshown
  have hlife' : w.lifecycleState = some .initialized := congrArg RunView.lifecycle hshown'
  rw [hsame.lifecycle, hlife] at hlife'
  cases hlife'

end DatabusSim.Runtime
