import DatabusSim.Domain.ControlMoves
import DatabusSim.Domain.KinematicsMoves
import DatabusSim.Runtime.Polls

/-!
# The life of the vehicles

Everything that writes a vehicle, whoever asks for it: the turns and the progression of
the tick loop, the controls, an auto-start, and what the binder makes of a run's state.
The fleet under these calls is a system of its own. A step of the runtime is one of them
or leaves the fleet alone (`life_of_step`), so what holds along every life holds of the
fleet along every run of the runtime.
-/

namespace DatabusSim.Life

open Transition Kinematics FleetState

/-- A call that writes a vehicle. -/
inductive Event where
  /-- `step_vehicle` and `build_vehicle_payloads`. -/
  | turn (vehicleId : String) (d : Draws) (now dt : ℚ)
  /-- The progression oracle, once the telemetry of the vehicle is out. -/
  | progress (vehicleId : String) (payloads : Payloads)
  /-- `apply_control`; `file` is what reading the shapes gives. -/
  | control (now : ℚ) (file : Except PyExc ShapesFile) (d : Draws) (vehicleId knob : String)
      (payload : Control.Payload)
  | startRun (now : ℚ) (payload : Control.Payload)
  /-- The `set_moving` of an auto-start. -/
  | autoStart (now : ℚ) (vehicleId : String)
  /-- `_apply_state`. -/
  | applyState (now : ℚ) (b : BoundRun) (st : LifecycleState)
  /-- `_force_unbind`. -/
  | forceUnbind (now : ℚ) (b : BoundRun)

/-- The turn of a vehicle whose step takes `dt`. -/
def turn (cfg : TickSettings) (tables : GeometryTables) (f : FleetState) (d : Draws) (now dt : ℚ)
    (vehicleId : String) : FleetState :=
  match f.get vehicleId, tables.shapes with
  | some v, some shapes =>
      f.put vehicleId (vehicleOf
        (TickLoop.stepAndBuild { cfg with tickInterval := dt } tables.stops shapes d now v))
  | _, _ => f

/-- The payload of a progression is stored. -/
def storeProgression (prog : StopStatus) (v : Vehicle) : Vehicle :=
  { v with kin := v.kin.map fun kin => { kin with progressionPrev := some prog } }

def progress (cfg : TickSettings) (tables : GeometryTables) (f : FleetState)
    (vehicleId : String) (payloads : Payloads) : FleetState :=
  match f.get vehicleId with
  | some v => f.put vehicleId (storeProgression (TickLoop.progressionOf cfg tables v payloads) v)
  | none => f

def step (cfg : TickSettings) (tables : GeometryTables) (f : FleetState) :
    Event → Option FleetState
  | .turn vehicleId d now dt => some (turn cfg tables f d now dt vehicleId)
  | .progress vehicleId payloads => some (progress cfg tables f vehicleId payloads)
  | .control now file d vehicleId knob payload =>
      some (Control.applyControl ⟨cfg.geo, now, file, d⟩ f vehicleId knob payload)
  | .startRun now payload => some (Control.globalStartRun now f payload)
  | .autoStart now vehicleId => some (settle (raisingAt f (f.setMoving now vehicleId true)))
  | .applyState now b st => some (settle (RunBinder.applyState f now b st))
  | .forceUnbind now b => some (settle (raisingAt f (f.unbindRun now b.vehicleId)))

/-! ## What a call makes of the vehicle it writes -/

/-- The vehicle a call is about; a `start_run` names its own. -/
def Event.vehicle : Event → Option String
  | .turn vehicleId _ _ _ => some vehicleId
  | .progress vehicleId _ => some vehicleId
  | .control _ _ _ vehicleId _ _ => some vehicleId
  | .startRun _ payload =>
      match Control.field payload "vehicle_id" with
      | .str vehicleId => some vehicleId
      | _ => none
  | .autoStart _ vehicleId => some vehicleId
  | .applyState _ b _ => some b.vehicleId
  | .forceUnbind _ b => some b.vehicleId

/-- The vehicle is set moving from outside. -/
def setOff (now : ℚ) (v : Vehicle) : Vehicle :=
  { v with moving := true, lastStateChangeAt := some now }

/-- The vehicle is on the loaded shape `shape`. -/
def OnShape (tables : GeometryTables) (v : Vehicle) (shape : Shape) : Prop :=
  ∃ shapes, tables.shapes = some shapes ∧ getShape v shapes = .ok shape

/-- What a call makes of the vehicle it is about. -/
inductive Written (cfg : TickSettings) (tables : GeometryTables) (v : Vehicle) :
    Event → Vehicle → Prop where
  /-- Its shape is not loaded. -/
  | unplaced (vid : String) (d : Draws) (now dt : ℚ) : (∀ shape, ¬OnShape tables v shape) →
      Written cfg tables v (.turn vid d now dt) v
  | turned (vid : String) (d : Draws) (now dt : ℚ) (shape : Shape) (v₁ v' : Vehicle) :
      OnShape tables v shape → Stepped cfg.postRunIdleS d v dt shape v₁ → Reported d v₁ v' →
      Written cfg tables v (.turn vid d now dt) v'
  | progressed (vid : String) (payloads : Payloads) :
      Written cfg tables v (.progress vid payloads)
        (storeProgression (TickLoop.progressionOf cfg tables v payloads) v)
  | controlled (now : ℚ) (file : Except PyExc ShapesFile) (d : Draws) (vid knob : String)
      (payload : Control.Payload) (v' : Vehicle) :
      Control.Controlled ⟨cfg.geo, now, file, d⟩ v v' →
      Written cfg tables v (.control now file d vid knob payload) v'
  | started (now : ℚ) (payload : Control.Payload) :
      Written cfg tables v (.startRun now payload) (setOff now v)
  | autoStarted (now : ℚ) (vid : String) :
      Written cfg tables v (.autoStart now vid) (setOff now v)
  | applied (now : ℚ) (b : BoundRun) (st : LifecycleState) :
      Written cfg tables v (.applyState now b st) (RunBinder.vehicleAfter now b st v)
  | unbound (now : ℚ) (b : BoundRun) :
      Written cfg tables v (.forceUnbind now b) (RunBinder.released now v)

section Written

variable {cfg : TickSettings} {tables : GeometryTables} {f f' : FleetState} {ev : Event}

/-- What a turn leaves of its vehicle, whether it returns or raises. -/
theorem stepAndBuild_written (cfg : TickSettings) (stops : List Stop) (shapes : Dict String Shape)
    (d : Draws) (now : ℚ) (v : Vehicle) :
    (vehicleOf (TickLoop.stepAndBuild cfg stops shapes d now v) = v ∧
        ∃ e, getShape v shapes = .error e) ∨
      ∃ shape v₁, getShape v shapes = .ok shape ∧
        Stepped cfg.postRunIdleS d v cfg.tickInterval shape v₁ ∧
        Reported d v₁ (vehicleOf (TickLoop.stepAndBuild cfg stops shapes d now v)) := by
  unfold TickLoop.stepAndBuild
  cases getShape v shapes with
  | error e => exact .inl ⟨rfl, e, rfl⟩
  | ok shape =>
    have hstep : Stepped cfg.postRunIdleS d v cfg.tickInterval shape
        (settle (stepVehicle cfg.geo cfg.postRunIdleS d v cfg.tickInterval shape stops)) :=
      stepVehicle_stepped
    refine .inr ⟨shape, _, rfl, hstep, ?_⟩
    simp only
    cases hv : stepVehicle cfg.geo cfg.postRunIdleS d v cfg.tickInterval shape stops with
    | error r => exact .inl rfl
    | ok v₁ => exact buildVehiclePayloads_reported

theorem turn_writes (d : Draws) (now dt : ℚ) (vid : String) :
    Writes (fun v => Written cfg tables v (.turn vid d now dt)) vid f
      (turn cfg tables f d now dt vid) := by
  unfold turn
  cases hv : f.get vid with
  | none => exact writes_offRoster hv
  | some v =>
    cases hshapes : tables.shapes with
    | none =>
      refine ⟨fun v' hv' => ⟨v', hv', .unplaced vid d now dt ?_⟩, fun _ _ => rfl⟩
      rintro shape ⟨shapes, h, -⟩
      rw [hshapes] at h
      cases h
    | some shapes =>
      refine put_writes hv ?_
      obtain ⟨hkept, e, herror⟩ | ⟨shape, v₁, hshape, hstep, hreport⟩ :=
        stepAndBuild_written { cfg with tickInterval := dt } tables.stops shapes d now v
      · rw [hkept]
        refine .unplaced vid d now dt ?_
        rintro shape ⟨shapes', h, hshape⟩
        rw [hshapes] at h
        cases h
        rw [herror] at hshape
        cases hshape
      · exact .turned vid d now dt shape v₁ _ ⟨shapes, hshapes, hshape⟩ hstep hreport

theorem progress_writes (vid : String) (payloads : Payloads) :
    Writes (fun v => Written cfg tables v (.progress vid payloads)) vid f
      (progress cfg tables f vid payloads) := by
  unfold progress
  cases hv : f.get vid with
  | none => exact writes_offRoster hv
  | some v => exact put_writes hv (.progressed vid payloads)

theorem startRun_writes {now : ℚ} {payload : Control.Payload} {vid : String}
    (h : Control.field payload "vehicle_id" = .str vid) :
    Writes (fun v => Written cfg tables v (.startRun now payload)) vid f
      (Control.globalStartRun now f payload) := by
  unfold Control.globalStartRun
  rw [h]
  simp only
  split
  · rename_i hnone
    exact writes_offRoster (Option.isNone_iff_eq_none.mp hnone)
  · exact mutate_writes fun _ => .started now payload

theorem applyState_writes (now : ℚ) (b : BoundRun) (st : LifecycleState) :
    Writes (fun v => Written cfg tables v (.applyState now b st)) b.vehicleId f
      (settle (RunBinder.applyState f now b st)) := by
  cases hv : f.get b.vehicleId with
  | none =>
    rw [RunBinder.applyState_offRoster now hv]
    exact writes_offRoster hv
  | some v =>
    obtain ⟨f', ha, hf⟩ := RunBinder.applyState_onRoster now hv st
    have hsettle : settle (RunBinder.applyState f now b st) = f' := by
      rw [hf]
      split <;> rfl
    rw [hsettle]
    refine ⟨fun u hu => ⟨v, hv, ?_⟩, ha.other⟩
    rw [ha.self] at hu
    cases hu
    exact .applied now b st

/-- The vehicle keeps its run, and starts neither to move nor to transmit. -/
structure Calms (v v' : Vehicle) : Prop where
  run : v'.boundRunId = v.boundRunId
  moving : v'.moving = true → v.moving = true
  transmitting : v'.transmitting = true → v.transmitting = true

theorem Calms.refl (v : Vehicle) : Calms v v := ⟨rfl, id, id⟩

theorem turn_calms {v v' : Vehicle} {vid : String} {d : Draws} {now dt : ℚ}
    (h : Written cfg tables v (.turn vid d now dt) v') : Calms v v' := by
  cases h with
  | unplaced => exact .refl v
  | turned _ _ _ _ shape v₁ v' _ hstep hreport =>
    have hcalm : Calms v v₁ :=
      ⟨congrArg RunView.run hstep.runView, hstep.calms.1, hstep.calms.2⟩
    rcases hreport with rfl | ⟨kin, -, rfl⟩
    · exact hcalm
    · exact ⟨hcalm.run, hcalm.moving, hcalm.transmitting⟩

theorem progress_calms {v v' : Vehicle} {vid : String} {payloads : Payloads}
    (h : Written cfg tables v (.progress vid payloads) v') : Calms v v' := by
  cases h
  exact ⟨rfl, id, id⟩

/-- A call that is about no vehicle writes nothing. -/
theorem step_aside (hs : step cfg tables f ev = some f') (h : ev.vehicle = none) : f' = f := by
  cases ev with
  | startRun now payload =>
    cases hs
    unfold Control.globalStartRun
    simp only [Event.vehicle] at h
    split
    · rename_i hvid
      rw [hvid] at h
      cases h
    · rfl
  | _ => cases h

/-- A call writes the vehicle it is about. -/
theorem step_writes (hs : step cfg tables f ev = some f') {vid : String}
    (h : ev.vehicle = some vid) : Writes (fun v => Written cfg tables v ev) vid f f' := by
  cases ev with
  | turn w d now dt =>
    cases hs
    cases h
    exact turn_writes d now dt _
  | progress w payloads =>
    cases hs
    cases h
    exact progress_writes _ payloads
  | control now file d w knob payload =>
    cases hs
    cases h
    exact (Control.applyControl_writes ⟨cfg.geo, now, file, d⟩ f _ knob payload).mono
      fun v v' hc => .controlled now file d _ knob payload v' hc
  | startRun now payload =>
    cases hs
    simp only [Event.vehicle] at h
    split at h
    · rename_i hvid
      cases h
      exact startRun_writes hvid
    · cases h
  | autoStart now w =>
    cases hs
    cases h
    exact mutate_writes fun _ => .autoStarted now _
  | applyState now b st =>
    cases hs
    cases h
    exact applyState_writes now b st
  | forceUnbind now b =>
    cases hs
    cases h
    exact mutate_writes fun _ => .unbound now b

/-- What a call makes of any one vehicle. -/
theorem step_vehicle (hs : step cfg tables f ev = some f') {w : String} {v' : Vehicle}
    (hv' : f'.get w = some v') :
    ∃ v, f.get w = some v ∧
      (ev.vehicle ≠ some w ∧ v' = v ∨ ev.vehicle = some w ∧ Written cfg tables v ev v') := by
  cases hvid : ev.vehicle with
  | none =>
    rw [step_aside hs hvid] at hv'
    exact ⟨v', hv', .inl ⟨nofun, rfl⟩⟩
  | some vid =>
    have hw := step_writes hs hvid
    by_cases heq : w = vid
    · subst heq
      obtain ⟨v, hv, hr⟩ := hw.self v' hv'
      exact ⟨v, hv, .inr ⟨rfl, hr⟩⟩
    · refine ⟨v', by rw [← hw.other w heq]; exact hv', .inl ⟨?_, rfl⟩⟩
      exact fun he => heq (Option.some.inj he).symm

end Written

/-! ## The fleet of the runtime -/

section Runtime

variable {cfg : Settings} {s s' : Runtime} {ev : Runtime.Event}

/-- A poll writes the fleet by one call at most. -/
theorem life_of_poll (w : TickSettings) (tables : GeometryTables) (b : BinderState) (now : ℚ)
    (runId : String) (ref : Ref) (out : Except PyExc (Option LifecycleState)) :
    (settle (RunBinder.processPoll b now runId ref out)).fleet = b.fleet ∨
      ∃ lev, step w tables b.fleet lev =
        some (settle (RunBinder.processPoll b now runId ref out)).fleet := by
  cases out with
  | error exc => exact .inl rfl
  | ok found =>
    cases found with
    | none =>
      unfold RunBinder.processPoll
      simp only
      split
      · refine .inr ⟨.forceUnbind now (b.binder.heap ref), ?_⟩
        unfold RunBinder.forceUnbind
        simp only [step]
        cases b.fleet.unbindRun now (b.binder.heap ref).vehicleId <;> rfl
      · exact .inl rfl
    | some st =>
      unfold RunBinder.processPoll
      simp only
      split
      · exact .inl rfl
      · refine .inr ⟨.applyState now
          ((b.binder.noteSample now ref st).storeState ref st |>.heap ref) st, ?_⟩
        simp only [step]
        cases RunBinder.applyState b.fleet now
          (((b.binder.noteSample now ref st).storeState ref st).heap ref) st <;> rfl

/-- The tick loop writes the fleet by turns and progressions. -/
theorem life_of_tick {w : TickSettings} {tables : GeometryTables} {t t' : TickState}
    {ev : TickLoop.Event} (hs : TickLoop.step w tables t ev = some t') :
    t'.fleet = t.fleet ∨
      (∃ vid d now, t'.fleet = turn w tables t.fleet d now w.tickInterval vid) ∨
      ∃ vid payloads, t'.fleet = progress w tables t.fleet vid payloads := by
  rcases TickLoop.step_cases hs with ⟨-, last, -, rfl⟩ |
    ⟨d, now, turns, vid, rest, -, -, rfl⟩ | ⟨-, turns, vid, payloads, rest, -, rfl⟩ |
    ⟨-, turns, -, rfl⟩
  · exact .inl TickLoop.wake_fleet
  · unfold TickLoop.turn
    cases hv : t.fleet.get vid with
    | none => exact .inl rfl
    | some v =>
      cases hshapes : tables.shapes with
      | none => exact .inl rfl
      | some shapes =>
        simp only
        split
        · exact .inl rfl
        · refine .inr (.inl ⟨vid, d, now, ?_⟩)
          simp only [turn, hv, hshapes]
          cases h : TickLoop.stepAndBuild w tables.stops shapes d now v with
          | error r => rfl
          | ok r =>
            obtain ⟨v', payloads⟩ := r
            cases payloads <;> rfl
  · refine .inr (.inr ⟨vid, payloads, ?_⟩)
    simp only [progress, TickLoop.progress]
    cases t.fleet.get vid <;> rfl
  · exact .inl rfl

/-- A step of the runtime is one call, or leaves the fleet alone. -/
theorem life_of_step (hs : Runtime.step cfg s ev = some s') :
    s'.tables = s.tables ∧ (s'.fleet = s.fleet ∨
      ∃ lev, step cfg.ticks s.tables s.fleet lev = some s'.fleet) := by
  cases ev with
  | scheduler now ev =>
    obtain ⟨scheduler, -, rfl⟩ := Option.map_eq_some_iff.mp hs
    exact ⟨rfl, .inl rfl⟩
  | trackRun now runId vehicleId tripId shapeId stop =>
    simp only [Runtime.step] at hs
    split at hs
    · cases hs
    · cases hs
      exact ⟨rfl, .inl rfl⟩
  | pollWake =>
    simp only [Runtime.step] at hs
    split at hs
    · cases hs
      exact ⟨rfl, .inl rfl⟩
    · cases hs
  | pollReply now http =>
    simp only [Runtime.step] at hs
    split at hs
    · rename_i round rest runId ref _
      cases hs
      refine ⟨rfl, ?_⟩
      show (RunBinder.resume s.binderState now round rest runId ref _).fleet = s.fleet ∨ _
      rw [RunBinder.resume_fleet]
      obtain h | ⟨lev, h⟩ := life_of_poll cfg.ticks s.tables s.binderState now runId ref
        (DatabusClient.getRunState http)
      · exact .inl h
      · refine .inr ⟨lev, ?_⟩
        show _ = some (RunBinder.resume s.binderState now round rest runId ref _).fleet
        rw [RunBinder.resume_fleet]
        exact h
    · cases hs
  | untrackTimer i =>
    obtain ⟨runId, -, rfl⟩ := Option.map_eq_some_iff.mp hs
    exact ⟨rfl, .inl rfl⟩
  | autoStart now i =>
    obtain ⟨a, -, rfl⟩ := Option.map_eq_some_iff.mp hs
    exact ⟨rfl, .inr ⟨.autoStart now a.vehicleId, rfl⟩⟩
  | control now file draws vehicleId knob payload =>
    cases hs
    exact ⟨rfl, .inr ⟨.control now file draws vehicleId knob payload, rfl⟩⟩
  | startRun now payload =>
    cases hs
    exact ⟨rfl, .inr ⟨.startRun now payload, rfl⟩⟩
  | tick ev =>
    obtain ⟨t, ht, rfl⟩ := Option.map_eq_some_iff.mp hs
    refine ⟨rfl, ?_⟩
    rcases life_of_tick ht with hsame | ⟨vid, d, now, hturn⟩ | ⟨vid, payloads, hprogress⟩
    · exact .inl hsame
    · exact .inr ⟨.turn vid d now cfg.ticks.tickInterval, congrArg some hturn.symm⟩
    · exact .inr ⟨.progress vid payloads, congrArg some hprogress.symm⟩

/-- The fleet of the runtime lives such a life. -/
theorem life_of_run {es : List Runtime.Event} (hr : System.run (Runtime.step cfg) s es = some s') :
    s'.tables = s.tables ∧
      ∃ les, System.run (step cfg.ticks s.tables) s.fleet les = some s'.fleet := by
  induction es generalizing s with
  | nil =>
    cases hr
    exact ⟨rfl, [], rfl⟩
  | cons e es ih =>
    obtain ⟨m, hm, hr⟩ := run_cons_some.mp hr
    obtain ⟨htables, hstep⟩ := life_of_step hm
    obtain ⟨htables', les, hles⟩ := ih hr
    refine ⟨htables'.trans htables, ?_⟩
    rw [htables] at hles
    rcases hstep with hsame | ⟨lev, hlev⟩
    · exact ⟨les, by rw [← hsame]; exact hles⟩
    · exact ⟨lev :: les, run_cons_some.mpr ⟨_, hlev, hles⟩⟩

end Runtime

/-! ## A concrete life -/

/-- A shape of ten metres. -/
def shortTables : GeometryTables where
  shapes := some (Dict.ofList [("hacia_artes", ⟨"hacia_artes", [⟨0, 0, 0⟩, ⟨0, 1, 1 / 100⟩]⟩)])
  stops := []
  progressionGeom := Dict.empty

def runOf (runId : String) : BoundRun where
  runId
  vehicleId := "unit-01"
  tripId := "t1"
  shapeId := "hacia_artes"
  trackedSince := 0

end DatabusSim.Life
