import DatabusSim.Domain.Faults
import DatabusSim.Runtime.HeldSpeed

/-!
# The payloads an injected fault marks

A vehicle with a fault of `n` ticks lives as its twin without one. Of the payload pairs that the
twin emits it emits the first `n` corrupted and the others as they are, however many silent
turns and controls lie between them; what is left of the fault is `n` less the pairs emitted.
-/

namespace DatabusSim.Life

open Transition Kinematics FleetState

/-! ## The turn of the two -/

section Turn

variable {cfg : TickSettings} {stops : List Stop} {shapes : Dict String Shape} {d : Draws}
  {now : ℚ} {kind : FaultKind} {n : Nat} {v : Vehicle}

theorem getShape_faulty (kind : FaultKind) (n : Nat) (v : Vehicle) (shapes : Dict String Shape) :
    getShape (faulty kind n v) shapes = getShape v shapes := by
  cases n <;> rfl

theorem stepAndBuild_twins (kind : FaultKind) (n : Nat) (hv : FaultFree v) :
    ∃ v', FaultFree v' ∧ Twins kind n v' (TickLoop.stepAndBuild cfg stops shapes d now v)
      (TickLoop.stepAndBuild cfg stops shapes d now (faulty kind n v)) := by
  unfold TickLoop.stepAndBuild
  rw [getShape_faulty]
  cases getShape v shapes with
  | error e => exact ⟨v, hv, .raised e⟩
  | ok shape =>
    have hfree : FaultFree (settle
        (stepVehicle cfg.geo cfg.postRunIdleS d v cfg.tickInterval shape stops)) :=
      stepVehicle_faultFree hv
    simp only
    rw [stepVehicle_faulty kind n hv.filled]
    cases hstep : stepVehicle cfg.geo cfg.postRunIdleS d v cfg.tickInterval shape stops with
    | error r =>
      rw [hstep] at hfree
      exact ⟨r.state, hfree, .raised r.exc⟩
    | ok v₁ =>
      rw [hstep] at hfree
      exact ⟨v₁, hfree, buildVehiclePayloads_twins kind n hfree⟩

variable {clean faulted : Except (Raised Vehicle) (Vehicle × Option Payloads)}

theorem vehicleOf_twins (h : Twins kind n v clean faulted) :
    vehicleOf clean = v ∧
      vehicleOf faulted = faulty kind (n - (payloadsOf clean).toList.length) v := by
  cases h with
  | raised exc => exact ⟨rfl, rfl⟩
  | silent => exact ⟨rfl, rfl⟩
  | emitted p => exact ⟨rfl, rfl⟩

theorem payloadsOf_twins (h : Twins kind n v clean faulted) :
    payloadsOf faulted = (payloadsOf clean).map (marked kind n) := by
  cases h with
  | raised exc => rfl
  | silent => rfl
  | emitted p => rfl

end Turn

/-! ## What a life emits -/

/-- A payload pair and the time its turn reads. -/
structure Emission where
  now : ℚ
  payloads : Payloads

/-- The pair that a call emits for the vehicle, if it emits one. -/
def emitted (cfg : TickSettings) (tables : GeometryTables) (vid : String) (f : FleetState) :
    Event → Option Emission
  | .turn w d now dt =>
      if w = vid then
        match f.get vid, tables.shapes with
        | some v, some shapes =>
            (payloadsOf (TickLoop.stepAndBuild { cfg with tickInterval := dt } tables.stops shapes d
              now v)).map (Emission.mk now)
        | _, _ => none
      else none
  | _ => none

/-- The pairs that a list of calls emits for the vehicle. -/
def emissions (cfg : TickSettings) (tables : GeometryTables) (vid : String) :
    FleetState → List Event → List Emission
  | _, [] => []
  | f, ev :: es =>
      match step cfg tables f ev with
      | some f' => (emitted cfg tables vid f ev).toList ++ emissions cfg tables vid f' es
      | none => []

/-- The fault makes its own of the pair. -/
def Emission.corrupt (kind : FaultKind) (e : Emission) : Emission :=
  { e with payloads := Kinematics.corrupt kind e.payloads }

/-- The pair as it is with `n` ticks of the fault left. -/
def Emission.mark (kind : FaultKind) (n : Nat) (e : Emission) : Emission :=
  { e with payloads := marked kind n e.payloads }

/-- The pair is of a vehicle at a place of its shape, with no fault in it. -/
def Emission.Clean (geo : Geo) (e : Emission) : Prop :=
  ∃ (v : Vehicle) (kin : Kin) (shape : Shape) (place : ℚ × ℚ × ℚ),
    v.kin = some kin ∧ interpolate geo shape v.progressM = .ok place ∧
      e.payloads = pairAt e.now v kin place none

/-- An `inject_fault` with this payload is accepted, for `n` ticks. -/
def Injection (payload : Control.Payload) (kind : FaultKind) (n : Nat) : Prop :=
  0 < n ∧ ∃ name, Control.field payload "kind" = .str name ∧ FaultKind.ofValue name = some kind ∧
    Control.asInt ((PyVal.getItem? payload "duration_ticks").getD (.int 0)) = some (n : Int)

/-- The call injects a fault into the vehicle. -/
def Event.Injects (vid : String) : Event → Prop
  | .control _ _ _ w knob payload =>
      w = vid ∧ knob = "inject_fault" ∧ ∃ kind n, Injection payload kind n
  | _ => False

/-- The vehicle, its scratch space filled and any fault taken out of it. -/
def cleared (d : Draws) (v : Vehicle) : Vehicle :=
  { v with kin := some (Kin.withFault none 0 (initKin d v)) }

section Steps

variable {cfg : TickSettings} {tables : GeometryTables} {vid : String} {kind : FaultKind} {n : Nat}
  {f g : FleetState} {ev : Event}

/-- The vehicle of `f` has `n` ticks of the fault left, and is that of `g` otherwise. -/
def Shadows (kind : FaultKind) (n : Nat) (vid : String) (g f : FleetState) : Prop :=
  ∃ v, FaultFree v ∧ g.get vid = some v ∧ f.get vid = some (faulty kind n v)

theorem step_total (cfg : TickSettings) (tables : GeometryTables) (f : FleetState) (ev : Event) :
    ∃ f', step cfg tables f ev = some f' := by
  cases ev <;> exact ⟨_, rfl⟩

/-- A call about another vehicle, or about none, leaves this one alone. -/
theorem step_elsewhere {f' : FleetState} (hs : step cfg tables f ev = some f')
    (h : ev.vehicle ≠ some vid) : f'.get vid = f.get vid := by
  cases hvid : ev.vehicle with
  | none => rw [step_aside hs hvid]
  | some w =>
    have hne : vid ≠ w := fun heq => h (by rw [hvid, heq])
    exact (step_writes hs hvid).other vid hne

/-- The call makes this change of the vehicle, in whatever fleet. -/
def Changes (cfg : TickSettings) (tables : GeometryTables) (ev : Event) (vid : String)
    (change : Vehicle → Vehicle) : Prop :=
  ∀ f v, f.get vid = some v → ∃ f', step cfg tables f ev = some f' ∧ f'.get vid = some (change v)

theorem shadows_of_blind {change : Vehicle → Vehicle} (hchange : Changes cfg tables ev vid change)
    (hblind : Blind change) (h : Shadows kind n vid g f) :
    ∃ g' f', step cfg tables g ev = some g' ∧ step cfg tables f ev = some f' ∧
      Shadows kind n vid g' f' := by
  obtain ⟨v, hfree, hg, hf⟩ := h
  obtain ⟨g', hg', hgv⟩ := hchange g v hg
  obtain ⟨f', hf', hfv⟩ := hchange f _ hf
  refine ⟨g', f', hg', hf', change v, hblind.faultFree hfree, hgv, ?_⟩
  rw [hfv, hblind.faulty kind n hfree.filled]

theorem mutate_changes {change : Vehicle → Vehicle}
    (h : ∀ f, step cfg tables f ev = some (settle (raisingAt f (f.mutate vid change)))) :
    Changes cfg tables ev vid change := by
  intro f v hv
  refine ⟨_, h f, ?_⟩
  rw [mutate_eq, hv]
  exact get_put_self f vid _

theorem startRun_changes {now : ℚ} {payload : Control.Payload}
    (h : Control.field payload "vehicle_id" = .str vid) :
    Changes cfg tables (.startRun now payload) vid (setOff now) := by
  intro f v hv
  refine ⟨_, rfl, ?_⟩
  have hmutate : f.setMoving now vid true = f.mutate vid (setOff now) := rfl
  unfold Control.globalStartRun
  rw [h]
  simp only [hv, Option.isNone_some, Bool.false_eq_true, if_false]
  rw [hmutate, mutate_eq, hv]
  exact get_put_self f vid _

theorem applyState_changes (now : ℚ) (b : BoundRun) (st : LifecycleState) :
    Changes cfg tables (.applyState now b st) b.vehicleId (RunBinder.vehicleAfter now b st) := by
  intro f v hv
  obtain ⟨f', hf', heq⟩ := RunBinder.applyState_onRoster now hv st
  refine ⟨_, rfl, ?_⟩
  rw [heq]
  split
  · exact hf'.self
  · exact hf'.self

theorem progress_changes (payloads : Payloads) :
    Changes cfg tables (.progress vid payloads) vid
      (fun v => storeProgression (TickLoop.progressionOf cfg tables v payloads) v) := by
  intro f v hv
  refine ⟨_, rfl, ?_⟩
  unfold progress
  rw [hv]
  exact get_put_self f vid _

theorem blind_setOff (now : ℚ) : Blind (setOff now) :=
  ⟨fun _ _ _ _ => rfl, fun _ filled => filled⟩

theorem blind_released (now : ℚ) : Blind (RunBinder.released now) :=
  ⟨fun _ _ _ _ => rfl, fun _ filled => filled⟩

theorem blind_vehicleAfter (now : ℚ) (b : BoundRun) (st : LifecycleState) :
    Blind (RunBinder.vehicleAfter now b st) := by
  cases st <;> exact ⟨fun _ _ _ _ => rfl, fun _ filled => filled⟩

theorem blind_progress (payloads : Payloads) :
    Blind (fun v => storeProgression (TickLoop.progressionOf cfg tables v payloads) v) := by
  constructor
  · intro fault ticks v filled
    obtain ⟨kin, hkin⟩ := Option.isSome_iff_exists.mp filled
    have hprev : ((withFault fault ticks v).kin.bind fun kin => kin.progressionPrev) =
        v.kin.bind fun kin => kin.progressionPrev := by
      simp [withFault, hkin, Kin.withFault]
    have hsame : TickLoop.progressionOf cfg tables (withFault fault ticks v) payloads =
        TickLoop.progressionOf cfg tables v payloads := by
      unfold TickLoop.progressionOf
      rw [hprev]
      rfl
    rw [hsame]
    simp [storeProgression, withFault, hkin, Kin.withFault]
  · intro v filled
    simpa [storeProgression] using filled

/-! ## Controls -/

/-- What a control does to the vehicle it names. -/
theorem applied_vehicle {env : Control.Env} {payload : Control.Payload} {knob : String}
    {v : Vehicle} {f' : FleetState} (h : Control.Applied env f vid knob payload f')
    (hv : f.get vid = some v) :
    (∃ v', Control.Accepted env payload knob v v' ∧ f'.get vid = some v') ∨
      (∀ v', ¬ Control.Accepted env payload knob v v') ∧ f'.get vid = some v := by
  cases h with
  | accepted named acc written =>
    cases hv.symm.trans named
    refine .inl ⟨_, acc, ?_⟩
    rcases written with rfl | rfl
    · exact get_put_self f vid _
    · exact get_put_self f vid _
  | unchanged rejected => exact .inr ⟨fun v' => rejected v v' hv, hv⟩

/-- The vehicle right after an injection. -/
def injected (d : Draws) (kind : FaultKind) (n : Nat) (v : Vehicle) : Vehicle :=
  { v with kin := some { initKin d v with fault := some kind, faultTicks := n } }

theorem accepted_inject {env : Control.Env} {payload : Control.Payload} {v v' : Vehicle} :
    Control.Accepted env payload "inject_fault" v v' ↔
      ∃ kind n, Injection payload kind n ∧ v' = injected env.draws kind n v := by
  constructor
  · intro h
    obtain ⟨name, kind, ticks, hname, hkind, hticks, hpos, rfl⟩ := h
    obtain ⟨n, rfl⟩ := Int.eq_ofNat_of_zero_le hpos.le
    exact ⟨kind, n, ⟨by omega, name, hname, hkind, hticks⟩, rfl⟩
  · intro h
    obtain ⟨kind, n, ⟨hpos, name, hname, hkind, hticks⟩, rfl⟩ := h
    exact ⟨name, kind, n, hname, hkind, hticks, by omega, rfl⟩

theorem withFault_free {v : Vehicle} (h : FaultFree v) : withFault none 0 v = v :=
  (faultFree_iff.mp h).2

theorem withFault_faulty {v : Vehicle} (kind : FaultKind) (n : Nat) (h : FaultFree v) :
    withFault none 0 (faulty kind n v) = v := by
  cases n with
  | zero => exact withFault_free h
  | succ n =>
    have hsame : withFault none 0 (faulty kind (n + 1) v) = withFault none 0 v := by
      obtain ⟨kin, hkin, -⟩ := h
      simp [faulty, withFault, hkin, Kin.withFault]
    rw [hsame]
    exact withFault_free h

theorem faulty_filled {v : Vehicle} (kind : FaultKind) (n : Nat) (h : FaultFree v) :
    (faulty kind n v).kin.isSome := by
  cases n with
  | zero => exact h.filled
  | succ n => simpa [faulty, withFault] using h.filled

/-- A control that injects no fault is accepted for both vehicles or for neither. -/
theorem accepted_faulty {env : Control.Env} {payload : Control.Payload} {knob : String}
    {v v' : Vehicle} (hknob : knob ≠ "inject_fault") (hfree : FaultFree v)
    (h : Control.Accepted env payload knob v v') :
    FaultFree v' ∧ Control.Accepted env payload knob (faulty kind n v) (faulty kind n v') := by
  obtain ⟨hself, hfilled⟩ := accepted_withFault h hknob none 0 hfree.filled
  rw [withFault_free hfree] at hself
  refine ⟨faultFree_iff.mpr ⟨hfilled, hself.unique h⟩, ?_⟩
  cases n with
  | zero => exact h
  | succ n => exact (accepted_withFault h hknob _ _ hfree.filled).1

theorem accepted_of_faulty {env : Control.Env} {payload : Control.Payload} {knob : String}
    {v v' : Vehicle} (hknob : knob ≠ "inject_fault") (hfree : FaultFree v)
    (h : Control.Accepted env payload knob (faulty kind n v) v') :
    Control.Accepted env payload knob v (withFault none 0 v') := by
  have hback := (accepted_withFault h hknob none 0 (faulty_filled kind n hfree)).1
  rwa [withFault_faulty kind n hfree] at hback

theorem control_shadows {env : Control.Env} {payload : Control.Payload} {knob : String}
    (hquiet : knob = "inject_fault" → ∀ kind n, ¬ Injection payload kind n)
    (h : Shadows kind n vid g f) :
    Shadows kind n vid (Control.applyControl env g vid knob payload)
      (Control.applyControl env f vid knob payload) := by
  obtain ⟨v, hfree, hg, hf⟩ := h
  have hgv := applied_vehicle (Control.applied env g vid knob payload) hg
  have hfv := applied_vehicle (Control.applied env f vid knob payload) hf
  by_cases hknob : knob = "inject_fault"
  · -- an injection that is rejected for the one is rejected for the other
    subst hknob
    have hrejected : ∀ u u', ¬ Control.Accepted env payload "inject_fault" u u' := by
      intro u u' hu
      obtain ⟨kind', n', hinjection, -⟩ := accepted_inject.mp hu
      exact hquiet rfl kind' n' hinjection
    rcases hgv with ⟨v', hv', -⟩ | ⟨-, hgv⟩
    · exact absurd hv' (hrejected _ _)
    · rcases hfv with ⟨v', hv', -⟩ | ⟨-, hfv⟩
      · exact absurd hv' (hrejected _ _)
      · exact ⟨v, hfree, hgv, hfv⟩
  · rcases hgv with ⟨v', hv', hgv⟩ | ⟨hrejected, hgv⟩
    · obtain ⟨hfree', hfaulty⟩ : FaultFree v' ∧
          Control.Accepted env payload knob (faulty kind n v) (faulty kind n v') :=
        accepted_faulty hknob hfree hv'
      rcases hfv with ⟨w, hw, hfv⟩ | ⟨hrejected, -⟩
      · refine ⟨v', hfree', hgv, ?_⟩
        rw [hfv, hw.unique hfaulty]
      · exact absurd hfaulty (hrejected _)
    · rcases hfv with ⟨w, hw, -⟩ | ⟨-, hfv⟩
      · exact absurd (accepted_of_faulty hknob hfree hw) (hrejected _)
      · exact ⟨v, hfree, hgv, hfv⟩

/-! ## One call and a whole life -/

theorem turn_eq {v : Vehicle} {shapes : Dict String Shape} (hv : f.get vid = some v)
    (hshapes : tables.shapes = some shapes) (d : Draws) (now dt : ℚ) :
    turn cfg tables f d now dt vid = f.put vid (vehicleOf
      (TickLoop.stepAndBuild { cfg with tickInterval := dt } tables.stops shapes d now v)) := by
  simp only [turn, hv, hshapes]

theorem emitted_turn {v : Vehicle} {shapes : Dict String Shape} (hv : f.get vid = some v)
    (hshapes : tables.shapes = some shapes) (d : Draws) (now dt : ℚ) :
    emitted cfg tables vid f (.turn vid d now dt) = (payloadsOf
      (TickLoop.stepAndBuild { cfg with tickInterval := dt } tables.stops shapes d now v)).map
        (Emission.mk now) := by
  simp only [emitted, hv, hshapes, if_true]

theorem turn_shadows (d : Draws) (now dt : ℚ) (h : Shadows kind n vid g f) :
    Shadows kind (n - (emitted cfg tables vid g (.turn vid d now dt)).toList.length) vid
        (turn cfg tables g d now dt vid) (turn cfg tables f d now dt vid) ∧
      emitted cfg tables vid f (.turn vid d now dt) =
        (emitted cfg tables vid g (.turn vid d now dt)).map (Emission.mark kind n) := by
  obtain ⟨v, hfree, hg, hf⟩ := h
  cases hshapes : tables.shapes with
  | none =>
    simp only [turn, emitted, hg, hf, hshapes, if_true]
    exact ⟨⟨v, hfree, hg, hf⟩, rfl⟩
  | some shapes =>
    obtain ⟨v', hfree', htwins⟩ : ∃ v', FaultFree v' ∧ Twins kind n v'
        (TickLoop.stepAndBuild { cfg with tickInterval := dt } tables.stops shapes d now v)
        (TickLoop.stepAndBuild { cfg with tickInterval := dt } tables.stops shapes d now
          (faulty kind n v)) := stepAndBuild_twins kind n hfree
    obtain ⟨hclean, hfaulted⟩ := vehicleOf_twins htwins
    rw [turn_eq hg hshapes, turn_eq hf hshapes, emitted_turn hg hshapes, emitted_turn hf hshapes,
      payloadsOf_twins htwins, hclean, hfaulted]
    refine ⟨⟨v', hfree', get_put_self g vid v', ?_⟩, ?_⟩
    · rw [get_put_self, Option.toList_map, List.length_map]
    · simp only [Option.map_map]
      rfl

theorem emitted_elsewhere (h : ev.vehicle ≠ some vid) : emitted cfg tables vid f ev = none := by
  cases ev with
  | turn w d now dt =>
    have hne : w ≠ vid := fun heq => h (congrArg some heq)
    simp [emitted, hne]
  | _ => rfl

/-- A call that injects no fault keeps the two together; it wears off a tick of the fault for
each pair it emits. -/
theorem step_shadows (hev : ¬ ev.Injects vid) (h : Shadows kind n vid g f) :
    ∃ g' f', step cfg tables g ev = some g' ∧ step cfg tables f ev = some f' ∧
      Shadows kind (n - (emitted cfg tables vid g ev).toList.length) vid g' f' ∧
      emitted cfg tables vid f ev = (emitted cfg tables vid g ev).map (Emission.mark kind n) := by
  have hsilent : ∀ {change : Vehicle → Vehicle}, Changes cfg tables ev vid change → Blind change →
      (∀ f, emitted cfg tables vid f ev = none) →
      ∃ g' f', step cfg tables g ev = some g' ∧ step cfg tables f ev = some f' ∧
        Shadows kind (n - (emitted cfg tables vid g ev).toList.length) vid g' f' ∧
        emitted cfg tables vid f ev = (emitted cfg tables vid g ev).map (Emission.mark kind n) := by
    intro change hchange hblind hnone
    obtain ⟨g', f', hg', hf', h'⟩ := shadows_of_blind hchange hblind h
    rw [hnone g, hnone f]
    exact ⟨g', f', hg', hf', h', rfl⟩
  by_cases hvid : ev.vehicle = some vid
  · cases ev with
    | turn w d now dt =>
      cases hvid
      exact ⟨_, _, rfl, rfl, turn_shadows d now dt h⟩
    | progress w payloads =>
      cases hvid
      exact hsilent (progress_changes payloads) (blind_progress payloads) fun _ => rfl
    | control now file d w knob payload =>
      cases hvid
      have hquiet : knob = "inject_fault" → ∀ kind n, ¬ Injection payload kind n :=
        fun hknob kind n hinjection => hev ⟨rfl, hknob, kind, n, hinjection⟩
      exact ⟨_, _, rfl, rfl, control_shadows hquiet h, rfl⟩
    | startRun now payload =>
      have hfield : Control.field payload "vehicle_id" = .str vid := by
        simp only [Event.vehicle] at hvid
        split at hvid
        · cases hvid
          assumption
        · cases hvid
      exact hsilent (startRun_changes hfield) (blind_setOff now) fun _ => rfl
    | autoStart now w =>
      cases hvid
      exact hsilent (mutate_changes fun _ => rfl) (blind_setOff now) fun _ => rfl
    | applyState now b st =>
      cases hvid
      exact hsilent (applyState_changes now b st) (blind_vehicleAfter now b st) fun _ => rfl
    | forceUnbind now b =>
      cases hvid
      exact hsilent (mutate_changes fun _ => rfl) (blind_released now) fun _ => rfl
  · have hkept : Changes cfg tables ev vid id := by
      intro f v hv
      obtain ⟨f', hf'⟩ := step_total cfg tables f ev
      exact ⟨f', hf', (step_elsewhere hf' hvid).trans hv⟩
    exact hsilent hkept ⟨fun _ _ _ _ => rfl, fun _ filled => filled⟩
      fun _ => emitted_elsewhere hvid

/-- The first `n` pairs with the fault, the others without it. -/
def markFirst (kind : FaultKind) (n : Nat) (es : List Emission) : List Emission :=
  (es.take n).map (Emission.corrupt kind) ++ es.drop n

theorem markFirst_cons (kind : FaultKind) (n : Nat) (e : Emission) (es : List Emission) :
    markFirst kind n (e :: es) =
      e.mark kind n :: markFirst kind (n - 1) es := by
  cases n with
  | zero => simp [markFirst, Emission.mark, marked]
  | succ n => simp [markFirst, Emission.mark, marked, Emission.corrupt]

theorem markFirst_toList (kind : FaultKind) (n : Nat) (o : Option Emission) (es : List Emission) :
    markFirst kind n (o.toList ++ es) =
      (o.map (Emission.mark kind n)).toList ++
        markFirst kind (n - o.toList.length) es := by
  cases o with
  | none => rfl
  | some e => exact markFirst_cons kind n e es

theorem run_shadows {es : List Event} (hes : ∀ ev ∈ es, ¬ ev.Injects vid)
    (h : Shadows kind n vid g f) :
    ∃ g' f', System.run (step cfg tables) g es = some g' ∧
      System.run (step cfg tables) f es = some f' ∧
      Shadows kind (n - (emissions cfg tables vid g es).length) vid g' f' ∧
      emissions cfg tables vid f es = markFirst kind n (emissions cfg tables vid g es) := by
  induction es generalizing g f n with
  | nil =>
    refine ⟨g, f, rfl, rfl, h, ?_⟩
    simp [emissions, markFirst]
  | cons ev es ih =>
    obtain ⟨hev, hes⟩ := List.forall_mem_cons.mp hes
    obtain ⟨g₁, f₁, hg₁, hf₁, h₁, hemitted⟩ := step_shadows hev h
    obtain ⟨g', f', hg', hf', h', hemissions⟩ := ih hes h₁
    refine ⟨g', f', run_cons_some.mpr ⟨g₁, hg₁, hg'⟩, run_cons_some.mpr ⟨f₁, hf₁, hf'⟩, ?_, ?_⟩
    · simp only [emissions, hg₁, List.length_append, Nat.sub_add_eq]
      exact h'
    · simp only [emissions, hg₁, hf₁]
      rw [hemissions, hemitted, markFirst_toList]

/-! ## Pairs without a fault -/

theorem buildVehiclePayloads_clean {geo : Geo} {d : Draws} {now : ℚ} {shape : Shape}
    {v v' : Vehicle} {p : Payloads} (hfree : FaultFree v)
    (h : buildVehiclePayloads geo d now v shape = .ok (v', some p)) :
    Emission.Clean geo ⟨now, p⟩ := by
  obtain ⟨kin, hkin, hnone⟩ := hfree
  rw [buildVehiclePayloads_eq hkin, (consumeFault_free hnone).1] at h
  split at h
  · cases h
  · split at h
    · cases h
    · rename_i place hplace
      cases h
      exact ⟨v, kin, shape, place, hkin, hplace, rfl⟩

theorem payloadsOf_some {r : Except (Raised Vehicle) (Vehicle × Option Payloads)} {p : Payloads}
    (h : payloadsOf r = some p) : ∃ v', r = .ok (v', some p) := by
  cases r with
  | error r => cases h
  | ok r =>
    obtain ⟨v', payloads⟩ := r
    cases h
    exact ⟨v', rfl⟩

theorem emitted_clean {v : Vehicle} (hfree : FaultFree v) (hv : f.get vid = some v) :
    ∀ e ∈ emitted cfg tables vid f ev, e.Clean cfg.geo := by
  intro e he
  by_cases hvid : ev.vehicle = some vid
  · cases ev with
    | turn w d now dt =>
      cases hvid
      cases hshapes : tables.shapes with
      | none => simp [emitted, hv, hshapes] at he
      | some shapes =>
        rw [emitted_turn hv hshapes] at he
        obtain ⟨p, hp, rfl⟩ := Option.mem_map.mp he
        obtain ⟨v', hbuilt⟩ := payloadsOf_some hp
        obtain ⟨shape, v₁, -, hstep, hbuild⟩ := TickLoop.stepAndBuild_eq_ok.mp hbuilt
        have hfree₁ : FaultFree (settle
            (stepVehicle cfg.geo cfg.postRunIdleS d v dt shape tables.stops)) :=
          stepVehicle_faultFree hfree
        have hsettled : settle
            (stepVehicle cfg.geo cfg.postRunIdleS d v dt shape tables.stops) = v₁ :=
          congrArg settle hstep
        rw [hsettled] at hfree₁
        exact buildVehiclePayloads_clean hfree₁ hbuild
    | _ => cases he
  · rw [emitted_elsewhere hvid] at he
    cases he

theorem step_faultFree (hev : ¬ ev.Injects vid) {v : Vehicle} (hfree : FaultFree v)
    (hv : f.get vid = some v) :
    ∃ f', step cfg tables f ev = some f' ∧ ∃ v', FaultFree v' ∧ f'.get vid = some v' := by
  -- a vehicle without a fault is its own shadow
  have hself : Shadows .malformed 0 vid f f := ⟨v, hfree, hv, hv⟩
  obtain ⟨f', -, hf', -, ⟨v', hfree', hv', -⟩, -⟩ := step_shadows hev hself
  exact ⟨f', hf', v', hfree', hv'⟩

theorem emissions_clean {es : List Event} (hes : ∀ ev ∈ es, ¬ ev.Injects vid) {v : Vehicle}
    (hfree : FaultFree v) (hv : f.get vid = some v) :
    ∀ e ∈ emissions cfg tables vid f es, e.Clean cfg.geo := by
  induction es generalizing f v with
  | nil =>
    intro e he
    cases he
  | cons ev es ih =>
    obtain ⟨hev, hes⟩ := List.forall_mem_cons.mp hes
    obtain ⟨f', hf', v', hfree', hv'⟩ : ∃ f', step cfg tables f ev = some f' ∧
        ∃ v', FaultFree v' ∧ f'.get vid = some v' := step_faultFree hev hfree hv
    intro e he
    simp only [emissions, hf', List.mem_append, Option.mem_toList] at he
    rcases he with he | he
    · exact emitted_clean hfree hv e he
    · exact ih hes hfree' hv' e he

end Steps

/-! ## The injection -/

section Injection

variable {cfg : TickSettings} {tables : GeometryTables} {vid : String} {kind : FaultKind} {n : Nat}
  {f : FleetState} {v : Vehicle} {payload : Control.Payload}

theorem cleared_free (d : Draws) (v : Vehicle) : FaultFree (cleared d v) := ⟨_, rfl, rfl⟩

theorem injected_eq_faulty (d : Draws) (kind : FaultKind) (hn : 0 < n) (v : Vehicle) :
    injected d kind n v = faulty kind n (cleared d v) := by
  cases n with
  | zero => omega
  | succ n => simp [injected, faulty, withFault, cleared, Kin.withFault]

/-- After the injection the vehicle is the cleared one with `n` ticks of the fault. -/
theorem inject_shadows (env : Control.Env) (hv : f.get vid = some v)
    (hinjection : Injection payload kind n) :
    Shadows kind n vid (f.put vid (cleared env.draws v))
      (Control.applyControl env f vid "inject_fault" payload) := by
  have haccepted : Control.Accepted env payload "inject_fault" v
      (injected env.draws kind n v) := accepted_inject.mpr ⟨kind, n, hinjection, rfl⟩
  refine ⟨cleared env.draws v, cleared_free env.draws v, get_put_self f vid _, ?_⟩
  rw [← injected_eq_faulty env.draws kind hinjection.1]
  rcases applied_vehicle (Control.applied env f vid "inject_fault" payload) hv with
    ⟨v', hv', hf⟩ | ⟨hrejected, -⟩
  · rw [hf, hv'.unique haccepted]
  · exact absurd haccepted (hrejected _)

/-- A fault of `n` ticks marks the next `n` pairs that are emitted and no other: the pairs are
those of the vehicle without the fault, which are clean, and the first `n` of them corrupted. -/
theorem fault_marks_next_pairs (hv : f.get vid = some v) (hinjection : Injection payload kind n)
    (now : ℚ) (file : Except PyExc ShapesFile) (d : Draws) {es : List Event}
    (hes : ∀ ev ∈ es, ¬ ev.Injects vid) :
    ∃ g' f' u,
      System.run (step cfg tables) (f.put vid (cleared d v)) es = some g' ∧
      System.run (step cfg tables) f (.control now file d vid "inject_fault" payload :: es) =
        some f' ∧
      g'.get vid = some u ∧ FaultFree u ∧
      f'.get vid = some (faulty kind
        (n - (emissions cfg tables vid (f.put vid (cleared d v)) es).length) u) ∧
      emissions cfg tables vid f (.control now file d vid "inject_fault" payload :: es) =
        markFirst kind n (emissions cfg tables vid (f.put vid (cleared d v)) es) ∧
      ∀ e ∈ emissions cfg tables vid (f.put vid (cleared d v)) es, e.Clean cfg.geo := by
  have hshadows : Shadows kind n vid (f.put vid (cleared d v))
      (Control.applyControl ⟨cfg.geo, now, file, d⟩ f vid "inject_fault" payload) :=
    inject_shadows ⟨cfg.geo, now, file, d⟩ hv hinjection
  obtain ⟨g', f', hg', hf', ⟨u, hfree, hu, hfaulty⟩, hemissions⟩ := run_shadows hes hshadows
  exact ⟨g', f', u, hg', run_cons_some.mpr ⟨_, rfl, hf'⟩, hu, hfree, hfaulty, hemissions,
    emissions_clean hes (cleared_free d v) (get_put_self f vid _)⟩

/-- A turn, a silent turn and another turn. -/
def turnsWithPause : List Event :=
  [.turn "unit-01" Runtime.steadyDraws 200 1,
    .control 201 Runtime.noFile Runtime.steadyDraws "unit-01" "transmit" [(.str "on", .bool false)],
    .turn "unit-01" Runtime.steadyDraws 201 1,
    .control 202 Runtime.noFile Runtime.steadyDraws "unit-01" "transmit" [(.str "on", .bool true)],
    .turn "unit-01" Runtime.steadyDraws 202 1]

theorem fault_marks_one :
    emissions Runtime.plainSettings.ticks shortTables "unit-01" (ofVehicles [standing])
        (.control 200 Runtime.noFile Runtime.steadyDraws "unit-01" "inject_fault"
          [(.str "kind", .str "stale_ts"), (.str "duration_ticks", .int 1)] :: turnsWithPause) =
      markFirst .staleTs 1 (emissions Runtime.plainSettings.ticks shortTables "unit-01"
        ((ofVehicles [standing]).put "unit-01" (cleared Runtime.steadyDraws standing))
        turnsWithPause) := by
  have hes : ∀ ev ∈ turnsWithPause, ¬ ev.Injects "unit-01" := by
    simp [turnsWithPause, Event.Injects]
  have hinjection : Injection [(.str "kind", .str "stale_ts"), (.str "duration_ticks", .int 1)]
      .staleTs 1 := ⟨by decide, "stale_ts", rfl, rfl, rfl⟩
  have hget : (ofVehicles [standing]).get "unit-01" = some standing := rfl
  obtain ⟨-, -, -, -, -, -, -, -, hemissions, -⟩ := fault_marks_next_pairs hget hinjection 200
    Runtime.noFile Runtime.steadyDraws hes
  exact hemissions

end Injection

end DatabusSim.Life
