import DatabusSim.Domain.Interpolation
import DatabusSim.Domain.StopReports
import DatabusSim.Runtime.HeldSpeed

/-!
# The dwell and the oracle

`step_vehicle` stops at the nearest stop in any direction, the progression oracle reports the
first stop the vehicle has not passed. They speak of the same stop where the two coincide and the
published position has not been rounded out of the stop's radius; a step that has taken the
vehicle past its stop leaves it dwelling at one and in transit to another.
-/

namespace DatabusSim.Life

open Transition Kinematics FleetState Compute

/-! ## A vehicle on its own -/

/-- The payload of the last progression. -/
def lastReport (v : Vehicle) : Option StopStatus := v.kin.bind (·.progressionPrev)

/-- The stops of the shape a vehicle is on. -/
def stopsOf (tables : GeometryTables) (v : Vehicle) : List ShapeStop :=
  tables.progressionGeom.getD (shapeIdOf v) []

/-- What the oracle is given of a vehicle with these payloads. -/
def observed (v : Vehicle) (p : Payloads) : Observation :=
  ⟨v.progressM, p.position.latitude, p.position.longitude, p.position.speed⟩

/-- The ticks of a vehicle that nothing but the tick loop writes: its turn, and the progression
where the turn has payloads. -/
def ride (cfg : TickSettings) (tables : GeometryTables) : System Vehicle (Draws × ℚ) :=
  fun v t =>
    match tables.shapes with
    | none => none
    | some shapes =>
        match TickLoop.stepAndBuild cfg tables.stops shapes t.1 t.2 v with
        | .error _ => none
        | .ok (v', none) => some v'
        | .ok (v', some p) => some (storeProgression (TickLoop.progressionOf cfg tables v' p) v')

section Ride

variable {cfg : TickSettings} {tables : GeometryTables} {shapes : Dict String Shape}
  {v v₁ v' : Vehicle} {t : Draws × ℚ} {p : Payloads}

theorem progressionOf_eq : TickLoop.progressionOf cfg tables v p =
    statusAt cfg.geo (stopsOf tables v) (lastReport v) (observed v p) := rfl

/-- A tick of a ride is the turn of the vehicle in its fleet, and the progression. -/
theorem ride_life {f : FleetState} {vid : String} (hv : f.get vid = some v)
    (h : ride cfg tables v t = some v') :
    ∃ (es : List Event) (f' : FleetState), (∀ ev ∈ es, ev.vehicle = some vid) ∧
      System.run (step cfg tables) f es = some f' ∧ f'.get vid = some v' := by
  unfold ride at h
  cases hshapes : tables.shapes with
  | none =>
    rw [hshapes] at h
    cases h
  | some shapes =>
    simp only [hshapes] at h
    have hturn : turn cfg tables f t.1 t.2 cfg.tickInterval vid =
        f.put vid (vehicleOf (TickLoop.stepAndBuild cfg tables.stops shapes t.1 t.2 v)) := by
      simp only [turn, hv, hshapes]
    cases hbuilt : TickLoop.stepAndBuild cfg tables.stops shapes t.1 t.2 v with
    | error r =>
      rw [hbuilt] at h
      cases h
    | ok r =>
      obtain ⟨v₁, _ | p⟩ := r
      · rw [hbuilt] at h hturn
        cases h
        refine ⟨[.turn vid t.1 t.2 cfg.tickInterval], f.put vid v', ?_, ?_, ?_⟩
        · simp [Event.vehicle]
        · exact congrArg some hturn
        · exact get_put_self f vid v'
      · rw [hbuilt] at h hturn
        cases h
        refine ⟨[.turn vid t.1 t.2 cfg.tickInterval, .progress vid p],
          progress cfg tables (f.put vid v₁) vid p, ?_, ?_, ?_⟩
        · simp [Event.vehicle]
        · show some (progress cfg tables (turn cfg tables f t.1 t.2 cfg.tickInterval vid) vid p) = _
          rw [hturn]
          rfl
        · simp only [progress, get_put_self]

/-! ## What is kept under way -/

/-- What a turn leaves of its vehicle: the shape, the last payload of the oracle and, as long as
the vehicle moves, no less progress. -/
structure Onward (v v' : Vehicle) : Prop where
  free : v'.speedOverride = v.speedOverride
  shape : shapeIdOf v' = shapeIdOf v
  report : lastReport v' = lastReport v
  moving : v'.moving = true → v.moving = true ∧ v.progressM ≤ v'.progressM

theorem initKin_report (d : Draws) (v : Vehicle) :
    (initKin d v).progressionPrev = lastReport v := by
  rw [initKin_entry Kin.progressionPrev d v rfl]
  unfold lastReport
  cases v.kin <;> rfl

theorem stepped_onward {d : Draws} {dt postRunIdleS : ℚ} {shape : Shape} (hdt : 0 ≤ dt)
    (hfree : v.speedOverride = none) (h : Stepped postRunIdleS d v dt shape v') :
    Onward v v' := by
  have hreport := initKin_report d v
  cases h with
  | dwelled => exact ⟨rfl, rfl, hreport, fun hm => ⟨hm, le_rfl⟩⟩
  | counted => exact ⟨rfl, rfl, hreport, fun hm => ⟨hm, le_rfl⟩⟩
  | stood => exact ⟨rfl, rfl, hreport, fun hm => ⟨hm, le_rfl⟩⟩
  | arrived => exact ⟨rfl, rfl, hreport, fun hm => nomatch hm⟩
  | advanced kin _ _ hadvanced =>
    refine ⟨rfl, rfl, hadvanced.prev.trans hreport, fun hm => ⟨hm, ?_⟩⟩
    have hspeed : 0 ≤ kin.speed := by
      have hlow : (0 : ℚ) ≤ minSpeed := by norm_num [minSpeed]
      rw [hadvanced.speed]
      exact hlow.trans (minSpeed_le_nextSpeed hfree _)
    exact le_add_of_nonneg_right (mul_nonneg hspeed hdt)

theorem reported_onward {d : Draws} (h : Reported d v v') : Onward v v' := by
  rcases h with rfl | ⟨kin, hkin, rfl⟩
  · exact ⟨rfl, rfl, rfl, fun hm => ⟨hm, le_rfl⟩⟩
  · refine ⟨rfl, rfl, ?_, fun hm => ⟨hm, le_rfl⟩⟩
    rw [← initKin_report d v]
    show kin.progressionPrev = _
    rw [hkin]

theorem built_reported {d : Draws} {now : ℚ} {shape : Shape} {r : Option Payloads}
    (h : buildVehiclePayloads cfg.geo d now v shape = .ok (v', r)) : Reported d v v' := by
  have hreported : Reported d v (vehicleOf (buildVehiclePayloads cfg.geo d now v shape)) :=
    buildVehiclePayloads_reported
  rwa [h] at hreported

theorem Onward.trans {v₂ : Vehicle} (h : Onward v v₁) (h' : Onward v₁ v₂) : Onward v v₂ where
  free := h'.free.trans h.free
  shape := h'.shape.trans h.shape
  report := h'.report.trans h.report
  moving hm := by
    obtain ⟨hm₁, hle'⟩ := h'.moving hm
    obtain ⟨hm₀, hle⟩ := h.moving hm₁
    exact ⟨hm₀, hle.trans hle'⟩

theorem stepAndBuild_onward {r : Option Payloads} (hdt : 0 ≤ cfg.tickInterval)
    (hfree : v.speedOverride = none)
    (h : TickLoop.stepAndBuild cfg tables.stops shapes t.1 t.2 v = .ok (v₁, r)) : Onward v v₁ := by
  obtain ⟨shape, u, -, hu, hbuild⟩ := TickLoop.stepAndBuild_eq_ok.mp h
  exact (stepped_onward hdt hfree (stepped_of_ok hu)).trans
    (reported_onward (built_reported hbuild))

/-- A turn fills the scratch space. -/
theorem built_kin {r : Option Payloads}
    (h : TickLoop.stepAndBuild cfg tables.stops shapes t.1 t.2 v = .ok (v₁, r)) :
    ∃ kin, v₁.kin = some kin := by
  obtain ⟨shape, u, -, hu, hbuild⟩ := TickLoop.stepAndBuild_eq_ok.mp h
  rcases built_reported hbuild with rfl | ⟨kin, -, rfl⟩
  · exact (stepped_of_ok hu).kin
  · exact ⟨kin, rfl⟩

/-- A vehicle on its way along stops in sequence order: its last payload is the report of a trace
of ticks, none of which was further on than it is. -/
structure Riding (cfg : TickSettings) (tables : GeometryTables) (v : Vehicle) : Prop where
  free : v.speedOverride = none
  ordered : (stopsOf tables v).Pairwise (·.stopSequence < ·.stopSequence)
  reports : ∃ past, lastReport v = report cfg.geo (stopsOf tables v) past ∧
    (v.moving = true → ∀ o ∈ past, o.progressM ≤ v.progressM)

theorem Riding.onward (h : Riding cfg tables v) (ho : Onward v v₁) : Riding cfg tables v₁ := by
  obtain ⟨past, hpast, hbehind⟩ := h.reports
  have hstops : stopsOf tables v₁ = stopsOf tables v := by
    unfold stopsOf
    rw [ho.shape]
  refine ⟨ho.free.trans h.free, by rw [hstops]; exact h.ordered, past, ?_, fun hm o hmem => ?_⟩
  · rw [ho.report, hstops]
    exact hpast
  · obtain ⟨hm₀, hle⟩ := ho.moving hm
    exact (hbehind hm₀ o hmem).trans hle

/-- The progression is added to the trace. -/
theorem Riding.progressed (h : Riding cfg tables v) (hkin : ∃ kin, v.kin = some kin)
    (p : Payloads) :
    Riding cfg tables (storeProgression (TickLoop.progressionOf cfg tables v p) v) := by
  obtain ⟨past, hpast, hbehind⟩ := h.reports
  obtain ⟨kin, hkin⟩ := hkin
  refine ⟨h.free, h.ordered, past ++ [observed v p], ?_, fun hm o hmem => ?_⟩
  · have hlast : lastReport (storeProgression (TickLoop.progressionOf cfg tables v p) v) =
        some (TickLoop.progressionOf cfg tables v p) := by
      simp only [lastReport, storeProgression, hkin]
      rfl
    rw [hlast, report_append, progressionOf_eq, hpast]
    rfl
  · rcases List.mem_append.mp hmem with hmem | hmem
    · exact hbehind hm o hmem
    · rw [List.mem_singleton.mp hmem]
      exact le_rfl

/-- A tick takes a ride further. -/
theorem riding_step (hdt : 0 ≤ cfg.tickInterval) (h : Riding cfg tables v)
    (hs : ride cfg tables v t = some v') : Riding cfg tables v' := by
  unfold ride at hs
  cases hshapes : tables.shapes with
  | none =>
    rw [hshapes] at hs
    cases hs
  | some shapes =>
    simp only [hshapes] at hs
    cases hbuilt : TickLoop.stepAndBuild cfg tables.stops shapes t.1 t.2 v with
    | error r =>
      rw [hbuilt] at hs
      cases hs
    | ok r =>
      obtain ⟨v₁, payloads⟩ := r
      have hriding : Riding cfg tables v₁ := h.onward (stepAndBuild_onward hdt h.free hbuilt)
      rw [hbuilt] at hs
      cases payloads with
      | none =>
        cases hs
        exact hriding
      | some p =>
        cases hs
        exact hriding.progressed (built_kin hbuilt) p

/-! ## The start of a dwell -/

/-- The step from `v` to `v₁` starts a dwell at the stop. -/
def StartsDwell (v v₁ : Vehicle) (stopId : String) : Prop :=
  dwellOf v ≤ 0 ∧ 0 < dwellOf v₁ ∧ ∃ kin, v₁.kin = some kin ∧ kin.lastStopId = .str stopId

/-- A rule about the ticks that start a dwell: the vehicle they leave, its payloads and the
stop. -/
def OnDwellStart (cfg : TickSettings) (tables : GeometryTables)
    (rule : Vehicle → Payloads → String → Prop) (v : Vehicle) (t : Draws × ℚ) (_ : Vehicle) :
    Prop :=
  ∀ shapes v₁ p stopId, tables.shapes = some shapes →
    TickLoop.stepAndBuild cfg tables.stops shapes t.1 t.2 v = .ok (v₁, some p) →
    StartsDwell v v₁ stopId → rule v₁ p stopId

/-- The oracle of this tick has the vehicle stopped at the stop. -/
def ReportsStop (cfg : TickSettings) (tables : GeometryTables) (v : Vehicle) (p : Payloads)
    (stopId : String) : Prop :=
  (TickLoop.progressionOf cfg tables v p).currentStatus = .stoppedAt ∧
    (TickLoop.progressionOf cfg tables v p).stopId = some stopId

/-- The stop a payload names with this upcoming stop, after the last payload. -/
def namedStop (candidate : ShapeStop) (prev : Option StopStatus) : String :=
  if (heldSequence candidate prev).isSome then heldStop candidate prev else candidate.stopId

/-- The upcoming stop is within the radius of the published position. -/
def NearUpcoming (cfg : TickSettings) (tables : GeometryTables) (v : Vehicle) (p : Payloads)
    (candidate : ShapeStop) : Prop :=
  pickUpcomingStop (stopsOf tables v) v.progressM = some candidate ∧
    cfg.geo.haversineM p.position.latitude p.position.longitude candidate.lat candidate.lon ≤
      Compute.stopRadiusM

/-- A tick that starts a dwell publishes no speed but zero, so the oracle goes by the place. -/
theorem dwelling_standsAt {o : Observation} {candidate : ShapeStop} {geo : Geo}
    (hspeed : ∀ s, o.speed = some s → s = 0) :
    StandsAt geo o candidate ↔
      geo.haversineM o.lat o.lon candidate.lat candidate.lon ≤ Compute.stopRadiusM := by
  refine and_iff_left fun s hs => ?_
  rw [hspeed s hs]
  norm_num [stationarySpeedMps]

theorem statusAt_stops_iff {geo : Geo} {stops : List ShapeStop} {prev : Option StopStatus}
    {o : Observation} (hspeed : ∀ s, o.speed = some s → s = 0) (stopId : String) :
    (statusAt geo stops prev o).currentStatus = .stoppedAt ∧
        (statusAt geo stops prev o).stopId = some stopId ↔
      ∃ candidate, (pickUpcomingStop stops o.progressM = some candidate ∧
        geo.haversineM o.lat o.lon candidate.lat candidate.lon ≤ Compute.stopRadiusM) ∧
          namedStop candidate prev = stopId := by
  cases hpick : pickUpcomingStop stops o.progressM with
  | none =>
    rw [statusAt_nowhere geo prev hpick]
    refine iff_of_false ?_ ?_
    · rintro ⟨h, -⟩
      cases h
    · rintro ⟨c, ⟨h, -⟩, -⟩
      cases h
  | some candidate =>
    rw [statusAt_stoppedAt_iff geo prev hpick, statusAt_stopId geo prev hpick,
      dwelling_standsAt hspeed, Option.some_inj]
    constructor
    · rintro ⟨hnear, hname⟩
      exact ⟨candidate, ⟨rfl, hnear⟩, hname⟩
    · rintro ⟨c, ⟨hc, hnear⟩, hname⟩
      cases hc
      exact ⟨hnear, hname⟩

/-- A vehicle left dwelling has published no speed but zero. -/
theorem dwell_speed (h : TickLoop.stepAndBuild cfg tables.stops shapes t.1 t.2 v =
    .ok (v₁, some p)) (hdwell : 0 < dwellOf v₁) : ∀ s, p.position.speed = some s → s = 0 := by
  obtain ⟨shape, u, -, -, hbuild⟩ := TickLoop.stepAndBuild_eq_ok.mp h
  obtain ⟨-, -, rfl, hspeed⟩ := payloads_of_ok hbuild
  have hcount : 0 < (initKin t.1 u).dwellRemaining := by
    rw [← consumeFault_dwell]
    exact hdwell
  intro s hs
  rw [hspeed, publishedSpeed] at hs
  split at hs
  · cases hs
  · rw [if_pos (.inr hcount)] at hs
    exact (Option.some.inj hs).symm

/-- Only a vehicle that goes on starts a dwell. -/
theorem StartsDwell.moving {stopId : String} (hstarts : StartsDwell v v₁ stopId)
    (h : TickLoop.stepAndBuild cfg tables.stops shapes t.1 t.2 v = .ok (v₁, some p)) :
    v₁.moving = true := by
  obtain ⟨hfree, hdwell, -⟩ := hstarts
  obtain ⟨shape, u, -, hu, hbuild⟩ := TickLoop.stepAndBuild_eq_ok.mp h
  obtain ⟨-, -, rfl, -⟩ := payloads_of_ok hbuild
  have hcount : 0 < dwellOf u := by
    rw [← initKin_dwell t.1 u, ← consumeFault_dwell]
    exact hdwell
  rw [← initKin_dwell t.1 v] at hfree
  cases stepped_of_ok hu with
  | dwelled hdwells => omega
  | counted hnone => exact absurd hcount (not_lt.mpr hnone)
  | stood hnone => exact absurd hcount (not_lt.mpr hnone)
  | arrived _ hnone => exact absurd hcount (not_lt.mpr hnone)
  | advanced _ _ hmoving => exact hmoving

/-- Where a step starts a dwell, the oracle has the vehicle stopped at the stop if and only if the
upcoming stop is near and the payload names this one. -/
theorem reportsStop_iff (h : TickLoop.stepAndBuild cfg tables.stops shapes t.1 t.2 v =
    .ok (v₁, some p)) {stopId : String} (hstarts : StartsDwell v v₁ stopId) :
    ReportsStop cfg tables v₁ p stopId ↔
      ∃ candidate, NearUpcoming cfg tables v₁ p candidate ∧
        namedStop candidate (lastReport v₁) = stopId :=
  statusAt_stops_iff (o := observed v₁ p) (dwell_speed h hstarts.2.1) stopId

/-- On a list in sequence order the payload of a ride names the upcoming stop. -/
theorem Riding.namedStop (h : Riding cfg tables v) (hmoving : v.moving = true)
    {candidate : ShapeStop}
    (hpick : pickUpcomingStop (stopsOf tables v) v.progressM = some candidate) :
    namedStop candidate (lastReport v) = candidate.stopId := by
  obtain ⟨past, hpast, hbehind⟩ := h.reports
  have hne : stopsOf tables v ≠ [] := by
    intro hnil
    rw [hnil] at hpick
    cases hpick
  have hsame : statusAt cfg.geo (stopsOf tables v) (lastReport v) ⟨v.progressM, 0, 0, none⟩ =
      statusAt cfg.geo (stopsOf tables v) none ⟨v.progressM, 0, 0, none⟩ := by
    rw [hpast]
    exact report_unguarded cfg.geo hne h.ordered (hbehind hmoving)
  have hpick : pickUpcomingStop (stopsOf tables v)
      (⟨v.progressM, 0, 0, none⟩ : Observation).progressM = some candidate := hpick
  have hstop := congrArg StopStatus.stopId hsame
  rw [statusAt_stopId cfg.geo (lastReport v) hpick, statusAt_stopId cfg.geo none hpick] at hstop
  exact Option.some.inj hstop

/-- In every tick that starts a dwell the oracle has the vehicle stopped at the dwell's stop if
and only if the upcoming stop is within the radius of the published position and the payload names
the dwell's stop; on a ride along stops in sequence order, if and only if the dwell's stop is the
upcoming one, within the radius. -/
theorem dwell_reports (cfg : TickSettings) (tables : GeometryTables) :
    (∀ v ticks, System.Always (ride cfg tables) (OnDwellStart cfg tables fun v₁ p stopId =>
      (ReportsStop cfg tables v₁ p stopId ↔ ∃ candidate, NearUpcoming cfg tables v₁ p candidate ∧
        namedStop candidate (lastReport v₁) = stopId)) v ticks) ∧
    ∀ v ticks, 0 ≤ cfg.tickInterval → v.speedOverride = none → lastReport v = none →
      (stopsOf tables v).Pairwise (·.stopSequence < ·.stopSequence) →
      System.Always (ride cfg tables) (OnDwellStart cfg tables fun v₁ p stopId =>
        (ReportsStop cfg tables v₁ p stopId ↔ ∃ candidate,
          NearUpcoming cfg tables v₁ p candidate ∧ candidate.stopId = stopId)) v ticks := by
  constructor
  · intro v ticks
    apply always_of_step (I := fun _ => True) _ trivial
    intro v t v' _ _
    exact ⟨trivial, fun shapes v₁ p stopId _ hbuilt hstarts => reportsStop_iff hbuilt hstarts⟩
  · intro v ticks hdt hfree hnew hseq
    have hstart : Riding cfg tables v := ⟨hfree, hseq, [], hnew, fun _ => nofun⟩
    apply always_of_step _ hstart
    intro v t v' hriding hs
    refine ⟨riding_step hdt hriding hs, fun shapes v₁ p stopId _ hbuilt hstarts => ?_⟩
    have hriding₁ : Riding cfg tables v₁ :=
      hriding.onward (stepAndBuild_onward hdt hriding.free hbuilt)
    apply (reportsStop_iff hbuilt hstarts).trans
    refine exists_congr fun candidate => and_congr_right fun hnear => ?_
    rw [hriding₁.namedStop (hstarts.moving hbuilt) hnear.1]

end Ride

/-! ## Past the first stop -/

/-- A route to the north with stops at 0, 30 and 60 metres. -/
def northboundTables : GeometryTables where
  shapes := some (Dict.ofList [("northbound", northboundShape)])
  stops := [⟨"s1", "first", 9.935, -84.053⟩, ⟨"s2", "second", 9.935 + 30 / 111195, -84.053⟩,
    ⟨"s3", "third", 9.935 + 60 / 111195, -84.053⟩]
  progressionGeom := Dict.ofList [("northbound", northboundStops)]

def meridianSettings : TickSettings where
  geo := meridianGeo
  tickInterval := 1

/-- A vehicle at its first stop, set moving. -/
def settingOff : Vehicle where
  vehicleId := "unit-01"
  routeId := "r1"
  defaultShapeId := "northbound"
  transmitting := true
  moving := true

theorem dwell_reports_northbound : System.Always (ride meridianSettings northboundTables)
    (OnDwellStart meridianSettings northboundTables fun v₁ p stopId =>
      (ReportsStop meridianSettings northboundTables v₁ p stopId ↔ ∃ candidate,
        NearUpcoming meridianSettings northboundTables v₁ p candidate ∧
          candidate.stopId = stopId))
    settingOff (List.replicate 20 (Runtime.steadyDraws, 0)) :=
  (dwell_reports meridianSettings northboundTables).2 settingOff _ (by decide +kernel) rfl rfl
    (by decide +kernel)

/-- The first tick takes it six metres on: it dwells at the stop it has left, and the oracle has it
coming in to the next. -/
theorem dwell_behind : ¬System.Always (ride meridianSettings northboundTables)
    (OnDwellStart meridianSettings northboundTables fun v₁ p stopId =>
      stopId ∈ (stopsOf northboundTables v₁).map (·.stopId) →
        ReportsStop meridianSettings northboundTables v₁ p stopId)
    settingOff [(Runtime.steadyDraws, 0)] := by
  intro h
  have htick : ((TickLoop.stepAndBuild meridianSettings northboundTables.stops
      (Dict.ofList [("northbound", northboundShape)]) Runtime.steadyDraws 0
        settingOff).toOption.bind fun r => r.2.bind fun p => r.1.kin.map fun kin =>
          (dwellOf r.1, kin.lastStopId.isStr "s1", shapeIdOf r.1,
            (TickLoop.progressionOf meridianSettings northboundTables r.1 p).currentStatus)) =
      some (3, true, "northbound", .incomingAt) := by
    decide +kernel
  obtain ⟨⟨v₁, payloads⟩, hbuilt, hview⟩ := Option.bind_eq_some_iff.mp htick
  obtain ⟨p, hp, hview⟩ := Option.bind_eq_some_iff.mp hview
  obtain ⟨kin, hkin, hview⟩ := Option.map_eq_some_iff.mp hview
  simp only [Prod.mk.injEq] at hp hkin hview
  obtain ⟨hdwell, hlast, hid, hstatus⟩ := hview
  have hstarts : StartsDwell settingOff v₁ "s1" := by
    refine ⟨le_rfl, by omega, kin, hkin, PyVal.isStr_iff.mp hlast⟩
  have hbelongs : "s1" ∈ (stopsOf northboundTables v₁).map (·.stopId) := by
    unfold stopsOf
    rw [hid]
    decide
  rw [toOption_eq_some] at hbuilt
  subst hp
  obtain ⟨v', hv'⟩ : ∃ v', ride meridianSettings northboundTables settingOff
      (Runtime.steadyDraws, 0) = some v' := by
    unfold ride
    simp only [northboundTables] at hbuilt ⊢
    rw [hbuilt]
    exact ⟨_, rfl⟩
  obtain ⟨hstopped, -⟩ := (h v' hv').1 _ v₁ p "s1" rfl hbuilt hstarts hbelongs
  rw [hstatus] at hstopped
  cases hstopped

end DatabusSim.Life
