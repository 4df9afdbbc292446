import DatabusSim.Runtime.VehicleLife

/-!
# The speed of a vehicle that dwells

A step that finds a dwell counts it down and leaves the vehicle where it is; the payloads of the
same tick read the counter again. In the last tick of a dwell the two differ: the step was held
back by the counter, the payloads find it at zero and publish the speed the vehicle came with.
-/

namespace DatabusSim.Life

open Transition Kinematics FleetState

/-! ## One held tick -/

/-- The `speed` of the position of a vehicle that moves or does not. -/
def publishedSpeed (moving : Bool) (kin : Kin) : Option ℚ :=
  if Kin.activeFault kin = some .malformed then none
  else some (if !moving ∨ 0 < kin.dwellRemaining then 0 else pyRound kin.speed 2)

/-- The scratch space a held step leaves. -/
def countedDown (kin : Kin) : Kin := { kin with dwellRemaining := kin.dwellRemaining - 1 }

/-- The position has a speed, and it is zero. -/
def TellsZero (p : Payloads) : Prop := p.position.speed = some 0

/-- No malformed fault takes the speed out of the payloads, and the held tick is not the last one
of its dwell or the vehicle has no speed to publish. -/
def PublishesZero (moving : Bool) (kin : Kin) : Prop :=
  Kin.activeFault kin ≠ some .malformed ∧
    (1 < kin.dwellRemaining ∨ moving = false ∨ pyRound kin.speed 2 = 0)

section Tick

variable {cfg : TickSettings} {stops : List Stop} {shapes : Dict String Shape} {geo : Geo}
  {d : Draws} {now : ℚ} {v v' : Vehicle} {kin : Kin} {shape : Shape} {p : Payloads}

/-- What a pair of payloads says of its vehicle, and what building it leaves. -/
theorem payloads_of_ok (h : buildVehiclePayloads geo d now v shape = .ok (v', some p)) :
    v.transmitting = true ∧ 2 ≤ shape.points.length ∧
      v' = { v with kin := some (Kin.consumeFault (initKin d v)) } ∧
      p.position.speed = publishedSpeed v.moving (initKin d v) := by
  unfold buildVehiclePayloads at h
  cases htransmitting : v.transmitting with
  | false =>
    rw [htransmitting] at h
    cases h
  | true =>
    simp only [htransmitting, Bool.not_true, Bool.false_eq_true, if_false] at h
    cases hplace : interpolate geo shape v.progressM with
    | error e =>
      rw [hplace] at h
      cases h
    | ok place =>
      rw [hplace] at h
      cases h
      exact ⟨rfl, interpolate_ok_iff.mp ⟨place, hplace⟩, rfl, rfl⟩

/-- A transmitting vehicle on a shape of two points or more has payloads. -/
theorem payloads_of_transmitting (geo : Geo) (d : Draws) (now : ℚ)
    (htransmitting : v.transmitting = true) (hlen : 2 ≤ shape.points.length) :
    ∃ v' p, buildVehiclePayloads geo d now v shape = .ok (v', some p) := by
  obtain ⟨place, hplace⟩ : ∃ r, interpolate geo shape v.progressM = .ok r :=
    interpolate_ok_iff.mpr hlen
  unfold buildVehiclePayloads
  simp only [htransmitting, hplace, Bool.not_true, Bool.false_eq_true, if_false]
  exact ⟨_, _, rfl⟩

/-- A held step counts down and does nothing else. -/
theorem stepAndBuild_held (hshape : getShape v shapes = .ok shape) (hkin : v.kin = some kin)
    (hdwell : 0 < kin.dwellRemaining) :
    TickLoop.stepAndBuild cfg stops shapes d now v =
      buildVehiclePayloads cfg.geo d now { v with kin := some (countedDown kin) } shape := by
  have hinit : initKin d v = kin := by rw [initKin, hkin]; rfl
  unfold TickLoop.stepAndBuild
  simp only [hshape]
  unfold stepVehicle
  simp only [hinit, if_pos hdwell]
  rfl

theorem publishedSpeed_zero_iff {moving : Bool} :
    publishedSpeed moving (countedDown kin) = some 0 ↔ PublishesZero moving kin := by
  have hfault : Kin.activeFault (countedDown kin) = Kin.activeFault kin := rfl
  have hcount : 0 < (countedDown kin).dwellRemaining ↔ 1 < kin.dwellRemaining := Int.sub_pos
  have hspeed : (countedDown kin).speed = kin.speed := rfl
  unfold publishedSpeed PublishesZero
  rw [hfault, hspeed]
  simp only [hcount]
  by_cases hmalformed : Kin.activeFault kin = some .malformed
  · simp [hmalformed]
  · rw [if_neg hmalformed, Option.some_inj, ite_eq_left_iff]
    cases moving <;> by_cases hmore : 1 < kin.dwellRemaining <;> simp [hmore, hmalformed]

/-- The tick of a held vehicle: its place stays, and when its payloads tell a zero speed. -/
theorem held_tick (hshape : getShape v shapes = .ok shape) (hkin : v.kin = some kin)
    (hdwell : 0 < kin.dwellRemaining)
    (h : TickLoop.stepAndBuild cfg stops shapes d now v = .ok (v', some p)) :
    v.transmitting = true ∧ 2 ≤ shape.points.length ∧
      v' = { v with kin := some (Kin.consumeFault (countedDown kin)) } ∧
      p.position.odometer = pyRound v.progressM 1 ∧
      (TellsZero p ↔ PublishesZero v.moving kin) := by
  rw [stepAndBuild_held hshape hkin hdwell] at h
  obtain ⟨htransmitting, hlen, hv', hspeed⟩ := payloads_of_ok h
  refine ⟨htransmitting, hlen, hv', (buildVehiclePayloads_numbers h).1, ?_⟩
  unfold TellsZero
  rw [hspeed]
  exact publishedSpeed_zero_iff

theorem held_tick_exists (hshape : getShape v shapes = .ok shape) (hkin : v.kin = some kin)
    (hdwell : 0 < kin.dwellRemaining) (htransmitting : v.transmitting = true)
    (hlen : 2 ≤ shape.points.length) :
    ∃ v' p, TickLoop.stepAndBuild cfg stops shapes d now v = .ok (v', some p) := by
  rw [stepAndBuild_held hshape hkin hdwell]
  exact payloads_of_transmitting cfg.geo d now htransmitting hlen

end Tick

/-! ## All ticks of a dwell -/

/-- What a tick is given: the draws, the clock and its length. -/
structure Tick where
  d : Draws
  now : ℚ
  dt : ℚ

/-- The payloads a tick returned, if it did and has any. -/
def payloadsOf (r : Except (Raised Vehicle) (Vehicle × Option Payloads)) : Option Payloads :=
  r.toOption.bind Prod.snd

/-- The payloads of a vehicle, tick after tick. -/
def payloadsOver (cfg : TickSettings) (stops : List Stop) (shapes : Dict String Shape) :
    Vehicle → List Tick → List (Option Payloads)
  | _, [] => []
  | v, t :: ticks =>
      let r := TickLoop.stepAndBuild { cfg with tickInterval := t.dt } stops shapes t.d t.now v
      payloadsOf r :: payloadsOver cfg stops shapes (vehicleOf r) ticks

/-- The payloads are there, and say that the vehicle stands at `progressM`. -/
def StandsStill (progressM : ℚ) (payloads : Option Payloads) : Prop :=
  ∃ p, payloads = some p ∧ TellsZero p ∧ p.position.odometer = pyRound progressM 1

section Dwell

variable {cfg : TickSettings} {stops : List Stop} {shapes : Dict String Shape} {v : Vehicle}
  {kin : Kin} {shape : Shape}

theorem consumeFault_dwell (kin : Kin) :
    (Kin.consumeFault kin).dwellRemaining = kin.dwellRemaining := by
  unfold Kin.consumeFault
  split <;> rfl

theorem consumeFault_speed (kin : Kin) : (Kin.consumeFault kin).speed = kin.speed := by
  unfold Kin.consumeFault
  split <;> rfl

/-- A held tick brings no malformed fault, and ends none. -/
theorem malformed_next (hactive : Kin.activeFault kin ≠ some .malformed) :
    Kin.activeFault (Kin.consumeFault (countedDown kin)) ≠ some .malformed := by
  have hcounted : Kin.activeFault (countedDown kin) = Kin.activeFault kin := rfl
  unfold Kin.consumeFault
  rw [hcounted]
  cases hkind : Kin.activeFault kin with
  | none =>
    dsimp only
    rw [hcounted, hkind]
    simp
  | some kind =>
    rw [hkind] at hactive
    have hfault : kin.fault = some kind := by
      unfold Kin.activeFault at hkind
      split at hkind
      · exact hkind
      · cases hkind
    unfold Kin.activeFault countedDown
    by_cases hover : kin.faultTicks - 1 ≤ 0
    · simp [hover]
    · have hkept : kind ≠ .malformed := fun heq => hactive (by rw [heq])
      simp [hover, hfault, hkept]

/-- Every tick of the dwell tells a zero speed if and only if the last one does. -/
theorem dwell_payloads_iff (hshape : getShape v shapes = .ok shape) (hkin : v.kin = some kin)
    (htransmitting : v.transmitting = true) (hlen : 2 ≤ shape.points.length) {ticks : List Tick}
    (hticks : (ticks.length : Int) = kin.dwellRemaining) (hne : ticks ≠ []) :
    (∀ p ∈ payloadsOver cfg stops shapes v ticks, StandsStill v.progressM p) ↔
      Kin.activeFault kin ≠ some .malformed ∧ (v.moving = false ∨ pyRound kin.speed 2 = 0) := by
  induction ticks generalizing v kin with
  | nil => exact absurd rfl hne
  | cons t rest ih =>
    have hcount : kin.dwellRemaining = rest.length + 1 := by
      rw [← hticks, List.length_cons]
      omega
    have hdwell : 0 < kin.dwellRemaining := by omega
    obtain ⟨v', p, hbuilt⟩ : ∃ v' p, TickLoop.stepAndBuild { cfg with tickInterval := t.dt } stops
        shapes t.d t.now v = .ok (v', some p) :=
      held_tick_exists hshape hkin hdwell htransmitting hlen
    obtain ⟨-, -, rfl, hodometer, hspeed⟩ := held_tick hshape hkin hdwell hbuilt
    have hfirst : StandsStill v.progressM (some p) ↔ PublishesZero v.moving kin := by
      rw [← hspeed]
      constructor
      · rintro ⟨q, hq, hzero, -⟩
        cases hq
        exact hzero
      · exact fun hzero => ⟨p, rfl, hzero, hodometer⟩
    unfold payloadsOver
    simp only [hbuilt, List.forall_mem_cons]
    show StandsStill v.progressM (some p) ∧ (∀ q ∈ payloadsOver cfg stops shapes
      { v with kin := some (Kin.consumeFault (countedDown kin)) } rest,
        StandsStill v.progressM q) ↔ _
    rw [hfirst]
    cases rest with
    | nil =>
      have hlast : kin.dwellRemaining = 1 := hcount
      simp [payloadsOver, PublishesZero, hlast]
    | cons t' rest =>
      have hmore : 1 < kin.dwellRemaining := by
        rw [hcount, List.length_cons]
        omega
      have hleft : ((t' :: rest).length : Int) =
          (Kin.consumeFault (countedDown kin)).dwellRemaining := by
        rw [consumeFault_dwell]
        show _ = kin.dwellRemaining - 1
        omega
      have hsame : (Kin.consumeFault (countedDown kin)).speed = kin.speed :=
        consumeFault_speed (countedDown kin)
      have hrest := ih (v := { v with kin := some (Kin.consumeFault (countedDown kin)) })
        hshape rfl htransmitting hleft (List.cons_ne_nil t' rest)
      rw [hsame] at hrest
      rw [hrest]
      constructor
      · rintro ⟨⟨hactive, -⟩, -, hstill⟩
        exact ⟨hactive, hstill⟩
      · rintro ⟨hactive, hstill⟩
        exact ⟨⟨hactive, .inl hmore⟩, malformed_next hactive, hstill⟩

end Dwell

/-! ## Dwells along a life -/

/-- The turn of a vehicle that dwells: its payloads tell a zero speed and the place it keeps. -/
def ZeroWhileHeld (cfg : TickSettings) (tables : GeometryTables) (f : FleetState) (ev : Event)
    (_ : FleetState) : Prop :=
  ∀ vid d now dt v kin shapes v' p, ev = .turn vid d now dt → f.get vid = some v →
    v.kin = some kin → 0 < kin.dwellRemaining → tables.shapes = some shapes →
    TickLoop.stepAndBuild { cfg with tickInterval := dt } tables.stops shapes d now v =
        .ok (v', some p) →
      TellsZero p ∧ p.position.odometer = pyRound v.progressM 1 ∧ v'.progressM = v.progressM

/-- No malformed fault of a transmitting vehicle that dwells is active when its turn comes, and it is
in no last tick of its dwell or has no speed to publish. -/
def HeldStopped (tables : GeometryTables) (f : FleetState) (ev : Event) : Prop :=
  ∀ vid d now dt v kin shape, ev = .turn vid d now dt → f.get vid = some v →
    v.kin = some kin → 0 < kin.dwellRemaining → v.transmitting = true → OnShape tables v shape →
      2 ≤ shape.points.length → PublishesZero v.moving kin

section Life

variable {cfg : TickSettings} {tables : GeometryTables} {f f' : FleetState} {ev : Event}

theorem zeroWhileHeld_iff :
    ZeroWhileHeld cfg tables f ev f' ↔ HeldStopped tables f ev := by
  constructor
  · intro h vid d now dt v kin shape hev hv hkin hdwell htransmitting hshape hlen
    obtain ⟨shapes, hshapes, hshape⟩ := hshape
    obtain ⟨v', p, hbuilt⟩ : ∃ v' p, TickLoop.stepAndBuild { cfg with tickInterval := dt }
        tables.stops shapes d now v = .ok (v', some p) :=
      held_tick_exists hshape hkin hdwell htransmitting hlen
    obtain ⟨-, -, -, -, hspeed⟩ := held_tick hshape hkin hdwell hbuilt
    exact hspeed.mp (h vid d now dt v kin shapes v' p hev hv hkin hdwell hshapes hbuilt).1
  · intro h vid d now dt v kin shapes v' p hev hv hkin hdwell hshapes hbuilt
    obtain ⟨shape, -, hshape, -⟩ := TickLoop.stepAndBuild_eq_ok.mp hbuilt
    obtain ⟨htransmitting, hlen, rfl, hodometer, hspeed⟩ := held_tick hshape hkin hdwell hbuilt
    have hzero := h vid d now dt v kin shape hev hv hkin hdwell htransmitting
      ⟨shapes, hshapes, hshape⟩ hlen
    exact ⟨hspeed.mpr hzero, hodometer, rfl⟩

/-- Along a life every held vehicle tells a zero speed if and only if no transmitting one ends a
dwell with a speed to publish or dwells under a malformed fault; and the ticks of a whole dwell all
do if and only if there is neither such a speed nor such a fault. -/
theorem held_speed_iff (cfg : TickSettings) (tables : GeometryTables) :
    (∀ f es, System.Always (step cfg tables) (ZeroWhileHeld cfg tables) f es ↔
      System.Always (step cfg tables) (fun f ev _ => HeldStopped tables f ev) f es) ∧
    ∀ (shapes : Dict String Shape) v kin shape (ticks : List Tick),
      getShape v shapes = .ok shape → 2 ≤ shape.points.length → v.transmitting = true →
      v.kin = some kin → (ticks.length : Int) = kin.dwellRemaining → ticks ≠ [] →
      ((∀ p ∈ payloadsOver cfg tables.stops shapes v ticks, StandsStill v.progressM p) ↔
        Kin.activeFault kin ≠ some .malformed ∧
          (v.moving = false ∨ pyRound kin.speed 2 = 0)) := by
  constructor
  · intro f es
    exact always_iff (I := fun _ => True) (fun _ _ _ _ _ => zeroWhileHeld_iff)
      (fun _ _ _ _ _ _ => trivial) trivial es
  · intro shapes v kin shape ticks hshape hlen htransmitting hkin hticks hne
    exact dwell_payloads_iff hshape hkin htransmitting hlen hticks hne

/-- A vehicle that stands and has two ticks to dwell. -/
def standing : Vehicle where
  vehicleId := "unit-01"
  routeId := "r1"
  defaultShapeId := "hacia_artes"
  transmitting := true
  kin := some { speed := 6, occupancyPct := 45, dwellRemaining := 2 }

theorem held_speed_standing :
    ∀ p ∈ payloadsOver Runtime.plainSettings.ticks []
      (Dict.ofList [("hacia_artes", ⟨"hacia_artes", [⟨0, 0, 0⟩, ⟨0, 1, 1 / 100⟩]⟩)]) standing
      [⟨Runtime.steadyDraws, 0, 1⟩, ⟨Runtime.steadyDraws, 1, 1⟩], StandsStill 0 p :=
  ((held_speed_iff Runtime.plainSettings.ticks shortTables).2 _ standing _ _ _ rfl (by decide) rfl
    rfl rfl (List.cons_ne_nil _ _)).mpr ⟨by decide, .inl rfl⟩

/-- A vehicle that transmits and moves is made to dwell for a tick. -/
def heldForATick : List Event :=
  [.control 0 Runtime.noFile Runtime.steadyDraws "unit-01" "transmit" [(.str "on", .bool true)],
    .control 0 Runtime.noFile Runtime.steadyDraws "unit-01" "moving" [(.str "on", .bool true)],
    .control 0 Runtime.noFile Runtime.steadyDraws "unit-01" "dwell" [(.str "ticks", .int 1)]]

/-- In this tick it publishes the speed it has on the road. -/
theorem held_at_speed :
    ¬System.Always (step Runtime.plainSettings.ticks shortTables)
      (ZeroWhileHeld Runtime.plainSettings.ticks shortTables)
      (Runtime.startFleet fun _ => Runtime.steadyDraws)
      (heldForATick ++ [.turn "unit-01" Runtime.steadyDraws 0 1]) := by
  intro h
  have hrun : ((System.run (step Runtime.plainSettings.ticks shortTables)
      (Runtime.startFleet fun _ => Runtime.steadyDraws) heldForATick).bind fun f =>
        (step Runtime.plainSettings.ticks shortTables f
          (.turn "unit-01" Runtime.steadyDraws 0 1)).map fun _ =>
            (f.get "unit-01").bind fun v => v.kin.map fun kin =>
              (v.transmitting && v.moving, shapeIdOf v, kin.dwellRemaining,
                pyRound kin.speed 2)) =
      some (some (true, "hacia_artes", 1, 6)) := by
    decide +kernel
  obtain ⟨f, f', hf, hf', hview⟩ := last_step hrun
  obtain ⟨v, hv, hview⟩ := Option.bind_eq_some_iff.mp hview
  obtain ⟨kin, hkin, hview⟩ := Option.map_eq_some_iff.mp hview
  simp only [Prod.mk.injEq, Bool.and_eq_true] at hview
  obtain ⟨⟨htransmitting, hmoving⟩, hid, hdwell, hspeed⟩ := hview
  have hshape : OnShape shortTables v ⟨"hacia_artes", [⟨0, 0, 0⟩, ⟨0, 1, 1 / 100⟩]⟩ := by
    refine ⟨_, rfl, ?_⟩
    rw [TickLoop.getShape_ok_iff, hid]
    rfl
  have hzero := zeroWhileHeld_iff.mp (always_last h hf hf') "unit-01" _ _ _ v kin _ rfl hv hkin
    (by omega) htransmitting hshape (by decide)
  rcases hzero.2 with hmore | hstill | hslow
  · omega
  · rw [hmoving] at hstill
    cases hstill
  · rw [hspeed] at hslow
    norm_num at hslow

end Life

end DatabusSim.Life
