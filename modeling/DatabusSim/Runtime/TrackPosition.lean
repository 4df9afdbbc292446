import Mathlib.Data.List.Pairwise
import DatabusSim.Runtime.VehicleLife

/-!
# The place of a vehicle on its shape

Five operations write the progress of a vehicle: a step, a binding, a release,
`jump_to_terminal` and `set_progress`. On shapes whose distances do not decrease from 0
they keep it between 0 and the length of the shape, and a step never takes it back, as
long as no vehicle advances under a negative speed override. The speed knob accepts one.
-/

namespace DatabusSim

open Kinematics

/-- The distances of the shape do not decrease, from 0. -/
structure Shape.Measured (shape : Shape) : Prop where
  first : shape.points.head?.map ShapePoint.distKm = some 0
  sorted : shape.points.Pairwise fun p q => p.distKm ≤ q.distKm

/-- The points of a measured shape lie between its ends. -/
theorem Shape.Measured.total {shape : Shape} (h : shape.Measured) :
    ∃ total, totalDistM shape = .ok total ∧ 0 ≤ total ∧
      ∀ p ∈ shape.points, 0 ≤ p.distKm * 1000 ∧ p.distKm * 1000 ≤ total := by
  obtain ⟨hfirst, hsorted⟩ := h
  cases hpoints : shape.points with
  | nil => simp [hpoints] at hfirst
  | cons p rest =>
    rw [hpoints] at hfirst hsorted
    have hzero : p.distKm = 0 := by simpa using hfirst
    have hbelow : ∀ q ∈ p :: rest, 0 ≤ q.distKm := by
      intro q hq
      have := hsorted.rel_head_of_rel_head_head hq (le_refl _)
      simpa [hzero] using this
    have habove : ∀ q ∈ p :: rest,
        q.distKm ≤ ((p :: rest).getLast (List.cons_ne_nil p rest)).distKm :=
      fun q hq => hsorted.rel_getLast_of_rel_getLast_getLast hq (le_refl _)
    have hlast : totalDistM shape =
        .ok (((p :: rest).getLast (List.cons_ne_nil p rest)).distKm * 1000) := by
      simp only [totalDistM, lastPoint, hpoints,
        List.getLast?_eq_getLast_of_ne_nil (List.cons_ne_nil p rest)]
      rfl
    refine ⟨_, hlast, ?_, ?_⟩
    · have := hbelow _ (List.getLast_mem (List.cons_ne_nil p rest))
      positivity
    · intro q hq
      have h0 := hbelow q hq
      have h1 := habove q hq
      exact ⟨by positivity, by linarith⟩

namespace Control

/-- `set_progress` puts a vehicle on a point of its shape, or at 0. -/
theorem nearestProgressM_mem (geo : Geo) (points : List ShapePoint) (stop : Stop) :
    nearestProgressM geo points stop = 0 ∨
      ∃ p ∈ points, nearestProgressM geo points stop = p.distKm * 1000 := by
  have hread : ∀ best : Option (ℚ × ℚ), (∀ b, best = some b → ∃ p ∈ points, b.2 = p.distKm * 1000) →
      best.elim 0 Prod.snd = 0 ∨ ∃ p ∈ points, best.elim 0 Prod.snd = p.distKm * 1000 := by
    intro best h
    cases best with
    | none => exact .inl rfl
    | some b => exact .inr (h b rfl)
  unfold nearestProgressM
  refine hread _ (List.foldlRecOn (motive := fun best : Option (ℚ × ℚ) =>
    ∀ b, best = some b → ∃ p ∈ points, b.2 = p.distKm * 1000) points _ (fun _ h => nomatch h) ?_)
  intro best hbest p hp b hb
  simp only at hb
  split at hb
  · split at hb
    · cases hb
      exact ⟨p, hp, rfl⟩
    · exact hbest b hb
  · cases hb
    exact ⟨p, hp, rfl⟩

end Control

namespace Life

open Transition FleetState

/-- The vehicle is between the ends of its shape, where that is loaded, and has no negative
speed. -/
structure OnTrack (tables : GeometryTables) (v : Vehicle) : Prop where
  place : ∀ shape, OnShape tables v shape →
    ∃ total, totalDistM shape = .ok total ∧ 0 ≤ v.progressM ∧ v.progressM ≤ total
  speed : ∀ kin, v.kin = some kin → 0 ≤ kin.speed

/-- The numbers of a payload pair, for a shape of length `total`. -/
structure InRange (total : ℚ) (p : Payloads) : Prop where
  speed : ∀ s, p.position.speed = some s → 0 ≤ s
  odometer : 0 ≤ p.position.odometer ∧ p.position.odometer ≤ pyRound total 1

/-- What is asked of a call: every vehicle is on its shape after it; a step takes no vehicle
back, and the payloads built after it are in range. -/
structure KeepsTrack (cfg : TickSettings) (tables : GeometryTables) (f : FleetState) (ev : Event)
    (f' : FleetState) : Prop where
  place : ∀ vid v shape, f'.get vid = some v → OnShape tables v shape →
    ∃ total, totalDistM shape = .ok total ∧ 0 ≤ v.progressM ∧ v.progressM ≤ total
  forward : ∀ vid d now dt v v' shape, ev = .turn vid d now dt → f.get vid = some v →
    OnShape tables v shape → f'.get vid = some v' → v.progressM ≤ v'.progressM
  payloads : ∀ vid d now dt v shapes shape total v' p, ev = .turn vid d now dt →
    f.get vid = some v → tables.shapes = some shapes → getShape v shapes = .ok shape →
    totalDistM shape = .ok total →
    TickLoop.stepAndBuild { cfg with tickInterval := dt } tables.stops shapes d now v =
      .ok (v', some p) → InRange total p

/-- No turn advances a vehicle under a negative speed override. -/
def AdvancesForward (tables : GeometryTables) (f : FleetState) (ev : Event) (_ : FleetState) :
    Prop :=
  ∀ vid d now dt v shape s, ev = .turn vid d now dt → f.get vid = some v →
    OnShape tables v shape → (initKin d v).dwellRemaining ≤ 0 → v.moving = true →
    v.speedOverride = some s → 0 ≤ s

/-- A step takes time, and the controls read the shapes that are loaded. -/
def Event.Regular (tables : GeometryTables) : Event → Prop
  | .turn _ _ _ dt => 0 < dt
  | .control _ file _ _ _ _ => ∀ sf, file = .ok sf → tables.shapes = some sf.shapes
  | _ => True

section Step

variable {cfg : TickSettings} {tables : GeometryTables} {f f' : FleetState} {ev : Event}
  {v v' : Vehicle} {d : Draws} {now dt : ℚ} {shape : Shape} {total : ℚ}

theorem initKin_speed (h : ∀ kin, v.kin = some kin → 0 ≤ kin.speed) : 0 ≤ (initKin d v).speed := by
  unfold initKin
  cases hkin : v.kin with
  | none => exact le_trans (by norm_num) d.initSpeed_mem.1
  | some kin => exact h kin hkin

theorem nextSpeed_nonneg {kin : Kin} (h : ∀ s, v.speedOverride = some s → 0 ≤ s) :
    0 ≤ nextSpeed d v kin := by
  unfold nextSpeed
  cases hs : v.speedOverride with
  | none => exact le_max_of_le_left (by norm_num [minSpeed])
  | some s => exact h s hs

/-- A step under no negative override goes forward, and stays on the shape. -/
theorem stepped_forward {postRunIdleS : ℚ} (hstep : Stepped postRunIdleS d v dt shape v')
    (htotal : totalDistM shape = .ok total) (hplace : 0 ≤ v.progressM ∧ v.progressM ≤ total)
    (hspeed : ∀ kin, v.kin = some kin → 0 ≤ kin.speed) (hdt : 0 < dt)
    (hforward : (initKin d v).dwellRemaining ≤ 0 → v.moving = true →
      ∀ s, v.speedOverride = some s → 0 ≤ s) :
    v.progressM ≤ v'.progressM ∧ v'.progressM ≤ total ∧
      ∀ kin, v'.kin = some kin → 0 ≤ kin.speed := by
  have hinit : 0 ≤ (initKin d v).speed := initKin_speed hspeed
  cases hstep with
  | dwelled => exact ⟨le_refl _, hplace.2, fun kin hk => by cases hk; exact hinit⟩
  | counted => exact ⟨le_refl _, hplace.2, fun kin hk => by cases hk; exact hinit⟩
  | stood => exact ⟨le_refl _, hplace.2, fun kin hk => by cases hk; exact hinit⟩
  | arrived total' hdwell hmoving htotal' hend =>
    rw [htotal] at htotal'
    cases htotal'
    have hnext : 0 ≤ nextSpeed d v (initKin d v) := nextSpeed_nonneg (hforward hdwell hmoving)
    exact ⟨hplace.2, le_refl _, fun kin hk => by cases hk; exact hnext⟩
  | advanced kin hdwell hmoving ha =>
    have hnext : 0 ≤ kin.speed := by
      rw [ha.speed]
      exact nextSpeed_nonneg (hforward hdwell hmoving)
    have hway : 0 ≤ kin.speed * dt := mul_nonneg hnext hdt.le
    refine ⟨by simpa using hway, (ha.short total htotal).le, fun kin' hk => ?_⟩
    cases hk
    exact hnext

/-- A vehicle that advances under a negative override goes back. -/
theorem stepped_backward {postRunIdleS s : ℚ} (hstep : Stepped postRunIdleS d v dt shape v')
    (htotal : totalDistM shape = .ok total) (hplace : v.progressM ≤ total) (hdt : 0 < dt)
    (hdwell : (initKin d v).dwellRemaining ≤ 0) (hmoving : v.moving = true)
    (hs : v.speedOverride = some s) (hneg : s < 0) : v'.progressM < v.progressM := by
  have hnext : nextSpeed d v (initKin d v) = s := by simp [nextSpeed, hs]
  have hway : s * dt < 0 := mul_neg_of_neg_of_pos hneg hdt
  cases hstep with
  | dwelled hd => exact absurd hd (not_lt.mpr hdwell)
  | counted _ hm => simp [hmoving] at hm
  | stood _ hm => simp [hmoving] at hm
  | arrived total' _ _ htotal' hend =>
    rw [htotal] at htotal'
    cases htotal'
    rw [hnext] at hend
    exfalso
    linarith
  | advanced kin _ _ ha =>
    show v.progressM + kin.speed * dt < v.progressM
    rw [ha.speed, hnext]
    linarith

end Step

/-! ## Every call keeps the vehicles on their shapes -/

section Written

variable {cfg : TickSettings} {tables : GeometryTables} {f f' : FleetState} {ev : Event}
  {v v' : Vehicle}

/-- Every shape that is loaded is measured. -/
def MeasuredTables (tables : GeometryTables) : Prop :=
  ∀ shapes, tables.shapes = some shapes → ∀ shapeId shape, shapes.get? shapeId = some shape →
    shape.Measured

theorem onShape_measured {shape : Shape} (hm : MeasuredTables tables)
    (h : OnShape tables v shape) : shape.Measured := by
  obtain ⟨shapes, hshapes, hget⟩ := h
  exact hm shapes hshapes _ shape (TickLoop.getShape_ok_iff.mp hget)

theorem onShape_unique {shape shape' : Shape} (h : OnShape tables v shape)
    (h' : OnShape tables v' shape') (hid : shapeIdOf v' = shapeIdOf v) : shape' = shape := by
  obtain ⟨shapes, hshapes, hget⟩ := h
  obtain ⟨shapes', hshapes', hget'⟩ := h'
  rw [hshapes] at hshapes'
  cases hshapes'
  rw [TickLoop.getShape_ok_iff] at hget hget'
  rw [hid, hget] at hget'
  exact (Option.some.inj hget').symm

/-- A vehicle that is put back to the start. -/
theorem onTrack_zero (hm : MeasuredTables tables) (hzero : v.progressM = 0)
    (hspeed : ∀ kin, v.kin = some kin → 0 ≤ kin.speed) : OnTrack tables v := by
  refine ⟨fun shape hshape => ?_, hspeed⟩
  obtain ⟨total, htotal, hpos, -⟩ := (onShape_measured hm hshape).total
  exact ⟨total, htotal, by rw [hzero], by rw [hzero]; exact hpos⟩

/-- A vehicle that stays where it is, on its shape. -/
theorem onTrack_same (h : OnTrack tables v) (hid : shapeIdOf v' = shapeIdOf v)
    (hplace : v'.progressM = v.progressM) (hspeed : ∀ kin, v'.kin = some kin → 0 ≤ kin.speed) :
    OnTrack tables v' := by
  refine ⟨fun shape hshape => ?_, hspeed⟩
  rw [hplace]
  obtain ⟨shapes, hshapes, hget⟩ := hshape
  refine h.place shape ⟨shapes, hshapes, ?_⟩
  rw [TickLoop.getShape_ok_iff] at hget ⊢
  rw [← hid, hget]

theorem speed_map {kin : Option Kin} {g : Kin → Kin} (hg : ∀ k, (g k).speed = k.speed)
    (h : ∀ k, kin = some k → 0 ≤ k.speed) : ∀ k, kin.map g = some k → 0 ≤ k.speed := by
  intro k hk
  obtain ⟨k₀, hk₀, rfl⟩ := Option.map_eq_some_iff.mp hk
  rw [hg]
  exact h k₀ hk₀

theorem controlled_onTrack {now : ℚ} {file : Except PyExc ShapesFile} {d : Draws}
    (hm : MeasuredTables tables) (hfile : ∀ sf, file = .ok sf → tables.shapes = some sf.shapes)
    (h : OnTrack tables v) (hc : Control.Controlled ⟨cfg.geo, now, file, d⟩ v v') :
    OnTrack tables v' := by
  -- a place the handler has found on the shape of the vehicle
  have hput : ∀ (sf : ShapesFile) (shape : Shape), file = .ok sf →
      getShape v sf.shapes = .ok shape → shapeIdOf v' = shapeIdOf v → v'.kin = v.kin →
      (∀ total, totalDistM shape = .ok total → 0 ≤ v'.progressM ∧ v'.progressM ≤ total) →
      OnTrack tables v' := by
    intro sf shape hsf hget hid hkin hplace
    have hshape : OnShape tables v shape := ⟨sf.shapes, hfile sf hsf, hget⟩
    refine ⟨fun shape' hshape' => ?_, fun kin hk => h.speed kin (hkin ▸ hk)⟩
    rw [onShape_unique hshape hshape' hid]
    obtain ⟨total, htotal, -⟩ := (onShape_measured hm hshape).total
    exact ⟨total, htotal, hplace total htotal⟩
  cases hc with
  | dwell stopId ticks => exact onTrack_same h rfl rfl (speed_map (fun _ => rfl) h.speed)
  | jumpToTerminal sf shape total hsf hget htotal =>
    refine hput sf shape hsf hget rfl rfl fun total' htotal' => ?_
    rw [htotal] at htotal'
    cases htotal'
    obtain ⟨total', htotal', hpos, -⟩ :=
      (onShape_measured (v := v) hm ⟨sf.shapes, hfile sf hsf, hget⟩).total
    rw [htotal] at htotal'
    cases htotal'
    exact ⟨le_max_left _ _, max_le hpos (by linarith)⟩
  | setProgress sf shape stop hsf hget =>
    refine hput sf shape hsf hget rfl rfl fun total htotal => ?_
    obtain ⟨total', htotal', hpos, hpoints⟩ :=
      (onShape_measured (v := v) hm ⟨sf.shapes, hfile sf hsf, hget⟩).total
    rw [htotal] at htotal'
    cases htotal'
    rcases Control.nearestProgressM_mem cfg.geo shape.points stop with hzero | ⟨p, hp, hpoint⟩
    · simp only [hzero]
      exact ⟨le_refl 0, hpos⟩
    · simp only [hpoint]
      exact hpoints p hp
  | injectFault kind ticks =>
    refine onTrack_same h rfl rfl fun kin hk => ?_
    cases hk
    exact initKin_speed (d := d) h.speed
  | _ => exact onTrack_same h rfl rfl h.speed

/-- A turn that takes its vehicle forward keeps it on its shape. -/
theorem turned_onTrack {d : Draws} {dt postRunIdleS : ℚ} {shape : Shape} {v₁ : Vehicle}
    (h : OnTrack tables v) (hshape : OnShape tables v shape) (hdt : 0 < dt)
    (hforward : (initKin d v).dwellRemaining ≤ 0 → v.moving = true →
      ∀ s, v.speedOverride = some s → 0 ≤ s)
    (hstep : Stepped postRunIdleS d v dt shape v₁) (hreport : Reported d v₁ v') :
    OnTrack tables v' ∧ v.progressM ≤ v'.progressM := by
  obtain ⟨total, htotal, hplace⟩ := h.place shape hshape
  obtain ⟨hway, hend, hspeed⟩ := stepped_forward hstep htotal hplace h.speed hdt hforward
  have hid : shapeIdOf v₁ = shapeIdOf v := by cases hstep <;> rfl
  have h₁ : OnTrack tables v₁ := by
    refine ⟨fun shape' hshape' => ?_, hspeed⟩
    rw [onShape_unique hshape hshape' hid]
    exact ⟨total, htotal, hplace.1.trans hway, hend⟩
  rcases hreport with rfl | ⟨kin, hkin, rfl⟩
  · exact ⟨h₁, hway⟩
  · refine ⟨onTrack_same h₁ rfl rfl fun kin' hk => ?_, hway⟩
    cases hk
    have hinit : 0 ≤ (initKin d v₁).speed := initKin_speed h₁.speed
    rw [hkin]
    exact hinit

theorem written_onTrack (hm : MeasuredTables tables) (hr : ev.Regular tables)
    (h : OnTrack tables v) (hw : Written cfg tables v ev v')
    (hforward : ∀ vid d now dt shape s, ev = .turn vid d now dt → OnShape tables v shape →
      (initKin d v).dwellRemaining ≤ 0 → v.moving = true → v.speedOverride = some s → 0 ≤ s) :
    OnTrack tables v' := by
  cases hw with
  | unplaced => exact h
  | turned vid d now dt shape v₁ _ hshape hstep hreport =>
    exact (turned_onTrack h hshape hr
      (fun hdwell hmoving s hs => hforward _ d now dt shape s rfl hshape hdwell hmoving hs)
      hstep hreport).1
  | progressed => exact onTrack_same h rfl rfl (speed_map (fun _ => rfl) h.speed)
  | controlled now file d vid knob payload _ hc => exact controlled_onTrack hm hr h hc
  | started => exact onTrack_same h rfl rfl h.speed
  | autoStarted => exact onTrack_same h rfl rfl h.speed
  | applied now b st =>
    by_cases hc : st = .confirmed
    · subst hc
      exact onTrack_zero hm rfl h.speed
    · cases hterminal : st.isTerminal with
      | true =>
        rw [RunBinder.vehicleAfter_terminal hterminal]
        exact onTrack_zero hm rfl h.speed
      | false =>
        rw [RunBinder.vehicleAfter_observed hterminal hc]
        exact onTrack_same h rfl rfl h.speed
  | unbound => exact onTrack_zero hm rfl h.speed

theorem onTrack_step (hm : MeasuredTables tables) (hr : ev.Regular tables)
    (h : ∀ vid v, f.get vid = some v → OnTrack tables v)
    (hs : step cfg tables f ev = some f') (hforward : AdvancesForward tables f ev f') :
    ∀ vid v, f'.get vid = some v → OnTrack tables v := by
  intro vid v' hv'
  obtain ⟨v, hv, ⟨-, rfl⟩ | ⟨hvid, hw⟩⟩ := step_vehicle hs hv'
  · exact h vid v' hv
  · refine written_onTrack hm hr (h vid v hv) hw ?_
    intro u d now dt shape s hev hshape hdwell hmoving hover
    subst hev
    cases hvid
    exact hforward _ d now dt v shape s rfl hv hshape hdwell hmoving hover

variable (cfg) in
theorem stepAndBuild_inRange {d : Draws} {now : ℚ} {stops : List Stop}
    {shapes : Dict String Shape} {shape : Shape} {total : ℚ} {p : Payloads}
    (hshapes : tables.shapes = some shapes) (hget : getShape v shapes = .ok shape)
    (htotal : totalDistM shape = .ok total)
    (hon : ∀ v₁, Stepped cfg.postRunIdleS d v cfg.tickInterval shape v₁ → OnTrack tables v₁)
    (h : TickLoop.stepAndBuild cfg stops shapes d now v = .ok (v', some p)) : InRange total p := by
  obtain ⟨shape', v₁, hget', hv₁, hbuild⟩ := TickLoop.stepAndBuild_eq_ok.mp h
  rw [hget] at hget'
  cases hget'
  have hstep : Stepped cfg.postRunIdleS d v cfg.tickInterval shape v₁ := stepped_of_ok hv₁
  have h₁ := hon v₁ hstep
  have hid : shapeIdOf v₁ = shapeIdOf v := by cases hstep <;> rfl
  have hshape : OnShape tables v₁ shape := by
    refine ⟨shapes, hshapes, ?_⟩
    rw [TickLoop.getShape_ok_iff] at hget ⊢
    rw [hid, hget]
  obtain ⟨total', htotal', hpos, hend⟩ := h₁.place shape hshape
  rw [htotal] at htotal'
  cases htotal'
  obtain ⟨hodometer, hspeed⟩ := buildVehiclePayloads_numbers hbuild
  refine ⟨fun s hs => ?_, ?_⟩
  · rcases hspeed s hs with rfl | rfl
    · exact le_refl 0
    · exact pyRound_nonneg (initKin_speed h₁.speed) 2
  · rw [hodometer]
    exact ⟨pyRound_nonneg hpos 1, pyRound_mono hend 1⟩

/-- A call keeps the vehicles on their shapes exactly when it advances them forward. -/
theorem keepsTrack_iff (hm : MeasuredTables tables) (hr : ev.Regular tables)
    (h : ∀ vid v, f.get vid = some v → OnTrack tables v)
    (hs : step cfg tables f ev = some f') :
    KeepsTrack cfg tables f ev f' ↔ AdvancesForward tables f ev f' := by
  constructor
  · intro hkeeps vid d now dt v shape s hev hv hshape hdwell hmoving hover
    subst hev
    by_contra hneg
    obtain ⟨shapes, hshapes, hget⟩ := hshape
    obtain ⟨v', hv'⟩ : ∃ v', f'.get vid = some v' := by
      cases hs
      simp only [turn, hv, hshapes]
      exact ⟨_, get_put_self f vid _⟩
    have hway := hkeeps.forward vid d now dt v v' shape rfl hv ⟨shapes, hshapes, hget⟩ hv'
    obtain ⟨u, hu, ⟨hno, -⟩ | ⟨-, hw⟩⟩ := step_vehicle hs hv'
    · exact hno rfl
    · rw [hv] at hu
      cases hu
      cases hw with
      | unplaced _ _ _ _ hno => exact hno shape ⟨shapes, hshapes, hget⟩
      | turned _ _ _ _ shape' v₁ _ hshape' hstep hreport =>
        rw [onShape_unique ⟨shapes, hshapes, hget⟩ hshape' rfl] at hstep
        obtain ⟨total, htotal, -, hend⟩ := (h vid v hv).place shape ⟨shapes, hshapes, hget⟩
        have hback := stepped_backward hstep htotal hend hr hdwell hmoving hover (not_le.mp hneg)
        have hsame : v'.progressM = v₁.progressM := by rcases hreport with rfl | ⟨_, -, rfl⟩ <;> rfl
        linarith
  · intro hforward
    have hon := onTrack_step hm hr h hs hforward
    refine ⟨fun vid v shape hv hshape => (hon vid v hv).place shape hshape, ?_, ?_⟩
    · intro vid d now dt v v' shape hev hv hshape hv'
      subst hev
      obtain ⟨u, hu, ⟨hno, -⟩ | ⟨-, hw⟩⟩ := step_vehicle hs hv'
      · exact absurd rfl hno
      · rw [hv] at hu
        cases hu
        cases hw with
        | unplaced => exact le_refl _
        | turned _ _ _ _ shape' v₁ _ hshape' hstep hreport =>
          exact (turned_onTrack (h vid v hv) hshape' hr
            (fun hdwell hmoving s hover =>
              hforward vid d now dt v shape' s rfl hv hshape' hdwell hmoving hover)
            hstep hreport).2
    · intro vid d now dt v shapes shape total v' p hev hv hshapes hget htotal hbuild
      subst hev
      refine stepAndBuild_inRange { cfg with tickInterval := dt } hshapes hget htotal
        (fun v₁ hstep => ?_) hbuild
      have hshape : OnShape tables v shape := ⟨shapes, hshapes, hget⟩
      exact (turned_onTrack (h vid v hv) hshape hr
        (fun hdwell hmoving s hover =>
          hforward vid d now dt v shape s rfl hv hshape hdwell hmoving hover)
        hstep (.inl rfl)).1

end Written

/-! ## Whole lives -/

theorem onTrack_start {tables : GeometryTables} {draws : String → Draws}
    (hm : MeasuredTables tables) :
    ∀ vid v, (Runtime.startFleet draws).get vid = some v → OnTrack tables v := by
  intro vid v hv
  obtain ⟨_, _, vehicleId, rfl⟩ := Runtime.startFleet_get hv
  refine onTrack_zero hm rfl fun kin hk => ?_
  cases hk
  exact le_trans (by norm_num) (draws vehicleId).initSpeed_mem.1

/-- Over measured shapes, in every life whose steps take time, the vehicles stay on their shapes,
no step takes one back and every payload is in range if and only if no vehicle advances under
a negative speed override. -/
theorem track_iff (cfg : TickSettings) (tables : GeometryTables) (draws : String → Draws)
    (es : List Event) (hm : MeasuredTables tables) (hr : ∀ ev ∈ es, ev.Regular tables) :
    System.Always (step cfg tables) (KeepsTrack cfg tables) (Runtime.startFleet draws) es ↔
      System.Always (step cfg tables) (AdvancesForward tables) (Runtime.startFleet draws) es := by
  refine always_iff_on (A := Event.Regular tables)
    (I := fun f => ∀ vid v, f.get vid = some v → OnTrack tables v) ?_ ?_ (onTrack_start hm) hr
  · exact fun _ _ _ hr h hs => keepsTrack_iff hm hr h hs
  · exact fun _ _ _ hr h hs hforward => onTrack_step hm hr h hs hforward

/-! ## A negative speed -/

theorem shortTables_measured : MeasuredTables shortTables := by
  intro shapes hshapes shapeId shape hget
  cases hshapes
  have hmem := Dict.mem_of_get?_ofList hget
  simp only [List.mem_singleton, Prod.mk.injEq] at hmem
  obtain ⟨-, rfl⟩ := hmem
  exact ⟨rfl, by norm_num⟩

/-- The speed knob takes a negative number, and the vehicle sets off. -/
def setOffBackwards : List Event :=
  [.control 0 Runtime.noFile Runtime.steadyDraws "unit-01" "speed" [(.str "value", .int (-5))],
    .control 0 Runtime.noFile Runtime.steadyDraws "unit-01" "moving" [(.str "on", .bool true)]]

theorem setOffBackwards_regular :
    ∀ ev ∈ setOffBackwards ++ [.turn "unit-01" Runtime.steadyDraws 0 1],
      ev.Regular shortTables := by
  simp [setOffBackwards, Event.Regular, Runtime.noFile]

theorem track_iff_setOffBackwards :
    System.Always (step Runtime.plainSettings.ticks shortTables)
        (KeepsTrack Runtime.plainSettings.ticks shortTables)
        (Runtime.startFleet fun _ => Runtime.steadyDraws)
        (setOffBackwards ++ [.turn "unit-01" Runtime.steadyDraws 0 1]) ↔
      System.Always (step Runtime.plainSettings.ticks shortTables) (AdvancesForward shortTables)
        (Runtime.startFleet fun _ => Runtime.steadyDraws)
        (setOffBackwards ++ [.turn "unit-01" Runtime.steadyDraws 0 1]) :=
  track_iff Runtime.plainSettings.ticks shortTables (fun _ => Runtime.steadyDraws)
    (setOffBackwards ++ [.turn "unit-01" Runtime.steadyDraws 0 1]) shortTables_measured
    setOffBackwards_regular

/-- It leaves its shape at the wrong end. -/
theorem negative_speed_leaves_track :
    ¬System.Always (step Runtime.plainSettings.ticks shortTables)
      (KeepsTrack Runtime.plainSettings.ticks shortTables)
      (Runtime.startFleet fun _ => Runtime.steadyDraws)
      (setOffBackwards ++ [.turn "unit-01" Runtime.steadyDraws 0 1]) := by
  intro h
  have hrun : ((System.run (step Runtime.plainSettings.ticks shortTables)
      (Runtime.startFleet fun _ => Runtime.steadyDraws) setOffBackwards).bind fun f =>
        (step Runtime.plainSettings.ticks shortTables f
          (.turn "unit-01" Runtime.steadyDraws 0 1)).map fun f' =>
            (f'.get "unit-01").map fun v => (v.progressM, shapeIdOf v)) =
      some (some (-5, "hacia_artes")) := by
    decide +kernel
  obtain ⟨f, f', hf, hf', hview⟩ := last_step hrun
  obtain ⟨v, hv, hview⟩ := Option.map_eq_some_iff.mp hview
  obtain ⟨hprogress, hid⟩ := Prod.mk.inj hview
  have hshape : OnShape shortTables v ⟨"hacia_artes", [⟨0, 0, 0⟩, ⟨0, 1, 1 / 100⟩]⟩ := by
    refine ⟨_, rfl, ?_⟩
    rw [TickLoop.getShape_ok_iff, hid]
    rfl
  obtain ⟨total, -, hpos, -⟩ := (always_last h hf hf').place "unit-01" v _ hv hshape
  rw [hprogress] at hpos
  norm_num at hpos

end Life

end DatabusSim
