import Mathlib.Algebra.Order.Floor.Semiring
import Mathlib.Data.Rat.Floor
import Mathlib.Tactic.FieldSimp
import Mathlib.Tactic.Positivity
import DatabusSim.Lib.Transition
import DatabusSim.Domain.KinematicsMoves

/-!
# The way to the terminal, and the idle time there

`step_vehicle` over and over, without a control in between. Each call takes a moving vehicle
on, wears its dwell off or ends at the terminal, so it arrives however often it dwells. From
there the countdown of its idle time runs, if it has any.
-/

namespace DatabusSim.Kinematics

open Transition

/-- Calls of `step_vehicle`, one for the draws of each tick. -/
def drive (geo : Geo) (postRunIdleS dt : ℚ) (shape : Shape) (stops : List Stop) :
    System Vehicle Draws :=
  fun v d => (stepVehicle geo postRunIdleS d v dt shape stops).toOption

section Calls

variable {geo : Geo} {postRunIdleS dt : ℚ} {d : Draws} {v v' : Vehicle} {shape : Shape}
  {stops : List Stop} {total : ℚ}

theorem drive_eq_some : drive geo postRunIdleS dt shape stops v d = some v' ↔
    stepVehicle geo postRunIdleS d v dt shape stops = .ok v' := toOption_eq_some

/-- A vehicle that goes on dwells no longer than a stop makes it. -/
theorem advance_dwell {kin : Kin}
    (h : advance geo postRunIdleS d v kin dt shape stops = .ok v') (hkin : kin.dwellRemaining ≤ 0) :
    dwellOf v' ≤ stopDwellTicks := by
  have hticks : kin.dwellRemaining ≤ stopDwellTicks := hkin.trans (by decide)
  unfold advance at h
  cases htotal : totalDistM shape with
  | error e =>
    rw [htotal] at h
    cases h
  | ok total =>
    simp only [htotal] at h
    split at h
    · cases h
      exact hticks
    · split at h
      · cases h
      · split at h
        · split at h
          · cases h
            exact le_rfl
          · cases h
            exact hticks
        · cases h
          exact hticks

theorem stepVehicle_dwell (h : stepVehicle geo postRunIdleS d v dt shape stops = .ok v')
    (hdwell : dwellOf v ≤ 0) (hmoving : v.moving = true) : dwellOf v' ≤ stopDwellTicks := by
  have hkin : (initKin d v).dwellRemaining ≤ 0 := by rwa [initKin_dwell]
  unfold stepVehicle at h
  simp only at h
  rw [if_neg (not_lt.mpr hkin), if_neg (by simp [hmoving])] at h
  exact advance_dwell h hkin

end Calls

/-! ## Arrival -/

section Arrival

variable {geo : Geo} {postRunIdleS dt : ℚ} {d : Draws} {v v' : Vehicle} {shape : Shape}
  {stops : List Stop} {total : ℚ}

/-- The vehicle drives at its own speed. -/
def UnderWay (v : Vehicle) : Prop := v.moving = true ∧ v.speedOverride = none

/-- The vehicle stands at the end of its shape. -/
def Arrived (total : ℚ) (v : Vehicle) : Prop := v.moving = false ∧ v.progressM = total

/-- How often the vehicle has to go on at the lowest speed, at most. -/
def advancesLeft (total dt progressM : ℚ) : Nat :=
  max 1 ⌈(total - progressM) / (minSpeed * dt)⌉₊

/-- The calls a vehicle under way can still need: it may dwell before it goes on, and after each
time. -/
def callsLeft (total dt : ℚ) (v : Vehicle) : Nat :=
  (dwellOf v).toNat + 4 * advancesLeft total dt v.progressM

theorem advancesLeft_lt (hdt : 0 < dt) {p p' : ℚ} (hfar : p + minSpeed * dt ≤ p')
    (hshort : p' < total) : advancesLeft total dt p' < advancesLeft total dt p := by
  have hunit : 0 < minSpeed * dt := mul_pos (by norm_num [minSpeed]) hdt
  have hleft : 0 < (total - p') / (minSpeed * dt) := div_pos (sub_pos.mpr hshort) hunit
  have hmore : (total - p') / (minSpeed * dt) + 1 ≤ (total - p) / (minSpeed * dt) := by
    rw [div_add_one hunit.ne', div_le_div_iff_of_pos_right hunit]
    linarith
  have hceil : ⌈(total - p') / (minSpeed * dt)⌉₊ + 1 ≤ ⌈(total - p) / (minSpeed * dt)⌉₊ := by
    rw [← Nat.ceil_add_one hleft.le]
    exact Nat.ceil_mono hmore
  have hpos : 0 < ⌈(total - p') / (minSpeed * dt)⌉₊ := Nat.ceil_pos.mpr hleft
  unfold advancesLeft
  omega

/-- A call takes a vehicle under way to the end of its shape, or leaves it with fewer calls to
need. -/
theorem drive_underWay (hdt : 0 < dt) (hlen : 2 ≤ shape.points.length)
    (htotal : totalDistM shape = .ok total) (h : UnderWay v) (d : Draws) :
    ∃ v', drive geo postRunIdleS dt shape stops v d = some v' ∧
      (Arrived total v' ∨ UnderWay v' ∧ callsLeft total dt v' < callsLeft total dt v) := by
  obtain ⟨hmoving, hfree⟩ := h
  obtain ⟨v', hv'⟩ : ∃ v', stepVehicle geo postRunIdleS d v dt shape stops = .ok v' :=
    stepVehicle_ok_iff.mpr (.inl hlen)
  refine ⟨v', drive_eq_some.mpr hv', ?_⟩
  have hdwellOf := initKin_dwell d v
  have hafter := stepVehicle_dwell hv'
  cases stepped_of_ok hv' with
  | dwelled hdwell =>
    rw [hdwellOf] at hdwell
    have hless : dwellOf { v with kin := some { initKin d v with
        dwellRemaining := (initKin d v).dwellRemaining - 1 } } = dwellOf v - 1 :=
      congrArg (· - 1) hdwellOf
    refine .inr ⟨⟨hmoving, hfree⟩, ?_⟩
    unfold callsLeft
    rw [hless]
    show (dwellOf v - 1).toNat + 4 * advancesLeft total dt v.progressM < _
    omega
  | counted _ hstill =>
    rw [hmoving] at hstill
    cases hstill
  | stood _ hstill =>
    rw [hmoving] at hstill
    cases hstill
  | arrived total' _ _ htotal' =>
    rw [htotal] at htotal'
    cases htotal'
    exact .inl ⟨rfl, rfl⟩
  | advanced kin hdwell _ hadvanced =>
    rw [hdwellOf] at hdwell
    have hticks : dwellOf { v with progressM := v.progressM + kin.speed * dt, kin := some kin } ≤
        stopDwellTicks := hafter hdwell hmoving
    have hspeed : minSpeed ≤ kin.speed := by
      rw [hadvanced.speed]
      exact minSpeed_le_nextSpeed hfree _
    have hfar : v.progressM + minSpeed * dt ≤ v.progressM + kin.speed * dt := by gcongr
    have hless := advancesLeft_lt hdt hfar (hadvanced.short total htotal)
    refine .inr ⟨⟨hmoving, hfree⟩, ?_⟩
    unfold stopDwellTicks at hticks
    show (dwellOf _).toNat + 4 * advancesLeft total dt (v.progressM + kin.speed * dt) <
      (dwellOf v).toNat + 4 * advancesLeft total dt v.progressM
    omega

/-- At the end of its shape a vehicle stays. -/
theorem drive_arrived (h : Arrived total v) (d : Draws) :
    ∃ v', drive geo postRunIdleS dt shape stops v d = some v' ∧ Arrived total v' := by
  obtain ⟨hmoving, hplace⟩ := h
  obtain ⟨v', hv'⟩ : ∃ v', stepVehicle geo postRunIdleS d v dt shape stops = .ok v' :=
    stepVehicle_ok_iff.mpr (.inr (.inl (.inr hmoving)))
  refine ⟨v', drive_eq_some.mpr hv', ?_⟩
  cases stepped_of_ok hv' with
  | dwelled => exact ⟨hmoving, hplace⟩
  | counted => exact ⟨hmoving, hplace⟩
  | stood => exact ⟨hmoving, hplace⟩
  | arrived _ _ hgoes =>
    rw [hmoving] at hgoes
    cases hgoes
  | advanced _ _ hgoes =>
    rw [hmoving] at hgoes
    cases hgoes

/-- A vehicle that drives at its own speed arrives, whatever the draws and however often it
dwells, and stays where it has arrived. -/
theorem drive_arrives (geo : Geo) (postRunIdleS : ℚ) {dt : ℚ} (hdt : 0 < dt) {shape : Shape}
    (hlen : 2 ≤ shape.points.length) {total : ℚ} (htotal : totalDistM shape = .ok total)
    (stops : List Stop) (draws : Nat → Draws) {v : Vehicle} (hmoving : v.moving = true)
    (hfree : v.speedOverride = none) :
    ∃ k ≤ (dwellOf v).toNat + 4 * max 1 ⌈(total - v.progressM) / (minSpeed * dt)⌉₊,
      ∀ n, k ≤ n → ∃ v', (drive geo postRunIdleS dt shape stops).after v draws n = some v' ∧
        v'.moving = false ∧ v'.progressM = total := by
  have hpos : ∀ u, UnderWay u → 0 < callsLeft total dt u := by
    intro u _
    unfold callsLeft advancesLeft
    omega
  exact after_reaches (callsLeft total dt) (fun u d hu => drive_underWay hdt hlen htotal hu d) hpos
    (fun u d hu => drive_arrived hu d) ⟨hmoving, hfree⟩ draws

/-- The lowest value of each draw. -/
def lowestDraws : Draws where
  initSpeed := 3
  initSpeed_mem := by norm_num
  initOccupancy := 20
  initOccupancy_mem := by norm_num
  drift := -1
  drift_mem := by norm_num
  occupancyDrift := -4
  occupancyDrift_mem := by norm_num
  drop := 1
  drop_mem := by norm_num

/-- Ten metres along a meridian. -/
def tenMetres : Shape := ⟨"ten", [⟨9.935, -84.053, 0⟩, ⟨9.935 + 10 / 111195, -84.053, 1 / 100⟩]⟩

theorem totalDistM_tenMetres : totalDistM tenMetres = .ok 10 :=
  congrArg Except.ok (show (1 / 100 * 1000 : ℚ) = 10 by norm_num)

/-- A vehicle at the start of its shape, set moving. -/
def departing : Vehicle where
  vehicleId := "unit-01"
  routeId := "r1"
  defaultShapeId := "ten"
  transmitting := true
  moving := true

/-- A vehicle that has two ticks of a dwell left. -/
def boarding : Vehicle :=
  { departing with kin := some { speed := 5, occupancyPct := 40, dwellRemaining := 2 } }

/-- A stop every three metres. -/
def threeStops : List Stop :=
  [⟨"s1", "", 9.935 + 3 / 111195, -84.053⟩, ⟨"s2", "", 9.935 + 6 / 111195, -84.053⟩,
    ⟨"s3", "", 9.935 + 9 / 111195, -84.053⟩]

/-- It dwells out, and dwells again at the stop it comes to; and it arrives. -/
theorem drive_arrives_tenMetres :
    ((drive meridianGeo 30 1 tenMetres threeStops).after boarding (fun _ => lowestDraws) 3).map
        dwellOf = some 3 ∧
      ∃ k ≤ (dwellOf boarding).toNat + 4 * max 1 ⌈((10 : ℚ) - 0) / (minSpeed * 1)⌉₊,
        ∀ n, k ≤ n → ∃ v', (drive meridianGeo 30 1 tenMetres threeStops).after boarding
          (fun _ => lowestDraws) n = some v' ∧ v'.moving = false ∧ v'.progressM = 10 :=
  ⟨by decide +kernel,
    drive_arrives meridianGeo 30 (by decide) (by decide) totalDistM_tenMetres threeStops _ rfl rfl⟩

end Arrival

/-! ## The idle time -/

section Idle

variable {geo : Geo} {postRunIdleS dt : ℚ} {d : Draws} {v v' : Vehicle} {shape : Shape}
  {stops : List Stop}

/-- After `n` calls at the terminal: the vehicle stands at its place, and its countdown and its
transmission are as far as `n` calls take them. -/
structure IdleAfter (postRunIdleS dt progressM : ℚ) (n : Nat) (v : Vehicle) : Prop where
  still : v.moving = false
  place : v.progressM = progressM
  dwell : dwellOf v ≤ 0
  idle : v.kin.elim 0 Kin.postRunIdleRemainingS = max 0 (postRunIdleS - n * dt)
  transmitting : v.transmitting = true ↔ n * dt < postRunIdleS

/-- A vehicle that does not move is always stepped. -/
theorem drive_still (hstill : v.moving = false) (d : Draws) :
    ∃ v', drive geo postRunIdleS dt shape stops v d = some v' ∧
      Stepped postRunIdleS d v dt shape v' := by
  obtain ⟨v', hv'⟩ : ∃ v', stepVehicle geo postRunIdleS d v dt shape stops = .ok v' :=
    stepVehicle_ok_iff.mpr (.inr (.inl (.inr hstill)))
  exact ⟨v', drive_eq_some.mpr hv', stepped_of_ok hv'⟩

/-- A vehicle that has just arrived does not dwell, and has all its idle time left. -/
theorem arrival (h : stepVehicle geo postRunIdleS d v dt shape stops = .ok v')
    (hmoving : v.moving = true) (hstill : v'.moving = false) :
    dwellOf v' ≤ 0 ∧ v'.kin.elim 0 Kin.postRunIdleRemainingS = postRunIdleS ∧
      v'.transmitting = v.transmitting := by
  cases stepped_of_ok h with
  | dwelled => exact absurd (hmoving.symm.trans hstill) (by simp)
  | counted _ hnot => exact absurd (hmoving.symm.trans hnot) (by simp)
  | stood _ hnot => exact absurd (hmoving.symm.trans hnot) (by simp)
  | advanced => exact absurd (hmoving.symm.trans hstill) (by simp)
  | arrived total hdwell => exact ⟨hdwell, rfl, rfl⟩

/-- Each call takes a tick from what is left of the countdown. -/
theorem IdleAfter.next (hdt : 0 < dt) {progressM : ℚ} {n : Nat}
    (h : IdleAfter postRunIdleS dt progressM n v) (d : Draws) :
    ∃ v', drive geo postRunIdleS dt shape stops v d = some v' ∧
      IdleAfter postRunIdleS dt progressM (n + 1) v' := by
  obtain ⟨v', hv', hstep⟩ := drive_still h.still d
  refine ⟨v', hv', ?_⟩
  have hdwellOf := initKin_dwell d v
  have hidle := (initKin_entry Kin.postRunIdleRemainingS d v rfl).trans h.idle
  have hcast : ((n + 1 : Nat) : ℚ) * dt = n * dt + dt := by
    push_cast
    ring
  cases hstep with
  | dwelled hdwell => exact absurd hdwell (not_lt.mpr (hdwellOf ▸ h.dwell))
  | arrived _ _ hmoving => exact absurd (h.still.symm.trans hmoving) (by simp)
  | advanced _ _ hmoving => exact absurd (h.still.symm.trans hmoving) (by simp)
  | counted hdwell _ hrun =>
    rw [hidle] at hrun
    have hleft : (n : ℚ) * dt < postRunIdleS := by
      by_contra hge
      rw [max_eq_left (by linarith)] at hrun
      exact lt_irrefl _ hrun
    have hinner : max 0 (postRunIdleS - (n : ℚ) * dt) = postRunIdleS - n * dt :=
      max_eq_right (by linarith)
    have hrest : (initKin d v).postRunIdleRemainingS - dt =
        postRunIdleS - ((n + 1 : Nat) : ℚ) * dt := by
      rw [hidle, hinner, hcast]
      ring
    refine ⟨h.still, h.place, hdwell, congrArg (max 0) hrest, ?_⟩
    show (if max 0 ((initKin d v).postRunIdleRemainingS - dt) = 0 then false
      else v.transmitting) = true ↔ _
    simp only [hrest, h.transmitting.mpr hleft, max_eq_left_iff]
    split
    · rename_i hover
      simp only [Bool.false_eq_true, false_iff]
      linarith
    · rename_i hmore
      simp only [true_iff]
      linarith
  | stood hdwell _ hout =>
    rw [hidle] at hout
    have hover : postRunIdleS ≤ n * dt := by
      have hle : postRunIdleS - n * dt ≤ 0 := (le_max_right _ _).trans hout
      linarith
    have hnext : postRunIdleS - ((n + 1 : Nat) : ℚ) * dt ≤ 0 := by
      rw [hcast]
      linarith
    refine ⟨h.still, h.place, hdwell, ?_, ?_⟩
    · show (initKin d v).postRunIdleRemainingS = _
      rw [hidle, max_eq_left (by linarith), max_eq_left hnext]
    · show v.transmitting = true ↔ _
      rw [h.transmitting]
      exact iff_of_false (not_lt.mpr hover) (not_lt.mpr (by linarith))

/-- The vehicle stays at its place through all calls from now on, and transmits after fewer than
`calls` of them only. -/
def SilentAfter (geo : Geo) (postRunIdleS dt : ℚ) (shape : Shape) (stops : List Stop)
    (v : Vehicle) (calls : Nat) : Prop :=
  ∀ draws n, ∃ v', (drive geo postRunIdleS dt shape stops).after v draws n = some v' ∧
    v'.progressM = v.progressM ∧ (v'.transmitting = true ↔ n < calls)

/-- With some idle time the countdown ends after the calls that make it up. -/
theorem silentAfter_of_pos (hpos : 0 < postRunIdleS) (hdt : 0 < dt)
    (h : IdleAfter postRunIdleS dt v.progressM 0 v) :
    SilentAfter geo postRunIdleS dt shape stops v (max 1 ⌈postRunIdleS / dt⌉₊) := by
  intro draws n
  obtain ⟨v', hv', hidle⟩ := after_counted
    (C := IdleAfter postRunIdleS dt v.progressM)
    (fun _ u d hu => (hu.next hdt d : ∃ u', drive geo postRunIdleS dt shape stops u d = some u' ∧ _))
    h draws n
  have hceil : 1 ≤ ⌈postRunIdleS / dt⌉₊ := Nat.ceil_pos.mpr (div_pos hpos hdt)
  refine ⟨v', hv', hidle.place, ?_⟩
  rw [hidle.transmitting, max_eq_right hceil, Nat.lt_ceil, lt_div_iff₀ hdt]

/-- At a place with nothing to count down. -/
def WithoutIdle (v : Vehicle) : Prop :=
  v.moving = false ∧ v.kin.elim 0 Kin.postRunIdleRemainingS = 0 ∧ v.transmitting = true

/-- Such a vehicle is not silenced by a call: the countdown never runs. -/
theorem WithoutIdle.next (h : WithoutIdle v) (d : Draws) :
    ∃ v', drive geo postRunIdleS dt shape stops v d = some v' ∧ WithoutIdle v' := by
  obtain ⟨hstill, hidle, htransmitting⟩ := h
  obtain ⟨v', hv', hstep⟩ := drive_still hstill d
  have hremaining := (initKin_entry Kin.postRunIdleRemainingS d v rfl).trans hidle
  refine ⟨v', hv', ?_⟩
  cases hstep with
  | counted _ _ hrun => exact absurd hrun (by simp [hremaining])
  | arrived _ _ hmoving => exact absurd (hstill.symm.trans hmoving) (by simp)
  | advanced _ _ hmoving => exact absurd (hstill.symm.trans hmoving) (by simp)
  | dwelled => exact ⟨hstill, hremaining, htransmitting⟩
  | stood => exact ⟨hstill, hremaining, htransmitting⟩

theorem never_silent (h : WithoutIdle v) (calls : Nat) :
    ¬SilentAfter geo postRunIdleS dt shape stops v calls := by
  intro hsilent
  obtain ⟨u, hu, -, hsilenced⟩ := hsilent (fun _ => lowestDraws) calls
  obtain ⟨w, hw, -, -, hon⟩ := after_stays (fun _ d hu => hu.next d) h (fun _ => lowestDraws) calls
  rw [hu] at hw
  cases hw
  exact lt_irrefl calls (hsilenced.mp hon)

/-- A vehicle that has just arrived is silenced by call `max(1, ceil(P / dt))`, and not before, if
and only if there is any idle time. -/
theorem idle_length_iff (geo : Geo) {postRunIdleS dt : ℚ} (hidle : 0 ≤ postRunIdleS)
    (hdt : 0 < dt) (shape : Shape) (stops : List Stop) {d : Draws} {v v' : Vehicle}
    (h : stepVehicle geo postRunIdleS d v dt shape stops = .ok v') (hmoving : v.moving = true)
    (hstill : v'.moving = false) (htransmitting : v.transmitting = true) :
    SilentAfter geo postRunIdleS dt shape stops v' (max 1 ⌈postRunIdleS / dt⌉₊) ↔
      0 < postRunIdleS := by
  obtain ⟨hdwell, hleft, hon⟩ := arrival h hmoving hstill
  rw [htransmitting] at hon
  constructor
  · intro hsilent
    by_contra hnot
    obtain rfl : postRunIdleS = 0 := le_antisymm (not_lt.mp hnot) hidle
    exact never_silent ⟨hstill, hleft, hon⟩ _ hsilent
  · intro hpos
    refine silentAfter_of_pos hpos hdt ⟨hstill, rfl, hdwell, ?_, ?_⟩
    · simp [hleft, max_eq_right hpos.le]
    · simp [hon, hpos]

/-- A vehicle a metre before the end of its shape. -/
def arriving : Vehicle := { departing with progressM := 9 }

theorem arriving_arrives (postRunIdleS : ℚ) :
    stepVehicle meridianGeo postRunIdleS lowestDraws arriving 1 tenMetres [] = .ok { arriving with
      progressM := 10
      moving := false
      kin := some { initKin lowestDraws arriving with
        speed := 3
        postRunIdleRemainingS := postRunIdleS } } := by
  have hspeed : nextSpeed lowestDraws arriving (initKin lowestDraws arriving) = 3 := by
    decide +kernel
  have hend : (10 : ℚ) ≤ arriving.progressM + 3 * 1 := by norm_num [arriving, departing]
  unfold stepVehicle advance
  simp only [totalDistM_tenMetres, hspeed, if_pos hend]
  rfl

theorem idle_length_arriving : ∃ v',
    stepVehicle meridianGeo 30 lowestDraws arriving 1 tenMetres [] = .ok v' ∧
      (SilentAfter meridianGeo 30 1 tenMetres [] v' (max 1 ⌈(30 : ℚ) / 1⌉₊) ↔ (0 : ℚ) < 30) :=
  ⟨_, arriving_arrives 30, idle_length_iff meridianGeo (by norm_num) (by norm_num) tenMetres []
    (arriving_arrives 30) rfl rfl rfl⟩

/-- Configured without idle time, the vehicle still transmits after every number of calls. -/
theorem arriving_never_silent : ∃ v',
    stepVehicle meridianGeo 0 lowestDraws arriving 1 tenMetres [] = .ok v' ∧
      v'.moving = false ∧ v'.transmitting = true ∧
      ¬ SilentAfter meridianGeo 0 1 tenMetres [] v' (max 1 ⌈(0 : ℚ) / 1⌉₊) := by
  refine ⟨_, arriving_arrives 0, rfl, rfl, ?_⟩
  exact never_silent ⟨rfl, rfl, rfl⟩ _

end Idle

end DatabusSim.Kinematics
