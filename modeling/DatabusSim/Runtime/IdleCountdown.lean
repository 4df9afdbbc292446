import DatabusSim.Runtime.VehicleLife

/-!
# The idle countdown

A vehicle that reaches the end of its shape starts a countdown and stops transmitting
when it runs out. The countdown is a number in the scratch space that only an arrival
sets and only standing wears off: binding, releasing or moving the vehicle leaves it.
`Watched` remembers for each vehicle what has happened since its last arrival; as long as
a countdown never runs out on a vehicle that has been bound, released or moved since, a
vehicle is silenced at its terminal only, in the run it arrived with.
-/

namespace DatabusSim.Life

open Transition Kinematics FleetState

/-- The fleet, and what is remembered of each vehicle. -/
structure Watched where
  fleet : FleetState
  /-- How often it has been bound or released. -/
  bindings : String → Nat := fun _ => 0
  /-- That number when it last arrived at the end of its shape. -/
  arrivedIn : String → Option Nat := fun _ => none
  /-- It has been bound, released or moved since. -/
  left : String → Bool := fun _ => false

/-- `_apply_state` and `_force_unbind` bind the vehicle to a run or release it. -/
def Event.rebinds : Event → Bool
  | .applyState _ _ st => st = .confirmed ∨ st.isTerminal
  | .forceUnbind _ _ => true
  | _ => false

/-- A step of `v` on `shape` comes to its end: rule 4 of `step_vehicle`. -/
def arrives (d : Draws) (v : Vehicle) (dt : ℚ) (shape : Shape) : Bool :=
  match totalDistM shape with
  | .ok total =>
      (initKin d v).dwellRemaining ≤ 0 ∧ v.moving = true ∧
        total ≤ v.progressM + nextSpeed d v (initKin d v) * dt
  | .error _ => false

/-- The call is a turn with which its vehicle arrives. -/
def Event.isArrival (tables : GeometryTables) (f : FleetState) : Event → Bool
  | .turn vid d _ dt =>
      match f.get vid, tables.shapes with
      | some v, some shapes =>
          match getShape v shapes with
          | .ok shape => arrives d v dt shape
          | .error _ => false
      | _, _ => false
  | _ => false

/-- What is remembered once a call has made `f'` of the fleet. -/
def Watched.note (w : Watched) (tables : GeometryTables) (ev : Event) (f' : FleetState) : Watched :=
  match ev.vehicle with
  | none => { w with fleet := f' }
  | some vid =>
      let moved := (f'.get vid).map Vehicle.progressM ≠ (w.fleet.get vid).map Vehicle.progressM
      if ev.isArrival tables w.fleet then
        { w with
          fleet := f'
          arrivedIn := Function.update w.arrivedIn vid (some (w.bindings vid))
          left := Function.update w.left vid false }
      else
        { w with
          fleet := f'
          bindings := if ev.rebinds then Function.update w.bindings vid (w.bindings vid + 1)
            else w.bindings
          left := if ev.rebinds ∨ moved then Function.update w.left vid true else w.left }

def watch (cfg : TickSettings) (tables : GeometryTables) (w : Watched) (ev : Event) :
    Option Watched :=
  (step cfg tables w.fleet ev).map (w.note tables ev)

/-- The countdown of a vehicle, `0` while its scratch space is empty. -/
def idleOf (v : Vehicle) : ℚ := v.kin.elim 0 Kin.postRunIdleRemainingS

/-- A step that takes `dt` lets the countdown of a transmitting vehicle run out: it stands, does
not dwell, and has no more than `dt` left. -/
def runsOut (d : Draws) (v : Vehicle) (dt : ℚ) : Bool :=
  v.transmitting ∧ (initKin d v).dwellRemaining ≤ 0 ∧ v.moving = false ∧
    0 < idleOf v ∧ idleOf v ≤ dt

/-- A turn that silences its vehicle does so at the end of the vehicle's shape, and the vehicle
has arrived there since it was last bound or released. -/
def SilencesAtTerminal (tables : GeometryTables) (w : Watched) (ev : Event) (w' : Watched) : Prop :=
  ∀ vid d now dt v v', ev = .turn vid d now dt → w.fleet.get vid = some v →
    w'.fleet.get vid = some v' → v.transmitting = true → v'.transmitting = false →
      (∃ shape, OnShape tables v' shape ∧ totalDistM shape = .ok v'.progressM) ∧
        w.arrivedIn vid = some (w.bindings vid)

/-- A turn lets no countdown run out on a vehicle that was bound, released or moved since its
last arrival. -/
def countsDownArrived (w : Watched) : Event → Bool
  | .turn vid d _ dt =>
      match w.fleet.get vid with
      | some v => !runsOut d v dt || !w.left vid
      | none => true
  | _ => true

/-! ## What the calls leave of the countdown -/

theorem initKin_idle (d : Draws) (v : Vehicle) :
    (initKin d v).postRunIdleRemainingS = idleOf v :=
  initKin_entry Kin.postRunIdleRemainingS d v rfl

/-- An assignment to other keys of the scratch space. -/
theorem idle_map {kin : Option Kin} {g : Kin → Kin}
    (hg : ∀ k, (g k).postRunIdleRemainingS = k.postRunIdleRemainingS) :
    (kin.map g).elim 0 Kin.postRunIdleRemainingS = kin.elim 0 Kin.postRunIdleRemainingS := by
  cases kin with
  | none => rfl
  | some k => exact hg k

theorem getShape_congr {v v' : Vehicle} (h : shapeIdOf v' = shapeIdOf v)
    (shapes : Dict String Shape) : getShape v' shapes = getShape v shapes := by
  simp only [getShape, h]

section Stepped

variable {d : Draws} {dt : ℚ} {shape : Shape} {postRunIdleS : ℚ} {v v' : Vehicle}

/-- Only an arrival starts the countdown. -/
theorem stepped_idle (h : Stepped postRunIdleS d v dt shape v') (hidle : 0 < idleOf v')
    (hno : arrives d v dt shape = false) : 0 < idleOf v := by
  rw [← initKin_idle d v]
  cases h with
  | dwelled => exact hidle
  | counted _ _ hpos => exact hpos
  | stood _ _ hnone => exact absurd hidle (not_lt.mpr hnone)
  | arrived total hdwell hmoving htotal hend =>
    simp [arrives, hdwell, hmoving, htotal, hend] at hno
  | advanced kin _ _ ha =>
    rw [← ha.idle]
    exact hidle

/-- An arrival leaves its vehicle at the end of the shape. -/
theorem stepped_arrives (h : Stepped postRunIdleS d v dt shape v')
    (ha : arrives d v dt shape = true) : totalDistM shape = .ok v'.progressM := by
  unfold arrives at ha
  cases htotal : totalDistM shape with
  | error e => simp [htotal] at ha
  | ok total =>
    simp only [htotal, decide_eq_true_eq] at ha
    obtain ⟨hdwell, hmoving, hend⟩ := ha
    cases h with
    | dwelled hd => exact absurd hd (not_lt.mpr hdwell)
    | counted _ hm => simp [hmoving] at hm
    | stood _ hm => simp [hmoving] at hm
    | arrived total' _ _ htotal' =>
      rw [← htotal, htotal']
    | advanced kin _ _ had =>
      have hshort := had.short total htotal
      rw [had.speed] at hshort
      exact absurd hend (not_le.mpr hshort)

/-- A step silences its vehicle when the countdown runs out, and where the vehicle stands. -/
theorem stepped_silences (h : Stepped postRunIdleS d v dt shape v') (ht : v.transmitting = true)
    (hs : v'.transmitting = false) :
    runsOut d v dt = true ∧ v'.progressM = v.progressM := by
  cases h with
  | counted hdwell hmoving hpos =>
    refine ⟨?_, rfl⟩
    have hleft : max 0 ((initKin d v).postRunIdleRemainingS - dt) = 0 := by
      by_contra hne
      simp only [if_neg hne, ht] at hs
      cases hs
    have hle : (initKin d v).postRunIdleRemainingS ≤ dt := by
      have hmax := le_max_right 0 ((initKin d v).postRunIdleRemainingS - dt)
      linarith
    rw [initKin_idle] at hpos hle
    simp [runsOut, ht, hdwell, hmoving, hpos, hle]
  | _ => simp_all

theorem reported_idle (h : Reported d v v') : idleOf v' = idleOf v := by
  rcases h with rfl | ⟨kin, hkin, rfl⟩
  · rfl
  · rw [← initKin_idle d v]
    show kin.postRunIdleRemainingS = _
    rw [hkin]

theorem reported_rest (h : Reported d v v') :
    v'.progressM = v.progressM ∧ v'.transmitting = v.transmitting ∧
      shapeIdOf v' = shapeIdOf v := by
  rcases h with rfl | ⟨kin, -, rfl⟩ <;> exact ⟨rfl, rfl, rfl⟩

theorem stepped_shape (h : Stepped postRunIdleS d v dt shape v') :
    shapeIdOf v' = shapeIdOf v := by
  cases h <;> rfl

end Stepped

section Written

variable {cfg : TickSettings} {tables : GeometryTables} {f : FleetState} {v v' : Vehicle}
  {ev : Event} {vid : String}

theorem isArrival_turn {d : Draws} {now dt : ℚ} {shape : Shape} (hv : f.get vid = some v)
    (hshape : OnShape tables v shape) :
    Event.isArrival tables f (.turn vid d now dt) = arrives d v dt shape := by
  obtain ⟨shapes, hshapes, hget⟩ := hshape
  simp only [Event.isArrival, hv, hshapes, hget]

theorem isArrival_unplaced {d : Draws} {now dt : ℚ} (hv : f.get vid = some v)
    (hno : ∀ shape, ¬OnShape tables v shape) :
    Event.isArrival tables f (.turn vid d now dt) = false := by
  simp only [Event.isArrival, hv]
  cases hshapes : tables.shapes with
  | none => rfl
  | some shapes =>
    cases hget : getShape v shapes with
    | error e => simp only [hget]
    | ok shape => exact absurd ⟨shapes, hshapes, hget⟩ (hno shape)

/-- No call but an arrival starts a countdown. -/
theorem written_idle (h : Written cfg tables v ev v') (hv : f.get vid = some v)
    (hvid : ev.vehicle = some vid) (hidle : 0 < idleOf v')
    (hno : ev.isArrival tables f = false) : 0 < idleOf v := by
  cases h with
  | unplaced => exact hidle
  | turned w d now dt shape v₁ _ hshape hstep hreport =>
    cases hvid
    rw [isArrival_turn hv hshape] at hno
    rw [reported_idle hreport] at hidle
    exact stepped_idle hstep hidle hno
  | progressed => exact hidle.trans_eq (idle_map fun _ => rfl)
  | controlled now file d w knob payload _ hc =>
    cases hc with
    | injectFault kind ticks =>
      rw [← initKin_idle d v]
      exact hidle
    | dwell stopId ticks => exact hidle.trans_eq (idle_map fun _ => rfl)
    | _ => exact hidle
  | started => exact hidle
  | autoStarted => exact hidle
  | applied now b st => cases st <;> exact hidle
  | unbound => exact hidle

/-- A vehicle that is neither bound nor released stays on its shape. -/
theorem written_shape (h : Written cfg tables v ev v') (hr : ev.rebinds = false) :
    shapeIdOf v' = shapeIdOf v := by
  cases h with
  | turned w d now dt shape v₁ _ _ hstep hreport =>
    rw [(reported_rest hreport).2.2, stepped_shape hstep]
  | controlled now file d w knob payload _ hc => cases hc <;> rfl
  | applied now b st =>
    simp only [Event.rebinds, decide_eq_false_iff_not, not_or] at hr
    rw [RunBinder.vehicleAfter_observed (Bool.eq_false_of_not_eq_true hr.2) hr.1]
    rfl
  | unbound => cases hr
  | _ => rfl

end Written

/-! ## What is remembered is right -/

/-- A countdown that runs was started by an arrival; a vehicle that has not left since then is in
the same binding and at the end of its shape. -/
structure Remembered (tables : GeometryTables) (w : Watched) : Prop where
  started : ∀ vid v, w.fleet.get vid = some v → 0 < idleOf v → ∃ n, w.arrivedIn vid = some n
  stayed : ∀ vid v n, w.fleet.get vid = some v → w.arrivedIn vid = some n →
    w.left vid = false →
    n = w.bindings vid ∧ ∃ shape, OnShape tables v shape ∧ totalDistM shape = .ok v.progressM

section Watch

variable {cfg : TickSettings} {tables : GeometryTables} {w w' : Watched} {ev : Event}
  {f' : FleetState} {vid : String}

theorem note_fleet : (w.note tables ev f').fleet = f' := by
  unfold Watched.note
  split
  · rfl
  · simp only
    split <;> rfl

variable (w tables f') in
/-- What is remembered of a vehicle the call is not about. -/
theorem note_other (h : ev.vehicle ≠ some vid) :
    (w.note tables ev f').arrivedIn vid = w.arrivedIn vid ∧
      (w.note tables ev f').bindings vid = w.bindings vid ∧
      (w.note tables ev f').left vid = w.left vid := by
  unfold Watched.note
  split
  · exact ⟨rfl, rfl, rfl⟩
  · rename_i u hu
    have hne : vid ≠ u := fun he => h (by rw [hu, he])
    simp only
    split
    · simp [Function.update_of_ne hne]
    · refine ⟨rfl, ?_, ?_⟩
      · simp only
        split <;> simp [Function.update_of_ne hne]
      · simp only
        split <;> simp [Function.update_of_ne hne]

variable (w tables f') in
theorem note_arrival (h : ev.vehicle = some vid) (ha : ev.isArrival tables w.fleet = true) :
    (w.note tables ev f').arrivedIn vid = some (w.bindings vid) ∧
      (w.note tables ev f').bindings vid = w.bindings vid := by
  simp [Watched.note, h, ha]

variable (w tables f') in
theorem note_call (h : ev.vehicle = some vid) (ha : ev.isArrival tables w.fleet = false) :
    (w.note tables ev f').arrivedIn vid = w.arrivedIn vid ∧
      ((w.note tables ev f').left vid = false →
        w.left vid = false ∧ ev.rebinds = false ∧
          (f'.get vid).map Vehicle.progressM = (w.fleet.get vid).map Vehicle.progressM ∧
          (w.note tables ev f').bindings vid = w.bindings vid) := by
  simp only [Watched.note, h, ha, Bool.false_eq_true, if_false, true_and]
  intro hleft
  split at hleft
  · simp at hleft
  · rename_i hstay
    simp only [not_or, Bool.not_eq_true, ne_eq, not_not] at hstay
    simp [hstay.1, hstay.2, hleft]

theorem watch_some (h : watch cfg tables w ev = some w') :
    ∃ f', step cfg tables w.fleet ev = some f' ∧ w' = w.note tables ev f' := by
  obtain ⟨f', hs, he⟩ := Option.map_eq_some_iff.mp h
  exact ⟨f', hs, he.symm⟩

theorem onShape_congr {v v' : Vehicle} {shape : Shape} (h : shapeIdOf v' = shapeIdOf v)
    (hshape : OnShape tables v shape) : OnShape tables v' shape := by
  obtain ⟨shapes, hshapes, hget⟩ := hshape
  exact ⟨shapes, hshapes, by rw [getShape_congr h, hget]⟩

/-- An arrival puts its vehicle at the end of the shape it is on. -/
theorem written_arrival {v v' : Vehicle} (hv : w.fleet.get vid = some v)
    (hw : Written cfg tables v ev v') (hvid : ev.vehicle = some vid)
    (ha : ev.isArrival tables w.fleet = true) :
    ∃ shape, OnShape tables v' shape ∧ totalDistM shape = .ok v'.progressM := by
  cases hw with
  | unplaced u d now dt hno =>
    cases hvid
    rw [isArrival_unplaced hv hno] at ha
    cases ha
  | turned u d now dt shape v₁ _ hshape hstep hreport =>
    cases hvid
    rw [isArrival_turn hv hshape] at ha
    obtain ⟨hprogress, -, hsame⟩ := reported_rest hreport
    refine ⟨shape, onShape_congr (hsame.trans (stepped_shape hstep)) hshape, ?_⟩
    rw [hprogress]
    exact stepped_arrives hstep ha
  | _ => cases ha

theorem remembered_watch (h : Remembered tables w) (hs : watch cfg tables w ev = some w') :
    Remembered tables w' := by
  obtain ⟨f', hstep, rfl⟩ := watch_some hs
  constructor
  · intro vid v' hv' hidle
    rw [note_fleet] at hv'
    obtain ⟨v, hv, ⟨hvid, rfl⟩ | ⟨hvid, hw⟩⟩ := step_vehicle hstep hv'
    · rw [(note_other tables w f' hvid).1]
      exact h.started vid v' hv hidle
    · cases ha : ev.isArrival tables w.fleet with
      | true => exact ⟨_, (note_arrival tables w f' hvid ha).1⟩
      | false =>
        rw [(note_call tables w f' hvid ha).1]
        exact h.started vid v hv (written_idle hw hv hvid hidle ha)
  · intro vid v' n hv' hn hleft
    rw [note_fleet] at hv'
    obtain ⟨v, hv, ⟨hvid, rfl⟩ | ⟨hvid, hw⟩⟩ := step_vehicle hstep hv'
    · obtain ⟨harrived, hbindings, hleft'⟩ := note_other tables w f' hvid
      rw [harrived] at hn
      rw [hleft'] at hleft
      rw [hbindings]
      exact h.stayed vid v' n hv hn hleft
    · cases ha : ev.isArrival tables w.fleet with
      | true =>
        obtain ⟨harrived, hbindings⟩ := note_arrival tables w f' hvid ha
        rw [harrived] at hn
        cases hn
        exact ⟨hbindings.symm, written_arrival hv hw hvid ha⟩
      | false =>
        obtain ⟨harrived, hstays⟩ := note_call tables w f' hvid ha
        obtain ⟨hleft', hrebinds, hmoved, hbindings⟩ := hstays hleft
        rw [harrived] at hn
        rw [hbindings]
        obtain ⟨hn', shape, hshape, htotal⟩ := h.stayed vid v n hv hn hleft'
        rw [hv', hv] at hmoved
        refine ⟨hn', shape, onShape_congr (written_shape hw hrebinds) hshape, ?_⟩
        rw [Option.some.inj hmoved]
        exact htotal

theorem silences_step (h : Remembered tables w) (hs : watch cfg tables w ev = some w')
    (hc : countsDownArrived w ev = true) : SilencesAtTerminal tables w ev w' := by
  obtain ⟨f', hstep, rfl⟩ := watch_some hs
  intro vid d now dt v v' hev hv hv' ht hsilent
  subst hev
  rw [note_fleet] at hv'
  obtain ⟨u, hu, ⟨hvid, -⟩ | ⟨-, hw⟩⟩ := step_vehicle hstep hv'
  · exact absurd rfl hvid
  · rw [hv] at hu
    cases hu
    cases hw with
    | unplaced =>
      rw [ht] at hsilent
      cases hsilent
    | turned _ _ _ _ shape v₁ _ hshape hturn hreport =>
      obtain ⟨hprogress, htransmitting, hsame⟩ := reported_rest hreport
      rw [htransmitting] at hsilent
      obtain ⟨hout, hplace⟩ := stepped_silences hturn ht hsilent
      have hleft : w.left vid = false := by
        simpa [countsDownArrived, hv, hout] using hc
      have hidle : 0 < idleOf v := by
        simp only [runsOut, decide_eq_true_eq] at hout
        exact hout.2.2.2.1
      obtain ⟨n, hn⟩ := h.started vid v hv hidle
      obtain ⟨rfl, shape', hshape', htotal⟩ := h.stayed vid v n hv hn hleft
      refine ⟨⟨shape', ?_, ?_⟩, hn⟩
      · exact onShape_congr (hsame.trans (stepped_shape hturn)) hshape'
      · rw [hprogress, hplace]
        exact htotal

end Watch

/-! ## Whole lives -/

theorem remembered_start (tables : GeometryTables) (draws : String → Draws) :
    Remembered tables { fleet := Runtime.startFleet draws } := by
  constructor
  · intro vid v hv hidle
    obtain ⟨_, _, _, rfl⟩ := Runtime.startFleet_get hv
    exact absurd hidle (lt_irrefl 0)
  · intro vid v n _ hn
    cases hn

/-- In every life in which no countdown runs out on a vehicle that was bound, released or moved
since its last arrival, a vehicle is silenced at the end of its shape only, and in the binding
it arrived in. -/
theorem silenced_at_terminal (cfg : TickSettings) (tables : GeometryTables)
    (draws : String → Draws) (es : List Event)
    (h : System.Always (watch cfg tables) (fun w ev _ => countsDownArrived w ev = true)
      { fleet := Runtime.startFleet draws } es) :
    System.Always (watch cfg tables) (SilencesAtTerminal tables)
      { fleet := Runtime.startFleet draws } es :=
  always_of_always
    (fun _ _ _ hw hs hc => ⟨remembered_watch hw hs, silences_step hw hs hc⟩)
    (remembered_start tables draws) h

/-! ## Two runs of one vehicle -/

/-- So many ticks of one second. -/
def ticks (n : Nat) : List Event :=
  List.replicate n (.turn "unit-01" Runtime.steadyDraws 0 1)

/-- The run is confirmed, set moving and arrives. -/
def arrivedOnce : List Event :=
  [.applyState 0 (runOf "r1") .confirmed,
    .control 1 Runtime.noFile Runtime.steadyDraws "unit-01" "moving" [(.str "on", .bool true)]] ++
    ticks 3

theorem silenced_at_terminal_arrivedOnce :
    System.Always (watch Runtime.plainSettings.ticks shortTables)
      (SilencesAtTerminal shortTables)
      { fleet := Runtime.startFleet fun _ => Runtime.steadyDraws } (arrivedOnce ++ ticks 29) :=
  silenced_at_terminal Runtime.plainSettings.ticks shortTables (fun _ => Runtime.steadyDraws)
    (arrivedOnce ++ ticks 29) (always_of_check (by decide +kernel))

/-- The run ends with 29 seconds left of the countdown, and the next one is confirmed. -/
def boundTwice : List Event :=
  arrivedOnce ++ [.applyState 5 (runOf "r1") .completed, .applyState 6 (runOf "r2") .confirmed] ++
    ticks 28

/-- The vehicle is silenced at the start of its shape, in the third binding since the arrival. -/
theorem leftover_countdown_silences :
    ¬System.Always (watch Runtime.plainSettings.ticks shortTables)
      (SilencesAtTerminal shortTables)
      { fleet := Runtime.startFleet fun _ => Runtime.steadyDraws }
      (boundTwice ++ ticks 1) := by
  intro h
  have hrun : ((System.run (watch Runtime.plainSettings.ticks shortTables)
      { fleet := Runtime.startFleet fun _ => Runtime.steadyDraws } boundTwice).bind fun w =>
        (watch Runtime.plainSettings.ticks shortTables w
          (.turn "unit-01" Runtime.steadyDraws 0 1)).map fun w' =>
            ((w.fleet.get "unit-01").map fun v => (v.transmitting, v.progressM),
              (w'.fleet.get "unit-01").map (·.transmitting),
              w.arrivedIn "unit-01", w.bindings "unit-01")) =
      some (some (true, 0), some false, some 1, 3) := by
    decide +kernel
  obtain ⟨w, w', hw, hw', hview⟩ := last_step hrun
  simp only [Prod.mk.injEq, Option.map_eq_some_iff] at hview
  obtain ⟨⟨v, hv, ht, -⟩, ⟨v', hv', ht'⟩, harrived, hbindings⟩ := hview
  have hlast := always_last h hw hw' "unit-01" _ _ _ v v' rfl hv hv' ht ht'
  rw [harrived, hbindings] at hlast
  cases hlast.2

end DatabusSim.Life
