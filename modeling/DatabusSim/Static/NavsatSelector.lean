import DatabusSim.Lib.Dict
import DatabusSim.Lib.Keyed
import DatabusSim.Lib.Latest
import Mathlib.Algebra.Order.Ring.Rat
import Mathlib.Algebra.Order.Group.Unbundled.Abs
import Mathlib.Data.List.Basic

/-!
# The NavSat selector

`static/lib/navsat_selector.js` shows the real buses that have been selected. Every store update
renders the panel anew and moves the markers, a checkbox moves the markers only. Whatever is
clicked and whatever the vendor reports, the markers are those of the selected buses, each at its
latest position and turned into the direction of its last real move (`overlay_shows`).
-/

namespace DatabusSim

open Transition History Keyed

/-- A row of `store.get().navsat`. -/
structure BusRow where
  plateNumber : String
  latitude : Option ℚ
  longitude : Option ℚ

/-- `v.latitude == null || v.longitude == null`, or where the bus is. -/
def BusRow.fix (v : BusRow) : Option (ℚ × ℚ) :=
  match v.latitude, v.longitude with
  | some lat, some lon => some (lat, lon)
  | _, _ => none

/-- A marker of the overlay, with the bearing of its icon. -/
structure BusMarker where
  position : ℚ × ℚ
  bearing : ℚ
  deriving DecidableEq

/-- `rows` is what the store has. `trail` is the history of the positions given to
`_updateBearing`. -/
structure NavsatSelector where
  rows : List BusRow := []
  selected : List String := []
  markers : Dict String BusMarker := Dict.empty
  lastFix : Dict String (ℚ × ℚ) := Dict.empty
  bearings : Dict String ℚ := Dict.empty
  trail : List (String × (ℚ × ℚ)) := []

namespace NavsatSelector

inductive Event where
  /-- The store notifies of an update. -/
  | notify (rows : List BusRow)
  /-- A checkbox of the panel changes. -/
  | change (plate : String) (checked : Bool)

-- `bearingDeg` of `vehicle_icon.js`
variable (bearingDeg : ℚ → ℚ → ℚ → ℚ → ℚ)

/-- `MIN_FIX_DELTA_DEG`. -/
def minFixDeltaDeg : ℚ := 1 / 100000

/-- `knownPlates.has(plate)`. -/
def known (rows : List BusRow) (plate : String) : Bool := rows.any (·.plateNumber = plate)

/-- `byPlate.get(plate)`: of two rows with one plate the later one counts. -/
def byPlate (rows : List BusRow) (plate : String) : Option BusRow :=
  latest (fun v => if v.plateNumber = plate then some v else none) rows

def moved (prev fix : ℚ × ℚ) : Prop :=
  minFixDeltaDeg < |fix.1 - prev.1| ∨ minFixDeltaDeg < |fix.2 - prev.2|

instance (prev fix : ℚ × ℚ) : Decidable (moved prev fix) := inferInstanceAs (Decidable (_ ∨ _))

/-- `_updateBearing`, but for what it returns. -/
def updateBearing (s : NavsatSelector) (plate : String) (fix : ℚ × ℚ) : NavsatSelector :=
  { s with
    lastFix := s.lastFix.set plate fix
    trail := s.trail ++ [(plate, fix)]
    bearings :=
      match s.lastFix.get? plate with
      | some prev =>
          if moved prev fix then s.bearings.set plate (bearingDeg prev.1 prev.2 fix.1 fix.2)
          else s.bearings
      | none => s.bearings }

/-- The body of the loop over `_selected`. -/
def place (rows : List BusRow) (s : NavsatSelector) (plate : String) : NavsatSelector :=
  match (byPlate rows plate).bind BusRow.fix with
  | none => s
  | some fix =>
      let s := s.updateBearing bearingDeg plate fix
      { s with markers := s.markers.set plate ⟨fix, s.bearings.getD plate 0⟩ }

/-- The first loop of `_updateMarkers`. -/
def removeMarkers (s : NavsatSelector) : NavsatSelector :=
  { s with
    markers := s.markers.restrict fun plate =>
      decide (plate ∈ s.selected) && (byPlate s.rows plate).isSome }

/-- `_updateMarkers`. -/
def updateMarkers (s : NavsatSelector) : NavsatSelector :=
  s.selected.foldl (place bearingDeg s.rows) s.removeMarkers

/-- What `_renderPanel` does to the selection. -/
def renderPanel (s : NavsatSelector) : NavsatSelector :=
  { s with selected := s.selected.filter (known s.rows) }

/-- `_selected.add(plate)` or `_selected.delete(plate)`. -/
def choose (s : NavsatSelector) (plate : String) (checked : Bool) : NavsatSelector :=
  { s with
    selected :=
      if checked then if plate ∈ s.selected then s.selected else s.selected ++ [plate]
      else s.selected.filter (· ≠ plate) }

/-- The panel has a checkbox for each bus that is known. -/
def step : System NavsatSelector Event
  | s, .notify rows => some (updateMarkers bearingDeg (renderPanel { s with rows }))
  | s, .change plate checked =>
      if known s.rows plate then some (updateMarkers bearingDeg (s.choose plate checked)) else none

/-! ## One bus -/

/-- What is kept of one bus. -/
structure Bus where
  marker : Option BusMarker
  lastFix : Option (ℚ × ℚ)
  bearing : Option ℚ
  trail : List (ℚ × ℚ)

def trailOf (s : NavsatSelector) (plate : String) : List (ℚ × ℚ) :=
  s.trail.filterMap fun p => if p.1 = plate then some p.2 else none

def bus (s : NavsatSelector) (plate : String) : Bus where
  marker := s.markers.get? plate
  lastFix := s.lastFix.get? plate
  bearing := s.bearings.get? plate
  trail := s.trailOf plate

/-- `bearingDeg` of a move that is one. -/
def turn (move : (ℚ × ℚ) × (ℚ × ℚ)) : Option ℚ :=
  if moved move.1 move.2 then
    some (bearingDeg move.1.1 move.1.2 move.2.1 move.2.2)
  else none

/-- The moves between successive positions. -/
def moves (trail : List (ℚ × ℚ)) : List ((ℚ × ℚ) × (ℚ × ℚ)) := trail.zip trail.tail

/-- A bus is placed. -/
def Bus.place (b : Bus) (fix : ℚ × ℚ) : Bus :=
  let bearing := (b.lastFix.bind fun prev => turn bearingDeg (prev, fix)).or b.bearing
  { marker := some ⟨fix, bearing.getD 0⟩, lastFix := some fix, bearing, trail := b.trail ++ [fix] }

/-- What the loop over `_selected` does to a bus. -/
def Bus.update (rows : List BusRow) (plate : String) (b : Bus) : Bus :=
  match (byPlate rows plate).bind BusRow.fix with
  | none => b
  | some fix => b.place bearingDeg fix

/-- The bearing changes with a real move only, and that of the bus alone. -/
theorem bearings_updateBearing (s : NavsatSelector) (plate j : String) (fix : ℚ × ℚ) :
    (s.updateBearing bearingDeg plate fix).bearings.get? j =
      if j = plate then
        ((s.lastFix.get? plate).bind fun prev => turn bearingDeg (prev, fix)).or
          (s.bearings.get? plate)
      else s.bearings.get? j := by
  unfold updateBearing turn
  cases s.lastFix.get? plate with
  | none =>
    dsimp only [Option.bind_none, Option.none_or]
    split
    · rename_i hj
      rw [hj]
    · rfl
  | some prev =>
    dsimp only [Option.bind_some]
    by_cases hmoved : moved prev fix
    · rw [if_pos hmoved, if_pos hmoved, Dict.get?_set]
      rfl
    · rw [if_neg hmoved, if_neg hmoved]
      split
      · rename_i hj
        rw [hj]
        rfl
      · rfl

theorem place_local (rows : List BusRow) :
    Local bus (place bearingDeg rows) (Bus.update bearingDeg rows) where
  own s plate := by
    unfold place Bus.update
    cases (byPlate rows plate).bind BusRow.fix with
    | none => rfl
    | some fix =>
      have hbearing := bearings_updateBearing bearingDeg s plate plate fix
      rw [if_pos rfl] at hbearing
      simp only [bus, Bus.place, Bus.mk.injEq]
      refine ⟨?_, Dict.get?_set_self _ _ _, hbearing, ?_⟩
      · rw [Dict.get?_set_self, Dict.getD, hbearing]
      · simp [trailOf, updateBearing, List.filterMap_append]
  other s plate j hj := by
    unfold place
    cases (byPlate rows plate).bind BusRow.fix with
    | none => rfl
    | some fix =>
      have hbearing := bearings_updateBearing bearingDeg s plate j fix
      rw [if_neg hj] at hbearing
      simp only [bus, Bus.mk.injEq]
      refine ⟨Dict.get?_set_ne _ _ hj, Dict.get?_set_ne _ _ hj, hbearing, ?_⟩
      simp [trailOf, updateBearing, List.filterMap_append, Ne.symm hj]

/-- The store and the selection are not for the markers to change. -/
theorem foldl_place (rows : List BusRow) (plates : List String) (s : NavsatSelector) :
    (plates.foldl (place bearingDeg rows) s).rows = s.rows ∧
      (plates.foldl (place bearingDeg rows) s).selected = s.selected := by
  induction plates generalizing s with
  | nil => exact ⟨rfl, rfl⟩
  | cons plate plates ih =>
    rw [List.foldl_cons]
    obtain ⟨hrows, hselected⟩ := ih (place bearingDeg rows s plate)
    rw [hrows, hselected]
    unfold place
    cases (byPlate rows plate).bind BusRow.fix <;> exact ⟨rfl, rfl⟩

/-- Markers that are not wanted are removed, then each selected bus is placed once. -/
theorem bus_updateMarkers {s : NavsatSelector} (h : s.selected.Nodup) (plate : String) :
    (s.updateMarkers bearingDeg).bus plate =
      if plate ∈ s.selected then
        Bus.update bearingDeg s.rows plate
          (if (byPlate s.rows plate).isSome then s.bus plate
          else { s.bus plate with marker := none })
      else { s.bus plate with marker := none } := by
  have hkept : s.removeMarkers.bus plate =
      if plate ∈ s.selected ∧ (byPlate s.rows plate).isSome then s.bus plate
      else { s.bus plate with marker := none } := by
    unfold bus removeMarkers
    rw [Dict.get?_restrict]
    by_cases hboth : plate ∈ s.selected ∧ (byPlate s.rows plate).isSome
    · rw [if_pos hboth, if_pos (by simp [hboth.1, hboth.2])]
      rfl
    · rw [if_neg hboth, if_neg (by simpa using hboth)]
      rfl
  unfold updateMarkers
  by_cases hplate : plate ∈ s.selected
  · rw [(place_local bearingDeg s.rows).foldl_of_mem h hplate, hkept, if_pos hplate]
    simp only [hplate, true_and]
  · rw [(place_local bearingDeg s.rows).foldl_of_not_mem hplate, hkept,
      if_neg fun hboth => hplate hboth.1, if_neg hplate]

/-! ## The trail -/

theorem moves_concat (trail : List (ℚ × ℚ)) (fix : ℚ × ℚ) :
    moves (trail ++ [fix]) = moves trail ++ (trail.getLast?.map fun prev => (prev, fix)).toList := by
  induction trail with
  | nil => rfl
  | cons first rest ih =>
    cases rest with
    | nil => rfl
    | cons second rest =>
      rw [List.getLast?_cons_cons]
      have htail : moves (first :: ((second :: rest) ++ [fix])) =
          (first, second) :: moves ((second :: rest) ++ [fix]) := rfl
      rw [List.cons_append, htail, ih]
      rfl

/-- The marker of a bus is at its last position, and turned into the direction of its last real
move. -/
structure Bus.Kept (b : Bus) : Prop where
  lastFix : b.lastFix = b.trail.getLast?
  bearing : b.bearing = latest (turn bearingDeg) (moves b.trail)
  marker : ∀ m, b.marker = some m →
    b.trail.getLast? = some m.position ∧ m.bearing = b.bearing.getD 0

variable {bearingDeg}

theorem Bus.Kept.place {b : Bus} (h : b.Kept bearingDeg) (fix : ℚ × ℚ) :
    (b.place bearingDeg fix).Kept bearingDeg where
  lastFix := List.getLast?_concat.symm
  bearing := by
    dsimp only [Bus.place]
    rw [moves_concat, latest_append, h.lastFix, h.bearing]
    congr 1
    cases b.trail.getLast? with
    | none => rfl
    | some prev =>
      show _ = latest _ ([] ++ [(prev, fix)])
      rw [latest_concat, latest_nil, Option.or_none]
      rfl
  marker m hm := by
    cases hm
    exact ⟨List.getLast?_concat, rfl⟩

theorem Bus.Kept.update {b : Bus} (h : b.Kept bearingDeg) (rows : List BusRow) (plate : String) :
    (b.update bearingDeg rows plate).Kept bearingDeg := by
  unfold Bus.update
  cases (byPlate rows plate).bind BusRow.fix with
  | none => exact h
  | some fix => exact h.place fix

theorem Bus.Kept.removed {b : Bus} (h : b.Kept bearingDeg) :
    ({ b with marker := none } : Bus).Kept bearingDeg :=
  ⟨h.lastFix, h.bearing, fun _ hm => absurd hm (by simp)⟩

/-! ## The overlay -/

variable (bearingDeg) in
/-- The markers are those of selected buses, and a selected bus that has a position is there. -/
structure Kept (s : NavsatSelector) : Prop where
  nodup : s.selected.Nodup
  known : ∀ plate ∈ s.selected, known s.rows plate = true
  bus (plate) : (s.bus plate).Kept bearingDeg
  shown (plate m) : s.markers.get? plate = some m → plate ∈ s.selected
  placed : ∀ plate ∈ s.selected, ∀ fix, (byPlate s.rows plate).bind BusRow.fix = some fix →
    ∃ m, s.markers.get? plate = some m ∧ m.position = fix

theorem kept_start : Kept bearingDeg {} where
  nodup := List.nodup_nil
  known _ h := absurd h List.not_mem_nil
  bus _ := ⟨rfl, rfl, fun _ hm => absurd hm (by simp [NavsatSelector.bus])⟩
  shown _ _ h := absurd h (by simp)
  placed _ h := absurd h List.not_mem_nil

variable (bearingDeg) in
theorem selected_updateMarkers (s : NavsatSelector) :
    (s.updateMarkers bearingDeg).rows = s.rows ∧
      (s.updateMarkers bearingDeg).selected = s.selected :=
  foldl_place bearingDeg s.rows s.selected s.removeMarkers

/-- A bus that has a row with a position is a known one. -/
theorem isSome_of_fix {rows : List BusRow} {plate : String} {fix : ℚ × ℚ}
    (h : (byPlate rows plate).bind BusRow.fix = some fix) : (byPlate rows plate).isSome := by
  obtain ⟨v, hv, -⟩ := Option.bind_eq_some_iff.mp h
  rw [hv]
  rfl

theorem kept_updateMarkers {s : NavsatSelector} (hnodup : s.selected.Nodup)
    (hknown : ∀ plate ∈ s.selected, known s.rows plate = true)
    (hbus : ∀ plate, (s.bus plate).Kept bearingDeg) :
    Kept bearingDeg (s.updateMarkers bearingDeg) := by
  obtain ⟨hrows, hselected⟩ := selected_updateMarkers bearingDeg s
  have hview := fun plate => bus_updateMarkers bearingDeg hnodup plate
  refine ⟨by rwa [hselected], by rwa [hselected, hrows], ?_, ?_, ?_⟩
  · intro plate
    rw [hview]
    split
    · apply Bus.Kept.update
      split
      · exact hbus plate
      · exact (hbus plate).removed
    · exact (hbus plate).removed
  · intro plate m hm
    rw [hselected]
    by_contra hplate
    have hmarker := congrArg Bus.marker (hview plate)
    rw [if_neg hplate] at hmarker
    cases hm.symm.trans hmarker
  · intro plate hplate fix hfix
    rw [hselected] at hplate
    rw [hrows] at hfix
    have hmarker := congrArg Bus.marker (hview plate)
    rw [if_pos hplate, if_pos (isSome_of_fix hfix), Bus.update, hfix] at hmarker
    exact ⟨_, hmarker, rfl⟩

theorem nodup_choose {s : NavsatSelector} (h : s.selected.Nodup) (plate : String)
    (checked : Bool) : (s.choose plate checked).selected.Nodup := by
  unfold choose
  cases checked with
  | true =>
    by_cases hplate : plate ∈ s.selected
    · simpa [hplate] using h
    · simp only [if_true, if_neg hplate]
      exact h.append (List.nodup_singleton plate) (by simpa using hplate)
  | false => exact h.filter _

theorem mem_choose (s : NavsatSelector) (plate j : String) (checked : Bool) :
    j ∈ (s.choose plate checked).selected ↔
      if plate = j then checked = true else j ∈ s.selected := by
  unfold choose
  cases checked with
  | true =>
    by_cases hplate : plate ∈ s.selected
    · by_cases hj : plate = j
      · simp [← hj, hplate]
      · simp [hplate, hj]
    · by_cases hj : plate = j
      · simp [← hj, hplate]
      · simp [hplate, hj, Ne.symm hj]
  | false =>
    by_cases hj : plate = j
    · simp [← hj]
    · simp [hj, Ne.symm hj]

theorem kept_step {s s' : NavsatSelector} {ev : Event} (h : Kept bearingDeg s)
    (hs : step bearingDeg s ev = some s') : Kept bearingDeg s' := by
  cases ev with
  | notify rows =>
    cases hs
    refine kept_updateMarkers (h.nodup.filter _) ?_ h.bus
    intro plate hplate
    exact (List.mem_filter.mp hplate).2
  | change plate checked =>
    simp only [step] at hs
    split at hs
    · rename_i hplate
      cases hs
      refine kept_updateMarkers (nodup_choose h.nodup plate checked) ?_ h.bus
      intro j hj
      rw [mem_choose] at hj
      show known s.rows j = true
      by_cases heq : plate = j
      · exact heq ▸ hplate
      · rw [if_neg heq] at hj
        exact h.known j hj
    · cases hs

/-- What an event says about the selection of a bus: a bus that is no longer reported is
dropped. -/
def choice (plate : String) : Event → Option Bool
  | .notify rows => if known rows plate then none else some false
  | .change j checked => if j = plate then some checked else none

def reported : Event → Option (List BusRow)
  | .notify rows => some rows
  | .change _ _ => none

/-- A bus is selected by its checkbox, until it is deselected or not reported. -/
theorem selected_iff {events : List Event} {s : NavsatSelector}
    (hr : (step bearingDeg).run {} events = some s) (plate : String) :
    plate ∈ s.selected ↔ latest (choice plate) events = some true := by
  have hview : ∀ s ev s', step bearingDeg s ev = some s' →
      decide (plate ∈ s'.selected) = (choice plate ev).getD (decide (plate ∈ s.selected)) := by
    intro s ev s' hs
    cases ev with
    | notify rows =>
      cases hs
      rw [(selected_updateMarkers bearingDeg _).2]
      by_cases hplate : known rows plate = true
      · simp [renderPanel, choice, hplate]
      · simp [renderPanel, choice, hplate]
    | change j checked =>
      simp only [step] at hs
      split at hs
      · cases hs
        rw [(selected_updateMarkers bearingDeg _).2]
        simp only [mem_choose, choice]
        by_cases hj : j = plate
        · simp [hj]
        · simp [hj]
      · cases hs
  have hlatest : decide (plate ∈ s.selected) =
      (latest (choice plate) events).getD (decide (plate ∈ ({} : NavsatSelector).selected)) :=
    run_latest hr hview
  refine (decide_eq_true_iff (p := plate ∈ s.selected)).symm.trans ?_
  rw [hlatest]
  cases latest (choice plate) events with
  | none => simp
  | some b => simp

theorem rows_eq {events : List Event} {s : NavsatSelector}
    (hr : (step bearingDeg).run {} events = some s) :
    s.rows = (latest reported events).getD [] := by
  refine run_latest hr ?_
  intro s ev s' hs
  cases ev with
  | notify rows =>
    cases hs
    rw [(selected_updateMarkers bearingDeg _).1]
    rfl
  | change j checked =>
    simp only [step] at hs
    split at hs
    · cases hs
      rw [(selected_updateMarkers bearingDeg _).1]
      rfl
    · cases hs

variable (bearingDeg) in
/-- What the overlay shows after some events. -/
structure Shows (events : List Event) (s : NavsatSelector) : Prop where
  selected (plate) : plate ∈ s.selected ↔ latest (choice plate) events = some true
  /-- A selected bus that is reported with a position is there. -/
  placed (plate fix) : latest (choice plate) events = some true →
    (byPlate ((latest reported events).getD []) plate).bind BusRow.fix = some fix →
      ∃ m, s.markers.get? plate = some m ∧ m.position = fix
  /-- Each marker is that of a selected bus, at the last position it was given, and has the
  bearing of its last real move. -/
  marker (plate m) : s.markers.get? plate = some m →
    latest (choice plate) events = some true ∧ (s.trailOf plate).getLast? = some m.position ∧
      m.bearing = (latest (turn bearingDeg) (moves (s.trailOf plate))).getD 0

theorem overlay_shows {events : List Event} {s : NavsatSelector}
    (hr : (step bearingDeg).run {} events = some s) : Shows bearingDeg events s := by
  have hkept : Kept bearingDeg s :=
    run_invariant (fun _ _ _ => kept_step) kept_start hr
  refine ⟨selected_iff hr, ?_, ?_⟩
  · intro plate fix hplate hfix
    rw [← rows_eq hr] at hfix
    exact hkept.placed plate ((selected_iff hr plate).mpr hplate) fix hfix
  · intro plate m hm
    have hbus := hkept.bus plate
    obtain ⟨hposition, hbearing⟩ := hbus.marker m hm
    refine ⟨(selected_iff hr plate).mp (hkept.shown plate m hm), hposition, ?_⟩
    rw [hbearing, hbus.bearing]
    rfl

/-- A bus is selected and moves north, then it stands still. -/
theorem one_bus_shown :
    ∃ s m, (step fun _ _ lat _ => lat).run {} [.notify [⟨"SJB1", some 9, some (-84)⟩],
        .change "SJB1" true, .notify [⟨"SJB1", some 10, some (-84)⟩],
        .notify [⟨"SJB1", some 10, some (-84)⟩, ⟨"SJB2", none, none⟩]] = some s ∧
      s.markers.get? "SJB1" = some m ∧ m.position = (10, -84) ∧
      m.bearing = (latest (turn fun _ _ lat _ => lat) (moves (s.trailOf "SJB1"))).getD 0 := by
  let events : List Event := [.notify [⟨"SJB1", some 9, some (-84)⟩],
    .change "SJB1" true, .notify [⟨"SJB1", some 10, some (-84)⟩],
    .notify [⟨"SJB1", some 10, some (-84)⟩, ⟨"SJB2", none, none⟩]]
  have hrun : ((step fun _ _ lat _ => lat).run {} events).map
      (fun s => (s.markers.get? "SJB1").map BusMarker.position) = some (some (10, -84)) := by
    decide +kernel
  obtain ⟨s, hs, hrun⟩ := Option.map_eq_some_iff.mp hrun
  obtain ⟨m, hm, hposition⟩ := Option.map_eq_some_iff.mp hrun
  exact ⟨s, m, hs, hm, hposition, ((overlay_shows hs).marker "SJB1" m hm).2.2⟩

end NavsatSelector

end DatabusSim
