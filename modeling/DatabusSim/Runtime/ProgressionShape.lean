import DatabusSim.Domain.StopReports
import DatabusSim.Runtime.Polls

/-!
# The shape the progression speaks of

A progression payload names the upcoming stop of the vehicle's current shape, or, where
that would go back in sequence, the stop of the last payload. The last payload may be of
another shape: the guard then names a stop the current shape does not have.
-/

namespace DatabusSim

open Compute

namespace Runtime

open Transition Kinematics

/-- The stops of the shape a vehicle is on. -/
def shapeStops (s : Runtime) (v : Vehicle) : List ShapeStop :=
  s.tables.progressionGeom.getD (shapeIdOf v) []

/-- What is asked of a step that broadcasts a progression: on a shape that has stops, the pair
it names is one of them. -/
def SpeaksOfShape (s : Runtime) (_ : Event) (s' : Runtime) : Prop :=
  ∀ vid prog v seq stopId, s'.tick.progression = s.tick.progression ++ [(vid, prog)] →
    s.fleet.get vid = some v → s.shapeStops v ≠ [] →
    prog.currentStopSequence = some seq → prog.stopId = some stopId →
      (stopId, seq) ∈ (s.shapeStops v).map ShapeStop.pair

/-- The step is the progression of the vehicle `vid`, whose telemetry had `payloads`. -/
def ProgressesVehicle (s : Runtime) (ev : Event) (vid : String) (payloads : Payloads) : Prop :=
  ev = .tick .progress ∧ ∃ turns rest, s.tick.phase = .progressing turns vid payloads rest

/-- A progression finds a last payload that is not ahead of the upcoming stop, or that names a
stop of the shape the vehicle is on. -/
def GuardKnowsShape (s : Runtime) (ev : Event) (_ : Runtime) : Prop :=
  ∀ vid payloads v candidate seq, ProgressesVehicle s ev vid payloads →
    s.fleet.get vid = some v →
    pickUpcomingStop (s.shapeStops v) v.progressM = some candidate →
    heldSequence candidate (v.kin.bind (·.progressionPrev)) = some seq →
      (heldStop candidate (v.kin.bind (·.progressionPrev)), seq) ∈
        (s.shapeStops v).map ShapeStop.pair

variable {cfg : Settings} {s s' : Runtime} {ev : Event}

/-- What a step of the tick loop adds to its progressions. -/
theorem tick_progression {tables : GeometryTables} {t t' : TickState} {tev : TickLoop.Event}
    (h : TickLoop.step cfg.ticks tables t tev = some t') :
    (t'.loop.progression = t.loop.progression ∧ (tev = .progress →
        ∀ turns vid payloads rest, t.loop.phase = .progressing turns vid payloads rest →
          t.fleet.get vid = none)) ∨
      ∃ turns vid payloads rest v, tev = .progress ∧
        t.loop.phase = .progressing turns vid payloads rest ∧ t.fleet.get vid = some v ∧
        t'.loop.progression = t.loop.progression ++
          [(vid, TickLoop.progressionOf cfg.ticks tables v payloads)] := by
  rcases TickLoop.step_cases h with ⟨rfl, last, -, rfl⟩ |
    ⟨d, now, turns, vid, rest, rfl, -, rfl⟩ | ⟨rfl, turns, vid, payloads, rest, hphase, rfl⟩ |
    ⟨rfl, turns, -, rfl⟩
  · refine .inl ⟨?_, nofun⟩
    simp only [TickLoop.wake]
    split <;> rfl
  · refine .inl ⟨?_, nofun⟩
    simp only [TickLoop.turn]
    split
    · split
      · rfl
      · split <;> rfl
    · rfl
  · cases hv : t.fleet.get vid with
    | none =>
      refine .inl ⟨by simp only [TickLoop.progress, hv], ?_⟩
      rintro - turns' vid' payloads' rest' hphase'
      rw [hphase] at hphase'
      cases hphase'
      exact hv
    | some v =>
      refine .inr ⟨turns, vid, payloads, rest, v, rfl, hphase, hv, ?_⟩
      simp only [TickLoop.progress, hv]
  · exact .inl ⟨rfl, nofun⟩

/-- A progression is broadcast for a vehicle of the fleet, and nothing else is. -/
theorem progression_step (hs : step cfg s ev = some s') :
    (s'.tick.progression = s.tick.progression ∧
        ∀ vid payloads, ProgressesVehicle s ev vid payloads → s.fleet.get vid = none) ∨
      ∃ vid payloads v, ProgressesVehicle s ev vid payloads ∧ s.fleet.get vid = some v ∧
        s'.tick.progression = s.tick.progression ++
          [(vid, TickLoop.progressionOf cfg.ticks s.tables v payloads)] := by
  obtain ⟨-, ⟨tev, rfl, ht⟩ | ⟨hev, htick⟩⟩ := step_tick hs
  · rcases tick_progression ht with
      ⟨hsame, hnone⟩ | ⟨turns, vid, payloads, rest, v, rfl, hphase, hv, hnew⟩
    · refine .inl ⟨hsame, ?_⟩
      rintro vid payloads ⟨hprogress, turns, rest, hphase⟩
      exact hnone (Event.tick.inj hprogress) turns vid payloads rest hphase
    · exact .inr ⟨vid, payloads, v, ⟨rfl, turns, rest, hphase⟩, hv, hnew⟩
  · exact .inl ⟨by rw [htick], fun _ _ h => absurd h.1 (hev _)⟩

theorem progressesVehicle_unique {vid vid' : String} {payloads payloads' : Payloads}
    (h : ProgressesVehicle s ev vid payloads) (h' : ProgressesVehicle s ev vid' payloads') :
    vid' = vid := by
  obtain ⟨-, turns, rest, hphase⟩ := h
  obtain ⟨-, turns', rest', hphase'⟩ := h'
  rw [hphase] at hphase'
  cases hphase'
  rfl

theorem progressionOf_names (w : TickSettings) {v : Vehicle} (payloads : Payloads)
    {candidate : ShapeStop}
    (h : pickUpcomingStop (s.shapeStops v) v.progressM = some candidate) :
    (TickLoop.progressionOf w s.tables v payloads).currentStopSequence =
        some (guardSequence candidate (v.kin.bind (·.progressionPrev))).1 ∧
      (TickLoop.progressionOf w s.tables v payloads).stopId =
        some (guardSequence candidate (v.kin.bind (·.progressionPrev))).2 :=
  computeStopStatus_names h

/-- A payload names a stop of its vehicle's shape exactly when the guard does. -/
theorem speaks_iff (hs : step cfg s ev = some s') :
    SpeaksOfShape s ev s' ↔ GuardKnowsShape s ev s' := by
  rcases progression_step hs with ⟨hsame, hnone⟩ | ⟨vid, payloads, v, hprogress, hv, hnew⟩
  · refine iff_of_true ?_ ?_
    · intro vid prog v seq stopId hnew
      simp [hsame] at hnew
    · intro vid payloads v candidate seq hprogress hv
      rw [hnone vid payloads hprogress] at hv
      cases hv
  · constructor
    · intro hspeaks vid' payloads' v' candidate seq hprogress' hv' hcandidate hheld
      obtain rfl := progressesVehicle_unique hprogress hprogress'
      rw [hv] at hv'
      cases hv'
      have hstops : s.shapeStops v ≠ [] := by
        intro hnil
        rw [hnil] at hcandidate
        cases hcandidate
      obtain ⟨hseq, hstop⟩ := progressionOf_names cfg.ticks payloads hcandidate
      exact (names_iff hcandidate).mp (hspeaks _ _ v _ _ hnew hv hstops hseq hstop) seq hheld
    · intro hguard vid' prog v' seq stopId hnew' hv' hstops hseq hstop
      rw [hnew] at hnew'
      obtain ⟨rfl, rfl⟩ : vid = vid' ∧
          TickLoop.progressionOf cfg.ticks s.tables v payloads = prog := by
        simpa using hnew'
      rw [hv] at hv'
      cases hv'
      obtain ⟨candidate, hcandidate⟩ := pickUpcomingStop_some v.progressM hstops
      obtain ⟨hseq', hstop'⟩ := progressionOf_names cfg.ticks payloads hcandidate
      rw [hseq'] at hseq
      rw [hstop'] at hstop
      cases hseq
      cases hstop
      exact (names_iff hcandidate).mpr fun seq hheld =>
        hguard vid payloads v candidate seq hprogress hv hcandidate hheld

/-- In every run, the progression speaks of the shapes its vehicles are on if and only if it
never finds a last payload ahead of the upcoming stop whose stop the current shape does not
have. -/
theorem progression_speaks_iff (cfg : Settings) (draws : String → Draws)
    (shapes : Except PyExc ShapesFile) (progressionGeom : Dict String (List ShapeStop))
    (schedule : Except PyExc PyVal) (es : List Event) :
    System.Always (step cfg) SpeaksOfShape
        (start cfg draws shapes progressionGeom schedule) es ↔
      System.Always (step cfg) GuardKnowsShape
        (start cfg draws shapes progressionGeom schedule) es := by
  refine always_iff (I := fun _ => True) ?_ (fun _ _ _ _ _ _ => trivial) trivial es
  exact fun _ _ _ _ hs => speaks_iff hs

/-! ## A stop of the shape before -/

/-- Two shapes of a hundred metres. -/
def twoShapes : ShapesFile where
  shapes := Dict.ofList
    [("hacia_artes", ⟨"hacia_artes", [⟨0, 0, 0⟩, ⟨0, 1, 1 / 10⟩]⟩),
      ("desde_artes", ⟨"desde_artes", [⟨0, 1, 0⟩, ⟨0, 0, 1 / 10⟩]⟩)]
  stops := []

/-- The stops of the first, and those of the second. -/
def twoStopLists : Dict String (List ShapeStop) :=
  Dict.ofList
    [("hacia_artes", [⟨"A1", 1, 0, 0, 0⟩, ⟨"A2", 2, 0, 1, 100⟩]),
      ("desde_artes", [⟨"B1", 1, 0, 1, 0⟩, ⟨"B2", 2, 0, 0, 100⟩])]

/-- One vehicle is ticked. -/
def oneVehicle : Settings :=
  { plainSettings with ticks := { plainSettings.ticks with onlyVehicles := ["unit-01"] } }

def twoShapesStart : Runtime :=
  start oneVehicle (fun _ => steadyDraws) (.ok twoShapes) twoStopLists noFile

/-- The vehicle drives off from its first stop, and is bound to a run on the other shape before
its next tick. -/
def reboundUnderWay : List Event :=
  [.control 0 noFile steadyDraws "unit-01" "transmit" [(.str "on", .bool true)],
    .control 0 noFile steadyDraws "unit-01" "moving" [(.str "on", .bool true)],
    .tick .wake, .tick (.turn steadyDraws 1), .tick .progress] ++
  List.replicate 5 (.tick (.turn steadyDraws 1)) ++
  [.tick .push, .trackRun 1 "r1" "unit-01" "t1" "desde_artes" none, .pollWake,
    .pollReply 2 (stateReply "Confirmed"), .tick .wake, .tick (.turn steadyDraws 2)]

/-- At the start of the new shape the payload names the second stop of the old one. -/
theorem names_stop_of_last_shape :
    ¬System.Always (step oneVehicle) SpeaksOfShape twoShapesStart
      (reboundUnderWay ++ [.tick .progress]) := by
  intro h
  have hrun : ((System.run (step oneVehicle) twoShapesStart reboundUnderWay).bind fun s =>
      (step oneVehicle s (.tick .progress)).map fun s' =>
        decide ((s.fleet.get "unit-01").map (fun v => (s.shapeStops v).map ShapeStop.pair) =
          some [("B1", 1), ("B2", 2)]) &&
        decide ((s'.tick.progression.drop s.tick.progression.length).map
          (fun p => (p.1, p.2.currentStopSequence, p.2.stopId)) =
            [("unit-01", some 2, some "A2")])) = some true := by
    decide +kernel
  obtain ⟨s, s', hs, hs', hview⟩ := last_step hrun
  simp only [Bool.and_eq_true, decide_eq_true_eq, Option.map_eq_some_iff] at hview
  obtain ⟨⟨v, hv, hstops⟩, hnamed⟩ := hview
  rcases progression_step hs' with ⟨hsame, -⟩ | ⟨vid, payloads, u, -, hu, hnew⟩
  · rw [hsame, List.drop_length] at hnamed
    cases hnamed
  · rw [hnew, List.drop_left, List.map_singleton, List.singleton_inj] at hnamed
    simp only [Prod.mk.injEq] at hnamed
    obtain ⟨rfl, hseq, hstop⟩ := hnamed
    have hne : s.shapeStops v ≠ [] := by
      intro hnil
      rw [hnil] at hstops
      cases hstops
    have hmem := always_last h hs hs' "unit-01" _ v 2 "A2" hnew hv hne hseq hstop
    rw [hstops] at hmem
    revert hmem
    decide

end Runtime

end DatabusSim
