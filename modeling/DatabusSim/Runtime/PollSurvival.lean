import DatabusSim.Runtime.Polls

/-!
# The poll loop and its runs

Only the GET of a run's state stands inside the `try` of `poll_loop`. What the state does
to the fleet stands outside: it raises for a vehicle that is not on the roster, which no
caller of `track` but the view rules out, and for a state that cannot be hashed. Nothing
else ends the loop, so these two decide whether every round reaches every run.
-/

namespace DatabusSim

namespace RunBinder

/-- The outcome of a poll acts on the vehicle of its run: the state has changed, or the run
is lost. -/
def Touches (b : BoundRun) (now : ℚ) : Except PyExc (Option LifecycleState) → Prop
  | .error _ => False
  | .ok none => losesRun now b = true
  | .ok (some st) => b.lifecycleState ≠ some st

/-- A poll returns unless what it does to the vehicle of its run raises. -/
theorem processPoll_ok_iff {s : BinderState} {now : ℚ} {runId : String} {ref : Ref}
    {out : Except PyExc (Option LifecycleState)} :
    (∃ s', processPoll s now runId ref out = .ok s') ↔
      (Touches (s.binder.heap ref) now out →
        (s.binder.heap ref).vehicleId ∈ s.fleet.ids ∧ out ≠ .ok (some .unhashable)) := by
  have h := processPoll_polled s now runId ref out
  generalize processPoll s now runId ref out = res at h ⊢
  rw [FleetState.mem_ids_iff]
  cases h with
  | failed exc => exact iff_of_true ⟨_, rfl⟩ (fun h => nomatch h)
  | kept hl => exact iff_of_true ⟨_, rfl⟩ fun ht => by rw [Touches, hl] at ht; cases ht
  | lost v f' hl hv =>
    rw [hv]
    exact iff_of_true ⟨_, rfl⟩ fun _ => ⟨rfl, by simp⟩
  | lostOffRoster hl hv =>
    rw [hv]
    exact iff_of_false (fun ⟨_, h⟩ => nomatch h) fun h => nomatch (h hl).1
  | same st hst => exact iff_of_true ⟨_, rfl⟩ fun ht => absurd hst ht
  | changed st v f' hst hu hv =>
    rw [hv]
    refine iff_of_true ⟨_, rfl⟩ fun _ => ⟨rfl, fun h => hu ?_⟩
    exact Option.some.inj (Except.ok.inj h)
  | unhashable v f' hst =>
    exact iff_of_false (fun ⟨_, h⟩ => nomatch h) fun h => absurd rfl (h hst).2
  | changedOffRoster st hst hv =>
    rw [hv]
    exact iff_of_false (fun ⟨_, h⟩ => nomatch h) fun h => nomatch (h hst).1

/-- A resumed loop goes on exactly when the poll has returned. -/
theorem resume_alive_iff {s : BinderState} (hwf : s.binder.WellFormed) {now : ℚ} {round : Round}
    {rest : List String} {runId : String} {ref : Ref} {out : Except PyExc (Option LifecycleState)}
    (hl : s.binder.loop = .awaiting round rest runId ref) :
    (∀ exc, (resume s now round rest runId ref out).binder.loop ≠ .dead exc) ↔
      ∃ s', processPoll s now runId ref out = .ok s' := by
  unfold resume
  cases hp : processPoll s now runId ref out with
  | error r => exact iff_of_false (fun h => h _ rfl) (fun ⟨_, h⟩ => nomatch h)
  | ok s' =>
    refine iff_of_true (fun exc hdead => ?_) ⟨_, rfl⟩
    have hround := advance_inRound s'.binder round.ids rest round.visits (hwf.passed hl)
    obtain ⟨ref', href⟩ := hround.dead exc hdead
    exact processPoll_hashable (hwf.hashable_awaiting hl) hp ref' href

end RunBinder

namespace Runtime

open Transition RunBinder

/-- The state a poll of the object `b` has answered is on its vehicle and, where a callback is
installed, has been passed to it. -/
structure Reaches (s s' : Runtime) (now : ℚ) (runId : String) (b : BoundRun)
    (st : LifecycleState) : Prop where
  fleet : ∃ v, s.fleet.get b.vehicleId = some v ∧
    s'.fleet.get b.vehicleId = some (vehicleAfter now b st v)
  callback : s.binder.hasCallback ∨ s.binder.autoStarts ≠ [] →
    s'.binder.stateChanges = s.binder.stateChanges ++ [⟨runId, b.lifecycleState, st⟩]

/-- Where a step may leave the round: a wake starts one over the tracked runs, and a poll goes
on with its own. -/
def KeepsRound (s : Runtime) (ev : Event) (s' : Runtime) : Prop :=
  match ev, s.binder.loop with
  | .pollWake, _ => ∀ round, s'.binder.loop.round? = some round →
      s'.binder.GoesOn s.binder.bindings.keys [] round
  | .pollReply _ _, .awaiting before _ _ _ => ∀ round, s'.binder.loop.round? = some round →
      s'.binder.GoesOn before.ids before.visits round
  | _, _ => True

/-- The loop lives, a round that ends has come to every run it started with and left out only
those it may, and a changed state reaches the fleet and the callback. -/
structure PollSurvives (s : Runtime) (ev : Event) (s' : Runtime) : Prop where
  alive : ∀ exc, s'.binder.loop ≠ .dead exc
  complete : ∀ last, s'.binder.loop = .sleeping last → last.visits.map Visit.runId = last.ids
  keepsRound : KeepsRound s ev s'
  reaches : AtPoll (fun now http runId ref => ∀ st,
    DatabusClient.getRunState http = .ok (some st) → (s.binder.heap ref).lifecycleState ≠ some st →
      Reaches s s' now runId (s.binder.heap ref) st) s ev

/-- The condition on one step: what a poll has to do to a vehicle, it can do. -/
def FindsVehicle (s : Runtime) (ev : Event) : Prop :=
  AtPoll (fun now http _ ref =>
    Touches (s.binder.heap ref) now (DatabusClient.getRunState http) →
      (s.binder.heap ref).vehicleId ∈ s.fleet.ids ∧
        DatabusClient.getRunState http ≠ .ok (some .unhashable)) s ev

variable {cfg : Settings} {s s' : Runtime} {ev : Event}

theorem reaches_resume {now : ℚ} {http : Http} {round : Round} {rest : List String}
    {runId : String} {ref : Ref} {st : LifecycleState} {t : BinderState}
    (hout : DatabusClient.getRunState http = .ok (some st))
    (hst : (s.binder.heap ref).lifecycleState ≠ some st)
    (hok : processPoll s.binderState now runId ref (DatabusClient.getRunState http) = .ok t) :
    Reaches s (s.withBinder (RunBinder.resume s.binderState now round rest runId ref
      (DatabusClient.getRunState http))) now runId (s.binder.heap ref) st := by
  have hp := processPoll_polled s.binderState now runId ref (DatabusClient.getRunState http)
  unfold RunBinder.resume
  rw [hok] at hp ⊢
  rw [hout] at hp
  cases hp with
  | same _ hsame => exact absurd hsame hst
  | changed _ v f' _ _ hv ha =>
    exact ⟨⟨v, hv, ha.self⟩, fun h => stateChanges_announce _ h⟩

theorem loop_handOver (b : RunBinder) (now : ℚ) (tr : Tracked) :
    (handOver b now tr).loop = b.loop := by
  unfold handOver
  split <;> rfl

theorem loop_handedOver (now : ℚ) (runs : List Tracked) (b : RunBinder) :
    (runs.foldl (fun b tr => handOver b now tr) b).loop = b.loop := by
  induction runs generalizing b with
  | nil => rfl
  | cons tr runs ih => rw [List.foldl_cons, ih, loop_handOver]

/-- Off its own events the loop stays where it is. -/
theorem step_loop (hs : step cfg s ev = some s') (hwake : ev ≠ .pollWake)
    (hreply : ∀ now http, ev ≠ .pollReply now http) : s'.binder.loop = s.binder.loop := by
  cases ev with
  | pollWake => exact absurd rfl hwake
  | pollReply now http => exact absurd rfl (hreply now http)
  | scheduler now ev =>
    obtain ⟨scheduler, -, rfl⟩ := Option.map_eq_some_iff.mp hs
    exact loop_handedOver now _ _
  | trackRun =>
    simp only [step] at hs
    split at hs <;> cases hs
    rfl
  | untrackTimer i =>
    obtain ⟨runId, -, rfl⟩ := Option.map_eq_some_iff.mp hs
    rfl
  | autoStart now i =>
    obtain ⟨a, -, rfl⟩ := Option.map_eq_some_iff.mp hs
    rfl
  | tick ev =>
    obtain ⟨t, -, rfl⟩ := Option.map_eq_some_iff.mp hs
    rfl
  | _ =>
    cases hs
    rfl

/-- The loop of a living binder, with the binder in order. -/
structure Alive (s : Runtime) : Prop where
  wellFormed : s.binder.WellFormed
  alive : ∀ exc, s.binder.loop ≠ .dead exc

/-- The end of a poll. -/
theorem survives_pollReply_iff (h : s.Alive) {now : ℚ} {http : Http}
    (hs : step cfg s (.pollReply now http) = some s') :
    PollSurvives s (.pollReply now http) s' ↔ FindsVehicle s (.pollReply now http) := by
  have hwf' := wellFormed_step h.wellFormed hs
  cases hl : s.binder.loop with
  | awaiting round rest runId ref =>
    have hs' := step_pollReply hl hs
    have halive : (∀ exc, s'.binder.loop ≠ .dead exc) ↔
        (Touches (s.binder.heap ref) now (DatabusClient.getRunState http) →
          (s.binder.heap ref).vehicleId ∈ s.fleet.ids ∧
            DatabusClient.getRunState http ≠ .ok (some .unhashable)) := by
      rw [hs']
      exact (resume_alive_iff (s := s.binderState) h.wellFormed hl).trans processPoll_ok_iff
    simp only [FindsVehicle, AtPoll, hl]
    refine ⟨fun hp => halive.mp hp.alive, fun hfinds => ?_⟩
    have hlive := halive.mpr hfinds
    obtain ⟨t, ht⟩ : ∃ t, processPoll s.binderState now runId ref
        (DatabusClient.getRunState http) = .ok t := processPoll_ok_iff.mpr hfinds
    refine ⟨hlive, fun _ => hwf'.passedAll, ?_, ?_⟩
    · simp only [KeepsRound, hl]
      intro round' hround'
      subst hs'
      unfold withBinder RunBinder.resume at hround' ⊢
      rw [ht] at hround' ⊢
      have hwalk := advance_inRound t.binder round.ids rest round.visits (h.wellFormed.passed hl)
      exact hwalk.goesOn round' hround'
    · simp only [AtPoll, hl]
      intro st hout hst
      rw [hs']
      exact reaches_resume hout hst ht
  | _ =>
    simp only [step, hl] at hs
    cases hs

theorem survives_pollWake (h : s.Alive) (hs : step cfg s .pollWake = some s') :
    PollSurvives s .pollWake s' := by
  have hwf' := wellFormed_step h.wellFormed hs
  simp only [step] at hs
  split at hs
  · rename_i last hl
    cases hs
    have hround :=
      advance_inRound s.binder s.binder.bindings.keys s.binder.bindings.keys [] (by simp)
    -- no object of a living binder has a state that cannot be hashed
    have hlive : ∀ exc, s.binder.wake.loop ≠ .dead exc := by
      intro exc hdead
      obtain ⟨ref, href⟩ := hround.dead exc hdead
      exact h.wellFormed.hashable h.alive ref href
    refine ⟨hlive, fun _ => hwf'.passedAll, hround.goesOn, ?_⟩
    simp only [AtPoll]
  · cases hs

/-- The other events leave the loop and its round alone. -/
theorem survives_other (h : s.Alive) (hs : step cfg s ev = some s') (hwake : ev ≠ .pollWake)
    (hreply : ∀ now http, ev ≠ .pollReply now http) : PollSurvives s ev s' := by
  have hlive : ∀ exc, s'.binder.loop ≠ .dead exc := by
    rw [step_loop hs hwake hreply]
    exact h.alive
  refine ⟨hlive, fun _ => (wellFormed_step h.wellFormed hs).passedAll, ?_, ?_⟩
  · unfold KeepsRound
    split
    · exact absurd rfl hwake
    · exact absurd rfl (hreply _ _)
    · trivial
  · unfold AtPoll
    split
    · exact absurd rfl (hreply _ _)
    · trivial

/-- Along every run of the runtime: the poll loop survives, passes every tracked run in each
round and brings each change to the fleet and the callback, if and only if every poll that acts on
a vehicle finds it on the roster, and brings a state that can be hashed. -/
theorem poll_survives_iff (cfg : Settings) (draws : String → Draws)
    (shapes : Except PyExc ShapesFile) (progressionGeom : Dict String (List ShapeStop))
    (schedule : Except PyExc PyVal) (es : List Event) :
    System.Always (step cfg) PollSurvives
        (start cfg draws shapes progressionGeom schedule) es ↔
      System.Always (step cfg) (fun s ev _ => FindsVehicle s ev)
        (start cfg draws shapes progressionGeom schedule) es := by
  have hiff : ∀ s ev s', Alive s → step cfg s ev = some s' →
      (PollSurvives s ev s' ↔ FindsVehicle s ev) := by
    intro s ev s' h hs
    by_cases hwake : ev = .pollWake
    · subst hwake
      exact iff_of_true (survives_pollWake h hs) (by simp only [FindsVehicle, AtPoll])
    · by_cases hreply : ∀ now http, ev ≠ .pollReply now http
      · refine iff_of_true (survives_other h hs hwake hreply) ?_
        unfold FindsVehicle AtPoll
        split
        · exact absurd rfl (hreply _ _)
        · trivial
      · push Not at hreply
        obtain ⟨now, http, rfl⟩ := hreply
        exact survives_pollReply_iff h hs
  refine always_iff (I := Alive) hiff (fun s ev s' h hs hq => ?_) ?_ es
  · exact ⟨wellFormed_step h.wellFormed hs, ((hiff s ev s' h hs).mpr hq).alive⟩
  · exact ⟨wellFormed_start cfg draws shapes progressionGeom schedule, fun exc h => nomatch h⟩

/-! ## A vehicle that is not on the roster -/

/-- The schedule has one entry, for a vehicle that does not exist. -/
def ghostStart : Runtime :=
  plainStart noFile (Scheduler.scheduleOf [Scheduler.shuttle "A" "ghost"])

/-- The scheduler creates its run and hands it to the binder. -/
def ghostRun : List Event :=
  [.scheduler 0 (.tick 40000),
    .scheduler 1 (.createReply (.response 201 (some (.dict [(.str "status", .str "success"),
      (.str "run_id", .str "r1"), (.str "run_lifecycle_state", .str "Initialized")])))),
    .scheduler 2 (.locateReply (.ok none)), .pollWake]

/-- Its first state raises the `KeyError` of `_require`, which ends the loop. -/
theorem ghost_kills :
    ¬ System.Always (step plainSettings) PollSurvives ghostStart
      (ghostRun ++ [.pollReply 3 (stateReply "Initialized")]) := by
  intro h
  have hrun : (System.run (step plainSettings) ghostStart
      (ghostRun ++ [.pollReply 3 (stateReply "Initialized")])).map
        (fun s => s.binder.loop.round?.isNone) = some true := by
    decide +kernel
  obtain ⟨s, hs, hdead⟩ := Option.map_eq_some_iff.mp hrun
  have halive := always_end (R := fun s => ∀ exc, s.binder.loop ≠ .dead exc)
    (always_mono (fun _ _ _ hp => hp.alive) h) (by simp) hs
  cases hl : s.binder.loop with
  | dead exc => exact halive exc hl
  | _ =>
    rw [hl] at hdead
    cases hdead

end Runtime

end DatabusSim
