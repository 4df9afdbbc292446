import DatabusSim.Runtime.Polls

/-!
# Lost runs

`get_run_state` answers `None` for a 404, but also for every failure it swallows, and
`poll_loop` loses a run on `None`. Its own `except` is reached by the few failures the
client lets through.
-/

namespace DatabusSim

namespace DatabusClient

/-- Databus answers that there is no such run. -/
def NotFound : Http → Prop
  | .raised _ => False
  | .response status _ => status = 404

/-- The lifecycle state an exchange carries. -/
def stateIn : Http → Option LifecycleState
  | .response status (some (.dict items)) =>
      if isSuccess status then (PyVal.getItem? items "run_lifecycle_state").bind stateOfValue
      else none
  | _ => none

/-- A success whose body is not JSON, is `null`, or is an object without a state. -/
def Stateless : Option PyVal → Prop
  | none => True
  | some .null => True
  | some (.dict items) => (PyVal.getItem? items "run_lifecycle_state").bind stateOfValue = none
  | some _ => False

/-- The failures, other than a 404, that the client answers `None` for. -/
def Swallowed : Http → Prop
  | .raised exc => ∃ text, exc = .httpError text
  | .response status json => status ≠ 404 ∧ (isSuccess status = false ∨ Stateless json)

theorem Swallowed.not_notFound {http : Http} (h : Swallowed http) : ¬ NotFound http := by
  cases http with
  | raised exc => exact id
  | response status json => exact h.1

/-- The body of an answer other than 404, as `get_run_state` reads it. -/
theorem getRunState_response {status : Nat} (json : Option PyVal) (h : status ≠ 404) :
    getRunState (.response status json) =
      if !isSuccess status then .ok none
      else
        match json with
        | none => .ok none
        | some .null => .ok none
        | some (.dict items) =>
            .ok ((PyVal.getItem? items "run_lifecycle_state").bind stateOfValue)
        | some _ => .error (.attributeError "object has no attribute 'get'") := by
  unfold getRunState getRun
  cases hsuccess : isSuccess status with
  | false => simp [bind, Except.bind, pure, Except.pure, hsuccess]
  | true =>
    rcases json with _ | body
    · simp [bind, Except.bind, pure, Except.pure, hsuccess]
    · cases body <;> simp [bind, Except.bind, pure, Except.pure, hsuccess]

theorem getRunState_none_iff {http : Http} :
    getRunState http = .ok none ↔ NotFound http ∨ Swallowed http := by
  cases http with
  | raised exc =>
    cases exc <;> simp [getRunState, getRun, NotFound, Swallowed, bind, Except.bind, pure,
      Except.pure]
  | response status json =>
    by_cases h : status = 404
    · subst h
      exact iff_of_true rfl (.inl rfl)
    · rw [getRunState_response json h]
      cases hsuccess : isSuccess status with
      | false => simp [NotFound, Swallowed, h, hsuccess]
      | true =>
        rcases json with _ | body
        · simp [NotFound, Swallowed, Stateless, h]
        · cases body <;> simp [NotFound, Swallowed, Stateless, h, hsuccess]

theorem getRunState_some_iff {http : Http} {st : LifecycleState} :
    getRunState http = .ok (some st) ↔ stateIn http = some st := by
  cases http with
  | raised exc =>
    cases exc <;> simp [getRunState, getRun, stateIn, bind, Except.bind, pure, Except.pure]
  | response status json =>
    by_cases h : status = 404
    · subst h
      rcases json with _ | body
      · exact iff_of_false (fun h => nomatch h) (fun h => nomatch h)
      · cases body <;> exact iff_of_false (fun h => nomatch h) (fun h => nomatch h)
    · rw [getRunState_response json h]
      cases hsuccess : isSuccess status with
      | false =>
        rcases json with _ | body
        · simp [stateIn]
        · cases body <;> simp [stateIn, hsuccess]
      | true =>
        rcases json with _ | body
        · simp [stateIn]
        · cases body <;> simp [stateIn, hsuccess]

end DatabusClient

namespace RunBinder

/-- A poll loses a run exactly when databus did not find it and the binder no longer waits. -/
theorem processPoll_loses {s : BinderState} {now : ℚ} {runId : String} {ref : Ref}
    {out : Except PyExc (Option LifecycleState)} :
    (settle (processPoll s now runId ref out)).binder.lost = s.binder.lost ↔
      (out = .ok none → losesRun now (s.binder.heap ref) = false) := by
  have h := processPoll_polled s now runId ref out
  generalize processPoll s now runId ref out = res at h ⊢
  cases h with
  | failed exc => exact iff_of_true rfl (by simp)
  | kept hl => exact iff_of_true rfl fun _ => hl
  | lost v f' hl => simp [settle, loggedLost, untrack, hl]
  | lostOffRoster hl => simp [settle, loggedLost, hl]
  | same st => exact iff_of_true rfl (by simp)
  | changed st => exact iff_of_true (lost_announce _ _) (by simp)
  | unhashable => exact iff_of_true rfl (by simp)
  | changedOffRoster => exact iff_of_true rfl (by simp)

/-- A poll that brings no state and loses no run changes nothing. -/
theorem processPoll_idle {s : BinderState} {now : ℚ} {runId : String} {ref : Ref}
    {out : Except PyExc (Option LifecycleState)} (hout : ∀ st, out ≠ .ok (some st))
    (hkept : out = .ok none → losesRun now (s.binder.heap ref) = false) :
    processPoll s now runId ref out = .ok s := by
  cases out with
  | error exc => rfl
  | ok found =>
    cases found with
    | none => exact processPoll_kept (hkept rfl)
    | some st => exact absurd rfl (hout st)

theorem resume_lost (s : BinderState) (now : ℚ) (round : Round) (rest : List String)
    (runId : String) (ref : Ref) (out : Except PyExc (Option LifecycleState)) :
    (resume s now round rest runId ref out).binder.lost =
      (settle (processPoll s now runId ref out)).binder.lost := by
  obtain ⟨loop, h⟩ := resume_eq s now round rest runId ref out
  rw [h]

end RunBinder

namespace Runtime

open Transition RunBinder DatabusClient

/-- The vehicles, the table and the objects are as they were, and the loop goes on. -/
structure Untouched (s s' : Runtime) : Prop where
  fleet : s'.fleet = s.fleet
  bindings : s'.binder.bindings = s.binder.bindings
  heap : s'.binder.heap = s.binder.heap
  alive : ∀ exc, s'.binder.loop ≠ .dead exc

/-- A poll that databus does not answer with a 404 loses no run, and one that brings no state
leaves everything to the next poll. -/
def LosesOnlyNotFound (s : Runtime) (ev : Event) (s' : Runtime) : Prop :=
  AtPoll (fun _ http _ _ => ¬ NotFound http →
    s'.binder.lost = s.binder.lost ∧ (stateIn http = none → Untouched s s')) s ev

/-- The condition on one step: a failure that the client swallows meets a run that has never
been seen and is within its grace. -/
def SwallowsInGrace (s : Runtime) (ev : Event) : Prop :=
  AtPoll (fun now http _ ref => Swallowed http →
    (s.binder.heap ref).lifecycleState = none ∧
      now - (s.binder.heap ref).trackedSince ≤ runLostGraceS) s ev

theorem untouched_resume {s : Runtime} (hwf : s.binder.WellFormed) {now : ℚ} {round : Round}
    {rest : List String} {runId : String} {ref : Ref} {out : Except PyExc (Option LifecycleState)}
    (hl : s.binder.loop = .awaiting round rest runId ref)
    (hidle : processPoll s.binderState now runId ref out = .ok s.binderState) :
    Untouched s (s.withBinder (RunBinder.resume s.binderState now round rest runId ref out)) := by
  have hround := advance_inRound s.binder round.ids rest round.visits (hwf.passed hl)
  unfold RunBinder.resume
  rw [hidle]
  refine ⟨rfl, rfl, rfl, fun exc hdead => ?_⟩
  obtain ⟨ref', href⟩ := hround.dead exc hdead
  exact hwf.hashable_awaiting hl ref' href

/-- Along every run of the runtime: only a genuine 404 loses a run, and every other failure
leaves it as it was, if and only if each failure the client swallows meets a run that was never
seen and is within its grace. -/
theorem loses_only_notFound_iff (cfg : Settings) (draws : String → Draws)
    (shapes : Except PyExc ShapesFile) (progressionGeom : Dict String (List ShapeStop))
    (schedule : Except PyExc PyVal) (es : List Event) :
    System.Always (step cfg) LosesOnlyNotFound
        (start cfg draws shapes progressionGeom schedule) es ↔
      System.Always (step cfg) (fun s ev _ => SwallowsInGrace s ev)
        (start cfg draws shapes progressionGeom schedule) es := by
  refine always_iff (I := fun s => s.binder.WellFormed) ?_
    (fun s e s' h hs _ => wellFormed_step h hs)
    (wellFormed_start cfg draws shapes progressionGeom schedule) es
  intro s ev s' hwf hs
  refine atPoll_congr ?_
  rintro now http round rest runId ref rfl hl
  rw [step_pollReply hl hs]
  have hlost : (RunBinder.resume s.binderState now round rest runId ref
      (getRunState http)).binder.lost = s.binder.lost ↔
      (getRunState http = .ok none → losesRun now (s.binder.heap ref) = false) := by
    rw [resume_lost]
    exact processPoll_loses
  constructor
  · intro h hswallowed
    have hkept := hlost.mp (h hswallowed.not_notFound).1
    exact losesRun_false.mp (hkept (getRunState_none_iff.mpr (.inr hswallowed)))
  · intro h hfound
    have hkept : getRunState http = .ok none → losesRun now (s.binder.heap ref) = false :=
      fun hnone => losesRun_false.mpr (h ((getRunState_none_iff.mp hnone).resolve_left hfound))
    refine ⟨hlost.mpr hkept, fun hstate => untouched_resume hwf hl (processPoll_idle ?_ hkept)⟩
    intro st hst
    rw [getRunState_some_iff, hstate] at hst
    cases hst

/-! ## A server error -/

/-- A run is tracked and confirmed, and polled once more. -/
def confirmedRun : List Event :=
  [.trackRun 0 "r1" "unit-01" "t1" "hacia_artes" none, .pollWake,
    .pollReply 1 (stateReply "Confirmed"), .pollWake]

/-- One answer of status 500 loses the run. -/
theorem server_error_loses :
    ¬ System.Always (step plainSettings) LosesOnlyNotFound (plainStart noFile noFile)
      (confirmedRun ++ [.pollReply 3 (.response 500 none)]) := by
  intro h
  have hrun : ((System.run (step plainSettings) (plainStart noFile noFile) confirmedRun).bind
      fun s => (step plainSettings s (.pollReply 3 (.response 500 none))).map fun s' =>
        (s.polled, s.binder.lost, s'.binder.lost)) =
      some (some 0, [], ["r1"]) := by
    decide +kernel
  obtain ⟨s, s', hs, hs', hview⟩ := last_step hrun
  simp only [Prod.mk.injEq] at hview
  obtain ⟨hpolled, hlost, hlost'⟩ := hview
  obtain ⟨runId, hstep⟩ := (always_last h hs hs').of_polled hpolled
  have hkept := (hstep (by simp [NotFound])).1
  rw [hlost, hlost'] at hkept
  cases hkept

end Runtime

end DatabusSim
