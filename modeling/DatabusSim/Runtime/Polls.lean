import DatabusSim.Services.RunBinderInvariant
import DatabusSim.Runtime.TickLoopSteps
import DatabusSim.Runtime

/-!
# The poll loop within the runtime

What the events of the runtime are to `poll_loop`: most leave the binder alone and
show the same runs on the same vehicles; the others hand runs over, wake the loop, end
a poll or drop a run. Properties of the binder over whole runs need these cases only.
The tick loop is moved by its own events alone (`step_tick`).
-/

namespace DatabusSim.Runtime

open Transition RunBinder

/-- What an event of the runtime is to the fleet and the binder. -/
inductive BinderMove (s : BinderState) : BinderState → Prop where
  /-- No run of a vehicle and no part of the binder the loop uses is written. -/
  | aside (fleet : FleetState) (startTasks : List AutoStart) : s.fleet.KeepsRuns fleet →
      BinderMove s ⟨fleet, { s.binder with startTasks }⟩
  | handedOver (now : ℚ) (runs : List Tracked) :
      BinderMove s ⟨s.fleet, runs.foldl (fun b tr => handOver b now tr) s.binder⟩
  | woke (last : Round) : s.binder.loop = .sleeping last → BinderMove s ⟨s.fleet, s.binder.wake⟩
  | polled (now : ℚ) (http : Http) (round : Round) (rest : List String) (runId : String)
      (ref : Ref) : s.binder.loop = .awaiting round rest runId ref →
      BinderMove s (RunBinder.resume s now round rest runId ref (DatabusClient.getRunState http))
  | dropped (runId : String) (untrackTimers : List String) :
      BinderMove s ⟨s.fleet, { s.binder.untrack runId with untrackTimers }⟩

variable {cfg : Settings} {s s' : Runtime} {ev : Event}

theorem step_moves (h : step cfg s ev = some s') : BinderMove s.binderState s'.binderState := by
  cases ev with
  | scheduler now ev =>
    obtain ⟨scheduler, -, rfl⟩ := Option.map_eq_some_iff.mp h
    exact .handedOver now _
  | trackRun now runId vehicleId tripId shapeId stop =>
    simp only [step] at h
    split at h
    · cases h
    · cases h
      exact .handedOver now [⟨.null, runId, vehicleId, tripId, shapeId, stop, none⟩]
  | pollWake =>
    simp only [step] at h
    split at h
    · rename_i last hl
      cases h
      exact .woke last hl
    · cases h
  | pollReply now http =>
    simp only [step] at h
    split at h
    · rename_i round rest runId ref hl
      cases h
      exact .polled now http round rest runId ref hl
    · cases h
  | untrackTimer i =>
    obtain ⟨runId, -, rfl⟩ := Option.map_eq_some_iff.mp h
    exact .dropped runId _
  | autoStart now i =>
    obtain ⟨a, -, rfl⟩ := Option.map_eq_some_iff.mp h
    exact .aside _ _ (FleetState.mutate_keepsRuns s.fleet a.vehicleId fun _ => rfl)
  | control now file draws vehicleId knob payload =>
    cases h
    exact .aside _ s.binder.startTasks
      (Control.applyControl_keepsRuns _ s.fleet vehicleId knob payload)
  | startRun now payload =>
    cases h
    exact .aside _ s.binder.startTasks (Control.globalStartRun_keepsRuns now s.fleet payload)
  | tick ev =>
    obtain ⟨t, ht, rfl⟩ := Option.map_eq_some_iff.mp h
    exact .aside _ s.binder.startTasks (TickLoop.step_keepsRuns ht)

/-- No event of the runtime reloads the tables, and only its own move the tick loop. -/
theorem step_tick (hs : step cfg s ev = some s') :
    s'.tables = s.tables ∧
      ((∃ tev, ev = .tick tev ∧
          TickLoop.step cfg.ticks s.tables ⟨s.fleet, s.tick⟩ tev = some ⟨s'.fleet, s'.tick⟩) ∨
        ((∀ tev, ev ≠ .tick tev) ∧ s'.tick = s.tick)) := by
  cases ev with
  | tick tev =>
    obtain ⟨t, ht, rfl⟩ := Option.map_eq_some_iff.mp hs
    exact ⟨rfl, .inl ⟨tev, rfl, ht⟩⟩
  | scheduler now ev =>
    obtain ⟨scheduler, -, rfl⟩ := Option.map_eq_some_iff.mp hs
    exact ⟨rfl, .inr ⟨by simp, rfl⟩⟩
  | trackRun =>
    simp only [step] at hs
    split at hs <;> cases hs
    exact ⟨rfl, .inr ⟨by simp, rfl⟩⟩
  | pollWake =>
    simp only [step] at hs
    split at hs <;> cases hs
    exact ⟨rfl, .inr ⟨by simp, rfl⟩⟩
  | pollReply =>
    simp only [step] at hs
    split at hs <;> cases hs
    exact ⟨rfl, .inr ⟨by simp, rfl⟩⟩
  | untrackTimer i =>
    obtain ⟨runId, -, rfl⟩ := Option.map_eq_some_iff.mp hs
    exact ⟨rfl, .inr ⟨by simp, rfl⟩⟩
  | autoStart now i =>
    obtain ⟨a, -, rfl⟩ := Option.map_eq_some_iff.mp hs
    exact ⟨rfl, .inr ⟨by simp, rfl⟩⟩
  | _ =>
    cases hs
    exact ⟨rfl, .inr ⟨by simp, rfl⟩⟩

/-- The step a poll ends with. -/
theorem step_pollReply {now : ℚ} {http : Http} {round : Round} {rest : List String}
    {runId : String} {ref : Ref} (hl : s.binder.loop = .awaiting round rest runId ref)
    (h : step cfg s (.pollReply now http) = some s') :
    s' = s.withBinder (RunBinder.resume s.binderState now round rest runId ref
      (DatabusClient.getRunState http)) := by
  simp only [step, hl, Option.some.injEq] at h
  exact h.symm

/-! ## The binder stays in order -/

theorem wellFormed_handOver {b : RunBinder} (h : b.WellFormed) (now : ℚ) (tr : Tracked) :
    (handOver b now tr).WellFormed := by
  have ht := h.track now tr.runId tr.vehicleId tr.tripId tr.shapeId tr.terminalStopId
  unfold handOver
  split
  · exact ht.congr rfl rfl rfl rfl
  · exact ht

theorem wellFormed_move {b b' : BinderState} (h : b.binder.WellFormed) (hm : BinderMove b b') :
    b'.binder.WellFormed := by
  cases hm with
  | aside => exact h.congr rfl rfl rfl rfl
  | handedOver now runs =>
    exact List.foldlRecOn runs _ h fun _ hb tr _ => wellFormed_handOver hb now tr
  | woke last hl => exact h.wake hl
  | polled now http round rest runId ref hl => exact h.resume hl now _
  | dropped runId => exact (h.untrack runId).congr rfl rfl rfl rfl

theorem wellFormed_step (h : s.binder.WellFormed) (hs : step cfg s ev = some s') :
    s'.binder.WellFormed :=
  wellFormed_move (b := s.binderState) h (step_moves hs)

theorem wellFormed_start (cfg : Settings) (draws : String → Draws)
    (shapes : Except PyExc ShapesFile) (progressionGeom : Dict String (List ShapeStop))
    (schedule : Except PyExc PyVal) :
    (start cfg draws shapes progressionGeom schedule).binder.WellFormed :=
  ⟨fun _ _ h => (by cases h), fun _ _ _ _ h => (by cases h), rfl, fun _ _ h => (by cases h)⟩

/-! ## The roster -/

theorem resume_ids (s : BinderState) (now : ℚ) (round : Round) (rest : List String)
    (runId : String) (ref : Ref) (out : Except PyExc (Option LifecycleState)) :
    (RunBinder.resume s now round rest runId ref out).fleet.ids = s.fleet.ids := by
  have h := processPoll_polled s now runId ref out
  rw [resume_fleet]
  generalize processPoll s now runId ref out = res at h ⊢
  cases h with
  | lost v f' _ _ ha => exact ha.ids
  | changed st v f' _ _ _ ha => exact ha.ids
  | unhashable v f' _ _ ha => exact ha.ids
  | _ => rfl

/-- The object of the run whose state the loop waits for. -/
def polled (s : Runtime) : Option Ref :=
  match s.binder.loop with
  | .awaiting _ _ _ ref => some ref
  | _ => none

/-- A property of the steps that end the GET of a run's state: `P` takes the clock then, the
exchange, the run id and the object of the poll. -/
def AtPoll (P : ℚ → Http → String → Ref → Prop) (s : Runtime) (ev : Event) : Prop :=
  match ev, s.binder.loop with
  | .pollReply now http, .awaiting _ _ runId ref => P now http runId ref
  | _, _ => True

theorem atPoll_congr {P Q : ℚ → Http → String → Ref → Prop}
    (h : ∀ now http round rest runId ref, ev = .pollReply now http →
      s.binder.loop = .awaiting round rest runId ref →
      (P now http runId ref ↔ Q now http runId ref)) : AtPoll P s ev ↔ AtPoll Q s ev := by
  unfold AtPoll
  cases ev with
  | pollReply now http =>
    cases hl : s.binder.loop with
    | awaiting round rest runId ref => exact h now http round rest runId ref rfl hl
    | _ => exact Iff.rfl
  | _ => exact Iff.rfl

/-- At the end of the poll of an object the property is had by it. -/
theorem AtPoll.of_polled {P : ℚ → Http → String → Ref → Prop} {now : ℚ} {http : Http} {ref : Ref}
    (h : AtPoll P s (.pollReply now http)) (hp : s.polled = some ref) :
    ∃ runId, P now http runId ref := by
  unfold polled at hp
  unfold AtPoll at h
  cases hl : s.binder.loop with
  | awaiting round rest runId ref' =>
    rw [hl] at hp h
    cases hp
    exact ⟨runId, h⟩
  | _ =>
    rw [hl] at hp
    cases hp

end DatabusSim.Runtime
