import DatabusSim.Runtime.StateChanges

/-!
# The binder under watch

Any interleaving of `poll_loop` with tracking, the untrack timers and whatever else
writes the fleet, over runs of distinct ids that are each tracked once on a vehicle of
the roster. The actions written down are those that have made the fleet and the calls of
the callback, and the binder's objects stay in step with them: an object has the state its
run was last notified of.
-/

namespace DatabusSim

open Transition RunBinder

/-- The fleet and the binder, the ids tracked so far, and what has happened. -/
structure Watched where
  fleet : FleetState
  binder : RunBinder
  known : List String := []
  actions : List Action := []

namespace Watched

inductive Event where
  | track (now : ℚ) (runId vehicleId tripId shapeId : String) (terminalStopId : Option String)
  /-- The scheduler puts its wrapper around the callback. -/
  | wrapCallback (a : AutoStart)
  | wake
  | reply (now : ℚ) (out : Except PyExc (Option LifecycleState))
  | untrackTimer (i : Nat)
  /-- Anything else: other loops, requests and tasks write vehicles of the roster. -/
  | elsewhere (fleet : FleetState) (startTasks : List AutoStart)

def state (w : Watched) : BinderState := ⟨w.fleet, w.binder⟩

/-- The loop is resumed after a GET; what it does then is added to the actions. -/
def replied (w : Watched) (now : ℚ) (round : Round) (rest : List String) (runId : String)
    (ref : Ref) (out : Except PyExc (Option LifecycleState)) : Watched :=
  { w with
    fleet := (RunBinder.resume w.state now round rest runId ref out).fleet
    binder := (RunBinder.resume w.state now round rest runId ref out).binder
    actions := w.actions ++ pollActions w.state now runId ref out }

/-- An id is tracked once, on a vehicle of the roster. -/
def step (w : Watched) : Event → Option Watched
  | .track now runId vehicleId tripId shapeId terminalStopId =>
      if runId ∈ w.known ∨ (w.fleet.get vehicleId).isNone then none
      else
        some { w with
          binder := w.binder.track now runId vehicleId tripId shapeId terminalStopId
          known := w.known ++ [runId] }
  | .wrapCallback a =>
      some { w with binder := { w.binder with autoStarts := w.binder.autoStarts ++ [a] } }
  | .wake =>
      match w.binder.loop with
      | .sleeping _ => some { w with binder := w.binder.wake }
      | _ => none
  | .reply now out =>
      match w.binder.loop with
      | .awaiting round rest runId ref => some (w.replied now round rest runId ref out)
      | _ => none
  | .untrackTimer i =>
      (w.binder.untrackTimers[i]?).map fun runId =>
        { w with binder :=
          { w.binder.untrack runId with untrackTimers := w.binder.untrackTimers.eraseIdx i } }
  | .elsewhere fleet startTasks =>
      if fleet.ids = w.fleet.ids then
        some { w with
          fleet, binder := { w.binder with startTasks }
          actions := w.actions ++ [.elsewhere fleet] }
      else none

/-- A binder with a callback, over any fleet. -/
def start (fleet : FleetState) : Watched where
  fleet := fleet
  binder := { heap := fun _ => default, hasCallback := true }

/-! ## The invariant -/

/-- The tracked objects: one for each known id, on the roster. -/
structure Ordered (w : Watched) : Prop where
  wf : w.binder.WellFormed
  callback : w.binder.hasCallback = true
  named : ∀ ref < w.binder.fresh, (w.binder.heap ref).runId ∈ w.known
  once : ∀ ref < w.binder.fresh, ∀ ref' < w.binder.fresh,
    (w.binder.heap ref).runId = (w.binder.heap ref').runId → ref = ref'
  roster : ∀ ref < w.binder.fresh, (w.fleet.get (w.binder.heap ref).vehicleId).isSome

/-- What has been done so far. -/
structure Told (w : Watched) : Prop where
  mine : ∀ a ∈ w.actions, ∀ r ∈ a.runId, r ∈ w.known
  linked : ∀ r, Linked none (changesOf r (w.actions.filterMap Action.change))
  quiet : Quiet w.actions
  reflected : ∀ c fleet, .notify c fleet ∈ w.actions → ∃ ref < w.binder.fresh,
    (w.binder.heap ref).runId = c.runId ∧
      ∃ v, fleet.get (w.binder.heap ref).vehicleId = some v ∧ Reflects (w.binder.heap ref) c.new v

/-- A run that is over is not polled again. -/
def Over (b : RunBinder) (r : String) : Prop :=
  (∀ ref, b.bindings.get? r = some ref → ¬ (b.heap ref).Pollable) ∧
    ∀ round rest ref, b.loop ≠ .awaiting round rest r ref

/-- The objects have the state that was told last. -/
structure InStep (w : Watched) : Prop where
  ordered : w.Ordered
  told : w.Told
  state : (∀ exc, w.binder.loop ≠ .dead exc) → ∀ ref < w.binder.fresh,
    (w.binder.heap ref).lifecycleState =
      lastState none (changesOf (w.binder.heap ref).runId (w.actions.filterMap Action.change))
  closed : ∀ a ∈ w.actions, a.closes = true → ∀ r ∈ a.runId, Over w.binder r

theorem inStep_start (fleet : FleetState) : (start fleet).InStep where
  ordered :=
    { wf := ⟨fun _ _ h => (nomatch h), fun _ _ _ _ h => (nomatch h), rfl,
        fun _ _ h => (nomatch h)⟩
      callback := rfl
      named := fun _ h => absurd h (Nat.not_lt_zero _)
      once := fun _ h => absurd h (Nat.not_lt_zero _)
      roster := fun _ h => absurd h (Nat.not_lt_zero _) }
  told :=
    { mine := fun _ h => (nomatch h)
      linked := fun _ => trivial
      quiet := .nil
      reflected := fun _ _ h => (nomatch h) }
  state := fun _ _ h => absurd h (Nat.not_lt_zero _)
  closed := fun _ h => (nomatch h)

variable {w : Watched}

/-! ## Steps that tell nothing -/

/-- A step that leaves the objects, their ids and the roster alone, and brings no run that is
over back into the loop. -/
theorem InStep.congr (h : w.InStep) {fleet : FleetState} {b : RunBinder} (hwf : b.WellFormed)
    (hcallback : b.hasCallback = w.binder.hasCallback) (hheap : b.heap = w.binder.heap)
    (hfresh : b.fresh = w.binder.fresh) (hids : fleet.ids = w.fleet.ids)
    (halive : (∀ exc, b.loop ≠ .dead exc) → ∀ exc, w.binder.loop ≠ .dead exc)
    (hover : ∀ r, Over w.binder r → Over b r) :
    ({ w with fleet, binder := b } : Watched).InStep := by
  obtain ⟨⟨-, hcb, hnamed, honce, hroster⟩, ⟨hmine, hlinked, hquiet, hreflected⟩, hstate,
    hclosed⟩ := h
  rw [← hheap, ← hfresh] at hnamed honce hroster hreflected hstate
  refine ⟨⟨hwf, hcallback.trans hcb, hnamed, honce, fun ref href => ?_⟩,
    ⟨hmine, hlinked, hquiet, hreflected⟩, fun hl => hstate (halive hl),
    fun a ha hc r hr => hover r (hclosed a ha hc r hr)⟩
  have hmem := (w.fleet.mem_ids_iff _).mpr (hroster ref href)
  rw [← hids] at hmem
  exact (fleet.mem_ids_iff _).mp hmem

/-- What is written elsewhere is not done for a run. -/
theorem InStep.wrote (h : w.InStep) (fleet : FleetState) :
    ({ w with actions := w.actions ++ [.elsewhere fleet] } : Watched).InStep := by
  have hmem : ∀ {a}, a ∈ w.actions ++ [.elsewhere fleet] → a ∈ w.actions ∨ a = .elsewhere fleet :=
    fun ha => (List.mem_append.mp ha).imp_right List.mem_singleton.mp
  have hchanges : (w.actions ++ [Action.elsewhere fleet]).filterMap Action.change =
      w.actions.filterMap Action.change := by
    rw [List.filterMap_append]
    exact List.append_nil _
  refine ⟨⟨h.ordered.wf, h.ordered.callback, h.ordered.named, h.ordered.once, h.ordered.roster⟩,
    ⟨fun a ha r hr => ?_, ?_, ?_, fun c f hc => ?_⟩, ?_, fun a ha hclose r hr => ?_⟩
  · rcases hmem ha with ha | rfl
    · exact h.told.mine a ha r hr
    · cases hr
  · simp only [hchanges]
    exact h.told.linked
  · refine List.pairwise_append.mpr ⟨h.told.quiet, List.pairwise_singleton _ _, ?_⟩
    intro a ha b hb hclose heq
    rw [List.mem_singleton.mp hb] at heq
    cases a with
    | elsewhere f => cases hclose
    | _ => cases heq
  · rcases hmem hc with hc | hc
    · exact h.told.reflected c f hc
    · cases hc
  · simp only [hchanges]
    exact h.state
  · rcases hmem ha with ha | rfl
    · exact h.closed a ha hclose r hr
    · cases hr

/-- The walk to the next GET does not come to a run that is over. -/
theorem over_advance {b : RunBinder} {r : String} {ids todo : List String} {visits : List Visit}
    (h : ∀ ref, b.bindings.get? r = some ref → ¬ (b.heap ref).Pollable)
    (hids : visits.map Visit.runId ++ todo = ids) :
    Over { b with loop := b.advance ids todo visits } r := by
  refine ⟨h, fun round rest ref hl => ?_⟩
  obtain ⟨-, href, hp⟩ := (advance_inRound b ids todo visits hids).awaiting round rest r ref hl
  exact h ref href hp

theorem inStep_wake (h : w.InStep) {last : Round} (hl : w.binder.loop = .sleeping last) :
    ({ w with binder := w.binder.wake } : Watched).InStep := by
  refine h.congr (h.ordered.wf.wake hl) rfl rfl rfl rfl (fun _ exc hd => ?_) fun r hr => ?_
  · rw [hl] at hd
    cases hd
  · exact over_advance hr.1 (by simp)

theorem inStep_untrack (h : w.InStep) (runId : String) (untrackTimers : List String) :
    ({ w with binder := { w.binder.untrack runId with untrackTimers } } : Watched).InStep := by
  refine h.congr ((h.ordered.wf.untrack runId).congr rfl rfl rfl rfl) rfl rfl rfl rfl id ?_
  exact fun r hr => ⟨fun ref href => hr.1 ref (get?_untrack href), hr.2⟩

/-! ## Tracking -/

theorem inStep_track (h : w.InStep) (now : ℚ) {runId vehicleId : String}
    (tripId shapeId : String) (stop : Option String) (hnew : runId ∉ w.known)
    (hroster : (w.fleet.get vehicleId).isSome) :
    ({ w with
      binder := w.binder.track now runId vehicleId tripId shapeId stop
      known := w.known ++ [runId] } : Watched).InStep := by
  have hold : ∀ {ref}, ref < w.binder.fresh →
      (w.binder.track now runId vehicleId tripId shapeId stop).heap ref = w.binder.heap ref :=
    heap_track_ne w.binder now runId vehicleId tripId shapeId stop
  have hself : (w.binder.track now runId vehicleId tripId shapeId stop).heap w.binder.fresh =
      { runId, vehicleId, tripId, shapeId, terminalStopId := stop, trackedSince := now } := by
    simp [RunBinder.track]
  -- no other object, and no action, is one of the new run's
  have hother : ∀ ref < w.binder.fresh, (w.binder.heap ref).runId ≠ runId :=
    fun ref href heq => hnew (heq ▸ h.ordered.named ref href)
  have hsilent : changesOf runId (w.actions.filterMap Action.change) = [] :=
    changesOf_eq_nil fun a ha heq => hnew (h.told.mine a ha runId heq)
  have hcases : ∀ {ref}, ref < w.binder.fresh + 1 → ref = w.binder.fresh ∨ ref < w.binder.fresh :=
    fun href => (Nat.lt_succ_iff_lt_or_eq.mp href).symm
  refine ⟨⟨h.ordered.wf.track .., h.ordered.callback, ?_, ?_, ?_⟩, ⟨?_, h.told.linked,
    h.told.quiet, ?_⟩, ?_, ?_⟩
  · intro ref href
    rcases hcases href with rfl | href
    · rw [hself]
      exact List.mem_append_right _ List.mem_cons_self
    · rw [hold href]
      exact List.mem_append_left _ (h.ordered.named ref href)
  · intro ref href ref' href' heq
    rcases hcases href with rfl | href
    · rcases hcases href' with rfl | href'
      · rfl
      · rw [hself, hold href'] at heq
        exact absurd heq.symm (hother ref' href')
    · rcases hcases href' with rfl | href'
      · rw [hself, hold href] at heq
        exact absurd heq (hother ref href)
      · rw [hold href, hold href'] at heq
        exact h.ordered.once ref href ref' href' heq
  · intro ref href
    rcases hcases href with rfl | href
    · rw [hself]
      exact hroster
    · rw [hold href]
      exact h.ordered.roster ref href
  · exact fun a ha r hr => List.mem_append_left _ (h.told.mine a ha r hr)
  · intro c fleet hmem
    obtain ⟨ref, href, hreflected⟩ := h.told.reflected c fleet hmem
    refine ⟨ref, Nat.lt_succ_of_lt href, ?_⟩
    rw [hold href]
    exact hreflected
  · intro hl ref href
    rcases hcases href with rfl | href
    · rw [hself, hsilent]
      rfl
    · rw [hold href]
      exact h.state hl ref href
  · intro a ha hclose r hr
    obtain ⟨htable, hloop⟩ := h.closed a ha hclose r hr
    have hne : r ≠ runId := fun heq => hnew (heq ▸ h.told.mine a ha r hr)
    refine ⟨fun ref href => ?_, hloop⟩
    simp only [RunBinder.track, Dict.get?_set, if_neg hne] at href
    rw [hold (h.ordered.wf.tracked _ ref href).1]
    exact htable ref href

/-! ## Polling -/

theorem hasCallback_processPoll (s : BinderState) (now : ℚ) (runId : String) (ref : Ref)
    (out : Except PyExc (Option LifecycleState)) :
    (settle (processPoll s now runId ref out)).binder.hasCallback = s.binder.hasCallback := by
  have h := processPoll_polled s now runId ref out
  generalize processPoll s now runId ref out = res at h ⊢
  cases h with
  | changed =>
    simp only [settle, announce, onStateChange]
    split <;> split <;> rfl
  | _ => rfl

section Reply

variable {now : ℚ} {round : Round} {rest : List String} {runId : String} {ref : Ref}
  {out : Except PyExc (Option LifecycleState)} (h : w.InStep)
  (hl : w.binder.loop = .awaiting round rest runId ref)
include h hl

variable (now out) in
theorem reported_reply : Reported w.state runId ref
    (settle (processPoll w.state now runId ref out)).binder
    (pollActions w.state now runId ref out) := by
  obtain ⟨href, hid, -⟩ := h.ordered.wf.awaited round rest runId ref hl
  exact processPoll_reported hid h.ordered.callback (h.ordered.roster ref href)

/-- The run that is polled is not over. -/
theorem open_reply : ∀ a ∈ w.actions, a.closes = true → a.runId ≠ some runId := by
  intro a ha hclose heq
  exact (h.closed a ha hclose runId heq).2 round rest ref hl

/-- Nothing is done for another object's run. -/
theorem silent_reply {ref' : Ref} (href' : ref' < w.binder.fresh) (hne : ref' ≠ ref) :
    changesOf (w.binder.heap ref').runId
      ((pollActions w.state now runId ref out).filterMap Action.change) = [] := by
  obtain ⟨href, hid, -⟩ := h.ordered.wf.awaited round rest runId ref hl
  refine changesOf_eq_nil fun a ha heq => hne (h.ordered.once ref' href' ref href ?_)
  rw [hid]
  exact Option.some_inj.mp (heq.symm.trans ((reported_reply now out h hl).mine a ha))

variable (now out) in
theorem ordered_reply : (w.replied now round rest runId ref out).Ordered := by
  have hframe := processPoll_frame w.state now runId ref out
  have hcallback := hasCallback_processPoll w.state now runId ref out
  obtain ⟨loop, hbinder⟩ := resume_eq w.state now round rest runId ref out
  refine ⟨h.ordered.wf.resume (s := w.state) hl now out, ?_, ?_, ?_, ?_⟩ <;>
    simp only [replied, hbinder]
  · rw [hcallback]
    exact h.ordered.callback
  · intro ref' href'
    rw [(hframe.sameRun ref').runId]
    exact h.ordered.named ref' (hframe.fresh ▸ href')
  · intro ref₁ href₁ ref₂ href₂ heq
    rw [(hframe.sameRun ref₁).runId, (hframe.sameRun ref₂).runId] at heq
    exact h.ordered.once ref₁ (hframe.fresh ▸ href₁) ref₂ (hframe.fresh ▸ href₂) heq
  · intro ref' href'
    have hids := Runtime.resume_ids w.state now round rest runId ref out
    rw [resume_fleet] at hids
    rw [(hframe.sameRun ref').vehicleId, ← FleetState.mem_ids_iff, hids, FleetState.mem_ids_iff]
    exact h.ordered.roster ref' (hframe.fresh ▸ href')

theorem told_reply : (w.replied now round rest runId ref out).Told := by
  obtain ⟨href, hid, -⟩ := h.ordered.wf.awaited round rest runId ref hl
  have hreported := reported_reply now out h hl
  have hframe := processPoll_frame w.state now runId ref out
  obtain ⟨loop, hbinder⟩ := resume_eq w.state now round rest runId ref out
  have hstate : (w.binder.heap ref).lifecycleState =
      lastState none (changesOf runId (w.actions.filterMap Action.change)) := by
    rw [← hid]
    exact h.state (by rw [hl]; simp) ref href
  refine ⟨?_, ?_, ?_, ?_⟩ <;> simp only [replied, hbinder]
  · intro a ha r hr
    rcases List.mem_append.mp ha with ha | ha
    · exact h.told.mine a ha r hr
    · rw [hreported.mine a ha] at hr
      cases hr
      exact hid ▸ h.ordered.named ref href
  · intro r
    rw [List.filterMap_append, changesOf_append, linked_append]
    refine ⟨h.told.linked r, ?_⟩
    by_cases hr : r = runId
    · rw [hr, ← hstate, changesOf_eq_self hreported.mine]
      exact hreported.linked
    · rw [changesOf_eq_nil fun a ha heq =>
        hr (Option.some_inj.mp (heq.symm.trans (hreported.mine a ha)))]
      trivial
  · refine List.pairwise_append.mpr ⟨h.told.quiet, hreported.quiet, fun a ha b hb hclose => ?_⟩
    rw [hreported.mine b hb]
    exact (open_reply h hl a ha hclose).symm
  · intro c fleet hmem
    rcases List.mem_append.mp hmem with hmem | hmem
    · obtain ⟨ref', href', hrun, v, hv, hshown⟩ := h.told.reflected c fleet hmem
      have hsame := hframe.sameRun ref'
      refine ⟨ref', by rw [hframe.fresh]; exact href', by rw [hsame.runId]; exact hrun, v, ?_⟩
      rw [hsame.vehicleId]
      exact ⟨hv, hshown.of_sameRun hsame⟩
    · obtain ⟨v, hv, hshown⟩ := hreported.reflected c fleet hmem
      have hsame := hframe.sameRun ref
      refine ⟨ref, by rw [hframe.fresh]; exact href, ?_, v, ?_⟩
      · rw [hsame.runId]
        exact hid.trans (Option.some_inj.mp (hreported.mine _ hmem)).symm
      · rw [hsame.vehicleId]
        exact ⟨hv, hshown.of_sameRun hsame⟩

/-- A run that is over, by this poll or an earlier one, is not come to again. -/
theorem over_reply : ∀ a ∈ (w.replied now round rest runId ref out).actions, a.closes = true →
    ∀ r ∈ a.runId, Over (w.replied now round rest runId ref out).binder r := by
  intro a ha hclose r hr
  obtain ⟨href, hid, -⟩ := h.ordered.wf.awaited round rest runId ref hl
  have hreported := reported_reply now out h hl
  have hframe := processPoll_frame w.state now runId ref out
  have hwf := h.ordered.wf.resume (s := w.state) hl now out
  obtain ⟨loop, hbinder, hnext⟩ := @resume_next w.state h.ordered.wf now round rest runId ref out hl
  -- its object, if there is one, is not to be polled
  have htable : ∀ ref',
      (settle (processPoll w.state now runId ref out)).binder.bindings.get? r = some ref' →
        ¬ ((settle (processPoll w.state now runId ref out)).binder.heap ref').Pollable := by
    intro ref' href'
    have hbefore := hframe.bindings _ _ href'
    obtain ⟨hlt, hrun⟩ := h.ordered.wf.tracked _ _ hbefore
    rcases List.mem_append.mp ha with ha | ha
    · have hne : ref' ≠ ref := by
        intro heq
        rw [heq] at hrun
        rw [← hrun.symm.trans hid] at hl
        exact open_reply h hl a ha hclose hr
      rw [hframe.other ref' hne]
      exact (h.closed a ha hclose r hr).1 ref' hbefore
    · have hmine : r = runId := Option.some_inj.mp (hr.symm.trans (hreported.mine a ha))
      have heq : ref' = ref :=
        h.ordered.once ref' hlt ref href (hrun.trans (hmine.trans hid.symm))
      rcases hreported.closed ⟨a, ha, hclose⟩ with hnone | hover
      · rw [hmine] at href'
        rw [href'] at hnone
        cases hnone
      · rw [heq]
        exact hover
  simp only [replied]
  rw [hbinder] at hwf ⊢
  refine ⟨htable, fun round' rest' ref' hl' => ?_⟩
  exact htable ref' (hnext _ _ _ _ hl') (hwf.awaited _ _ _ _ hl').2.2

theorem inStep_reply : (w.replied now round rest runId ref out).InStep := by
  obtain ⟨href, hid, -⟩ := h.ordered.wf.awaited round rest runId ref hl
  have hreported := reported_reply now out h hl
  have hframe := processPoll_frame w.state now runId ref out
  have halive : ∀ exc, w.binder.loop ≠ .dead exc := by
    rw [hl]
    simp
  refine ⟨ordered_reply now out h hl, told_reply h hl, fun hlive ref' href' => ?_, over_reply h hl⟩
  have hhash := (ordered_reply now out h hl).wf.hashable hlive ref'
  obtain ⟨loop, hbinder⟩ := resume_eq w.state now round rest runId ref out
  simp only [replied, hbinder] at href' hhash ⊢
  rw [hframe.fresh] at href'
  rw [(hframe.sameRun ref').runId, List.filterMap_append, changesOf_append, lastState_append]
  by_cases heq : ref' = ref
  · subst heq
    rw [hreported.state hhash]
    show lastState (w.binder.heap ref').lifecycleState _ =
      lastState (lastState none (changesOf (w.binder.heap ref').runId _))
        (changesOf (w.binder.heap ref').runId _)
    rw [← h.state halive ref' href, hid, changesOf_eq_self hreported.mine]
  · rw [hframe.other ref' heq]
    show (w.binder.heap ref').lifecycleState =
      lastState (lastState none (changesOf (w.binder.heap ref').runId _))
        (changesOf (w.binder.heap ref').runId _)
    rw [← h.state halive ref' href', silent_reply h hl href' heq]
    rfl

end Reply

/-! ## Every run -/

theorem inStep_step {ev : Event} {w' : Watched} (h : w.InStep) (hs : w.step ev = some w') :
    w'.InStep := by
  cases ev with
  | track now runId vehicleId tripId shapeId stop =>
    simp only [step] at hs
    split at hs
    · cases hs
    · rename_i hnew
      obtain ⟨hnew, hroster⟩ := not_or.mp hnew
      cases hs
      exact inStep_track h now tripId shapeId stop hnew
        (Option.ne_none_iff_isSome.mp (by simpa using hroster))
  | wrapCallback a =>
    cases hs
    exact h.congr (h.ordered.wf.congr rfl rfl rfl rfl) rfl rfl rfl rfl id fun _ => id
  | wake =>
    simp only [step] at hs
    split at hs
    · rename_i last hl
      cases hs
      exact inStep_wake h hl
    · cases hs
  | reply now out =>
    simp only [step] at hs
    split at hs
    · rename_i round rest runId ref hl
      cases hs
      exact inStep_reply h hl
    · cases hs
  | untrackTimer i =>
    obtain ⟨runId, -, rfl⟩ := Option.map_eq_some_iff.mp hs
    exact inStep_untrack h runId _
  | elsewhere fleet startTasks =>
    simp only [step] at hs
    split at hs
    · rename_i hids
      cases hs
      have hsame : ({ w with fleet, binder := { w.binder with startTasks } } : Watched).InStep :=
        h.congr (h.ordered.wf.congr rfl rfl rfl rfl) rfl rfl rfl hids id fun _ => id
      exact hsame.wrote fleet
    · cases hs

/-- Every step writes down what it does to the fleet and to the callback. -/
theorem logged_step {s : BinderState} {ev : Event} {w' : Watched} (h : w.InStep)
    (hlog : Logged s w.actions w.state) (hs : w.step ev = some w') :
    Logged s w'.actions w'.state := by
  -- steps that do neither
  have hsilent : ∀ {b : RunBinder}, b.stateChanges = w.binder.stateChanges →
      b.lost = w.binder.lost → Logged s w.actions ⟨w.fleet, b⟩ := fun hchanges hlost =>
    ⟨hlog.fleet, hchanges.trans hlog.changes, hlost.trans hlog.lost⟩
  cases ev with
  | track now runId vehicleId tripId shapeId stop =>
    simp only [step] at hs
    split at hs
    · cases hs
    · cases hs
      exact hsilent rfl rfl
  | wrapCallback a =>
    cases hs
    exact hsilent rfl rfl
  | wake =>
    simp only [step] at hs
    split at hs
    · cases hs
      exact hsilent rfl rfl
    · cases hs
  | reply now out =>
    simp only [step] at hs
    split at hs
    · rename_i round rest runId ref hl
      cases hs
      obtain ⟨href, -, -⟩ := h.ordered.wf.awaited round rest runId ref hl
      obtain ⟨loop, hresume⟩ := resume_eq w.state now round rest runId ref out
      have hpoll := @processPoll_logged w.state now runId ref out h.ordered.callback
        (h.ordered.roster ref href)
      have hall := hlog.append hpoll
      have hreplied : (w.replied now round rest runId ref out).state =
          ⟨(settle (processPoll w.state now runId ref out)).fleet,
            { (settle (processPoll w.state now runId ref out)).binder with loop }⟩ := hresume
      rw [hreplied]
      exact ⟨hall.fleet, hall.changes, hall.lost⟩
    · cases hs
  | untrackTimer i =>
    obtain ⟨runId, -, rfl⟩ := Option.map_eq_some_iff.mp hs
    exact hsilent rfl rfl
  | elsewhere fleet startTasks =>
    simp only [step] at hs
    split at hs
    · cases hs
      exact hlog.append ⟨.elsewhere .nil, (List.append_nil _).symm, (List.append_nil _).symm⟩
    · cases hs

/-- A terminal state ends the notifications of its run. -/
theorem terminal_last {actions : List Action} (hquiet : Quiet actions) (r : String) :
    ∀ c ∈ (changesOf r (actions.filterMap Action.change)).dropLast,
      c.new.isTerminal = false := by
  -- a change with another one of its run after it is not to a terminal state
  have hpair : (actions.filterMap Action.change).Pairwise fun c d =>
      d.runId = c.runId → c.new.isTerminal = false := by
    refine List.Pairwise.filterMap _ (fun a b hab c hc d hd hrun => ?_) hquiet
    obtain ⟨_, rfl⟩ := change_eq_some.mp hc
    obtain ⟨_, rfl⟩ := change_eq_some.mp hd
    by_contra hterminal
    exact hab (by simpa [Action.closes] using hterminal) (congrArg some hrun)
  have hmine : (changesOf r (actions.filterMap Action.change)).Pairwise fun c _ =>
      c.new.isTerminal = false := by
    refine (List.Pairwise.and_mem.mp (hpair.filter _)).imp ?_
    rintro c d ⟨hc, hd, hcd⟩
    have hc := (List.mem_filter.mp hc).2
    have hd := (List.mem_filter.mp hd).2
    simp only [decide_eq_true_eq] at hc hd
    exact hcd (by rw [hc, hd])
  intro c hc
  obtain ⟨i, hi, rfl⟩ := List.getElem_of_mem hc
  rw [List.length_dropLast] at hi
  rw [List.getElem_dropLast]
  exact List.pairwise_iff_getElem.mp hmine i (i + 1) (by omega) (by omega) (by omega)

/-- The calls of `on_state_change` for each run are a chain from `None`, without repetition,
that a terminal state ends. The actions are what has happened to the fleet and the callback:
nothing is done for a run after its terminal state or its force-unbinding, and the fleet
shows the new state when the callback is called. -/
theorem notifications_chain {fleet : FleetState} {w : Watched}
    (hr : System.Reachable step (start fleet) w) (r : String) :
    Linked none (changesOf r w.binder.stateChanges) ∧
      (∀ c ∈ (changesOf r w.binder.stateChanges).dropLast, c.new.isTerminal = false) ∧
      Logged (start fleet).state w.actions w.state ∧
      (∀ before a after, w.actions = before ++ a :: after → a.runId = some r →
        a.closes = true → ∀ b ∈ after, b.runId ≠ some r) ∧
      ∀ c fleet, .notify c fleet ∈ w.actions → c.runId = r → ∃ ref < w.binder.fresh,
        (w.binder.heap ref).runId = r ∧
          ∃ v, fleet.get (w.binder.heap ref).vehicleId = some v ∧
            Reflects (w.binder.heap ref) c.new v := by
  have hstart : (start fleet).InStep ∧
      Logged (start fleet).state (start fleet).actions (start fleet).state :=
    ⟨inStep_start fleet, .nothing rfl rfl rfl⟩
  obtain ⟨h, hlog⟩ : w.InStep ∧ Logged (start fleet).state w.actions w.state :=
    reachable_invariant
      (I := fun w : Watched => w.InStep ∧ Logged (start fleet).state w.actions w.state)
      (fun _ _ _ h hs => ⟨inStep_step h.1 hs, logged_step h.1 h.2 hs⟩) hstart hr
  have hchanges : w.binder.stateChanges = w.actions.filterMap Action.change := hlog.changes
  rw [hchanges]
  refine ⟨h.told.linked r, terminal_last h.told.quiet r, hlog, ?_, ?_⟩
  · intro before a after hsplit hrun hclose b hb
    have hquiet := h.told.quiet
    rw [hsplit, Quiet, List.pairwise_append, List.pairwise_cons] at hquiet
    exact hrun ▸ hquiet.2.1.1 b hb hclose
  · intro c fleet hmem hrun
    rw [← hrun]
    exact h.told.reflected c fleet hmem

/-- A run that is confirmed and then completed. -/
def completedRun : List Event :=
  [ .track 0 "r1" "unit-01" "trip" "hacia_artes" none
  , .wake
  , .reply 2 (.ok (some .confirmed))
  , .wake
  , .reply 4 (.ok (some .completed))
  , .untrackTimer 0 ]

def rosterFleet : FleetState := .ofVehicles FleetState.makeFleet

theorem completedRun_happens :
    (System.run step (start rosterFleet) completedRun).isSome = true := by decide +kernel

theorem notifications_chain_completed : ∃ w, System.Reachable step (start rosterFleet) w ∧
    Linked none (changesOf "r1" w.binder.stateChanges) ∧
      Logged (start rosterFleet).state w.actions w.state :=
  have hr := ⟨completedRun, (Option.some_get completedRun_happens).symm⟩
  have h := notifications_chain hr "r1"
  ⟨_, hr, h.1, h.2.2.1⟩

example : (System.run step (start rosterFleet) completedRun).map
    (fun w => changesOf "r1" w.binder.stateChanges) =
      some [⟨"r1", none, .confirmed⟩, ⟨"r1", some .confirmed, .completed⟩] := by decide +kernel

end Watched

end DatabusSim
