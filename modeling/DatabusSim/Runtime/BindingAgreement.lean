import DatabusSim.Runtime.Polls

/-!
# A run and its vehicle

A run whose vehicle has no other run, from its `track` on: what each poll leaves of the
vehicle. Only `Confirmed` writes the binding fields, so polls that first see a later state
leave the vehicle without its run.
-/

namespace DatabusSim

/-- The four fields of a vehicle that name its run are those of the tracked object. -/
structure Vehicle.Bound (v : Vehicle) (b : BoundRun) : Prop where
  run : v.boundRunId = some b.runId
  trip : v.boundTripId = some b.tripId
  shape : v.boundShapeId = some b.shapeId
  terminalStop : v.terminalStopId = b.terminalStopId

theorem Vehicle.Bound.of_sameRun {v : Vehicle} {b b' : BoundRun} (h : v.Bound b)
    (hsame : b.SameRun b') : v.Bound b' := by
  refine ⟨?_, ?_, ?_, ?_⟩
  · rw [h.run, hsame.runId]
  · rw [h.trip, hsame.tripId]
  · rw [h.shape, hsame.shapeId]
  · rw [h.terminalStop, hsame.terminalStopId]

/-- A vehicle without a run. -/
structure Vehicle.Cleared (v : Vehicle) : Prop where
  run : v.boundRunId = none
  trip : v.boundTripId = none
  shape : v.boundShapeId = none
  terminalStop : v.terminalStopId = none
  lifecycle : v.lifecycleState = none
  progress : v.progressM = 0
  transmitting : v.transmitting = false
  moving : v.moving = false

/-- The states of a run that is under way. -/
def LifecycleState.isUnderWay : LifecycleState → Bool
  | .confirmed => true
  | .tracking => true
  | .inProgress => true
  | .noSignal => true
  | _ => false

theorem BoundRun.SameRun.trans {a b c : BoundRun} (h₁ : a.SameRun b) (h₂ : b.SameRun c) :
    a.SameRun c :=
  ⟨h₂.runId.trans h₁.runId, h₂.vehicleId.trans h₁.vehicleId, h₂.tripId.trans h₁.tripId,
    h₂.shapeId.trans h₁.shapeId, h₂.terminalStopId.trans h₁.terminalStopId⟩

theorem BoundRun.SameRun.symm {a b : BoundRun} (h : a.SameRun b) : b.SameRun a :=
  ⟨h.runId.symm, h.vehicleId.symm, h.tripId.symm, h.shapeId.symm, h.terminalStopId.symm⟩

theorem LifecycleState.not_isTerminal_of_isUnderWay {st : LifecycleState}
    (h : st.isUnderWay = true) : st.isTerminal = false := by
  cases st <;> first | rfl | cases h

namespace RunBinder

/-- No other run is tracked on the vehicle. -/
def Sole (b : RunBinder) (vehicleId runId : String) : Prop :=
  ∀ r ref, b.bindings.get? r = some ref → (b.heap ref).vehicleId = vehicleId → r = runId

/-- The run is tracked on the vehicle by an object that no poll has answered for. -/
structure Unpolled (b : RunBinder) (vehicleId runId : String) (ref : Ref) : Prop where
  tracked : b.bindings.get? runId = some ref
  vehicle : (b.heap ref).vehicleId = vehicleId
  lifecycle : (b.heap ref).lifecycleState = none
  unseen : ∀ st, (ref, st) ∉ b.sampled

/-- The object is the one the table has for the run, or its GET is in flight. -/
def Live (b : RunBinder) (runId : String) (ref : Ref) : Prop :=
  b.bindings.get? runId = some ref ∨ ∃ round rest r, b.loop = .awaiting round rest r ref

/-- The polls of an object are recorded with it. -/
structure Recorded (b : RunBinder) (ref : Ref) : Prop where
  stored : ∀ st, (b.heap ref).lifecycleState = some st → (ref, st) ∈ b.sampled
  seen : ∀ st, (ref, st) ∈ b.sampled → (b.heap ref).lifecycleState ≠ none

/-- What a vehicle shows of the object of its run: the last state a poll answered, and the run
itself once a poll has answered `Confirmed`. -/
structure Shows (b : RunBinder) (ref : Ref) (v : Vehicle) : Prop where
  lifecycle : ∀ st, (b.heap ref).lifecycleState = some st → st.isTerminal = false →
    v.lifecycleState = some st
  bound : ∀ st, (b.heap ref).lifecycleState = some st → st.isTerminal = false →
    (ref, .confirmed) ∈ b.sampled → v.Bound (b.heap ref)

/-- A vehicle that shows the same run shows the same of the object. -/
theorem Shows.of_runView {b : RunBinder} {ref : Ref} {v v' : Vehicle} (h : b.Shows ref v)
    (hview : v'.runView = v.runView) : b.Shows ref v' := by
  have hlife : v'.lifecycleState = v.lifecycleState := congrArg RunView.lifecycle hview
  have hbound : v.Bound (b.heap ref) → v'.Bound (b.heap ref) := fun hb =>
    ⟨(congrArg RunView.run hview).trans hb.run, (congrArg RunView.trip hview).trans hb.trip,
      (congrArg RunView.shape hview).trans hb.shape,
      (congrArg RunView.terminalStop hview).trans hb.terminalStop⟩
  exact ⟨fun st hst hn => hlife.trans (h.lifecycle st hst hn),
    fun st hst hn hmem => hbound (h.bound st hst hn hmem)⟩

/-- A binder that differs in other parts shows the same. -/
theorem Shows.congr {b b' : RunBinder} {ref : Ref} {v : Vehicle} (h : b.Shows ref v)
    (hheap : b'.heap ref = b.heap ref)
    (hsampled : (ref, .confirmed) ∈ b'.sampled → (ref, .confirmed) ∈ b.sampled) :
    b'.Shows ref v := by
  refine ⟨?_, ?_⟩
  · rw [hheap]
    exact h.lifecycle
  · rw [hheap]
    exact fun st hst hn hmem => h.bound st hst hn (hsampled hmem)

/-! ## The end of a poll of the run -/

theorem cleared_released (now : ℚ) (v : Vehicle) : (released now v).Cleared :=
  ⟨rfl, rfl, rfl, rfl, rfl, rfl, rfl, rfl⟩

/-- What a poll that has come to `out` leaves of the vehicle of `run`: a state of those `shown`
is shown, with the run where `bound` holds; a terminal one and a lost run clear it. -/
structure Leaves (b b' : RunBinder) (run : BoundRun) (out : Except PyExc (Option LifecycleState))
    (shown : LifecycleState → Prop) (bound : Prop) (v' : Vehicle) : Prop where
  shows : ∀ st, out = .ok (some st) → shown st → v'.lifecycleState = some st ∧
    (bound → v'.Bound run)
  clears : ∀ st, out = .ok (some st) → st.isTerminal = true → v'.Cleared
  loses : b'.lost ≠ b.lost → v'.Cleared

section Poll

variable {s : BinderState} {now : ℚ} {runId : String} {ref : Ref} {v : Vehicle}

/-- A state that is not terminal leaves the run on the vehicle if it was there, or if it is the
one that puts it there. -/
theorem bound_vehicleAfter {b : BoundRun} {st : LifecycleState} (hst : st.isTerminal = false)
    (h : st = .confirmed ∨ v.Bound b) : (vehicleAfter now b st v).Bound b := by
  by_cases hc : st = .confirmed
  · subst hc
    exact ⟨rfl, rfl, rfl, rfl⟩
  · rw [vehicleAfter_observed hst hc]
    have hbound := h.resolve_left hc
    exact ⟨hbound.run, hbound.trip, hbound.shape, hbound.terminalStop⟩

theorem lifecycle_vehicleAfter {b : BoundRun} {st : LifecycleState} (hst : st.isTerminal = false) :
    (vehicleAfter now b st v).lifecycleState = some st := by
  cases st <;> first | rfl | cases hst

theorem mem_sampled_snoc {b : RunBinder} {st st' : LifecycleState} {ref' : Ref} :
    (ref', st') ∈ b.sampled ++ [(ref, st)] ↔
      (ref', st') ∈ b.sampled ∨ (ref' = ref ∧ st' = st) := by
  rw [List.mem_append, List.mem_singleton, Prod.mk.injEq]

theorem recorded_stored {b : RunBinder} {ref₀ : Ref} (h : b.Recorded ref₀) (now : ℚ) (ref : Ref)
    (st : LifecycleState) : (b.stored now ref st).Recorded ref₀ := by
  by_cases hr : ref₀ = ref
  · subst hr
    refine ⟨fun st' hst' => ?_, fun _ _ => ?_⟩
    · rw [heap_stored_self] at hst'
      cases hst'
      exact mem_sampled_snoc.mpr (.inr ⟨rfl, rfl⟩)
    · rw [heap_stored_self]
      simp
  · refine ⟨fun st' hst' => ?_, fun st' hmem => ?_⟩
    · rw [heap_stored_ne _ _ _ hr] at hst'
      exact mem_sampled_snoc.mpr (.inl (h.stored st' hst'))
    · rw [heap_stored_ne _ _ _ hr]
      exact h.seen st' ((mem_sampled_snoc.mp hmem).resolve_right fun hsame => hr hsame.1)

theorem recorded_noteSample {b : RunBinder} {ref₀ : Ref} (h : b.Recorded ref₀) (now : ℚ)
    {ref : Ref} {st : LifecycleState} (hst : (b.heap ref).lifecycleState = some st) :
    (b.noteSample now ref st).Recorded ref₀ := by
  have hlife : ((b.noteSample now ref st).heap ref₀).lifecycleState =
      (b.heap ref₀).lifecycleState := by
    by_cases hr : ref₀ = ref
    · rw [hr, heap_noteSample_self]
    · rw [heap_noteSample_ne _ _ _ hr]
  refine ⟨fun st' hst' => ?_, fun st' hmem => ?_⟩
  · rw [hlife] at hst'
    exact mem_sampled_snoc.mpr (.inl (h.stored st' hst'))
  · rw [hlife]
    rcases mem_sampled_snoc.mp hmem with hmem | ⟨rfl, rfl⟩
    · exact h.seen st' hmem
    · rw [hst]
      simp

theorem Recorded.congr {b b' : RunBinder} (h : b.Recorded ref) (hheap : b'.heap ref = b.heap ref)
    (hsampled : b'.sampled = b.sampled) : b'.Recorded ref := by
  refine ⟨?_, ?_⟩
  · rw [hheap, hsampled]
    exact h.stored
  · rw [hheap, hsampled]
    exact h.seen

/-- Every poll is recorded with its object. -/
theorem recorded_poll {out : Except PyExc (Option LifecycleState)}
    {res : Except (Raised BinderState) BinderState} (hp : Polled s now runId ref out res)
    {ref₀ : Ref} (h : s.binder.Recorded ref₀) : (settle res).binder.Recorded ref₀ := by
  cases hp with
  | failed => exact h
  | kept => exact h
  | lost => exact h.congr rfl rfl
  | lostOffRoster => exact h.congr rfl rfl
  | same st hst => exact recorded_noteSample h now hst
  | changed st =>
    exact (recorded_stored h now ref st).congr (by rw [settle, heap_announce])
      (sampled_announce _ _)
  | unhashable => exact recorded_stored h now ref _
  | changedOffRoster st => exact recorded_stored h now ref st

/-- What the end of a poll leaves of the vehicle of its run. -/
theorem poll_leaves {out : Except PyExc (Option LifecycleState)}
    {res : Except (Raised BinderState) BinderState} (hp : Polled s now runId ref out res)
    (hv : s.fleet.get (s.binder.heap ref).vehicleId = some v)
    (hpollable : (s.binder.heap ref).Pollable) (hrec : s.binder.Recorded ref)
    (hshows : s.binder.Shows ref v) :
    ∃ v', (settle res).fleet.get (s.binder.heap ref).vehicleId = some v' ∧
      Leaves s.binder (settle res).binder (s.binder.heap ref) out (·.isTerminal = false)
        ((ref, .confirmed) ∈ (settle res).binder.sampled) v' := by
  -- a vehicle that showed its run still does after a change that confirms or keeps it
  have hbound : ∀ st, (ref, LifecycleState.confirmed) ∈ s.binder.sampled ++ [(ref, st)] →
      st = .confirmed ∨ v.Bound (s.binder.heap ref) := by
    intro st hmem
    rcases mem_sampled_snoc.mp hmem with hmem | ⟨-, hst⟩
    · obtain ⟨st₀, hst₀⟩ := Option.ne_none_iff_exists'.mp (hrec.seen _ hmem)
      exact .inr (hshows.bound st₀ hst₀ (hpollable st₀ hst₀) hmem)
    · exact .inl hst.symm
  cases hp with
  | failed exc =>
    exact ⟨v, hv, fun _ h => (by cases h), fun _ h => (by cases h), fun h => absurd rfl h⟩
  | kept =>
    exact ⟨v, hv, fun _ h => (by cases h), fun _ h => (by cases h), fun h => absurd rfl h⟩
  | lost w f' hl hw ha =>
    exact ⟨_, ha.self, fun _ h => (by cases h), fun _ h => (by cases h), fun _ =>
      cleared_released now w⟩
  | lostOffRoster _ hw =>
    rw [hv] at hw
    cases hw
  -- the vehicle already shows the state, and the run if it was confirmed
  | same st hst =>
    refine ⟨v, hv, ?_, ?_, fun h => absurd rfl h⟩
    · rintro st' hout hshown
      cases hout
      refine ⟨hshows.lifecycle st hst hshown, fun hmem => hshows.bound st hst hshown ?_⟩
      rcases mem_sampled_snoc.mp hmem with hmem | ⟨-, hconf⟩
      · exact hmem
      · exact hrec.stored _ (by rw [hst, hconf])
    · rintro st' hout hterminal
      cases hout
      rw [hpollable st hst] at hterminal
      cases hterminal
  | changed st w f' hst hu hw ha =>
    obtain rfl : v = w := Option.some.inj (hv.symm.trans hw)
    refine ⟨_, ha.self, ?_, ?_, fun h => absurd (lost_announce _ _) h⟩
    · rintro st' hout hshown
      cases hout
      refine ⟨lifecycle_vehicleAfter hshown, fun hmem => bound_vehicleAfter hshown ?_⟩
      rw [settle, sampled_announce] at hmem
      exact hbound st hmem
    · rintro st' hout hterminal
      cases hout
      rw [vehicleAfter_terminal hterminal]
      exact cleared_released now v
  | unhashable w f' hst hw ha =>
    obtain rfl : v = w := Option.some.inj (hv.symm.trans hw)
    refine ⟨_, ha.self, ?_, ?_, fun h => absurd rfl h⟩
    · rintro st' hout hshown
      cases hout
      exact ⟨lifecycle_vehicleAfter hshown, fun hmem => bound_vehicleAfter hshown (hbound _ hmem)⟩
    · rintro st' hout hterminal
      cases hout
      cases hterminal
  | changedOffRoster st _ hw =>
    rw [hv] at hw
    cases hw

/-- A poll that brings no state and leaves the run tracked changes nothing. -/
theorem poll_idle {out : Except PyExc (Option LifecycleState)}
    {res : Except (Raised BinderState) BinderState} (hp : Polled s now runId ref out res)
    (hv : s.fleet.get (s.binder.heap ref).vehicleId = some v)
    (hout : ∀ st, out ≠ .ok (some st))
    (htracked : (settle res).binder.bindings.get? (s.binder.heap ref).runId = some ref) :
    settle res = s := by
  cases hp with
  | failed => rfl
  | kept => rfl
  | lost =>
    simp [settle, RunBinder.untrack, Dict.get?_erase] at htracked
  | lostOffRoster _ hw =>
    rw [hv] at hw
    cases hw
  | same st => exact absurd rfl (hout st)
  | changed st => exact absurd rfl (hout st)
  | unhashable => exact absurd rfl (hout .unhashable)
  | changedOffRoster st => exact absurd rfl (hout st)

/-- The state a poll brings is that of its object then. -/
theorem lifecycle_poll {st : LifecycleState} {res : Except (Raised BinderState) BinderState}
    (hp : Polled s now runId ref (.ok (some st)) res) :
    ((settle res).binder.heap ref).lifecycleState = some st := by
  cases hp with
  | same _ hst => rw [settle, heap_noteSample_self, hst]
  | changed => rw [settle, heap_announce, heap_stored_self]
  | unhashable => rw [settle, heap_stored_self]
  | changedOffRoster => rw [settle, heap_stored_self]

/-- A poll writes the vehicle of its object only. -/
theorem fleet_poll_ne {out : Except PyExc (Option LifecycleState)}
    {res : Except (Raised BinderState) BinderState} (hp : Polled s now runId ref out res)
    {w : String} (hw : w ≠ (s.binder.heap ref).vehicleId) :
    (settle res).fleet.get w = s.fleet.get w := by
  cases hp with
  | lost _ _ _ _ ha => exact ha.other w hw
  | changed _ _ _ _ _ _ ha => exact ha.other w hw
  | unhashable _ _ _ _ ha => exact ha.other w hw
  | _ => rfl

/-- And records its own object only. -/
theorem sampled_poll_ne {out : Except PyExc (Option LifecycleState)}
    {res : Except (Raised BinderState) BinderState} (hp : Polled s now runId ref out res)
    {ref' : Ref} (hne : ref' ≠ ref) {st : LifecycleState}
    (hmem : (ref', st) ∈ (settle res).binder.sampled) : (ref', st) ∈ s.binder.sampled := by
  have hold : ∀ st', (ref', st) ∈ s.binder.sampled ++ [(ref, st')] →
      (ref', st) ∈ s.binder.sampled := fun _ hmem =>
    (mem_sampled_snoc.mp hmem).resolve_right fun h => hne h.1
  cases hp with
  | same st' => exact hold st' hmem
  | changed st' =>
    rw [settle, sampled_announce] at hmem
    exact hold st' hmem
  | unhashable => exact hold _ hmem
  | changedOffRoster st' => exact hold st' hmem
  | _ => exact hmem

end Poll

end RunBinder

namespace Runtime

open Transition RunBinder

/-! ## The vehicle follows its run -/

/-- The object `ref` of the run on its vehicle: what the polls of it have left, as long as it
is live. While a poll of an older object of the run is in flight it has not been polled. -/
structure Follows (vid run : String) (ref : Ref) (s : BinderState) : Prop where
  old : ref < s.binder.fresh
  vehicle : (s.binder.heap ref).vehicleId = vid
  runId : (s.binder.heap ref).runId = run
  roster : vid ∈ s.fleet.ids
  recorded : s.binder.Recorded ref
  waits : ∀ round rest r ref', s.binder.loop = .awaiting round rest r ref' →
    (s.binder.heap ref').vehicleId = vid → ref' ≠ ref → s.binder.bindings.get? run = some ref →
      (s.binder.heap ref).lifecycleState = none
  shows : s.binder.Live run ref → ∀ v, s.fleet.get vid = some v → s.binder.Shows ref v

variable {vid run : String} {ref : Ref} {s s' : BinderState}

theorem follows_aside (h : Follows vid run ref s) {fleet : FleetState}
    {startTasks : List AutoStart} (hk : s.fleet.KeepsRuns fleet) :
    Follows vid run ref ⟨fleet, { s.binder with startTasks }⟩ := by
  refine ⟨h.old, h.vehicle, h.runId, ?_, h.recorded.congr rfl rfl, h.waits, ?_⟩
  · rw [hk.ids]
    exact h.roster
  · intro hlive v hv
    have hview := hk.runs vid
    rw [hv] at hview
    obtain ⟨w, hw, hsame⟩ := Option.map_eq_some_iff.mp hview.symm
    exact (Shows.of_runView (h.shows hlive w hw) hsame.symm).congr rfl id

/-- A hand-over makes a new object, and takes the table's place of an older one. -/
theorem follows_track (hwf : s.binder.WellFormed) (h : Follows vid run ref s) (now : ℚ)
    (runId vehicleId tripId shapeId : String) (stop : Option String) :
    Follows vid run ref
      ⟨s.fleet, s.binder.track now runId vehicleId tripId shapeId stop⟩ := by
  have hold : ∀ {ref'}, ref' < s.binder.fresh →
      (s.binder.track now runId vehicleId tripId shapeId stop).heap ref' = s.binder.heap ref' :=
    heap_track_ne s.binder now runId vehicleId tripId shapeId stop
  have hself := hold h.old
  have htable : (s.binder.track now runId vehicleId tripId shapeId stop).bindings.get? run =
      some ref → s.binder.bindings.get? run = some ref := by
    simp only [RunBinder.track, Dict.get?_set]
    split
    · rintro hnew
      exact absurd (Option.some.inj hnew).symm (Nat.ne_of_lt h.old)
    · exact id
  refine ⟨Nat.lt_succ_of_lt h.old, ?_, ?_, h.roster, h.recorded.congr hself rfl, ?_, ?_⟩
  · rw [hself]
    exact h.vehicle
  · rw [hself]
    exact h.runId
  · intro round rest r ref' hl
    rw [hold (hwf.awaited round rest r ref' hl).1, hself]
    exact fun hv hne ht => h.waits round rest r ref' hl hv hne (htable ht)
  · intro hlive v hv
    exact (h.shows (hlive.imp_left htable) v hv).congr hself id

theorem follows_handOver (hwf : s.binder.WellFormed) (h : Follows vid run ref s) (now : ℚ)
    (tr : Tracked) : Follows vid run ref ⟨s.fleet, handOver s.binder now tr⟩ := by
  have ht := follows_track hwf h now tr.runId tr.vehicleId tr.tripId tr.shapeId tr.terminalStopId
  unfold handOver
  split
  · exact ⟨ht.old, ht.vehicle, ht.runId, ht.roster, ht.recorded.congr rfl rfl, ht.waits,
      fun hlive v hv => (ht.shows hlive v hv).congr rfl id⟩
  · exact ht

theorem follows_handedOver (hwf : s.binder.WellFormed) (h : Follows vid run ref s) (now : ℚ)
    (runs : List Tracked) :
    Follows vid run ref ⟨s.fleet, runs.foldl (fun b tr => handOver b now tr) s.binder⟩ := by
  induction runs generalizing s with
  | nil => exact h
  | cons tr runs ih =>
    exact ih (s := ⟨s.fleet, handOver s.binder now tr⟩) (wellFormed_handOver hwf now tr)
      (follows_handOver hwf h now tr)

theorem follows_dropped (h : Follows vid run ref s) (runId : String)
    (untrackTimers : List String) :
    Follows vid run ref ⟨s.fleet, { s.binder.untrack runId with untrackTimers }⟩ := by
  refine ⟨h.old, h.vehicle, h.runId, h.roster, h.recorded.congr rfl rfl, ?_, ?_⟩
  · exact fun round rest r ref' hl hv hne ht =>
      h.waits round rest r ref' hl hv hne (get?_untrack ht)
  · exact fun hlive v hv => (h.shows (hlive.imp_left get?_untrack) v hv).congr rfl id

/-- The walk to the next GET starts from a table that is in order and has no other run on the
vehicle. -/
theorem follows_next {b : RunBinder} {fleet : FleetState} {loop : PollLoop}
    (htracked : ∀ r ref', b.bindings.get? r = some ref' → (b.heap ref').runId = r)
    (hsole : b.Sole vid run) (hold : ref < b.fresh) (hvehicle : (b.heap ref).vehicleId = vid)
    (hrunId : (b.heap ref).runId = run) (hroster : vid ∈ fleet.ids) (hrec : b.Recorded ref)
    (hshows : b.bindings.get? run = some ref → ∀ v, fleet.get vid = some v → b.Shows ref v)
    (hnext : ∀ round rest r ref', loop = .awaiting round rest r ref' →
      b.bindings.get? r = some ref') :
    Follows vid run ref ⟨fleet, { b with loop }⟩ := by
  refine ⟨hold, hvehicle, hrunId, hroster, hrec.congr rfl rfl, ?_, ?_⟩
  · intro round rest r ref' hl hv hne ht
    have ht' := hnext round rest r ref' hl
    rw [hsole r ref' ht' hv] at ht'
    exact absurd (Option.some.inj (ht'.symm.trans ht)) hne
  · intro hlive v hv
    have ht : b.bindings.get? run = some ref := by
      rcases hlive with ht | ⟨round, rest, r, hl⟩
      · exact ht
      · have ht := hnext round rest r ref hl
        rw [← hrunId, htracked r ref ht]
        exact ht
    exact (hshows ht v hv).congr rfl id

theorem follows_woke (hwf : s.binder.WellFormed) (h : Follows vid run ref s)
    (hsole : s.binder.Sole vid run) : Follows vid run ref ⟨s.fleet, s.binder.wake⟩ := by
  refine follows_next (fun r ref' ht => (hwf.tracked r ref' ht).2) hsole h.old h.vehicle h.runId
    h.roster h.recorded (fun ht => h.shows (.inl ht)) ?_
  have hround := advance_inRound s.binder s.binder.bindings.keys s.binder.bindings.keys [] (by simp)
  exact fun round rest r ref' hl => (hround.awaiting round rest r ref' hl).2.1

/-- After a poll of the object itself, if it is still the one of the table. -/
theorem shows_poll_self {now : ℚ} {r : String} {out : Except PyExc (Option LifecycleState)}
    {res : Except (Raised BinderState) BinderState} (hp : Polled s now r ref out res)
    (h : Follows vid run ref s) (hframe : PollFrame ref s.binder (settle res).binder)
    (hpollable : (s.binder.heap ref).Pollable)
    (ht : (settle res).binder.bindings.get? run = some ref) {v' : Vehicle}
    (hv' : (settle res).fleet.get vid = some v') : (settle res).binder.Shows ref v' := by
  obtain ⟨v, hv⟩ := FleetState.get_of_mem_ids h.roster
  have hshows := h.shows (.inl (hframe.bindings run ref ht)) v hv
  rw [← h.vehicle] at hv
  rw [← h.runId] at ht
  by_cases hstate : ∃ st, out = .ok (some st)
  · obtain ⟨st, rfl⟩ := hstate
    obtain ⟨w, hw, hleaves⟩ := poll_leaves hp hv hpollable h.recorded hshows
    rw [h.vehicle, hv'] at hw
    cases hw
    have hlife := lifecycle_poll hp
    refine ⟨fun st' hst' hn => ?_, fun st' hst' hn hmem => ?_⟩
    · rw [hlife] at hst'
      cases hst'
      exact (hleaves.shows st rfl hn).1
    · rw [hlife] at hst'
      cases hst'
      exact ((hleaves.shows st rfl hn).2 hmem).of_sameRun hframe.self
  · have hidle := poll_idle hp hv (fun st hst => hstate ⟨st, hst⟩) ht
    rw [hidle, ← h.vehicle, hv] at hv'
    cases hv'
    rw [hidle]
    exact hshows

/-- After a poll of another object. -/
theorem shows_poll_other {now : ℚ} {round : Round} {rest : List String} {r : String} {ref' : Ref}
    {out : Except PyExc (Option LifecycleState)} {res : Except (Raised BinderState) BinderState}
    (hp : Polled s now r ref' out res) (h : Follows vid run ref s)
    (hframe : PollFrame ref' s.binder (settle res).binder)
    (hl : s.binder.loop = .awaiting round rest r ref') (hne : ref' ≠ ref)
    (ht : (settle res).binder.bindings.get? run = some ref) {v : Vehicle}
    (hv : (settle res).fleet.get vid = some v) : (settle res).binder.Shows ref v := by
  have htable := hframe.bindings run ref ht
  have hheap := hframe.other ref (Ne.symm hne)
  by_cases hvid : (s.binder.heap ref').vehicleId = vid
  · -- an older object of the run: this one has not been polled yet
    have hnone := h.waits round rest r ref' hl hvid hne htable
    refine ⟨fun st hst => ?_, fun st hst => ?_⟩
    · rw [hheap, hnone] at hst
      cases hst
    · rw [hheap, hnone] at hst
      cases hst
  · rw [fleet_poll_ne hp (Ne.symm hvid)] at hv
    exact (h.shows (.inl htable) v hv).congr hheap (sampled_poll_ne hp (Ne.symm hne))

theorem follows_polled (hwf : s.binder.WellFormed) (h : Follows vid run ref s) {round : Round}
    {rest : List String} {r : String} {ref' : Ref}
    (hl : s.binder.loop = .awaiting round rest r ref') (now : ℚ)
    (out : Except PyExc (Option LifecycleState))
    (hsole : (RunBinder.resume s now round rest r ref' out).binder.Sole vid run) :
    Follows vid run ref (RunBinder.resume s now round rest r ref' out) := by
  have hp := processPoll_polled s now r ref' out
  have hframe := processPoll_frame s now r ref' out
  have hids := resume_ids s now round rest r ref' out
  obtain ⟨loop, heq, hnext⟩ := resume_next hwf hl
  rw [heq] at hsole hids ⊢
  refine follows_next (fun r' ref₁ ht => ?_) hsole ?_ ?_ ?_ ?_
    (recorded_poll hp h.recorded) ?_ hnext
  · rw [(hframe.sameRun ref₁).runId]
    exact (hwf.tracked r' ref₁ (hframe.bindings r' ref₁ ht)).2
  · rw [hframe.fresh]
    exact h.old
  · rw [(hframe.sameRun ref).vehicleId]
    exact h.vehicle
  · rw [(hframe.sameRun ref).runId]
    exact h.runId
  · rw [hids]
    exact h.roster
  · intro ht v hv
    by_cases hr : ref' = ref
    · subst hr
      exact shows_poll_self hp h hframe (hwf.awaited round rest r ref' hl).2.2 ht hv
    · exact shows_poll_other hp h hframe hl hr ht hv

/-- Every move of the runtime keeps the vehicle with its run. -/
theorem follows_move (hwf : s.binder.WellFormed) (h : Follows vid run ref s)
    (hm : BinderMove s s') (hsole : s'.binder.Sole vid run) : Follows vid run ref s' := by
  cases hm with
  | aside fleet startTasks hk => exact follows_aside h hk
  | handedOver now runs => exact follows_handedOver hwf h now runs
  | woke last hl => exact follows_woke hwf h hsole
  | polled now http round rest r ref' hl => exact follows_polled hwf h hl now _ hsole
  | dropped runId untrackTimers => exact follows_dropped h runId untrackTimers

/-! ## The object stays that of its run -/

theorem sameRun_handedOver (now : ℚ) (runs : List Tracked) {b : RunBinder} (h : ref < b.fresh) :
    (b.heap ref).SameRun ((runs.foldl (fun b tr => handOver b now tr) b).heap ref) := by
  induction runs generalizing b with
  | nil => exact .refl _
  | cons tr runs ih =>
    have hheap : (handOver b now tr).heap ref = b.heap ref := by
      unfold handOver
      split <;> exact heap_track_ne b now _ _ _ _ _ h
    have hfresh : ref < (handOver b now tr).fresh := by
      unfold handOver
      split <;> exact Nat.lt_succ_of_lt h
    rw [← hheap]
    exact ih hfresh

theorem sameRun_move (h : ref < s.binder.fresh) (hm : BinderMove s s') :
    (s.binder.heap ref).SameRun (s'.binder.heap ref) := by
  cases hm with
  | handedOver now runs => exact sameRun_handedOver now runs h
  | polled now http round rest r ref' =>
    obtain ⟨loop, heq⟩ := resume_eq s now round rest r ref' (DatabusClient.getRunState http)
    rw [heq]
    exact (processPoll_frame s now r ref' _).sameRun ref
  | _ => exact .refl _

/-! ## Every run of the runtime -/

/-- The end of a poll of the object `ref`, tracked as `b`, leaves its vehicle in agreement. -/
def Agrees (bound : RunBinder → Ref → Prop) (b : BoundRun) (ref : Ref) (s : Runtime) (ev : Event)
    (s' : Runtime) : Prop :=
  AtPoll (fun _ http _ ref' => ref' = ref → ∃ v', s'.fleet.get b.vehicleId = some v' ∧
    Leaves s.binder s'.binder b (DatabusClient.getRunState http) (·.isUnderWay = true)
      (bound s'.binder ref) v') s ev

/-- From any reachable state on in which a run has just been tracked on a vehicle of the roster
that no other run has, and for as long as none is tracked on it: every poll of the run leaves the vehicle in agreement with it. -/
def AgreesThroughout (bound : RunBinder → Ref → Prop) (cfg : Settings) (init : Runtime) : Prop :=
  ∀ s vid run ref es, System.Reachable (step cfg) init s → vid ∈ s.fleet.ids →
    s.binder.Unpolled vid run ref → s.binder.Sole vid run →
    System.Always (step cfg) (fun _ _ s' => s'.binder.Sole vid run) s es →
      System.Always (step cfg) (Agrees bound (s.binder.heap ref) ref) s es

/-- A poll of the run or an earlier one has answered `Confirmed`. -/
def ConfirmedSince (b : RunBinder) (ref : Ref) : Prop := (ref, .confirmed) ∈ b.sampled

theorem follows_unpolled {s : Runtime} (hwf : s.binder.WellFormed) (hroster : vid ∈ s.fleet.ids)
    (hnew : s.binder.Unpolled vid run ref) :
    Follows vid run ref s.binderState := by
  obtain ⟨hold, hid⟩ := hwf.tracked run ref hnew.tracked
  have hnone : ∀ st, (s.binderState.binder.heap ref).lifecycleState ≠ some st := by
    intro st hst
    rw [show (s.binderState.binder.heap ref).lifecycleState = none from hnew.lifecycle] at hst
    cases hst
  refine ⟨hold, hnew.vehicle, hid, hroster, ⟨?_, ?_⟩, ?_, ?_⟩
  · exact fun st hst => absurd hst (hnone st)
  · exact fun st hmem => absurd hmem (hnew.unseen st)
  · exact fun _ _ _ _ _ _ _ _ => hnew.lifecycle
  · exact fun _ v _ => ⟨fun st hst => absurd hst (hnone st), fun st hst => absurd hst (hnone st)⟩

/-- One step of a vehicle that follows its run. -/
theorem agrees_step {cfg : Settings} {s s' : Runtime} {ev : Event} {b : BoundRun}
    (hwf : s.binder.WellFormed) (h : Follows vid run ref s.binderState)
    (hsame : b.SameRun (s.binder.heap ref)) (hs : step cfg s ev = some s') :
    Agrees ConfirmedSince b ref s ev s' := by
  unfold Agrees AtPoll
  split
  · rename_i now http round rest r ref' hl
    rintro rfl
    have hs' := step_pollReply hl hs
    have hp := processPoll_polled s.binderState now r ref' (DatabusClient.getRunState http)
    obtain ⟨v, hv⟩ := FleetState.get_of_mem_ids h.roster
    have hshows := h.shows (.inr ⟨round, rest, r, hl⟩) v hv
    have hvid : b.vehicleId = (s.binder.heap ref').vehicleId := hsame.vehicleId.symm
    rw [← h.vehicle] at hv
    obtain ⟨v', hv', hleaves⟩ := poll_leaves hp hv (hwf.awaited round rest r ref' hl).2.2
      h.recorded hshows
    obtain ⟨loop, heq⟩ := resume_eq s.binderState now round rest r ref'
      (DatabusClient.getRunState http)
    rw [heq] at hs'
    rw [hs', hvid]
    refine ⟨v', hv', fun st hout hway => ?_, hleaves.clears, hleaves.loses⟩
    obtain ⟨hlife, hbound⟩ :=
      hleaves.shows st hout (LifecycleState.not_isTerminal_of_isUnderWay hway)
    refine ⟨hlife, fun hconf => ?_⟩
    exact (hbound hconf).of_sameRun hsame.symm
  · trivial

/-- Binder and fleet agree on a run that has its vehicle to itself, once a poll has confirmed
it. -/
theorem binding_agrees (cfg : Settings) (draws : String → Draws)
    (shapes : Except PyExc ShapesFile) (progressionGeom : Dict String (List ShapeStop))
    (schedule : Except PyExc PyVal) :
    AgreesThroughout ConfirmedSince cfg (start cfg draws shapes progressionGeom schedule) := by
  intro s vid run ref es hreach hroster hnew _ hsole
  have hwf : s.binder.WellFormed :=
    reachable_invariant (fun _ _ _ h hs => wellFormed_step h hs)
      (wellFormed_start cfg draws shapes progressionGeom schedule) hreach
  refine always_of_always (I := fun t : Runtime => t.binder.WellFormed ∧
    Follows vid run ref t.binderState ∧ (s.binder.heap ref).SameRun (t.binder.heap ref)) ?_ ?_ hsole
  · rintro t ev t' ⟨ht, hfollows, hsame⟩ hs hsole'
    refine ⟨⟨wellFormed_step ht hs, follows_move ht hfollows (step_moves hs) hsole', ?_⟩,
      agrees_step ht hfollows hsame hs⟩
    exact hsame.trans (sameRun_move hfollows.old (step_moves hs))
  · exact ⟨hwf, follows_unpolled hwf hroster hnew, .refl _⟩

/-! ## A run first seen under way -/

/-- The runtime once a run has been tracked. -/
def trackedOnce : Runtime :=
  { plainStart noFile noFile with
    binder := (plainStart noFile noFile).binder.track 0 "r1" "unit-01" "t1" "hacia_artes" none }

/-- The loop's own steps track nothing new. -/
theorem sole_poll {cfg : Settings} {s s' : Runtime} {ev : Event}
    (h : ∀ r ref, s.binder.bindings.get? r = some ref → r = run)
    (hs : step cfg s ev = some s') (hev : ev = .pollWake ∨ ∃ now http, ev = .pollReply now http) :
    ∀ r ref, s'.binder.bindings.get? r = some ref → r = run := by
  obtain rfl | ⟨now, http, rfl⟩ := hev
  · simp only [step] at hs
    split at hs <;> cases hs
    exact h
  · simp only [step] at hs
    split at hs
    · rename_i round rest r ref hl
      cases hs
      obtain ⟨loop, heq⟩ := resume_eq s.binderState now round rest r ref
        (DatabusClient.getRunState http)
      simp only [withBinder, heq]
      have hframe := processPoll_frame s.binderState now r ref (DatabusClient.getRunState http)
      exact fun r' ref' ht => h r' ref' (hframe.bindings r' ref' ht)
    · cases hs

/-- Its first poll answers `In Progress`: the vehicle shows the state, but not the run. -/
theorem in_progress_unbound :
    ¬ AgreesThroughout (fun _ _ => True) plainSettings (plainStart noFile noFile) := by
  intro h
  have htrack : step plainSettings (plainStart noFile noFile)
      (.trackRun 0 "r1" "unit-01" "t1" "hacia_artes" none) = some trackedOnce := by
    have hroster : ¬((plainStart noFile noFile).fleet.get "unit-01").isNone := by decide +kernel
    simp only [step]
    rw [if_neg hroster]
    rfl
  have honly : ∀ r ref, trackedOnce.binder.bindings.get? r = some ref → r = "r1" := by
    intro r ref ht
    simp only [trackedOnce, RunBinder.track, plainStart, start, Dict.get?_set,
      Dict.get?_empty] at ht
    split at ht
    · assumption
    · cases ht
  have hsole : System.Always (step plainSettings) (fun _ _ s' => s'.binder.Sole "unit-01" "r1")
      trackedOnce [.pollWake, .pollReply 1 (stateReply "In Progress")] := by
    intro s' hs'
    have honly' := sole_poll honly hs' (.inl rfl)
    refine ⟨fun r ref ht _ => honly' r ref ht, fun s'' hs'' => ⟨fun r ref ht _ => ?_, trivial⟩⟩
    exact sole_poll honly' hs'' (.inr ⟨_, _, rfl⟩) r ref ht
  have hagrees := h trackedOnce "unit-01" "r1" 0 _ ⟨[_], run_cons_some.mpr ⟨_, htrack, rfl⟩⟩
    (by decide +kernel) ⟨rfl, rfl, rfl, by intro st hmem; cases hmem⟩
    (fun r ref ht _ => honly r ref ht) hsole
  have hrun : ((System.run (step plainSettings) trackedOnce [.pollWake]).bind fun s =>
      (step plainSettings s (.pollReply 1 (stateReply "In Progress"))).map fun s' =>
        (s.polled, (s'.fleet.get "unit-01").map Vehicle.runView)) =
      some (some 0, some ⟨none, none, none, none, some .inProgress⟩) := by
    decide +kernel
  obtain ⟨s, s', hs, hs', hview⟩ := last_step hrun
  simp only [Prod.mk.injEq, Option.map_eq_some_iff] at hview
  obtain ⟨hpolled, w, hw, hshown⟩ := hview
  obtain ⟨runId, hstep⟩ := (always_last hagrees hs hs').of_polled hpolled
  obtain ⟨v', hv', hleaves⟩ := hstep rfl
  rw [show (trackedOnce.binder.heap 0).vehicleId = "unit-01" from rfl, hw] at hv'
  cases hv'
  have hbound := ((hleaves.shows .inProgress rfl rfl).2 trivial).run
  rw [show w.boundRunId = none from congrArg RunView.run hshown] at hbound
  cases hbound

end Runtime

end DatabusSim
