import DatabusSim.Runtime.BindingAgreement

/-!
# The chain of state-change notifications

The binder with its callback installed, over runs of distinct ids that are each tracked
once on a vehicle of the roster. What `poll_loop` does on behalf of the runs is written
down in order: the calls it makes on the fleet and the notifications, each with the
fleet it finds.
-/

namespace DatabusSim

namespace RunBinder

/-! ## What a poll calls on the fleet -/

/-- The calls of `_apply_state` and `_force_unbind` on one vehicle. -/
inductive FleetCall where
  | setLifecycleState (st : LifecycleState)
  | bindRun
  | setMoving (moving : Bool)
  /-- The assignment `v.progress_m = 0.0`. -/
  | resetProgress
  | setTransmitting (transmitting : Bool)
  | unbindRun
  deriving DecidableEq

def FleetCall.run (now : ℚ) (b : BoundRun) (f : FleetState) : FleetCall → Except PyExc FleetState
  | .setLifecycleState st => f.setLifecycleState now b.vehicleId (some st)
  | .bindRun => f.bindRun now b.vehicleId b.runId b.tripId b.shapeId b.terminalStopId
  | .setMoving moving => f.setMoving now b.vehicleId moving
  | .resetProgress =>
      .ok (match f.get b.vehicleId with
        | some v => f.put b.vehicleId { v with progressM := 0 }
        | none => f)
  | .setTransmitting transmitting => f.setTransmitting now b.vehicleId transmitting
  | .unbindRun => f.unbindRun now b.vehicleId

/-- The calls of `_apply_state`, in order. -/
def applyCalls (st : LifecycleState) : List FleetCall :=
  .setLifecycleState st ::
    match st with
    | .confirmed => [.bindRun, .setMoving false, .resetProgress, .setTransmitting true]
    | st => if st.isTerminal then [.setTransmitting false, .unbindRun] else []

theorem raisingAt_ok {σ α : Type} {s : σ} {x : Except PyExc α} {a : α}
    (h : raisingAt s x = .ok a) : x = .ok a := by
  cases x with
  | ok a' =>
    cases h
    rfl
  | error e => cases h

/-- They make the fleet that `_apply_state` leaves. -/
theorem applyState_calls {f f' : FleetState} {now : ℚ} {b : BoundRun} {st : LifecycleState}
    (h : applyState f now b st = .ok f') :
    (applyCalls st).foldlM (FleetCall.run now b) f = .ok f' := by
  obtain ⟨f₁, hset, hbranch⟩ := bind_ok.mp h
  refine bind_ok.mpr ⟨f₁, raisingAt_ok hset, ?_⟩
  have hterminal : raisingAt f₁ (applyTerminal f₁ now b) = .ok f' →
      [FleetCall.setTransmitting false, .unbindRun].foldlM (FleetCall.run now b) f₁ = .ok f' := by
    intro h
    obtain ⟨f₂, h₂, h₃⟩ := bind_ok.mp (raisingAt_ok h)
    exact bind_ok.mpr ⟨f₂, h₂, bind_ok.mpr ⟨f', h₃, rfl⟩⟩
  cases st with
  | confirmed =>
    obtain ⟨f₂, h₂, h⟩ := bind_ok.mp (raisingAt_ok hbranch)
    obtain ⟨f₃, h₃, h₄⟩ := bind_ok.mp h
    exact bind_ok.mpr ⟨f₂, h₂, bind_ok.mpr ⟨f₃, h₃, bind_ok.mpr ⟨_, rfl,
      bind_ok.mpr ⟨f', h₄, rfl⟩⟩⟩⟩
  | completed => exact hterminal hbranch
  | cancelled => exact hterminal hbranch
  | interrupted => exact hterminal hbranch
  | shortTurned => exact hterminal hbranch
  | unhashable => cases hbranch
  | _ =>
    cases hbranch
    rfl

/-- What happens to the fleet and to the callback. -/
inductive Action where
  /-- `poll_loop` calls the fleet on behalf of the run of `b`. -/
  | call (now : ℚ) (b : BoundRun) (c : FleetCall)
  /-- `_force_unbind` has unbound the vehicle. -/
  | forceUnbound (runId : String)
  /-- `on_state_change`, and the fleet at its call. -/
  | notify (change : StateChange) (fleet : FleetState)
  /-- Something else has written the fleet. -/
  | elsewhere (fleet : FleetState)

/-- The run it is done on behalf of. -/
def Action.runId : Action → Option String
  | .call _ b _ => some b.runId
  | .forceUnbound runId => some runId
  | .notify change _ => some change.runId
  | .elsewhere _ => none

/-- The run is over: it was notified of a terminal state, or force-unbound. -/
def Action.closes : Action → Bool
  | .call _ _ _ => false
  | .forceUnbound _ => true
  | .notify change _ => change.new.isTerminal
  | .elsewhere _ => false

def Action.change : Action → Option StateChange
  | .notify change _ => some change
  | _ => none

def Action.unbound : Action → Option String
  | .forceUnbound runId => some runId
  | _ => none

/-- What `poll_loop` does after the GET of one run, for a vehicle of the roster. -/
def pollActions (s : BinderState) (now : ℚ) (runId : String) (ref : Ref)
    (out : Except PyExc (Option LifecycleState)) : List Action :=
  match out with
  | .error _ => []
  | .ok none =>
      if losesRun now (s.binder.heap ref) then
        [.call now (s.binder.heap ref) .unbindRun, .forceUnbound (s.binder.heap ref).runId]
      else []
  | .ok (some newState) =>
      let oldState := (s.binder.heap ref).lifecycleState
      if oldState = some newState then []
      else
        -- the binding has the new state when it is applied
        let b := (s.binder.stored now ref newState).heap ref
        (applyCalls newState).map (.call now b) ++
          match applyState s.fleet now b newState with
          | .error _ => []
          | .ok fleet =>
              if s.binder.hasCallback ∨ s.binder.autoStarts ≠ [] then
                [.notify ⟨runId, oldState, newState⟩ fleet]
              else []

/-! ## The actions against the fleet and the binder -/

/-- The actions lead from one fleet to another: each call of the loop makes the next one, and
a notification is given in the fleet as it is then. -/
inductive Replays : FleetState → List Action → FleetState → Prop where
  | nil {f : FleetState} : Replays f [] f
  | call {now : ℚ} {b : BoundRun} {c : FleetCall} {f f' g : FleetState} {actions : List Action} :
      c.run now b f = .ok f' → Replays f' actions g → Replays f (.call now b c :: actions) g
  | forceUnbound {runId : String} {f g : FleetState} {actions : List Action} :
      Replays f actions g → Replays f (.forceUnbound runId :: actions) g
  | notify {c : StateChange} {f g : FleetState} {actions : List Action} :
      Replays f actions g → Replays f (.notify c f :: actions) g
  | elsewhere {f f' g : FleetState} {actions : List Action} :
      Replays f' actions g → Replays f (.elsewhere f' :: actions) g

/-- The actions are what has happened from `s` to `s'`: they lead to its fleet, they notify of
what `on_state_change` was called with, and they force-unbind the runs that were lost. -/
structure Logged (s : BinderState) (actions : List Action) (s' : BinderState) : Prop where
  fleet : Replays s.fleet actions s'.fleet
  changes : s'.binder.stateChanges = s.binder.stateChanges ++ actions.filterMap Action.change
  lost : s'.binder.lost = s.binder.lost ++ actions.filterMap Action.unbound

theorem Replays.append {f g h : FleetState} {as bs : List Action} (hfg : Replays f as g)
    (hgh : Replays g bs h) : Replays f (as ++ bs) h := by
  induction hfg with
  | nil => exact hgh
  | call hc _ ih => exact .call hc (ih hgh)
  | forceUnbound _ ih => exact .forceUnbound (ih hgh)
  | notify _ ih => exact .notify (ih hgh)
  | elsewhere _ ih => exact .elsewhere (ih hgh)

theorem Logged.append {s s' s'' : BinderState} {as bs : List Action} (h : Logged s as s')
    (h' : Logged s' bs s'') : Logged s (as ++ bs) s'' where
  fleet := h.fleet.append h'.fleet
  changes := by rw [h'.changes, h.changes, List.filterMap_append, List.append_assoc]
  lost := by rw [h'.lost, h.lost, List.filterMap_append, List.append_assoc]

/-- Nothing has happened. -/
theorem Logged.nothing {s s' : BinderState} (hfleet : s'.fleet = s.fleet)
    (hchanges : s'.binder.stateChanges = s.binder.stateChanges)
    (hlost : s'.binder.lost = s.binder.lost) : Logged s [] s' where
  fleet := hfleet ▸ .nil
  changes := by rw [hchanges, List.filterMap_nil, List.append_nil]
  lost := by rw [hlost, List.filterMap_nil, List.append_nil]

theorem replays_calls {now : ℚ} {b : BoundRun} {calls : List FleetCall} {f f' : FleetState}
    (h : calls.foldlM (FleetCall.run now b) f = .ok f') :
    Replays f (calls.map (.call now b)) f' := by
  induction calls generalizing f with
  | nil =>
    cases h
    exact .nil
  | cons c calls ih =>
    obtain ⟨f₁, hc, h⟩ := bind_ok.mp h
    exact .call hc (ih h)

theorem change_calls (now : ℚ) (b : BoundRun) (calls : List FleetCall) :
    (calls.map (Action.call now b)).filterMap Action.change = [] := by
  rw [List.filterMap_map, List.filterMap_eq_nil_iff]
  exact fun _ _ => rfl

theorem unbound_calls (now : ℚ) (b : BoundRun) (calls : List FleetCall) :
    (calls.map (Action.call now b)).filterMap Action.unbound = [] := by
  rw [List.filterMap_map, List.filterMap_eq_nil_iff]
  exact fun _ _ => rfl

/-- Also when the new state is none that `_apply_state` can look up. -/
theorem applyState_replays {f : FleetState} (now : ℚ) {b : BoundRun}
    (hroster : (f.get b.vehicleId).isSome) (st : LifecycleState) :
    Replays f ((applyCalls st).map (.call now b)) (settle (applyState f now b st)) := by
  obtain ⟨v, hv⟩ := Option.isSome_iff_exists.mp hroster
  cases happly : applyState f now b st with
  | ok f' => exact replays_calls (applyState_calls happly)
  | error r =>
    obtain ⟨f₁, hset, -⟩ := appliedTo_mutate hv (observed now st)
    have hbranch : applyBranch f₁ now b st = .error r := by
      rw [← happly]
      show _ = raisingAt f (f.mutate b.vehicleId (observed now st)) >>= fun f => _
      rw [hset]
      rfl
    obtain ⟨f', -, hf⟩ := applyState_onRoster now hv st
    rw [happly] at hf
    split_ifs at hf with hu
    subst hu
    cases hbranch
    exact .call hset .nil

/-- The actions of a poll are what the poll does. -/
theorem processPoll_logged {s : BinderState} {now : ℚ} {runId : String} {ref : Ref}
    {out : Except PyExc (Option LifecycleState)} (hcallback : s.binder.hasCallback = true)
    (hroster : (s.fleet.get (s.binder.heap ref).vehicleId).isSome) :
    Logged s (pollActions s now runId ref out) (settle (processPoll s now runId ref out)) := by
  match out with
  | .error _ => exact .nothing rfl rfl rfl
  | .ok none =>
    cases hl : losesRun now (s.binder.heap ref) with
    | false =>
      simp only [pollActions, processPoll, hl]
      exact .nothing rfl rfl rfl
    | true =>
      obtain ⟨v, hv⟩ := Option.isSome_iff_exists.mp hroster
      obtain ⟨f', hunbind, -⟩ := appliedTo_mutate hv (released now)
      have hunbind : s.fleet.unbindRun now (s.binder.heap ref).vehicleId = .ok f' := hunbind
      simp only [pollActions, processPoll, hl, forceUnbind, hunbind, settle, if_true]
      exact ⟨.call hunbind (.forceUnbound .nil), (List.append_nil _).symm, rfl⟩
  | .ok (some st) =>
    by_cases hsame : (s.binder.heap ref).lifecycleState = some st
    · simp only [pollActions, processPoll, hsame, if_true]
      exact .nothing rfl rfl rfl
    have hself := (stored_frame s.binder now ref st).self
    have hcalls := applyState_replays (f := s.fleet) now
      (b := (s.binder.stored now ref st).heap ref) (by rw [hself.vehicleId]; exact hroster) st
    have hpoll : processPoll s now runId ref (.ok (some st)) =
        match applyState s.fleet now ((s.binder.stored now ref st).heap ref) st with
        | .error r => .error ⟨r.exc, { fleet := r.state, binder := s.binder.stored now ref st }⟩
        | .ok fleet =>
            .ok ⟨fleet, (s.binder.stored now ref st).announce
              ⟨runId, (s.binder.heap ref).lifecycleState, st⟩⟩ := by
      simp only [processPoll, if_neg hsame]
      rfl
    rw [hpoll]
    simp only [pollActions, if_neg hsame]
    cases happly : applyState s.fleet now ((s.binder.stored now ref st).heap ref) st with
    | error r =>
      rw [happly] at hcalls
      simp only [List.append_nil]
      refine ⟨hcalls, ?_, ?_⟩
      · rw [change_calls, List.append_nil]
        rfl
      · rw [unbound_calls, List.append_nil]
        rfl
    | ok f' =>
      rw [happly] at hcalls
      simp only [hcallback, true_or, if_true]
      refine ⟨hcalls.append (.notify .nil), ?_, ?_⟩
      · rw [List.filterMap_append, change_calls]
        exact stateChanges_announce _ (.inl hcallback)
      · rw [List.filterMap_append, unbound_calls]
        exact (lost_announce _ _).trans (List.append_nil _).symm

/-! ## Chains of changes -/

/-- The changes of a run, in order. -/
def changesOf (runId : String) (changes : List StateChange) : List StateChange :=
  changes.filter fun c => c.runId = runId

/-- Each change starts where the one before it ended, and goes to another state. -/
def Linked : Option LifecycleState → List StateChange → Prop
  | _, [] => True
  | st, c :: changes => c.old = st ∧ some c.new ≠ st ∧ Linked (some c.new) changes

/-- Where the changes lead. -/
def lastState : Option LifecycleState → List StateChange → Option LifecycleState
  | st, [] => st
  | _, c :: changes => lastState (some c.new) changes

/-- Nothing more is done on behalf of a run that is over. -/
def Quiet (actions : List Action) : Prop :=
  actions.Pairwise fun a b => a.closes = true → b.runId ≠ a.runId

theorem changesOf_append (runId : String) (cs ds : List StateChange) :
    changesOf runId (cs ++ ds) = changesOf runId cs ++ changesOf runId ds :=
  List.filter_append cs ds

theorem change_eq_some {a : Action} {c : StateChange} :
    a.change = some c ↔ ∃ fleet, a = .notify c fleet := by
  cases a <;> simp [Action.change]

theorem runId_of_change {a : Action} {c : StateChange} (h : a.change = some c) :
    a.runId = some c.runId := by
  obtain ⟨fleet, rfl⟩ := change_eq_some.mp h
  rfl

/-- A run that nothing is done for is not notified. -/
theorem changesOf_eq_nil {runId : String} {actions : List Action}
    (h : ∀ a ∈ actions, a.runId ≠ some runId) :
    changesOf runId (actions.filterMap Action.change) = [] := by
  rw [changesOf, List.filter_eq_nil_iff]
  intro c hc
  obtain ⟨a, ha, hchange⟩ := List.mem_filterMap.mp hc
  have hne := h a ha
  rw [runId_of_change hchange] at hne
  simpa using hne

/-- What is done on behalf of a run notifies of its changes only. -/
theorem changesOf_eq_self {runId : String} {actions : List Action}
    (h : ∀ a ∈ actions, a.runId = some runId) :
    changesOf runId (actions.filterMap Action.change) = actions.filterMap Action.change := by
  rw [changesOf, List.filter_eq_self]
  intro c hc
  obtain ⟨a, ha, hchange⟩ := List.mem_filterMap.mp hc
  have hrun := h a ha
  rw [runId_of_change hchange] at hrun
  simpa using hrun

theorem linked_append {st : Option LifecycleState} {cs ds : List StateChange} :
    Linked st (cs ++ ds) ↔ Linked st cs ∧ Linked (lastState st cs) ds := by
  induction cs generalizing st with
  | nil => simp [Linked, lastState]
  | cons c cs ih => simp [Linked, lastState, ih, and_assoc]

theorem lastState_append (st : Option LifecycleState) (cs ds : List StateChange) :
    lastState st (cs ++ ds) = lastState (lastState st cs) ds := by
  induction cs generalizing st with
  | nil => rfl
  | cons c cs ih => exact ih _

/-- Only the last of the actions may end the run. -/
theorem quiet_snoc {actions : List Action} (h : ∀ a ∈ actions, a.closes = false) (b : Action) :
    Quiet (actions ++ [b]) := by
  have hopen : ∀ a ∈ actions, a.closes ≠ true := fun a ha => by simp [h a ha]
  refine List.pairwise_append.mpr ⟨?_, List.pairwise_singleton _ b, ?_⟩
  · exact List.pairwise_of_forall_mem_list fun a ha c _ hc => absurd hc (hopen a ha)
  · exact fun a ha c _ hc => absurd hc (hopen a ha)

theorem calls_open {now : ℚ} {b : BoundRun} {calls : List FleetCall} :
    ∀ a ∈ calls.map (Action.call now b), a.closes = false := by
  intro a ha
  obtain ⟨c, -, rfl⟩ := List.mem_map.mp ha
  rfl

/-! ## One poll -/

/-- What the vehicle shows when its run is notified of a state. -/
def Reflects (b : BoundRun) (st : LifecycleState) (v : Vehicle) : Prop :=
  if st.isTerminal then v.Cleared
  else v.lifecycleState = some st ∧ (st = .confirmed →
    v.Bound b ∧ v.moving = false ∧ v.progressM = 0 ∧ v.transmitting = true)

theorem reflects_vehicleAfter (now : ℚ) (b : BoundRun) (st : LifecycleState) (v : Vehicle) :
    Reflects b st (vehicleAfter now b st v) := by
  unfold Reflects
  cases hterminal : st.isTerminal with
  | true =>
    rw [if_pos rfl, vehicleAfter_terminal hterminal]
    exact cleared_released now v
  | false =>
    rw [if_neg Bool.false_ne_true]
    by_cases hc : st = .confirmed
    · subst hc
      exact ⟨rfl, fun _ => ⟨⟨rfl, rfl, rfl, rfl⟩, rfl, rfl, rfl⟩⟩
    · rw [vehicleAfter_observed hterminal hc]
      exact ⟨rfl, fun h => absurd h hc⟩

theorem Reflects.of_sameRun {b b' : BoundRun} {st : LifecycleState} {v : Vehicle}
    (h : Reflects b st v) (hsame : b.SameRun b') : Reflects b' st v := by
  unfold Reflects at h ⊢
  split_ifs at h ⊢ with hterminal
  · exact h
  · exact ⟨h.1, fun hc => ⟨(h.2 hc).1.of_sameRun hsame, (h.2 hc).2⟩⟩

/-- What a poll of the run has done, and what it leaves of the run. -/
structure Reported (s : BinderState) (runId : String) (ref : Ref) (b' : RunBinder)
    (actions : List Action) : Prop where
  mine : ∀ a ∈ actions, a.runId = some runId
  quiet : Quiet actions
  linked : Linked (s.binder.heap ref).lifecycleState (actions.filterMap Action.change)
  state : (b'.heap ref).lifecycleState ≠ some .unhashable →
    (b'.heap ref).lifecycleState =
      lastState (s.binder.heap ref).lifecycleState (actions.filterMap Action.change)
  reflected : ∀ c fleet, .notify c fleet ∈ actions →
    ∃ v, fleet.get (s.binder.heap ref).vehicleId = some v ∧ Reflects (s.binder.heap ref) c.new v
  closed : (∃ a ∈ actions, a.closes = true) →
    (b'.bindings.get? runId).isNone ∨ ¬ (b'.heap ref).Pollable

/-- A poll that does nothing on behalf of the run. -/
theorem Reported.nothing {s : BinderState} {runId : String} {ref : Ref} {b' : RunBinder}
    (h : (b'.heap ref).lifecycleState = (s.binder.heap ref).lifecycleState) :
    Reported s runId ref b' [] where
  mine _ ha := nomatch ha
  quiet := .nil
  linked := trivial
  state _ := h
  reflected _ _ ha := nomatch ha
  closed h := by
    obtain ⟨_, ha, -⟩ := h
    cases ha

section Poll

variable {s : BinderState} {now : ℚ} {runId : String} {ref : Ref} {st : LifecycleState}
  {v : Vehicle} (hid : (s.binder.heap ref).runId = runId)
  (hv : s.fleet.get (s.binder.heap ref).vehicleId = some v)

include hid in
theorem lost_reported (hl : losesRun now (s.binder.heap ref) = true) :
    Reported s runId ref ((s.binder.loggedLost runId).untrack runId)
      (pollActions s now runId ref (.ok none)) := by
  rw [pollActions, if_pos hl]
  constructor
  · simp [Action.runId, hid]
  · have hopen : ∀ a ∈ [Action.call now (s.binder.heap ref) .unbindRun], a.closes = false := by
      simp [Action.closes]
    exact quiet_snoc hopen _
  · trivial
  · exact fun _ => rfl
  · simp
  · intro _
    left
    rw [untrack, Dict.get?_erase, if_pos rfl]
    rfl

variable (now st) in
include hv in
/-- The fleet that a notification finds. -/
theorem applyState_stored : ∃ f', AppliedTo s.fleet f' (s.binder.heap ref).vehicleId
      (vehicleAfter now ((s.binder.stored now ref st).heap ref) st v) ∧
    applyState s.fleet now ((s.binder.stored now ref st).heap ref) st =
      if st = .unhashable then .error ⟨.typeError "unhashable type", f'⟩ else .ok f' := by
  have hself := (stored_frame s.binder now ref st).self
  obtain ⟨f', ha, hf⟩ := applyState_onRoster now (f := s.fleet)
    (b := (s.binder.stored now ref st).heap ref) (by rw [hself.vehicleId]; exact hv) st
  rw [hself.vehicleId] at ha
  exact ⟨f', ha, hf⟩

include hid hv in
theorem changed_reported (hcallback : s.binder.hasCallback = true)
    (hst : (s.binder.heap ref).lifecycleState ≠ some st) (hu : st ≠ .unhashable)
    (c : StateChange) :
    Reported s runId ref ((s.binder.stored now ref st).announce c)
      (pollActions s now runId ref (.ok (some st))) := by
  obtain ⟨f', ha, hf⟩ := applyState_stored now st hv
  rw [if_neg hu] at hf
  have hrun := (stored_frame s.binder now ref st).self.runId.trans hid
  simp only [pollActions, if_neg hst, hf, hcallback, true_or, if_true]
  have hchanges :
      ((applyCalls st).map (Action.call now ((s.binder.stored now ref st).heap ref)) ++
        [Action.notify ⟨runId, (s.binder.heap ref).lifecycleState, st⟩ f']).filterMap
          Action.change = [⟨runId, (s.binder.heap ref).lifecycleState, st⟩] := by
    rw [List.filterMap_append, change_calls]
    rfl
  have hstored : (((s.binder.stored now ref st).announce c).heap ref).lifecycleState =
      some st := by
    rw [heap_announce, heap_stored_self]
  constructor
  · intro a ha
    rcases List.mem_append.mp ha with ha | ha
    · obtain ⟨c, -, rfl⟩ := List.mem_map.mp ha
      exact congrArg some hrun
    · rw [List.mem_singleton.mp ha]
      rfl
  · exact quiet_snoc calls_open _
  · rw [hchanges]
    exact ⟨rfl, fun h => hst h.symm, trivial⟩
  · intro _
    rw [hchanges, hstored]
    rfl
  · intro c' fleet hmem
    rcases List.mem_append.mp hmem with hmem | hmem
    · obtain ⟨c, -, hc⟩ := List.mem_map.mp hmem
      cases hc
    · cases List.mem_singleton.mp hmem
      refine ⟨_, ha.self, (reflects_vehicleAfter now _ st v).of_sameRun ?_⟩
      exact (stored_frame s.binder now ref st).self.symm
  · rintro ⟨a, ha, hclose⟩
    right
    intro hp
    rcases List.mem_append.mp ha with ha | ha
    · rw [calls_open a ha] at hclose
      cases hclose
    · rw [List.mem_singleton.mp ha] at hclose
      have hopen := hp st hstored
      rw [show st.isTerminal = true from hclose] at hopen
      cases hopen

include hid hv in
theorem unhashable_reported (hst : (s.binder.heap ref).lifecycleState ≠ some .unhashable) :
    Reported s runId ref (s.binder.stored now ref .unhashable)
      (pollActions s now runId ref (.ok (some .unhashable))) := by
  obtain ⟨f', -, hf⟩ := applyState_stored now .unhashable hv
  rw [if_pos rfl] at hf
  have hrun := (stored_frame s.binder now ref .unhashable).self.runId.trans hid
  simp only [pollActions, if_neg hst, hf, List.append_nil]
  constructor
  · intro a ha
    obtain ⟨c, -, rfl⟩ := List.mem_map.mp ha
    exact congrArg some hrun
  · simp [Quiet, applyCalls, LifecycleState.isTerminal]
  · rw [change_calls]
    trivial
  · rw [heap_stored_self]
    exact fun h => absurd rfl h
  · intro c fleet hmem
    obtain ⟨c, -, hc⟩ := List.mem_map.mp hmem
    cases hc
  · rintro ⟨a, ha, hclose⟩
    rw [calls_open a ha] at hclose
    cases hclose

include hid in
theorem processPoll_reported {out : Except PyExc (Option LifecycleState)}
    (hcallback : s.binder.hasCallback = true)
    (hroster : (s.fleet.get (s.binder.heap ref).vehicleId).isSome) :
    Reported s runId ref (settle (processPoll s now runId ref out)).binder
      (pollActions s now runId ref out) := by
  have h := processPoll_polled s now runId ref out
  generalize processPoll s now runId ref out = res at h ⊢
  cases h with
  | failed exc => exact .nothing rfl
  | kept hl =>
    rw [pollActions, if_neg (by simp [hl])]
    exact .nothing rfl
  | lost v f' hl hv ha =>
    rw [settle, hid]
    exact lost_reported hid hl
  | lostOffRoster hl hv => simp [hv] at hroster
  | same st hst =>
    simp only [pollActions, hst, if_true]
    refine .nothing ?_
    rw [settle, heap_noteSample_self]
  | changed st v f' hst hu hv ha => exact changed_reported hid hv hcallback hst hu _
  | unhashable v f' hst hv ha => exact unhashable_reported hid hv hst
  | changedOffRoster st hst hv => simp [hv] at hroster

end Poll

end RunBinder

end DatabusSim
