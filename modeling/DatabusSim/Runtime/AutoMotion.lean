import DatabusSim.Runtime.VehicleLife

/-!
# Motion without an operator

A dispatch with an auto-start delay leaves a task behind that sets its vehicle moving
once the delay is over, whatever has become of the run by then. Without operators a
vehicle moves or transmits for a run only, and an auto-start finds its vehicle bound to
its run, exactly as long as no poll takes a vehicle from a run whose auto-start is still
asleep.
-/

namespace DatabusSim.Runtime

open Transition RunBinder FleetState

/-- The requests of an operator. -/
def Event.isControl : Event → Bool
  | .control .. => true
  | .startRun .. => true
  | _ => false

/-- A vehicle moves or transmits for a run only. -/
def Supervised (f : FleetState) : Prop :=
  ∀ vid v, f.get vid = some v → v.moving = true ∨ v.transmitting = true →
    v.boundRunId.isSome = true

/-- The vehicle of the auto-start, where it is on the roster, is bound to its run. -/
def StillBound (f : FleetState) (a : AutoStart) : Prop :=
  ∀ v, f.get a.vehicleId = some v → v.boundRunId = some a.runId

/-- What is asked of a step: vehicles are supervised after it, and an auto-start that fires
sets a vehicle moving that is bound to its run. -/
def MovesForRun (s : Runtime) (ev : Event) (s' : Runtime) : Prop :=
  Supervised s'.fleet ∧
    ∀ now i a, ev = .autoStart now i → s.binder.startTasks[i]? = some a → StillBound s.fleet a

/-- At most one tracked run for each vehicle. -/
def OneRunPerVehicle (b : RunBinder) : Prop :=
  ∀ r r' ref ref', b.bindings.get? r = some ref → b.bindings.get? r' = some ref' →
    (b.heap ref).vehicleId = (b.heap ref').vehicleId → r = r'

/-- The GET of the run of `b` came to `out`, and that ends the run: a terminal state that is
news, or none for a run that counts as lost. -/
def EndsRun (now : ℚ) (b : BoundRun) : Except PyExc (Option LifecycleState) → Prop
  | .error _ => False
  | .ok none => losesRun now b = true
  | .ok (some st) => b.lifecycleState ≠ some st ∧ st.isTerminal = true

/-- It came to the news that the run is confirmed. -/
def ConfirmsRun (b : BoundRun) (out : Except PyExc (Option LifecycleState)) : Prop :=
  out = .ok (some .confirmed) ∧ b.lifecycleState ≠ some .confirmed

/-- The poll takes no vehicle from a run whose auto-start is asleep: it ends a run when no
auto-start of its vehicle sleeps, and confirms one when those that do are its own and those
that are set off are for its vehicle or for one that is bound to it. -/
def SparesStarts (s : BinderState) (now : ℚ) (runId : String) (ref : Ref)
    (out : Except PyExc (Option LifecycleState)) : Prop :=
  let b := s.binder.heap ref
  (s.fleet.get b.vehicleId).isSome = true →
    (EndsRun now b out → ∀ a ∈ s.binder.startTasks, a.vehicleId ≠ b.vehicleId) ∧
    (ConfirmsRun b out →
      (∀ a ∈ s.binder.startTasks, a.vehicleId = b.vehicleId → a.runId = b.runId) ∧
      ∀ a ∈ s.binder.autoStarts, a.runId = runId → a.vehicleId ≠ b.vehicleId →
        StillBound s.fleet a)

/-- No poll ends or replaces a run whose auto-start is asleep. -/
def WaitsForStarts (s : Runtime) (ev : Event) (_ : Runtime) : Prop :=
  AtPoll (fun now http runId ref =>
    SparesStarts s.binderState now runId ref (DatabusClient.getRunState http)) s ev

/-- Vehicles are supervised, and each auto-start that sleeps has its vehicle. -/
structure Orderly (s : BinderState) : Prop where
  supervised : Supervised s.fleet
  bound : ∀ a ∈ s.binder.startTasks, StillBound s.fleet a

/-! ## One vehicle changes -/

section Vehicle

variable {f f' : FleetState} {vid : String} {v v' : Vehicle}

theorem Supervised.appliedTo (h : Supervised f) (ha : AppliedTo f f' vid v')
    (hv' : v'.moving = true ∨ v'.transmitting = true → v'.boundRunId.isSome = true) :
    Supervised f' := by
  intro w u hu hgo
  by_cases hw : w = vid
  · subst hw
    rw [ha.self] at hu
    cases hu
    exact hv' hgo
  · rw [ha.other w hw] at hu
    exact h w u hu hgo

theorem stillBound_self {a : AutoStart} (ha : AppliedTo f f' vid v') (h : a.vehicleId = vid) :
    StillBound f' a ↔ v'.boundRunId = some a.runId := by
  unfold StillBound
  rw [h, ha.self]
  exact ⟨fun hb => hb v' rfl, fun hb u hu => by cases hu; exact hb⟩

theorem stillBound_other {a : AutoStart} (ha : AppliedTo f f' vid v') (h : a.vehicleId ≠ vid) :
    StillBound f' a ↔ StillBound f a := by
  unfold StillBound
  rw [ha.other _ h]

/-- A vehicle that keeps its run keeps its auto-starts. -/
theorem stillBound_kept {a : AutoStart} (hv : f.get vid = some v) (ha : AppliedTo f f' vid v')
    (h : v'.boundRunId = v.boundRunId) (hb : StillBound f a) : StillBound f' a := by
  by_cases hvid : a.vehicleId = vid
  · rw [stillBound_self ha hvid, h]
    exact hb v (by rw [hvid]; exact hv)
  · exact (stillBound_other ha hvid).mpr hb

end Vehicle

/-! ## The poll of a run -/

section Poll

variable {s : BinderState} {now : ℚ} {runId : String} {ref : Ref}

theorem startTasks_announce (b : RunBinder) (c : StateChange) :
    (b.announce c).startTasks = b.startTasks ++
      b.autoStarts.filter fun a => c.new = .confirmed ∧ a.runId = c.runId := by
  rw [← startTasks_onStateChange]
  unfold announce
  simp only
  split <;> rfl

/-- A run that ends leaves its vehicle without one. -/
theorem orderly_released {f' : FleetState} {vid : String} {v : Vehicle} {b' : RunBinder}
    (h : Orderly s) (ha : AppliedTo s.fleet f' vid (released now v))
    (htasks : b'.startTasks = s.binder.startTasks) :
    Orderly ⟨f', b'⟩ ↔ ∀ a ∈ s.binder.startTasks, a.vehicleId ≠ vid := by
  constructor
  · intro ho a hmem hvid
    have hbound := (stillBound_self ha hvid).mp (ho.bound a (htasks ▸ hmem))
    cases hbound
  · intro hfree
    refine ⟨h.supervised.appliedTo ha ?_, fun a hmem => ?_⟩
    · rintro (hm | ht)
      · cases hm
      · cases ht
    · have hmem' : a ∈ s.binder.startTasks := htasks ▸ hmem
      exact (stillBound_other ha (hfree a hmem')).mpr (h.bound a hmem')

/-- A run that is confirmed takes its vehicle over. -/
theorem orderly_armed {f' : FleetState} {b : BoundRun} {v : Vehicle} {b' : RunBinder}
    (h : Orderly s) (ha : AppliedTo s.fleet f' b.vehicleId (armed now b v))
    (htasks : b'.startTasks = s.binder.startTasks ++
      s.binder.autoStarts.filter fun a => a.runId = b.runId) :
    Orderly ⟨f', b'⟩ ↔
      (∀ a ∈ s.binder.startTasks, a.vehicleId = b.vehicleId → a.runId = b.runId) ∧
        ∀ a ∈ s.binder.autoStarts, a.runId = b.runId → a.vehicleId ≠ b.vehicleId →
          StillBound s.fleet a := by
  have hown : ∀ {a : AutoStart}, a.vehicleId = b.vehicleId →
      (StillBound f' a ↔ a.runId = b.runId) := by
    intro a hvid
    rw [stillBound_self ha hvid]
    exact ⟨fun hb => (Option.some.inj hb).symm, fun hr => congrArg some hr.symm⟩
  have hmem : ∀ a, a ∈ b'.startTasks ↔
      a ∈ s.binder.startTasks ∨ (a ∈ s.binder.autoStarts ∧ a.runId = b.runId) := by
    intro a
    rw [htasks, List.mem_append, List.mem_filter, decide_eq_true_iff]
  constructor
  · intro ho
    refine ⟨fun a ht hvid => ?_, fun a hw hrun hvid => ?_⟩
    · exact (hown hvid).mp (ho.bound a ((hmem a).mpr (.inl ht)))
    · exact (stillBound_other ha hvid).mp (ho.bound a ((hmem a).mpr (.inr ⟨hw, hrun⟩)))
  · rintro ⟨hsleeping, hset⟩
    refine ⟨h.supervised.appliedTo ha fun _ => rfl, fun a ht => ?_⟩
    by_cases hvid : a.vehicleId = b.vehicleId
    · rcases (hmem a).mp ht with ht | ⟨-, hrun⟩
      · exact (hown hvid).mpr (hsleeping a ht hvid)
      · exact (hown hvid).mpr hrun
    · rw [stillBound_other ha hvid]
      rcases (hmem a).mp ht with ht | ⟨hw, hrun⟩
      · exact h.bound a ht
      · exact hset a hw hrun hvid

/-- Any other change of a run's state leaves the vehicle its run. -/
theorem orderly_observed {f' : FleetState} {vid : String} {v : Vehicle} {st : LifecycleState}
    {b' : RunBinder} (h : Orderly s) (hv : s.fleet.get vid = some v)
    (ha : AppliedTo s.fleet f' vid (observed now st v))
    (htasks : b'.startTasks = s.binder.startTasks) : Orderly ⟨f', b'⟩ := by
  refine ⟨h.supervised.appliedTo ha fun hgo => h.supervised vid v hv hgo, fun a hmem => ?_⟩
  exact stillBound_kept hv ha rfl (h.bound a (htasks ▸ hmem))

theorem sparesStarts_offRoster {out : Except PyExc (Option LifecycleState)}
    (hv : s.fleet.get (s.binder.heap ref).vehicleId = none) :
    SparesStarts s now runId ref out := by
  intro hroster
  rw [hv] at hroster
  cases hroster

/-- An outcome that neither ends nor confirms a run takes no vehicle from any. -/
theorem sparesStarts_otherwise {out : Except PyExc (Option LifecycleState)}
    (hends : ¬EndsRun now (s.binder.heap ref) out)
    (hconfirms : ¬ConfirmsRun (s.binder.heap ref) out) : SparesStarts s now runId ref out :=
  fun _ => ⟨fun h => absurd h hends, fun h => absurd h hconfirms⟩

theorem orderly_changed {st : LifecycleState} {v : Vehicle} {f' : FleetState}
    (h : Orderly s) (hid : (s.binder.heap ref).runId = runId)
    (hnew : (s.binder.heap ref).lifecycleState ≠ some st)
    (hv : s.fleet.get (s.binder.heap ref).vehicleId = some v)
    (ha : AppliedTo s.fleet f' (s.binder.heap ref).vehicleId
      (vehicleAfter now (s.binder.heap ref) st v)) :
    SparesStarts s now runId ref (.ok (some st)) ↔
      Orderly ⟨f', (s.binder.stored now ref st).announce
        ⟨runId, (s.binder.heap ref).lifecycleState, st⟩⟩ := by
  have hroster : (s.fleet.get (s.binder.heap ref).vehicleId).isSome = true := by rw [hv]; rfl
  have htasks := startTasks_announce (s.binder.stored now ref st)
    ⟨runId, (s.binder.heap ref).lifecycleState, st⟩
  by_cases hc : st = .confirmed
  · subst hc
    have hown : ((s.binder.stored now ref .confirmed).announce
        ⟨runId, (s.binder.heap ref).lifecycleState, .confirmed⟩).startTasks =
        s.binder.startTasks ++
          s.binder.autoStarts.filter fun a => a.runId = (s.binder.heap ref).runId := by
      rw [htasks, hid]
      simp only [true_and]
      rfl
    rw [orderly_armed h ha hown, hid]
    constructor
    · exact fun hs => hid ▸ (hs hroster).2 ⟨rfl, hnew⟩
    · exact fun hs _ => ⟨fun he => (nomatch he.2), fun _ => hid ▸ hs⟩
  · have hsame : ((s.binder.stored now ref st).announce
        ⟨runId, (s.binder.heap ref).lifecycleState, st⟩).startTasks = s.binder.startTasks := by
      rw [htasks]
      simp only [hc, false_and, decide_false, List.filter_false, List.append_nil]
      rfl
    have hconfirms : ¬ConfirmsRun (s.binder.heap ref) (.ok (some st)) :=
      fun ⟨hst, _⟩ => hc (Option.some.inj (Except.ok.inj hst))
    cases hterminal : st.isTerminal with
    | true =>
      rw [vehicleAfter_terminal hterminal] at ha
      rw [orderly_released h ha hsame]
      constructor
      · exact fun hs => (hs hroster).1 ⟨hnew, hterminal⟩
      · exact fun hs _ => ⟨fun _ => hs, fun hcon => absurd hcon hconfirms⟩
    | false =>
      rw [vehicleAfter_observed hterminal hc] at ha
      refine iff_of_true (sparesStarts_otherwise ?_ hconfirms) (orderly_observed h hv ha hsame)
      rintro ⟨-, he⟩
      rw [hterminal] at he
      cases he

/-- A poll keeps the order exactly when it spares the auto-starts. -/
theorem orderly_polled {out : Except PyExc (Option LifecycleState)}
    {res : Except (Raised BinderState) BinderState} (h : Orderly s)
    (hid : (s.binder.heap ref).runId = runId) (hp : Polled s now runId ref out res) :
    SparesStarts s now runId ref out ↔ Orderly (settle res) := by
  cases hp with
  | failed exc => exact iff_of_true (sparesStarts_otherwise id fun ⟨h, _⟩ => nomatch h) h
  | kept hkeep =>
    refine iff_of_true (sparesStarts_otherwise ?_ fun ⟨h, _⟩ => nomatch h) h
    intro hlose
    rw [EndsRun, hkeep] at hlose
    cases hlose
  | lost v f' hlose hv ha =>
    have hreleased := orderly_released h ha
      (show ((s.binder.loggedLost (s.binder.heap ref).runId).untrack
        (s.binder.heap ref).runId).startTasks = s.binder.startTasks from rfl)
    refine Iff.trans ?_ hreleased.symm
    constructor
    · exact fun hs => (hs (by rw [hv]; rfl)).1 hlose
    · exact fun hs _ => ⟨fun _ => hs, fun ⟨h, _⟩ => nomatch h⟩
  | lostOffRoster _ hv =>
    exact iff_of_true (sparesStarts_offRoster hv) ⟨h.supervised, h.bound⟩
  | same st hst =>
    refine iff_of_true (sparesStarts_otherwise ?_ ?_) ⟨h.supervised, h.bound⟩
    · exact fun he => he.1 hst
    · rintro ⟨hout, hnew⟩
      cases hout
      exact hnew hst
  | changed st v f' hnew _ hv ha => exact orderly_changed h hid hnew hv ha
  | unhashable v f' _ hv ha =>
    refine iff_of_true (sparesStarts_otherwise ?_ ?_) (orderly_observed h hv ha rfl)
    · exact fun he => nomatch he.2
    · exact fun he => nomatch he.1
  | changedOffRoster st _ hv =>
    exact iff_of_true (sparesStarts_offRoster hv) ⟨h.supervised, h.bound⟩

end Poll

/-! ## The runtime without its operators -/

section Step

variable {cfg : Settings} {s s' : Runtime} {ev : Event}

theorem orderly_calms {b : BinderState} {f' : FleetState} {vid : String} (h : Orderly b)
    (hw : Writes Life.Calms vid b.fleet f') : Orderly ⟨f', b.binder⟩ := by
  have hback : ∀ w v', f'.get w = some v' → ∃ v, b.fleet.get w = some v ∧ Life.Calms v v' := by
    intro w v' hv'
    by_cases heq : w = vid
    · subst heq
      exact hw.self v' hv'
    · exact ⟨v', by rw [← hw.other w heq]; exact hv', .refl v'⟩
  refine ⟨fun w v' hv' hgo => ?_, fun a hmem v' hv' => ?_⟩
  · obtain ⟨v, hv, hcalm⟩ := hback w v' hv'
    rw [hcalm.run]
    exact h.supervised w v hv (hgo.imp hcalm.moving hcalm.transmitting)
  · obtain ⟨v, hv, hcalm⟩ := hback a.vehicleId v' hv'
    rw [hcalm.run]
    exact h.bound a hmem v hv

theorem orderly_tick (h : Orderly s.binderState) {ev : TickLoop.Event} {t : TickState}
    (hs : TickLoop.step cfg.ticks s.tables ⟨s.fleet, s.tick⟩ ev = some t) :
    Orderly ⟨t.fleet, s.binder⟩ := by
  rcases Life.life_of_tick hs with hsame | ⟨vid, d, now, hturn⟩ | ⟨vid, payloads, hprogress⟩
  · rw [hsame]
    exact h
  · rw [hturn]
    exact orderly_calms h ((Life.turn_writes d now _ vid).mono fun _ _ => Life.turn_calms)
  · rw [hprogress]
    exact orderly_calms h ((Life.progress_writes vid payloads).mono fun _ _ => Life.progress_calms)

/-- An auto-start that fires sets a vehicle moving that is bound to its run. -/
theorem orderly_autoStart (h : Orderly s.binderState) {now : ℚ} {i : Nat} {a : AutoStart}
    (ha : s.binder.startTasks[i]? = some a) :
    Orderly ⟨settle (raisingAt s.fleet (s.fleet.setMoving now a.vehicleId true)),
      { s.binder with startTasks := s.binder.startTasks.eraseIdx i }⟩ := by
  have hbound := h.bound a (List.mem_of_getElem? ha)
  have hw : Writes (fun v v' => v' = Life.setOff now v) a.vehicleId s.fleet
      (settle (raisingAt s.fleet (s.fleet.setMoving now a.vehicleId true))) :=
    mutate_writes fun _ => rfl
  have hrun : ∀ w v', (settle (raisingAt s.fleet
      (s.fleet.setMoving now a.vehicleId true))).get w = some v' →
      ∃ v, s.fleet.get w = some v ∧ v'.boundRunId = v.boundRunId ∧ (v' = v ∨ w = a.vehicleId) := by
    intro w v' hv'
    by_cases heq : w = a.vehicleId
    · rw [heq] at hv' ⊢
      obtain ⟨v, hv, rfl⟩ := hw.self v' hv'
      exact ⟨v, hv, rfl, .inr rfl⟩
    · exact ⟨v', by rw [← hw.other w heq]; exact hv', rfl, .inl rfl⟩
  refine ⟨fun w v' hv' hgo => ?_, fun a' hmem v' hv' => ?_⟩
  · obtain ⟨v, hv, hsame, rfl | hw⟩ := hrun w v' hv'
    · exact h.supervised w v' hv hgo
    · subst hw
      rw [hsame, hbound v hv]
      rfl
  · obtain ⟨v, hv, hsame, -⟩ := hrun a'.vehicleId v' hv'
    rw [hsame]
    exact h.bound a' (List.mem_of_mem_eraseIdx hmem) v hv

theorem startTasks_handOver (now : ℚ) (runs : List Tracked) (b : RunBinder) :
    (runs.foldl (fun b tr => handOver b now tr) b).startTasks = b.startTasks := by
  refine List.foldlRecOn (motive := fun b' : RunBinder => b'.startTasks = b.startTasks)
    runs _ rfl ?_
  intro b' hb' tr _
  unfold handOver
  split <;> exact hb'

/-- A step keeps the order exactly when it waits for the auto-starts. -/
theorem orderly_step (hwf : s.binder.WellFormed) (h : Orderly s.binderState)
    (hop : ev.isControl = false) (hs : step cfg s ev = some s') :
    WaitsForStarts s ev s' ↔ Orderly s'.binderState := by
  have haside : ∀ {b' : RunBinder}, b'.startTasks = s.binder.startTasks →
      Orderly ⟨s.fleet, b'⟩ := fun hb => ⟨h.supervised, fun a ha => h.bound a (hb ▸ ha)⟩
  cases ev with
  | scheduler now ev =>
    obtain ⟨scheduler, -, rfl⟩ := Option.map_eq_some_iff.mp hs
    exact iff_of_true trivial (haside (startTasks_handOver now _ _))
  | trackRun now runId vehicleId tripId shapeId stop =>
    simp only [step] at hs
    split at hs
    · cases hs
    · cases hs
      exact iff_of_true trivial (haside rfl)
  | pollWake =>
    simp only [step] at hs
    split at hs
    · cases hs
      exact iff_of_true trivial (haside rfl)
    · cases hs
  | pollReply now http =>
    simp only [step] at hs
    split at hs
    · rename_i round rest runId ref hl
      cases hs
      obtain ⟨loop, heq⟩ := resume_eq s.binderState now round rest runId ref
        (DatabusClient.getRunState http)
      have hpoll := orderly_polled h (hwf.awaited round rest runId ref hl).2.1
        (processPoll_polled s.binderState now runId ref (DatabusClient.getRunState http))
      simp only [WaitsForStarts, AtPoll, hl, withBinder, heq]
      exact hpoll.trans ⟨fun ho => ⟨ho.supervised, ho.bound⟩, fun ho => ⟨ho.supervised, ho.bound⟩⟩
    · cases hs
  | untrackTimer i =>
    obtain ⟨runId, -, rfl⟩ := Option.map_eq_some_iff.mp hs
    exact iff_of_true trivial (haside rfl)
  | autoStart now i =>
    obtain ⟨a, ha, rfl⟩ := Option.map_eq_some_iff.mp hs
    exact iff_of_true trivial (orderly_autoStart h ha)
  | control => cases hop
  | startRun => cases hop
  | tick ev =>
    obtain ⟨t, ht, rfl⟩ := Option.map_eq_some_iff.mp hs
    exact iff_of_true trivial (orderly_tick h ht)

end Step

/-! ## Whole runs -/

/-- Whichever auto-start fires first, a step from an orderly state moves vehicles for their
runs. -/
theorem movesForRun_autoStart {cfg : Settings} {s : Runtime} (h : Orderly s.binderState)
    (now : ℚ) (i : Nat) : System.Always (step cfg) MovesForRun s [.autoStart now i] := by
  intro s' hs
  obtain ⟨a, ha, rfl⟩ := Option.map_eq_some_iff.mp hs
  refine ⟨⟨(orderly_autoStart h ha).supervised, fun now' i' a' hev ha' => ?_⟩, trivial⟩
  cases hev
  exact h.bound a' (List.mem_of_getElem? ha')

/-- Along a run that starts in order: whichever sleeping auto-start fires next at any point of
it, vehicles move for their runs, if and only if no poll ends or replaces a run whose auto-start
is asleep. -/
theorem waits_iff {cfg : Settings} {s : Runtime} (hwf : s.binder.WellFormed)
    (h : Orderly s.binderState) {es : List Event} (hop : ∀ ev ∈ es, ev.isControl = false) :
    System.Always (step cfg) WaitsForStarts s es ↔
      ∀ pre, pre <+: es → ∀ now i,
        System.Always (step cfg) MovesForRun s (pre ++ [.autoStart now i]) := by
  induction es generalizing s with
  | nil =>
    refine iff_of_true trivial fun pre hpre now i => ?_
    rw [List.prefix_nil.mp hpre]
    exact movesForRun_autoStart h now i
  | cons e es ih =>
    have hop' : e.isControl = false := hop e List.mem_cons_self
    have hrest : ∀ ev ∈ es, ev.isControl = false := fun ev hev =>
      hop ev (List.mem_cons_of_mem e hev)
    constructor
    · intro hwait pre hpre now i
      rcases List.prefix_cons_iff.mp hpre with rfl | ⟨pre', rfl, hpre'⟩
      · exact movesForRun_autoStart h now i
      · intro s' hs
        obtain ⟨hw, hwaits⟩ := hwait s' hs
        have ho := (orderly_step hwf h hop' hs).mp hw
        refine ⟨⟨ho.supervised, fun now' i' a hev ha => ?_⟩,
          (ih (wellFormed_step hwf hs) ho hrest).mp hwaits pre' hpre' now i⟩
        exact h.bound a (List.mem_of_getElem? ha)
    · intro hmoves s' hs
      have hone : ∀ now i, MovesForRun s e s' ∧
          System.Always (step cfg) MovesForRun s' [.autoStart now i] :=
        fun now i => hmoves [e] (List.prefix_append [e] es) now i s' hs
      -- every auto-start that sleeps now could be the next to fire
      have hbound : ∀ a ∈ s'.binder.startTasks, StillBound s'.fleet a := by
        intro a ha
        obtain ⟨i, hi⟩ := List.mem_iff_getElem?.mp ha
        have hfire : step cfg s' (.autoStart 0 i) = some { s' with
            fleet := settle (raisingAt s'.fleet (s'.fleet.setMoving 0 a.vehicleId true))
            binder := { s'.binder with startTasks := s'.binder.startTasks.eraseIdx i } } := by
          simp only [step, hi, Option.map_some]
        exact ((hone 0 i).2 _ hfire).1.2 0 i a rfl hi
      have ho : Orderly s'.binderState := ⟨(hone 0 0).1.1, hbound⟩
      refine ⟨(orderly_step hwf h hop' hs).mpr ho, ?_⟩
      refine (ih (wellFormed_step hwf hs) ho hrest).mpr fun pre hpre now i => ?_
      exact (hmoves (e :: pre) (List.cons_prefix_cons.mpr ⟨rfl, hpre⟩) now i s' hs).2

/-- Nothing moves when the simulator starts. -/
theorem orderly_start (cfg : Settings) (draws : String → Draws) (shapes : Except PyExc ShapesFile)
    (progressionGeom : Dict String (List ShapeStop)) (schedule : Except PyExc PyVal) :
    Orderly (start cfg draws shapes progressionGeom schedule).binderState := by
  refine ⟨fun vid v hv hgo => ?_, fun a ha => (by cases ha)⟩
  have hstart : (startFleet draws).get vid = some v := hv
  obtain ⟨_, _, _, rfl⟩ := startFleet_get hstart
  rcases hgo with hm | ht
  · cases hm
  · cases ht

/-- In every run without operator controls, whichever auto-start fires next at any point of it,
a vehicle that moves or transmits has a run and an auto-start finds its vehicle bound to its
run, if and only if no poll ends or replaces a run whose auto-start is asleep. -/
theorem motion_iff (cfg : Settings) (draws : String → Draws) (shapes : Except PyExc ShapesFile)
    (progressionGeom : Dict String (List ShapeStop)) (schedule : Except PyExc PyVal)
    (es : List Event) (hop : ∀ ev ∈ es, ev.isControl = false) :
    System.Always (step cfg) WaitsForStarts
        (start cfg draws shapes progressionGeom schedule) es ↔
      ∀ pre, pre <+: es → ∀ now i, System.Always (step cfg) MovesForRun
        (start cfg draws shapes progressionGeom schedule) (pre ++ [.autoStart now i]) :=
  waits_iff (wellFormed_start cfg draws shapes progressionGeom schedule)
    (orderly_start cfg draws shapes progressionGeom schedule) hop

/-! ## A run that ends before its auto-start -/

/-- A shuttle that starts moving five seconds after it is confirmed. -/
def selfStarting : PyVal :=
  match Scheduler.shuttle "A" "unit-01" with
  | .dict items => .dict (items ++ [(.str "auto_start_motion_after_s", .int 5)])
  | entry => entry

/-- Databus answers `create_run`. -/
def createdReply (runId : String) : Http :=
  .response 201 (some (.dict [(.str "status", .str "success"), (.str "run_id", .str runId),
    (.str "run_lifecycle_state", .str "Requested")]))

/-- The run is dispatched, confirmed and cancelled within the five seconds. -/
def cancelledEarly : List Event :=
  [.scheduler 40000 (.tick 40000), .scheduler 40001 (.createReply (createdReply "r1")),
    .scheduler 40002 (.locateReply (.ok none)), .pollWake,
    .pollReply 40003 (stateReply "Confirmed"), .pollWake,
    .pollReply 40005 (stateReply "Cancelled"), .autoStart 40008 0]

theorem motion_iff_cancelledEarly :
    System.Always (step plainSettings) WaitsForStarts
        (plainStart noFile (Scheduler.scheduleOf [selfStarting])) cancelledEarly ↔
      ∀ pre, pre <+: cancelledEarly → ∀ now i, System.Always (step plainSettings) MovesForRun
        (plainStart noFile (Scheduler.scheduleOf [selfStarting])) (pre ++ [.autoStart now i]) :=
  motion_iff plainSettings (fun _ => steadyDraws) noFile Dict.empty
    (Scheduler.scheduleOf [selfStarting]) cancelledEarly (by decide)

/-- The auto-start sets a vehicle moving that has no run. -/
theorem cancelled_run_starts :
    (∀ ev ∈ cancelledEarly, ev.isControl = false) ∧
      System.Always (step plainSettings) (fun _ _ s' => OneRunPerVehicle s'.binder)
        (plainStart noFile (Scheduler.scheduleOf [selfStarting])) cancelledEarly ∧
      ¬System.Always (step plainSettings) MovesForRun
        (plainStart noFile (Scheduler.scheduleOf [selfStarting])) cancelledEarly := by
  refine ⟨by decide, always_of_states fun s hs => ?_, fun h => ?_⟩
  · have hkeys : ((System.states (step plainSettings)
        (plainStart noFile (Scheduler.scheduleOf [selfStarting])) cancelledEarly).all
          fun s => s.binder.bindings.keys = [] ∨ s.binder.bindings.keys = ["r1"]) = true := by
      decide +kernel
    have hkeys' := of_decide_eq_true (List.all_eq_true.mp hkeys s hs)
    have honly : ∀ r ref, s.binder.bindings.get? r = some ref → r = "r1" := by
      intro r ref href
      have hmem := (Dict.mem_keys_iff s.binder.bindings r).mpr (by rw [href]; rfl)
      rcases hkeys' with he | he
      · rw [he] at hmem
        cases hmem
      · rw [he] at hmem
        exact List.mem_singleton.mp hmem
    exact fun r r' ref ref' hr hr' _ => (honly r ref hr).trans (honly r' ref' hr').symm
  · have hrun : (System.run (step plainSettings)
        (plainStart noFile (Scheduler.scheduleOf [selfStarting])) cancelledEarly).map
          (fun s => (s.fleet.get "unit-01").map fun v => (v.moving, v.boundRunId)) =
        some (some (true, none)) := by
      decide +kernel
    obtain ⟨s, hs, hview⟩ := Option.map_eq_some_iff.mp hrun
    obtain ⟨v, hv, hview⟩ := Option.map_eq_some_iff.mp hview
    obtain ⟨hmoving, hbound⟩ := Prod.mk.inj hview
    have hmoves := always_end (always_mono (fun _ _ _ hm => hm.1) h) (by decide) hs
    have hrunId := hmoves "unit-01" v hv (.inl hmoving)
    rw [hbound] at hrunId
    cases hrunId

end DatabusSim.Runtime
