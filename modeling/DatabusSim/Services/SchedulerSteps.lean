import DatabusSim.Services.Scheduler

/-!
# What the steps of the scheduler do

A step is a move of the loop or a file operation (`step_cases`); a file operation
keeps everything but the file, the entries, the defaults and the snapshots (`Frame`).
The outcomes of the loop's own functions are listed once, for the invariants to go
through.
-/

namespace DatabusSim

namespace Scheduler

/-! ## Requests -/

/-- `r` carries the fields of the entry, the relationship being `SCHEDULED` where the
entry names none. -/
structure Requests (e : Entry) (r : CreateRunRequest) : Prop where
  vehicle : PyVal.getItem? e.fields "vehicle_id" = some (.str r.vehicleId)
  operator : PyVal.getItem? e.fields "operator_id" = some (.str r.operatorId)
  route : PyVal.getItem? e.fields "route_id" = some (.str r.routeId)
  trip : PyVal.getItem? e.fields "trip_id" = some (.str r.tripId)
  direction : (directionOf e.fields).key? = some (.num r.directionId)
  shape : PyVal.getItem? e.fields "shape_id" = some (.str r.shapeId)
  relationship : relationshipOf e.fields = .str r.scheduleRelationship

theorem item_ok {fields : List (Key × PyVal)} {field : String} {v : PyVal} :
    item fields field = .ok v ↔ PyVal.getItem? fields field = some v := by
  unfold item
  cases PyVal.getItem? fields field with
  | none => exact ⟨fun h => (nomatch h), fun h => (nomatch h)⟩
  | some w => exact ⟨fun h => congrArg some (Except.ok.inj h), fun h => by rw [Option.some.inj h]⟩

theorem strField_ok {field : String} {v : PyVal} {s : String} :
    strField field v = .ok s ↔ v = .str s := by
  cases v with
  | str t => exact ⟨fun h => by rw [Except.ok.inj h], fun h => by rw [PyVal.str.inj h]; rfl⟩
  | _ => exact ⟨fun h => (nomatch h), fun h => (nomatch h)⟩

theorem key?_str {v : PyVal} {s : String} : v.key? = some (.str s) ↔ v = .str s := by
  cases v with
  | str t => simp [PyVal.key?]
  | datetime dt => cases h : dt.timestamp? <;> simp [PyVal.key?, h]
  | _ => simp [PyVal.key?]

/-- A validated direction passes through the model unchanged. -/
theorem intField_ok {v : PyVal} {field : String} {i : Int}
    (hv : v.key? = some (.num 0) ∨ v.key? = some (.num 1)) :
    intField field v = .ok i ↔ v.key? = some (.num i) := by
  cases v with
  | bool b => cases b <;> simp [intField, PyVal.key?, eq_comm]
  | int j => simp [intField, PyVal.key?]
  | float q =>
    have hq : q = 0 ∨ q = 1 := by simpa [PyVal.key?] using hv
    rcases hq with rfl | rfl <;> simp [intField, PyVal.key?, eq_comm]
  | datetime dt => cases h : dt.timestamp? <;> simp [PyVal.key?, h] at hv
  | _ => simp [PyVal.key?] at hv

/-- The request of an entry is built exactly when it carries the entry's fields. -/
theorem buildRequest_ok {e : Entry} {r : CreateRunRequest} :
    buildRequest e = .ok r ↔ Requests e r := by
  constructor
  · intro h
    obtain ⟨vehicle, hv, h⟩ := bind_ok.mp h
    obtain ⟨operator, ho, h⟩ := bind_ok.mp h
    obtain ⟨route, hr, h⟩ := bind_ok.mp h
    obtain ⟨trip, ht, h⟩ := bind_ok.mp h
    obtain ⟨direction, hd, h⟩ := bind_ok.mp h
    obtain ⟨shape, hs, h⟩ := bind_ok.mp h
    obtain ⟨v', hv', h⟩ := bind_ok.mp h
    obtain ⟨o', ho', h⟩ := bind_ok.mp h
    obtain ⟨r', hr', h⟩ := bind_ok.mp h
    obtain ⟨t', ht', h⟩ := bind_ok.mp h
    obtain ⟨d', hd', h⟩ := bind_ok.mp h
    obtain ⟨s', hs', h⟩ := bind_ok.mp h
    obtain ⟨rel', hrel', h⟩ := bind_ok.mp h
    cases h
    rw [item_ok] at hv ho hr ht hd hs
    rw [strField_ok] at hv' ho' hr' ht' hs' hrel'
    -- the model reads the direction itself, the validation `get`s it: the same value
    have hdir : directionOf e.fields = direction := by rw [directionOf, hd, Option.getD_some]
    have hval := e.validated.direction
    rw [hdir] at hval
    exact
      { vehicle := by rw [hv, hv']
        operator := by rw [ho, ho']
        route := by rw [hr, hr']
        trip := by rw [ht, ht']
        direction := by rw [hdir]; exact (intField_ok hval).mp hd'
        shape := by rw [hs, hs']
        relationship := hrel' }
  · intro h
    have hdir : PyVal.getItem? e.fields "direction_id" = some (directionOf e.fields) := by
      have hd := h.direction
      unfold directionOf at hd ⊢
      cases hg : PyVal.getItem? e.fields "direction_id" with
      | none => simp [hg, PyVal.key?] at hd
      | some v => rfl
    unfold buildRequest
    refine bind_ok.mpr ⟨_, item_ok.mpr h.vehicle, ?_⟩
    refine bind_ok.mpr ⟨_, item_ok.mpr h.operator, ?_⟩
    refine bind_ok.mpr ⟨_, item_ok.mpr h.route, ?_⟩
    refine bind_ok.mpr ⟨_, item_ok.mpr h.trip, ?_⟩
    refine bind_ok.mpr ⟨_, item_ok.mpr hdir, ?_⟩
    refine bind_ok.mpr ⟨_, item_ok.mpr h.shape, ?_⟩
    refine bind_ok.mpr ⟨_, strField_ok.mpr rfl, ?_⟩
    refine bind_ok.mpr ⟨_, strField_ok.mpr rfl, ?_⟩
    refine bind_ok.mpr ⟨_, strField_ok.mpr rfl, ?_⟩
    refine bind_ok.mpr ⟨_, strField_ok.mpr rfl, ?_⟩
    refine bind_ok.mpr ⟨_, (intField_ok e.validated.direction).mpr h.direction, ?_⟩
    refine bind_ok.mpr ⟨_, strField_ok.mpr rfl, ?_⟩
    exact bind_ok.mpr ⟨_, strField_ok.mpr h.relationship, rfl⟩

theorem status_setStatus (s : Scheduler) (eid id : Key) (st : Status) :
    (s.setStatus eid st).status id = if id = eid then st else s.status id :=
  Dict.getD_set s.statuses eid id st .pending

@[simp] theorem status_setStatus_self (s : Scheduler) (eid : Key) (st : Status) :
    (s.setStatus eid st).status eid = st := by
  rw [status_setStatus, if_pos rfl]

theorem status_setStatus_ne (s : Scheduler) {eid id : Key} (st : Status) (h : id ≠ eid) :
    (s.setStatus eid st).status id = s.status id := by
  rw [status_setStatus, if_neg h]

theorem getD_registerIds (statuses : Dict Key Status) (entries : List Entry) (id : Key) :
    (registerIds statuses entries).getD id .pending = statuses.getD id .pending := by
  induction entries generalizing statuses with
  | nil => rfl
  | cons e entries ih =>
    rw [registerIds, List.foldl_cons]
    refine (ih _).trans ?_
    by_cases he : statuses.contains e.id
    · rw [if_pos he]
    · rw [if_neg he, Dict.getD_set]
      by_cases hid : id = e.id
      -- an id that is registered now had no status, which reads as pending already
      · subst hid
        have hnone : statuses.get? e.id = none := by
          simpa [Dict.contains] using he
        rw [if_pos rfl, Dict.getD, hnone]
        rfl
      · rw [if_neg hid]

/-! ## File operations -/

/-- `s'` differs from `s` in its file, its entries, its defaults and its snapshots
only. -/
structure Frame (s s' : Scheduler) : Prop where
  status : ∀ id, s'.status id = s.status id
  runIds : s'.runIds = s.runIds
  posts : s'.posts = s.posts
  tracks : s'.tracks = s.tracks
  ticks : s'.ticks = s.ticks
  loop : s'.loop = s.loop

theorem Frame.refl (s : Scheduler) : Frame s s := ⟨fun _ => rfl, rfl, rfl, rfl, rfl, rfl⟩

variable {fromisoformat : String → Except PyExc DateTime}

variable (fromisoformat) in
theorem load_frame (s : Scheduler) : Frame s (settle (s.load fromisoformat)) := by
  unfold load
  cases s.file with
  | error e => exact Frame.refl s
  | ok v =>
    dsimp only
    split
    · cases readDefaults _ with
      | error e => exact Frame.refl s
      | ok defaults =>
        dsimp only
        split
        · exact ⟨fun _ => rfl, rfl, rfl, rfl, rfl, rfl⟩
        · exact ⟨getD_registerIds _ _, rfl, rfl, rfl, rfl, rfl⟩
    · exact Frame.refl s

theorem reload_frame (running : Bool) (s : Scheduler) :
    Frame s (settle (s.reload fromisoformat running)) := by
  have h := load_frame fromisoformat s
  unfold reload
  cases hl : s.load fromisoformat with
  | error r =>
    rw [hl] at h
    exact h
  | ok s₁ =>
    rw [hl] at h
    cases running <;> exact ⟨h.status, h.runIds, h.posts, h.tracks, h.ticks, h.loop⟩

theorem write_frame (s : Scheduler) (document : PyVal) :
    Frame s (settle (s.write fromisoformat document)) := by
  unfold write
  split
  · split
    · exact Frame.refl s
    · exact ⟨fun _ => rfl, rfl, rfl, rfl, rfl, rfl⟩
  · exact Frame.refl s

/-- What a step does: the events of the loop move it on, the others leave the
books alone. -/
theorem step_cases {s s' : Scheduler} {ev : Event} (h : step fromisoformat s ev = some s') :
    (Frame s s' ∧ ev.isFileOp = true) ∨
      (∃ now, ev = .tick now ∧ s.loop = .sleeping ∧ s' = s.wake fromisoformat now) ∨
      (∃ http t e rest request, ev = .createReply http ∧ s.loop = .creating t e rest request ∧
        s' = s.createReply fromisoformat t e rest request http) ∨
      ∃ r t e rest request runId, ev = .locateReply r ∧
        s.loop = .locating t e rest request runId ∧
        s' = s.locateReply fromisoformat t e rest request runId r := by
  cases ev with
  | tick now =>
    cases hl : s.loop <;> simp only [step, hl, Option.some.injEq, reduceCtorEq] at h
    exact .inr (.inl ⟨now, rfl, rfl, h.symm⟩)
  | createReply http =>
    cases hl : s.loop <;> simp only [step, hl, Option.some.injEq, reduceCtorEq] at h
    exact .inr (.inr (.inl ⟨http, _, _, _, _, rfl, rfl, h.symm⟩))
  | locateReply r =>
    cases hl : s.loop <;> simp only [step, hl, Option.some.injEq, reduceCtorEq] at h
    exact .inr (.inr (.inr ⟨r, _, _, _, _, _, rfl, rfl, h.symm⟩))
  | load =>
    cases h
    exact .inl ⟨load_frame fromisoformat s, rfl⟩
  | reload =>
    cases h
    exact .inl ⟨reload_frame false s, rfl⟩
  | write document =>
    cases h
    exact .inl ⟨write_frame s document, rfl⟩
  | edit content =>
    cases h
    exact .inl ⟨⟨fun _ => rfl, rfl, rfl, rfl, rfl, rfl⟩, rfl⟩

/-! ## The loop -/

variable (fromisoformat) in
/-- The three ways a turn goes on. -/
theorem continueTick_cases (s : Scheduler) (t : Tick) (rest : List Entry) :
    (scan fromisoformat s.statuses t rest = .done ∧
        s.continueTick fromisoformat t rest =
          { s with loop := .sleeping, ticks := s.ticks ++ [t] }) ∨
      (∃ exc, scan fromisoformat s.statuses t rest = .overflow exc ∧
        s.continueTick fromisoformat t rest = { s with loop := .dead exc }) ∨
      ∃ e rest', scan fromisoformat s.statuses t rest = .due e rest' ∧
        s.continueTick fromisoformat t rest = s.beginDispatch t e rest' := by
  unfold continueTick
  cases hscan : scan fromisoformat s.statuses t rest with
  | done => exact .inl ⟨rfl, rfl⟩
  | overflow exc => exact .inr (.inl ⟨exc, rfl, rfl⟩)
  | due e rest' => exact .inr (.inr ⟨e, rest', rfl, rfl⟩)

/-- A dispatch posts its request, or dies building it. -/
theorem beginDispatch_cases (s : Scheduler) (t : Tick) (e : Entry) (rest : List Entry) :
    (∃ exc, buildRequest e = .error exc ∧
        s.beginDispatch t e rest =
          { (s.setStatus e.id .requested).publishSnapshot true with loop := .dead exc }) ∨
      ∃ request, buildRequest e = .ok request ∧
        s.beginDispatch t e rest =
          { (s.setStatus e.id .requested).publishSnapshot true with
            posts := s.posts ++ [⟨e, t, request⟩]
            loop := .creating t e rest request } := by
  unfold beginDispatch
  cases hb : buildRequest e with
  | error exc => exact .inl ⟨exc, rfl, rfl⟩
  | ok request => exact .inr ⟨request, rfl, rfl⟩

variable (fromisoformat) in
/-- The answer of `create_run` initializes the entry, fails it or kills the loop. -/
theorem createReply_cases (s : Scheduler) (t : Tick) (e : Entry) (rest : List Entry)
    (request : CreateRunRequest) (http : Http) :
    (∃ resp, DatabusClient.createRun http = .ok resp ∧
        s.createReply fromisoformat t e rest request http =
          { (({ s with runIds := s.runIds.set e.id resp.runId } : Scheduler).setStatus e.id
              .initialized).publishSnapshot true with
            loop := .locating t e rest request resp.runId }) ∨
      (∃ exc, DatabusClient.createRun http = .error exc ∧
        DatabusClient.isDatabusError exc = true ∧
        s.createReply fromisoformat t e rest request http =
          (((s.setStatus e.id .failed).publishSnapshot true).continueTick fromisoformat t rest)) ∨
      ∃ exc, DatabusClient.createRun http = .error exc ∧
        DatabusClient.isDatabusError exc = false ∧
        s.createReply fromisoformat t e rest request http = { s with loop := .dead exc } := by
  unfold createReply
  cases hc : DatabusClient.createRun http with
  | ok resp => exact .inl ⟨resp, rfl, rfl⟩
  | error exc =>
    dsimp only
    by_cases hd : DatabusClient.isDatabusError exc = true
    · exact .inr (.inl ⟨exc, rfl, hd, if_pos hd⟩)
    · exact .inr (.inr ⟨exc, rfl, Bool.eq_false_iff.mpr hd, if_neg hd⟩)

end Scheduler

end DatabusSim
