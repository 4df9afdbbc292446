import DatabusSim.Services.DatabusClient

/-!
# The scheduler

`Scheduler`: `load`, `reload` and `write` over the schedule file, and `run_loop`.

The loop suspends at its sleep and at the two HTTP calls of a dispatch; one tick
works through its own copy of the entry list, with the clock and the
`pre_run_idle_s` it read at its start. `datetime.fromisoformat` is a parameter:
no result depends on the strings it accepts.
-/

namespace DatabusSim

inductive Status where
  | pending
  | requested
  | initialized
  | failed
  deriving DecidableEq, Repr

/-- `_defaults`, with the class's default values. -/
structure Defaults where
  preRunIdleS : Int := 30
  postRunIdleS : Int := 30
  autoConfirmDelayS : Int := 5

namespace Scheduler

/-! ## File operations -/

section Load

variable (fromisoformat : String → Except PyExc DateTime)

/-- An aware datetime by its timestamp; a naive one is rejected. -/
def awareTimestamp (value : PyVal) (dt : DateTime) : Except PyExc ℚ :=
  match dt.timestamp? with
  | some t => .ok t
  | none => .error (.valueError "start_time must include a timezone: " (some value))

/-- `_parse_dt`. The `str` of a value that is neither a datetime nor a string is no
ISO timestamp with an offset. -/
def parseDt (value : PyVal) : Except PyExc ℚ :=
  match value with
  | .datetime dt => awareTimestamp value dt
  | .str s => do awareTimestamp value (← fromisoformat s)
  | _ => .error (.valueError "Invalid isoformat string: " (some value))

/-- `entry[field]`. -/
def item (fields : List (Key × PyVal)) (field : String) : Except PyExc PyVal :=
  match PyVal.getItem? fields field with
  | some v => .ok v
  | none => .error (.keyError "" (some (.str field)))

/-- `entry.get(field, default) in values`, which hashes the value; a set is looked up as a
`frozenset`. -/
def memberOf (v : PyVal) (values : List Key) : Except PyExc Bool :=
  match v.key?, v with
  | some k, _ => .ok (decide (k ∈ values))
  | none, .set _ => .ok false
  | none, _ => .error (.typeError "unhashable type")

/-- `entry.get("direction_id")`. -/
def directionOf (fields : List (Key × PyVal)) : PyVal :=
  (PyVal.getItem? fields "direction_id").getD .null

/-- `entry.get("schedule_relationship", "SCHEDULED")`. -/
def relationshipOf (fields : List (Key × PyVal)) : PyVal :=
  (PyVal.getItem? fields "schedule_relationship").getD (.str "SCHEDULED")

/-- `_validate_entry`. -/
def validateEntry (fields : List (Key × PyVal)) : Except PyExc Unit := do
  let _ ← parseDt fromisoformat (← item fields "start_time")
  if !(← memberOf (directionOf fields) [.num 0, .num 1]) then
    .error (.valueError "direction_id must be 0 or 1, got " (some (directionOf fields)))
  else if !(← memberOf (relationshipOf fields)
      [.str "SCHEDULED", .str "ADDED", .str "UNSCHEDULED"]) then
    .error (.valueError "schedule_relationship must be one of SCHEDULED, ADDED, UNSCHEDULED, got "
      (some (relationshipOf fields)))
  else pure ()

/-- What `_validate_entry` has checked of the fields the request takes from an entry. -/
structure Validated (fields : List (Key × PyVal)) : Prop where
  direction : (directionOf fields).key? = some (.num 0) ∨ (directionOf fields).key? = some (.num 1)
  relationship : ∃ rel ∈ ["SCHEDULED", "ADDED", "UNSCHEDULED"],
    (relationshipOf fields).key? = some (.str rel)

theorem memberOf_true {v : PyVal} {values : List Key} (h : memberOf v values = .ok true) :
    ∃ k ∈ values, v.key? = some k := by
  unfold memberOf at h
  cases hk : v.key? with
  | none =>
    rw [hk] at h
    cases v <;> cases h
  | some k =>
    rw [hk] at h
    exact ⟨k, of_decide_eq_true (Except.ok.inj h), rfl⟩

theorem validateEntry_ok {fields : List (Key × PyVal)}
    (h : validateEntry fromisoformat fields = .ok ()) : Validated fields := by
  obtain ⟨_, -, h⟩ := bind_ok.mp h
  obtain ⟨_, -, h⟩ := bind_ok.mp h
  obtain ⟨dirOk, hdir, h⟩ := bind_ok.mp h
  cases dirOk with
  | false => cases h
  | true =>
    obtain ⟨relOk, hrel, h⟩ := bind_ok.mp h
    cases relOk with
    | false => cases h
    | true =>
      obtain ⟨d, hd, hdk⟩ := memberOf_true hdir
      obtain ⟨r, hr, hrk⟩ := memberOf_true hrel
      constructor
      · simp only [List.mem_cons, List.not_mem_nil, or_false] at hd
        rcases hd with rfl | rfl
        · exact .inl hdk
        · exact .inr hdk
      · simp only [List.mem_cons, List.not_mem_nil, or_false] at hr
        rcases hr with rfl | rfl | rfl <;> exact ⟨_, by simp, hrk⟩

end Load

end Scheduler

/-- An accepted schedule entry: a mapping with a hashable `id` that has passed
`_validate_entry`. -/
structure Entry where
  fields : List (Key × PyVal)
  id : Key
  id_eq : (PyVal.getItem? fields "id").bind PyVal.key? = some id
  validated : Scheduler.Validated fields

/-- What one turn of `run_loop` works with: its clock, its `pre_idle` and its copy
of the entries. -/
structure Tick where
  now : ℚ
  preIdle : Int
  entries : List Entry

/-- A `create_run` request, the entry it is for and the tick that issued it. -/
structure Post where
  entry : Entry
  tick : Tick
  request : CreateRunRequest

/-- A call of `binder.track`, and the entry it was made for. -/
structure Tracked where
  entryId : Key
  runId : String
  vehicleId : String
  tripId : String
  shapeId : String
  terminalStopId : Option String
  autoStart : Option PyVal

/-- An entry as `snapshot` shows it. -/
structure SnapshotRun where
  fields : List (Key × PyVal)
  status : Status
  boundRunId : Option String

structure ScheduleSnapshot where
  defaults : Defaults
  runs : List SnapshotRun

/-- Where `run_loop` is: asleep, waiting for `create_run` or for
`get_trip_terminal_stop` of a dispatch, or ended by an exception. -/
inductive RunLoop where
  | sleeping
  | creating (tick : Tick) (entry : Entry) (rest : List Entry) (request : CreateRunRequest)
  | locating (tick : Tick) (entry : Entry) (rest : List Entry) (request : CreateRunRequest)
      (runId : String)
  | dead (exc : PyExc)

/-- The scheduler and the file it reads. `ticks`, `posts`, `tracks`, `confirms` and
`published` are its history: the turns that went through their list, the requests
issued, the runs handed to the binder, the auto-confirm tasks and the snapshots. -/
structure Scheduler where
  /-- What reading and parsing the schedule file gives. -/
  file : Except PyExc PyVal
  entries : List Entry := []
  statuses : Dict Key Status := Dict.empty
  runIds : Dict Key String := Dict.empty
  defaults : Defaults := {}
  loop : RunLoop := .sleeping
  ticks : List Tick := []
  posts : List Post := []
  tracks : List Tracked := []
  confirms : List String := []
  published : List ScheduleSnapshot := []

namespace Scheduler

/-- `self._statuses.get(eid, _PENDING)`. -/
def status (s : Scheduler) (eid : Key) : Status := s.statuses.getD eid .pending

section Load

variable (fromisoformat : String → Except PyExc DateTime)

/-- The validation loop of `load` and `write`: every entry has an id, none twice, and
passes `_validate_entry`. -/
def checkRuns : List PyVal → List Key → Except PyExc (List Entry)
  | [], _ => .ok []
  | .dict fields :: rest, seen =>
      match hv : PyVal.getItem? fields "id" with
      | none => .error (.valueError "Each schedule entry must have an 'id' field" none)
      | some v =>
          if !v.truthy then
            .error (.valueError "Each schedule entry must have an 'id' field" none)
          else
            match hk : v.key? with
            | none => .error (.typeError "unhashable type")
            | some eid =>
                if eid ∈ seen then
                  .error (.valueError "Duplicate schedule entry id: " (some v))
                else
                  match hval : validateEntry fromisoformat fields with
                  | .error e => .error e
                  | .ok () => do
                      let entries ← checkRuns rest (eid :: seen)
                      pure (⟨fields, eid, by rw [hv]; exact hk, validateEntry_ok _ hval⟩ :: entries)
  | _ :: _, _ => .error (.attributeError "object has no attribute 'get'")

/-- `raw.get("runs") or []`, as the list the loop iterates over. -/
def runsOf (items : List (Key × PyVal)) : Except PyExc (List PyVal) :=
  match PyVal.getItem? items "runs" with
  | none => .ok []
  | some v =>
      if !v.truthy then .ok []
      else
        match v.unrolled with
        | .list xs => .ok (xs.map PyVal.unrolled)
        | .str _ => .error (.attributeError "'str' object has no attribute 'get'")
        | .bytes _ => .error (.attributeError "'int' object has no attribute 'get'")
        | .dict _ | .set _ => .error (.attributeError "object has no attribute 'get'")
        | _ => .error (.typeError "object is not iterable")

/-- One of the defaults, read through `int`. -/
def readDefault (defaults : List (Key × PyVal)) (field : String) (fallback : Int) :
    Except PyExc Int :=
  pyInt ((PyVal.getItem? defaults field).getD (.int fallback))

/-- The `defaults` section. -/
def readDefaults (items : List (Key × PyVal)) : Except PyExc Defaults :=
  match ((PyVal.getItem? items "defaults").getD (.dict [])).unrolled with
  | .dict defaults => do
      let preRunIdleS ← readDefault defaults "pre_run_idle_s" 30
      let postRunIdleS ← readDefault defaults "post_run_idle_s" 30
      let autoConfirmDelayS ← readDefault defaults "auto_confirm_delay_s" 5
      pure { preRunIdleS, postRunIdleS, autoConfirmDelayS }
  | _ => .error (.attributeError "object has no attribute 'get'")

/-- The ids a load sees for the first time become pending; the others keep their
status. -/
def registerIds (statuses : Dict Key Status) (entries : List Entry) : Dict Key Status :=
  entries.foldl (fun st e => if st.contains e.id then st else st.set e.id .pending) statuses

/-- `load`. The defaults are assigned before the entries are validated. -/
def load (s : Scheduler) : Except (Raised Scheduler) Scheduler :=
  match s.file with
  | .error e => .error ⟨e, s⟩
  | .ok v =>
      -- `yaml.safe_load(...) or {}`
      match (if v.truthy then v.unrolled else .dict []) with
      | .dict items =>
          match readDefaults items with
          | .error e => .error ⟨e, s⟩
          | .ok defaults =>
              let s := { s with defaults := defaults }
              match (runsOf items).bind fun runs => checkRuns fromisoformat runs [] with
              | .error e => .error ⟨e, s⟩
              | .ok entries =>
                  .ok { s with entries := entries, statuses := registerIds s.statuses entries }
      | _ => .error ⟨.attributeError "object has no attribute 'get'", s⟩

/-- `write`, with `safe_load` reading back the document `safe_dump` wrote. -/
def write (s : Scheduler) (document : PyVal) : Except (Raised Scheduler) Scheduler :=
  match document.unrolled with
  | .dict items =>
      match (runsOf items).bind fun runs => checkRuns fromisoformat runs [] with
      | .error e => .error ⟨e, s⟩
      | .ok _ => .ok { s with file := .ok document }
  | _ => .error ⟨.attributeError "object has no attribute 'get'", s⟩

end Load

/-- `snapshot`. -/
def snapshot (s : Scheduler) : ScheduleSnapshot where
  defaults := s.defaults
  runs := s.entries.map fun e =>
    { fields := e.fields, status := s.status e.id, boundRunId := s.runIds.get? e.id }

/-- `_publish_snapshot`: a task broadcasts the snapshot, unless `get_running_loop` raises. -/
def publishSnapshot (s : Scheduler) (running : Bool) : Scheduler :=
  if running then { s with published := s.published ++ [s.snapshot] } else s

/-- `reload`, where an event loop is running or not. -/
def reload (fromisoformat : String → Except PyExc DateTime) (running : Bool) (s : Scheduler) :
    Except (Raised Scheduler) Scheduler := do
  let s ← load fromisoformat s
  pure (s.publishSnapshot running)

/-! ## Dispatch -/

/-- An `int` field of a pydantic model, which takes integral numbers. No string comes here: one
is not among the `VALID_DIRECTION_IDS`. -/
def intField (field : String) : PyVal → Except PyExc Int
  | .bool b => .ok (if b then 1 else 0)
  | .int i => .ok i
  | .float q =>
      if q.den = 1 then .ok q.num else .error (.validationError "CreateRunRequest" field)
  | _ => .error (.validationError "CreateRunRequest" field)

/-- A `str` field of a pydantic model. -/
def strField (field : String) : PyVal → Except PyExc String
  | .str s => .ok s
  | _ => .error (.validationError "CreateRunRequest" field)

/-- `CreateRunRequest(...)`: the required items are read first, a missing one raising
`KeyError`, then the model validates them. -/
def buildRequest (e : Entry) : Except PyExc CreateRunRequest := do
  let vehicleId ← item e.fields "vehicle_id"
  let operatorId ← item e.fields "operator_id"
  let routeId ← item e.fields "route_id"
  let tripId ← item e.fields "trip_id"
  let directionId ← item e.fields "direction_id"
  let shapeId ← item e.fields "shape_id"
  pure
    { vehicleId := ← strField "vehicle_id" vehicleId
      operatorId := ← strField "operator_id" operatorId
      routeId := ← strField "route_id" routeId
      tripId := ← strField "trip_id" tripId
      directionId := ← intField "direction_id" directionId
      shapeId := ← strField "shape_id" shapeId
      scheduleRelationship := ← strField "schedule_relationship" (relationshipOf e.fields) }

def setStatus (s : Scheduler) (eid : Key) (st : Status) : Scheduler :=
  { s with statuses := s.statuses.set eid st }

/-- `_dispatch_entry` up to the POST. The vehicle, trip and shape that `track` gets
are the entry's own, which the request has just validated. -/
def beginDispatch (s : Scheduler) (t : Tick) (e : Entry) (rest : List Entry) : Scheduler :=
  let s := (s.setStatus e.id .requested).publishSnapshot true
  match buildRequest e with
  -- neither a `KeyError` nor a `ValidationError` is a `DatabusError`
  | .error exc => { s with loop := .dead exc }
  | .ok request =>
      { s with
        posts := s.posts ++ [⟨e, t, request⟩]
        loop := .creating t e rest request }

section Loop

variable (fromisoformat : String → Except PyExc DateTime)

/-- What the `for` loop of `run_loop` comes to before it suspends: the end of its
list, an entry to dispatch, or the `OverflowError` of `start.timestamp() - pre_idle`. -/
inductive Scan where
  | done
  | due (entry : Entry) (rest : List Entry)
  | overflow (exc : PyExc)

/-- The `start` of an entry, where `_parse_dt` accepts it. -/
def startOf (e : Entry) : Except PyExc ℚ := do parseDt fromisoformat (← item e.fields "start_time")

/-- The `for` loop: entries that are not pending, have no start or are not due yet
are passed. -/
def scan (statuses : Dict Key Status) (t : Tick) : List Entry → Scan
  | [] => .done
  | e :: rest =>
      if statuses.getD e.id .pending ≠ .pending then scan statuses t rest
      else
        match startOf fromisoformat e with
        | .error _ => scan statuses t rest
        | .ok start =>
            match floatOfInt t.preIdle with
            | .error exc => .overflow exc
            | .ok preIdle =>
                if start - preIdle ≤ t.now then .due e rest else scan statuses t rest

/-- The loop goes on with the rest of its list. -/
def continueTick (s : Scheduler) (t : Tick) (rest : List Entry) : Scheduler :=
  match scan fromisoformat s.statuses t rest with
  | .done => { s with loop := .sleeping, ticks := s.ticks ++ [t] }
  | .overflow exc => { s with loop := .dead exc }
  | .due e rest => s.beginDispatch t e rest

/-- What a turn reads at its start. -/
def tickAt (s : Scheduler) (now : ℚ) : Tick where
  now
  preIdle := s.defaults.preRunIdleS
  entries := s.entries

/-- The loop wakes from its sleep. -/
def wake (s : Scheduler) (now : ℚ) : Scheduler :=
  s.continueTick fromisoformat (s.tickAt now) s.entries

/-- `_dispatch_entry` from the answer of `create_run` to the GET of the terminal stop;
a `DatabusError` ends the dispatch. -/
def createReply (s : Scheduler) (t : Tick) (e : Entry) (rest : List Entry)
    (request : CreateRunRequest) (h : Http) : Scheduler :=
  match DatabusClient.createRun h with
  | .ok resp =>
      let s := { s with runIds := s.runIds.set e.id resp.runId }
      let s := (s.setStatus e.id .initialized).publishSnapshot true
      { s with loop := .locating t e rest request resp.runId }
  | .error exc =>
      if DatabusClient.isDatabusError exc then
        ((s.setStatus e.id .failed).publishSnapshot true).continueTick fromisoformat t rest
      else { s with loop := .dead exc }

/-- The call of `binder.track` at the end of `_dispatch_entry`, with the terminal stop
when the GET found one: any exception of it is logged. The auto-confirm task and the
auto-start wrapper follow it. -/
def trackRun (s : Scheduler) (e : Entry) (request : CreateRunRequest) (runId : String)
    (r : Except PyExc (Option String)) : Scheduler :=
  let tracked : Tracked :=
    { entryId := e.id
      runId
      vehicleId := request.vehicleId
      tripId := request.tripId
      shapeId := request.shapeId
      terminalStopId := match r with
        | .ok stop => stop
        | .error _ => none
      autoStart := match PyVal.getItem? e.fields "auto_start_motion_after_s" with
        | some .null => none
        | delay => delay }
  let confirm := (PyVal.getItem? e.fields "auto_confirm").any PyVal.truthy
  { s with
    tracks := s.tracks ++ [tracked]
    confirms := if confirm then s.confirms ++ [runId] else s.confirms }

/-- `_dispatch_entry` from the answer of `get_trip_terminal_stop`. -/
def locateReply (s : Scheduler) (t : Tick) (e : Entry) (rest : List Entry)
    (request : CreateRunRequest) (runId : String) (r : Except PyExc (Option String)) : Scheduler :=
  (s.trackRun e request runId r).continueTick fromisoformat t rest

/-! ## The scheduler as a system -/

/-- What can happen to the scheduler between two suspensions of its loop. -/
inductive Event where
  /-- The sleep of `run_loop` ends. -/
  | tick (now : ℚ)
  /-- `create_run` has come to an end. -/
  | createReply (h : Http)
  /-- `get_trip_terminal_stop` has come to an end, in any way. -/
  | locateReply (r : Except PyExc (Option String))
  | load
  /-- The views reload in a thread of their own, which has no event loop. -/
  | reload
  | write (document : PyVal)
  /-- The file is edited from outside. -/
  | edit (content : Except PyExc PyVal)

/-- The calls from outside the loop, and edits of the file. -/
def Event.isFileOp : Event → Bool
  | .load | .reload | .write _ | .edit _ => true
  | _ => false

/-- One step. A call of `load`, `reload` or `write` is one event: the loop runs
only before or after it. -/
def step (s : Scheduler) : Event → Option Scheduler
  | .tick now =>
      match s.loop with
      | .sleeping => some (s.wake fromisoformat now)
      | _ => none
  | .createReply h =>
      match s.loop with
      | .creating t e rest request => some (s.createReply fromisoformat t e rest request h)
      | _ => none
  | .locateReply r =>
      match s.loop with
      | .locating t e rest request runId =>
          some (s.locateReply fromisoformat t e rest request runId r)
      | _ => none
  | .load => some (settle (s.load fromisoformat))
  | .reload => some (settle (s.reload fromisoformat false))
  | .write document => some (settle (s.write fromisoformat document))
  | .edit content => some { s with file := content }

/-- A scheduler as its constructor leaves it. -/
def start (file : Except PyExc PyVal) : Scheduler := { file }

/-! ## What the calls and the loop leave -/

/-- `e` is due in the turn `t`. -/
def Due (t : Tick) (e : Entry) : Prop :=
  ∃ start preIdle, startOf fromisoformat e = .ok start ∧ floatOfInt t.preIdle = .ok preIdle ∧
    start - preIdle ≤ t.now

/-- The loop passes `d` in the turn `t`: it is not pending, has no start or is not due yet. -/
def Passes (statuses : Dict Key Status) (t : Tick) (d : Entry) : Prop :=
  statuses.getD d.id .pending = .pending → ∀ start, startOf fromisoformat d = .ok start →
    ∃ preIdle, floatOfInt t.preIdle = .ok preIdle ∧ t.now < start - preIdle

/-- What the loop makes of the head of its list. -/
theorem scan_cons (statuses : Dict Key Status) (t : Tick) (d : Entry) (l : List Entry) :
    (scan fromisoformat statuses t (d :: l) = scan fromisoformat statuses t l ∧
        Passes fromisoformat statuses t d) ∨
      (scan fromisoformat statuses t (d :: l) = .due d l ∧
        statuses.getD d.id .pending = .pending ∧ Due fromisoformat t d) ∨
      ∃ exc start, scan fromisoformat statuses t (d :: l) = .overflow exc ∧
        statuses.getD d.id .pending = .pending ∧ startOf fromisoformat d = .ok start ∧
        floatOfInt t.preIdle = .error exc := by
  rw [scan]
  by_cases hst : statuses.getD d.id .pending = .pending
  · rw [if_neg (not_not.mpr hst)]
    cases hstart : startOf fromisoformat d with
    | error exc =>
      refine .inl ⟨rfl, fun _ start hs => ?_⟩
      rw [hstart] at hs
      cases hs
    | ok start =>
      cases hpre : floatOfInt t.preIdle with
      | error exc => exact .inr (.inr ⟨exc, start, rfl, hst, rfl, rfl⟩)
      | ok preIdle =>
        by_cases hdue : start - preIdle ≤ t.now
        · exact .inr (.inl ⟨if_pos hdue, hst, start, preIdle, hstart, hpre, hdue⟩)
        · refine .inl ⟨if_neg hdue, fun _ start' hs => ?_⟩
          rw [hstart] at hs
          cases hs
          exact ⟨preIdle, hpre, not_le.mp hdue⟩
  · rw [if_pos hst]
    exact .inl ⟨rfl, fun hp => absurd hp hst⟩

/-- The loop stops at the first entry that is pending and due. -/
theorem scan_due {statuses : Dict Key Status} {t : Tick} {l rest : List Entry} {e : Entry}
    (h : scan fromisoformat statuses t l = .due e rest) :
    statuses.getD e.id .pending = .pending ∧ Due fromisoformat t e ∧
      ∃ passed, l = passed ++ e :: rest ∧ ∀ d ∈ passed, Passes fromisoformat statuses t d := by
  induction l with
  | nil => cases h
  | cons d l ih =>
    rcases scan_cons fromisoformat statuses t d l with
      ⟨hc, hd⟩ | ⟨hc, hp, hdue⟩ | ⟨exc, start, hc, -⟩
    · rw [hc] at h
      obtain ⟨hp, hdue, passed, rfl, hpassed⟩ := ih h
      exact ⟨hp, hdue, d :: passed, rfl, List.forall_mem_cons.mpr ⟨hd, hpassed⟩⟩
    · rw [hc] at h
      cases h
      exact ⟨hp, hdue, [], rfl, by simp⟩
    · rw [hc] at h
      cases h

end Loop

/-! ## A concrete schedule -/

/-- A complete entry that starts at 10 o'clock on the first day of the epoch. -/
def shuttle (id vehicleId : String) : PyVal :=
  .dict [(.str "id", .str id), (.str "start_time", .datetime ⟨36000, some 0⟩),
    (.str "vehicle_id", .str vehicleId), (.str "operator_id", .str "op"),
    (.str "route_id", .str "bUCR_L1"), (.str "trip_id", .str "trip"),
    (.str "direction_id", .int 0), (.str "shape_id", .str "hacia_artes")]

/-- A schedule file of the given runs. -/
def scheduleOf (runs : List PyVal) : Except PyExc PyVal := .ok (.dict [(.str "runs", .list runs)])

/-- `datetime.fromisoformat` on strings that hold no timestamp. -/
def noTimestamp (text : String) : Except PyExc DateTime :=
  .error (.valueError "Invalid isoformat string: " (some (.str text)))

end Scheduler

end DatabusSim
