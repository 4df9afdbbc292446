import DatabusSim.Api.Serializers
import DatabusSim.Services.ScheduleFile

/-!
# The schedule view

`schedule_view`: a GET shows the snapshot, a PUT validates the body, writes it over the
schedule file and reloads. `safe_load` reads back the document `safe_dump` wrote, up to
the order of the items of a mapping, which nothing here reads.
-/

namespace DatabusSim

/-- What reading `request.data` raises where the body cannot be parsed; Django REST
framework answers with its status code. -/
structure ApiException where
  statusCode : Nat
  detail : String
  isError : 400 ≤ statusCode

/-- The data of a request by its method. -/
inductive Request (Data : Type) where
  | get
  | put (data : Except ApiException Data)

inductive Response where
  /-- `{"ok": True}` -/
  | ok
  /-- The snapshot, `none` for the empty one of a simulator that is not ready. -/
  | schedule (snapshot : Option ScheduleSnapshot)
  | raised (exc : ApiException)
  | invalid (errors : List FieldErrors)
  /-- `{"error": "scheduler not ready"}` -/
  | notReady
  | failed (exc : PyExc)

def Response.status : Response → Nat
  | .ok => 200
  | .schedule _ => 200
  | .raised exc => exc.statusCode
  | .invalid _ => 422
  | .notReady => 503
  | .failed _ => 400

/-- The client is told that the request was not carried out. -/
def Response.IsError (r : Response) : Prop := 400 ≤ r.status

variable {Data : Type} (drf : RestFramework Data) (fromisoformat : String → Except PyExc DateTime)

/-- `schedule_view`, over `rt.scheduler`. -/
def scheduleView (scheduler : Option Scheduler) : Request Data → Response × Option Scheduler
  | .get => (.schedule (scheduler.map Scheduler.snapshot), scheduler)
  | .put (.error exc) => (.raised exc, scheduler)
  | .put (.ok data) =>
      match Serializers.scheduleDocument drf data with
      | .error errors => (.invalid errors, scheduler)
      | .ok doc =>
          match scheduler with
          | none => (.notReady, none)
          | some s =>
              match s.write fromisoformat (.dict doc.items) with
              | .error r => (.failed r.exc, some r.state)
              | .ok s =>
                  -- the view runs in a thread without an event loop
                  match s.reload fromisoformat false with
                  | .error r => (.failed r.exc, some r.state)
                  | .ok s => (.ok, some s)

/-! ## What the scheduler reads of a validated document -/

section Reads

open Scheduler

/-- Nothing that has been validated is an alias. -/
theorem fill_entry (e : ScheduleEntry) (container : PyVal) (out : Nat) :
    PyVal.fill container out (.dict e.items) = .dict e.items := by
  obtain ⟨_, _, _, _, _, _, _, _, _, _, motion⟩ := e
  cases motion <;> rfl

theorem fillElements_entries (runs : List ScheduleEntry) (container : PyVal) (out : Nat) :
    PyVal.fillElements container out (runs.map fun e => .dict e.items) =
      runs.map fun e => .dict e.items := by
  induction runs with
  | nil => rfl
  | cons e runs ih => rw [List.map_cons, PyVal.fillElements, fill_entry, ih]

theorem unrolled_entry (e : ScheduleEntry) :
    (PyVal.dict e.items).unrolled = .dict e.items := by
  obtain ⟨_, _, _, _, _, _, _, _, _, _, motion⟩ := e
  cases motion <;> rfl

theorem unrolled_items (doc : ScheduleDocument) :
    (PyVal.dict doc.items).unrolled = .dict doc.items := by
  cases hdefaults : doc.defaults <;>
    simp [PyVal.unrolled, ScheduleDocument.items, PyVal.fillItems, PyVal.fill, Defaults.items,
      fillElements_entries, hdefaults]

theorem readDefaults_items (doc : ScheduleDocument) :
    readDefaults doc.items = .ok (doc.defaults.getD {}) := by
  obtain ⟨defaults, runs, -, -⟩ := doc
  cases defaults <;> rfl

theorem runsOf_items (doc : ScheduleDocument) :
    runsOf doc.items = .ok (doc.runs.map fun e => .dict e.items) := by
  have hget : PyVal.getItem? doc.items "runs" =
      some (.list (doc.runs.map fun e => .dict e.items)) := rfl
  have hlist : (PyVal.list (doc.runs.map fun e => .dict e.items)).unrolled =
      .list (doc.runs.map fun e => .dict e.items) :=
    congrArg PyVal.list (fillElements_entries doc.runs _ 0)
  have hmap : (doc.runs.map fun e => .dict e.items).map PyVal.unrolled =
      doc.runs.map fun e => .dict e.items := by
    rw [List.map_map]
    exact List.map_congr_left fun e _ => unrolled_entry e
  simp only [runsOf, hget, hlist, hmap]
  cases hruns : doc.runs with
  -- an empty list is falsy, and `[]` again
  | nil => rfl
  | cons e rest => rfl

theorem id_items {e : Entry} {run : ScheduleEntry} (h : e.fields = run.items) :
    e.id = .str run.id := by
  have hid := e.id_eq
  rw [h] at hid
  exact (Option.some.inj hid).symm

/-- Entries that are the runs of a document have their ids. -/
theorem ids_items {entries : List Entry} {runs : List ScheduleEntry}
    (h : entries.map (fun e => PyVal.dict e.fields) = runs.map fun r => .dict r.items) :
    entries.map Entry.id = runs.map fun r => .str r.id := by
  induction entries generalizing runs with
  | nil =>
    rw [List.map_nil] at h
    rw [List.map_eq_nil_iff.mp h.symm]
    rfl
  | cons e entries ih =>
    obtain ⟨run, rest, rfl, hrun, hrest⟩ := List.map_eq_cons_iff.mp h.symm
    rw [List.map_cons, List.map_cons, ih hrest.symm, id_items (PyVal.dict.inj hrun).symm]

end Reads

/-! ## All or nothing -/

/-- The scheduler and its file after a document has been put: the file holds it, the
entries are its runs in order, the defaults those it gives, and of the statuses only
those of new ids are set. -/
structure Stored (doc : ScheduleDocument) (s s' : Scheduler) : Prop where
  file : s'.file = .ok (.dict doc.items)
  entries : s'.entries.map (fun e => PyVal.dict e.fields) = doc.runs.map fun r => .dict r.items
  ids : s'.entries.map Entry.id = doc.runs.map fun r => .str r.id
  defaults : s'.defaults = doc.defaults.getD {}
  known : ∀ id st, s.statuses.get? id = some st → s'.statuses.get? id = some st
  new : ∀ r ∈ doc.runs, s.statuses.get? (.str r.id) = none →
    s'.statuses.get? (.str r.id) = some .pending
  runIds : s'.runIds = s.runIds

/-- A document that `write` lets through is loaded: the reload runs the same loop over
the same list, and the defaults are integers. -/
theorem reload_stored {s : Scheduler} {doc : ScheduleDocument} {entries : List Entry}
    (hcheck : Scheduler.checkRuns fromisoformat (doc.runs.map fun r => .dict r.items) [] =
      .ok entries) :
    ∃ s', Scheduler.reload fromisoformat false { s with file := .ok (.dict doc.items) } = .ok s' ∧
      Stored doc s s' := by
  have hload := Scheduler.load_ok (s := { s with file := .ok (.dict doc.items) }) rfl
    (List.cons_ne_nil _ _) (unrolled_items doc) (readDefaults_items doc) (runsOf_items doc) hcheck
  have hfields := Scheduler.checkRuns_fields hcheck
  have hids := ids_items hfields
  refine ⟨_, bind_ok.mpr ⟨_, hload, rfl⟩, ?_⟩
  exact
    { file := rfl
      entries := hfields
      ids := hids
      defaults := rfl
      known := by
        intro id st hst
        exact (Scheduler.get?_registerIds s.statuses entries id).trans (by rw [hst]; rfl)
      new := by
        intro r hr hnone
        have hmem : Key.str r.id ∈ entries.map Entry.id := by
          rw [hids]
          exact List.mem_map_of_mem hr
        refine (Scheduler.get?_registerIds s.statuses entries (.str r.id)).trans ?_
        rw [hnone, if_pos hmem]
        rfl
      runIds := rfl }

/-- What a PUT comes to once the serializer has accepted the body: `write` rejects a run
and nothing has happened, or the document is stored. -/
theorem put_cases (s : Scheduler) {body : Data} {doc : ScheduleDocument}
    (hdoc : Serializers.scheduleDocument drf body = .ok doc) :
    (∃ exc, Scheduler.checkRuns fromisoformat (doc.runs.map fun r => .dict r.items) [] =
        .error exc ∧
        scheduleView drf fromisoformat (some s) (.put (.ok body)) = (.failed exc, some s)) ∨
      ∃ entries s', Scheduler.checkRuns fromisoformat (doc.runs.map fun r => .dict r.items) [] =
        .ok entries ∧
        scheduleView drf fromisoformat (some s) (.put (.ok body)) = (.ok, some s') ∧
        Stored doc s s' := by
  have hruns := runsOf_items doc
  simp only [scheduleView, hdoc]
  cases hcheck : Scheduler.checkRuns fromisoformat (doc.runs.map fun r => .dict r.items) [] with
  | error exc =>
    simp only [Scheduler.write_error (unrolled_items doc) hruns hcheck]
    exact .inl ⟨exc, rfl, rfl⟩
  | ok entries =>
    obtain ⟨s', hreload, hstored⟩ := reload_stored fromisoformat (s := s) hcheck
    simp only [Scheduler.write_ok (unrolled_items doc) hruns hcheck, hreload]
    exact .inr ⟨entries, s', rfl, rfl, hstored⟩

/-- A PUT stores the whole validated document, or is answered with an error and leaves
the file and the scheduler as they were. -/
theorem put_all_or_nothing (scheduler : Option Scheduler) (data : Except ApiException Data) :
    (∃ body doc s s', data = .ok body ∧ Serializers.scheduleDocument drf body = .ok doc ∧
        scheduler = some s ∧
        scheduleView drf fromisoformat scheduler (.put data) = (.ok, some s') ∧ Stored doc s s') ∨
      (scheduleView drf fromisoformat scheduler (.put data)).1.IsError ∧
        (scheduleView drf fromisoformat scheduler (.put data)).2 = scheduler := by
  cases data with
  | error exc => exact .inr ⟨exc.isError, rfl⟩
  | ok body =>
    cases hdoc : Serializers.scheduleDocument drf body with
    | error errors =>
      simp only [scheduleView, hdoc]
      exact .inr ⟨by simp [Response.IsError, Response.status], trivial⟩
    | ok doc =>
      cases scheduler with
      | none =>
        simp only [scheduleView, hdoc]
        exact .inr ⟨by simp [Response.IsError, Response.status], trivial⟩
      | some s =>
        rcases put_cases drf fromisoformat s hdoc with
          ⟨exc, -, hput⟩ | ⟨entries, s', -, hput, hstored⟩
        · rw [hput]
          exact .inr ⟨by simp [Response.IsError, Response.status], rfl⟩
        · exact .inl ⟨body, doc, s, s', rfl, hdoc, rfl, hput, hstored⟩

/-! ## Which documents are stored -/

/-- Of an entry the serializer accepts, `_validate_entry` can only reject the start. -/
theorem validateEntry_items (r : ScheduleEntry) :
    Scheduler.validateEntry fromisoformat r.items = .ok () ↔
      ∃ t, Scheduler.parseDt fromisoformat (.str r.startTime) = .ok t := by
  have hdir : Scheduler.memberOf (Scheduler.directionOf r.items) [.num 0, .num 1] = .ok true := by
    show Except.ok (decide (Key.num ((r.directionId : Int) : ℚ) ∈ [Key.num 0, Key.num 1])) = _
    rcases r.directionId.2 with h | h <;> simp [h]
  have hrel : Scheduler.memberOf (Scheduler.relationshipOf r.items)
      [.str "SCHEDULED", .str "ADDED", .str "UNSCHEDULED"] = .ok true := by
    show Except.ok (decide (Key.str (r.scheduleRelationship : String) ∈
      [Key.str "SCHEDULED", Key.str "ADDED", Key.str "UNSCHEDULED"])) = _
    have h := r.scheduleRelationship.2
    simpa using h
  constructor
  · intro h
    obtain ⟨v, hv, h⟩ := bind_ok.mp h
    cases hv
    obtain ⟨t, ht, -⟩ := bind_ok.mp h
    exact ⟨t, ht⟩
  · rintro ⟨t, ht⟩
    refine bind_ok.mpr ⟨.str r.startTime, rfl, bind_ok.mpr ⟨t, ht, ?_⟩⟩
    rw [hdir, hrel]
    rfl

/-- The loop of `write` and `load` lets the runs of a document through when their starts
are timestamps with a timezone. -/
theorem checkRuns_items {runs : List ScheduleEntry} {seen : List Key}
    (hids : ∀ r ∈ runs, r.id ≠ "" ∧ Key.str r.id ∉ seen)
    (hdistinct : (runs.map ScheduleEntry.id).Nodup) :
    (∃ entries, Scheduler.checkRuns fromisoformat (runs.map fun r => .dict r.items) seen =
        .ok entries) ↔
      ∀ r ∈ runs, ∃ t, Scheduler.parseDt fromisoformat (.str r.startTime) = .ok t := by
  induction runs generalizing seen with
  | nil => exact ⟨fun _ r hr => (nomatch hr), fun _ => ⟨[], rfl⟩⟩
  | cons r rest ih =>
    rw [List.forall_mem_cons] at hids ⊢
    rw [List.map_cons, List.nodup_cons] at hdistinct
    obtain ⟨⟨hname, hnew⟩, hrest⟩ := hids
    -- the ids of the rest are not the one that is seen now
    have hrest' : ∀ d ∈ rest, d.id ≠ "" ∧ Key.str d.id ∉ Key.str r.id :: seen := by
      intro d hd
      refine ⟨(hrest d hd).1, fun hmem => ?_⟩
      rcases List.mem_cons.mp hmem with heq | hmem
      · exact hdistinct.1 (List.mem_map.mpr ⟨d, hd, Key.str.inj heq⟩)
      · exact (hrest d hd).2 hmem
    have hih := ih hrest' hdistinct.2
    rw [← validateEntry_items, ← hih, List.map_cons]
    constructor
    · rintro ⟨entries, h⟩
      obtain ⟨e, tail, -, hfields, hadmitted, -, htail⟩ := Scheduler.checkRuns_cons.mp h
      have hfields := PyVal.dict.inj hfields
      rw [id_items hfields.symm] at htail
      exact ⟨hfields ▸ hadmitted.valid, tail, htail⟩
    · rintro ⟨hval, tail, htail⟩
      let e : Entry := ⟨r.items, .str r.id, rfl, Scheduler.validateEntry_ok fromisoformat hval⟩
      refine ⟨e :: tail, Scheduler.checkRuns_cons.mpr ⟨e, tail, rfl, rfl, ?_, hnew, htail⟩⟩
      exact ⟨⟨.str r.id, rfl, by simpa [PyVal.truthy] using hname⟩, hval⟩

/-- A PUT is carried out exactly when the serializer accepts its body and every start is
a timestamp with a timezone. -/
theorem put_ok_iff (s : Scheduler) (body : Data) :
    (scheduleView drf fromisoformat (some s) (.put (.ok body))).1 = .ok ↔
      ∃ doc, Serializers.scheduleDocument drf body = .ok doc ∧
        ∀ r ∈ doc.runs, ∃ t, Scheduler.parseDt fromisoformat (.str r.startTime) = .ok t := by
  cases hdoc : Serializers.scheduleDocument drf body with
  | error errors =>
    simp only [scheduleView, hdoc]
    exact ⟨fun h => (nomatch h), fun ⟨_, h, _⟩ => (nomatch h)⟩
  | ok doc =>
    have hruns := @checkRuns_items fromisoformat doc.runs []
      (fun r hr => ⟨doc.named r hr, List.not_mem_nil⟩) doc.distinct
    rcases put_cases drf fromisoformat s hdoc with
      ⟨exc, hcheck, hput⟩ | ⟨entries, s', hcheck, hput, -⟩
    · rw [hput]
      refine ⟨fun h => (nomatch h), ?_⟩
      rintro ⟨doc', hdoc', hstarts⟩
      cases hdoc'
      obtain ⟨entries, hentries⟩ := hruns.mpr hstarts
      rw [hcheck] at hentries
      cases hentries
    · rw [hput]
      exact ⟨fun _ => ⟨doc, rfl, hruns.mp ⟨entries, hcheck⟩⟩, fun _ => rfl⟩

/-! ## A concrete request -/

/-- Request data of plain JSON values, with fields that take only values of their own
type. -/
def plainData : RestFramework PyVal where
  mapping
    | .dict items => .ok fun name =>
        match PyVal.getItem? items name with
        | none => .absent
        | some .null => .null
        | some v => .value v
    | _ => .error [⟨"Invalid data. Expected a dictionary.", none⟩]
  list
    | .list xs => .ok (xs.map .value)
    | _ => .error [⟨"Expected a list of items.", none⟩]
  charField
    | .str s => if s = "" then .error [⟨"This field may not be blank.", none⟩] else .ok s
    | _ => .error [⟨"Not a valid string.", none⟩]
  integerField minValue
    | .int i =>
        if i < minValue.getD i then
          .error [⟨"Ensure this value is greater than or equal to the minimum.", none⟩]
        else .ok i
    | _ => .error [⟨"A valid integer is required.", none⟩]
  choiceField choices
    | .str s => if h : s ∈ choices then .ok ⟨s, h⟩ else .error [⟨"Not a valid choice.", some s⟩]
    | _ => .error [⟨"Not a valid choice.", none⟩]
  booleanField
    | .bool b => .ok b
    | _ => .error [⟨"Must be a valid boolean.", none⟩]

/-- A body with one run. -/
def bodyOf (directionId : Int) (startTime : String) : Except ApiException PyVal :=
  .ok (.dict [(.str "runs", .list [.dict [(.str "id", .str "r-1"),
    (.str "vehicle_id", .str "unit-01"), (.str "operator_id", .str "op"),
    (.str "route_id", .str "bUCR_L1"), (.str "trip_id", .str "trip"),
    (.str "direction_id", .int directionId), (.str "shape_id", .str "hacia_artes"),
    (.str "start_time", .str startTime)]])])

/-- `datetime.fromisoformat` on three strings. -/
def threeStarts : String → Except PyExc DateTime
  | "1970-01-01T10:00:00+00:00" => .ok ⟨36000, some 0⟩
  | "1970-01-01T10:00:00" => .ok ⟨36000, none⟩
  | text => Scheduler.noTimestamp text

/-- The answer to a PUT of `body` over an empty schedule. -/
def answer (body : Except ApiException PyVal) : Response :=
  (scheduleView plainData threeStarts (some (.start (Scheduler.scheduleOf []))) (.put body)).1

example : (answer (bodyOf 0 "1970-01-01T10:00:00+00:00")).status = 200 := by decide +kernel

-- the serializer reads any string, `write` wants a timezone
example : (answer (bodyOf 0 "1970-01-01T10:00:00")).status = 400 := by decide +kernel

example : (answer (bodyOf 2 "1970-01-01T10:00:00+00:00")).status = 422 := by decide +kernel

end DatabusSim
