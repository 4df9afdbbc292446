import DatabusSim.Api.Resubmit
import DatabusSim.Api.ScheduleView
import DatabusSim.Realtime.Consumers

/-!
# The schedule tab

`static/tabs/schedule.js`: the tab gets the schedule, its runs are added, replaced and removed in
the page, and Save puts what is left of each run without the two fields that the snapshot has put
there. Whatever happens at the scheduler between the GET and the PUT, what is stored is the
schedule of the GET with the edits of the page (`save_stores_edits`).
-/

namespace DatabusSim.ScheduleTab

open Serializers

/-- `_doc`, of which the tab reads the defaults and the runs. -/
structure Doc where
  defaults : Js
  runs : List Js

/-- `_doc` after `getSchedule`. -/
def opened (snapshot : Js) : Doc where
  defaults := snapshot.prop "defaults"
  runs :=
    match snapshot.prop "runs" with
    | .arr xs => xs
    | _ => []

/-- `r.id === id`. -/
def hasId (id : String) (r : Js) : Bool :=
  match r.prop "id" with
  | .str s => s = id
  | _ => false

/-- What `onSubmit` of the entry's form returns. -/
def formResult (e : ScheduleEntry) : Js :=
  .obj [("id", .str e.id), ("vehicle_id", .str e.vehicleId), ("operator_id", .str e.operatorId),
    ("route_id", .str e.routeId), ("trip_id", .str e.tripId), ("shape_id", .str e.shapeId),
    ("direction_id", .num (e.directionId : Int)),
    ("schedule_relationship", .str e.scheduleRelationship), ("start_time", .str e.startTime),
    ("auto_confirm", .bool e.autoConfirm),
    ("auto_start_motion_after_s", (e.autoStartMotionAfterS.map fun i => Js.num (i : Int)).getD .null)]

/-- What the user does: the form of a new run, that of a run of the table, the removal of one. -/
inductive Edit where
  | add (e : ScheduleEntry)
  | edit (id : String) (e : ScheduleEntry)
  | remove (id : String)

/-- The listeners of the table. The one of an edit throws where it assigns to a constant; `_doc`
has its run by then. -/
def Doc.edited (doc : Doc) : Edit → Doc
  | .add e => { doc with runs := doc.runs ++ [formResult e] }
  | .edit id e =>
      { doc with
        runs := doc.runs.replaceF fun r => if hasId id r then some (formResult e) else none }
  | .remove id => { doc with runs := doc.runs.filter fun r => !hasId id r }

/-- `const { status, bound_run_id, ...rest } = r`. -/
def rest (r : Js) : Js :=
  .obj (r.spread.filter fun p => p.1 ≠ "status" ∧ p.1 ≠ "bound_run_id")

def buildSaveBody (doc : Doc) : Js :=
  .obj [("defaults", doc.defaults.orElse (.obj [])), ("runs", .arr (doc.runs.map rest))]

/-! ## The runs that the edits are about -/

def Edit.apply (runs : List ScheduleEntry) : Edit → List ScheduleEntry
  | .add e => runs ++ [e]
  | .edit id e => runs.replaceF fun r => if r.id = id then some e else none
  | .remove id => runs.filter fun r => r.id ≠ id

/-- The runs that come in by an edit. -/
def Edit.entry? : Edit → Option ScheduleEntry
  | .add e => some e
  | .edit _ e => some e
  | .remove _ => none

/-- A run of the page is that of an entry. -/
structure Shows (e : ScheduleEntry) (r : Js) : Prop where
  id : r.prop "id" = .str e.id
  saved : Renders e (rest r)

theorem Shows.hasId {e : ScheduleEntry} {r : Js} (h : Shows e r) (id : String) :
    hasId id r = decide (e.id = id) := by
  unfold ScheduleTab.hasId
  rw [h.id]

theorem shows_formResult (e : ScheduleEntry) : Shows e (formResult e) := by
  have hrest : rest (formResult e) = formResult e := by
    simp [rest, formResult, Js.spread]
  refine ⟨by simp [formResult, Dict.lookupEntry], ?_⟩
  rw [hrest]
  constructor <;> simp [formResult, Dict.lookupEntry]

/-- A run of the snapshot, as the page parses it. -/
theorem shows_snapshot (text : Key → String) (e : ScheduleEntry) (status : Status)
    (boundRunId : Option String) :
    Shows e (parsed text (.dict (SnapshotRun.items ⟨e.items, status, boundRunId⟩))) := by
  have hmotion : parsed text ((e.autoStartMotionAfterS.map PyVal.int).getD .null) =
      (e.autoStartMotionAfterS.map fun i => Js.num (i : Int)).getD .null := by
    cases e.autoStartMotionAfterS <;> rfl
  have hparsed : parsed text (.dict (SnapshotRun.items ⟨e.items, status, boundRunId⟩)) = .obj
      [("id", .str e.id), ("vehicle_id", .str e.vehicleId), ("operator_id", .str e.operatorId),
        ("route_id", .str e.routeId), ("trip_id", .str e.tripId),
        ("direction_id", .num (e.directionId : Int)), ("shape_id", .str e.shapeId),
        ("schedule_relationship", .str e.scheduleRelationship), ("start_time", .str e.startTime),
        ("auto_confirm", .bool e.autoConfirm),
        ("auto_start_motion_after_s",
          (e.autoStartMotionAfterS.map fun i => Js.num (i : Int)).getD .null),
        ("status", .str status.text),
        ("bound_run_id", parsed text (boundRunId.elim .null .str))] := by
    simp [SnapshotRun.items, overlay, ScheduleEntry.items, parsed, parsedItems, keyText,
      Dict.setEntry, hmotion]
  rw [hparsed]
  refine ⟨by simp [Dict.lookupEntry], ?_⟩
  constructor <;> simp [rest, Js.spread, Dict.lookupEntry]

/-! ## Edits -/

theorem forall₂_replaceF {α β : Type} {R : α → β → Prop} {f : α → Option α} {g : β → Option β}
    (hfg : ∀ a b, R a b → Option.Rel R (f a) (g b)) {l : List α} {m : List β}
    (h : List.Forall₂ R l m) : List.Forall₂ R (l.replaceF f) (m.replaceF g) := by
  induction h with
  | nil => exact .nil
  | @cons a b l m hab hrest ih =>
    have hrel := hfg a b hab
    unfold List.replaceF
    cases hf : f a with
    | none =>
      cases hg : g b with
      | none => exact .cons hab ih
      | some b' =>
        rw [hf, hg] at hrel
        cases hrel
    | some a' =>
      cases hg : g b with
      | none =>
        rw [hf, hg] at hrel
        cases hrel
      | some b' =>
        rw [hf, hg] at hrel
        cases hrel with
        | some hab' => exact .cons hab' hrest

theorem shows_edited {runs : List ScheduleEntry} {doc : Doc}
    (h : List.Forall₂ Shows runs doc.runs) (ed : Edit) :
    List.Forall₂ Shows (ed.apply runs) (doc.edited ed).runs := by
  cases ed with
  | add e => exact List.rel_append h (.cons (shows_formResult e) .nil)
  | edit id e =>
    refine forall₂_replaceF (fun r v hrv => ?_) h
    rw [hrv.hasId id]
    by_cases hid : r.id = id
    · rw [if_pos hid, if_pos (decide_eq_true hid)]
      exact .some (shows_formResult e)
    · rw [if_neg hid, if_neg (by simpa using hid)]
      exact .none
  | remove id =>
    refine List.rel_filter (fun r v hrv => ?_) h
    show decide (r.id ≠ id) = true ↔ (!hasId id v) = true
    rw [hrv.hasId id]
    simp

theorem shows_run {runs : List ScheduleEntry} {doc : Doc}
    (h : List.Forall₂ Shows runs doc.runs) (edits : List Edit) :
    List.Forall₂ Shows (edits.foldl Edit.apply runs) (edits.foldl Doc.edited doc).runs := by
  induction edits generalizing runs doc with
  | nil => exact h
  | cons ed edits ih => exact ih (shows_edited h ed)

theorem defaults_run (doc : Doc) (edits : List Edit) :
    (edits.foldl Doc.edited doc).defaults = doc.defaults := by
  induction edits generalizing doc with
  | nil => rfl
  | cons ed edits ih =>
    rw [List.foldl_cons, ih]
    cases ed <;> rfl

/-- The runs after the edits are those of before and those that came in. -/
theorem mem_apply {runs : List ScheduleEntry} {ed : Edit} {e : ScheduleEntry}
    (he : e ∈ ed.apply runs) : e ∈ runs ∨ ed.entry? = some e := by
  cases ed with
  | add e' =>
    rcases List.mem_append.mp he with he | he
    · exact .inl he
    · rw [List.mem_singleton.mp he]
      exact .inr rfl
  | edit id e' =>
    rcases List.exists_or_eq_self_of_replaceF (fun r => if r.id = id then some e' else none)
      runs with heq | ⟨r, r', l₁, l₂, -, hr', heq, hnew⟩
    · rw [Edit.apply, heq] at he
      exact .inl he
    · rw [Edit.apply, hnew] at he
      split at hr'
      · cases hr'
        rw [heq]
        simp only [List.mem_append, List.mem_cons] at he ⊢
        rcases he with he | rfl | he
        · exact .inl (.inl he)
        · exact .inr rfl
        · exact .inl (.inr (.inr he))
      · cases hr'
  | remove id => exact .inl (List.mem_of_mem_filter he)

theorem mem_run {P : ScheduleEntry → Prop} {runs : List ScheduleEntry} (hruns : ∀ e ∈ runs, P e)
    {edits : List Edit} (hedits : ∀ ed ∈ edits, ∀ e, ed.entry? = some e → P e) :
    ∀ e ∈ edits.foldl Edit.apply runs, P e := by
  induction edits generalizing runs with
  | nil => exact hruns
  | cons ed edits ih =>
    rw [List.forall_mem_cons] at hedits
    refine ih (fun e he => ?_) hedits.2
    rcases mem_apply he with he | he
    · exact hruns e he
    · exact hedits.1 e he

/-! ## From the GET to the PUT -/

/-- The scheduler has the schedule of a document. -/
structure Holds (doc : ScheduleDocument) (s : Scheduler) : Prop where
  entries : s.entries.map (fun e => PyVal.dict e.fields) = doc.runs.map fun r => .dict r.items
  defaults : s.defaults = doc.defaults.getD {}

theorem opened_defaults (text : Key → String) (s : Scheduler) (now : String) :
    (opened (parsed text (s.snapshot.payload now))).defaults =
      .obj [("pre_run_idle_s", .num s.defaults.preRunIdleS),
        ("post_run_idle_s", .num s.defaults.postRunIdleS),
        ("auto_confirm_delay_s", .num s.defaults.autoConfirmDelayS)] := by
  simp [opened, ScheduleSnapshot.payload, Scheduler.snapshot, Defaults.payload, parsed,
    parsedItems, keyText, Dict.setEntry, Dict.lookupEntry]

theorem opened_runs (text : Key → String) (s : Scheduler) (now : String) :
    (opened (parsed text (s.snapshot.payload now))).runs =
      s.entries.map fun e => parsed text (.dict (SnapshotRun.items
        ⟨e.fields, s.status e.id, s.runIds.get? e.id⟩)) := by
  simp [opened, ScheduleSnapshot.payload, Scheduler.snapshot, parsed, parsedItems, keyText,
    Dict.setEntry, Dict.lookupEntry, parsedElements_eq]

theorem shows_opened (text : Key → String) {doc : ScheduleDocument} {s : Scheduler}
    (h : Holds doc s) (now : String) :
    List.Forall₂ Shows doc.runs (opened (parsed text (s.snapshot.payload now))).runs := by
  have hfields : List.Forall₂ (fun (e : Entry) r => PyVal.dict e.fields = .dict r.items)
      s.entries doc.runs := by
    have hmap : List.Forall₂ Eq (s.entries.map fun e => PyVal.dict e.fields)
        (doc.runs.map fun r => .dict r.items) := by
      rw [h.entries]
      exact List.forall₂_same.mpr fun _ _ => rfl
    exact List.forall₂_map_left_iff.mp (List.forall₂_map_right_iff.mp hmap)
  rw [opened_runs, List.forall₂_map_right_iff]
  refine hfields.flip.imp fun r e he => ?_
  rw [PyVal.dict.inj he]
  exact shows_snapshot text r _ _

section Save

variable {drf : RestFramework Js}

variable (drf) in
/-- An entry as the serializer makes it, with a number that the page does not round. -/
structure Sendable (e : ScheduleEntry) : Prop where
  canonical : Canonical drf e
  safe : ∀ n, e.autoStartMotionAfterS = some n → Js.Safe n

/-- The page does not round the numbers of the document. -/
structure SafeNumbers (doc : ScheduleDocument) : Prop where
  defaults : ∀ d, doc.defaults = some d → ∀ i ∈ secondsOf d, Js.Safe i
  runs : ∀ e ∈ doc.runs, ∀ n, e.autoStartMotionAfterS = some n → Js.Safe n

/-- The defaults come back as they were sent; those of a document without any are spelt out. -/
theorem scheduleDefaults_opened (h : ReadsJson drf) (text : Key → String) {doc : ScheduleDocument}
    (hnonneg : ∀ d, doc.defaults = some d → NonNegative d) (hsafe : SafeNumbers doc)
    {s : Scheduler} (hs : Holds doc s) (now : String) :
    scheduleDefaults drf (opened (parsed text (s.snapshot.payload now))).defaults =
      (.ok (doc.defaults.getD {}) : Checked Defaults) := by
  have hrenders : RendersDefaults s.defaults
      (opened (parsed text (s.snapshot.payload now))).defaults := by
    rw [opened_defaults]
    constructor <;> simp [Dict.lookupEntry]
  rw [← hs.defaults]
  cases hd : doc.defaults with
  | none =>
    have hdefaults : s.defaults = {} := by
      rw [hs.defaults, hd]
      rfl
    refine scheduleDefaults_renders h hrenders ?_ ?_
    · rw [hdefaults]
      constructor <;> decide
    · rw [hdefaults]
      decide
  | some d =>
    have hdefaults : s.defaults = d := by rw [hs.defaults, hd, Option.getD_some]
    refine scheduleDefaults_renders h hrenders ?_ ?_
    · rw [hdefaults]
      exact hnonneg d hd
    · rw [hdefaults]
      exact hsafe.defaults d hd

/-- The serializer reads the edited document out of the body that the tab sends. -/
theorem scheduleDocument_saveBody (h : ReadsJson drf) (text : Key → String)
    {doc doc' : ScheduleDocument} (hnonneg : ∀ d, doc.defaults = some d → NonNegative d)
    (hsafe : SafeNumbers doc) {s : Scheduler} (hs : Holds doc s) (now : String)
    {edits : List Edit} (hruns : doc'.runs = edits.foldl Edit.apply doc.runs)
    (hdefaults : doc'.defaults = some (doc.defaults.getD {}))
    (hsendable : ∀ e ∈ doc'.runs, Sendable drf e) :
    scheduleDocument drf (buildSaveBody (edits.foldl Doc.edited
      (opened (parsed text (s.snapshot.payload now))))) = (.ok doc' : Checked ScheduleDocument) := by
  let page := opened (parsed text (s.snapshot.payload now))
  have hshows : List.Forall₂ Shows doc'.runs (edits.foldl Doc.edited page).runs := by
    rw [hruns]
    exact shows_run (shows_opened text hs now) edits
  have hobject : ∃ props, page.defaults = .obj props := ⟨_, opened_defaults text s now⟩
  have hbody : buildSaveBody (edits.foldl Doc.edited page) =
      .obj [("defaults", page.defaults),
        ("runs", .arr ((edits.foldl Doc.edited page).runs.map rest))] := by
    unfold buildSaveBody
    rw [defaults_run]
    obtain ⟨props, hprops⟩ := hobject
    rw [hprops, Js.orElse_obj]
  rw [hbody]
  refine scheduleDocument_resubmitted h hdefaults hobject
    (scheduleDefaults_opened h text hnonneg hsafe hs now) ?_
    (fun e he => (hsendable e he).canonical) (fun e he => (hsendable e he).safe)
  rw [List.forall₂_map_right_iff]
  exact hshows.imp fun _ _ hshow => hshow.saved

/-- A schedule that went through the serializer is opened, edited and saved: whatever the
scheduler has become in the meantime, it then has the defaults that were opened and the runs as
they were edited. -/
theorem save_stores_edits (h : ReadsJson drf) {fromisoformat : String → Except PyExc DateTime}
    (text : Key → String) {body : Js} {doc : ScheduleDocument}
    (hdoc : scheduleDocument drf body = (.ok doc : Checked ScheduleDocument))
    (hsafe : SafeNumbers doc) {s₁ : Scheduler} (hs₁ : Holds doc s₁) (now : String)
    {edits : List Edit} (hedits : ∀ ed ∈ edits, ∀ e, ed.entry? = some e → Sendable drf e)
    (hnamed : ∀ e ∈ edits.foldl Edit.apply doc.runs, e.id ≠ "")
    (hdistinct : ((edits.foldl Edit.apply doc.runs).map ScheduleEntry.id).Nodup)
    (hstarts : ∀ e ∈ edits.foldl Edit.apply doc.runs,
      ∃ t, Scheduler.parseDt fromisoformat (.str e.startTime) = .ok t) (s₂ : Scheduler) :
    ∃ doc' s', doc'.runs = edits.foldl Edit.apply doc.runs ∧
      doc'.defaults = some (doc.defaults.getD {}) ∧
      scheduleView drf fromisoformat (some s₂) (.put (.ok (buildSaveBody (edits.foldl Doc.edited
        (opened (parsed text (s₁.snapshot.payload now))))))) = (.ok, some s') ∧
      Stored doc' s₂ s' := by
  obtain ⟨hnonneg, hcanonical⟩ := scheduleDocument_canonical h hdoc
  have hsendable : ∀ e ∈ edits.foldl Edit.apply doc.runs, Sendable drf e :=
    mem_run (fun e he => ⟨hcanonical e he, hsafe.runs e he⟩) hedits
  let doc' : ScheduleDocument :=
    ⟨some (doc.defaults.getD {}), edits.foldl Edit.apply doc.runs, hnamed, hdistinct⟩
  have hdoc' : scheduleDocument drf (buildSaveBody (edits.foldl Doc.edited
      (opened (parsed text (s₁.snapshot.payload now))))) = (.ok doc' : Checked ScheduleDocument) :=
    scheduleDocument_saveBody h text hnonneg hsafe hs₁ now rfl rfl hsendable
  have hchecked := (checkRuns_items fromisoformat (fun e he => ⟨hnamed e he, List.not_mem_nil⟩)
    hdistinct).mpr hstarts
  rcases put_cases drf fromisoformat s₂ hdoc' with
    ⟨exc, hcheck, -⟩ | ⟨entries, s', -, hput, hstored⟩
  · obtain ⟨entries, hentries⟩ := hchecked
    rw [hentries] at hcheck
    cases hcheck
  · exact ⟨doc', s', rfl, rfl, hput, hstored⟩

end Save

/-! ## A concrete page -/

/-- Request data as JSON, with fields that take only values of their own type. -/
def jsonData : RestFramework Js where
  mapping
    | .obj props => .ok fun name => ((Js.obj props).prop name).given
    | _ => .error [⟨"Invalid data. Expected a dictionary.", none⟩]
  list
    | .arr xs => .ok (xs.map Js.given)
    | _ => .error [⟨"Expected a list of items.", none⟩]
  charField
    | .str s => if s = "" then .error [⟨"This field may not be blank.", none⟩] else .ok s
    | _ => .error [⟨"Not a valid string.", none⟩]
  integerField minValue
    | .num q =>
        if q.den ≠ 1 then .error [⟨"A valid integer is required.", none⟩]
        else if q.num < minValue.getD q.num then
          .error [⟨"Ensure this value is greater than or equal to the minimum.", none⟩]
        else .ok q.num
    | _ => .error [⟨"A valid integer is required.", none⟩]
  choiceField choices
    | .str s => if h : s ∈ choices then .ok ⟨s, h⟩ else .error [⟨"Not a valid choice.", some s⟩]
    | _ => .error [⟨"Not a valid choice.", none⟩]
  booleanField
    | .bool b => .ok b
    | _ => .error [⟨"Must be a valid boolean.", none⟩]

theorem readsJson_jsonData : ReadsJson jsonData where
  mapping _ := rfl
  list _ := rfl
  charField {data s} h := by
    cases data with
    | str t =>
      simp only [jsonData] at h ⊢
      split at h
      · cases h
      · rename_i ht
        cases h
        rw [if_neg ht]
    | _ => cases h
  integerMinimum {least data i} h := by
    cases data with
    | num q =>
      simp only [jsonData] at h
      split at h
      · cases h
      · split at h
        · cases h
        · rename_i hq
          cases h
          exact not_lt.mp hq
    | _ => cases h
  integerField {minValue i} h _ := by
    have hleast : ¬ i < minValue.getD i := by
      cases minValue with
      | none => simp
      | some least => exact not_lt.mpr (h least rfl)
    simp [jsonData, hleast]
  choiceField s := by
    simp only [jsonData]
    rw [dif_pos s.2]
  booleanField _ := rfl

theorem scheduled_mem : "SCHEDULED" ∈ ["SCHEDULED", "ADDED", "UNSCHEDULED"] := List.mem_cons_self

theorem outbound : (0 : Int) = 0 ∨ (0 : Int) = 1 := .inl rfl

def runNamed (id vehicleId : String) : ScheduleEntry where
  id := id
  vehicleId := vehicleId
  operatorId := "op-001"
  routeId := "bUCR_L1"
  tripId := "trip"
  directionId := ⟨0, outbound⟩
  shapeId := "hacia_artes"
  scheduleRelationship := ⟨"SCHEDULED", scheduled_mem⟩
  startTime := "1970-01-01T10:00:00+00:00"
  autoConfirm := false
  autoStartMotionAfterS := none

theorem runNamed_start (id vehicleId : String) : ∃ t, Scheduler.parseDt threeStarts
    (.str (runNamed id vehicleId).startTime) = .ok t := ⟨_, rfl⟩

/-- A schedule with one run. -/
def oneRun : ScheduleDocument where
  defaults := some {}
  runs := [runNamed "r-1" "unit-01"]
  named := by simp [runNamed]
  distinct := List.nodup_singleton _

/-- A scheduler that has loaded it. -/
def loaded : Scheduler :=
  { Scheduler.start (.ok (.dict oneRun.items)) with
    entries := [⟨(runNamed "r-1" "unit-01").items, .str "r-1", rfl, Scheduler.validateEntry_ok _
      ((validateEntry_items threeStarts _).mpr (runNamed_start _ _))⟩] }

theorem scheduleDocument_oneRun : scheduleDocument jsonData (.obj [("defaults", .obj []),
    ("runs", .arr [rest (formResult (runNamed "r-1" "unit-01"))])]) =
      (.ok oneRun : Checked ScheduleDocument) := by
  refine scheduleDocument_resubmitted readsJson_jsonData rfl ⟨_, rfl⟩ rfl
    (.cons (shows_formResult _).saved .nil) ?_ ?_
  · simp [oneRun, Canonical, stringsOf, runNamed, jsonData]
  · simp [oneRun, runNamed]

theorem runNamed_sendable {id vehicleId : String} (hid : id ≠ "") (hvehicle : vehicleId ≠ "") :
    Sendable jsonData (runNamed id vehicleId) := by
  constructor
  · intro s hs
    have hne : s ≠ "" := by
      intro hs'
      simp [stringsOf, runNamed, hs', hid.symm, hvehicle.symm] at hs
    simp [jsonData, hne]
  · intro n hn
    cases hn

/-- The first run is given another vehicle, two are added, one is taken away again. -/
def threeEdits : List Edit :=
  [.add (runNamed "r-2" "unit-03"), .add (runNamed "r-3" "unit-04"),
    .edit "r-1" (runNamed "r-1" "unit-02"), .remove "r-3"]

/-- The edited schedule is stored over one that has lost its runs in the meantime. -/
theorem two_runs_saved : ∃ doc' s', doc'.runs = threeEdits.foldl Edit.apply oneRun.runs ∧
    doc'.defaults = some (oneRun.defaults.getD {}) ∧
    scheduleView jsonData threeStarts (some (.start (Scheduler.scheduleOf []))) (.put (.ok
      (buildSaveBody (threeEdits.foldl Doc.edited
        (opened (parsed (fun _ => "") (loaded.snapshot.payload "now"))))))) = (.ok, some s') ∧
    Stored doc' (.start (Scheduler.scheduleOf [])) s' := by
  have hruns : threeEdits.foldl Edit.apply oneRun.runs =
      [runNamed "r-1" "unit-02", runNamed "r-2" "unit-03"] := by
    simp [threeEdits, Edit.apply, oneRun, runNamed]
  have hholds : Holds oneRun loaded := ⟨rfl, rfl⟩
  have hsafe : SafeNumbers oneRun := by
    constructor
    · intro d hd
      cases hd
      decide
    · simp [oneRun, runNamed]
  refine save_stores_edits readsJson_jsonData (fun _ => "") scheduleDocument_oneRun hsafe hholds
    "now" ?_ ?_ ?_ ?_ _
  · intro ed hed e he
    simp only [threeEdits, List.mem_cons, List.not_mem_nil, or_false] at hed
    rcases hed with rfl | rfl | rfl | rfl <;> cases he
    · exact runNamed_sendable (by decide) (by decide)
    · exact runNamed_sendable (by decide) (by decide)
    · exact runNamed_sendable (by decide) (by decide)
  · rw [hruns]
    simp [runNamed]
  · rw [hruns]
    simp [runNamed]
  · rw [hruns]
    simp only [List.mem_cons, List.not_mem_nil, or_false]
    rintro e (rfl | rfl)
    · exact runNamed_start _ _
    · exact runNamed_start _ _

end DatabusSim.ScheduleTab
