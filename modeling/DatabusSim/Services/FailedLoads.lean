import DatabusSim.Services.ScheduleFile

/-!
# Loads that fail

`load` assigns the defaults of the file before its runs go through the validation loop,
so a file that is rejected for one of its runs has already changed them.
-/

namespace DatabusSim.Scheduler

variable (fromisoformat : String → Except PyExc DateTime)

/-- What a call that raised leaves of `s`: the running schedule, as it was. -/
structure SameSchedule (s s' : Scheduler) : Prop where
  entries : s'.entries = s.entries
  statuses : s'.statuses = s.statuses
  runIds : s'.runIds = s.runIds
  defaults : s'.defaults = s.defaults

theorem SameSchedule.refl (s : Scheduler) : SameSchedule s s := ⟨rfl, rfl, rfl, rfl⟩

/-- `yaml.safe_load(...) or {}`, where that is a mapping. -/
def document? : Except PyExc PyVal → Option (List (Key × PyVal))
  | .ok v =>
      match (if v.truthy then v.unrolled else .dict []) with
      | .dict items => some items
      | _ => none
  | .error _ => none

/-- The file is a mapping whose defaults can be read as `defaults`, and one of whose runs
does not pass the loop. -/
structure RejectedAfter (file : Except PyExc PyVal) (defaults : Defaults) : Prop where
  reads : ∃ items, document? file = some items ∧ readDefaults items = .ok defaults ∧
    ∃ exc, ((runsOf items).bind fun runs => checkRuns fromisoformat runs []) = .error exc

variable {fromisoformat}

theorem document?_ok {v : PyVal} {items : List (Key × PyVal)}
    (h : (if v.truthy then v.unrolled else .dict []) = .dict items) :
    document? (.ok v) = some items := by
  simp only [document?, h]

/-- What a load that succeeds has read: a mapping with a list of runs, which are now the
entries. -/
theorem load_reads {s s' : Scheduler}
    (h : s.load fromisoformat = .ok s') :
    ∃ items runs, document? s.file = some items ∧ runsOf items = .ok runs ∧
      s'.entries.map (fun e => PyVal.dict e.fields) = runs := by
  unfold load at h
  cases hfile : s.file with
  | error e =>
    rw [hfile] at h
    cases h
  | ok v =>
    rw [hfile] at h
    simp only at h
    split at h
    · rename_i items htop
      cases hd : readDefaults items with
      | error e =>
        simp only [hd] at h
        cases h
      | ok d =>
        simp only [hd] at h
        cases hruns : runsOf items with
        | error e =>
          simp only [hruns, Except.bind] at h
          cases h
        | ok runs =>
          cases hcheck : checkRuns fromisoformat runs [] with
          | error e =>
            simp only [hruns, Except.bind, hcheck] at h
            cases h
          | ok entries =>
            simp only [hruns, Except.bind, hcheck] at h
            cases h
            exact ⟨items, runs, document?_ok htop, hruns,
              checkRuns_fields hcheck⟩
    · cases h

/-- What a load that raises leaves: the scheduler as it was, or with the defaults of a file
that it rejected. -/
theorem load_error {s : Scheduler} {r : Raised Scheduler}
    (h : s.load fromisoformat = .error r) :
    r.state = s ∨
      ∃ d, RejectedAfter fromisoformat s.file d ∧ r.state = { s with defaults := d } := by
  unfold load at h
  cases hfile : s.file with
  | error e =>
    rw [hfile] at h
    cases h
    exact .inl rfl
  | ok v =>
    rw [hfile] at h
    simp only at h
    split at h
    · rename_i items htop
      cases hd : readDefaults items with
      | error e =>
        simp only [hd] at h
        cases h
        exact .inl rfl
      | ok d =>
        simp only [hd] at h
        cases hruns : (runsOf items).bind fun runs => checkRuns fromisoformat runs [] with
        | error e =>
          simp only [hruns] at h
          cases h
          exact .inr ⟨d, ⟨items, document?_ok htop, hd, e, hruns⟩, rfl⟩
        | ok entries =>
          simp only [hruns] at h
          cases h
    · cases h
      exact .inl rfl

/-- A file that is rejected for one of its runs leaves its defaults behind. -/
theorem load_rejected {s : Scheduler} {d : Defaults}
    (h : RejectedAfter fromisoformat s.file d) :
    ∃ exc, s.load fromisoformat = .error ⟨exc, { s with defaults := d }⟩ := by
  obtain ⟨items, hdoc, hd, exc, hruns⟩ := h.reads
  refine ⟨exc, ?_⟩
  unfold load
  cases hfile : s.file with
  | error e =>
    rw [hfile] at hdoc
    cases hdoc
  | ok v =>
    rw [hfile] at hdoc
    have htop : (if v.truthy then v.unrolled else .dict []) = .dict items := by
      simp only [document?] at hdoc
      split at hdoc
      · rename_i items' htop
        cases hdoc
        exact htop
      · cases hdoc
    simp only [htop, hd, hruns]

/-- `reload` raises what `load` raises, and leaves what it leaves. -/
theorem reload_error {s : Scheduler} {running : Bool} {r : Raised Scheduler} :
    s.reload fromisoformat running = .error r ↔ s.load fromisoformat = .error r := by
  unfold reload
  cases s.load fromisoformat with
  | error e => exact Iff.rfl
  | ok s' =>
    constructor
    · intro h
      cases h
    · intro h
      cases h

theorem failed_load_unchanged_iff (s : Scheduler) :
    (∀ running r, s.load fromisoformat = .error r ∨ s.reload fromisoformat running = .error r →
        SameSchedule s r.state) ↔
      ∀ d, RejectedAfter fromisoformat s.file d → d = s.defaults := by
  constructor
  · intro h d hd
    obtain ⟨exc, hload⟩ := load_rejected hd
    exact (h false _ (.inl hload)).defaults
  · intro h running r hr
    rw [reload_error, or_self] at hr
    rcases load_error hr with hstate | ⟨d, hd, hstate⟩
    · rw [hstate]
      exact .refl s
    · rw [hstate, h d hd]
      exact .refl s

/-- A file with a lead time of two minutes and a run without an id. -/
def unnamedRun : Except PyExc PyVal :=
  .ok (.dict [(.str "defaults", .dict [(.str "pre_run_idle_s", .int 120)]),
    (.str "runs", .list [.dict [(.str "vehicle_id", .str "bus-1")]])])

/-- The rejected file changes the lead time of the schedule that goes on running. -/
theorem failed_load_changes_defaults :
    ∃ r, (start unnamedRun).load noTimestamp = .error r ∧
      r.state.defaults.preRunIdleS = 120 ∧ ¬ SameSchedule (start unnamedRun) r.state := by
  refine ⟨_, rfl, rfl, ?_⟩
  intro h
  have hidle : (120 : Int) = 30 := congrArg Defaults.preRunIdleS h.defaults
  omega

end DatabusSim.Scheduler
