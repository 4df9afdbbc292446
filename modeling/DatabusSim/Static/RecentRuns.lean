import DatabusSim.Api.RunView
import DatabusSim.Lib.Transition
import DatabusSim.Static.SimApi

/-!
# The recent runs of the browser

`static/tabs/runs.js` and `static/tabs/operator.js` keep the recent runs in one item of
`localStorage`. Adding a run and updating one read the list and write it back at once;
`clearCompleted` reads it, asks the simulator about each run that is not over, and writes what it
keeps of the list it read once all are answered.
-/

namespace DatabusSim.RecentRuns

open Transition SimApi

/-! ## The stored list -/

/-- What `addRecentRun` is given. -/
structure RunInfo where
  runId : String
  vehicleId : String
  tripId : String
  routeId : String
  createdAt : String
  deriving DecidableEq

/-- An entry of the list; a state that is `null` or missing is `none`. -/
structure Run extends RunInfo where
  lifecycleState : Option String
  deriving DecidableEq

/-- `TERMINAL_STATES.has(state)`. -/
def isTerminal (state : Option String) : Bool :=
  ["Completed", "Cancelled", "Interrupted", "Short Turned"].any fun s => state = some s

/-- The list in `localStorage`, newest first, with one entry for a run. -/
structure Stored where
  runs : List Run
  distinct : (runs.map fun r => r.runId).Nodup

/-- `runs.find(r => r.run_id === runId)` is given another state. -/
def setFirst (runId : String) (state : Option String) : List Run → List Run
  | [] => []
  | r :: runs =>
      if r.runId = runId then { r with lifecycleState := state } :: runs
      else r :: setFirst runId state runs

theorem setFirst_ids (runId : String) (state : Option String) (runs : List Run) :
    (setFirst runId state runs).map (fun r => r.runId) = runs.map fun r => r.runId := by
  induction runs with
  | nil => rfl
  | cons r runs ih =>
    rw [setFirst]
    split
    · rfl
    · rw [List.map_cons, ih, List.map_cons]

namespace Stored

def ids (s : Stored) : List String := s.runs.map fun r => r.runId

/-- `addRecentRun`: a run that is there already is left as it is. -/
def addRecentRun (s : Stored) (info : RunInfo) : Stored :=
  if h : info.runId ∈ s.ids then s
  else
    { runs := { info with lifecycleState := some "Initialized" } :: s.runs
      distinct := List.nodup_cons.mpr ⟨h, s.distinct⟩ }

def updateRecentRunState (s : Stored) (runId : String) (state : Option String) : Stored where
  runs := setFirst runId state s.runs
  distinct := by
    rw [setFirst_ids]
    exact s.distinct

end Stored

/-! ## Clearing -/

/-- How a request about a run was answered. -/
inductive Asked where
  /-- By the view, which asked databus where it has a client; `body` is the text of its answer
  where that is not a fixed one. -/
  | view (databus : Option Http) (body : String)
  /-- By something before the view, or not at all. -/
  | elsewhere (reply : Reply)

def notReadyText : String := "\x7b\"error\":\"databus client not ready\"\x7d"

def detailText (body : String) : RunDetail → String
  | .notReady => notReadyText
  | _ => body

theorem status_threeDigits (d : RunDetail) : 100 ≤ d.status ∧ d.status < 1000 := by
  cases d <;> exact ⟨by simp [RunDetail.status], by simp [RunDetail.status]⟩

/-- The reply that the browser gets. -/
def Asked.reply (runId : String) : Asked → Reply
  | .view databus body =>
      let detail := runDetailView databus runId
      .response detail.status (status_threeDigits detail) (detailText body detail)
  | .elsewhere reply => reply

/-- The check of a run in `clearCompleted`: it stays unless the message holds `HTTP 404`. -/
def stays (runId : String) (asked : Asked) : Bool :=
  match getRun runId (asked.reply runId) with
  | .ok () => true
  | .error message => !includes message "HTTP 404"

/-- `clearCompleted` while it waits: the list it has read, and the check of each entry, `none`
while the request is not answered. `stored` is the list as the others see it. -/
structure Clearing where
  stored : Stored
  runs : Stored
  checks : List (Option Bool)

/-- `clearCompleted` up to its `await`: nothing is asked about a run that is over. -/
def start (stored : Stored) : Clearing where
  stored
  runs := stored
  checks := stored.runs.map fun r => if isTerminal r.lifecycleState then some false else none

/-- What happens while it waits. -/
inductive Event where
  | addRecentRun (info : RunInfo)
  | updateRecentRunState (runId : String) (state : Option String)
  /-- The request about entry `i` is answered. -/
  | answer (i : Nat) (asked : Asked)

def step (c : Clearing) : Event → Option Clearing
  | .addRecentRun info => some { c with stored := c.stored.addRecentRun info }
  | .updateRecentRunState runId state =>
      some { c with stored := c.stored.updateRecentRunState runId state }
  | .answer i asked =>
      match c.runs.runs[i]?, c.checks[i]? with
      | some r, some none => some { c with checks := c.checks.set i (some (stays r.runId asked)) }
      | _, _ => none

/-- `runs.filter((_, i) => checks[i])`. -/
def kept : List Run → List (Option Bool) → List Run
  | r :: runs, check :: checks =>
      if check = some true then r :: kept runs checks else kept runs checks
  | _, _ => []

theorem kept_sublist (runs : List Run) (checks : List (Option Bool)) :
    (kept runs checks).Sublist runs := by
  induction runs generalizing checks with
  | nil => exact .slnil
  | cons r runs ih =>
    cases checks with
    | nil => exact List.nil_sublist _
    | cons check checks =>
      rw [kept]
      split
      · exact (ih checks).cons_cons r
      · exact (ih checks).cons r

/-- The rest of `clearCompleted`, once `Promise.all` has every check: the list is written. -/
def Clearing.finish (c : Clearing) : Option Stored :=
  if c.checks.all Option.isSome then
    some
      { runs := kept c.runs.runs c.checks
        distinct := c.runs.distinct.sublist ((kept_sublist _ _).map _) }
  else none

/-! ## What an answer is taken for -/

/-- Databus itself answers that it does not know the run. -/
def Asked.NotFound : Asked → Prop
  | .view (some http) _ => DatabusClient.NotFound http
  | _ => False

/-- The answers that end in a message with `HTTP 404`: of databus a 404, and every failure that
leaves the view without a field; otherwise an error whose status or text says so. -/
def Asked.TakenForGone : Asked → Prop
  | .view none _ => False
  | .view (some http) body =>
      DatabusClient.NotFound http ∨ DatabusClient.Emptied http ∨
        ((∃ exc, DatabusClient.getRunHash http = .error exc) ∧ includes body "HTTP 404" = true)
  | .elsewhere (.response status _ text) =>
      DatabusClient.isSuccess status = false ∧ (status = 404 ∨ includes text "HTTP 404" = true)
  | .elsewhere (.rejected message) => includes message "HTTP 404" = true

theorem Asked.NotFound.takenForGone {asked : Asked} (h : asked.NotFound) : asked.TakenForGone := by
  match asked, h with
  | .view (some http) _, h => exact .inl h

theorem stays_response {runId : String} {status : Nat} (hstatus : 100 ≤ status ∧ status < 1000)
    {text : String} :
    stays runId (.elsewhere (.response status hstatus text)) = true ↔
      ¬ (DatabusClient.isSuccess status = false ∧
        (status = 404 ∨ includes text "HTTP 404" = true)) := by
  have hmessage := includes_errorMessage runId hstatus text
  simp only [stays, Asked.reply, getRun]
  cases DatabusClient.isSuccess status with
  | true => simp
  | false => simp [← hmessage]

theorem stays_view {runId : String} {databus : Option Http} {body : String} :
    stays runId (.view databus body) = true ↔
      ¬ (DatabusClient.isSuccess (runDetailView databus runId).status = false ∧
        ((runDetailView databus runId).status = 404 ∨
          includes (detailText body (runDetailView databus runId)) "HTTP 404" = true)) :=
  stays_response (status_threeDigits (runDetailView databus runId))

theorem stays_iff {runId : String} {asked : Asked} :
    stays runId asked = true ↔ ¬ asked.TakenForGone := by
  match asked with
  | .elsewhere (.response status hstatus text) => exact stays_response hstatus
  | .elsewhere (.rejected message) => simp [stays, Asked.reply, getRun, Asked.TakenForGone]
  | .view none body =>
    rw [stays_view]
    have htext : includes (detailText body .notReady) "HTTP 404" = false := by
      show includes notReadyText "HTTP 404" = false
      decide
    simp [runDetailView, RunDetail.status, htext, Asked.TakenForGone]
  | .view (some http) body =>
    rw [stays_view, Asked.TakenForGone, ← or_assoc, ← DatabusClient.getRunHash_empty_iff]
    cases hhash : DatabusClient.getRunHash http with
    | error exc =>
      have hview : runDetailView (some http) runId = .failed exc := by
        simp only [runDetailView, hhash]
      simp [hview, RunDetail.status, detailText, DatabusClient.isSuccess]
    | ok fields =>
      cases fields with
      | nil =>
        have hview : runDetailView (some http) runId = .notFound runId := by
          simp only [runDetailView, hhash]
        simp [hview, RunDetail.status, DatabusClient.isSuccess]
      | cons e fields =>
        have hview : (runDetailView (some http) runId).status = 200 := by
          simp only [runDetailView, hhash, RunDetail.status]
        simp [hview, DatabusClient.isSuccess]

/-! ## What happens while it waits -/

/-- The state of a run after an event. -/
def reported (runId : String) (state : Option String) : Event → Option String
  | .updateRecentRunState id state' => if id = runId then state' else state
  | _ => state

/-- The state that the events leave a run in: the one that was reported last. -/
def stateAfter (es : List Event) (r : Run) : Option String :=
  es.foldl (reported r.runId) r.lifecycleState

theorem mem_setFirst {runId : String} (state : Option String) {runs : List Run}
    (hdistinct : (runs.map fun r => r.runId).Nodup) {r : Run} (hr : r ∈ runs) :
    { r with lifecycleState := if runId = r.runId then state else r.lifecycleState } ∈
      setFirst runId state runs := by
  induction runs with
  | nil => cases hr
  | cons r₀ runs ih =>
    rw [List.map_cons, List.nodup_cons] at hdistinct
    rw [setFirst]
    rcases List.mem_cons.mp hr with rfl | hr
    · by_cases hid : r.runId = runId
      · rw [if_pos hid, if_pos hid.symm]
        exact List.mem_cons_self
      · rw [if_neg hid, if_neg (Ne.symm hid)]
        exact List.mem_cons_self
    · by_cases hid : r₀.runId = runId
      · -- the first entry of the run is its only one
        have hne : ¬ runId = r.runId := by
          intro heq
          apply hdistinct.1
          rw [hid, heq]
          exact List.mem_map_of_mem hr
        rw [if_pos hid, if_neg hne]
        exact List.mem_cons_of_mem _ hr
      · rw [if_neg hid]
        exact List.mem_cons_of_mem _ (ih hdistinct.2 hr)

section Run

variable {c c' : Clearing} {ev : Event} {es : List Event}

theorem step_stored (hs : step c ev = some c') {r : Run} (hr : r ∈ c.stored.runs) :
    { r with lifecycleState := reported r.runId r.lifecycleState ev } ∈ c'.stored.runs := by
  cases ev with
  | addRecentRun info =>
    cases hs
    show r ∈ (c.stored.addRecentRun info).runs
    unfold Stored.addRecentRun
    split
    · exact hr
    · exact List.mem_cons_of_mem _ hr
  | updateRecentRunState runId state =>
    cases hs
    exact mem_setFirst state c.stored.distinct hr
  | answer i asked =>
    simp only [step] at hs
    split at hs
    · cases hs
      exact hr
    · cases hs

/-- A run that is stored stays stored, in the state that was reported last. -/
theorem run_stored (hr : System.run step c es = some c') {r : Run} (hmem : r ∈ c.stored.runs) :
    { r with lifecycleState := stateAfter es r } ∈ c'.stored.runs := by
  induction es generalizing c r with
  | nil =>
    cases hr
    exact hmem
  | cons ev es ih =>
    obtain ⟨m, hm, hr⟩ := run_cons_some.mp hr
    exact ih hr (step_stored hm hmem)

theorem step_ids (hs : step c ev = some c') {runId : String} :
    runId ∈ c'.stored.ids ↔
      runId ∈ c.stored.ids ∨ ∃ info, ev = .addRecentRun info ∧ info.runId = runId := by
  cases ev with
  | addRecentRun info =>
    cases hs
    show runId ∈ (c.stored.addRecentRun info).ids ↔ _
    unfold Stored.addRecentRun
    split
    · rename_i hthere
      constructor
      · exact .inl
      · intro h
        rcases h with h | ⟨info', hinfo, rfl⟩
        · exact h
        · cases hinfo
          exact hthere
    · simp [Stored.ids, or_comm, eq_comm]
  | updateRecentRunState id state =>
    cases hs
    show runId ∈ (setFirst id state c.stored.runs).map _ ↔ _
    rw [setFirst_ids]
    simp [Stored.ids]
  | answer i asked =>
    simp only [step] at hs
    split at hs
    · cases hs
      simp
    · cases hs

/-- The runs of the list are those it had and those that were added. -/
theorem run_ids (hr : System.run step c es = some c') {runId : String} :
    runId ∈ c'.stored.ids ↔
      runId ∈ c.stored.ids ∨ ∃ info, .addRecentRun info ∈ es ∧ info.runId = runId := by
  induction es generalizing c with
  | nil =>
    cases hr
    simp
  | cons ev es ih =>
    obtain ⟨m, hm, hr⟩ := run_cons_some.mp hr
    rw [ih hr, step_ids hm]
    simp only [List.mem_cons, or_assoc, or_and_right, exists_or]
    simp only [eq_comm]

/-! ## The checks -/

theorem step_answer {i : Nat} {asked : Asked} (hs : step c (.answer i asked) = some c') :
    ∃ r, c.runs.runs[i]? = some r ∧ c.checks[i]? = some none ∧
      c' = { c with checks := c.checks.set i (some (stays r.runId asked)) } := by
  simp only [step] at hs
  split at hs
  · rename_i r hr hcheck
    cases hs
    exact ⟨r, hr, hcheck, rfl⟩
  · cases hs

theorem step_runs (hs : step c ev = some c') : c'.runs = c.runs := by
  cases ev with
  | answer i asked =>
    obtain ⟨r, -, -, rfl⟩ := step_answer hs
    rfl
  | _ =>
    cases hs
    rfl

theorem step_length (hs : step c ev = some c') : c'.checks.length = c.checks.length := by
  cases ev with
  | answer i asked =>
    obtain ⟨r, -, -, rfl⟩ := step_answer hs
    exact List.length_set
  | _ =>
    cases hs
    rfl

/-- A check that is in is not made again. -/
theorem step_checked (hs : step c ev = some c') {i : Nat} {b : Bool}
    (hi : c.checks[i]? = some (some b)) : c'.checks[i]? = some (some b) := by
  cases ev with
  | answer j asked =>
    obtain ⟨r, -, hj, rfl⟩ := step_answer hs
    have hne : j ≠ i := by
      intro heq
      rw [heq, hi] at hj
      cases hj
    show (c.checks.set j _)[i]? = _
    rw [List.getElem?_set_ne hne]
    exact hi
  | _ =>
    cases hs
    exact hi

/-- A check comes in with the answer to it only. -/
theorem step_checks (hs : step c ev = some c') {i : Nat} {b : Bool}
    (hi : c'.checks[i]? = some (some b)) :
    c.checks[i]? = some (some b) ∨ ∃ asked, ev = .answer i asked := by
  cases ev with
  | answer j asked =>
    obtain ⟨r, -, -, rfl⟩ := step_answer hs
    by_cases heq : j = i
    · exact .inr ⟨asked, by rw [heq]⟩
    · left
      rw [← hi]
      exact (List.getElem?_set_ne heq).symm
  | _ =>
    cases hs
    exact .inl hi

theorem run_runs (hr : System.run step c es = some c') :
    c'.runs = c.runs ∧ c'.checks.length = c.checks.length :=
  run_invariant (I := fun m => m.runs = c.runs ∧ m.checks.length = c.checks.length)
    (fun _ _ _ h hs => ⟨(step_runs hs).trans h.1, (step_length hs).trans h.2⟩) ⟨rfl, rfl⟩ hr

theorem run_checked (hr : System.run step c es = some c') {i : Nat} {b : Bool}
    (hi : c.checks[i]? = some (some b)) : c'.checks[i]? = some (some b) :=
  run_invariant (I := fun m => m.checks[i]? = some (some b))
    (fun _ _ _ h hs => step_checked hs h) hi hr

theorem run_checks (hr : System.run step c es = some c') {i : Nat} {b : Bool}
    (hi : c'.checks[i]? = some (some b)) :
    c.checks[i]? = some (some b) ∨ ∃ asked, .answer i asked ∈ es := by
  induction es generalizing c with
  | nil =>
    cases hr
    exact .inl hi
  | cons ev es ih =>
    obtain ⟨m, hm, hr⟩ := run_cons_some.mp hr
    rcases ih hr with h | ⟨asked, h⟩
    · rcases step_checks hm h with h | ⟨asked, rfl⟩
      · exact .inl h
      · exact .inr ⟨asked, List.mem_cons_self⟩
    · exact .inr ⟨asked, List.mem_cons_of_mem _ h⟩

/-- Every answer that has come is the check of its entry. -/
theorem run_answer (hr : System.run step c es = some c') {i : Nat} {asked : Asked}
    (hmem : .answer i asked ∈ es) {r : Run} (hi : c.runs.runs[i]? = some r) :
    c'.checks[i]? = some (some (stays r.runId asked)) := by
  induction es generalizing c with
  | nil => cases hmem
  | cons ev es ih =>
    obtain ⟨m, hm, hr⟩ := run_cons_some.mp hr
    rcases List.mem_cons.mp hmem with rfl | hmem
    · obtain ⟨r', hr', hcheck, rfl⟩ := step_answer hm
      cases hi.symm.trans hr'
      have hlt : i < c.checks.length := (List.getElem?_eq_some_iff.mp hcheck).1
      apply run_checked hr
      exact List.getElem?_set_self hlt
    · apply ih hr hmem
      rw [step_runs hm]
      exact hi

/-- Only an entry that is asked about is answered for. -/
theorem run_asked (hr : System.run step c es = some c') {i : Nat} {asked : Asked}
    (hmem : .answer i asked ∈ es) : c.checks[i]? = some none := by
  induction es generalizing c with
  | nil => cases hmem
  | cons ev es ih =>
    obtain ⟨m, hm, hr⟩ := run_cons_some.mp hr
    rcases List.mem_cons.mp hmem with rfl | hmem
    · obtain ⟨r, -, hcheck, -⟩ := step_answer hm
      exact hcheck
    · have hopen := ih hr hmem
      match hi : c.checks[i]? with
      | some none => rfl
      | some (some b) =>
        have hchecked := step_checked hm hi
        rw [hopen] at hchecked
        cases hchecked
      | none =>
        have hlt := (List.getElem?_eq_some_iff.mp hopen).1
        have hge := List.getElem?_eq_none_iff.mp hi
        have hlength := step_length hm
        omega

end Run

/-! ## What clearing loses -/

theorem mem_kept {runs : List Run} {checks : List (Option Bool)} {r : Run} :
    r ∈ kept runs checks ↔ ∃ i : Nat, runs[i]? = some r ∧ checks[i]? = some (some true) := by
  induction runs generalizing checks with
  | nil => simp [kept]
  | cons r₀ runs ih =>
    cases checks with
    | nil => simp [kept]
    | cons check checks =>
      have hrest : (∃ i : Nat, (r₀ :: runs)[i]? = some r ∧
            (check :: checks)[i]? = some (some true)) ↔
          r₀ = r ∧ check = some true ∨
            ∃ i : Nat, runs[i]? = some r ∧ checks[i]? = some (some true) := by
        constructor
        · intro h
          obtain ⟨i, hr, hi⟩ := h
          cases i with
          | zero => exact .inl ⟨by simpa using hr, by simpa using hi⟩
          | succ i => exact .inr ⟨i, by simpa using hr, by simpa using hi⟩
        · intro h
          rcases h with ⟨rfl, rfl⟩ | ⟨i, hr, hi⟩
          · exact ⟨0, rfl, rfl⟩
          · exact ⟨i + 1, by simpa using hr, by simpa using hi⟩
      rw [hrest, kept, ← ih]
      split
      · simp [*, eq_comm]
      · simp [*]

namespace Stored

theorem eq_of_runId {s : Stored} {r r' : Run} (hr : r ∈ s.runs) (hr' : r' ∈ s.runs)
    (h : r.runId = r'.runId) : r = r' :=
  List.inj_on_of_nodup_map s.distinct hr hr' h

theorem eq_of_getElem? {s : Stored} {i j : Nat} {r : Run} (hi : s.runs[i]? = some r)
    (hj : s.runs[j]? = some r) : i = j := by
  have hdistinct : s.runs.Nodup := s.distinct.of_map
  obtain ⟨hlti, hgeti⟩ := List.getElem?_eq_some_iff.mp hi
  obtain ⟨hltj, hgetj⟩ := List.getElem?_eq_some_iff.mp hj
  exact (hdistinct.getElem_inj_iff).mp (hgeti.trans hgetj.symm)

end Stored

/-- Against the list as it was when it was clicked: `before` is the list when the others have done
`es`, `after` the list that is written then. -/
structure LosesNothing (clicked : Stored) (es : List Event) (before after : Stored) : Prop where
  /-- Every run that was added meanwhile is there. -/
  added : ∀ r ∈ before.runs, r.runId ∉ clicked.ids → r ∈ after.runs
  /-- Every run that is there has the state that was stored last. -/
  updated : ∀ r ∈ before.runs, ∀ r' ∈ after.runs, r'.runId = r.runId →
    r'.lifecycleState = r.lifecycleState
  /-- A run that is gone is over in the storage, or databus does not know it. -/
  removed : ∀ (i : Nat) (r : Run), clicked.runs[i]? = some r → r.runId ∉ after.ids →
    ∀ stored ∈ before.runs, stored.runId = r.runId →
      isTerminal stored.lifecycleState = true ∨ ∃ asked, .answer i asked ∈ es ∧ asked.NotFound

/-- No run is added meanwhile, and none that was over has been reported to go on; and for each run
that is asked about, databus answers that it does not know it, or the answer is taken for that and
the run is over by then, or it is not and the state last reported is the one it had. -/
structure Undisturbed (clicked : Stored) (es : List Event) : Prop where
  noneAdded : ∀ info, .addRecentRun info ∈ es → info.runId ∈ clicked.ids
  stillOver : ∀ r ∈ clicked.runs, isTerminal r.lifecycleState = true →
    isTerminal (stateAfter es r) = true
  answered : ∀ (i : Nat) (r : Run), clicked.runs[i]? = some r →
    isTerminal r.lifecycleState = false →
      ∃ asked, .answer i asked ∈ es ∧
        (asked.NotFound ∨ (asked.TakenForGone ∧ isTerminal (stateAfter es r) = true) ∨
          (¬ asked.TakenForGone ∧ stateAfter es r = r.lifecycleState))

section Finish

variable {clicked after : Stored} {es : List Event} {c : Clearing}

theorem start_checks {i : Nat} {r : Run} (hi : clicked.runs[i]? = some r) :
    (start clicked).checks[i]? =
      some (if isTerminal r.lifecycleState then some false else none) := by
  simp [start, hi]

/-- What is written has every check, and each of its entries stands or falls with its own. -/
theorem finish_entry (hr : System.run step (start clicked) es = some c)
    (hfinish : c.finish = some after) {i : Nat} {r : Run} (hi : clicked.runs[i]? = some r) :
    ∃ b, c.checks[i]? = some (some b) ∧ (r ∈ after.runs ↔ b = true) := by
  obtain ⟨hruns, hlength⟩ := run_runs hr
  have hruns : c.runs = clicked := hruns
  unfold Clearing.finish at hfinish
  split at hfinish
  · rename_i hall
    cases hfinish
    have hlt : i < c.checks.length := by
      rw [hlength]
      simpa [start] using (List.getElem?_eq_some_iff.mp hi).1
    obtain ⟨b, hb⟩ := Option.isSome_iff_exists.mp
      (List.all_eq_true.mp hall c.checks[i] (List.getElem_mem hlt))
    have hcheck : c.checks[i]? = some (some b) := by
      rw [List.getElem?_eq_getElem hlt, hb]
    refine ⟨b, hcheck, ?_⟩
    show r ∈ kept c.runs.runs c.checks ↔ _
    rw [mem_kept, hruns]
    constructor
    · intro h
      obtain ⟨j, hj, htrue⟩ := h
      rw [← Stored.eq_of_getElem? hi hj, hcheck] at htrue
      simpa using htrue
    · intro h
      exact ⟨i, hi, by rw [hcheck, h]⟩
  · cases hfinish

theorem finish_subset (hr : System.run step (start clicked) es = some c)
    (hfinish : c.finish = some after) {r : Run} (hmem : r ∈ after.runs) : r ∈ clicked.runs := by
  have hruns : c.runs = clicked := (run_runs hr).1
  unfold Clearing.finish at hfinish
  split at hfinish
  · cases hfinish
    rw [← hruns]
    exact (kept_sublist _ _).subset hmem
  · cases hfinish

/-- A run that was not over has been answered for, and stays by that answer; the others go. -/
theorem finish_asked (hr : System.run step (start clicked) es = some c)
    (hfinish : c.finish = some after) {i : Nat} {r : Run} (hi : clicked.runs[i]? = some r) :
    (isTerminal r.lifecycleState = true ∧ r ∉ after.runs ∧ ∀ asked, .answer i asked ∉ es) ∨
      isTerminal r.lifecycleState = false ∧ (∃ asked, .answer i asked ∈ es) ∧
        ∀ asked, .answer i asked ∈ es → (r ∈ after.runs ↔ ¬ asked.TakenForGone) := by
  obtain ⟨b, hb, hmem⟩ := finish_entry hr hfinish hi
  have hstart := start_checks hi
  cases hterminal : isTerminal r.lifecycleState with
  | true =>
    rw [hterminal, if_pos rfl] at hstart
    have hsame := hb.symm.trans (run_checked hr hstart)
    simp only [Option.some.injEq] at hsame
    refine .inl ⟨rfl, by rw [hmem, hsame]; exact Bool.false_ne_true, fun asked hasked => ?_⟩
    have hopen := run_asked hr hasked
    rw [hstart] at hopen
    cases hopen
  | false =>
    rw [hterminal, if_neg Bool.false_ne_true] at hstart
    refine .inr ⟨rfl, ?_, ?_⟩
    · rcases run_checks hr hb with h | h
      · rw [hstart] at h
        cases h
      · exact h
    · intro asked hasked
      have hsame := hb.symm.trans (run_answer hr hasked hi)
      simp only [Option.some.injEq] at hsame
      rw [hmem, hsame, stays_iff]

theorem not_mem_after (hr : System.run step (start clicked) es = some c)
    (hfinish : c.finish = some after) {r : Run} (hmem : r ∈ clicked.runs) :
    r.runId ∉ after.ids ↔ r ∉ after.runs := by
  apply not_congr
  constructor
  · intro h
    obtain ⟨r', hr', hid⟩ := List.mem_map.mp h
    rw [← Stored.eq_of_runId (finish_subset hr hfinish hr') hmem hid]
    exact hr'
  · intro h
    exact List.mem_map_of_mem h

/-- Clearing loses nothing else if and only if it is not disturbed: no run is added and no state
of a run it keeps is changed while it waits, no run it takes for over goes on, and no failure is
taken for a 404 of databus. -/
theorem clear_loses_nothing_iff (hr : System.run step (start clicked) es = some c)
    (hfinish : c.finish = some after) :
    LosesNothing clicked es c.stored after ↔ Undisturbed clicked es := by
  constructor
  · intro h
    -- what is gone is over in the state that was reported last, or not known
    have hgone : ∀ {i : Nat} {r : Run}, clicked.runs[i]? = some r → r ∉ after.runs →
        isTerminal (stateAfter es r) = true ∨ ∃ asked, .answer i asked ∈ es ∧ asked.NotFound := by
      intro i r hi hgone
      have hmem : r ∈ clicked.runs := List.mem_of_getElem? hi
      exact h.removed i r hi ((not_mem_after hr hfinish hmem).mpr hgone) _ (run_stored hr hmem) rfl
    refine ⟨fun info hinfo => ?_, fun r hmem hover => ?_, fun i r hi hactive => ?_⟩
    · by_contra hnew
      have hthere : info.runId ∈ c.stored.ids := (run_ids hr).mpr (.inr ⟨info, hinfo, rfl⟩)
      obtain ⟨r, hmem, hid⟩ := List.mem_map.mp hthere
      have hkept : r ∈ after.runs := h.added r hmem (by rw [hid]; exact hnew)
      apply hnew
      rw [← hid]
      exact List.mem_map_of_mem (finish_subset hr hfinish hkept)
    · obtain ⟨i, hi⟩ := List.mem_iff_getElem?.mp hmem
      rcases finish_asked hr hfinish hi with ⟨-, hout, hnever⟩ | ⟨hactive, -⟩
      · rcases hgone hi hout with hover | ⟨asked, hasked, -⟩
        · exact hover
        · exact absurd hasked (hnever asked)
      · rw [hover] at hactive
        cases hactive
    · have hmem : r ∈ clicked.runs := List.mem_of_getElem? hi
      rcases finish_asked hr hfinish hi with ⟨hover, -⟩ | ⟨-, ⟨asked, hasked⟩, hstays⟩
      · rw [hover] at hactive
        cases hactive
      · by_cases hkept : r ∈ after.runs
        · have hsame := h.updated _ (run_stored hr hmem) r hkept rfl
          exact ⟨asked, hasked, .inr (.inr ⟨(hstays asked hasked).mp hkept, hsame.symm⟩)⟩
        · rcases hgone hi hkept with hover | ⟨asked', hasked', hnotFound⟩
          · have htaken : asked.TakenForGone := by
              by_contra hnot
              exact hkept ((hstays asked hasked).mpr hnot)
            exact ⟨asked, hasked, .inr (.inl ⟨htaken, hover⟩)⟩
          · exact ⟨asked', hasked', .inl hnotFound⟩
  · intro h
    constructor
    · intro r hmem hnew
      rcases (run_ids hr).mp (List.mem_map_of_mem hmem) with hold | ⟨info, hinfo, hid⟩
      · exact absurd hold hnew
      · exact absurd (hid ▸ h.noneAdded info hinfo) hnew
    · intro r hmem r' hkept hid
      have hclicked : r' ∈ clicked.runs := finish_subset hr hfinish hkept
      obtain ⟨i, hi⟩ := List.mem_iff_getElem?.mp hclicked
      rcases finish_asked hr hfinish hi with ⟨-, hgone, -⟩ | ⟨hactive, -, hstays⟩
      · exact absurd hkept hgone
      · obtain ⟨asked, hasked, hanswer⟩ := h.answered i r' hi hactive
        have hnot := (hstays asked hasked).mp hkept
        rcases hanswer with hnotFound | ⟨htaken, -⟩ | ⟨-, hsame⟩
        · exact absurd hnotFound.takenForGone hnot
        · exact absurd htaken hnot
        · have hstored : { r' with lifecycleState := stateAfter es r' } = r :=
            Stored.eq_of_runId (run_stored hr hclicked) hmem hid
          rw [← hstored]
          exact hsame.symm
    · intro i r hi hgone stored hmem hid
      have hclicked : r ∈ clicked.runs := List.mem_of_getElem? hi
      have hstored : { r with lifecycleState := stateAfter es r } = stored :=
        Stored.eq_of_runId (run_stored hr hclicked) hmem hid.symm
      rw [← hstored]
      rcases finish_asked hr hfinish hi with ⟨hover, -⟩ | ⟨hactive, -, hstays⟩
      · exact .inl (h.stillOver r hclicked hover)
      · obtain ⟨asked, hasked, hanswer⟩ := h.answered i r hi hactive
        rcases hanswer with hnotFound | ⟨-, hover⟩ | ⟨hkept, -⟩
        · exact .inr ⟨asked, hasked, hnotFound⟩
        · exact .inl hover
        · have hthere := (hstays asked hasked).mpr hkept
          exact absurd hthere ((not_mem_after hr hfinish hclicked).mp hgone)

end Finish

/-! ## Two clearings -/

def infoOf (runId : String) : RunInfo where
  runId
  vehicleId := "unit-01"
  tripId := "t1"
  routeId := "r1"
  createdAt := "2026-06-15T13:00:00.000Z"

/-- A run in progress and one that is over. -/
def twoRuns : Stored where
  runs :=
    [{ infoOf "run-1" with lifecycleState := some "In Progress" },
      { infoOf "run-2" with lifecycleState := some "Completed" }]
  distinct := by decide

/-- Databus answers the state of the run. -/
def stateAnswer : Asked :=
  .view (some (.response 200 (some (.dict [(.str "run_lifecycle_state", .str "In Progress")])))) ""

/-- Databus answers a 503, which the view makes a 404 of. -/
def unavailable : Asked := .view (some (.response 503 none)) ""

/-- The run in progress alone. -/
def oneRun : Stored where
  runs := [{ infoOf "run-1" with lifecycleState := some "In Progress" }]
  distinct := by decide

theorem stateAnswer_not_gone : ¬ stateAnswer.TakenForGone := by
  intro h
  rcases h with h | ⟨-, h⟩ | ⟨-, h⟩
  · have hstatus : 200 = 404 := h
    omega
  · rcases h with h | ⟨-, h⟩
    · exact absurd h (by decide)
    · cases h
  · exact absurd h (by decide)

theorem stays_stateAnswer (runId : String) : stays runId stateAnswer = true :=
  stays_iff.mpr stateAnswer_not_gone

theorem clear_two_runs : LosesNothing twoRuns [.answer 0 stateAnswer] twoRuns oneRun := by
  have hrun : System.run step (start twoRuns) [.answer 0 stateAnswer] =
      some { start twoRuns with checks := [some true, some false] } := by
    show some { start twoRuns with checks := [some (stays "run-1" stateAnswer), some false] } = _
    rw [stays_stateAnswer]
  refine (clear_loses_nothing_iff hrun rfl).mpr ⟨by simp, fun r _ hover => hover, ?_⟩
  intro i r hi hactive
  match i with
  | 0 =>
    cases hi
    exact ⟨stateAnswer, List.mem_singleton.mpr rfl, .inr (.inr ⟨stateAnswer_not_gone, rfl⟩)⟩
  | 1 =>
    cases hi
    cases hactive
  | i + 2 => cases hi

/-- A run is added and a state stored before databus answers. -/
def meanwhile : List Event :=
  [.addRecentRun (infoOf "run-3"), .updateRecentRunState "run-1" (some "No Signal"),
    .answer 0 stateAnswer]

/-- A run that is added and a state that is stored while `clearCompleted` waits are lost, and so
is a run in progress that databus answers a 503 for. -/
theorem clear_loses_runs :
    (∃ c, System.run step (start twoRuns) meanwhile = some c ∧ c.finish = some oneRun ∧
      ¬ LosesNothing twoRuns meanwhile c.stored oneRun) ∧
    ∃ c after, System.run step (start oneRun) [.answer 0 unavailable] = some c ∧
      c.finish = some after ∧ after.runs = [] ∧
      ¬ LosesNothing oneRun [.answer 0 unavailable] c.stored after := by
  constructor
  · refine ⟨{ start twoRuns with
      stored := (twoRuns.addRecentRun (infoOf "run-3")).updateRecentRunState "run-1"
        (some "No Signal")
      checks := [some true, some false] }, ?_, rfl, ?_⟩
    · have hrun : System.run step (start twoRuns) meanwhile =
          some { start twoRuns with
            stored := (twoRuns.addRecentRun (infoOf "run-3")).updateRecentRunState "run-1"
              (some "No Signal")
            checks := [some (stays "run-1" stateAnswer), some false] } := rfl
      rw [stays_stateAnswer] at hrun
      exact hrun
    · intro h
      have hkept := h.added { infoOf "run-3" with lifecycleState := some "Initialized" }
        (by decide) (by decide)
      revert hkept
      decide
  · have hgone : stays "run-1" unavailable = false := by
      rw [← Bool.not_eq_true, stays_iff, not_not]
      exact .inr (.inl ⟨by decide, .inl rfl⟩)
    refine ⟨{ start oneRun with checks := [some false] }, ⟨[], by decide⟩, ?_, rfl, rfl, ?_⟩
    · show some { start oneRun with checks := [some (stays "run-1" unavailable)] } = _
      rw [hgone]
    · intro h
      rcases h.removed 0 _ rfl (by decide) _ List.mem_cons_self rfl with
        hover | ⟨asked, hasked, hnotFound⟩
      · revert hover
        decide
      · cases List.mem_singleton.mp hasked
        have hstatus : 503 = 404 := hnotFound
        omega

end DatabusSim.RecentRuns
