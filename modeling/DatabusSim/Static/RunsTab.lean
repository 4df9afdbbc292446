import DatabusSim.Lib.Latest
import DatabusSim.Lib.Timers
import DatabusSim.Static.RecentRuns

/-!
# The tab of the runs

`static/tabs/runs.js` lists the recent runs and those that the fleet is bound to, and asks the
simulator about each of them every two seconds until it is over. Requests are answered in any order
and at any time, also after the tab was closed. However that goes, a run has at most one poll, a
poll that runs can be stopped, a row shows the state that is known of its run, and a run that is
listed is polled unless it has been reported to be over (`tab_polls`).
-/

namespace DatabusSim

open Transition History

/-- What the tab reads of a vehicle of `store.get().fleet`. -/
structure BoundVehicle where
  boundRunId : Option String
  lifecycleState : Option String

/-- `stored` is the list in `localStorage`, `fleet` that of the store. `rows` are the rows of the
page: a run and the text of its chip. `asked` are the runs whose state a poll waits for, `sent`
those whose event has not been answered, `clearing` the lists that `clearCompleted` has read and
still checks. `subscribers` counts the callbacks that the store has of this tab. -/
structure RunsTab where
  stored : RecentRuns.Stored := ⟨[], List.nodup_nil⟩
  fleet : List BoundVehicle := []
  mounted : Bool := false
  subscribers : Nat := 0
  polls : Timers String := {}
  states : Dict String (Option String) := Dict.empty
  rows : List (String × String) := []
  asked : List String := []
  sent : List String := []
  clearing : List RecentRuns.Stored := []

namespace RunsTab

/-! ## The list of the runs -/

/-- `set.add(id)` for each of the ids. -/
def addAll (set ids : List String) : List String :=
  ids.foldl (fun set id => if id ∈ set then set else set ++ [id]) set

/-- `v.bound_run_id`, where it is truthy. -/
def boundRun? (v : BoundVehicle) : Option String := v.boundRunId.filter (· ≠ "")

def collectRunIds (s : RunsTab) : List String :=
  addAll (addAll [] s.stored.ids) (s.fleet.filterMap boundRun?)

/-- What `recentMap` or else `fleetMap` has for the state of a run. -/
def infoState (s : RunsTab) (runId : String) : Option String :=
  match s.stored.runs.find? fun r => r.runId = runId with
  | some r => r.lifecycleState
  | none =>
      (latest (fun v => if boundRun? v = some runId then some v.lifecycleState else none)
        s.fleet).join

/-- What `_states` has for a run, but for `null` and `undefined`. -/
def known (s : RunsTab) (runId : String) : Option String := (s.states.get? runId).join

/-- The text of a new row's chip. -/
def chipText (s : RunsTab) (runId : String) : String :=
  ((s.known runId).or (s.infoState runId)).getD "—"

/-- `startPolling`. -/
def startPolling (s : RunsTab) (runId : String) : RunsTab :=
  if RecentRuns.isTerminal (s.known runId) then s else { s with polls := s.polls.start runId }

/-- `renderList`: without the tab there is no element for it. -/
def renderList (s : RunsTab) : RunsTab :=
  if s.mounted then { s with rows := s.collectRunIds.map fun id => (id, s.chipText id) } else s

def buildRunList (s : RunsTab) : RunsTab := s.collectRunIds.foldl startPolling s.renderList

/-- `updateRunItemState`: the first row of the run. -/
def setChip (runId state : String) : List (String × String) → List (String × String)
  | [] => []
  | row :: rows =>
      if row.1 = runId then (runId, state) :: rows else row :: setChip runId state rows

/-! ## Events -/

inductive Event where
  /-- The store notifies its subscribers. -/
  | notify (fleet : List BoundVehicle)
  /-- The other tab adds a run. -/
  | addRecentRun (info : RecentRuns.RunInfo)
  /-- The other tab writes the state of a run. -/
  | updateRecentRunState (runId : String) (state : Option String)
  /-- The tab is chosen in the strip, also while it is shown. -/
  | mount
  /-- Another tab is chosen. -/
  | unmount
  /-- The interval of a run fires. -/
  | tick (runId : String)
  /-- A poll is answered; `none` is an error. -/
  | answer (runId : String) (state : Option String)
  /-- A button of a row sends an event. -/
  | act (runId : String)
  /-- It is answered with the new state, if any; `none` is an error. -/
  | acted (runId : String) (result : Option (Option String))
  /-- `clearCompleted` reads the list. -/
  | clear
  /-- One that has read the list has all its checks. -/
  | cleared (i : Nat) (checks : List Bool)

/-- A new state of a run is known: `_states` and the stored list get it. -/
def learn (s : RunsTab) (runId : String) (state : Option String) : RunsTab :=
  { s with
    states := s.states.set runId state
    stored := s.stored.updateRecentRunState runId state }

/-- What a poll does with a state. -/
def polled (s : RunsTab) (runId state : String) : RunsTab :=
  let prev := s.states.get? runId
  let s := s.learn runId (some state)
  let s := if prev = some (some state) then s else { s with rows := setChip runId state s.rows }
  if RecentRuns.isTerminal (some state) then { s with polls := s.polls.stop runId } else s

/-- A run that is cleared is forgotten. -/
def forget (s : RunsTab) (runId : String) : RunsTab :=
  { s with polls := s.polls.stop runId, states := s.states.erase runId }

/-- The runs that have not passed their check. -/
def dropped (runs : RecentRuns.Stored) (checks : List Bool) : List String :=
  ((runs.runs.zip checks).filter fun p => !p.2).map fun p => p.1.runId

/-- The list that `clearCompleted` writes. -/
def keptRuns (runs : RecentRuns.Stored) (checks : List Bool) : RecentRuns.Stored where
  runs := RecentRuns.kept runs.runs (checks.map some)
  distinct := runs.distinct.sublist ((RecentRuns.kept_sublist _ _).map _)

/-- Each entry has a check, and that of a run that is over fails. -/
def checked (runs : RecentRuns.Stored) (checks : List Bool) : Bool :=
  checks.length = runs.runs.length &&
    (runs.runs.zip checks).all fun p => !(RecentRuns.isTerminal p.1.lifecycleState && p.2)

def step : System RunsTab Event
  | s, .notify fleet => some (buildRunList^[s.subscribers] { s with fleet })
  | s, .addRecentRun info => some { s with stored := s.stored.addRecentRun info }
  | s, .updateRecentRunState runId state =>
      some { s with stored := s.stored.updateRecentRunState runId state }
  | s, .mount =>
      let s := buildRunList { s with mounted := true, rows := [] }
      some { s with subscribers := s.subscribers + 1 }
  | s, .unmount =>
      if s.mounted then
        some
          { s with
            mounted := false
            polls := s.polls.stopAll
            subscribers := s.subscribers - 1
            states := Dict.empty
            rows := [] }
      else none
  | s, .tick runId =>
      if s.polls.running.any (fun t => decide (t.2 = runId)) then
        some { s with asked := s.asked ++ [runId] }
      else none
  | s, .answer runId state =>
      if runId ∈ s.asked then
        let s := { s with asked := s.asked.erase runId }
        match state.filter (· ≠ "") with
        | none => some s
        | some state => some (s.polled runId state)
      else none
  | s, .act runId =>
      if runId ∈ s.rows.map Prod.fst then some { s with sent := s.sent ++ [runId] } else none
  | s, .acted runId result =>
      if runId ∈ s.sent then
        let s := { s with sent := s.sent.erase runId }
        match result with
        | none => some s
        | some state => some (s.learn runId state).buildRunList
      else none
  | s, .clear => if s.mounted then some { s with clearing := s.clearing ++ [s.stored] } else none
  | s, .cleared i checks =>
      match s.clearing[i]? with
      | none => none
      | some runs =>
          if checked runs checks then
            let s := { s with clearing := s.clearing.eraseIdx i }
            let s := (dropped runs checks).foldl forget s
            some { s with stored := keptRuns runs checks }.buildRunList
          else none

/-! ## Building the list -/

theorem nodup_addAll {set : List String} (ids : List String) (h : set.Nodup) :
    (addAll set ids).Nodup := by
  induction ids generalizing set with
  | nil => exact h
  | cons id ids ih =>
    show (addAll (if id ∈ set then set else set ++ [id]) ids).Nodup
    apply ih
    split
    · exact h
    · rename_i hnot
      refine List.nodup_append.mpr ⟨h, List.nodup_singleton id, fun a ha b hb => ?_⟩
      rw [List.mem_singleton.mp hb]
      exact fun heq => hnot (heq ▸ ha)

theorem nodup_collectRunIds (s : RunsTab) : s.collectRunIds.Nodup :=
  nodup_addAll _ (nodup_addAll _ List.nodup_nil)

/-- The polls after `startPolling` for each of the runs. -/
def startAll (s : RunsTab) (ids : List String) : Timers String :=
  ids.foldl (fun polls id => if RecentRuns.isTerminal (s.known id) then polls else polls.start id)
    s.polls

theorem foldl_startPolling (s : RunsTab) (ids : List String) :
    ids.foldl startPolling s = { s with polls := s.startAll ids } := by
  induction ids generalizing s with
  | nil => rfl
  | cons id ids ih =>
    rw [List.foldl_cons, ih]
    unfold startAll startPolling
    rw [List.foldl_cons]
    split <;> rfl

theorem tidy_startAll {s : RunsTab} (h : s.polls.Tidy) (ids : List String) :
    (s.startAll ids).Tidy := by
  unfold startAll
  generalize s.polls = polls at h
  induction ids generalizing polls with
  | nil => exact h
  | cons id ids ih =>
    rw [List.foldl_cons]
    apply ih
    split
    · exact h
    · exact h.start id

theorem contains_startAll (s : RunsTab) (ids : List String) (j : String) :
    (s.startAll ids).table.contains j = true ↔
      s.polls.table.contains j = true ∨ (j ∈ ids ∧ RecentRuns.isTerminal (s.known j) = false) := by
  unfold startAll
  generalize s.polls = polls
  induction ids generalizing polls with
  | nil => simp
  | cons id ids ih =>
    rw [List.foldl_cons, ih]
    cases hover : RecentRuns.isTerminal (s.known id) with
    | true =>
      rw [if_pos rfl]
      by_cases hj : j = id
      · subst hj
        simp [hover]
      · simp [hj]
    | false =>
      rw [if_neg Bool.false_ne_true, Timers.contains_start]
      by_cases hj : j = id
      · subst hj
        simp [hover]
      · simp [hj]

theorem buildRunList_eq (s : RunsTab) :
    s.buildRunList =
      { s with
        rows := if s.mounted then s.collectRunIds.map fun id => (id, s.chipText id) else s.rows
        polls := s.startAll s.collectRunIds } := by
  unfold buildRunList
  rw [foldl_startPolling]
  unfold renderList
  split <;> rfl

theorem mem_setChip {runId state : String} {rows : List (String × String)}
    (hrows : (rows.map Prod.fst).Nodup) {row : String × String}
    (hrow : row ∈ setChip runId state rows) :
    (row.1 = runId → row.2 = state) ∧ (row ∈ rows ∨ row.1 = runId ∧ runId ∈ rows.map Prod.fst) := by
  induction rows with
  | nil => cases hrow
  | cons r rows ih =>
    rw [List.map_cons, List.nodup_cons] at hrows
    rw [setChip] at hrow
    split at hrow
    · rename_i hr
      rcases List.mem_cons.mp hrow with rfl | hrow
      · exact ⟨fun _ => rfl, .inr ⟨rfl, by simp [hr]⟩⟩
      · refine ⟨fun hid => ?_, .inl (List.mem_cons_of_mem _ hrow)⟩
        exfalso
        apply hrows.1
        rw [hr, ← hid]
        exact List.mem_map_of_mem hrow
    · rename_i hr
      rcases List.mem_cons.mp hrow with rfl | hrow
      · exact ⟨fun hid => absurd hid hr, .inl List.mem_cons_self⟩
      · obtain ⟨hstate, hmem⟩ := ih hrows.2 hrow
        refine ⟨hstate, ?_⟩
        rcases hmem with hmem | ⟨hid, hmem⟩
        · exact .inl (List.mem_cons_of_mem _ hmem)
        · exact .inr ⟨hid, List.mem_cons_of_mem _ hmem⟩

theorem map_fst_setChip (runId state : String) (rows : List (String × String)) :
    (setChip runId state rows).map Prod.fst = rows.map Prod.fst := by
  induction rows with
  | nil => rfl
  | cons row rows ih =>
    rw [setChip]
    split
    · rename_i hrow
      rw [List.map_cons, List.map_cons, hrow]
    · rw [List.map_cons, ih, List.map_cons]

/-! ## What holds throughout -/

/-- An answer to the tab says that the run is over. -/
def ReportsOver (runId : String) : Event → Prop
  | .answer id state => id = runId ∧ RecentRuns.isTerminal state = true
  | .acted id (some state) => id = runId ∧ RecentRuns.isTerminal state = true
  | _ => False

def ReportedOver (events : List Event) (runId : String) : Prop :=
  ∃ ev ∈ events, ReportsOver runId ev

/-- The polls, the rows and what is known agree. -/
structure Sound (events : List Event) (s : RunsTab) : Prop where
  tidy : s.polls.Tidy
  ended (id) : RecentRuns.isTerminal (s.known id) = true → ReportedOver events id
  hidden : s.mounted = false → s.rows = []
  distinct : (s.rows.map Prod.fst).Nodup
  polled (row) : row ∈ s.rows → s.polls.table.contains row.1 = true ∨ ReportedOver events row.1
  chips (row) : row ∈ s.rows → ∀ state, s.known row.1 = some state → row.2 = state

section Sound

variable {events : List Event} {s : RunsTab}

theorem ReportedOver.append {runId : String} (h : ReportedOver events runId) (ev : Event) :
    ReportedOver (events ++ [ev]) runId := by
  obtain ⟨e, he, hover⟩ := h
  exact ⟨e, List.mem_append_left _ he, hover⟩

theorem reportedOver_last {ev : Event} {runId : String} (h : ReportsOver runId ev) :
    ReportedOver (events ++ [ev]) runId :=
  ⟨ev, List.mem_append_right _ List.mem_cons_self, h⟩

theorem Sound.append (h : Sound events s) (ev : Event) : Sound (events ++ [ev]) s where
  tidy := h.tidy
  ended id hid := (h.ended id hid).append ev
  hidden := h.hidden
  distinct := h.distinct
  polled row hrow := (h.polled row hrow).imp_right fun hover => hover.append ev
  chips := h.chips

theorem Sound.same (h : Sound events s) {s' : RunsTab} (hmounted : s'.mounted = s.mounted)
    (hpolls : s'.polls = s.polls) (hstates : s'.states = s.states) (hrows : s'.rows = s.rows) :
    Sound events s' := by
  have hknown : ∀ id, s'.known id = s.known id := by
    intro id
    unfold known
    rw [hstates]
  refine ⟨hpolls ▸ h.tidy, fun id hid => h.ended id (hknown id ▸ hid), fun hm => ?_,
    hrows ▸ h.distinct, fun row hrow => ?_, fun row hrow state hstate => ?_⟩
  · rw [hrows]
    exact h.hidden (hmounted ▸ hm)
  · rw [hpolls]
    exact h.polled row (hrows ▸ hrow)
  · exact h.chips row (hrows ▸ hrow) state (hknown row.1 ▸ hstate)

theorem known_set (s : RunsTab) (runId : String) (state : Option String) (id : String) :
    ((s.states.set runId state).get? id).join = if id = runId then state else s.known id := by
  rw [Dict.get?_set]
  split <;> rfl

/-- Whatever the rows were before, the list that is built is sound. -/
theorem sound_buildRunList (htidy : s.polls.Tidy)
    (hover : ∀ id, RecentRuns.isTerminal (s.known id) = true → ReportedOver events id)
    (hhidden : s.mounted = false → s.rows = []) : Sound events s.buildRunList := by
  rw [buildRunList_eq]
  have hrows : ∀ {row : String × String},
      row ∈ (if s.mounted then s.collectRunIds.map fun id => (id, s.chipText id) else s.rows) →
        row.1 ∈ s.collectRunIds ∧ row.2 = s.chipText row.1 := by
    intro row hrow
    split at hrow
    · obtain ⟨id, hid, rfl⟩ := List.mem_map.mp hrow
      exact ⟨hid, rfl⟩
    · rename_i hmounted
      rw [hhidden (by simpa using hmounted)] at hrow
      cases hrow
  refine ⟨tidy_startAll htidy _, hover, fun hmounted => ?_, ?_, fun row hrow => ?_,
    fun row hrow state hstate => ?_⟩
  · have hmounted : s.mounted = false := hmounted
    show (if s.mounted then _ else s.rows) = []
    rw [hmounted]
    exact hhidden hmounted
  · show ((if s.mounted then _ else s.rows).map Prod.fst).Nodup
    split
    · rw [List.map_map]
      exact (List.map_id _).symm ▸ s.nodup_collectRunIds
    · rename_i hmounted
      rw [hhidden (by simpa using hmounted)]
      exact List.nodup_nil
  · show (s.startAll s.collectRunIds).table.contains row.1 = true ∨ _
    rw [contains_startAll]
    cases hknown : RecentRuns.isTerminal (s.known row.1) with
    | true => exact .inr (hover row.1 hknown)
    | false => exact .inl (.inr ⟨(hrows hrow).1, rfl⟩)
  · have hstate : s.known row.1 = some state := hstate
    rw [(hrows hrow).2, chipText, hstate]
    rfl

theorem sound_iterate (h : Sound events s) (n : Nat) : Sound events (buildRunList^[n] s) := by
  induction n generalizing s with
  | zero => exact h
  | succ n ih =>
    rw [Function.iterate_succ_apply]
    exact ih (sound_buildRunList h.tidy h.ended h.hidden)

theorem known_learn (s : RunsTab) (runId : String) (state : Option String) (id : String) :
    (s.learn runId state).known id = if id = runId then state else s.known id :=
  known_set s runId state id

theorem polled_eq (s : RunsTab) (runId state : String) :
    s.polled runId state =
      { s.learn runId (some state) with
        rows :=
          if s.states.get? runId = some (some state) then s.rows else setChip runId state s.rows
        polls :=
          if RecentRuns.isTerminal (some state) then s.polls.stop runId else s.polls } := by
  unfold polled
  simp only
  split <;> split <;> rfl

/-- The rows after an answer: those there were, and of the run one that shows the state. -/
theorem polled_row (h : Sound events s) {runId state : String} {row : String × String}
    (hrow : row ∈ (s.polled runId state).rows) :
    (row.1 = runId → row.2 = state) ∧ (row.1 ≠ runId → row ∈ s.rows) ∧
      row.1 ∈ s.rows.map Prod.fst := by
  rw [polled_eq] at hrow
  have hrow : row ∈ if s.states.get? runId = some (some state) then s.rows
      else setChip runId state s.rows := hrow
  split at hrow
  · rename_i hprev
    refine ⟨fun hid => ?_, fun _ => hrow, List.mem_map_of_mem hrow⟩
    have hknown : s.known row.1 = some state := by
      unfold known
      rw [hid, hprev]
      rfl
    exact h.chips row hrow state hknown
  · obtain ⟨hstate, hmem⟩ := mem_setChip h.distinct hrow
    refine ⟨hstate, fun hne => ?_, ?_⟩
    · rcases hmem with hmem | ⟨hid, -⟩
      · exact hmem
      · exact absurd hid hne
    · rcases hmem with hmem | ⟨hid, hmem⟩
      · exact List.mem_map_of_mem hmem
      · exact hid ▸ hmem

/-- A state that an answer brings is known and shown from then on. -/
theorem sound_polled (h : Sound events s) {runId state : String} {ev : Event}
    (hev : RecentRuns.isTerminal (some state) = true → ReportsOver runId ev) :
    Sound (events ++ [ev]) (s.polled runId state) := by
  have hknown : ∀ id, (s.polled runId state).known id =
      if id = runId then some state else s.known id := by
    intro id
    rw [polled_eq]
    exact known_set s runId (some state) id
  have hpolls : (s.polled runId state).polls =
      if RecentRuns.isTerminal (some state) then s.polls.stop runId else s.polls := by
    rw [polled_eq]
  refine ⟨?_, fun id hid => ?_, fun hmounted => ?_, ?_, fun row hrow => ?_,
    fun row hrow state' hstate => ?_⟩
  · rw [hpolls]
    split
    · exact h.tidy.stop runId
    · exact h.tidy
  · rw [hknown] at hid
    split at hid
    · rename_i heq
      subst heq
      exact reportedOver_last (hev hid)
    · exact (h.ended id hid).append ev
  · rw [polled_eq] at hmounted ⊢
    have hrows := h.hidden hmounted
    show (if _ then s.rows else setChip runId state s.rows) = []
    rw [hrows]
    split <;> rfl
  · rw [polled_eq]
    show ((if _ then s.rows else setChip runId state s.rows).map Prod.fst).Nodup
    split
    · exact h.distinct
    · rw [map_fst_setChip]
      exact h.distinct
  · obtain ⟨-, -, hmem⟩ := polled_row h hrow
    obtain ⟨row', hrow', hid⟩ := List.mem_map.mp hmem
    have hbefore := h.polled row' hrow'
    rw [hid] at hbefore
    rw [hpolls]
    split
    · rename_i hover
      by_cases heq : row.1 = runId
      · rw [heq]
        exact .inr (reportedOver_last (hev hover))
      · rw [Timers.contains_stop]
        simpa [heq] using hbefore.imp_right fun hrep => hrep.append ev
    · exact hbefore.imp_right fun hrep => hrep.append ev
  · obtain ⟨hself, hother, -⟩ := polled_row h hrow
    rw [hknown] at hstate
    split at hstate
    · rename_i heq
      cases hstate
      exact hself heq
    · rename_i hne
      exact h.chips row (hother hne) state' hstate

/-- Runs are forgotten: their polls are stopped, and the others are left as they are. -/
theorem sound_forget (ids : List String) (htidy : s.polls.Tidy)
    (hover : ∀ id, RecentRuns.isTerminal (s.known id) = true → ReportedOver events id) :
    (ids.foldl forget s).polls.Tidy ∧
      (∀ id, RecentRuns.isTerminal ((ids.foldl forget s).known id) = true →
        ReportedOver events id) ∧
      (ids.foldl forget s).mounted = s.mounted ∧ (ids.foldl forget s).rows = s.rows := by
  induction ids generalizing s with
  | nil => exact ⟨htidy, hover, rfl, rfl⟩
  | cons id ids ih =>
    rw [List.foldl_cons]
    refine ih (htidy.stop id) fun j hj => ?_
    have hknown : (s.forget id).known j = if j = id then none else s.known j := by
      show ((s.states.erase id).get? j).join = _
      rw [Dict.get?_erase]
      split <;> rfl
    rw [hknown] at hj
    split at hj
    · cases hj
    · exact hover j hj

theorem sound_step {s' : RunsTab} {ev : Event} (h : Sound events s) (hs : step s ev = some s') :
    Sound (events ++ [ev]) s' := by
  have hlater := h.append ev
  cases ev with
  | notify fleet =>
    cases hs
    exact sound_iterate (s := { s with fleet }) (hlater.same rfl rfl rfl rfl) _
  | addRecentRun info =>
    cases hs
    exact hlater.same rfl rfl rfl rfl
  | updateRecentRunState runId state =>
    cases hs
    exact hlater.same rfl rfl rfl rfl
  | mount =>
    cases hs
    have hbuilt : Sound (events ++ [.mount]) ({ s with mounted := true, rows := [] }).buildRunList :=
      sound_buildRunList hlater.tidy hlater.ended fun _ => rfl
    exact hbuilt.same rfl rfl rfl rfl
  | unmount =>
    simp only [step] at hs
    split at hs
    · cases hs
      refine ⟨h.tidy.stopAll, fun id hid => ?_, fun _ => rfl, List.nodup_nil, nofun, nofun⟩
      cases hid
    · cases hs
  | tick runId =>
    simp only [step] at hs
    split at hs
    · cases hs
      exact hlater.same rfl rfl rfl rfl
    · cases hs
  | answer runId state =>
    simp only [step] at hs
    split at hs
    · have hasked : Sound events { s with asked := s.asked.erase runId } := h.same rfl rfl rfl rfl
      split at hs
      · cases hs
        exact hasked.append _
      · rename_i state' hstate
        cases hs
        obtain ⟨rfl, -⟩ := Option.filter_eq_some_iff.mp hstate
        exact sound_polled hasked fun hover => ⟨rfl, hover⟩
    · cases hs
  | act runId =>
    simp only [step] at hs
    split at hs
    · cases hs
      exact hlater.same rfl rfl rfl rfl
    · cases hs
  | acted runId result =>
    simp only [step] at hs
    split at hs
    · cases result with
      | none =>
        cases hs
        exact hlater.same rfl rfl rfl rfl
      | some state =>
        cases hs
        refine sound_buildRunList h.tidy (fun id hid => ?_) h.hidden
        rw [known_learn] at hid
        split at hid
        · rename_i heq
          subst heq
          exact reportedOver_last ⟨rfl, hid⟩
        · exact (h.ended id hid).append _
    · cases hs
  | clear =>
    simp only [step] at hs
    split at hs
    · cases hs
      exact hlater.same rfl rfl rfl rfl
    · cases hs
  | cleared i checks =>
    simp only [step] at hs
    split at hs
    · cases hs
    · rename_i runs hruns
      split at hs
      · cases hs
        obtain ⟨htidy, hover, hmounted, hrows⟩ :=
          sound_forget (s := { s with clearing := s.clearing.eraseIdx i }) (dropped runs checks)
            hlater.tidy hlater.ended
        refine sound_buildRunList htidy hover fun hm => ?_
        have hm : ((dropped runs checks).foldl forget
          { s with clearing := s.clearing.eraseIdx i }).mounted = false := hm
        rw [hmounted] at hm
        exact hrows.trans (h.hidden hm)
      · cases hs

end Sound

/-- A page whose tab of the runs has not been opened. -/
def page (stored : RecentRuns.Stored) (fleet : List BoundVehicle) : RunsTab := { stored, fleet }

theorem sound_page (stored : RecentRuns.Stored) (fleet : List BoundVehicle) :
    Sound [] (page stored fleet) where
  tidy := Timers.tidy_empty
  ended id hid := by cases hid
  hidden _ := rfl
  distinct := List.nodup_nil
  polled row hrow := by cases hrow
  chips row hrow := by cases hrow

theorem run_sound {stored : RecentRuns.Stored} {fleet : List BoundVehicle} {events : List Event}
    {s : RunsTab} (hrun : System.run step (page stored fleet) events = some s) : Sound events s :=
  history_invariant (H := Sound) (sound_page stored fleet) (fun _ _ _ _ h _ hs => sound_step h hs)
    hrun

/-- Whatever happens: a run has at most one poll, and each that runs is in the table; a row shows
what is known of its run, and the run is polled unless an answer has said that it is over. -/
theorem tab_polls {stored : RecentRuns.Stored} {fleet : List BoundVehicle} {events : List Event}
    {s : RunsTab} (hrun : System.run step (page stored fleet) events = some s) :
    s.polls.running.Nodup ∧
      (∀ id runId, (id, runId) ∈ s.polls.running ↔ s.polls.table.get? runId = some id) ∧
      ∀ row ∈ s.rows, (∀ state, s.known row.1 = some state → row.2 = state) ∧
        ((∃ id, (id, row.1) ∈ s.polls.running) ∨ ReportedOver events row.1) := by
  have h := run_sound hrun
  refine ⟨h.tidy.distinct.of_map _, h.tidy.running, fun row hrow => ⟨h.chips row hrow, ?_⟩⟩
  rw [h.tidy.runs_iff]
  exact h.polled row hrow

/-- A list with one run in it. -/
def oneRun : RecentRuns.Stored where
  runs := [⟨⟨"run-1", "unit-01", "trip-1", "bUCR_L1", ""⟩, some "Initialized"⟩]
  distinct := List.nodup_singleton _

/-- Its poll has been answered, and runs on. -/
theorem one_run_polled : ∃ s,
    System.run step (page oneRun []) [.mount, .tick "run-1", .answer "run-1" (some "In Progress")] =
      some s ∧
    s.rows = [("run-1", "In Progress")] ∧ ∃ id, (id, "run-1") ∈ s.polls.running := by
  obtain ⟨s, hs, hrows⟩ : ∃ s, System.run step (page oneRun [])
      [.mount, .tick "run-1", .answer "run-1" (some "In Progress")] = some s ∧
      s.rows = [("run-1", "In Progress")] := ⟨_, rfl, rfl⟩
  refine ⟨s, hs, hrows, ?_⟩
  obtain ⟨-, -, hshown⟩ := tab_polls hs
  obtain ⟨-, hrunning | hover⟩ := hshown ("run-1", "In Progress") (by simp [hrows])
  · exact hrunning
  · obtain ⟨ev, hev, hover⟩ := hover
    simp only [List.mem_cons, List.not_mem_nil, or_false] at hev
    rcases hev with rfl | rfl | rfl
    · cases hover
    · cases hover
    · exact absurd hover.2 (by decide)

/-! ## After the tab was closed -/

/-- How often the tab was chosen while it was shown. -/
def reopened : Bool → List Event → Nat
  | _, [] => 0
  | mounted, .mount :: events => mounted.toNat + reopened true events
  | _, .unmount :: events => reopened false events
  | mounted, _ :: events => reopened mounted events

theorem iterate_eq (s : RunsTab) (n : Nat) :
    buildRunList^[n] s =
      { s with rows := (buildRunList^[n] s).rows, polls := (buildRunList^[n] s).polls } := by
  induction n with
  | zero => rfl
  | succ n ih =>
    rw [Function.iterate_succ_apply', buildRunList_eq]
    rw [ih]

theorem collectRunIds_iterate (s : RunsTab) (n : Nat) :
    (buildRunList^[n] s).collectRunIds = s.collectRunIds := by
  rw [iterate_eq]
  rfl

theorem contains_iterate (s : RunsTab) (n : Nat) (j : String) :
    (buildRunList^[n + 1] s).polls.table.contains j = true ↔
      s.polls.table.contains j = true ∨
        (j ∈ s.collectRunIds ∧ RecentRuns.isTerminal (s.known j) = false) := by
  induction n with
  | zero =>
    rw [Function.iterate_one, buildRunList_eq]
    exact contains_startAll s s.collectRunIds j
  | succ n ih =>
    have hids := collectRunIds_iterate s (n + 1)
    have hknown : (buildRunList^[n + 1] s).known j = s.known j := by
      rw [iterate_eq]
      rfl
    rw [Function.iterate_succ_apply', buildRunList_eq]
    show ((buildRunList^[n + 1] s).startAll _).table.contains j = true ↔ _
    rw [contains_startAll, ih, hids, hknown]
    simp only [or_assoc, or_self]

theorem forget_foldl_eq (s : RunsTab) (ids : List String) :
    ids.foldl forget s =
      { s with polls := (ids.foldl forget s).polls, states := (ids.foldl forget s).states } := by
  induction ids generalizing s with
  | nil => rfl
  | cons id ids ih =>
    rw [List.foldl_cons, ih]
    rfl

/-- Only choosing a tab touches the subscriptions. -/
theorem step_mounted {s s' : RunsTab} {ev : Event} (hmount : ev ≠ .mount) (hunmount : ev ≠ .unmount)
    (hs : step s ev = some s') : s'.mounted = s.mounted ∧ s'.subscribers = s.subscribers := by
  cases ev with
  | mount => exact absurd rfl hmount
  | unmount => exact absurd rfl hunmount
  | notify fleet =>
    cases hs
    rw [iterate_eq]
    exact ⟨rfl, rfl⟩
  | addRecentRun info =>
    cases hs
    exact ⟨rfl, rfl⟩
  | updateRecentRunState runId state =>
    cases hs
    exact ⟨rfl, rfl⟩
  | tick runId =>
    simp only [step] at hs
    split at hs <;> cases hs
    exact ⟨rfl, rfl⟩
  | answer runId state =>
    simp only [step] at hs
    split at hs
    · split at hs <;> cases hs
      · exact ⟨rfl, rfl⟩
      · rw [polled_eq]
        exact ⟨rfl, rfl⟩
    · cases hs
  | act runId =>
    simp only [step] at hs
    split at hs <;> cases hs
    exact ⟨rfl, rfl⟩
  | acted runId result =>
    simp only [step] at hs
    split at hs
    · cases result with
      | none =>
        cases hs
        exact ⟨rfl, rfl⟩
      | some state =>
        cases hs
        rw [buildRunList_eq]
        exact ⟨rfl, rfl⟩
    · cases hs
  | clear =>
    simp only [step] at hs
    split at hs <;> cases hs
    exact ⟨rfl, rfl⟩
  | cleared i checks =>
    simp only [step] at hs
    split at hs
    · cases hs
    · split at hs <;> cases hs
      rw [buildRunList_eq, forget_foldl_eq]
      exact ⟨rfl, rfl⟩

/-- A tab that was not closed before it is opened again leaves a subscription behind. -/
theorem run_subscribers {events : List Event} {s s' : RunsTab} {k : Nat}
    (hk : s.subscribers = s.mounted.toNat + k) (hrun : System.run step s events = some s') :
    s'.subscribers = s'.mounted.toNat + (k + reopened s.mounted events) := by
  induction events generalizing s k with
  | nil =>
    cases hrun
    exact hk
  | cons ev events ih =>
    obtain ⟨m, hm, hrun⟩ := run_cons_some.mp hrun
    by_cases hmount : ev = .mount
    · subst hmount
      cases hm
      have hnext := ih (k := k + s.mounted.toNat) ?_ hrun
      · rw [hnext, reopened, buildRunList_eq]
        show _ + (k + s.mounted.toNat + reopened true events) = _
        omega
      · rw [buildRunList_eq]
        show s.subscribers + 1 = true.toNat + (k + s.mounted.toNat)
        rw [hk, Bool.toNat_true]
        omega
    · by_cases hunmount : ev = .unmount
      · subst hunmount
        simp only [step] at hm
        split at hm
        · rename_i hshown
          cases hm
          rw [hshown, Bool.toNat_true] at hk
          refine ih (k := k) ?_ hrun
          show s.subscribers - 1 = false.toNat + k
          rw [Bool.toNat_false]
          omega
        · cases hm
      · obtain ⟨hsame, hsubs⟩ := step_mounted hmount hunmount hm
        have hnext := ih (k := k) (by rw [hsame, hsubs, hk]) hrun
        have hskip : reopened s.mounted (ev :: events) = reopened s.mounted events := by
          cases ev <;> first | rfl | contradiction
        rw [hnext, hskip, hsame]

/-- Nothing of the tab is left that could start a poll. -/
structure Quiet (s : RunsTab) : Prop where
  closed : s.mounted = false
  subscribers : s.subscribers = 0
  rows : s.rows = []
  sent : s.sent = []
  clearing : s.clearing = []
  running : s.polls.running = []

theorem quiet_step {s s' : RunsTab} {ev : Event} (h : Quiet s) (hmount : ev ≠ .mount)
    (hs : step s ev = some s') : Quiet s' := by
  cases ev with
  | mount => exact absurd rfl hmount
  | unmount =>
    simp only [step, h.closed, Bool.false_eq_true, if_false] at hs
    cases hs
  | notify fleet =>
    have hsame : buildRunList^[s.subscribers] { s with fleet } = { s with fleet } := by
      rw [h.subscribers, Function.iterate_zero, id_eq]
    simp only [step] at hs
    rw [hsame] at hs
    cases hs
    exact ⟨h.closed, h.subscribers, h.rows, h.sent, h.clearing, h.running⟩
  | addRecentRun info =>
    cases hs
    exact ⟨h.closed, h.subscribers, h.rows, h.sent, h.clearing, h.running⟩
  | updateRecentRunState runId state =>
    cases hs
    exact ⟨h.closed, h.subscribers, h.rows, h.sent, h.clearing, h.running⟩
  | tick runId =>
    simp [step, h.running] at hs
  | answer runId state =>
    simp only [step] at hs
    split at hs
    · split at hs
      · cases hs
        exact ⟨h.closed, h.subscribers, h.rows, h.sent, h.clearing, h.running⟩
      · rename_i state' _
        cases hs
        rw [polled_eq]
        refine ⟨h.closed, h.subscribers, ?_, h.sent, h.clearing, ?_⟩
        · show (if _ then s.rows else setChip runId state' s.rows) = []
          rw [h.rows]
          split <;> rfl
        · show (if _ then s.polls.stop runId else s.polls).running = []
          split
          · unfold Timers.stop
            split
            · exact h.running
            · show List.filter _ s.polls.running = []
              rw [h.running]
              rfl
          · exact h.running
    · cases hs
  | act runId => simp [step, h.rows] at hs
  | acted runId result => simp [step, h.sent] at hs
  | clear => simp [step, h.closed] at hs
  | cleared i checks => simp [step, h.clearing] at hs

theorem quiet_run {later : List Event} {s s' : RunsTab} (h : Quiet s) (hmount : .mount ∉ later)
    (hrun : System.run step s later = some s') : Quiet s' := by
  induction later generalizing s with
  | nil =>
    cases hrun
    exact h
  | cons ev later ih =>
    obtain ⟨m, hm, hrun⟩ := run_cons_some.mp hrun
    rw [List.mem_cons, not_or] at hmount
    exact ih (quiet_step h (Ne.symm hmount.1) hm) hmount.2 hrun

/-- Closing the tab stops its polls. The next update of the store starts polls for the hidden tab
exactly if the tab was chosen again while it was shown and there is a run to list; otherwise, unless
an action was still waiting for its answer, nothing is polled until the tab is opened. -/
theorem closed_polls {stored : RecentRuns.Stored} {fleet : List BoundVehicle} {events : List Event}
    {s : RunsTab} (hrun : System.run step (page stored fleet) (events ++ [.unmount]) = some s) :
    s.polls.running = [] ∧
      (∀ fleet' s', step s (.notify fleet') = some s' →
        (s'.polls.running ≠ [] ↔ 0 < reopened false events ∧ s'.collectRunIds ≠ [])) ∧
      (reopened false events = 0 → s.sent = [] → s.clearing = [] → ∀ later s', .mount ∉ later →
        System.run step s later = some s' → s'.polls.running = []) := by
  obtain ⟨m, hm, hlast⟩ := run_append_some.mp hrun
  obtain ⟨s', hclose, hnil⟩ := run_cons_some.mp hlast
  cases hnil
  have hsound := run_sound hm
  have hsubs : m.subscribers = m.mounted.toNat + reopened false events := by
    have hk : (page stored fleet).subscribers = (page stored fleet).mounted.toNat + 0 := rfl
    rw [run_subscribers hk hm, Nat.zero_add]
    rfl
  simp only [step] at hclose
  split at hclose
  · rename_i hshown
    cases hclose
    rw [hshown, Bool.toNat_true] at hsubs
    have hstopped := hsound.tidy.running_stopAll
    have hrest : m.subscribers - 1 = reopened false events := by omega
    refine ⟨hstopped, fun fleet' s' hs' => ?_, fun hnone hsent hclearing later s' hlater hrun' => ?_⟩
    · have hnext : System.run step (page stored fleet) ((events ++ [.unmount]) ++ [.notify fleet']) =
          some s' := run_append_some.mpr ⟨_, hrun, run_cons_some.mpr ⟨s', hs', rfl⟩⟩
      rw [(run_sound hnext).tidy.running_ne_nil_iff, ← hrest]
      simp only [step] at hs'
      have hs' := Option.some.inj hs'
      cases hcount : m.subscribers - 1 with
      | zero =>
        rw [hcount, Function.iterate_zero, id_eq] at hs'
        subst hs'
        simp [Timers.stopAll, Dict.contains]
      | succ n =>
        rw [hcount] at hs'
        subst hs'
        rw [collectRunIds_iterate]
        constructor
        · rintro ⟨k, hk⟩
          rcases (contains_iterate _ n k).mp hk with hk | ⟨hmem, -⟩
          · cases hk
          · exact ⟨Nat.succ_pos n, List.ne_nil_of_mem hmem⟩
        · rintro ⟨-, hne⟩
          obtain ⟨k, hk⟩ := List.exists_mem_of_ne_nil _ hne
          exact ⟨k, (contains_iterate _ n k).mpr (.inr ⟨hk, rfl⟩)⟩
    · exact (quiet_run ⟨rfl, by rw [hrest, hnone], rfl, hsent, hclearing, hstopped⟩ hlater
        hrun').running
  · cases hclose

/-- The tab was chosen twice: the store brings its polls back while it is hidden. -/
theorem twice_chosen_polls : ∃ s s',
    System.run step (page oneRun []) ([.mount, .mount] ++ [.unmount]) = some s ∧
      step s (.notify []) = some s' ∧ s.polls.running = [] ∧ s'.polls.running ≠ [] := by
  obtain ⟨s, s', hs, hs', hids⟩ : ∃ s s',
      System.run step (page oneRun []) ([.mount, .mount] ++ [.unmount]) = some s ∧
        step s (.notify []) = some s' ∧ s'.collectRunIds = ["run-1"] := ⟨_, _, rfl, rfl, rfl⟩
  obtain ⟨hstopped, hpolls, -⟩ := closed_polls hs
  refine ⟨s, s', hs, hs', hstopped, (hpolls [] s' hs').mpr ⟨by decide, ?_⟩⟩
  rw [hids]
  exact List.cons_ne_nil _ _

end RunsTab

end DatabusSim
