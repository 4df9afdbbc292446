import DatabusSim.Lib.RetainedFeed
import DatabusSim.Services.SchedulerSteps
import DatabusSim.Static.Store

/-!
# The schedule on its way to the browser

`_publish_snapshot` creates a task for each broadcast of the schedule, where an event loop is
running: a view that loads the schedule again broadcasts nothing. A broadcast hands the snapshot to
every client of the group, and each client's consumer relays what waits for it, one message after
the other, once `connect` has sent it the snapshot of that moment. A page to which nothing is on
its way shows the schedule as the scheduler has it, unless it has been loaded since the last
snapshot was published.
-/

namespace DatabusSim

open Transition History RetainedFeed

namespace Scheduler

variable {fromisoformat : String → Except PyExc DateTime}

/-! ## What is published -/

/-- Between `s` and `s'` the snapshot has been published after each change of it. -/
def Announces (s s' : Scheduler) : Prop :=
  ∃ new, s'.published = s.published ++ new ∧ (new.getLast?).getD s.snapshot = s'.snapshot

theorem Announces.refl (s : Scheduler) : Announces s s := ⟨[], by simp, rfl⟩

theorem Announces.trans {s m s' : Scheduler} (h : Announces s m) (h' : Announces m s') :
    Announces s s' := by
  obtain ⟨new, hnew, hlast⟩ := h
  obtain ⟨new', hnew', hlast'⟩ := h'
  refine ⟨new ++ new', by rw [hnew', hnew, List.append_assoc], ?_⟩
  rw [List.getLast?_append, ← hlast', ← hlast]
  cases new'.getLast? <;> rfl

/-- Nothing is published where the snapshot has not changed. -/
theorem Announces.same {s s' : Scheduler} (hpublished : s'.published = s.published)
    (hsnapshot : s'.snapshot = s.snapshot) : Announces s s' :=
  ⟨[], by simp [hpublished], hsnapshot.symm⟩

/-- A change is announced once it is followed by `_publish_snapshot`. -/
theorem Announces.publish {s s' : Scheduler} (h : s'.published = s.published) :
    Announces s (s'.publishSnapshot true) :=
  ⟨[s'.snapshot], by rw [← h]; rfl, rfl⟩

theorem announces_beginDispatch (s : Scheduler) (t : Tick) (e : Entry) (rest : List Entry) :
    Announces s (s.beginDispatch t e rest) := by
  have hpublish : Announces s ((s.setStatus e.id .requested).publishSnapshot true) := .publish rfl
  rcases beginDispatch_cases s t e rest with ⟨exc, -, heq⟩ | ⟨request, -, heq⟩
  · rw [heq]
    exact hpublish.trans (.same rfl rfl)
  · rw [heq]
    exact hpublish.trans (.same rfl rfl)

variable (fromisoformat) in
theorem announces_continueTick (s : Scheduler) (t : Tick) (rest : List Entry) :
    Announces s (s.continueTick fromisoformat t rest) := by
  rcases continueTick_cases fromisoformat s t rest with
    ⟨-, heq⟩ | ⟨exc, -, heq⟩ | ⟨e, rest', -, heq⟩
  · rw [heq]
    exact .same rfl rfl
  · rw [heq]
    exact .same rfl rfl
  · rw [heq]
    exact announces_beginDispatch s t e rest'

theorem announces_createReply (s : Scheduler) (t : Tick) (e : Entry) (rest : List Entry)
    (request : CreateRunRequest) (http : Http) :
    Announces s (s.createReply fromisoformat t e rest request http) := by
  rcases createReply_cases fromisoformat s t e rest request http with
    ⟨resp, -, heq⟩ | ⟨exc, -, -, heq⟩ | ⟨exc, -, -, heq⟩
  · rw [heq]
    have hpublish : Announces s ((({ s with runIds := s.runIds.set e.id resp.runId } :
        Scheduler).setStatus e.id .initialized).publishSnapshot true) := .publish rfl
    exact hpublish.trans (.same rfl rfl)
  · rw [heq]
    have hpublish : Announces s ((s.setStatus e.id .failed).publishSnapshot true) := .publish rfl
    exact hpublish.trans (announces_continueTick fromisoformat _ t rest)
  · rw [heq]
    exact .same rfl rfl

theorem announces_locateReply (s : Scheduler) (t : Tick) (e : Entry) (rest : List Entry)
    (request : CreateRunRequest) (runId : String) (r : Except PyExc (Option String)) :
    Announces s (s.locateReply fromisoformat t e rest request runId r) := by
  have htrack : Announces s (s.trackRun e request runId r) := .same rfl rfl
  exact htrack.trans (announces_continueTick fromisoformat _ t rest)

variable (fromisoformat) in
theorem load_published (s : Scheduler) :
    (settle (s.load fromisoformat)).published = s.published := by
  unfold load
  cases s.file with
  | error e => rfl
  | ok v =>
    dsimp only
    split
    · cases readDefaults _ with
      | error e => rfl
      | ok defaults =>
        dsimp only
        split <;> rfl
    · rfl

variable (fromisoformat) in
/-- Without an event loop a reload publishes nothing. -/
theorem reload_published (s : Scheduler) :
    (settle (s.reload fromisoformat false)).published = s.published := by
  have hload := load_published fromisoformat s
  unfold reload
  cases hl : s.load fromisoformat with
  | error r =>
    rw [hl] at hload
    exact hload
  | ok s' =>
    rw [hl] at hload
    exact hload

/-- The schedule is read from its file. -/
def Event.loads : Event → Bool
  | .load | .reload => true
  | _ => false

theorem published_loads {s s' : Scheduler} {ev : Event} (hev : ev.loads = true)
    (h : step fromisoformat s ev = some s') : s'.published = s.published := by
  cases ev with
  | load =>
    cases h
    exact load_published fromisoformat s
  | reload =>
    cases h
    exact reload_published fromisoformat s
  | _ => cases hev

theorem announces_step {s s' : Scheduler} {ev : Event} (hev : ev.loads = false)
    (h : step fromisoformat s ev = some s') : Announces s s' := by
  rcases step_cases h with ⟨-, hfile⟩ | ⟨now, rfl, -, rfl⟩ |
      ⟨http, t, e, rest, request, rfl, -, rfl⟩ | ⟨r, t, e, rest, request, runId, rfl, -, rfl⟩
  · cases ev with
    | load => cases hev
    | reload => cases hev
    | write document =>
      cases h
      show Announces s (settle (s.write fromisoformat document))
      unfold write
      split
      · split <;> exact .same rfl rfl
      · exact .refl s
    | edit content =>
      cases h
      exact .same rfl rfl
    | _ => cases hfile
  · exact announces_continueTick fromisoformat s _ _
  · exact announces_createReply s t e rest request http
  · exact announces_locateReply s t e rest request runId r

end Scheduler

/-! ## The stream -/

/-- The scheduler, and the feed of its snapshots. -/
structure ScheduleStream where
  scheduler : Scheduler
  /-- The schedule has not been loaded since a snapshot was last published. -/
  announced : Bool := true
  feed : Feed ScheduleSnapshot

namespace ScheduleStream

inductive Event where
  | scheduler (ev : Scheduler.Event)
  /-- The oldest `broadcast_schedule` task runs. -/
  | broadcast
  /-- A client is added to the group. -/
  | join
  /-- `connect` sends a client the snapshot of the schedule. -/
  | greet (i : Nat)
  /-- `fleet_update` sends a client what has waited longest. -/
  | relay (i : Nat)
  /-- The channel layer drops what waits for a client, its channel being full or the message too
  old. -/
  | drop (i j : Nat)
  | disconnect (i : Nat)

/-- The feed moves while the scheduler stays. -/
def onFeed (s : ScheduleStream) (ev : RetainedFeed.Event ScheduleSnapshot) :
    Option ScheduleStream :=
  (RetainedFeed.step s.feed ev).map fun feed => { s with feed }

/-- Each snapshot that a step of the scheduler publishes is handed to a task of its own. -/
def step (fromisoformat : String → Except PyExc DateTime) (s : ScheduleStream) :
    Event → Option ScheduleStream
  | .scheduler ev =>
      (Scheduler.step fromisoformat s.scheduler ev).map fun scheduler =>
        let created := scheduler.published.drop s.scheduler.published.length
        { scheduler
          announced := !created.isEmpty || (s.announced && !ev.loads)
          feed := { s.feed with pending := s.feed.pending ++ created } }
  | .broadcast => s.onFeed .broadcast
  | .join => s.onFeed .join
  | .greet i => (s.feed.greet i s.scheduler.snapshot).map fun feed => { s with feed }
  | .relay i => s.onFeed (.relay i)
  | .drop i j => s.onFeed (.lose i j)
  | .disconnect i => s.onFeed (.leave i)

/-- The stream of a scheduler that has been loaded, before any client. -/
def start (scheduler : Scheduler) : ScheduleStream where
  scheduler
  feed := { first := scheduler.snapshot }

/-- The feed is that of the schedule, as long as it is announced. -/
structure Current (s : ScheduleStream) : Prop where
  current : s.announced = true → s.feed.current = s.scheduler.snapshot
  sound : Sound s.feed fun greeting => s.announced = true → greeting = s.scheduler.snapshot

variable {fromisoformat : String → Except PyExc DateTime}

theorem current_start (scheduler : Scheduler) : (start scheduler).Current :=
  ⟨fun _ => rfl, sound_start _ _⟩

/-- What clients and broadcasts do leaves the snapshot alone. -/
theorem Current.onFeed {s s' : ScheduleStream} (h : s.Current)
    {ev : RetainedFeed.Event ScheduleSnapshot} (hs : s.onFeed ev = some s')
    (hev : ev.snapshots = []) (hgreet : ∀ i, ev ≠ .greet i) : s'.Current := by
  obtain ⟨feed, hfeed, rfl⟩ := Option.map_eq_some_iff.mp hs
  constructor
  · intro hannounced
    show feed.current = s.scheduler.snapshot
    rw [RetainedFeed.current_step hfeed, hev]
    exact h.current hannounced
  · exact sound_step h.sound hfeed (fun i hi => absurd hi (hgreet i)) fun _ _ hg => hg

/-- A client is greeted with the schedule as it is. -/
theorem Current.greet {s : ScheduleStream} (h : s.Current) {i : Nat}
    {feed : Feed ScheduleSnapshot} (hfeed : s.feed.greet i s.scheduler.snapshot = some feed) :
    ({ s with feed } : ScheduleStream).Current := by
  refine ⟨fun hannounced => ?_, h.sound.greet (fun _ => rfl) hfeed⟩
  obtain ⟨c, -, hc⟩ := Option.bind_eq_some_iff.mp hfeed
  obtain ⟨c', -, rfl⟩ := Option.map_eq_some_iff.mp hc
  exact h.current hannounced

/-- What the loop publishes becomes current; what is loaded is not announced. -/
theorem Current.scheduler {s : ScheduleStream} (h : s.Current) {ev : Scheduler.Event}
    {scheduler : Scheduler} (hstep : Scheduler.step fromisoformat s.scheduler ev = some scheduler) :
    ({ scheduler
       announced := !(scheduler.published.drop s.scheduler.published.length).isEmpty ||
        (s.announced && !ev.loads)
       feed := { s.feed with pending := s.feed.pending ++
        scheduler.published.drop s.scheduler.published.length } } : ScheduleStream).Current := by
  cases hloads : ev.loads with
  | true =>
    rw [Scheduler.published_loads hloads hstep, List.drop_length, List.append_nil]
    refine ⟨fun hannounced => ?_, h.sound.mono fun _ _ hannounced => ?_⟩ <;> simp at hannounced
  | false =>
    obtain ⟨new, hpublished, hlast⟩ := Scheduler.announces_step hloads hstep
    have hcreated : scheduler.published.drop s.scheduler.published.length = new := by
      rw [hpublished, List.drop_left]
    rw [hcreated]
    have hfeed : RetainedFeed.step s.feed (.publish new) =
        some { s.feed with pending := s.feed.pending ++ new } := rfl
    cases new with
    | nil =>
      rw [List.append_nil]
      refine ⟨fun hannounced => ?_, h.sound.mono fun greeting hg hannounced => ?_⟩
      · exact (h.current (by simpa using hannounced)).trans hlast
      · exact (hg (by simpa using hannounced)).trans hlast
    | cons snapshot rest =>
      refine ⟨fun _ => ?_, h.sound.publish (List.cons_ne_nil _ _)⟩
      rw [RetainedFeed.current_step hfeed, ← hlast]
      rfl

theorem current_step {s s' : ScheduleStream} {ev : Event} (h : s.Current)
    (hs : step fromisoformat s ev = some s') : s'.Current := by
  cases ev with
  | scheduler ev =>
    obtain ⟨scheduler, hstep, rfl⟩ := Option.map_eq_some_iff.mp hs
    exact h.scheduler hstep
  | broadcast => exact h.onFeed hs rfl (by simp)
  | join => exact h.onFeed hs rfl (by simp)
  | greet i =>
    obtain ⟨feed, hfeed, rfl⟩ := Option.map_eq_some_iff.mp hs
    exact h.greet hfeed
  | relay i => exact h.onFeed hs rfl (by simp)
  | drop i j => exact h.onFeed hs rfl (by simp)
  | disconnect i => exact h.onFeed hs rfl (by simp)

/-- A greeted client to which nothing is on its way has the schedule, if it is announced. -/
theorem Current.settled {s : ScheduleStream} (h : s.Current) (hannounced : s.announced = true)
    {c : Client ScheduleSnapshot} (hc : c ∈ s.feed.clients) (hlost : c.lost = false)
    (hgreeted : c.greeted = true) (hqueue : c.queue = []) (hpending : s.feed.pending = []) :
    c.received.getLast? = some s.scheduler.snapshot := by
  have hfollows : s.feed.Follows s.scheduler.snapshot :=
    ⟨h.current hannounced, h.sound.mono fun _ hg => hg hannounced⟩
  exact hfollows.settled hc hlost hgreeted hqueue hpending

/-! ## The page -/

/-- A message about the schedule. -/
def isSchedule : GroupEvent → Bool
  | .schedule _ => true
  | _ => false

/-- Of the messages that a page gets, those about the schedule are the snapshots that its client
was sent. -/
def Carries (events : List GroupEvent) (snapshots : List ScheduleSnapshot) : Prop :=
  List.Forall₂ (fun ev snapshot => ∃ now, ev = .schedule (snapshot.payload now))
    (events.filter isSchedule) snapshots

/-- The latest report of the schedule is the last of the snapshots. -/
theorem Carries.latest {text : Key → String} {events : List GroupEvent}
    {snapshots : List ScheduleSnapshot} (h : Carries events snapshots)
    {snapshot : ScheduleSnapshot} (hlast : snapshots.getLast? = some snapshot) :
    ∃ now, History.latest (scheduleReport text) events =
      some (normalised (parsed text (snapshot.payload now))) := by
  have hother : ∀ ev, isSchedule ev = false → scheduleReport text ev = none := by
    intro ev hev
    cases ev with
    | schedule payload => cases hev
    | _ => rfl
  obtain ⟨ev, ⟨now, rfl⟩, hlatest⟩ := latest_of_forall₂ h hother
    (fun ev snapshot ⟨now, hev⟩ => by rw [hev]; exact Option.some_ne_none _) hlast
  exact ⟨now, hlatest⟩

/-- A page shows the schedule as the scheduler has it once it has been greeted and nothing is on
its way to it, if the schedule has not been loaded since a snapshot was last published. -/
theorem page_schedule_current {text : Key → String} {display : Js → String}
    {scheduler : Scheduler} {es : List Event} {s : ScheduleStream}
    (hr : System.run (step fromisoformat) (start scheduler) es = some s)
    (hannounced : s.announced = true)
    {c : Client ScheduleSnapshot} (hc : c ∈ s.feed.clients) (hlost : c.lost = false)
    (hgreeted : c.greeted = true) (hqueue : c.queue = []) (hpending : s.feed.pending = [])
    {events : List GroupEvent} (hevents : Carries events c.received) {page : Store}
    (hpage : (Store.step text display).run {} events = some page) :
    ∃ now, page.schedule = normalised (parsed text (s.scheduler.snapshot.payload now)) := by
  have hcurrent : s.Current :=
    run_invariant (fun _ _ _ h hs => current_step h hs) (current_start scheduler) hr
  have hlast := hcurrent.settled hannounced hc hlost hgreeted hqueue hpending
  obtain ⟨now, hlatest⟩ : ∃ now, latest (scheduleReport text) events =
      some (normalised (parsed text (s.scheduler.snapshot.payload now))) := hevents.latest hlast
  have hmirrors := (Store.run_mirrors hpage).schedule
  rw [hlatest] at hmirrors
  exact ⟨now, hmirrors⟩

/-- `datetime.fromisoformat` on the start of the shuttle's run. -/
def tenOClock (text : String) : Except PyExc DateTime :=
  if text = "1970-01-01T10:00:00+00:00" then .ok ⟨36000, some 0⟩ else Scheduler.noTimestamp text

/-- A schedule of one run that has been loaded. -/
def oneShuttle : Scheduler :=
  let fields := [("id", "A"), ("start_time", "1970-01-01T10:00:00+00:00"), ("vehicle_id", "unit-01"),
    ("operator_id", "op"), ("route_id", "bUCR_L1"), ("trip_id", "trip"), ("shape_id", "hacia_artes")]
  let shuttle := PyVal.dict ((.str "direction_id", .int 0) ::
    fields.map fun field => (.str field.1, .str field.2))
  settle ((Scheduler.start (Scheduler.scheduleOf [shuttle])).load tenOClock)

/-- The messages that a client's snapshots make. -/
def messages (c : Client ScheduleSnapshot) : List GroupEvent :=
  c.received.map fun snapshot => .schedule (snapshot.payload "")

theorem carries_messages (c : Client ScheduleSnapshot) : Carries (messages c) c.received := by
  have hall : (messages c).filter isSchedule = messages c := by
    apply List.filter_eq_self.mpr
    intro ev hev
    obtain ⟨snapshot, -, rfl⟩ := List.mem_map.mp hev
    rfl
  unfold Carries
  rw [hall, messages, List.forall₂_map_left_iff, List.forall₂_same]
  exact fun snapshot _ => ⟨"", rfl⟩

/-- The page of a client that was there before the schedule was loaded again shows, once a run is
dispatched, that it was requested. -/
theorem requested_run_shown :
    ∃ s c page, System.run (step tenOClock) (start oneShuttle)
        [.join, .greet 0, .scheduler .reload, .scheduler (.tick 40000), .broadcast, .relay 0] =
          some s ∧
      c ∈ s.feed.clients ∧ c.received.length = 2 ∧
      (s.scheduler.snapshot.runs.map (·.status)) = [.requested] ∧
      (Store.step (fun _ => "") (fun _ => "")).run {} (messages c) = some page ∧
      ∃ now, page.schedule = normalised (parsed (fun _ => "") (s.scheduler.snapshot.payload now)) := by
  let es : List Event :=
    [.join, .greet 0, .scheduler .reload, .scheduler (.tick 40000), .broadcast, .relay 0]
  have hrun : ((System.run (step tenOClock) (start oneShuttle) es).bind fun s =>
      (s.feed.clients.head?).bind fun c =>
        ((Store.step (fun _ => "") (fun _ => "")).run {} (messages c)).map fun _ =>
          ((s.announced, s.feed.pending.length), s.scheduler.snapshot.runs.map (·.status),
            (c.lost, c.greeted, c.queue.length, c.received.length))) =
      some ((true, 0), [.requested], (false, true, 0, 2)) := by
    decide +kernel
  obtain ⟨s, hs, hrun⟩ := Option.bind_eq_some_iff.mp hrun
  obtain ⟨c, hc, hrun⟩ := Option.bind_eq_some_iff.mp hrun
  obtain ⟨page, hpage, hrun⟩ := Option.map_eq_some_iff.mp hrun
  simp only [Prod.mk.injEq] at hrun
  obtain ⟨⟨hannounced, hpending⟩, hstatus, hlost, hgreeted, hqueue, hreceived⟩ := hrun
  have hmem : c ∈ s.feed.clients := List.mem_of_mem_head? hc
  exact ⟨s, c, page, hs, hmem, hreceived, hstatus, hpage,
    page_schedule_current hs hannounced hmem hlost hgreeted (List.length_eq_zero_iff.mp hqueue)
      (List.length_eq_zero_iff.mp hpending) (carries_messages c) hpage⟩

end ScheduleStream

end DatabusSim
