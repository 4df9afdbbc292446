import DatabusSim.Lib.RetainedFeed
import DatabusSim.Services.NavsatClient
import DatabusSim.Static.Store

/-!
# The NavSat overlay on its way to the browser

`navsat_poll_loop` keeps the records of the last fetch that succeeded in `_navsat_snapshot` and
broadcasts them before it sleeps again; `connect` sends them to a new client, unless there are
none. A page to which nothing is on its way shows the records of the latest success, whatever the
vendor has answered since; one that has connected again keeps what it showed before until it is
sent the first records.
-/

namespace DatabusSim

open Transition History RetainedFeed

/-- Where `navsat_poll_loop` is: asleep, in `fetch`, or in `broadcast_navsat`. -/
inductive NavsatLoop where
  | sleeping
  | fetching
  | sending
  deriving DecidableEq

/-- The loop, `_navsat_snapshot` and the feed of it. -/
structure NavsatStream where
  loop : NavsatLoop := .sleeping
  snapshot : List (NavSatRecord ℚ) := []
  feed : Feed (List (NavSatRecord ℚ)) := { first := [] }

namespace NavsatStream

/-- `_to_snapshot`. -/
def toSnapshot (records : List (NavSatRecord ℚ)) : List PyVal :=
  records.map fun r => .dict [(.str "plate_number", .str r.plateNumber),
    (.str "latitude", .float r.latitude), (.str "longitude", .float r.longitude),
    (.str "estado", .str r.estado)]

inductive Event where
  /-- `asyncio.sleep(interval_s)` is over. -/
  | wake
  | reply (r : NavSat.Reply ℚ)
  /-- `broadcast_navsat` reaches the channel layer. -/
  | broadcast
  /-- A client is added to the group. -/
  | join
  /-- `connect` has sent a client what there is. -/
  | greet (i : Nat)
  | relay (i : Nat)
  /-- The channel layer drops what waits for a client. -/
  | drop (i j : Nat)
  | disconnect (i : Nat)

variable (py : Conversions ℚ)

/-- The feed moves, and nothing else does. -/
def onFeed (s : NavsatStream) (ev : RetainedFeed.Event (List (NavSatRecord ℚ))) :
    Option NavsatStream :=
  (RetainedFeed.step s.feed ev).map fun feed => { s with feed }

def step : System NavsatStream Event
  | s, .wake => if s.loop = .sleeping then some { s with loop := .fetching } else none
  | s, .reply r =>
      if s.loop = .fetching then
        match NavSat.fetch py r with
        | .ok records =>
            some { s with
              loop := .sending
              snapshot := records
              feed := { s.feed with pending := s.feed.pending ++ [records] } }
        -- both `except` clauses go on with the loop
        | .error _ => some { s with loop := .sleeping }
      else none
  | s, .broadcast =>
      if s.loop = .sending then ({ s with loop := .sleeping } : NavsatStream).onFeed .broadcast
      else none
  | s, .join => s.onFeed .join
  | s, .greet i => (s.feed.greet i s.snapshot).map fun feed => { s with feed }
  | s, .relay i => s.onFeed (.relay i)
  | s, .drop i j => s.onFeed (.lose i j)
  | s, .disconnect i => s.onFeed (.leave i)

/-- The records of a fetch that succeeds. -/
def fetched : Event → Option (List (NavSatRecord ℚ))
  | .reply r => (NavSat.fetch py r).toOption
  | _ => none

/-- The feed is that of the snapshot, all of which has been broadcast unless the loop is about to. -/
structure Current (s : NavsatStream) : Prop where
  follows : s.feed.Follows s.snapshot
  sent : s.loop ≠ .sending → s.feed.pending = []
  sending : s.loop = .sending → s.feed.pending = [s.snapshot]

theorem current_start : Current {} :=
  ⟨follows_start [], fun _ => rfl, fun h => (nomatch h)⟩

variable {py}

/-- What clients do leaves the snapshot and its broadcast alone. -/
theorem Current.onFeed {s s' : NavsatStream} (h : s.Current)
    {ev : RetainedFeed.Event (List (NavSatRecord ℚ))} (hs : s.onFeed ev = some s')
    (hev : ev.OfClients) : s'.Current ∧ s'.snapshot = s.snapshot := by
  obtain ⟨feed, hfeed, rfl⟩ := Option.map_eq_some_iff.mp hs
  have hpending := pending_step hev hfeed
  refine ⟨⟨h.follows.clients hev hfeed, fun hloop => ?_, fun hloop => ?_⟩, rfl⟩
  · exact hpending.trans (h.sent hloop)
  · exact hpending.trans (h.sending hloop)

theorem current_step {s s' : NavsatStream} {ev : Event} (h : s.Current)
    (hs : step py s ev = some s') :
    s'.Current ∧ s'.snapshot = (fetched py ev).getD s.snapshot := by
  cases ev with
  | wake =>
    simp only [step] at hs
    split at hs
    · rename_i hloop
      cases hs
      exact ⟨⟨h.follows, fun _ => h.sent (by simp [hloop]), fun h' => absurd h' (by simp)⟩, rfl⟩
    · cases hs
  | reply r =>
    simp only [step] at hs
    split at hs
    · rename_i hloop
      have hnone := h.sent (by simp [hloop])
      split at hs
      · rename_i records hfetch
        cases hs
        have hfeed : RetainedFeed.step s.feed (.publish [records]) =
            some { s.feed with pending := s.feed.pending ++ [records] } := rfl
        refine ⟨⟨h.follows.step hfeed, fun h' => absurd rfl h', fun _ => ?_⟩, ?_⟩
        · show s.feed.pending ++ [records] = [records]
          rw [hnone, List.nil_append]
        · simp [fetched, hfetch, Except.toOption]
      · rename_i exc hfetch
        cases hs
        refine ⟨⟨h.follows, fun _ => hnone, fun h' => absurd h' (by simp)⟩, ?_⟩
        simp [fetched, hfetch, Except.toOption]
    · cases hs
  | broadcast =>
    simp only [step] at hs
    split at hs
    · rename_i hloop
      obtain ⟨feed, hfeed, rfl⟩ := Option.map_eq_some_iff.mp hs
      refine ⟨⟨h.follows.step hfeed, fun _ => ?_, fun h' => absurd h' (by simp)⟩, rfl⟩
      have hpending := h.sending hloop
      simp only [RetainedFeed.step, hpending, Option.some.injEq] at hfeed
      rw [← hfeed]
    · cases hs
  | join => exact h.onFeed hs trivial
  | greet i =>
    simp only [step, h.follows.greet] at hs
    exact h.onFeed hs trivial
  | relay i => exact h.onFeed hs trivial
  | drop i j => exact h.onFeed hs trivial
  | disconnect i => exact h.onFeed hs trivial

/-- Along every run the snapshot is that of the latest success. -/
theorem current_run {events : List Event} {s : NavsatStream}
    (hr : (step py).run {} events = some s) :
    s.Current ∧ s.snapshot = (latest (fetched py) events).getD [] := by
  refine history_invariant
    (H := fun events s => Current s ∧ s.snapshot = (latest (fetched py) events).getD [])
    ⟨current_start, rfl⟩ ?_ hr
  intro past s ev s' h _ hs
  obtain ⟨hcurrent, hsnapshot⟩ := current_step h.1 hs
  refine ⟨hcurrent, ?_⟩
  rw [hsnapshot, h.2, latest_concat]
  cases fetched py ev <;> rfl

/-! ## The page -/

/-- The snapshots that are sent to a client: an empty greeting is not. -/
def sentTo (c : Client (List (NavSatRecord ℚ))) : List (List (NavSatRecord ℚ)) :=
  match c.received with
  | [] => []
  | greeting :: relayed => if greeting.isEmpty then relayed else greeting :: relayed

/-- The rows of a message about the overlay. -/
def navsatRows : GroupEvent → Option PyVal
  | .navsat payload => some payload
  | _ => none

/-- The messages that a page gets about the overlay are those sent to its client. -/
def Carries (events : List GroupEvent) (c : Client (List (NavSatRecord ℚ))) : Prop :=
  events.filterMap navsatRows = (sentTo c).map fun records => .list (toSnapshot records)

/-- The overlay as the page has it. -/
def rowsOf (text : Key → String) (records : List (NavSatRecord ℚ)) : Js :=
  parsed text (.list (toSnapshot records))

theorem Carries.latest {text : Key → String} {events : List GroupEvent}
    {c : Client (List (NavSatRecord ℚ))} (h : Carries events c) :
    latest (navsatReport text) events = (sentTo c).getLast?.map (rowsOf text) := by
  have hreports : events.filterMap (navsatReport text) = (sentTo c).map (rowsOf text) := by
    have hsplit : navsatReport text = fun ev =>
        (navsatRows ev).bind fun rows => (some (parsed text rows)).filter Js.isArray := by
      funext ev
      cases ev <;> rfl
    rw [hsplit, ← List.filterMap_filterMap, h, List.filterMap_map]
    apply List.filterMap_eq_map_iff_forall_eq_some.mpr
    intro records _
    rfl
  unfold History.latest
  rw [hreports, List.getLast?_map]

/-- The default of the page is what it shows of no records. -/
theorem last_sent_fresh {c : Client (List (NavSatRecord ℚ))} {records : List (NavSatRecord ℚ)}
    (h : c.received.getLast? = some records) (text : Key → String) :
    ((sentTo c).getLast?.map (rowsOf text)).getD (.arr []) = rowsOf text records := by
  unfold sentTo
  cases hreceived : c.received with
  | nil => simp [hreceived] at h
  | cons greeting relayed =>
    rw [hreceived] at h
    dsimp only
    split
    · rename_i hempty
      cases relayed with
      | nil =>
        cases h
        rw [List.isEmpty_iff.mp hempty]
        rfl
      | cons first rest =>
        rw [List.getLast?_cons_cons] at h
        rw [h]
        rfl
    · rw [h]
      rfl

/-- What a page has of an earlier connection does not matter once something is sent. -/
theorem last_sent {c : Client (List (NavSatRecord ℚ))} {records : List (NavSatRecord ℚ)}
    (h : c.received.getLast? = some records) (text : Key → String) {kept : Js}
    (hkept : kept = .arr [] ∨ sentTo c ≠ []) :
    ((sentTo c).getLast?.map (rowsOf text)).getD kept = rowsOf text records := by
  rw [← last_sent_fresh h text]
  rcases hkept with rfl | hsent
  · rfl
  · rw [List.getLast?_eq_some_getLast hsent]
    rfl

/-- Whatever the vendor answers, the overlay is that of the latest fetch that succeeded, and a page
to which nothing is on its way shows it: one that is newly opened, or that has been sent records
since it connected again. -/
theorem overlay_current {events : List Event} {s : NavsatStream}
    (hr : (step py).run {} events = some s) :
    s.snapshot = (latest (fetched py) events).getD [] ∧
      ∀ c ∈ s.feed.clients, c.lost = false → c.greeted = true → c.queue = [] →
        s.loop ≠ .sending → ∀ (text : Key → String) (display : Js → String) messages kept page,
          Carries messages c → kept.navsat = .arr [] ∨ sentTo c ≠ [] →
            (Store.step text display).run kept messages = some page →
              page.navsat = rowsOf text ((latest (fetched py) events).getD []) := by
  have hcurrent := current_run hr
  refine ⟨hcurrent.2, ?_⟩
  intro c hc hlost hgreeted hqueue hloop text display messages kept page hmessages hkept hpage
  have hlast := hcurrent.1.follows.settled hc hlost hgreeted hqueue (hcurrent.1.sent hloop)
  rw [Store.run_navsat hpage, hmessages.latest, last_sent hlast text hkept, hcurrent.2]

/-- The reply of a vendor that knows one bus. -/
def oneBus (plate : String) : NavSat.Reply ℚ :=
  .success 200 none "" (some (.list [.dict (NavSat.vehicle plate (.str "9"))]))

/-- A second fetch fails, and a page that joined late shows what the first has brought. -/
theorem late_page_has_overlay :
    ∃ s c page, (step NavSat.exact).run {} [.wake, .reply (oneBus "SJB1"), .broadcast, .wake,
        .reply (.httpError "timed out"), .join, .greet 0] = some s ∧ c ∈ s.feed.clients ∧
      (Store.step (fun _ => "") (fun _ => "")).run {}
        [.navsat (.list (toSnapshot s.snapshot))] = some page ∧
      page.navsat = rowsOf (fun _ => "") [NavSat.stopped "SJB1" 9] := by
  let events : List Event := [.wake, .reply (oneBus "SJB1"), .broadcast, .wake,
    .reply (.httpError "timed out"), .join, .greet 0]
  have hrun : (((step NavSat.exact).run {} events).bind fun s =>
      (s.feed.clients.head?).bind fun c =>
        ((Store.step (fun _ => "") (fun _ => "")).run {}
          [.navsat (.list (toSnapshot s.snapshot))]).map fun _ =>
            decide (s.loop = .sleeping ∧ s.snapshot = [NavSat.stopped "SJB1" 9] ∧
              c.received = [[NavSat.stopped "SJB1" 9]] ∧ c.lost = false ∧ c.greeted = true ∧
              c.queue = [])) = some true := by
    decide +kernel
  obtain ⟨s, hs, hrun⟩ := Option.bind_eq_some_iff.mp hrun
  obtain ⟨c, hc, hrun⟩ := Option.bind_eq_some_iff.mp hrun
  obtain ⟨page, hpage, hrun⟩ := Option.map_eq_some_iff.mp hrun
  obtain ⟨hloop, hsnapshot, hreceived, hlost, hgreeted, hqueue⟩ := of_decide_eq_true hrun
  have hmem : c ∈ s.feed.clients := List.mem_of_mem_head? hc
  have hcarries : Carries [.navsat (.list (toSnapshot s.snapshot))] c := by
    rw [hsnapshot]
    unfold Carries sentTo
    rw [hreceived]
    rfl
  have hcurrent := overlay_current hs
  have hnavsat := hcurrent.2 c hmem hlost hgreeted hqueue (by simp [hloop]) (fun _ => "")
    (fun _ => "") _ {} page hcarries (.inl rfl) hpage
  rw [← hcurrent.1, hsnapshot] at hnavsat
  exact ⟨s, c, page, hs, hmem, hpage, hnavsat⟩

end NavsatStream

end DatabusSim
