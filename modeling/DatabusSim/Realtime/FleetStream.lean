import DatabusSim.Lib.RetainedFeed
import DatabusSim.Realtime.BroadcastUpdates
import DatabusSim.Static.Store

/-!
# The fleet on its way to the browser

A change of the fleet creates a task that calls `broadcast_fleet` with the snapshot of that moment,
and the tick loop calls it with the fleet as it is after each round; the throttle behind it sends
some of the snapshots, at once or later. `connect` greets a client with the fleet as it is. Once
nothing is on its way any more a page shows the fleet, unless the last call found an older snapshot
waiting (`page_fleet_current`): whatever was dropped before that does not matter.
-/

namespace DatabusSim

open Transition History RetainedFeed

/-- The fleet, the tasks that have not reached `broadcast_fleet`, the throttle and the feed behind
it. -/
structure FleetStream (S : Type) where
  fleet : S
  /-- The last of the calls that are made or wait is of the fleet as it is, or nothing has changed
  yet. -/
  announced : Bool := true
  tasks : List S := []
  throttle : Throttle S
  feed : Feed S

namespace FleetStream

inductive Event (S : Type) where
  /-- The fleet changes and nobody is told: in a step of the tick loop, or where `on_change` has
  failed. -/
  | mutate (fleet : S)
  /-- A mutator of the fleet: `on_change` creates a task. -/
  | notify (fleet : S)
  /-- The oldest task reaches `broadcast_fleet`. -/
  | run (now : ℚ)
  /-- The tick loop calls `broadcast_fleet` itself. -/
  | tick (now : ℚ)
  /-- What becomes of the deferred tasks. -/
  | deferred (ev : Throttle.Event S)
  /-- A snapshot reaches the channel layer. -/
  | broadcast
  /-- A client is added to the group. -/
  | join
  /-- `connect` has sent a client the fleet. -/
  | greet (i : Nat)
  | relay (i : Nat)
  /-- The channel layer drops what waits for a client. -/
  | drop (i j : Nat)
  | disconnect (i : Nat)

variable {S : Type}

/-- The event is a call of `broadcast_fleet`. -/
def Event.isCall : Event S → Bool
  | .run _ => true
  | .tick _ => true
  | _ => false

/-- The throttle moves; what it sends goes to the channel layer. -/
def onThrottle (s : FleetStream S) (ev : Throttle.Event S) : Option (FleetStream S) :=
  (s.throttle.step ev).map fun throttle =>
    { s with
      throttle
      feed := { s.feed with
        pending := s.feed.pending ++
          (throttle.sent.drop s.throttle.sent.length).map Sent.snapshot } }

/-- The feed moves, and nothing else does. -/
def onFeed (s : FleetStream S) (ev : RetainedFeed.Event S) : Option (FleetStream S) :=
  (RetainedFeed.step s.feed ev).map fun feed => { s with feed }

def step : System (FleetStream S) (Event S)
  | s, .mutate fleet => some { s with fleet, announced := false }
  | s, .notify fleet => some { s with fleet, announced := true, tasks := s.tasks ++ [fleet] }
  | s, .run now =>
      match s.tasks with
      | [] => none
      | snapshot :: tasks => ({ s with tasks } : FleetStream S).onThrottle (.call now snapshot)
  -- a task that waits makes its call after this one
  | s, .tick now =>
      ({ s with announced := s.announced || s.tasks.isEmpty } : FleetStream S).onThrottle
        (.call now s.fleet)
  | s, .deferred ev => if ev.isCall then none else s.onThrottle ev
  | s, .broadcast => s.onFeed .broadcast
  | s, .join => s.onFeed .join
  | s, .greet i => (s.feed.greet i s.fleet).map fun feed => { s with feed }
  | s, .relay i => s.onFeed (.relay i)
  | s, .drop i j => s.onFeed (.lose i j)
  | s, .disconnect i => s.onFeed (.leave i)

/-- What an event makes of the fleet. -/
def changed : Event S → Option S
  | .mutate fleet => some fleet
  | .notify fleet => some fleet
  | _ => none

/-- The stream before the first change. -/
def start (fleet : S) (clock : ℚ) : FleetStream S where
  fleet := fleet
  throttle := Throttle.init clock
  feed := { first := fleet }

/-- The call does not find another snapshot waiting in the throttle. -/
def Keeps (s : FleetStream S) : Event S → Prop
  | .run now => ∀ snapshot ∈ s.tasks.head?, s.throttle.Keeps (.call now snapshot)
  | .tick now => s.throttle.Keeps (.call now s.fleet)
  | _ => True

/-- The last call of the run does not, if there is one. -/
def KeepsLast (s₀ : FleetStream S) (events : List (Event S)) : Prop :=
  (∀ ev ∈ events, ev.isCall = false) ∨
    ∃ past ev rest m, events = past ++ ev :: rest ∧ step.run s₀ past = some m ∧
      ev.isCall = true ∧ m.Keeps ev ∧ ∀ e ∈ rest, Event.isCall e = false

/-- Nothing is on its way. -/
structure Settled (s : FleetStream S) : Prop where
  announced : s.announced = true
  tasks : s.tasks = []
  throttle : s.throttle.Quiescent
  feed : s.feed.pending = []

/-! ## What the throttle does -/

/-- The snapshot that a call brings. -/
def called : Throttle.Event S → List S
  | .call _ snapshot => [snapshot]
  | _ => []

/-- The throttle sends something, or else a call leaves a task behind, and nothing else changes the
handle of the task. -/
theorem throttle_cases {s s' : Throttle S} {ev : Throttle.Event S} (h : s.Steady)
    (hs : s.step ev = some s') :
    s'.calls = s.calls ++ called ev ∧
      ((∃ x, s'.sent = s.sent ++ [x]) ∨
        s'.sent = s.sent ∧
          (s'.throttleTask = none → ev.isCall = false ∧ s.throttleTask = none)) := by
  cases hcall : ev.isCall with
  | true =>
    cases ev with
    | call now snapshot =>
      obtain ⟨hn, rfl⟩ := Throttle.step_call hs
      have hclock : ({ s with clock := now } : Throttle S).Steady := h.at_clock hn
      rcases hclock.broadcastFleet_cases snapshot with ⟨-, heq⟩ | ⟨-, -, heq⟩ | ⟨-, hsome, heq⟩
      · obtain ⟨-, -, hcalls, hsent, -⟩ := (hclock.call snapshot).overtaken
        rw [heq]
        exact ⟨hcalls, .inl ⟨_, congrArg (· ++ [_]) hsent⟩⟩
      · rw [heq]
        exact ⟨rfl, .inr ⟨rfl, fun hnone => (nomatch hnone)⟩⟩
      · rw [heq]
        exact ⟨rfl, .inr ⟨rfl, fun hnone => absurd hnone hsome⟩⟩
    | _ => cases hcall
  | false =>
    have hcalled : called ev = [] := by
      cases ev with
      | call now snapshot => cases hcall
      | _ => rfl
    rw [hcalled, List.append_nil]
    rcases h.step_cases hs with
      ⟨now, snapshot, rfl, -, -⟩ | ⟨now, i, d, d', -, -, -, -, -, -, -, rfl⟩ |
      ⟨now, i, d, hn, hd, hl, -, rfl⟩ | ⟨i, d, d', -, -, -, -, -, rfl⟩
    · cases hcall
    · exact ⟨rfl, .inr ⟨rfl, fun hnone => ⟨rfl, hnone⟩⟩⟩
    · rw [(h.at_clock hn).deferredSection_eq hd hl]
      exact ⟨rfl, .inl ⟨_, rfl⟩⟩
    · exact ⟨rfl, .inr ⟨rfl, fun hnone => ⟨rfl, hnone⟩⟩⟩

/-- A call that finds no other snapshot waiting settles what comes last, whatever was before it. -/
theorem current_call {s s' : Throttle S} {now : ℚ} {snapshot : S} (h : s.Steady)
    (hs : s.step (.call now snapshot) = some s') (hkeep : s.Keeps (.call now snapshot)) :
    s'.Current := by
  have hsteady := Throttle.steady_step h hs
  obtain ⟨hn, rfl⟩ := Throttle.step_call hs
  have hclock : ({ s with clock := now } : Throttle S).Steady := h.at_clock hn
  have hlast : (s.calls ++ [snapshot]).getLast? = some snapshot := List.getLast?_concat
  rcases hclock.broadcastFleet_cases snapshot with
    ⟨-, heq⟩ | ⟨-, -, heq⟩ | ⟨helapsed, hsome, heq⟩
  · obtain ⟨-, hnone, hcalls, -⟩ := (hclock.call snapshot).overtaken
    rw [heq] at hsteady ⊢
    exact Throttle.current_publish hsteady hnone (by rw [hcalls]; exact hlast)
  · rw [heq] at hsteady ⊢
    refine ⟨hsteady, fun i d hd hl => ?_, fun hnone => (nomatch hnone)⟩
    have hi := (hsteady.owner i).mpr ⟨d, hd, hl⟩
    cases hi
    rw [List.getElem?_concat_length] at hd
    cases hd
    exact hlast
  · rw [heq] at hsteady ⊢
    refine ⟨hsteady, fun i d hd hl => ?_, fun hnone => absurd hnone hsome⟩
    rw [hkeep helapsed i d hd hl]
    exact hlast

/-! ## The invariant -/

/-- A client that is greeted now, and sent nothing more, has the fleet. -/
def Idle (s : FleetStream S) : Prop :=
  s.announced = true ∧ s.tasks = [] ∧ s.throttle.throttleTask = none

/-- What holds in every run. -/
structure Inv (s : FleetStream S) : Prop where
  steady : s.throttle.Steady
  history : s.feed.sent ++ s.feed.pending = s.throttle.sent.map Sent.snapshot
  order : s.announced = true → ∀ x ∈ (s.throttle.calls ++ s.tasks).getLast?, x = s.fleet
  sound : Sound s.feed fun greeting => s.Idle → greeting = s.fleet

theorem inv_start (fleet : S) (clock : ℚ) : (start fleet clock).Inv where
  steady := Throttle.steady_init clock
  history := rfl
  order _ x hx := by cases hx
  sound := sound_start _ _

/-- The throttle moves; `s` is the stream as it was before the event. -/
theorem Inv.onThrottle {s s' : FleetStream S} {ev : Throttle.Event S} (h : s.Inv)
    (m : FleetStream S) (hthrottle : m.throttle = s.throttle) (hfeed : m.feed = s.feed)
    (hs : m.onThrottle ev = some s')
    (horder : m.announced = true →
      ∀ x ∈ (s.throttle.calls ++ called ev ++ m.tasks).getLast?, x = m.fleet)
    (hidle : ev.isCall = false → m.Idle → s.Idle ∧ m.fleet = s.fleet) : s'.Inv := by
  obtain ⟨throttle, hstep, rfl⟩ := Option.map_eq_some_iff.mp hs
  rw [hthrottle] at hstep
  obtain ⟨hcalls, hsent⟩ := throttle_cases h.steady hstep
  have hdrop : (throttle.sent.drop s.throttle.sent.length).map Sent.snapshot =
      (throttle.sent.map Sent.snapshot).drop s.throttle.sent.length := List.map_drop
  have hpre : throttle.sent.map Sent.snapshot = s.throttle.sent.map Sent.snapshot ++
      (throttle.sent.drop s.throttle.sent.length).map Sent.snapshot := by
    rcases hsent with ⟨x, hx⟩ | ⟨hsame, -⟩
    · rw [hx]
      simp
    · rw [hsame]
      simp
  constructor
  · exact Throttle.steady_step h.steady hstep
  · show m.feed.sent ++ (m.feed.pending ++
      (throttle.sent.drop m.throttle.sent.length).map Sent.snapshot) = _
    rw [hfeed, hthrottle, ← List.append_assoc, h.history, ← hpre]
  · intro hannounced x hx
    have hx : x ∈ (throttle.calls ++ m.tasks).getLast? := hx
    rw [hcalls] at hx
    exact horder hannounced x hx
  · show Sound { m.feed with pending := m.feed.pending ++
      (throttle.sent.drop m.throttle.sent.length).map Sent.snapshot } _
    rw [hfeed, hthrottle]
    rcases hsent with ⟨x, hx⟩ | ⟨hsame, hhandle⟩
    · refine h.sound.publish ?_
      rw [hx]
      simp
    · rw [hsame, List.drop_length, List.map_nil, List.append_nil]
      refine h.sound.mono fun greeting hgreeting hnow => ?_
      obtain ⟨hcall, hnone⟩ := hhandle hnow.2.2
      obtain ⟨hs, hfleet⟩ := hidle hcall ⟨hnow.1, hnow.2.1, by rw [hthrottle]; exact hnone⟩
      exact (hgreeting hs).trans hfleet.symm

theorem Inv.onFeed {s s' : FleetStream S} {ev : RetainedFeed.Event S} (h : s.Inv)
    (hs : s.onFeed ev = some s') (hev : ev.snapshots = []) (hgreet : ∀ i, ev ≠ .greet i) :
    s'.Inv := by
  obtain ⟨feed, hfeed, rfl⟩ := Option.map_eq_some_iff.mp hs
  constructor
  · exact h.steady
  · exact (history_step hev hfeed).trans h.history
  · exact h.order
  · exact sound_step h.sound hfeed (fun i hi => absurd hi (hgreet i)) fun _ _ hg => hg

theorem inv_step {s s' : FleetStream S} {ev : Event S} (h : s.Inv) (hs : step s ev = some s') :
    s'.Inv := by
  cases ev with
  | mutate fleet =>
    cases hs
    refine ⟨h.steady, h.history, fun hannounced => (nomatch hannounced), ?_⟩
    exact h.sound.mono fun _ _ hidle => (nomatch hidle.1)
  | notify fleet =>
    cases hs
    refine ⟨h.steady, h.history, fun _ x hx => ?_, ?_⟩
    · have hx : x ∈ (s.throttle.calls ++ (s.tasks ++ [fleet])).getLast? := hx
      rw [← List.append_assoc, List.getLast?_concat] at hx
      exact (Option.mem_some_iff.mp hx).symm
    · refine h.sound.mono fun _ _ hidle => ?_
      have hnil : s.tasks ++ [fleet] = [] := hidle.2.1
      simp at hnil
  | run now =>
    cases htasks : s.tasks with
    | nil =>
      simp only [step, htasks] at hs
      cases hs
    | cons snapshot tasks =>
      simp only [step, htasks] at hs
      refine h.onThrottle { s with tasks } rfl rfl hs (fun hannounced x hx => ?_)
        fun hcall => (nomatch hcall)
      have hx : x ∈ (s.throttle.calls ++ [snapshot] ++ tasks).getLast? := hx
      rw [List.append_assoc, List.singleton_append, ← htasks] at hx
      exact h.order hannounced x hx
  | tick now =>
    simp only [step] at hs
    refine h.onThrottle { s with announced := s.announced || s.tasks.isEmpty } rfl rfl hs
      (fun hannounced x hx => ?_) fun hcall => (nomatch hcall)
    have hx : x ∈ (s.throttle.calls ++ [s.fleet] ++ s.tasks).getLast? := hx
    cases htasks : s.tasks with
    | nil =>
      rw [htasks, List.append_nil, List.getLast?_concat] at hx
      exact (Option.mem_some_iff.mp hx).symm
    | cons snapshot tasks =>
      rw [htasks] at hannounced
      have horder := h.order (by simpa using hannounced) x
      rw [htasks] at hx horder
      rw [List.getLast?_append_cons] at hx horder
      exact horder hx
  | deferred ev =>
    simp only [step] at hs
    split at hs
    · cases hs
    · rename_i hcall
      have hcalled : called ev = [] := by
        cases ev with
        | call now snapshot => exact absurd rfl hcall
        | _ => rfl
      refine h.onThrottle s rfl rfl hs (fun hannounced x hx => ?_) fun _ hidle => ⟨hidle, rfl⟩
      rw [hcalled, List.append_nil] at hx
      exact h.order hannounced x hx
  | broadcast => exact h.onFeed hs rfl nofun
  | join => exact h.onFeed hs rfl nofun
  | greet i =>
    obtain ⟨feed, hfeed, rfl⟩ := Option.map_eq_some_iff.mp hs
    obtain ⟨c, -, hc⟩ := Option.bind_eq_some_iff.mp hfeed
    obtain ⟨c', -, hset⟩ := Option.map_eq_some_iff.mp hc
    refine ⟨h.steady, ?_, h.order, h.sound.greet (fun _ => rfl) hfeed⟩
    rw [← hset]
    exact h.history
  | relay i => exact h.onFeed hs rfl nofun
  | drop i j => exact h.onFeed hs rfl nofun
  | disconnect i => exact h.onFeed hs rfl nofun

/-! ## The last call -/

theorem throttle_onFeed {s s' : FleetStream S} {ev : RetainedFeed.Event S}
    (hs : s.onFeed ev = some s') : s'.throttle = s.throttle := by
  obtain ⟨feed, -, rfl⟩ := Option.map_eq_some_iff.mp hs
  rfl

theorem fleet_onFeed {s s' : FleetStream S} {ev : RetainedFeed.Event S}
    (hs : s.onFeed ev = some s') : s'.fleet = s.fleet := by
  obtain ⟨feed, -, rfl⟩ := Option.map_eq_some_iff.mp hs
  rfl

theorem fleet_step {s s' : FleetStream S} {ev : Event S} (hs : step s ev = some s') :
    s'.fleet = (changed ev).getD s.fleet := by
  cases ev with
  | mutate fleet =>
    cases hs
    rfl
  | notify fleet =>
    cases hs
    rfl
  | run now =>
    simp only [step] at hs
    split at hs
    · cases hs
    · obtain ⟨throttle, -, rfl⟩ := Option.map_eq_some_iff.mp hs
      rfl
  | tick now =>
    obtain ⟨throttle, -, rfl⟩ := Option.map_eq_some_iff.mp hs
    rfl
  | deferred ev =>
    simp only [step] at hs
    split at hs
    · cases hs
    · obtain ⟨throttle, -, rfl⟩ := Option.map_eq_some_iff.mp hs
      rfl
  | greet i =>
    obtain ⟨feed, -, rfl⟩ := Option.map_eq_some_iff.mp hs
    rfl
  | _ => exact fleet_onFeed hs

/-- Between calls the deferred tasks deliver what they hold. -/
theorem throttle_current_step {s s' : FleetStream S} {ev : Event S} (h : s.throttle.Current)
    (hs : step s ev = some s') (hcall : ev.isCall = false) : s'.throttle.Current := by
  cases ev with
  | mutate fleet =>
    cases hs
    exact h
  | notify fleet =>
    cases hs
    exact h
  | run now => cases hcall
  | tick now => cases hcall
  | deferred ev =>
    simp only [step] at hs
    split at hs
    · cases hs
    · rename_i hev
      obtain ⟨throttle, hstep, rfl⟩ := Option.map_eq_some_iff.mp hs
      exact Throttle.current_step h hstep (s.throttle.keeps_of_not_call (Bool.eq_false_iff.mpr hev))
  | greet i =>
    obtain ⟨feed, -, rfl⟩ := Option.map_eq_some_iff.mp hs
    exact h
  | _ => exact throttle_onFeed hs ▸ h

/-- A call that finds no other snapshot waiting makes up for the ones before it. -/
theorem throttle_current_call {s s' : FleetStream S} {ev : Event S} (h : s.throttle.Steady)
    (hs : step s ev = some s') (hcall : ev.isCall = true) (hkeep : s.Keeps ev) :
    s'.throttle.Current := by
  cases ev with
  | run now =>
    cases htasks : s.tasks with
    | nil =>
      simp only [step, htasks] at hs
      cases hs
    | cons snapshot tasks =>
      simp only [step, htasks] at hs
      obtain ⟨throttle, hstep, rfl⟩ := Option.map_eq_some_iff.mp hs
      have hhead : snapshot ∈ s.tasks.head? := by
        rw [htasks]
        rfl
      exact current_call h hstep (hkeep snapshot hhead)
  | tick now =>
    obtain ⟨throttle, hstep, rfl⟩ := Option.map_eq_some_iff.mp hs
    exact current_call h hstep hkeep
  | _ => cases hcall

theorem inv_run {fleet : S} {clock : ℚ} {events : List (Event S)} {s : FleetStream S}
    (hr : System.run step (start fleet clock) events = some s) : s.Inv :=
  run_invariant (fun _ _ _ h hs => inv_step h hs) (inv_start fleet clock) hr

theorem throttle_current_rest {rest : List (Event S)} {m s : FleetStream S}
    (h : m.throttle.Current) (hrest : ∀ ev ∈ rest, ev.isCall = false)
    (hr : System.run step m rest = some s) : s.throttle.Current := by
  induction rest generalizing m with
  | nil =>
    cases hr
    exact h
  | cons ev rest ih =>
    obtain ⟨m', hstep, hr⟩ := run_cons_some.mp hr
    have hcall := hrest ev List.mem_cons_self
    exact ih (throttle_current_step h hstep hcall)
      (fun e he => hrest e (List.mem_cons_of_mem ev he)) hr

/-- Only the last call matters for what comes last. -/
theorem throttle_current {fleet : S} {clock : ℚ} {events : List (Event S)} {s : FleetStream S}
    (hr : System.run step (start fleet clock) events = some s)
    (hkeep : KeepsLast (start fleet clock) events) : s.throttle.Current := by
  rcases hkeep with hnone | ⟨past, ev, rest, m, rfl, hm, hcall, hkeep, hrest⟩
  · exact throttle_current_rest (Throttle.current_init clock) hnone hr
  · obtain ⟨m', hm', hr⟩ := run_append_some.mp hr
    rw [hm] at hm'
    cases hm'
    obtain ⟨m', hstep, hr⟩ := run_cons_some.mp hr
    exact throttle_current_rest
      (throttle_current_call (inv_run hm).steady hstep hcall hkeep) hrest hr

/-- With nothing on its way, a client has the fleet: from a broadcast, or from its greeting. -/
theorem Inv.settled {s : FleetStream S} (h : s.Inv) (hcurrent : s.throttle.Current)
    (hsettled : s.Settled) {c : Client S} (hc : c ∈ s.feed.clients) (hlost : c.lost = false)
    (hgreeted : c.greeted = true) (hqueue : c.queue = []) :
    c.received.getLast? = some s.fleet := by
  obtain ⟨last, hlast, hcases⟩ := h.sound.settled hc hlost hgreeted hqueue hsettled.feed
  rw [hlast]
  rcases hcases with hsent | hgreeting
  · have hhistory := h.history
    rw [hsettled.feed, List.append_nil] at hhistory
    rw [hhistory, List.getLast?_map] at hsent
    have hcalls : s.throttle.calls.getLast? = some last :=
      (hcurrent.upToDate hsettled.throttle).symm.trans hsent
    have horder := h.order hsettled.announced last
    rw [hsettled.tasks, List.append_nil] at horder
    rw [horder hcalls]
  · have hnone := h.steady.quiescent_iff.mp hsettled.throttle
    rw [hgreeting ⟨hsettled.announced, hsettled.tasks, hnone⟩]

/-! ## Where a snapshot comes from -/

/-- The fleet has the property, and so have the snapshots on their way. -/
structure Everywhere (P : S → Prop) (s : FleetStream S) : Prop where
  fleet : P s.fleet
  tasks (x) : x ∈ s.tasks → P x
  calls (x) : x ∈ s.throttle.calls → P x
  feed : s.feed.All P

section Everywhere

variable {P : S → Prop}

/-- What the throttle sends is out of the calls. -/
theorem Everywhere.onThrottle {s s' : FleetStream S} {ev : Throttle.Event S} (h : s.Everywhere P)
    (hsteady : s.throttle.Steady) (hs : s.onThrottle ev = some s')
    (hcalled : ∀ x ∈ called ev, P x) : s'.Everywhere P := by
  obtain ⟨throttle, hstep, rfl⟩ := Option.map_eq_some_iff.mp hs
  obtain ⟨hcalls, -⟩ := throttle_cases hsteady hstep
  have hall : ∀ x ∈ throttle.calls, P x := by
    intro x hx
    rw [hcalls] at hx
    exact (List.mem_append.mp hx).elim (h.calls x) (hcalled x)
  refine ⟨h.fleet, h.tasks, hall, h.feed.publish fun x hx => ?_⟩
  obtain ⟨sent, hsent, rfl⟩ := List.mem_map.mp hx
  have hsource := (Throttle.steady_step hsteady hstep).sentSource sent (List.mem_of_mem_drop hsent)
  exact hall sent.snapshot (List.mem_of_getElem? hsource)

theorem Everywhere.onFeed {s s' : FleetStream S} {ev : RetainedFeed.Event S} (h : s.Everywhere P)
    (hs : s.onFeed ev = some s') (hev : ev.snapshots = []) (hgreet : ∀ i, ev ≠ .greet i) :
    s'.Everywhere P := by
  obtain ⟨feed, hfeed, rfl⟩ := Option.map_eq_some_iff.mp hs
  refine ⟨h.fleet, h.tasks, h.calls, all_step h.feed hfeed (fun x hx => ?_) fun i hi => ?_⟩
  · rw [hev] at hx
    cases hx
  · exact absurd hi (hgreet i)

end Everywhere

/-! ## The page -/

/-- The dictionary that `Fleet.snapshot` returns at the time `publishedAt`. -/
def payload (vehicles : List PyVal) (publishedAt : String) : PyVal :=
  .dict [(.str "vehicles", .list vehicles), (.str "published_at", .str publishedAt)]

/-- A message about the fleet. -/
def isFleet : GroupEvent → Bool
  | .fleet _ => true
  | _ => false

/-- Of the messages that a page gets, those about the fleet are the snapshots that its client was
sent; `vehicles` are the dictionaries in a snapshot. -/
def Carries (vehicles : S → List PyVal) (messages : List GroupEvent) (snapshots : List S) : Prop :=
  List.Forall₂ (fun ev snapshot => ∃ now, ev = .fleet (payload (vehicles snapshot) now))
    (messages.filter isFleet) snapshots

variable {vehicles : S → List PyVal} {text : Key → String}

theorem Carries.latest {messages : List GroupEvent} {snapshots : List S}
    (h : Carries vehicles messages snapshots) {snapshot : S}
    (hlast : snapshots.getLast? = some snapshot) :
    ∃ now, History.latest (fleetReport text) messages =
      some (parsed text (payload (vehicles snapshot) now)) := by
  have hother : ∀ ev, isFleet ev = false → fleetReport text ev = none := by
    intro ev hev
    cases ev with
    | fleet payload => cases hev
    | _ => rfl
  have hreport : ∀ snapshot now, fleetReport text (.fleet (payload (vehicles snapshot) now)) =
      some (parsed text (payload (vehicles snapshot) now)) := fun _ _ => rfl
  obtain ⟨ev, ⟨now, rfl⟩, hlatest⟩ := latest_of_forall₂ h hother
    (fun ev snapshot ⟨now, hev⟩ => by rw [hev, hreport]; exact Option.some_ne_none _) hlast
  exact ⟨now, hlatest.trans (hreport snapshot now)⟩

theorem Carries.mem {messages : List GroupEvent} {snapshots : List S}
    (h : Carries vehicles messages snapshots) {ev : GroupEvent} (hev : ev ∈ messages)
    (hfleet : isFleet ev = true) :
    ∃ snapshot ∈ snapshots, ∃ now, ev = .fleet (payload (vehicles snapshot) now) := by
  have hmem : ev ∈ messages.filter isFleet := List.mem_filter.mpr ⟨hev, hfleet⟩
  obtain ⟨i, hi, rfl⟩ := List.mem_iff_getElem.mp hmem
  have hi' : i < snapshots.length := h.length_eq ▸ hi
  exact ⟨snapshots[i], List.getElem_mem hi', h.get hi hi'⟩

/-- With nothing on its way, the last snapshot that a client has been sent is of the fleet as the
latest change has made it. -/
theorem last_received {fleet : S} {clock : ℚ} {events : List (Event S)} {s : FleetStream S}
    (hr : System.run step (start fleet clock) events = some s)
    (hkeep : KeepsLast (start fleet clock) events) (hsettled : s.Settled) {c : Client S}
    (hc : c ∈ s.feed.clients) (hlost : c.lost = false) (hgreeted : c.greeted = true)
    (hqueue : c.queue = []) : c.received.getLast? = some ((latest changed events).getD fleet) := by
  have hfleet : s.fleet = (latest changed events).getD fleet :=
    run_latest hr fun _ _ _ => fleet_step
  rw [← hfleet]
  exact (inv_run hr).settled (throttle_current hr hkeep) hsettled hc hlost hgreeted hqueue

/-- A page shows the fleet as it is once nothing is on its way to it, if the last call of
`broadcast_fleet` found no other snapshot waiting. -/
theorem page_fleet_current {fleet : S} {clock : ℚ} {events : List (Event S)} {s : FleetStream S}
    (hr : System.run step (start fleet clock) events = some s)
    (hkeep : KeepsLast (start fleet clock) events) (hsettled : s.Settled) {c : Client S}
    (hc : c ∈ s.feed.clients) (hlost : c.lost = false) (hgreeted : c.greeted = true)
    (hqueue : c.queue = []) {display : Js → String} {messages : List GroupEvent}
    (hmessages : Carries vehicles messages c.received) {page : Store}
    (hpage : (Store.step text display).run {} messages = some page) :
    ∃ now, page.fleet =
      parsed text (payload (vehicles ((latest changed events).getD fleet)) now) := by
  have hlast := last_received hr hkeep hsettled hc hlost hgreeted hqueue
  obtain ⟨now, hlatest⟩ : ∃ now, latest (fleetReport text) messages = some (parsed text
      (payload (vehicles ((latest changed events).getD fleet)) now)) := hmessages.latest hlast
  have hmirrors := (Store.run_mirrors hpage).fleet
  rw [hlatest] at hmirrors
  exact ⟨now, hmirrors⟩

/-- The fleet of one vehicle that has gone so far. -/
def oneVehicle (progressM : ℚ) : List PyVal :=
  [.dict [(.str "vehicle_id", .str "unit-01"), (.str "progress_m", .float progressM)]]

/-- Three changes within 200 ms: the third finds the second waiting, which is then the last that is
sent. -/
def burst : List (Event (List PyVal)) :=
  [.join, .greet 0, .notify (oneVehicle 1), .run 1, .notify (oneVehicle 2), .run (21 / 20),
    .deferred (.start (21 / 20) 0), .notify (oneVehicle 3), .run (11 / 10),
    .deferred (.wake (6 / 5) 0), .deferred (.resume (6 / 5) 0), .deferred (.finish 0)]

/-- The messages that a client's snapshots make. -/
def messages (vehicles : S → List PyVal) (c : Client S) : List GroupEvent :=
  c.received.map fun snapshot => .fleet (payload (vehicles snapshot) "")

theorem carries_messages (vehicles : S → List PyVal) (c : Client S) :
    Carries vehicles (messages vehicles c) c.received := by
  have hall : (messages vehicles c).filter isFleet = messages vehicles c := by
    apply List.filter_eq_self.mpr
    intro ev hev
    obtain ⟨snapshot, -, rfl⟩ := List.mem_map.mp hev
    rfl
  unfold Carries
  rw [hall, messages, List.forall₂_map_left_iff, List.forall₂_same]
  exact fun snapshot _ => ⟨"", rfl⟩

/-- The call of the tick loop brings what the burst has dropped. -/
theorem burst_then_tick_shown :
    ∃ s c page, System.run step (start (oneVehicle 0) 0)
        (burst ++ .tick 2 :: [.broadcast, .broadcast, .broadcast, .relay 0, .relay 0, .relay 0]) =
          some s ∧
      c ∈ s.feed.clients ∧ c.received.length = 4 ∧
      (Store.step (fun _ => "") (fun _ => "")).run {} (messages id c) = some page ∧
      ∃ now, page.fleet = parsed (fun _ => "") (payload (oneVehicle 3) now) := by
  let rest : List (Event (List PyVal)) :=
    [.broadcast, .broadcast, .broadcast, .relay 0, .relay 0, .relay 0]
  have hburst : (System.run step (start (oneVehicle 0) 0) burst).map
      (fun m => m.throttle.lastFleetBroadcast) = some (6 / 5) := by
    decide +kernel
  have hrun : ((System.run step (start (oneVehicle 0) 0) (burst ++ .tick 2 :: rest)).bind fun s =>
      (s.feed.clients.head?).bind fun c =>
        ((Store.step (fun _ => "") (fun _ => "")).run {} (messages id c)).map fun _ =>
          decide (s.announced = true ∧ s.tasks.length = 0 ∧ s.throttle.throttleTask = none ∧
            s.feed.pending.length = 0 ∧ c.lost = false ∧ c.greeted = true ∧ c.queue.length = 0 ∧
            c.received.length = 4)) = some true := by
    decide +kernel
  obtain ⟨m, hm, hlast⟩ := Option.map_eq_some_iff.mp hburst
  obtain ⟨s, hs, hrun⟩ := Option.bind_eq_some_iff.mp hrun
  obtain ⟨c, hc, hrun⟩ := Option.bind_eq_some_iff.mp hrun
  obtain ⟨page, hpage, hrun⟩ := Option.map_eq_some_iff.mp hrun
  obtain ⟨hannounced, htasks, hnone, hpending, hlost, hgreeted, hqueue, hreceived⟩ :=
    of_decide_eq_true hrun
  have hmem : c ∈ s.feed.clients := List.mem_of_mem_head? hc
  have hsettled : s.Settled :=
    { announced := hannounced
      tasks := List.length_eq_zero_iff.mp htasks
      throttle := (inv_run hs).steady.quiescent_iff.mpr hnone
      feed := List.length_eq_zero_iff.mp hpending }
  -- the window of the last broadcast is over at the time of the tick
  have hkeep : m.Keeps (.tick 2) := by
    intro hwindow
    rw [hlast] at hwindow
    norm_num [throttleS] at hwindow
  have hrest : ∀ ev ∈ rest, ev.isCall = false := by
    simp [rest, Event.isCall]
  exact ⟨s, c, page, hs, hmem, hreceived, hpage,
    page_fleet_current hs (.inr ⟨burst, .tick 2, rest, m, rfl, hm, rfl, hkeep, hrest⟩) hsettled hmem
      hlost hgreeted (List.length_eq_zero_iff.mp hqueue) (carries_messages id c) hpage⟩

end FleetStream

end DatabusSim
