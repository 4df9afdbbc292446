import DatabusSim.Lib.Latest
import DatabusSim.Realtime.Consumers
import DatabusSim.Static.Js
import DatabusSim.Static.WsClient

/-!
# The store of the page

`static/lib/ws_client.js` turns each frame of the socket into a message under a topic of the
former MQTT interface, and `static/app.js` keeps the payloads in one store. The page thereby
mirrors what the consumer relays: after any sequence of group messages the store holds the last
payload of each kind (`page_mirrors`).
-/

namespace DatabusSim

open Transition History WsClient

/-! ## From frames to topics -/

section Route

-- the text of a value that is no string
variable (display : Js → String)

/-- `${v}`. -/
def templateText : Js → String
  | .str s => s
  | v => display v

/-- The schedule payload as the store keeps it: `runs` under the key `entries`. -/
def normalised (payload : Js) : Js :=
  let raw := payload.orElse (.obj [])
  let entries := (raw.prop "runs").orElse ((raw.prop "entries").orElse (.arr []))
  .obj (Dict.setEntry "entries" entries raw.spread)

def vehicleTopic (vehicleId leaf : String) : String :=
  "transit/vehicle/" ++ vehicleId ++ "/" ++ leaf

/-- `routeMessage`: the topics and payloads that a frame stands for. -/
def routeMessage (msg : Js) : List (String × Js) :=
  if !msg.isObject then []
  else
    match msg.prop "type" with
    | .str "fleet" => [("sim/state/fleet", msg.prop "payload")]
    | .str "schedule" => [("sim/state/schedule", normalised (msg.prop "payload"))]
    | .str "navsat" => [("sim/state/navsat", msg.prop "payload")]
    | .str "telemetry" =>
        let vehicleId := msg.prop "vehicle_id"
        let leaf := msg.prop "leaf"
        if vehicleId.truthy && leaf.truthy then
          [(vehicleTopic (templateText display vehicleId) (templateText display leaf),
            msg.prop "payload")]
        else []
    | _ => []

end Route

/-! ## The store -/

/-- `_state` of `app.js`. -/
structure Store where
  fleet : Js := .obj [("vehicles", .arr [])]
  schedule : Js := .obj [("entries", .arr [])]
  telemetry : Dict String (Dict String Js) := Dict.empty
  navsat : Js := .arr []

/-- The callbacks that `main` subscribes. -/
inductive Handler where
  | fleet
  | navsat
  | schedule
  | telemetry
  deriving DecidableEq

/-- The subscriptions of `main`, in order. -/
def subscriptions : Subs Handler :=
  [("sim/state/fleet", [.fleet]), ("sim/state/navsat", [.navsat]),
    ("sim/state/schedule", [.schedule]), ("transit/vehicle/+/+", [.telemetry])]

namespace Store

/-- `_state.telemetry[vehicleId][leaf] = payload`. -/
def setTelemetry (s : Store) (vehicleId leaf : String) (payload : Js) : Store :=
  { s with
    telemetry := s.telemetry.set vehicleId
      ((s.telemetry.getD vehicleId Dict.empty).set leaf payload) }

/-- What a callback does to the store. -/
def handle (s : Store) (topic : String) (payload : Js) : Handler → Store
  | .fleet => if payload.isObject then { s with fleet := payload } else s
  | .navsat => if payload.isArray then { s with navsat := payload } else s
  | .schedule => if payload.isObject then { s with schedule := payload } else s
  | .telemetry =>
      match levels topic with
      | _ :: _ :: vehicleId :: leaf :: _ =>
          s.setTelemetry (String.ofList vehicleId) (String.ofList leaf) payload
      | _ => s

/-- A message is dispatched to the callbacks whose filters match its topic. -/
def deliver (s : Store) (m : String × Js) : Store :=
  (dispatch subscriptions m.1).foldl (fun s h => s.handle m.1 m.2 h) s

/-- The `message` event of the socket; `none` is a text that is no JSON. -/
def receive (display : Js → String) (s : Store) : Option Js → Store
  | none => s
  | some msg => (routeMessage display msg).foldl deliver s

/-- The last payload for a leaf of a vehicle. -/
def telemetryOf (s : Store) (vehicleId leaf : String) : Option Js :=
  (s.telemetry.get? vehicleId).bind fun leaves => leaves.get? leaf

end Store

/-! ## The topics -/

/-- One level of a topic, and one that `routeMessage` takes. -/
def Named (s : String) : Prop := s ≠ "" ∧ '/' ∉ s.toList

instance (s : String) : Decidable (Named s) := inferInstanceAs (Decidable (_ ∧ _))

theorem levels_named {s : String} (h : '/' ∉ s.toList) : levels s = [s.toList] := by
  unfold levels
  apply List.splitOnP_eq_singleton
  intro c hc
  by_cases hslash : c = '/'
  · exact absurd (hslash ▸ hc) h
  · simp [hslash]

theorem levels_ne_nil (s : String) : levels s ≠ [] := List.splitOnP_ne_nil _ _

/-- A text of one level has no slash in it. -/
theorem not_mem_of_levels {s : String} {l : Level} (h : levels s = [l]) : '/' ∉ s.toList := by
  intro hmem
  obtain ⟨before, after, hsplit⟩ := List.append_of_mem hmem
  unfold levels at h
  have hlen := congrArg List.length h
  rw [hsplit, List.splitOn, List.splitOnP_append_cons _ _ (by decide), List.length_append,
    List.length_singleton] at hlen
  have hbefore := List.length_pos_of_ne_nil (List.splitOnP_ne_nil (fun c => c == '/') before)
  have hafter := List.length_pos_of_ne_nil (List.splitOnP_ne_nil (fun c => c == '/') after)
  omega

theorem levels_append_slash (s t : String) : levels (s ++ "/" ++ t) = levels s ++ levels t := by
  have hslash : "/".toList = ['/'] := by decide
  unfold levels List.splitOn
  rw [String.toList_append, String.toList_append, hslash, List.append_assoc,
    List.singleton_append, List.splitOnP_append_cons _ _ (by decide)]

/-- A text that ends in a slash puts its levels, but for the empty last one, before others. -/
theorem levels_append {root : String} {front : List Char} (h : root.toList = front ++ ['/'])
    (s : String) : levels (root ++ s) = front.splitOn '/' ++ levels s := by
  unfold levels List.splitOn
  rw [String.toList_append, h, List.append_assoc, List.singleton_append,
    List.splitOnP_append_cons _ _ (by decide)]

theorem levels_vehicleTopic (vehicleId leaf : String) :
    levels (vehicleTopic vehicleId leaf) =
      "transit".toList :: "vehicle".toList :: (levels vehicleId ++ levels leaf) := by
  have hroot : "transit/vehicle/".toList = "transit/vehicle".toList ++ ['/'] := by decide
  have hfront : "transit/vehicle".toList.splitOn '/' = ["transit".toList, "vehicle".toList] := by
    decide
  have hlevels := levels_append_slash ("transit/vehicle/" ++ vehicleId) leaf
  rw [levels_append hroot vehicleId, hfront] at hlevels
  exact hlevels

/-- The filter of the telemetry covers the topics of a vehicle and a leaf of one level each. -/
theorem matches_vehicleTopic (vehicleId leaf : String) :
    topicMatches "transit/vehicle/+/+" (vehicleTopic vehicleId leaf) = true ↔
      '/' ∉ vehicleId.toList ∧ '/' ∉ leaf.toList := by
  have hfilter : levels "transit/vehicle/+/+" =
      ["transit".toList, "vehicle".toList, ['+'], ['+']] := by decide
  have hvalid : ValidFilter (levels "transit/vehicle/+/+") := by decide
  unfold topicMatches
  rw [scan_zero_iff hvalid, hfilter, levels_vehicleTopic,
    Covers.literal_cons_iff (by decide) (by decide), and_iff_right rfl,
    Covers.literal_cons_iff (by decide) (by decide), and_iff_right rfl]
  obtain ⟨v, vs, hv⟩ := List.exists_cons_of_ne_nil (levels_ne_nil vehicleId)
  obtain ⟨l, ls, hl⟩ := List.exists_cons_of_ne_nil (levels_ne_nil leaf)
  constructor
  · intro h
    rw [hv, List.cons_append, Covers.single_cons_iff] at h
    cases vs with
    | nil =>
      rw [List.nil_append, hl, Covers.single_cons_iff, Covers.nil_iff] at h
      subst h
      exact ⟨not_mem_of_levels hv, not_mem_of_levels hl⟩
    | cons v' vs =>
      rw [List.cons_append, Covers.single_cons_iff, Covers.nil_iff, hl] at h
      simp at h
  · intro h
    rw [levels_named h.1, levels_named h.2]
    exact .single (.single .done)

/-- A literal first level has to be the topic's. -/
theorem scan_literal_ne {p t : Level} {ps ts : List Level} (hhash : p ≠ ['#']) (hplus : p ≠ ['+'])
    (hne : t ≠ p) : scan (t :: ts) 0 (p :: ps) = some false := by
  simp [scan, hhash, hplus, hne]

/-- Under the topic of a vehicle only the telemetry callback can run. -/
theorem dispatch_vehicleTopic (vehicleId leaf : String) :
    dispatch subscriptions (vehicleTopic vehicleId leaf) =
      if '/' ∉ vehicleId.toList ∧ '/' ∉ leaf.toList then [.telemetry] else [] := by
  have hother : ∀ pattern kind, levels pattern = ["sim".toList, "state".toList, kind] →
      topicMatches pattern (vehicleTopic vehicleId leaf) = false := by
    intro pattern kind hpattern
    have hscan : scan ("transit".toList :: "vehicle".toList :: (levels vehicleId ++ levels leaf)) 0
        ["sim".toList, "state".toList, kind] = some false :=
      scan_literal_ne (by decide) (by decide) (by decide)
    simp only [topicMatches, levels_vehicleTopic, hpattern, hscan, Option.getD_some]
  have hmatch := matches_vehicleTopic vehicleId leaf
  simp only [dispatch, subscriptions, List.flatMap_cons, List.flatMap_nil, List.append_nil,
    hother "sim/state/fleet" "fleet".toList (by decide),
    hother "sim/state/navsat" "navsat".toList (by decide),
    hother "sim/state/schedule" "schedule".toList (by decide), Bool.false_eq_true, if_false,
    List.nil_append]
  by_cases h : '/' ∉ vehicleId.toList ∧ '/' ∉ leaf.toList
  · rw [if_pos (hmatch.mpr h), if_pos h]
  · rw [if_neg (mt hmatch.mp h), if_neg h]

/-! ## What a message does -/

/-- A frame is the content that was to be sent. -/
theorem sendJson_content {content frame : PyVal} (h : sendJson content = .ok frame) :
    frame = content := by
  obtain ⟨-, h⟩ := check_bind_ok.mp h
  exact (Except.ok.inj h).symm

theorem sent_frame {content : PyVal} {frame : Option PyVal}
    (h : some <$> sendJson content = .ok frame) : frame = some content := by
  cases hc : sendJson content with
  | error exc =>
    rw [hc] at h
    cases h
  | ok c =>
    rw [hc] at h
    cases h
    rw [sendJson_content hc]

section Feed

variable {σ : Type} (text : Key → String) (display : Js → String)
  (act : σ → String → Js → Handler → σ)

/-- The `message` event, where a callback acts on a page in a way of its own. -/
def feed (s : σ) : Option Js → σ
  | none => s
  | some msg =>
      (routeMessage display msg).foldl
        (fun s m => (dispatch subscriptions m.1).foldl (fun s h => act s m.1 m.2 h) s) s

/-- The page gets the frame that the consumer makes of a group message, if any. -/
def fed (s : σ) (ev : GroupEvent) : Except PyExc σ := do
  match ← fleetUpdate ev with
  | some frame => pure (feed display act s (some (parsed text frame)))
  | none => pure s

/-- A page whose consumer has not raised. -/
def feedStep : System σ GroupEvent := fun s ev => (fed text display act s ev).toOption

/-- A page once it is connected: it was sent the frames of `connect`. -/
def feedGreeting (s : σ) (now : String) (fleet : Option PyVal) (scheduler : Option Scheduler)
    (navsat : List PyVal) : Except PyExc σ := do
  let frames ← connect now fleet scheduler navsat
  pure (frames.foldl (fun s frame => feed display act s (some (parsed text frame))) s)

/-- What a group message does to the page. -/
def effect (s : σ) : GroupEvent → σ
  | .fleet payload => act s "sim/state/fleet" (parsed text payload) .fleet
  | .schedule payload => act s "sim/state/schedule" (normalised (parsed text payload)) .schedule
  | .navsat payload => act s "sim/state/navsat" (parsed text payload) .navsat
  | .telemetry vehicleId leaf payload =>
      if Named vehicleId ∧ Named leaf then
        act s (vehicleTopic vehicleId leaf) (parsed text payload) .telemetry
      else s
  | .unknown _ => s

theorem parsed_message (type : String) (payload : PyVal) :
    parsed text (message type payload) =
      .obj [("type", .str type), ("payload", parsed text payload)] := by
  simp [message, parsed, parsedItems, keyText, Dict.setEntry]

/-- The frame that `fleet_update` makes of a payload of telemetry. -/
def telemetryFrame (vehicleId leaf : String) (payload : PyVal) : PyVal :=
  .dict [(.str "type", .str "telemetry"), (.str "vehicle_id", .str vehicleId),
    (.str "leaf", .str leaf), (.str "payload", payload)]

/-- Telemetry reaches the page under the names of one level that are not empty. -/
theorem feed_telemetry (s : σ) (vehicleId leaf : String) (payload : PyVal) :
    feed display act s (some (parsed text (telemetryFrame vehicleId leaf payload))) =
      effect text act s (.telemetry vehicleId leaf payload) := by
  have hframe : parsed text (telemetryFrame vehicleId leaf payload) =
      .obj [("type", .str "telemetry"), ("vehicle_id", .str vehicleId), ("leaf", .str leaf),
        ("payload", parsed text payload)] := by
    simp [telemetryFrame, parsed, parsedItems, keyText, Dict.setEntry]
  have hroute : routeMessage display (parsed text (telemetryFrame vehicleId leaf payload)) =
      if vehicleId ≠ "" ∧ leaf ≠ "" then [(vehicleTopic vehicleId leaf, parsed text payload)]
      else [] := by
    simp [hframe, routeMessage, Js.isObject, Dict.lookupEntry, Js.truthy, templateText]
  rw [feed, hroute, effect]
  by_cases hne : vehicleId ≠ "" ∧ leaf ≠ ""
  · rw [if_pos hne, List.foldl_cons, List.foldl_nil, dispatch_vehicleTopic]
    by_cases hslash : '/' ∉ vehicleId.toList ∧ '/' ∉ leaf.toList
    · rw [if_pos hslash, if_pos ⟨⟨hne.1, hslash.1⟩, hne.2, hslash.2⟩, List.foldl_cons,
        List.foldl_nil]
    · rw [if_neg hslash, if_neg fun h => hslash ⟨h.1.2, h.2.2⟩, List.foldl_nil]
  · rw [if_neg hne, if_neg fun h => hne ⟨h.1.1, h.2.1⟩, List.foldl_nil]

/-- The frame of a group message, once it is sent, has the effect of the message. -/
theorem fed_ok {s s' : σ} {ev : GroupEvent} (h : fed text display act s ev = .ok s') :
    s' = effect text act s ev := by
  have hfleet : dispatch subscriptions "sim/state/fleet" = [.fleet] := by decide
  have hschedule : dispatch subscriptions "sim/state/schedule" = [.schedule] := by decide
  have hnavsat : dispatch subscriptions "sim/state/navsat" = [.navsat] := by decide
  obtain ⟨frame, hframe, hs⟩ := bind_ok.mp h
  cases ev with
  | unknown kind =>
    cases hframe
    cases hs
    rfl
  | telemetry vehicleId leaf payload =>
    rw [sent_frame hframe] at hs
    cases hs
    exact feed_telemetry text display act s vehicleId leaf payload
  | fleet payload =>
    rw [sent_frame hframe] at hs
    cases hs
    simp [feed, parsed_message, routeMessage, Js.isObject, Dict.lookupEntry, hfleet, effect]
  | schedule payload =>
    rw [sent_frame hframe] at hs
    cases hs
    simp [feed, parsed_message, routeMessage, Js.isObject, Dict.lookupEntry, hschedule, effect]
  | navsat payload =>
    rw [sent_frame hframe] at hs
    cases hs
    simp [feed, parsed_message, routeMessage, Js.isObject, Dict.lookupEntry, hnavsat, effect]

theorem feedStep_eq (s : σ) (ev : GroupEvent) :
    feedStep text display act s ev =
      (fleetUpdate ev).toOption.map fun _ => effect text act s ev := by
  cases hframe : fleetUpdate ev with
  | error exc =>
    unfold feedStep fed
    rw [hframe]
    rfl
  | ok frame =>
    obtain ⟨s', hs⟩ : ∃ s', fed text display act s ev = .ok s' := by
      unfold fed
      rw [hframe]
      cases frame <;> exact ⟨_, rfl⟩
    rw [feedStep, hs, fed_ok text display act hs]
    rfl

theorem feedStep_some {s s' : σ} {ev : GroupEvent}
    (h : feedStep text display act s ev = some s') : s' = effect text act s ev :=
  fed_ok text display act (toOption_eq_some.mp h)

/-! ### The greeting -/

/-- The group messages whose frames a new client is sent. -/
def Store.greeting (now : String) (fleet : Option PyVal) (scheduler : Option Scheduler)
    (navsat : List PyVal) : List GroupEvent :=
  (fleet.map GroupEvent.fleet).toList ++
    (scheduler.map fun s => GroupEvent.schedule (s.snapshot.payload now)).toList ++
    if navsat.isEmpty then [] else [.navsat (.list navsat)]

/-- The frames of some messages have been sent, and the page has read them. -/
theorem run_frames {events : List GroupEvent} {contents frames : List PyVal}
    (h : List.Forall₂ (fun ev content => fleetUpdate ev = some <$> sendJson content) events contents)
    (hframes : contents.mapM sendJson = .ok frames) (s : σ) :
    (feedStep text display act).run s events =
      some (frames.foldl (fun s frame => feed display act s (some (parsed text frame))) s) := by
  induction h generalizing frames s with
  | nil =>
    cases hframes
    rfl
  | @cons ev content events contents hev h ih =>
    rw [List.mapM_cons] at hframes
    obtain ⟨frame, hframe, hframes⟩ := bind_ok.mp hframes
    obtain ⟨rest, hrest, hframes⟩ := bind_ok.mp hframes
    cases hframes
    have hstep : feedStep text display act s ev =
        some (feed display act s (some (parsed text frame))) := by
      unfold feedStep fed
      rw [hev, hframe]
      rfl
    rw [run_cons, hstep, Option.bind_some, ih hrest, List.foldl_cons]

/-- A greeted page is one that has read the messages of the greeting. -/
theorem greeted_run {now : String} {fleet : Option PyVal} {scheduler : Option Scheduler}
    {navsat : List PyVal} {s₀ s : σ}
    (h : feedGreeting text display act s₀ now fleet scheduler navsat = .ok s) :
    (feedStep text display act).run s₀ (Store.greeting now fleet scheduler navsat) = some s := by
  obtain ⟨frames, hframes, h⟩ := bind_ok.mp h
  cases h
  refine run_frames text display act ?_ hframes s₀
  unfold Store.greeting
  apply List.rel_append
  · apply List.rel_append
    · cases fleet with
      | none => exact .nil
      | some payload => exact .cons rfl .nil
    · cases scheduler with
      | none => exact .nil
      | some scheduler => exact .cons rfl .nil
  · cases navsat with
    | nil => exact .nil
    | cons row rows => exact .cons rfl .nil

end Feed

namespace Store

variable (text : Key → String) (display : Js → String)

/-- The page gets the frame that the consumer makes of a group message, if any. -/
def relayed (s : Store) (ev : GroupEvent) : Except PyExc Store := do
  match ← fleetUpdate ev with
  | some frame => pure (s.receive display (some (parsed text frame)))
  | none => pure s

/-- A page whose consumer has not raised. -/
def step : System Store GroupEvent := fun s ev => (s.relayed text display ev).toOption

/-- The page once it is connected: it was sent the frames of `connect`. -/
def greeted (now : String) (fleet : Option PyVal) (scheduler : Option Scheduler)
    (navsat : List PyVal) : Except PyExc Store := do
  let frames ← connect now fleet scheduler navsat
  pure (frames.foldl (fun s frame => s.receive display (some (parsed text frame))) {})

theorem receive_eq_feed (s : Store) (msg : Option Js) :
    s.receive display msg = feed display Store.handle s msg := by
  cases msg <;> rfl

theorem step_eq_feedStep : step text display = feedStep text display Store.handle := by
  funext s ev
  unfold step feedStep relayed fed
  simp only [receive_eq_feed]

theorem greeted_eq_feedGreeting (now : String) (fleet : Option PyVal)
    (scheduler : Option Scheduler) (navsat : List PyVal) :
    greeted text display now fleet scheduler navsat =
      feedGreeting text display handle {} now fleet scheduler navsat := by
  unfold greeted feedGreeting
  simp only [receive_eq_feed]

theorem handle_telemetry (s : Store) {vehicleId leaf : String} (payload : Js)
    (hv : '/' ∉ vehicleId.toList) (hl : '/' ∉ leaf.toList) :
    s.handle (vehicleTopic vehicleId leaf) payload .telemetry =
      s.setTelemetry vehicleId leaf payload := by
  have hlevels := levels_vehicleTopic vehicleId leaf
  rw [levels_named hv, levels_named hl] at hlevels
  simp [handle, hlevels]

end Store

/-! ## The mirror -/

section Reports

variable (text : Key → String)

/-- What a group message reports of each part of the store. -/
def fleetReport : GroupEvent → Option Js
  | .fleet payload => (some (parsed text payload)).filter Js.isObject
  | _ => none

def scheduleReport : GroupEvent → Option Js
  | .schedule payload => some (normalised (parsed text payload))
  | _ => none

def navsatReport : GroupEvent → Option Js
  | .navsat payload => (some (parsed text payload)).filter Js.isArray
  | _ => none

def telemetryReport (vehicleId leaf : String) : GroupEvent → Option Js
  | .telemetry v l payload =>
      if Named v ∧ Named l ∧ v = vehicleId ∧ l = leaf then some (parsed text payload) else none
  | _ => none

end Reports

namespace Store

variable {text : Key → String} {display : Js → String}

theorem telemetryOf_setTelemetry (s : Store) (v l vehicleId leaf : String) (payload : Js) :
    (s.setTelemetry v l payload).telemetryOf vehicleId leaf =
      if v = vehicleId ∧ l = leaf then some payload else s.telemetryOf vehicleId leaf := by
  unfold setTelemetry telemetryOf
  rw [Dict.get?_set]
  by_cases hv : vehicleId = v
  · subst hv
    rw [if_pos rfl, Option.bind_some, Dict.get?_set]
    by_cases hl : leaf = l
    · subst hl
      rw [if_pos rfl, if_pos ⟨rfl, rfl⟩]
    · rw [if_neg hl, if_neg fun h => hl h.2.symm, Dict.getD]
      cases s.telemetry.get? vehicleId <;> rfl
  · rw [if_neg hv, if_neg fun h => hv h.1.symm]

/-- Each message overwrites the part of the store it is for, and leaves the others alone. -/
theorem effect_reports (s : Store) (ev : GroupEvent) :
    (effect text handle s ev).fleet = (fleetReport text ev).getD s.fleet ∧
      (effect text handle s ev).schedule = (scheduleReport text ev).getD s.schedule ∧
      (effect text handle s ev).navsat = (navsatReport text ev).getD s.navsat ∧
      ∀ vehicleId leaf, (effect text handle s ev).telemetryOf vehicleId leaf =
        (telemetryReport text vehicleId leaf ev).or (s.telemetryOf vehicleId leaf) := by
  cases ev with
  | unknown kind => exact ⟨rfl, rfl, rfl, fun _ _ => rfl⟩
  | fleet payload =>
    cases hobj : (parsed text payload).isObject <;>
      simp [effect, handle, hobj, fleetReport, scheduleReport, navsatReport, telemetryReport,
        Option.filter, telemetryOf]
  | schedule payload => exact ⟨rfl, rfl, rfl, fun _ _ => rfl⟩
  | navsat payload =>
    cases harr : (parsed text payload).isArray <;>
      simp [effect, handle, harr, navsatReport, scheduleReport, fleetReport, telemetryReport,
        Option.filter, telemetryOf]
  | telemetry v l payload =>
    by_cases hnamed : Named v ∧ Named l
    · rw [effect, if_pos hnamed, handle_telemetry s _ hnamed.1.2 hnamed.2.2]
      refine ⟨rfl, rfl, rfl, fun vehicleId leaf => ?_⟩
      rw [telemetryOf_setTelemetry]
      simp only [telemetryReport, hnamed.1, hnamed.2, true_and]
      split <;> rfl
    · rw [effect, if_neg hnamed]
      refine ⟨rfl, rfl, rfl, fun vehicleId leaf => ?_⟩
      rw [telemetryReport, if_neg fun h => hnamed ⟨h.1, h.2.1⟩]
      rfl

/-! ### After any messages -/

/-- The store shows of each part what the latest message for it says. -/
structure Mirrors (text : Key → String) (events : List GroupEvent) (s : Store) : Prop where
  fleet : s.fleet = (latest (fleetReport text) events).getD (.obj [("vehicles", .arr [])])
  schedule : s.schedule = (latest (scheduleReport text) events).getD (.obj [("entries", .arr [])])
  navsat : s.navsat = (latest (navsatReport text) events).getD (.arr [])
  telemetry (vehicleId leaf) :
    s.telemetryOf vehicleId leaf = latest (telemetryReport text vehicleId leaf) events

theorem feed_navsat {events : List GroupEvent} {s₀ s : Store}
    (h : (feedStep text display handle).run s₀ events = some s) :
    s.navsat = (latest (navsatReport text) events).getD s₀.navsat :=
  run_latest h fun s ev _ hs => by
    rw [feedStep_some text display handle hs]
    exact (effect_reports s ev).2.2.1

theorem feed_mirrors {events : List GroupEvent} {s : Store}
    (h : (feedStep text display handle).run {} events = some s) : Mirrors text events s where
  fleet := run_latest h fun s ev _ hs => by
    rw [feedStep_some text display handle hs]
    exact (effect_reports s ev).1
  schedule := run_latest h fun s ev _ hs => by
    rw [feedStep_some text display handle hs]
    exact (effect_reports s ev).2.1
  navsat := feed_navsat h
  telemetry vehicleId leaf := by
    have hstep : ∀ s ev s', feedStep text display handle s ev = some s' →
        s'.telemetryOf vehicleId leaf =
          (telemetryReport text vehicleId leaf ev).or (s.telemetryOf vehicleId leaf) := by
      intro s ev s' hs
      rw [feedStep_some text display handle hs]
      exact (effect_reports s ev).2.2.2 vehicleId leaf
    have hview : s.telemetryOf vehicleId leaf =
        (latest (telemetryReport text vehicleId leaf) events).or
          (({} : Store).telemetryOf vehicleId leaf) := run_latest_or h hstep
    rw [hview]
    exact Option.or_none

theorem run_mirrors {events : List GroupEvent} {s : Store}
    (h : (step text display).run {} events = some s) : Mirrors text events s := by
  rw [step_eq_feedStep] at h
  exact feed_mirrors h

/-- The overlay of a page that keeps its store over a new connection. -/
theorem run_navsat {events : List GroupEvent} {s₀ s : Store}
    (h : (step text display).run s₀ events = some s) :
    s.navsat = (latest (navsatReport text) events).getD s₀.navsat := by
  rw [step_eq_feedStep] at h
  exact feed_navsat h

/-- A page that has been greeted and then got any group messages mirrors them, the greeting
first. -/
theorem page_mirrors {now : String} {fleet : Option PyVal} {scheduler : Option Scheduler}
    {navsat : List PyVal} {events : List GroupEvent} {s₀ s : Store}
    (hgreeted : greeted text display now fleet scheduler navsat = .ok s₀)
    (hrun : (step text display).run s₀ events = some s) :
    Mirrors text (greeting now fleet scheduler navsat ++ events) s := by
  rw [step_eq_feedStep] at hrun
  rw [greeted_eq_feedGreeting] at hgreeted
  exact feed_mirrors (run_append_some.mpr ⟨s₀, greeted_run text display handle hgreeted, hrun⟩)

/-- Two payloads of one vehicle, greeted with nothing: the later one is shown. -/
theorem two_positions_mirrored :
    let text := fun _ : Key => ""
    let display := fun _ : Js => ""
    let events := [GroupEvent.telemetry "unit-01" "position" (.int 1), .unknown "pong",
      .telemetry "unit-01" "position" (.int 2)]
    ∃ s, (step text display).run {} events = some s ∧
      Mirrors text (greeting "" none none [] ++ events) s ∧
      s.telemetryOf "unit-01" "position" = some (.num 2) := by
  intro text display events
  have hgreeted : greeted text display "" none none [] = .ok {} := rfl
  have hnamed : Named "unit-01" ∧ Named "position" := by decide
  have hstep : ∀ (s : Store) (i : Int),
      step text display s (.telemetry "unit-01" "position" (.int i)) =
        some (s.setTelemetry "unit-01" "position" (.num i)) := by
    intro s i
    have hfeed := feed_telemetry text display handle s "unit-01" "position" (.int i)
    rw [effect, if_pos hnamed, handle_telemetry s _ hnamed.1.2 hnamed.2.2] at hfeed
    exact congrArg some hfeed
  have hrun : ∃ s, (step text display).run {} events = some s := by
    simp only [events, System.run, hstep, Option.bind_some]
    exact ⟨_, rfl⟩
  obtain ⟨s, hs⟩ := hrun
  have hmirrors := page_mirrors hgreeted hs
  exact ⟨s, hs, hmirrors, (hmirrors.telemetry "unit-01" "position").trans rfl⟩

end Store

end DatabusSim
