import DatabusSim.Services.FailedLoads

/-!
# The fleet consumer

What `FleetConsumer` sends to a browser goes through `json.dumps`. The entries of the
schedule file go into the schedule message as they were parsed.
-/

namespace DatabusSim

/-! ## JSON encoding -/

/-- The `TypeError` for a dictionary key that is no JSON key. -/
def keyError? : Key → Option PyExc
  | .instant _ =>
      some (.typeError "keys must be str, int, float, bool or None, not datetime.datetime")
  | .naive _ =>
      some (.typeError "keys must be str, int, float, bool or None, not datetime.datetime")
  | .date _ => some (.typeError "keys must be str, int, float, bool or None, not datetime.date")
  | .bytes _ => some (.typeError "keys must be str, int, float, bool or None, not bytes")
  | _ => none

mutual

/-- `json.dumps`, up to the text it returns. -/
def jsonDumps : PyVal → Except PyExc Unit
  | .datetime _ => .error (.typeError "Object of type datetime is not JSON serializable")
  | .date _ => .error (.typeError "Object of type date is not JSON serializable")
  | .bytes _ => .error (.typeError "Object of type bytes is not JSON serializable")
  | .set _ => .error (.typeError "Object of type set is not JSON serializable")
  | .alias _ => .error (.valueError "Circular reference detected" none)
  | .list xs => dumpsElements xs
  | .dict items => dumpsItems items
  | _ => .ok ()

def dumpsElements : List PyVal → Except PyExc Unit
  | [] => .ok ()
  | x :: xs => do
      jsonDumps x
      dumpsElements xs

def dumpsItems : List (Key × PyVal) → Except PyExc Unit
  | [] => .ok ()
  | (k, v) :: items =>
      match keyError? k with
      | some exc => .error exc
      | none => do
          jsonDumps v
          dumpsItems items

end

/-- JSON has no text for the value: a date or a time, bytes, a set or a container inside itself
stands somewhere in it, or a key that is no scalar of JSON. -/
inductive Unencodable : PyVal → Prop where
  | datetime (dt) : Unencodable (.datetime dt)
  | date (day) : Unencodable (.date day)
  | bytes (bs) : Unencodable (.bytes bs)
  | set (xs) : Unencodable (.set xs)
  | alias (out) : Unencodable (.alias out)
  | element {x xs} (mem : x ∈ xs) (inside : Unencodable x) : Unencodable (.list xs)
  | key {k v items} (mem : (k, v) ∈ items) (notJson : (keyError? k).isSome) :
      Unencodable (.dict items)
  | value {k v items} (mem : (k, v) ∈ items) (inside : Unencodable v) :
      Unencodable (.dict items)

/-- An item of a mapping that JSON has a text for. -/
def PlainItem (item : Key × PyVal) : Prop := keyError? item.1 = none ∧ ¬ Unencodable item.2

theorem not_unencodable_list {xs : List PyVal} :
    ¬ Unencodable (.list xs) ↔ ∀ x ∈ xs, ¬ Unencodable x := by
  constructor
  · intro h x mem inside
    exact h (.element mem inside)
  · intro h hxs
    cases hxs with
    | element mem inside => exact h _ mem inside

theorem not_unencodable_dict {items : List (Key × PyVal)} :
    ¬ Unencodable (.dict items) ↔ ∀ p ∈ items, PlainItem p := by
  constructor
  · intro h p mem
    exact ⟨Option.not_isSome_iff_eq_none.mp fun hk => h (.key mem hk),
      fun inside => h (.value mem inside)⟩
  · intro h hitems
    cases hitems with
    | key mem notJson => simp [(h _ mem).1] at notJson
    | value mem inside => exact (h _ mem).2 inside

/-- A check before a computation has to pass. -/
theorem check_bind_ok {ε β : Type} {x : Except ε Unit} {y : Except ε β} {b : β} :
    (x >>= fun _ => y) = .ok b ↔ x = .ok () ∧ y = .ok b := by
  rw [bind_ok]
  exact ⟨fun ⟨_, hx, hy⟩ => ⟨hx, hy⟩, fun ⟨hx, hy⟩ => ⟨(), hx, hy⟩⟩

mutual

/-- The encoder accepts exactly the values that JSON has a text for. -/
theorem jsonDumps_ok_iff : (v : PyVal) → (jsonDumps v = .ok () ↔ ¬ Unencodable v)
  | .null | .bool _ | .int _ | .float _ | .str _ => by
      simp only [jsonDumps, true_iff]
      intro h
      cases h
  | .datetime dt => by simp [jsonDumps, Unencodable.datetime dt]
  | .date day => by simp [jsonDumps, Unencodable.date day]
  | .bytes bs => by simp [jsonDumps, Unencodable.bytes bs]
  | .set xs => by simp [jsonDumps, Unencodable.set xs]
  | .alias out => by simp [jsonDumps, Unencodable.alias out]
  | .list xs => by
      rw [jsonDumps, dumpsElements_ok_iff xs, not_unencodable_list]
  | .dict items => by
      rw [jsonDumps, dumpsItems_ok_iff items, not_unencodable_dict]

theorem dumpsElements_ok_iff :
    (xs : List PyVal) → (dumpsElements xs = .ok () ↔ ∀ x ∈ xs, ¬ Unencodable x)
  | [] => by simp [dumpsElements]
  | x :: xs => by
      rw [List.forall_mem_cons, ← jsonDumps_ok_iff x, ← dumpsElements_ok_iff xs]
      exact check_bind_ok

theorem dumpsItems_ok_iff :
    (items : List (Key × PyVal)) → (dumpsItems items = .ok () ↔ ∀ p ∈ items, PlainItem p)
  | [] => by simp [dumpsItems]
  | (k, v) :: items => by
      rw [List.forall_mem_cons, ← dumpsItems_ok_iff items, PlainItem, ← jsonDumps_ok_iff v,
        dumpsItems]
      cases keyError? k with
      | some exc => simp
      | none =>
        rw [eq_self, true_and]
        exact check_bind_ok

end

/-! ## The schedule message -/

/-- `{**items, k: v}`: a key that is there keeps its position. -/
def overlay (k : String) (v : PyVal) (items : List (Key × PyVal)) : List (Key × PyVal) :=
  if .str k ∈ items.map Prod.fst then
    items.map fun p => if p.1 = .str k then (p.1, v) else p
  else items ++ [(.str k, v)]

theorem forall_mem_overlay {P : Key × PyVal → Prop} {k : String} {v : PyVal}
    {items : List (Key × PyVal)} :
    (∀ p ∈ overlay k v items, P p) ↔ P (.str k, v) ∧ ∀ p ∈ items, p.1 ≠ .str k → P p := by
  unfold overlay
  split
  · rename_i hmem
    rw [List.forall_mem_map]
    constructor
    · intro h
      constructor
      · obtain ⟨p, hp, hk⟩ := List.mem_map.mp hmem
        have := h p hp
        rw [if_pos hk, hk] at this
        exact this
      · intro p hp hk
        have := h p hp
        rw [if_neg hk] at this
        exact this
    · intro h p hp
      by_cases hk : p.1 = .str k
      · rw [if_pos hk, hk]
        exact h.1
      · rw [if_neg hk]
        exact h.2 p hp hk
  · rename_i hmem
    constructor
    · intro h
      exact ⟨h _ (by simp), fun p hp _ => h p (List.mem_append_left _ hp)⟩
    · intro h p hp
      rcases List.mem_append.mp hp with hp | hp
      · exact h.2 p hp fun hk => hmem (List.mem_map.mpr ⟨p, hp, hk⟩)
      · rw [List.mem_singleton.mp hp]
        exact h.1

def Status.text : Status → String
  | .pending => "pending"
  | .requested => "requested"
  | .initialized => "initialized"
  | .failed => "failed"

def Defaults.payload (d : Defaults) : PyVal :=
  .dict [(.str "pre_run_idle_s", .int d.preRunIdleS),
    (.str "post_run_idle_s", .int d.postRunIdleS),
    (.str "auto_confirm_delay_s", .int d.autoConfirmDelayS)]

/-- The items of one run of the snapshot: those of its entry, with the two keys put over
them. -/
def SnapshotRun.items (r : SnapshotRun) : List (Key × PyVal) :=
  overlay "bound_run_id" (r.boundRunId.elim .null .str)
    (overlay "status" (.str r.status.text) r.fields)

/-- The dictionary that `Scheduler.snapshot` returns, at the time `publishedAt`. -/
def ScheduleSnapshot.payload (s : ScheduleSnapshot) (publishedAt : String) : PyVal :=
  .dict [(.str "defaults", s.defaults.payload),
    (.str "runs", .list (s.runs.map fun r => .dict r.items)),
    (.str "published_at", .str publishedAt)]

/-- A key of the entry that the snapshot has a value of its own for. -/
def Overwritten (k : Key) : Prop := k = .str "status" ∨ k = .str "bound_run_id"

/-- JSON has a text for all that the snapshot takes over from an entry. -/
def PlainEntry (fields : List (Key × PyVal)) : Prop :=
  ∀ p ∈ fields, ¬ Overwritten p.1 → PlainItem p

theorem plainItem_iff (k : String) (v : PyVal) : PlainItem (.str k, v) ↔ ¬ Unencodable v :=
  and_iff_right rfl

theorem plainItem_null (k : String) : PlainItem (.str k, .null) :=
  ⟨rfl, fun h => by cases h⟩

theorem plainItem_str (k s : String) : PlainItem (.str k, .str s) :=
  ⟨rfl, fun h => by cases h⟩

theorem plainItem_int (k : String) (i : Int) : PlainItem (.str k, .int i) :=
  ⟨rfl, fun h => by cases h⟩

theorem forall_plain_items (r : SnapshotRun) :
    (∀ p ∈ r.items, PlainItem p) ↔ PlainEntry r.fields := by
  have hbound : PlainItem (.str "bound_run_id", r.boundRunId.elim .null .str) := by
    cases r.boundRunId with
    | none => exact plainItem_null _
    | some runId => exact plainItem_str _ runId
  rw [SnapshotRun.items, forall_mem_overlay, and_iff_right hbound,
    forall_mem_overlay (P := fun p => p.1 ≠ .str "bound_run_id" → PlainItem p),
    and_iff_right fun _ => plainItem_str _ _]
  constructor
  · intro h p hp hover
    exact h p hp (fun hk => hover (.inl hk)) (fun hk => hover (.inr hk))
  · intro h p hp hstatus hbound
    exact h p hp fun hover => hover.elim hstatus hbound

theorem Defaults.payload_plain (d : Defaults) : ¬ Unencodable d.payload := by
  rw [Defaults.payload, not_unencodable_dict]
  simp [plainItem_int]

/-- The schedule message can be encoded when JSON has a text for what its entries bring with
them. -/
theorem payload_plain_iff (s : Scheduler) (publishedAt : String) :
    ¬ Unencodable (s.snapshot.payload publishedAt) ↔ ∀ e ∈ s.entries, PlainEntry e.fields := by
  have hdefaults : PlainItem (.str "defaults", s.snapshot.defaults.payload) :=
    (plainItem_iff _ _).mpr (Defaults.payload_plain _)
  have hpublished : PlainItem (.str "published_at", .str publishedAt) := plainItem_str _ _
  have hruns : ¬ Unencodable (.list (s.snapshot.runs.map fun r => .dict r.items)) ↔
      ∀ e ∈ s.entries, PlainEntry e.fields := by
    rw [not_unencodable_list, Scheduler.snapshot, List.map_map, List.forall_mem_map]
    apply forall₂_congr
    intro e _
    rw [Function.comp_apply, not_unencodable_dict, forall_plain_items]
  rw [ScheduleSnapshot.payload, not_unencodable_dict, List.forall_mem_cons,
    and_iff_right hdefaults, List.forall_mem_cons, plainItem_iff, hruns, List.forall_mem_singleton,
    and_iff_left hpublished]

/-! ## The consumer -/

/-- `send_json`: the frame the browser gets, or what `json.dumps` raises. -/
def sendJson (content : PyVal) : Except PyExc PyVal := do
  jsonDumps content
  pure content

def message (type : String) (payload : PyVal) : PyVal :=
  .dict [(.str "type", .str type), (.str "payload", payload)]

/-- The frames `connect` sends: the snapshots the runtime has, the overlay when it is not
empty. -/
def connect (now : String) (fleet : Option PyVal) (scheduler : Option Scheduler)
    (navsat : List PyVal) : Except PyExc (List PyVal) :=
  List.mapM sendJson
    ((fleet.map (message "fleet")).toList ++
      (scheduler.map fun s => message "schedule" (s.snapshot.payload now)).toList ++
      if navsat.isEmpty then [] else [message "navsat" (.list navsat)])

/-- A group message, by its kind. -/
inductive GroupEvent where
  | fleet (payload : PyVal)
  | schedule (payload : PyVal)
  | telemetry (vehicleId leaf : String) (payload : PyVal)
  | navsat (payload : PyVal)
  | unknown (kind : String)

/-- `fleet_update`: the frame sent, none for an unknown kind. -/
def fleetUpdate : GroupEvent → Except PyExc (Option PyVal)
  | .fleet payload => some <$> sendJson (message "fleet" payload)
  | .schedule payload => some <$> sendJson (message "schedule" payload)
  | .telemetry vehicleId leaf payload =>
      some <$> sendJson (.dict [(.str "type", .str "telemetry"),
        (.str "vehicle_id", .str vehicleId), (.str "leaf", .str leaf), (.str "payload", payload)])
  | .navsat payload => some <$> sendJson (message "navsat" payload)
  | .unknown _ => .ok none

/-- Neither a new client nor the relay of an update fails on the schedule. -/
structure SendsSchedule (s : Scheduler) : Prop where
  encodes (now) : jsonDumps (s.snapshot.payload now) = .ok ()
  connects (now fleet navsat) (hfleet : ∀ payload ∈ fleet, jsonDumps payload = .ok ())
    (hnavsat : ∀ payload ∈ navsat, jsonDumps payload = .ok ()) :
      ∃ frames, connect now fleet (some s) navsat = .ok frames
  relays (now) : ∃ frame, fleetUpdate (.schedule (s.snapshot.payload now)) = .ok frame

theorem sendJson_ok {content : PyVal} (h : jsonDumps content = .ok ()) :
    sendJson content = .ok content :=
  check_bind_ok.mpr ⟨h, rfl⟩

theorem dumps_message (type : String) (payload : PyVal) :
    jsonDumps (message type payload) = .ok () ↔ jsonDumps payload = .ok () := by
  have htype : PlainItem (.str "type", .str type) := plainItem_str _ _
  rw [jsonDumps_ok_iff, jsonDumps_ok_iff, message, not_unencodable_dict, List.forall_mem_cons,
    and_iff_right htype, List.forall_mem_singleton, plainItem_iff]

theorem sendsSchedule_iff (s : Scheduler) :
    SendsSchedule s ↔ ∀ e ∈ s.entries, PlainEntry e.fields := by
  constructor
  · intro h
    exact (payload_plain_iff s "").mp ((jsonDumps_ok_iff _).mp (h.encodes ""))
  · intro h
    have hencodes : ∀ now, jsonDumps (s.snapshot.payload now) = .ok () := fun now =>
      (jsonDumps_ok_iff _).mpr ((payload_plain_iff s now).mpr h)
    have hmessage : ∀ now, jsonDumps (message "schedule" (s.snapshot.payload now)) = .ok () :=
      fun now => (dumps_message _ _).mpr (hencodes now)
    refine ⟨hencodes, ?_, ?_⟩
    · intro now fleet navsat hfleet hnavsat
      rw [connect, mapM_ok_iff]
      intro content hmem
      have hcontent : jsonDumps content = .ok () := by
        rcases List.mem_append.mp hmem with hmem | hmem
        · rcases List.mem_append.mp hmem with hmem | hmem
          · obtain ⟨payload, hpayload, rfl⟩ := Option.map_eq_some_iff.mp (Option.mem_toList.mp hmem)
            exact (dumps_message _ _).mpr (hfleet payload hpayload)
          · obtain rfl : content = message "schedule" (s.snapshot.payload now) := by
              simpa using hmem
            exact hmessage now
        · by_cases hempty : navsat.isEmpty = true
          · simp [hempty] at hmem
          · obtain rfl : content = message "navsat" (.list navsat) := by
              simpa [hempty] using hmem
            rw [dumps_message, jsonDumps]
            exact (dumpsElements_ok_iff navsat).mpr fun x hx =>
              (jsonDumps_ok_iff x).mp (hnavsat x hx)
      exact ⟨content, sendJson_ok hcontent⟩
    · intro now
      refine ⟨some (message "schedule" (s.snapshot.payload now)), ?_⟩
      rw [fleetUpdate, sendJson_ok (hmessage now)]
      rfl

/-- JSON has a text for what the runs of a file bring into the snapshot. -/
def PlainSchedule (file : Except PyExc PyVal) : Prop :=
  ∀ items runs, Scheduler.document? file = some items → Scheduler.runsOf items = .ok runs →
    ∀ fields, .dict fields ∈ runs → PlainEntry fields

theorem accepted_schedule_sent_iff {fromisoformat : String → Except PyExc DateTime}
    {s s' : Scheduler} (h : s.load fromisoformat = .ok s') :
    (∀ later : Scheduler, later.entries = s'.entries → SendsSchedule later) ↔
      PlainSchedule s.file := by
  obtain ⟨items, runs, hdoc, hruns, hentries⟩ := Scheduler.load_reads h
  have hplain : PlainSchedule s.file ↔ ∀ e ∈ s'.entries, PlainEntry e.fields := by
    constructor
    · intro hfile e he
      exact hfile items runs hdoc hruns e.fields (hentries ▸ List.mem_map_of_mem he)
    · intro hall items' runs' hdoc' hruns' fields hmem
      cases hdoc.symm.trans hdoc'
      cases hruns.symm.trans hruns'
      rw [← hentries] at hmem
      obtain ⟨e, he, heq⟩ := List.mem_map.mp hmem
      cases heq
      exact hall e he
  rw [hplain]
  constructor
  · intro hsends
    exact (sendsSchedule_iff s').mp (hsends s' rfl)
  · intro hall later hlater
    rw [sendsSchedule_iff, hlater]
    exact hall

/-- `datetime.fromisoformat`, where every string is ten in the morning, UTC. -/
def tenSharp (_ : String) : Except PyExc DateTime := .ok ⟨36000, some 0⟩

/-- A run whose start is written in quotes. -/
def quotedShuttle : PyVal :=
  .dict [(.str "id", .str "A"), (.str "start_time", .str "1970-01-01T10:00:00+00:00"),
    (.str "direction_id", .int 0)]

theorem quoted_schedule_sent : ∃ s',
    (Scheduler.start (Scheduler.scheduleOf [quotedShuttle])).load tenSharp = .ok s' ∧
      ∀ later : Scheduler, later.entries = s'.entries → SendsSchedule later := by
  have hload : ∃ s', (Scheduler.start (Scheduler.scheduleOf [quotedShuttle])).load tenSharp =
      .ok s' := ⟨_, rfl⟩
  obtain ⟨s', hs'⟩ := hload
  refine ⟨s', hs', (accepted_schedule_sent_iff hs').mpr ?_⟩
  intro items runs hdoc hruns fields hmem
  cases hdoc
  cases hruns
  cases List.mem_singleton.mp hmem
  intro p hp _
  rcases List.mem_cons.mp hp with rfl | hp
  · exact plainItem_str _ _
  rcases List.mem_cons.mp hp with rfl | hp
  · exact plainItem_str _ _
  · cases List.mem_singleton.mp hp
    exact plainItem_int _ _

/-- A shuttle's start is a `datetime`, as YAML reads a timestamp without quotes. -/
theorem unquoted_schedule_not_sent : ∃ s',
    (Scheduler.start (Scheduler.scheduleOf [Scheduler.shuttle "A" "unit-01"])).load
        Scheduler.noTimestamp = .ok s' ∧
      jsonDumps (s'.snapshot.payload "1970-01-01T09:00:00+00:00") =
        .error (.typeError "Object of type datetime is not JSON serializable") ∧
      connect "1970-01-01T09:00:00+00:00" none (some s') [] =
        .error (.typeError "Object of type datetime is not JSON serializable") := by
  refine ⟨_, rfl, rfl, rfl⟩

end DatabusSim
